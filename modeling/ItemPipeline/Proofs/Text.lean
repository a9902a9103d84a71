import ItemPipeline.Text.Blank
import ItemPipeline.Text.Cut
import Mathlib.Data.List.Basic
import Mathlib.Data.List.DropRight
import Mathlib.Tactic.Lemma

/-!
Texts that are cut: in two at a separator, behind a text that they begin with, into lines, and at their ends.
-/

namespace ItemPipeline.Text

variable {c : Char} {l r s u v x : List Char} {ls : List (List Char)} {p : Char → Bool}

section Separator

lemma cutAt_append (sep : Char) (before : sep ∉ l) (r : List Char) : cutAt sep (l ++ sep :: r) = some (l, r) := by
  induction l with
  | nil => simp [cutAt]
  | cons c l ih =>
    rw [List.mem_cons, not_or] at before
    simp [cutAt, Ne.symm before.1, ih before.2]

lemma cutAt_eq_none (sep : Char) (none : sep ∉ l) : cutAt sep l = Option.none := by
  induction l with
  | nil => rfl
  | cons c l ih =>
    rw [List.mem_cons, not_or] at none
    simp [cutAt, Ne.symm none.1, ih none.2]

inductive InTwo : List Char → List Char → List Char → Prop
  | one {l : List Char} (whole : '\n' ∉ l) : InTwo l l []
  | two {l r : List Char} (whole : '\n' ∉ l) : InTwo (l ++ '\n' :: r) l r

lemma InTwo.twoLines_eq {s : List Char} (lines : InTwo s l r) : twoLines s = (l, r) := by
  cases lines with
  | one whole => simp [twoLines, cutAt_eq_none '\n' whole]
  | two whole => simp [twoLines, cutAt_append '\n' whole r]

lemma dropPrefix?_eq_some_iff : dropPrefix? x s = some r ↔ s = x ++ r := by
  induction x generalizing s with
  | nil => simp [dropPrefix?]
  | cons c x ih =>
    cases s with
    | nil => simp [dropPrefix?]
    | cons d s =>
      rw [dropPrefix?, List.cons_append, List.cons.injEq]
      split_ifs with same
      · rw [ih, eq_comm (a := d), and_iff_right same]
      · exact iff_of_false nofun fun h => same h.1.symm

end Separator

section Lines

lemma splitOn_ne_nil (c : Char) (s : List Char) : splitOn c s ≠ [] := by
  cases s with
  | nil => simp [splitOn]
  | cons d s =>
    rw [splitOn]
    split_ifs
    · simp
    · split <;> simp

lemma splitOn_join (c : Char) (s t : List Char) : splitOn c (s ++ c :: t) = splitOn c s ++ splitOn c t := by
  induction s with
  | nil => simp [splitOn]
  | cons d s ih =>
    rw [List.cons_append, splitOn, splitOn, ih]
    split_ifs
    · rfl
    · cases parts : splitOn c s with
      | nil => exact absurd parts (splitOn_ne_nil c s)
      | cons l ls => rfl

lemma length_splitOn (c : Char) (s : List Char) : (splitOn c s).length = s.count c + 1 := by
  induction s with
  | nil => rfl
  | cons d s ih =>
    by_cases same : d = c
    · rw [splitOn, if_pos same, List.length_cons, ih, same, List.count_cons_self]
    · rw [splitOn, if_neg same, List.count_cons_of_ne same, ← ih]
      cases parts : splitOn c s with
      | nil => exact absurd parts (splitOn_ne_nil c s)
      | cons l ls => rfl

lemma splitOn_of_not_mem (h : c ∉ l) : splitOn c l = [l] := by
  induction l with
  | nil => rfl
  | cons d l ih =>
    obtain ⟨hd, hl⟩ : c ≠ d ∧ c ∉ l := by simpa using h
    rw [splitOn, if_neg (Ne.symm hd), ih hl]

lemma splitOn_append (h : c ∉ l) (s : List Char) : splitOn c (l ++ c :: s) = l :: splitOn c s := by
  rw [splitOn_join, splitOn_of_not_mem h, List.singleton_append]

def IsLine (l : List Char) : Prop :=
  '\n' ∉ l ∧ l.getLast? ≠ some '\r'

lemma dropReturn_of_isLine (h : IsLine l) : dropReturn l = l := by
  unfold dropReturn
  split
  · rename_i r hr
    refine absurd ?_ h.2
    rw [← List.head?_reverse, hr]
    rfl
  · rfl

lemma splitOn_terminated (h : ∀ l ∈ ls, IsLine l) :
    splitOn '\n' (ls.flatMap (· ++ ['\n'])) = ls ++ [[]] := by
  induction ls with
  | nil => rfl
  | cons l ls ih =>
    obtain ⟨hl, hls⟩ := List.forall_mem_cons.1 h
    rw [List.flatMap_cons, List.append_assoc, List.singleton_append, splitOn_append hl.1, ih hls]
    rfl

lemma ended_cons (l : List Char) (ne : ls ≠ []) : lines.ended (l :: ls) = dropReturn l :: lines.ended ls := by
  obtain ⟨m, ls, rfl⟩ := List.exists_cons_of_ne_nil ne
  rfl

lemma lines_terminated (h : ∀ l ∈ ls, IsLine l) : lines (ls.flatMap (· ++ ['\n'])) = ls := by
  rw [lines, splitOn_terminated h]
  induction ls with
  | nil => rfl
  | cons l ls ih =>
    obtain ⟨hl, hls⟩ := List.forall_mem_cons.1 h
    rw [List.cons_append, ended_cons l (by simp), dropReturn_of_isLine hl, ih hls]

lemma splitOn_separated (h : ∀ l ∈ ls, IsLine l) (ne : ls ≠ []) : splitOn '\n' (['\n'].intercalate ls) = ls := by
  induction ls with
  | nil => exact absurd rfl ne
  | cons l ls ih =>
    obtain ⟨hl, hls⟩ := List.forall_mem_cons.1 h
    cases ls with
    | nil => simpa [List.intercalate_singleton] using splitOn_of_not_mem hl.1
    | cons m ls =>
      rw [List.intercalate_cons_cons, List.append_assoc, List.singleton_append, splitOn_append hl.1,
        ih hls (List.cons_ne_nil _ _)]

lemma lines_separated (h : ∀ l ∈ ls, IsLine l) (ne : ∀ l ∈ ls, l ≠ []) : lines (['\n'].intercalate ls) = ls := by
  by_cases empty : ls = []
  · subst empty
    rfl
  rw [lines, splitOn_separated h empty]
  induction ls with
  | nil => rfl
  | cons l ls ih =>
    obtain ⟨hl, hls⟩ := List.forall_mem_cons.1 h
    obtain ⟨hn, hns⟩ := List.forall_mem_cons.1 ne
    cases ls with
    | nil => rw [lines.ended, if_neg hn]
    | cons m ls =>
      rw [ended_cons l (List.cons_ne_nil _ _), dropReturn_of_isLine hl, ih hls hns (List.cons_ne_nil _ _)]

end Lines

section Ends

lemma trimStart_append (h : ∀ c ∈ u, p c = true) (s : List Char) : trimStart p (u ++ s) = trimStart p s :=
  List.dropWhile_append_of_pos h

lemma trimEnd_append (h : ∀ c ∈ v, p c = true) (s : List Char) : trimEnd p (s ++ v) = trimEnd p s := by
  have back : ∀ c ∈ v.reverse, p c = true := by simpa using h
  simp only [trimEnd, List.reverse_append, List.dropWhile_append_of_pos back]

lemma trimStart_of_head (h : ∀ c ∈ s.head?, p c = false) : trimStart p s = s := by
  cases s with
  | nil => rfl
  | cons c s => exact List.dropWhile_cons_of_neg (by simp [h c rfl])

lemma trimEnd_of_last (h : ∀ c ∈ s.getLast?, p c = false) : trimEnd p s = s := by
  have back : ∀ c ∈ s.reverse.head?, p c = false := by simpa using h
  have := trimStart_of_head back
  simp only [trimStart] at this
  simp only [trimEnd, this, List.reverse_reverse]

lemma trim_around (hu : ∀ c ∈ u, p c = true) (hv : ∀ c ∈ v, p c = true) (first : ∀ c ∈ s.head?, p c = false)
    (last : ∀ c ∈ s.getLast?, p c = false) : trim p (u ++ (s ++ v)) = s := by
  rw [trim, trimStart_append hu]
  cases s with
  | nil =>
    have none : trimStart p v = [] := by simpa [trimStart] using trimStart_append hv []
    rw [List.nil_append, none]
    rfl
  | cons c s => rw [trimStart_of_head (s := c :: s ++ v) first, trimEnd_append hv, trimEnd_of_last last]

lemma trimBlanks_around (hu : ∀ c ∈ u, isBlank c = true) (hv : ∀ c ∈ v, isBlank c = true)
    (first : ∀ c ∈ s.head?, isBlank c = false) (last : ∀ c ∈ s.getLast?, isBlank c = false) :
    trimBlanks (u ++ (s ++ v)) = s :=
  trim_around hu hv first last

lemma exists_trimStart (p : Char → Bool) (s : List Char) : ∃ u, s = u ++ trimStart p s ∧ (∀ c ∈ u, p c = true) ∧
    ∀ c ∈ (trimStart p s).head?, p c = false := by
  refine ⟨s.takeWhile p, List.takeWhile_append_dropWhile.symm, fun c hc => List.mem_takeWhile_imp hc, ?_⟩
  intro c hc
  have first := List.head?_dropWhile_not p s
  rwa [show (s.dropWhile p).head? = some c from hc] at first

lemma exists_trimEnd (p : Char → Bool) (s : List Char) : ∃ v, s = trimEnd p s ++ v ∧ (∀ c ∈ v, p c = true) ∧
    ∀ c ∈ (trimEnd p s).getLast?, p c = false := by
  obtain ⟨v, split, all, first⟩ := exists_trimStart p s.reverse
  refine ⟨v.reverse, ?_, fun c hc => all c (List.mem_reverse.1 hc), ?_⟩
  · rw [trimEnd, ← List.reverse_append, ← List.reverse_inj, List.reverse_reverse]
    exact split
  · intro c hc
    rw [trimEnd, List.getLast?_reverse] at hc
    exact first c hc

lemma exists_trim (p : Char → Bool) (s : List Char) : ∃ u v, s = u ++ (trim p s ++ v) ∧ (∀ c ∈ u, p c = true) ∧
    (∀ c ∈ v, p c = true) ∧ (∀ c ∈ (trim p s).head?, p c = false) ∧ ∀ c ∈ (trim p s).getLast?, p c = false := by
  obtain ⟨u, split, hu, first⟩ := exists_trimStart p s
  obtain ⟨v, split', hv, last⟩ := exists_trimEnd p (trimStart p s)
  rw [split'] at split first
  refine ⟨u, v, split, hu, hv, ?_, last⟩
  intro c hc
  exact first c (by rw [List.head?_append, show (trimEnd p (trimStart p s)).head? = some c from hc]; rfl)

lemma trim_trim (p : Char → Bool) (s : List Char) : trim p (trim p s) = trim p s := by
  obtain ⟨_, _, -, -, -, first, last⟩ := exists_trim p s
  simpa using trim_around (u := []) (v := []) (by simp) (by simp) first last

lemma trimBlanks_trimBlanks (s : List Char) : trimBlanks (trimBlanks s) = trimBlanks s :=
  trim_trim isBlank s

lemma trimStart_trimEnd (p : Char → Bool) (s : List Char) : trimStart p (trimEnd p s) = trim p s := by
  obtain ⟨v, split, hv, last⟩ := exists_trimEnd p s
  obtain ⟨u, split', hu, first⟩ := exists_trimStart p (trimEnd p s)
  generalize trimStart p (trimEnd p s) = r at split' first ⊢
  rw [split'] at split last
  have last : ∀ c ∈ r.getLast?, p c = false := by
    intro c hc
    exact last c (by rw [List.getLast?_append, show r.getLast? = some c from hc]; rfl)
  rw [split, List.append_assoc, trim_around hu hv first last]

lemma trimBlanks_append (h : ∀ c ∈ v, isBlank c = true) (s : List Char) : trimBlanks (s ++ v) = trimBlanks s := by
  rw [trimBlanks, ← trimStart_trimEnd, trimEnd_append h, trimStart_trimEnd, trimBlanks]

end Ends

end ItemPipeline.Text
