import ItemPipeline.Proofs.Text
import ItemPipeline.Step.Run

/-!
Replacement in texts. Any two texts can be written as the search text and the replacement of a step, and the step then
replaces the occurrences of the first one from the left, each behind the one before it, and nothing else.
-/

namespace ItemPipeline

namespace Text

/-- In `r` every occurrence of `x` in `s` is replaced by `y`, where of occurrences that overlap the first one counts. -/
inductive Replaced (x y : List Char) : List Char → List Char → Prop
  | rest {s : List Char} (absent : ¬ x <:+: s) : Replaced x y s s
  | next {a s r : List Char} (first : ∀ b c, a ++ (x ++ s) = b ++ (x ++ c) → a.length ≤ b.length)
      (tail : Replaced x y s r) : Replaced x y (a ++ (x ++ s)) (a ++ (y ++ r))

variable {c : Char} {x y s r r' : List Char} {fuel : ℕ}

lemma infix_of_eq {a b : List Char} (h : s = a ++ (x ++ b)) : x <:+: s :=
  ⟨a, b, by rw [h, List.append_assoc]⟩

namespace Replaced

lemma unique (h : Replaced x y s r) (h' : Replaced x y s r') : r = r' := by
  induction h generalizing r' with
  | rest absent =>
    cases h' with
    | rest _ => rfl
    | next _ _ => exact absurd (infix_of_eq rfl) absent
  | @next a s r first _ ih =>
    generalize whole : a ++ (x ++ s) = w at h'
    cases h' with
    | rest absent => exact absurd (infix_of_eq whole.symm) absent
    | @next a' s' r' first' tail' =>
      have same : a.length = a'.length := Nat.le_antisymm (first a' s' whole) (first' a s whole.symm)
      obtain ⟨rfl, rest⟩ := List.append_inj whole same
      obtain rfl := List.append_cancel_left rest
      rw [ih tail']

lemma cons (absent : ¬ x <+: c :: s) (h : Replaced x y s r) : Replaced x y (c :: s) (c :: r) := by
  cases h with
  | rest none =>
    apply Replaced.rest
    rw [List.infix_cons_iff]
    exact not_or.2 ⟨absent, none⟩
  | @next a s r first tail =>
    refine Replaced.next (a := c :: a) ?_ tail
    intro b d eq
    cases b with
    | nil => exact absurd ⟨d, eq.symm⟩ absent
    | cons e b => exact Nat.succ_le_succ (first b d (List.cons.inj eq).2)

end Replaced

lemma replaced_go (filled : x ≠ []) (enough : s.length ≤ fuel) : Replaced x y s (replaceAll.go x y s fuel) := by
  induction fuel generalizing s with
  | zero =>
    obtain rfl := List.length_eq_zero_iff.1 (Nat.le_zero.1 enough)
    exact .rest fun found => filled (List.eq_nil_of_infix_nil found)
  | succ fuel ih =>
    cases here : dropPrefix? x s with
    | some r =>
      simp only [replaceAll.go, here]
      obtain rfl := dropPrefix?_eq_some_iff.1 here
      have shorter : r.length ≤ fuel := by
        have := List.length_pos_iff.2 filled
        rw [List.length_append] at enough
        omega
      exact .next (a := []) (fun b c _ => Nat.zero_le _) (ih shorter)
    | none =>
      have absent : ¬ x <+: s := by
        rintro ⟨r, rfl⟩
        simp [dropPrefix?_eq_some_iff.2 rfl] at here
      simp only [replaceAll.go, here]
      cases s with
      | nil => exact .rest fun found => filled (List.eq_nil_of_infix_nil found)
      | cons c s => exact .cons absent (ih (Nat.le_of_succ_le_succ enough))

lemma replaced_iff (filled : x ≠ []) : Replaced x y s r ↔ r = replaceAll x y s := by
  have replaced : Replaced x y s (replaceAll x y s) := by
    rw [replaceAll, if_neg filled]
    exact replaced_go filled le_rfl
  exact ⟨fun h => h.unique replaced, fun h => h ▸ replaced⟩

end Text

namespace Step

open Text

def escapeChar : Char → List Char
  | '\\' => ['\\', '\\']
  | '\n' => ['\\', 'n']
  | '\r' => ['\\', 'r']
  | '\t' => ['\\', 't']
  | c => [c]

def escape (s : List Char) : List Char :=
  s.flatMap escapeChar

variable {s : List Char}

lemma unescape_cons {c : Char} (plain : c ≠ '\\') (s : List Char) : unescape (c :: s) = c :: unescape s := by
  rw [unescape]
  all_goals simp [plain]

lemma unescape_escapeChar (c : Char) (s : List Char) : unescape (escapeChar c ++ s) = c :: unescape s := by
  unfold escapeChar
  split
  · rfl
  · rfl
  · rfl
  · rfl
  · rename_i plain _ _ _
    exact unescape_cons plain s

lemma unescape_escape (s : List Char) : unescape (escape s) = s := by
  induction s with
  | nil => rfl
  | cons c s ih =>
    rw [escape, List.flatMap_cons, unescape_escapeChar]
    exact congrArg _ ih

lemma not_mem_escape (s : List Char) : '\n' ∉ escape s := by
  intro h
  obtain ⟨c, -, hc⟩ := List.mem_flatMap.1 h
  unfold escapeChar at hc
  split at hc
  · simp at hc
  · simp at hc
  · simp at hc
  · simp at hc
  · rename_i newline _ _
    exact newline (List.mem_singleton.1 hc).symm

lemma replace_escaped {params x y text : String} {v : Value} (filled : x ≠ "")
    (written : params.toList = escape x.toList ++ '\n' :: escape y.toList) (isText : v.toText = .ok text) :
    replace params v = .ok (.text (String.ofList (replaceAll x.toList y.toList text.toList))) := by
  have cut : twoLines params.toList = (escape x.toList, escape y.toList) := by
    rw [written]
    exact (InTwo.two (not_mem_escape _)).twoLines_eq
  have search : x.toList ≠ [] := by simpa using filled
  simp only [replace, cut, unescape_escape, if_neg search, isText]

/-- Whatever is searched for and put in its place, backslashes and line ends among it, can be written so that the step
replaces it in every value that has a text. -/
theorem run_replace (c : Context) (cache : Option Cache) (t : ValueType) (now : Timestamp) (m : Option Memory) :
    (∀ l, unescape (escape l) = l) ∧
    ∀ (s : Step) (x y text : String) (v : Value), s.kind = .strReplace → x ≠ "" →
      s.params.toList = escape x.toList ++ '\n' :: escape y.toList → v.toText = .ok text →
      ∃ r : String, s.run c cache t now m v = ⟨.ok (.text r), m, c⟩ ∧
        ∀ l, Replaced x.toList y.toList text.toList l ↔ l = r.toList := by
  refine ⟨unescape_escape, ?_⟩
  intro s x y text v kind filled written isText
  have search : x.toList ≠ [] := by simpa using filled
  refine ⟨String.ofList (replaceAll x.toList y.toList text.toList), ?_, ?_⟩
  · simp only [run, kind, StepKind.hasHistory, apply, replace_escaped filled written isText]
    rfl
  · intro l
    rw [String.toList_ofList]
    exact replaced_iff search

theorem run_replace_of_backslashes :
    ∃ (s : Step) (x y : String), s.kind = .strReplace ∧ x = "\\n\\" ∧ y = "\n\\n\\" ∧
      s.params = "\\\\n\\\\\n\\n\\\\n\\\\" ∧
      s.params.toList = escape x.toList ++ '\n' :: escape y.toList ∧
      s.run {} none .text ⟨0⟩ none (.text "\\n\\n\\n\\") = ⟨.ok (.text "\n\\n\\n\n\\n\\"), none, {}⟩ ∧
      Replaced x.toList y.toList "\\n\\n\\n\\".toList "\n\\n\\n\n\\n\\".toList ∧
      s.run {} none .text ⟨0⟩ none (.uint64 18) = ⟨.ok (.text "18"), none, {}⟩ ∧
      Replaced x.toList y.toList "18".toList "18".toList := by
  obtain ⟨s, kind, params, made, made'⟩ : ∃ s : Step, s.kind = .strReplace ∧
      s.params = "\\\\n\\\\\n\\n\\\\n\\\\" ∧
      (s.run {} none .text ⟨0⟩ none (.text "\\n\\n\\n\\")).value = .ok (.text "\n\\n\\n\n\\n\\") ∧
      (s.run {} none .text ⟨0⟩ none (.uint64 18)).value = .ok (.text "18") :=
    ⟨{ kind := .strReplace, params := "\\\\n\\\\\n\\n\\\\n\\\\" }, rfl, rfl, rfl, rfl⟩
  have written : s.params.toList = escape "\\n\\".toList ++ '\n' :: escape "\n\\n\\".toList := by
    rw [params]
    decide
  have filled : "\\n\\" ≠ "" := by decide
  obtain ⟨-, replaces⟩ := run_replace {} none .text ⟨0⟩ none
  obtain ⟨r, run, iff⟩ := replaces s _ _ _ (.text "\\n\\n\\n\\") kind filled written rfl
  obtain ⟨r', run', iff'⟩ := replaces s _ _ _ (.uint64 18) kind filled written rfl
  rw [run, Except.ok.injEq, Value.text.injEq] at made
  rw [run', Except.ok.injEq, Value.text.injEq] at made'
  subst made made'
  exact ⟨s, _, _, kind, rfl, rfl, params, written, run, (iff _).2 rfl, run', (iff' _).2 rfl⟩

end Step

end ItemPipeline
