import ItemPipeline.Exposition.Token
import ItemPipeline.Proofs.Digits
import Mathlib.Data.List.Basic
import Mathlib.Data.List.DropRight
import Mathlib.Tactic.Lemma

/-!
Names, quoted values and label blocks as they are written, with any blanks between their tokens, and what
the readers make of them.
-/

namespace ItemPipeline.Exposition

def IsName : List Char → Prop
  | [] => False
  | c :: r => (c.isAlpha ∨ c = '_' ∨ c = ':') ∧ ∀ d ∈ r, d.isAlphanum ∨ d = '_' ∨ d = ':'

-- Decided along the text: an instance that goes through every character there is would be found as well.
instance : DecidablePred IsName
  | [] => isFalse id
  | _ :: r => @instDecidableAnd _ _ inferInstance (List.decidableBAll _ r)

def escapeChar : Char → List Char
  | '\\' => ['\\', '\\']
  | '"' => ['\\', '"']
  | '\n' => ['\\', 'n']
  | c => [c]

def quoted (v : String) : List Char :=
  '"' :: (v.toList.flatMap escapeChar ++ ['"'])

def Blank (w : List Char) : Prop :=
  ∀ c ∈ w, Text.isBlank c = true

instance : DecidablePred Blank :=
  fun w => List.decidableBAll _ w

inductive Spaced : List (List Char) → List Char → Prop
  | nil : Spaced [] []
  | cons {w t s : List Char} {ts : List (List Char)} (blank : Blank w) (rest : Spaced ts s) :
      Spaced (t :: ts) (w ++ (t ++ s))

def LabelTest.tokens (l : LabelTest) : List (List Char) :=
  [l.label.toList, l.op.sign.toList, quoted l.value]

def blockTokens : List LabelTest → List (List Char)
  | [] => [['}']]
  | [l] => l.tokens ++ [['}']]
  | l :: m :: ls => l.tokens ++ [','] :: blockTokens (m :: ls)

variable {c : Char} {n r s t u v w : List Char} {l : LabelTest} {ls : List LabelTest}

lemma blank_nil : Blank [] := by
  simp [Blank]

lemma spaced_flatten (ts : List (List Char)) : Spaced ts ts.flatten := by
  induction ts with
  | nil => exact .nil
  | cons t ts ih => simpa using Spaced.cons blank_nil ih

lemma isUpper_iff : c.isUpper = true ↔ 65 ≤ c.toNat ∧ c.toNat ≤ 90 := by
  change decide ('A'.val ≤ c.val ∧ c.val ≤ 'Z'.val) = true ↔ _
  simp [UInt32.le_iff_toNat_le]

lemma isLower_iff : c.isLower = true ↔ 97 ≤ c.toNat ∧ c.toNat ≤ 122 := by
  change (decide (c.val ≥ 'a'.val) && decide (c.val ≤ 'z'.val)) = true ↔ _
  simp [UInt32.le_iff_toNat_le]

lemma isAlpha_eq (c : Char) : c.isAlpha = (c.isUpper || c.isLower) :=
  rfl

lemma isNameFirst_of_isName (h : IsName (c :: r)) : isNameFirst c = true := by
  obtain ⟨h | rfl | rfl, -⟩ := h
  · simp [isNameFirst, h]
  · rfl
  · rfl

lemma isNameChar_of_isName (h : IsName (c :: r)) : ∀ d ∈ r, isNameChar d = true := by
  intro d hd
  obtain h | rfl | rfl := h.2 d hd
  · have letter : d.isAlpha = true ∨ d.isDigit = true := by simpa [Char.isAlphanum] using h
    rcases letter with h | h
    · simp [isNameChar, isNameFirst, h]
    · simp [isNameChar, Text.isDigit_eq, h]
  · rfl
  · rfl

lemma isBlank_of_isNameChar (h : isNameChar c = true) : Text.isBlank c = false := by
  have code : c.toNat = 58 ∨ c.toNat = 95 ∨ 48 ≤ c.toNat ∧ c.toNat ≤ 57 ∨ 65 ≤ c.toNat ∧ c.toNat ≤ 90 ∨
      97 ≤ c.toNat ∧ c.toNat ≤ 122 := by
    simp only [isNameChar, isNameFirst, isAlpha_eq, isUpper_iff, isLower_iff, Text.isDigit, Bool.or_eq_true,
      beq_iff_eq, decide_eq_true_eq, Bool.and_eq_true] at h
    rcases h with ((rfl | rfl) | (h | h)) | h
    · simp
    · simp
    · exact .inr (.inr (.inr (.inl h)))
    · exact .inr (.inr (.inr (.inr h)))
    · exact .inr (.inr (.inl h))
  unfold Text.isBlank
  simp only [Bool.or_eq_false_iff, Bool.and_eq_false_iff, decide_eq_false_iff_not, beq_eq_false_iff_ne]
  omega

@[simp]
lemma skipBlanks_append (h : Blank w) (s : List Char) : skipBlanks (w ++ s) = skipBlanks s :=
  List.dropWhile_append_of_pos h

lemma skipBlanks_cons (h : Text.isBlank c = false) (s : List Char) : skipBlanks (c :: s) = c :: s :=
  List.dropWhile_cons_of_neg (by simp [h])

lemma skipBlanks_blank (h : Blank w) : skipBlanks w = [] := by
  rw [← List.append_nil w, skipBlanks_append h]
  rfl

lemma skipBlanks_skipBlanks (s : List Char) : skipBlanks (skipBlanks s) = skipBlanks s :=
  List.dropWhile_idempotent _ _

lemma skipBlanks_isName (h : IsName n) (s : List Char) : skipBlanks (n ++ s) = n ++ s := by
  cases n with
  | nil => exact h.elim
  | cons c r =>
    have first : isNameChar c = true := by simp [isNameChar, isNameFirst_of_isName h]
    exact skipBlanks_cons (isBlank_of_isNameChar first) _

lemma solid_of_isName (h : IsName n) : ∀ c ∈ n, Text.isBlank c = false := by
  cases n with
  | nil => exact h.elim
  | cons c r =>
    have first : isNameChar c = true := by simp [isNameChar, isNameFirst_of_isName h]
    exact List.forall_mem_cons.2 ⟨isBlank_of_isNameChar first, fun d hd =>
      isBlank_of_isNameChar (isNameChar_of_isName h d hd)⟩

lemma readName?_append (h : IsName n) (stop : ∀ c ∈ s.head?, isNameChar c = false) :
    readName? (n ++ s) = some (n, s) := by
  cases n with
  | nil => exact h.elim
  | cons c r =>
    have all := isNameChar_of_isName h
    have none_of_s : s.takeWhile isNameChar = [] ∧ s.dropWhile isNameChar = s := by
      cases s with
      | nil => exact ⟨rfl, rfl⟩
      | cons d s =>
        have hd : isNameChar d = false := stop d rfl
        simp [hd]
    simp only [List.cons_append, readName?, isNameFirst_of_isName h, if_true,
      List.takeWhile_append_of_pos all, List.dropWhile_append_of_pos all, none_of_s, List.append_nil]

lemma readToken_append (solid : ∀ c ∈ t, Text.isBlank c = false) (stop : ∀ c ∈ s.head?, Text.isBlank c = true) :
    readToken (t ++ s) = (t, s) := by
  have all : ∀ c ∈ t, (!Text.isBlank c) = true := by simpa using solid
  have none_of_s : (s.takeWhile fun c => !Text.isBlank c) = [] ∧ (s.dropWhile fun c => !Text.isBlank c) = s := by
    cases s with
    | nil => exact ⟨rfl, rfl⟩
    | cons d s =>
      have hd : Text.isBlank d = true := stop d rfl
      simp [hd]
  simp only [readToken, List.takeWhile_append_of_pos all, List.dropWhile_append_of_pos all, none_of_s,
    List.append_nil]

lemma readQuotedTail_escapeChar (c : Char) (s : List Char) :
    readQuotedTail (escapeChar c ++ s) = (readQuotedTail s).map fun p => (c :: p.1, p.2) := by
  unfold escapeChar
  split
  · simp only [List.cons_append, List.nil_append, readQuotedTail]
    rfl
  · simp only [List.cons_append, List.nil_append, readQuotedTail]
    rfl
  · simp only [List.cons_append, List.nil_append, readQuotedTail]
    rfl
  · rename_i backslash quote _
    rw [List.singleton_append, readQuotedTail]
    · rfl
    · exact quote
    · exact fun h => (backslash h).elim
    · exact fun _ _ h => (backslash h).elim

lemma readQuotedTail_escaped (v s : List Char) :
    readQuotedTail (v.flatMap escapeChar ++ '"' :: s) = .ok (v, s) := by
  induction v with
  | nil => rfl
  | cons c v ih =>
    rw [List.flatMap_cons, List.append_assoc, readQuotedTail_escapeChar, ih]
    rfl

lemma readQuoted_quoted (v : String) (s : List Char) : readQuoted (quoted v ++ s) = .ok (v.toList, s) := by
  simp [quoted, readQuoted, readQuotedTail_escaped]

lemma readOp?_sign (op : LabelOp) (plain : s.head? ≠ some '~') : readOp? (op.sign.toList ++ s) = some (op, s) := by
  cases op with
  | equal =>
    cases s with
    | nil => rfl
    | cons c s =>
      have hc : c ≠ '~' := by simpa using plain
      simp [LabelOp.sign, readOp?, hc]
  | notEqual => rfl
  | like => rfl
  | unlike => rfl

lemma head?_append_of_blank {P : Char → Prop} (h : Blank w) (blank : ∀ c, Text.isBlank c = true → P c)
    (next : ∀ c ∈ s.head?, P c) : ∀ c ∈ (w ++ s).head?, P c := by
  cases w with
  | nil => exact next
  | cons d w =>
    rintro c ⟨⟩
    exact blank d (h d List.mem_cons_self)

lemma isNameChar_of_isBlank (h : Text.isBlank c = true) : isNameChar c = false := by
  by_contra name
  have := isBlank_of_isNameChar (by simpa using name)
  simp [h] at this

lemma isNameChar_sign (op : LabelOp) (s : List Char) : ∀ c ∈ (op.sign.toList ++ s).head?, isNameChar c = false := by
  cases op <;> rintro c ⟨⟩ <;> rfl

lemma skipBlanks_sign (op : LabelOp) (s : List Char) : skipBlanks (op.sign.toList ++ s) = op.sign.toList ++ s := by
  cases op <;> rfl

lemma readLabel_append (name : IsName l.label.toList) (hu : Blank u) (hv : Blank v) (s : List Char) :
    readLabel (l.label.toList ++ (u ++ (l.op.sign.toList ++ (v ++ (quoted l.value ++ s))))) = .ok (l, s) := by
  have stop : ∀ c ∈ (u ++ (l.op.sign.toList ++ (v ++ (quoted l.value ++ s)))).head?, isNameChar c = false :=
    head?_append_of_blank hu (fun _ => isNameChar_of_isBlank) (isNameChar_sign _ _)
  have plain : (v ++ (quoted l.value ++ s)).head? ≠ some '~' := by
    have : ∀ c ∈ (v ++ (quoted l.value ++ s)).head?, c ≠ '~' :=
      head?_append_of_blank hv (fun c hc h => by simp [h] at hc; revert hc; decide) (by rintro c ⟨⟩; decide)
    exact fun h => this _ h rfl
  have quote : skipBlanks (quoted l.value ++ s) = quoted l.value ++ s := rfl
  simp only [readLabel, readName?_append name stop, skipBlanks_append hu, skipBlanks_sign, readOp?_sign _ plain,
    skipBlanks_append hv, quote, readQuoted_quoted]
  simp [bind, Except.bind]

lemma head_ne_of_isName (h : IsName n) (s : List Char) : ∀ r, n ++ s ≠ '}' :: r := by
  cases n with
  | nil => exact h.elim
  | cons c n =>
    intro r hr
    have hc : c = '}' := (List.cons.inj hr).1
    subst hc
    exact absurd (isNameFirst_of_isName h) (by decide)

lemma readLabels_label (name : IsName l.label.toList) (h : Spaced l.tokens w) (s : List Char) (fuel : Nat) :
    readLabels (w ++ s) (fuel + 1) = match skipBlanks s with
      | ',' :: r => (readLabels r fuel).map fun p => (l :: p.1, p.2)
      | '}' :: r => .ok ([l], r)
      | _ => .error .separator := by
  obtain - | ⟨ht, - | ⟨hu, - | ⟨hv, ⟨⟩⟩⟩⟩ := h
  rename_i t u v
  have start : skipBlanks (t ++ (l.label.toList ++ (u ++ (l.op.sign.toList ++ (v ++ (quoted l.value ++ []))))) ++ s) =
      l.label.toList ++ (u ++ (l.op.sign.toList ++ (v ++ (quoted l.value ++ s)))) := by
    simp only [List.append_assoc, List.nil_append, skipBlanks_append ht, skipBlanks_isName name]
  rw [readLabels, start]
  split
  · rename_i brace
    exact absurd brace (head_ne_of_isName name _ _)
  · rw [readLabel_append name hu hv]
    simp only [bind, Except.bind]
    cases skipBlanks s with
    | nil => rfl
    | cons c r =>
      by_cases comma : c = ','
      · subst comma
        rfl
      · by_cases brace : c = '\x7d'
        · subst brace
          rfl
        · simp [comma, brace]

lemma Spaced.of_append {ts ts' : List (List Char)} (h : Spaced (ts ++ ts') w) :
    ∃ u v, w = u ++ v ∧ Spaced ts u ∧ Spaced ts' v := by
  induction ts generalizing w with
  | nil => exact ⟨[], w, rfl, .nil, h⟩
  | cons t ts ih =>
    obtain - | ⟨blank, rest⟩ := h
    obtain ⟨u, v, rfl, hu, hv⟩ := ih rest
    exact ⟨_, v, by simp only [List.append_assoc], .cons blank hu, hv⟩

lemma Spaced.skipBlanks_cons {ts : List (List Char)} (h : Spaced ((c :: t) :: ts) w)
    (solid : Text.isBlank c = false) (s : List Char) :
    ∃ v, skipBlanks (w ++ s) = c :: (t ++ (v ++ s)) ∧ Spaced ts v := by
  obtain - | ⟨blank, rest⟩ := h
  rename_i b v
  refine ⟨v, ?_, rest⟩
  simp only [List.append_assoc, skipBlanks_append blank, List.cons_append]
  exact Exposition.skipBlanks_cons solid _

lemma readLabels_spaced (names : ∀ l ∈ ls, IsName l.label.toList) (h : Spaced (blockTokens ls) w) (s : List Char)
    {fuel : Nat} (enough : ls.length < fuel) : readLabels (w ++ s) fuel = .ok (ls, s) := by
  obtain ⟨fuel, rfl⟩ : ∃ k, fuel = k + 1 := ⟨fuel - 1, by omega⟩
  induction ls using blockTokens.induct generalizing w fuel with
  | case1 =>
    obtain ⟨v, skip, ⟨⟩⟩ := h.skipBlanks_cons (by decide) s
    rw [readLabels, skip]
    rfl
  | case2 l =>
    obtain ⟨u, v, rfl, label, rest⟩ := h.of_append
    obtain ⟨v', skip, ⟨⟩⟩ := rest.skipBlanks_cons (by decide) s
    rw [List.append_assoc, readLabels_label (names l (by simp)) label, skip]
    rfl
  | case3 l m ls ih =>
    obtain ⟨u, v, rfl, label, rest⟩ := h.of_append
    obtain ⟨v', skip, more⟩ := rest.skipBlanks_cons (by decide) s
    rw [List.append_assoc, readLabels_label (names l (by simp)) label, skip]
    simp only [List.nil_append]
    simp only [List.length_cons] at enough ih
    obtain ⟨k, rfl⟩ : ∃ k, fuel = k + 1 := ⟨fuel - 1, by omega⟩
    rw [ih (fun l hl => names l (List.mem_cons_of_mem _ hl)) more k (by omega)]
    rfl

lemma length_pos_of_tokens (h : Spaced l.tokens w) : 0 < w.length := by
  obtain - | ⟨-, - | ⟨-, - | ⟨-, -⟩⟩⟩ := h
  simp only [quoted, List.length_append, List.length_cons]
  omega

lemma length_lt_of_spaced (h : Spaced (blockTokens ls) w) : ls.length < w.length := by
  induction ls using blockTokens.induct generalizing w with
  | case1 =>
    obtain - | ⟨-, -⟩ := h
    simp only [List.length_append, List.length_cons]
    omega
  | case2 l =>
    obtain ⟨u, v, rfl, label, - | ⟨-, -⟩⟩ := h.of_append
    have := length_pos_of_tokens label
    simp only [List.length_append, List.length_cons, List.length_nil]
    omega
  | case3 l m ls ih =>
    obtain ⟨u, v, rfl, label, - | ⟨-, rest⟩⟩ := h.of_append
    have := length_pos_of_tokens label
    have := ih rest
    simp only [List.length_append, List.length_cons] at *
    omega

lemma ne_nil_of_isName (h : IsName n) : n ≠ [] := by
  rintro rfl
  exact h

lemma readBlock_spaced (names : ∀ l ∈ ls, IsName l.label.toList) (h : Spaced (blockTokens ls) w) (s : List Char) :
    readBlock ('{' :: (w ++ s)) = .ok (ls, s) := by
  have enough := length_lt_of_spaced h
  exact readLabels_spaced names h s (by simp only [List.length_append]; omega)

lemma readBlock_of_none (h : s.head? ≠ some '{') : readBlock s = .ok ([], s) := by
  unfold readBlock
  split
  · exact absurd rfl h
  · rfl

end ItemPipeline.Exposition
