import ItemPipeline.Proofs.JsonPath.Grammar

/-!
Paths that select one node at most: the search for signs of a selector outside quotes finds one exactly if
the path as it is read has a segment that is no single name or index.
-/

namespace ItemPipeline.JsonPath

open Reader

def Selector.isSingle : Selector → Bool
  | .name _ => true
  | .index _ => true
  | _ => false

def Query.Singular (q : Query) : Prop :=
  ∀ g ∈ q.segments, (∃ n, g = .child [.name n]) ∨ ∃ i, g = .child [.index i]

def isPlain (c : Char) : Bool :=
  c ≠ '\'' && c ≠ '"' && c ≠ '*' && c ≠ '?' && c ≠ ',' && c ≠ ':' && c ≠ '.'

variable {c q : Char} {s t w : List Char}

section Search

lemma isDefinite_plain (h : isPlain c = true) : isDefinite none (c :: s) = isDefinite none s := by
  simp only [isPlain, Bool.and_eq_true, decide_eq_true_eq] at h
  rw [isDefinite]
  simp [h]

lemma isDefinite_append (h : ∀ c ∈ w, isPlain c = true) : isDefinite none (w ++ s) = isDefinite none s := by
  induction w with
  | nil => rfl
  | cons c w ih =>
    rw [List.forall_mem_cons] at h
    rw [List.cons_append, isDefinite_plain h.1, ih h.2]

lemma isDefinite_sign (h : c = '*' ∨ c = '?' ∨ c = ',' ∨ c = ':') : isDefinite none (c :: s) = false := by
  obtain rfl | rfl | rfl | rfl := h <;> simp [isDefinite]

lemma isDefinite_quote (h : q = '\'' ∨ q = '"') : isDefinite none (q :: s) = isDefinite (some q) s := by
  simp [isDefinite, h]

lemma isDefinite_quoted (h : c ≠ '\\') :
    isDefinite (some q) (c :: s) = isDefinite (if c = q then none else some q) s := by
  rw [isDefinite]
  · simp [h]
  · simp [h]

lemma isPlain_of_isNameChar (h : isNameChar c = true) : isPlain c = true := by
  by_contra special
  simp only [isPlain, Bool.and_eq_true, decide_eq_true_eq, not_and_or, not_not] at special
  rcases special with (((((rfl | rfl) | rfl) | rfl) | rfl) | rfl) | rfl <;> exact absurd h (by decide)

lemma isPlain_of_isSpace (h : isSpace c = true) : isPlain c = true := by
  simp only [isSpace, Bool.or_eq_true, beq_iff_eq] at h
  obtain ((rfl | rfl) | rfl) | rfl := h <;> rfl

lemma isPlain_of_number (h : c = '-' ∨ Text.isDigit c = true) : isPlain c = true := by
  rcases h with rfl | digit
  · rfl
  · exact isPlain_of_isNameChar (by simp [isNameChar, digit])

lemma isDefinite_skipSpace (s : List Char) : isDefinite none (s.dropWhile isSpace) = isDefinite none s := by
  obtain ⟨w, blanks, split⟩ := exists_takeWhile isSpace s
  conv_rhs => rw [split]
  exact (isDefinite_append fun c hc => isPlain_of_isSpace (blanks c hc)).symm

end Search

section Path

lemma Quoted.isDefinite_eq (h : Quoted q s t) (quote : q = '\'' ∨ q = '"') :
    isDefinite (some q) s = isDefinite none t := by
  induction h with
  | close =>
    have slash : q ≠ '\\' := by obtain rfl | rfl := quote <;> decide
    rw [isDefinite_quoted slash, if_pos rfl]
  | char other plain _ ih => rw [isDefinite_quoted plain, if_neg other, ih]
  | escape _ ih => exact ih

lemma Selects.isDefinite_eq {a : Selector} (h : Selects s a t) :
    isDefinite none s = (a.isSingle && isDefinite none t) := by
  cases h with
  | name quote text => exact (isDefinite_quote quote).trans (text.isDefinite_eq quote)
  | index number => exact isDefinite_append fun c hc => isPlain_of_number (number c hc)
  | slice number =>
    rw [isDefinite_append, isDefinite_sign (.inr (.inr (.inr rfl)))]
    · rfl
    · intro c hc
      rcases number c hc with sign | digit | blank
      · exact isPlain_of_number (.inl sign)
      · exact isPlain_of_number (.inr digit)
      · exact isPlain_of_isSpace blank
  | wildcard => exact isDefinite_sign (.inl rfl)
  | filter => exact isDefinite_sign (.inr (.inl rfl))

lemma isSingular_child (a : Selector) (l : List Selector) :
    (Segment.child (a :: l)).isSingular = (a.isSingle && l.isEmpty) := by
  cases l with
  | nil => cases a <;> rfl
  | cons b l => cases a <;> rfl

lemma Listed.isDefinite_eq {l : List Selector} (h : Listed s l t) :
    isDefinite none s = ((Segment.child l).isSingular && isDefinite none t) := by
  induction h with
  | @last s u t a one close =>
    have after : isDefinite none u = isDefinite none t := by
      rw [← isDefinite_skipSpace u, close]
      exact isDefinite_plain rfl
    rw [← isDefinite_skipSpace s, one.isDefinite_eq, after, isSingular_child, List.isEmpty_nil, Bool.and_true]
  | @more s u v t a l one comma rest ih =>
    have seen : isDefinite none u = false := by
      rw [← isDefinite_skipSpace u, comma]
      exact isDefinite_sign (.inr (.inr (.inl rfl)))
    have several : l.isEmpty = false := by cases rest <;> rfl
    rw [← isDefinite_skipSpace s, one.isDefinite_eq, seen, isSingular_child, several, Bool.and_false]
    rfl

lemma Steps.isDefinite_eq {g : Segment} (h : Steps s g t) :
    isDefinite none s = (g.isSingular && isDefinite none t) := by
  cases h with
  | bracket inside => exact (isDefinite_plain rfl).trans inside.isDefinite_eq
  | wildcard => simp [isDefinite, Segment.isSingular]
  | @name c n w t first more =>
    -- A name begins with no point, so that these are not two of them.
    have single : c ≠ '.' := by
      rintro rfl
      exact absurd first (by decide)
    have char : ∀ d ∈ c :: w, isPlain d = true := by
      refine List.forall_mem_cons.2 ⟨?_, fun d hd => isPlain_of_isNameChar (more d hd)⟩
      exact isPlain_of_isNameChar (by simp [isNameChar, first])
    have skip : isDefinite none ('.' :: c :: (w ++ t)) = isDefinite none ((c :: w) ++ t) := by
      simp [isDefinite, single]
    rw [skip, isDefinite_append char]
    rfl
  | descendant => simp [isDefinite, Segment.isSingular]

lemma Follows.isDefinite_eq {l : List Segment} (h : Follows s l t) :
    isDefinite none s = (l.all Segment.isSingular && isDefinite none t) := by
  induction h with
  | nil => rfl
  | @cons s u t g l one rest ih =>
    rw [← isDefinite_skipSpace s, one.isDefinite_eq, ih, List.all_cons, Bool.and_assoc]

lemma IsPath.isDefinite_eq {p : Query} (h : IsPath s p) : isDefinite none s = p.isSingular := by
  obtain ⟨r, l, rfl, follows, rfl⟩ := h
  rw [isDefinite_plain rfl, follows.isDefinite_eq]
  exact Bool.and_true _

end Path

section Selection

lemma singular_iff {q : Query} : q.Singular ↔ q.isSingular = true := by
  have segment (g : Segment) : g.isSingular = true ↔
      (∃ n, g = .child [.name n]) ∨ ∃ i, g = .child [.index i] := by
    constructor
    · intro h
      unfold Segment.isSingular at h
      split at h
      · exact .inl ⟨_, rfl⟩
      · exact .inr ⟨_, rfl⟩
      · simp at h
    · rintro (⟨n, rfl⟩ | ⟨i, rfl⟩) <;> rfl
  simp [Query.Singular, Query.isSingular, segment]

lemma length_toList_le {α : Type} (o : Option α) : o.toList.length ≤ 1 := by
  cases o <;> simp

lemma length_atIndex_le (l : List Json) (i : Int) : (atIndex l i).length ≤ 1 := by
  simp only [atIndex]
  generalize (if i < 0 then i + (l.length : Int) else i) = k
  split
  · exact Nat.zero_le 1
  · exact length_toList_le _

lemma length_select_le {a : Selector} (h : a.isSingle = true) (root v : Json) :
    (a.select root v).length ≤ 1 := by
  cases a with
  | name n =>
    cases v with
    | object m => exact length_toList_le (Json.Members.get? n m)
    | _ => exact Nat.zero_le 1
  | index i =>
    cases v with
    | array l => exact length_atIndex_le l i
    | _ => exact Nat.zero_le 1
  | _ => simp [Selector.isSingle] at h

lemma length_step_le {root : Json} {g : Segment} {l : List Json} (h : g.isSingular = true) (le : l.length ≤ 1) :
    (g.step root l).length ≤ 1 := by
  obtain ⟨a, rfl, single⟩ : ∃ a, g = .child [a] ∧ a.isSingle = true := by
    unfold Segment.isSingular at h
    split at h
    · exact ⟨_, rfl, rfl⟩
    · exact ⟨_, rfl, rfl⟩
    · simp at h
  match l, le with
  | [], _ => simp [Segment.step]
  | [v], _ => simpa [Segment.step, selectAll] using length_select_le single root v

lemma length_run_le {q : Query} (h : q.isSingular = true) (doc : Json) : (q.run doc).length ≤ 1 := by
  have steps : ∀ (segments : List Segment) (l : List Json), segments.all Segment.isSingular = true →
      l.length ≤ 1 → (stepAll doc segments l).length ≤ 1 := by
    intro segments
    induction segments with
    | nil => exact fun l _ le => le
    | cons g r ih =>
      intro l h le
      rw [List.all_cons, Bool.and_eq_true] at h
      exact ih _ h.2 (length_step_le h.1 le)
  cases q with
  | root l => exact steps l [doc] h le_rfl
  | current l => exact steps l [doc] h le_rfl

end Selection

section Extraction

variable {ε : Type} {read : String → Except ε Query} {path : String} {p : Query}

lemma extractBy_eq (accepted : read path = .ok p) (written : IsPath path.toList p) (doc : Json) :
    extractBy read doc path = .ok (match p.run doc with
      | [] => none
      | [v] => some (if p.isSingular then v.toItemText else (Json.array [v]).render)
      | l => some (Json.array l).render) := by
  simp only [extractBy, accepted, ← written.isDefinite_eq]
  change (match p.run doc with
    | [] => pure none
    | [v] => pure (some (if isDefinite none path.toList then v.toItemText else (Json.array [v]).render))
    | l => pure (some (Json.array l).render) : Except ε (Option String)) = _
  split <;> rfl

end Extraction

end ItemPipeline.JsonPath
