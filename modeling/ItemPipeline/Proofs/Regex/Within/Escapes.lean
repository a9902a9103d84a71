import ItemPipeline.Proofs.Regex.Within.Basic

/-!
Counts, escapes and single characters, read alike in both texts.
-/

namespace ItemPipeline.Regex

open Reader

variable {α β γ δ : Type} {s t : ReadState} {Q : α → β → ReadState → ReadState → Prop}
  {P : γ → δ → ReadState → ReadState → Prop}

lemma agree_skip {blanks : Bool} {n m : Nat} (h : Beside s t) (enough : s.rest.length ≤ n) (le : n ≤ m) :
    Agree (fun a b s t => a = b ∧ Beside s t ∧ s.rest.length ≤ n) (readDecimal.skip blanks n s)
      (readDecimal.skip blanks m t) := by
  have paren : isSpace ')' = false := by decide
  cases blanks with
  | true =>
    exact agree_loop (fun _ : Unit => readDecimal.skip true) id isSpace (fun a _ => a) (fun _ => rfl) (fun _ _ => rfl)
      paren (.inr rfl) () h enough le
  | false =>
    exact agree_loop (fun _ : Unit => readDecimal.skip false) id isSpace (fun a _ => a) (fun _ => rfl) (fun _ _ => rfl)
      paren (.inl rfl) () h enough le

lemma agree_digits {acc : List Char} {n m : Nat} (h : Beside s t) (enough : s.rest.length ≤ n) (le : n ≤ m) :
    Agree (fun a b s t => a = b ∧ Beside s t ∧ s.rest.length ≤ n) (readDecimal.digits acc n s)
      (readDecimal.digits acc m t) :=
  agree_loop readDecimal.digits List.reverse Text.isDigit (fun acc c => c :: acc) (fun _ => rfl) (fun _ _ => rfl)
    (by decide) (.inr rfl) acc h enough le

lemma agree_readDecimal (h : Beside s t) :
    Agree (fun a b s t => a = b ∧ Beside s t) (readDecimal s) (readDecimal t) := by
  unfold readDecimal
  simp only [run_get]
  refine (agree_skip h le_rfl h.length_le).bind ?_
  have le := h.length_le
  rintro _ _ s' t' ⟨-, h, enough⟩
  simp only [run_place]
  refine (agree_digits h enough le).bind ?_
  rintro ds _ s' t' ⟨rfl, h, enough⟩
  simp only [run_spanFrom]
  refine (agree_skip h enough le).bind ?_
  rintro _ _ s t ⟨-, h, -⟩
  cases Text.digits? 10 ds with
  | none => simp
  | some n =>
    dsimp only
    split
    · exact agree_ok.2 ⟨rfl, h⟩
    · simp

lemma agree_readHexDigits {acc : List Char} {p q : Place} {n : Nat} (h : Beside s t) :
    Agree (fun a b s t => a = b ∧ Beside s t) (readHexDigits acc p n s) (readHexDigits acc q n t) := by
  induction n generalizing acc s t with
  | zero =>
    simp only [readHexDigits]
    cases (Text.digits? 16 acc.reverse).bind toChar? with
    | none => simp
    | some c => exact agree_ok.2 ⟨rfl, h⟩
  | succ n ih =>
    cases left : s.rest with
    | nil => simp [readHexDigits, left]
    | cons c r =>
      simp only [readHexDigits, run_peek, left, h.cons left, List.head?_cons]
      split
      · simp
      · refine (agree_bumpAndSpace h left).bind ?_
        rintro a b s t ⟨-, -, h, -⟩
        split
        · simp
        · split
          · simp
          · exact ih h

lemma readBraced_at_end {acc : List Char} {check : Char → Reader Unit} (left : s.rest = []) (n : Nat) :
    readBraced acc check n s = .ok (acc.reverse, s) := by
  cases n with
  | zero => rfl
  | succ n =>
    rw [readBraced, run_bind (bumpAndSpace_of_nil left)]
    simp

lemma agree_readBraced {acc : List Char} {check : Char → Reader Unit}
    (still : ∀ c s a s', check c s = .ok (a, s') → s' = s) {n m : Nat} (h : Beside s t)
    (enough : s.rest.length ≤ n) (le : n ≤ m) :
    Agree (fun a b s t => s.rest = [] ∨ a = b ∧ Beside s t) (readBraced acc check n s)
      (readBraced acc check m t) := by
  induction n generalizing m s t acc with
  | zero =>
    rw [readBraced_at_end (List.eq_nil_of_length_eq_zero (by omega))]
    rintro _ _ b t ⟨⟩ -
    exact .inl (List.eq_nil_of_length_eq_zero (by omega))
  | succ n ih =>
    cases left : s.rest with
    | nil =>
      rw [readBraced_at_end left]
      rintro _ _ b t ⟨⟩ -
      exact .inl left
    | cons c r =>
      obtain ⟨m, rfl⟩ : ∃ k, m = k + 1 := ⟨m - 1, by omega⟩
      simp only [left, List.length_cons] at enough
      simp only [readBraced]
      refine (agree_bumpAndSpace h left).bind ?_
      rintro a b s t ⟨rfl, more, h, length⟩
      cases left : s.rest with
      | nil =>
        rintro _ _ b t left' -
        simp only [run_peek, left, List.head?_nil, List.isEmpty_nil] at left'
        obtain ⟨-, rfl⟩ := Prod.mk.inj (Except.ok.inj left')
        exact .inl left
      | cons d u =>
        have hb : b = true := more (by simp [left])
        simp only [run_peek, left, h.cons left, List.head?_cons, List.isEmpty_cons, hb, Bool.not_false]
        by_cases close : d = '}'
        · subst close
          exact agree_ok.2 (.inr ⟨rfl, h⟩)
        · simp only
          refine Agree.bind (P := fun _ _ s' t' => s' = s ∧ t' = t)
            (fun a s' b t' left right => ⟨still d s a s' left, still d t b t' right⟩) ?_
          rintro _ _ _ _ ⟨rfl, rfl⟩
          exact ih h (by omega) (by omega)

lemma agree_readHexEscape {c : Char} {r : List Char} (h : Beside s t) (left : s.rest = c :: r) :
    Agree (fun a b s t => a = b ∧ Beside s t) (readHexEscape s) (readHexEscape t) := by
  unfold readHexEscape
  simp only [run_peek, left, h.cons left, List.head?_cons]
  refine agree_bumpAndSpace_bind h (fun _ _ => by simp) fun s t h more => ?_
  obtain ⟨d, u, left⟩ := List.exists_cons_of_ne_nil more
  simp only [Bool.not_true, Bool.false_eq_true, if_false, run_peek, left, h.cons left, List.head?_cons]
  split
  · simp only [run_place, run_spanChar, run_get]
    refine (agree_readBraced ?_ h le_rfl h.length_le).bind ?_
    · intro c s a s' check
      split at check
      · simp at check
      · obtain ⟨-, rfl⟩ := Prod.mk.inj (Except.ok.inj check)
        rfl
    · rintro ds b s t closed
      cases left : s.rest with
      | nil => simp [left]
      | cons d u =>
        obtain ⟨rfl, h⟩ := closed.resolve_left (by simp [left])
        simp only [run_atEnd, left, h.cons left, List.isEmpty_cons, Bool.false_eq_true, if_false, run_place]
        refine (agree_bumpAndSpace h left).bind ?_
        rintro _ _ s t ⟨-, -, h, -⟩
        split
        · simp
        · cases (Text.digits? 16 ds).bind toChar? with
          | none => simp
          | some c => exact agree_ok.2 ⟨rfl, h⟩
  · simp only [run_place]
    refine (agree_readHexDigits h).bind ?_
    rintro c _ s t ⟨rfl, h⟩
    exact agree_ok.2 ⟨rfl, h⟩

lemma agree_readProperty {negated : Bool} (h : Beside s t) :
    Agree (fun a b s t => a = b ∧ Beside s t) (readProperty negated s) (readProperty negated t) := by
  unfold readProperty
  refine agree_bumpAndSpace_bind h (fun _ _ => by simp) fun s t h more => ?_
  obtain ⟨d, u, left⟩ := List.exists_cons_of_ne_nil more
  simp only [Bool.not_true, Bool.false_eq_true, if_false, run_peek, left, h.cons left, List.head?_cons]
  split
  · simp only [run_get]
    refine (agree_readBraced ?_ h le_rfl h.length_le).bind ?_
    · rintro c s a s' ⟨⟩
      rfl
    · rintro name b s t closed
      cases left : s.rest with
      | nil => simp [left]
      | cons d u =>
        obtain ⟨rfl, h⟩ := closed.resolve_left (by simp [left])
        simp only [run_atEnd, left, h.cons left, List.isEmpty_cons, Bool.false_eq_true, if_false]
        refine (agree_bump h left).bind ?_
        rintro _ _ s t ⟨-, -, -, h⟩
        exact agree_ok.2 ⟨rfl, h⟩
  · simp only [run_peek, left, h.cons left, List.head?_cons]
    split
    · simp
    · refine (agree_bumpAndSpace h left).bind ?_
      rintro _ _ s t ⟨-, -, h, -⟩
      exact agree_ok.2 ⟨rfl, h⟩

lemma agree_readBoundaryName {acc : List Char} {n m : Nat} (h : Beside s t) (enough : s.rest.length ≤ n)
    (le : n ≤ m) :
    Agree (fun a b s t => a = b ∧ Beside s t ∧ s.rest.length ≤ n) (readBoundaryName acc n s)
      (readBoundaryName acc m t) :=
  agree_loop readBoundaryName List.reverse isBoundaryChar (fun acc c => c :: acc) (fun _ => rfl) (fun _ _ => rfl)
    (by decide) (.inr rfl) acc h enough le

lemma agree_readBoundary {p q : Place} (h : Beside s t) :
    Agree (fun a b s t => a = b ∧ Beside s t) (readBoundary p s) (readBoundary q t) := by
  unfold readBoundary
  simp only [run_get, run_place]
  have saved := h
  refine agree_bumpAndSpace_bind h (fun _ _ => by simp) fun s t h more => ?_
  obtain ⟨d, u, left⟩ := List.exists_cons_of_ne_nil more
  simp only [Bool.not_true, Bool.false_eq_true, if_false, run_peek, left, h.cons left, List.head?_cons, run_place]
  split
  · simp only [run_set, run_pure]
    exact agree_ok.2 ⟨rfl, saved⟩
  · simp only [run_get]
    refine (agree_readBoundaryName h le_rfl h.length_le).bind ?_
    rintro name _ s t ⟨rfl, h, -⟩
    cases left : s.rest with
    | nil => simp [left]
    | cons d u =>
      simp only [run_peek, left, h.cons left, List.head?_cons]
      split
      · simp
      · simp only [run_place]
        refine (agree_bump h left).bind ?_
        rintro _ _ s t ⟨-, -, -, h⟩
        generalize String.ofList name = x
        by_cases start : x = "start"
        · subst start
          exact agree_ok.2 ⟨rfl, h⟩
        by_cases stop : x = "end"
        · subst stop
          exact agree_ok.2 ⟨rfl, h⟩
        by_cases startHalf : x = "start-half"
        · subst startHalf
          exact agree_ok.2 ⟨rfl, h⟩
        by_cases stopHalf : x = "end-half"
        · subst stopHalf
          exact agree_ok.2 ⟨rfl, h⟩
        simp

lemma agree_readEscape {c : Char} {r : List Char} (h : Beside s t) (left : s.rest = c :: r) :
    Agree (fun a b s t => a = b ∧ Beside s t) (readEscape s) (readEscape t) := by
  unfold readEscape
  simp only [run_place]
  refine (agree_bump h left).bind ?_
  rintro _ _ s t ⟨rfl, rfl, rfl, h⟩
  cases left : s.rest with
  | nil => simp
  | cons c r =>
    simp only [List.isEmpty_cons, Bool.not_false, Bool.not_true, Bool.false_eq_true, if_false, run_peek, left,
      h.cons left, List.head?_cons]
    split
    · simp
    · split
      · refine (agree_readHexEscape h left).bind ?_
        rintro ⟨d, isByte⟩ _ s t ⟨rfl, h⟩
        exact agree_ok.2 ⟨rfl, h⟩
      · split
        · exact agree_readProperty h
        · refine (agree_bump h left).bind ?_
          rintro _ _ s t ⟨-, -, -, h⟩
          simp only [run_spanFrom]
          split
          · exact agree_ok.2 ⟨rfl, h⟩
          · split
            -- All but the word boundary are read by their one character.
            any_goals exact agree_ok.2 ⟨rfl, h⟩
            · cases left : s.rest with
              | nil =>
                obtain head | head := h.head? left
                · simpa [left, head] using h
                · simpa [left, head] using h
              | cons c r =>
                simp only [run_peek, left, h.cons left, List.head?_cons]
                split
                · refine (agree_readBoundary h).bind ?_
                  rintro a _ s t ⟨rfl, h⟩
                  exact agree_ok.2 ⟨rfl, h⟩
                · exact agree_ok.2 ⟨rfl, h⟩
            · simp

def Literal.erase (l : Literal) : Literal :=
  { l with span := default }

def ClassExpr.erase : ClassExpr → ClassExpr
  | .literal l => .literal l.erase
  | .range a b => .range a.erase b.erase
  | .ascii k n _ => .ascii k n default
  | .named k n _ => .named k n default
  | .property p n _ => .property p n default
  | .bracket n e _ => .bracket n e.erase default
  | .union a b => .union a.erase b.erase
  | .op k a b => .op k a.erase b.erase
  | .empty => .empty

def Pattern.erase : Pattern → Pattern
  | .dot _ => .dot default
  | .literal l => .literal l.erase
  | .named k n _ => .named k n default
  | .property p n _ => .property p n default
  | .cls e _ => .cls e.erase default
  | .repetition a b g p => .repetition a b g p.erase
  | .capture i p => .capture i p.erase
  | .scoped l p => .scoped l p.erase
  | .seq p q => .seq p.erase q.erase
  | .alt p q => .alt p.erase q.erase
  | p => p

lemma erase_toPattern (p : Primitive) (a b : Span) : (p.toPattern a).erase = (p.toPattern b).erase := by
  cases p <;> rfl

lemma agree_readPrimitive (h : Beside s t) :
    Agree (fun a b s t => a.erase = b.erase ∧ Beside s t) (readPrimitive s) (readPrimitive t) := by
  unfold readPrimitive
  simp only [run_place]
  cases left : s.rest with
  | nil => simp [left]
  | cons c r =>
    simp only [run_peek, left, h.cons left, List.head?_cons]
    have single (p : Primitive) : Agree (fun a b s t => a.erase = b.erase ∧ Beside s t)
        ((bump >>= fun _ => pure p >>= fun p => spanFrom s.place >>= fun a => pure (p.toPattern a)) s)
        ((bump >>= fun _ => pure p >>= fun p => spanFrom t.place >>= fun a => pure (p.toPattern a)) t) := by
      refine (agree_bump h left).bind ?_
      rintro _ _ s t ⟨-, -, -, h⟩
      exact agree_ok.2 ⟨erase_toPattern _ _ _, h⟩
    by_cases backslash : c = '\\'
    · subst backslash
      refine (agree_readEscape h left).bind ?_
      rintro p _ s t ⟨rfl, h⟩
      exact agree_ok.2 ⟨erase_toPattern _ _ _, h⟩
    by_cases dot : c = '.'
    · subst dot
      exact single .dot
    by_cases caret : c = '^'
    · subst caret
      exact single (.anchor .lineStart)
    by_cases dollar : c = '$'
    · subst dollar
      exact single (.anchor .lineEnd)
    simp only
    exact single (.literal c)

end ItemPipeline.Regex
