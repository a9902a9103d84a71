import ItemPipeline.Proofs.Regex.Within.Classes

/-!
Groups, flags and repetition, and with them whole patterns, read alike in both texts.
-/

namespace ItemPipeline.Regex

open Reader

variable {α β γ δ : Type} {s t : ReadState} {Q : α → β → ReadState → ReadState → Prop}
  {P : γ → δ → ReadState → ReadState → Prop}

lemma agree_item {acc acc' : List (FlagItem × Span)} {d d' : Option Span} {n m : Nat} {i : FlagItem} {a b : Span}
    {c : Char} {r : List Char} {R : List FlagItem → List FlagItem → ReadState → ReadState → Prop} (h : Beside s t)
    (left : s.rest = c :: r) (next : ∀ s t, Beside s t → s.rest = r →
      Agree R (readFlags ((i, a) :: acc) d n s) (readFlags ((i, b) :: acc') d' m t)) :
    Agree R
      ((match acc.find? fun e : FlagItem × Span => e.1 = i with
        | some e => fail (if c = '-' then .flagRepeatedNegation else .flagDuplicate) a (some e.2)
        | none => do
          if !(← bump) then fail .flagUnexpectedEnd (← here)
          readFlags ((i, a) :: acc) d n) s)
      ((match acc'.find? fun e : FlagItem × Span => e.1 = i with
        | some e => fail (if c = '-' then .flagRepeatedNegation else .flagDuplicate) b (some e.2)
        | none => do
          if !(← bump) then fail .flagUnexpectedEnd (← here)
          readFlags ((i, b) :: acc') d' m) t) := by
  cases acc.find? fun e : FlagItem × Span => e.1 = i with
  | some e => simp
  | none =>
    cases acc'.find? fun e : FlagItem × Span => e.1 = i with
    | some e => simp
    | none =>
      refine (agree_bump h left).bind ?_
      rintro _ _ s t ⟨rfl, rfl, rfl, h⟩
      split
      · simp
      · exact next s t h rfl

lemma agree_readFlags {acc acc' : List (FlagItem × Span)} {dangling dangling' : Option Span} {n m : Nat}
    (h : Beside s t) (same : acc.map (·.1) = acc'.map (·.1)) (enough : s.rest.length < n) (le : n ≤ m) :
    Agree (fun a b s t => a = b ∧ Beside s t ∧ s.rest ≠ []) (readFlags acc dangling n s)
      (readFlags acc' dangling' m t) := by
  induction n generalizing m s t acc acc' dangling dangling' with
  | zero => omega
  | succ n ih =>
    obtain ⟨m, rfl⟩ : ∃ k, m = k + 1 := ⟨m - 1, by omega⟩
    cases left : s.rest with
    | nil => simp [readFlags, left]
    | cons c r =>
      simp only [left, List.length_cons] at enough
      simp only [readFlags, run_peek, left, h.cons left, List.head?_cons]
      refine agree_ite Iff.rfl (fun _ => ?_) fun _ => ?_
      · cases dangling with
        | some p => simp
        | none =>
          cases dangling' with
          | some p => simp
          | none => exact agree_ok.2 ⟨by simp [List.map_reverse, same], h, by simp [left]⟩
      · simp only [run_spanChar]
        refine agree_ite Iff.rfl (fun dash => ?_) fun _ => ?_
        · simp only [run_pure_bind]
          exact agree_item h left fun s t h rest => ih h (by simp [same]) (by rw [rest]; omega) (by omega)
        · cases flagName? c with
          | none => simp
          | some f =>
            simp only [run_pure_bind]
            exact agree_item h left fun s t h rest => ih h (by simp [same]) (by rw [rest]; omega) (by omega)

lemma name_at_end (acc : List Char) (left : s.rest = []) (n : Nat) : readName acc n s = .ok (acc.reverse, s) := by
  cases n with
  | zero => rfl
  | succ n => simp [readName, left]

lemma agree_readName {acc acc' : List Char} {n m : Nat} (h : Beside s t) (same : acc.isEmpty = acc'.isEmpty)
    (enough : s.rest.length ≤ n) (le : n ≤ m) :
    Agree (fun _ _ s t => s.rest = [] ∨ Beside s t) (readName acc n s) (readName acc' m t) := by
  induction n generalizing m s t acc acc' with
  | zero =>
    have nil : s.rest = [] := List.eq_nil_of_length_eq_zero (by omega)
    rw [name_at_end acc nil]
    rintro _ _ b t ⟨⟩ -
    exact .inl nil
  | succ n ih =>
    cases left : s.rest with
    | nil =>
      rw [name_at_end acc left]
      rintro _ _ b t ⟨⟩ -
      exact .inl left
    | cons c r =>
      obtain ⟨m, rfl⟩ : ∃ k, m = k + 1 := ⟨m - 1, by omega⟩
      simp only [left, List.length_cons] at enough
      simp only [readName, run_peek, left, h.cons left, List.head?_cons]
      by_cases close : c = '>'
      · subst close
        exact agree_ok.2 (.inr h)
      simp only [same]
      split
      · simp
      · refine (agree_bump h left).bind ?_
        rintro _ _ s t ⟨-, -, rfl, h⟩
        exact ih h rfl (by omega) (by omega)

lemma agree_readGroupName (h : Beside s t) :
    Agree (fun _ _ s t => Beside s t) (readGroupName s) (readGroupName t) := by
  unfold readGroupName
  cases left : s.rest with
  | nil => simp [left]
  | cons c r =>
    simp only [run_atEnd, left, h.cons left, List.isEmpty_cons, Bool.false_eq_true, if_false, run_place, run_get]
    refine (agree_readName h rfl (by simp [left]) (by simp)).bind ?_
    rintro name name' s t closed
    cases left : s.rest with
    | nil => simp [left]
    | cons c r =>
      have h := closed.resolve_left (by simp [left])
      simp only [run_spanFrom, run_atEnd, left, h.cons left, List.isEmpty_cons, Bool.false_eq_true, if_false]
      refine (agree_bump h left).bind ?_
      rintro _ _ s t ⟨-, -, -, h⟩
      split
      · simp
      · split
        · simp
        · simp only [run_get]
          cases s.names.find? fun e => e.1 = String.ofList name with
          | some e => simp
          | none =>
            cases t.names.find? fun e => e.1 = String.ofList name' with
            | some e => simp
            | none => exact agree_ok.2 ⟨h.captures, h.ignoreSpace, h.rest⟩

lemma agree_nextCapture (h : Beside s t) :
    Agree (fun a b s t => a = b ∧ Beside s t) (nextCapture s) (nextCapture t) := by
  unfold nextCapture
  simp only [run_get, run_set, run_pure, h.captures]
  exact agree_ok.2 ⟨rfl, rfl, h.ignoreSpace, h.rest⟩

lemma agree_looks {l : List String} {p q : Place} (h : Beside s t) (plain : ∀ x ∈ l, ')' ∉ x.toList) :
    Agree (fun _ _ s t => Beside s t)
      ((forIn l PUnit.unit fun x _ => do
        if ← bumpIf x then fail .lookAround (← spanFrom p)
        pure (ForInStep.yield PUnit.unit) : Reader PUnit) s)
      ((forIn l PUnit.unit fun x _ => do
        if ← bumpIf x then fail .lookAround (← spanFrom q)
        pure (ForInStep.yield PUnit.unit) : Reader PUnit) t) := by
  induction l generalizing s t with
  | nil => simpa using h
  | cons x l ih =>
    simp only [List.forIn_cons, bind_assoc]
    refine (agree_bumpIf h (plain x List.mem_cons_self)).bind ?_
    rintro found _ s t ⟨rfl, h⟩
    cases found with
    | true => simp
    | false => exact ih h fun y hy => plain y (List.mem_cons_of_mem _ hy)

lemma agree_readGroupOpen {c : Char} {r : List Char} (h : Beside s t) (left : s.rest = c :: r) :
    Agree (fun a b s t => a.1 = b.1 ∧ Beside s t) (readGroupOpen s) (readGroupOpen t) := by
  unfold readGroupOpen
  simp only [run_spanChar]
  refine (agree_bump h left).bind ?_
  rintro _ _ s t ⟨-, -, -, h⟩
  refine (agree_bumpSpace h).bind ?_
  rintro _ _ s t ⟨h, -⟩
  refine (agree_looks h (by decide)).bind ?_
  rintro _ _ s t h
  simp only [run_here]
  refine (agree_bumpIf h (by decide)).bind ?_
  rintro named _ s t ⟨rfl, h⟩
  refine (agree_bumpIf h (by decide)).bind ?_
  rintro named' _ s t ⟨rfl, h⟩
  refine agree_ite Iff.rfl (fun _ => ?_) fun _ => ?_
  · refine (agree_nextCapture h).bind ?_
    rintro i _ s t ⟨rfl, h⟩
    refine (agree_readGroupName h).bind ?_
    rintro _ _ s t h
    exact agree_ok.2 ⟨rfl, h⟩
  · refine (agree_bumpIf h (by decide)).bind ?_
    rintro flags _ s t ⟨rfl, h⟩
    refine agree_ite Iff.rfl (fun _ => ?_) fun _ => ?_
    · cases left : s.rest with
      | nil => simp [left]
      | cons d u =>
        simp only [run_atEnd, left, h.cons left, List.isEmpty_cons, Bool.false_eq_true, if_false, run_get]
        refine (agree_readFlags h rfl (by simp [left]) (by simp)).bind ?_
        rintro items _ s t ⟨rfl, h, more⟩
        obtain ⟨e, v, left⟩ := List.exists_cons_of_ne_nil more
        simp only [run_peek, left, h.cons left, List.head?_cons]
        refine (agree_bump h left).bind ?_
        rintro _ _ s t ⟨-, -, -, h⟩
        refine agree_ite Iff.rfl (fun _ => ?_) fun _ => agree_ok.2 ⟨rfl, h⟩
        split
        · simp
        · exact agree_ok.2 ⟨rfl, h⟩
    · refine (agree_nextCapture h).bind ?_
      rintro i _ s t ⟨rfl, h⟩
      exact agree_ok.2 ⟨rfl, h⟩

lemma agree_takeOperand {items items' : List Pattern} {a b : Span}
    (same : items.map Pattern.erase = items'.map Pattern.erase) :
    Agree (fun a b s' t' => (a.1.erase = b.1.erase ∧ a.2.map Pattern.erase = b.2.map Pattern.erase) ∧
      s' = s ∧ t' = t) (takeOperand items a s) (takeOperand items' b t) := by
  cases items with
  | nil => simp [takeOperand]
  | cons p r =>
    cases items' with
    | nil => simp [takeOperand]
    | cons p' r' =>
      obtain ⟨hp, hr⟩ := List.cons.inj same
      cases p <;> cases p' <;> simp_all [takeOperand, Pattern.erase]

lemma agree_readLazy {a b : Bool} (h : Beside s t) (ha : a = !s.rest.isEmpty) (hb : a = true → b = true) :
    Agree (fun a b s t => a = b ∧ Beside s t) (readLazy a s) (readLazy b t) := by
  unfold readLazy
  cases left : s.rest with
  | nil =>
    obtain head | head := h.head? left
    · simpa [ha, left, head] using h
    · simpa [ha, left, head] using h
  | cons c r =>
    obtain rfl : a = true := by simp [ha, left]
    obtain rfl := hb rfl
    simp only [run_peek, left, h.cons left, List.head?_cons]
    refine agree_ite Iff.rfl (fun _ => ?_) fun _ => agree_ok.2 ⟨rfl, h⟩
    refine (agree_bump h left).bind ?_
    rintro _ _ s t ⟨-, -, -, h⟩
    exact agree_ok.2 ⟨rfl, h⟩

@[simp] lemma run_lift_ok (a : α) (f : α → Reader β) (s : ReadState) :
    ((liftM (Except.ok a : Except SyntaxError α) : Reader α) >>= f) s = f a s := rfl
@[simp] lemma run_lift_error (e : SyntaxError) (f : α → Reader β) (s : ReadState) :
    ((liftM (Except.error e : Except SyntaxError α) : Reader α) >>= f) s = .error e := rfl

def readUpper (start : Place) (first : Except SyntaxError Nat) : Reader (Nat × Option Nat) := do
  let unclosed {α : Type} : Reader α := do fail .repetitionCountUnclosed (← spanFrom start)
  if ← atEnd then unclosed
  let range ← if (← peek) = some ',' then do
      if !(← bumpAndSpace) then unclosed
      if (← peek) ≠ some '}' then
        let a ← first
        let b ← readDecimal
        pure (a, some b)
      else pure (← first, none)
    else do
      let a ← first
      pure (a, some a)
  if (← peek) ≠ some '}' then unclosed
  pure range

lemma readCount_eq : readCount = (do
    let start ← place
    if !(← bumpAndSpace) then fail .repetitionCountUnclosed (← spanFrom start)
    let s ← get
    let first : Except SyntaxError Nat × ReadState := match readDecimal s with
      | .ok (n, s) => (.ok n, s)
      | .error e =>
        let (r, p) := dropSpace false s.place s.rest
        (.error e, if s.ignoreSpace then { s with rest := r, place := p } else s)
    set first.2
    readUpper start first.1) :=
  rfl

lemma readUpper_error (p : Place) (e : SyntaxError) (s : ReadState) : ∃ e', readUpper p (.error e) s = .error e' := by
  unfold readUpper
  simp only [run_atEnd]
  split
  · exact ⟨_, rfl⟩
  · simp only [run_peek]
    split
    · cases next : bumpAndSpace s with
      | error e =>
        refine ⟨e, ?_⟩
        simp only [Bind.bind, StateT.bind, Except.bind, next]
      | ok x =>
        obtain ⟨more, s⟩ := x
        rw [run_bind next]
        cases more with
        | false => exact ⟨_, rfl⟩
        | true =>
          simp only [Bool.not_true, Bool.false_eq_true, if_false, run_peek]
          split <;> exact ⟨_, rfl⟩
    · exact ⟨_, rfl⟩

lemma agree_closed {p q : Place} {range : Nat × Option Nat} (h : Beside s t) :
    Agree (fun a b s t => a = b ∧ Beside s t ∧ s.rest ≠ [])
      ((peek >>= fun c => if c ≠ some '}' then (do
        fail .repetitionCountUnclosed (← spanFrom p)
        pure range) else pure range) s)
      ((peek >>= fun c => if c ≠ some '}' then (do
        fail .repetitionCountUnclosed (← spanFrom q)
        pure range) else pure range) t) := by
  cases left : s.rest with
  | nil => simp [left]
  | cons c r =>
    simp only [run_peek, left, h.cons left, List.head?_cons]
    refine agree_ite Iff.rfl (fun _ => by simp) fun _ => ?_
    exact agree_ok.2 ⟨rfl, h, by simp [left]⟩

lemma agree_readUpper {p q : Place} {n : Nat} (h : Beside s t) :
    Agree (fun a b s t => a = b ∧ Beside s t ∧ s.rest ≠ []) (readUpper p (.ok n) s) (readUpper q (.ok n) t) := by
  unfold readUpper
  cases left : s.rest with
  | nil => simp [left]
  | cons c r =>
    simp only [run_atEnd, run_peek, left, h.cons left, List.isEmpty_cons, Bool.false_eq_true, if_false,
      List.head?_cons]
    refine agree_ite Iff.rfl (fun _ => ?_) fun _ => agree_closed h
    refine agree_bumpAndSpace_bind h (fun _ _ => by simp) fun s t h more => ?_
    obtain ⟨d, u, left⟩ := List.exists_cons_of_ne_nil more
    simp only [Bool.not_true, Bool.false_eq_true, if_false, run_peek, left, h.cons left, List.head?_cons]
    refine agree_ite Iff.rfl (fun _ => ?_) fun _ => ?_
    · simp only [run_lift_ok]
      refine (agree_readDecimal h).bind ?_
      rintro b _ s t ⟨rfl, h⟩
      exact agree_closed h
    · exact agree_closed h

lemma agree_readCount (h : Beside s t) :
    Agree (fun a b s t => a = b ∧ Beside s t ∧ s.rest ≠ []) (readCount s) (readCount t) := by
  rw [readCount_eq]
  simp only [run_place]
  refine agree_bumpAndSpace_bind h (fun _ _ => by simp) fun s t h more => ?_
  simp only [Bool.not_true, Bool.false_eq_true, if_false, run_get, run_set]
  have first := agree_readDecimal h
  cases hs : readDecimal s with
  | error e =>
    obtain ⟨e', stuck⟩ := readUpper_error _ e _
    rw [stuck]
    exact agree_error _ _
  | ok a =>
    cases ht : readDecimal t with
    | error e =>
      obtain ⟨e', stuck⟩ := readUpper_error _ e _
      rw [stuck]
      exact agree_error_right _ _
    | ok b =>
      obtain ⟨same, h⟩ := agree_ok.1 (hs ▸ ht ▸ first)
      dsimp only
      rw [same]
      exact agree_readUpper h

lemma erase_foldl_seq (acc : Pattern) (r : List Pattern) :
    (r.foldl (fun acc q => .seq q acc) acc).erase =
      (r.map Pattern.erase).foldl (fun acc q => .seq q acc) acc.erase := by
  induction r generalizing acc with
  | nil => rfl
  | cons p r ih => exact ih _

lemma erase_foldl_alt (acc : Pattern) (r : List Pattern) :
    (r.foldl (fun acc q => .alt q acc) acc).erase =
      (r.map Pattern.erase).foldl (fun acc q => .alt q acc) acc.erase := by
  induction r generalizing acc with
  | nil => rfl
  | cons p r ih => exact ih _

lemma erase_seqOf (items : List Pattern) : (seqOf items).erase = seqOf (items.map Pattern.erase) := by
  cases items with
  | nil => rfl
  | cons p r => exact erase_foldl_seq p r

inductive Closes : Option Span → Option Span → ReadState → ReadState → Prop
  | inner {a b : Span} {s t : ReadState} (beside : Beside s t) : Closes (some a) (some b) s t
  | outer {b : Span} {s t : ReadState} (captures : t.captures = s.captures) (rest : t.rest = ['$']) :
      Closes none (some b) s t

lemma agree_setIgnoreSpace {b : Bool} (h : Beside s t) :
    Agree (fun _ _ s t => Beside s t) (setIgnoreSpace b s) (setIgnoreSpace b t) :=
  agree_ok.2 ⟨h.captures, rfl, h.rest⟩

lemma agree_repeated (next next' : List Pattern → Reader Pattern) {items items' : List Pattern} {least : Nat}
    {most : Option Nat} {c : Char} {r : List Char} {R : Pattern → Pattern → ReadState → ReadState → Prop}
    (h : Beside s t) (left : s.rest = c :: r) (hi : items.map Pattern.erase = items'.map Pattern.erase)
    (go : ∀ (items items' : List Pattern) (s t : ReadState), Beside s t →
      items.map Pattern.erase = items'.map Pattern.erase → Agree R (next items s) (next' items' t)) :
    Agree R
      ((here >>= fun sp => takeOperand items sp >>= fun x => bump >>= fun more =>
        readLazy more >>= fun slow => next (.repetition least most (!slow) x.1 :: x.2)) s)
      ((here >>= fun sp => takeOperand items' sp >>= fun x => bump >>= fun more =>
        readLazy more >>= fun slow => next' (.repetition least most (!slow) x.1 :: x.2)) t) := by
  simp only [run_here]
  refine (agree_takeOperand hi).bind ?_
  rintro ⟨p, r⟩ ⟨p', r'⟩ _ _ ⟨⟨hp, hr⟩, rfl, rfl⟩
  refine (agree_bump h left).bind ?_
  rintro x y s t ⟨hx, hy, rest, h⟩
  refine (agree_readLazy h (rest ▸ hx) fun _ => hy).bind ?_
  rintro slow _ s t ⟨rfl, h⟩
  exact go _ _ s t h (by simp [Pattern.erase, hp, hr])

lemma agree_readBody {a b : Option Span} {branches branches' items items' : List Pattern} {n m : Nat}
    (h : Beside s t) (groups : b.isSome) (hb : branches.map Pattern.erase = branches'.map Pattern.erase)
    (hi : items.map Pattern.erase = items'.map Pattern.erase) :
    Agree (fun p q s t => p.erase = q.erase ∧ Closes a b s t) (readBody a branches items n s)
      (readBody b branches' items' m t) := by
  induction n generalizing m s t a b branches branches' items items' with
  | zero => simp [readBody]
  | succ n ih =>
    cases m with
    | zero => simp [readBody]
    | succ m =>
      unfold readBody
      refine (agree_bumpSpace h).bind ?_
      rintro _ _ s t ⟨h, -⟩
      have finish : (branches.foldl (fun acc q => .alt q acc) (seqOf items)).erase =
          (branches'.foldl (fun acc q => .alt q acc) (seqOf items')).erase := by
        simp only [erase_foldl_alt, erase_seqOf, hb, hi]
      cases left : s.rest with
      | nil =>
        obtain ⟨sp, rfl⟩ := Option.isSome_iff_exists.1 groups
        cases a with
        | some sp' => simp [left]
        | none =>
          obtain rest | ⟨-, rest⟩ := h.rest
          · have rest : t.rest = [')', '$'] := by simpa [left, ending] using rest
            simp only [run_peek, left, rest, List.head?_nil, List.head?_cons, bump, run_get, bind_assoc, run_set]
            exact agree_ok.2 ⟨finish, .outer h.captures rfl⟩
          · simp [rest]
      | cons c r =>
        have go {branches branches' items items' : List Pattern} {s t : ReadState} (h : Beside s t)
            (hb : branches.map Pattern.erase = branches'.map Pattern.erase)
            (hi : items.map Pattern.erase = items'.map Pattern.erase) :
            Agree (fun p q s t => p.erase = q.erase ∧ Closes a b s t) (readBody a branches items n s)
              (readBody b branches' items' m t) := ih h groups hb hi
        simp only [run_peek, left, h.cons left, List.head?_cons]
        by_cases close : c = ')'
        · subst close
          obtain ⟨sp, rfl⟩ := Option.isSome_iff_exists.1 groups
          cases a with
          | none => simp
          | some sp' =>
            refine (agree_bump h left).bind ?_
            rintro _ _ s t ⟨-, -, -, h⟩
            exact agree_ok.2 ⟨finish, .inner h⟩
        by_cases paren : c = '('
        · subst paren
          refine (agree_readGroupOpen h left).bind ?_
          rintro ⟨o, sp⟩ ⟨_, sp'⟩ s t ⟨rfl, h⟩
          simp only [run_get, h.ignoreSpace]
          obtain l | i | l := o
          · refine (agree_setIgnoreSpace h).bind ?_
            rintro _ _ s t h
            exact go h hb (by simp [Pattern.erase, hi])
          · refine (ih (a := some sp) (b := some sp') h rfl rfl rfl).bind ?_
            rintro p p' s t ⟨hp, ⟨h⟩⟩
            refine (agree_setIgnoreSpace h).bind ?_
            rintro _ _ s t h
            exact go h hb (by simp [Pattern.erase, hi, hp])
          · refine (agree_setIgnoreSpace h).bind ?_
            rintro _ _ s t h
            refine (ih (a := some sp) (b := some sp') h rfl rfl rfl).bind ?_
            rintro p p' s t ⟨hp, ⟨h⟩⟩
            refine (agree_setIgnoreSpace h).bind ?_
            rintro _ _ s t h
            exact go h hb (by simp [Pattern.erase, hi, hp])
        by_cases bar : c = '|'
        · subst bar
          refine (agree_bump h left).bind ?_
          rintro _ _ s t ⟨-, -, -, h⟩
          exact go h (by simp [erase_seqOf, hb, hi]) rfl
        by_cases bracket : c = '['
        · subst bracket
          refine (agree_readClass h).bind ?_
          rintro p p' s t ⟨hp, h⟩
          exact go h hb (by simp [hi, hp])
        by_cases brace : c = '{'
        · subst brace
          simp only [run_place, run_here]
          refine (agree_takeOperand hi).bind ?_
          rintro ⟨p, r⟩ ⟨p', r'⟩ _ _ ⟨⟨hp, hr⟩, rfl, rfl⟩
          refine (agree_readCount h).bind ?_
          rintro ⟨a, b⟩ _ s t ⟨rfl, h, more⟩
          obtain ⟨d, u, left⟩ := List.exists_cons_of_ne_nil more
          refine (agree_bumpAndSpace h left).bind ?_
          rintro x y s t ⟨hx, hy, h, -⟩
          refine (agree_readLazy h hx hy).bind ?_
          rintro slow _ s t ⟨rfl, h⟩
          simp only [run_spanFrom]
          refine agree_ite Iff.rfl (fun _ => by simp) fun _ => ?_
          exact go h hb (by simp [Pattern.erase, hp, hr])
        have rest (items items' : List Pattern) (s t : ReadState) (h : Beside s t)
            (hi : items.map Pattern.erase = items'.map Pattern.erase) := go h hb hi
        simp only
        split
        · exact agree_repeated (readBody a branches · n) (readBody b branches' · m) h left hi rest
        · exact agree_repeated (readBody a branches · n) (readBody b branches' · m) h left hi rest
        · exact agree_repeated (readBody a branches · n) (readBody b branches' · m) h left hi rest
        · refine (agree_readPrimitive h).bind ?_
          rintro p p' s t ⟨hp, h⟩
          exact go h hb (by simp [hi, hp])

end ItemPipeline.Regex
