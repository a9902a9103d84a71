import ItemPipeline.Proofs.Regex.Within.Escapes

/-!
Bracketed classes, read alike in both texts.
-/

namespace ItemPipeline.Regex

open Reader

variable {α β γ δ : Type} {s t : ReadState} {Q : α → β → ReadState → ReadState → Prop}
  {P : γ → δ → ReadState → ReadState → Prop}

lemma agree_readClassItem (h : Beside s t) :
    Agree (fun a b s t => a.1 = b.1 ∧ Beside s t) (readClassItem s) (readClassItem t) := by
  unfold readClassItem
  simp only [run_place]
  cases left : s.rest with
  | nil => simp [left]
  | cons c r =>
    simp only [run_peek, left, h.cons left, List.head?_cons]
    by_cases backslash : c = '\\'
    · subst backslash
      refine (agree_readEscape h left).bind ?_
      rintro p _ s t ⟨rfl, h⟩
      exact agree_ok.2 ⟨rfl, h⟩
    simp only
    refine (agree_bump h left).bind ?_
    rintro _ _ s t ⟨-, -, -, h⟩
    exact agree_ok.2 ⟨rfl, h⟩

lemma agree_classItem {p : Primitive} {a b : Span} (h : Beside s t) :
    Agree (fun a b s t => a.erase = b.erase ∧ Beside s t) (classItem p a s) (classItem p b t) := by
  cases p with
  | literal c isByte => exact agree_ok.2 ⟨rfl, h⟩
  | named k n => exact agree_ok.2 ⟨rfl, h⟩
  | property p n => exact agree_ok.2 ⟨rfl, h⟩
  | dot => simp [classItem]
  | anchor a => simp [classItem]

lemma agree_classLiteral {p : Primitive} {a b : Span} (h : Beside s t) :
    Agree (fun a b s t => (a.char = b.char ∧ a.erase = b.erase) ∧ Beside s t) (classLiteral p a s)
      (classLiteral p b t) := by
  cases p with
  | literal c isByte => exact agree_ok.2 ⟨⟨rfl, rfl⟩, h⟩
  | named k n => simp [classLiteral]
  | property p n => simp [classLiteral]
  | dot => simp [classLiteral]
  | anchor a => simp [classLiteral]

lemma dropSpace_place (comment : Bool) (p q : Place) (u : List Char) :
    (dropSpace comment p u).1 = (dropSpace comment q u).1 := by
  induction u generalizing comment p q with
  | nil => rfl
  | cons c u ih =>
    simp only [dropSpace]
    split
    · exact ih _ _ _
    · split
      · exact ih _ _ _
      · split
        · exact ih _ _ _
        · rfl

def second (s : ReadState) (r : List Char) : List Char :=
  if s.ignoreSpace then (dropSpace false s.place r).1 else r

lemma run_peekSecond {c : Char} {r : List Char} (left : s.rest = c :: r) (f : Option Char → Reader α) :
    (peekSecond >>= f) s = f (second s r).head? s := by
  unfold peekSecond second
  simp only [bind_assoc, run_get, left]
  split <;> rfl

lemma second_ending (h : Beside s t) (r : List Char) :
    second t (r ++ ending) = second s r ++ ending ∨ second s r = [] := by
  unfold second
  rw [h.ignoreSpace]
  split
  · exact (dropSpace_append false s.place t.place r).imp_right (·.1)
  · exact .inl rfl

lemma bumpAndSpace_of_second {c : Char} {r : List Char} (left : s.rest = c :: r) (last : second s r = []) :
    ∃ s', bumpAndSpace s = .ok (false, s') := by
  have goes : bump s = .ok (!r.isEmpty, { s with rest := r, place := s.place.after c }) := by
    unfold bump
    simp only [run_get, left, run_set, run_pure]
  rw [bumpAndSpace_eq, run_bind goes]
  unfold second at last
  unfold bumpSpace
  simp only [bind_assoc, run_get]
  split at last
  · rename_i space
    simp only [space, if_true, run_set, dropSpace_place false (s.place.after c) s.place, last]
    exact ⟨_, rfl⟩
  · rename_i space
    simp only [space, last]
    exact ⟨_, rfl⟩

lemma agree_readClassRange {a b : Span} (h : Beside s t) :
    Agree (fun a b s t => a.erase = b.erase ∧ Beside s t) (readClassRange a s) (readClassRange b t) := by
  unfold readClassRange
  refine (agree_readClassItem h).bind ?_
  rintro ⟨p, a⟩ ⟨_, b⟩ s t ⟨rfl, h⟩
  refine (agree_bumpSpace h).bind ?_
  rintro _ _ s t ⟨h, -⟩
  cases left : s.rest with
  | nil => simp [left]
  | cons c r =>
    simp only [run_peek, left, h.cons left, List.head?_cons, run_peekSecond left, run_peekSecond (h.cons left)]
    by_cases dash : c = '-'
    · cases next : second s r with
      | nil =>
        obtain ⟨s', stuck⟩ := bumpAndSpace_of_second left next
        simp [dash, run_bind stuck]
      | cons d u =>
        have same := (second_ending h r).resolve_right (by simp [next])
        refine agree_ite (by simp [same, next]) (fun _ => agree_classItem h) fun _ => ?_
        refine agree_bumpAndSpace_bind h (fun _ _ => by simp) fun s t h _ => ?_
        simp only [Bool.not_true, Bool.false_eq_true, if_false]
        refine (agree_readClassItem h).bind ?_
        rintro ⟨q, a'⟩ ⟨_, b'⟩ s t ⟨rfl, h⟩
        refine (agree_classLiteral h).bind ?_
        rintro x x' s t ⟨⟨first, hx⟩, h⟩
        refine (agree_classLiteral h).bind ?_
        rintro y y' s t ⟨⟨last, hy⟩, h⟩
        refine agree_ite (by rw [first, last]) (fun _ => agree_ok.2 ⟨?_, h⟩) (fun _ => by simp)
        simp [ClassExpr.erase, hx, hy]
    · exact agree_ite (by simp [dash]) (fun _ => agree_classItem h) fun not => absurd (.inl dash) not

lemma cutAt_ending (u : List Char) :
    Text.cutAt ':' (u ++ ending) = (Text.cutAt ':' u).map fun (a, b) => (a, b ++ ending) := by
  induction u with
  | nil => rfl
  | cons c u ih =>
    simp only [List.cons_append, Text.cutAt]
    split
    · rfl
    · simp only [ih, Option.map_map]
      rfl

lemma plain_of_ofName? {name : List Char} {k : AsciiClass} (h : AsciiClass.ofName? (String.ofList name) = some k) :
    ')' ∉ name := by
  unfold AsciiClass.ofName? at h
  split at h
  case h_15 => simp at h
  all_goals
    rename_i eq
    rw [← String.toList_ofList (l := name), eq]
    decide

def readNamed (start : Place) (negated : Bool) (r : List Char) : Reader (Option ClassExpr) :=
  match Text.cutAt ':' r with
  | some (name, ']' :: _) =>
    match AsciiClass.ofName? (String.ofList name) with
    | some k => do
      let _ ← bumpIf (String.ofList ("[:".toList ++ (if negated then ['^'] else []) ++ name ++ ":]".toList))
      pure (some (.ascii k negated ⟨start, (← get).place⟩))
    | none => pure none
  | _ => pure none

lemma readAsciiClass_of_caret {r : List Char} (left : s.rest = '[' :: ':' :: '^' :: r) :
    readAsciiClass s = readNamed s.place true r s := by
  unfold readAsciiClass
  simp only [run_get, left]
  rfl

lemma readAsciiClass_of_colon {r : List Char} (left : s.rest = '[' :: ':' :: r) (plain : r.head? ≠ some '^') :
    readAsciiClass s = readNamed s.place false r s := by
  unfold readAsciiClass
  simp only [run_get, left]
  split
  · exact absurd rfl plain
  · rfl

lemma readAsciiClass_of_plain (left : ∀ r, s.rest ≠ '[' :: ':' :: r) : readAsciiClass s = .ok (none, s) := by
  unfold readAsciiClass
  simp only [run_get]
  rfl

lemma agree_readNamed {p q : Place} {negated : Bool} {r : List Char} (h : Beside s t) :
    Agree (fun a b s t => a.map ClassExpr.erase = b.map ClassExpr.erase ∧ Beside s t) (readNamed p negated r s)
      (readNamed q negated (r ++ ending) t) := by
  unfold readNamed
  rw [cutAt_ending]
  cases Text.cutAt ':' r with
  | none => exact agree_ok.2 ⟨rfl, h⟩
  | some p =>
    obtain ⟨name, u⟩ := p
    cases u with
    | nil => exact agree_ok.2 ⟨rfl, h⟩
    | cons c u =>
      by_cases close : c = ']'
      · subst close
        simp only [Option.map_some, List.cons_append]
        cases known : AsciiClass.ofName? (String.ofList name) with
        | none => exact agree_ok.2 ⟨rfl, h⟩
        | some k =>
          have plain := plain_of_ofName? known
          refine (agree_bumpIf h ?_).bind ?_
          · cases negated <;> simpa using plain
          · rintro _ _ s t ⟨-, h⟩
            exact agree_ok.2 ⟨rfl, h⟩
      · simpa [close] using h

lemma agree_readAsciiClass (h : Beside s t) :
    Agree (fun a b s t => a.map ClassExpr.erase = b.map ClassExpr.erase ∧ Beside s t) (readAsciiClass s)
      (readAsciiClass t) := by
  by_cases colon : ∃ r, s.rest = '[' :: ':' :: r
  · obtain ⟨r, left⟩ := colon
    by_cases caret : ∃ u, r = '^' :: u
    · obtain ⟨u, rfl⟩ := caret
      rw [readAsciiClass_of_caret left, readAsciiClass_of_caret (h.cons left)]
      exact agree_readNamed h
    · have plain : r.head? ≠ some '^' ∧ (r ++ ending).head? ≠ some '^' := by
        cases r with
        | nil => simp [ending]
        | cons c r => simp_all
      rw [readAsciiClass_of_colon left plain.1, readAsciiClass_of_colon (h.cons left) plain.2]
      exact agree_readNamed h
  · have plain : ∀ r, t.rest ≠ '[' :: ':' :: r := by
      intro r right
      cases left : s.rest with
      | nil =>
        obtain head | head := h.head? left
        · simp [right] at head
        · simp [right] at head
      | cons c u =>
        have := h.cons left
        cases u with
        | nil => simp_all [ending]
        | cons d u => simp_all
    rw [readAsciiClass_of_plain fun r left => colon ⟨r, left⟩, readAsciiClass_of_plain plain]
    exact agree_ok.2 ⟨rfl, h⟩

lemma dashes_at_end {p : Place} (acc : ClassExpr) (h : t.rest.head? = some ')' ∨ t.rest.head? = none) (n : Nat) :
    readDashes p acc n t = .ok (acc, t) := by
  cases n with
  | zero => rfl
  | succ n =>
    rw [readDashes]
    obtain head | head := h
    · simp only [run_peek, head]
      rfl
    · simp only [run_peek, head]
      rfl

lemma agree_readDashes {p q : Place} {acc : ClassExpr} {n m : Nat} (h : Beside s t) (enough : s.rest.length ≤ n)
    (le : n ≤ m) : Agree (fun a b s t => a = b ∧ Beside s t) (readDashes p acc n s) (readDashes q acc m t) := by
  induction n generalizing m s t acc with
  | zero =>
    have nil : s.rest = [] := List.eq_nil_of_length_eq_zero (by omega)
    rw [dashes_at_end acc (h.head? nil)]
    exact agree_ok.2 ⟨rfl, h⟩
  | succ n ih =>
    cases left : s.rest with
    | nil =>
      rw [dashes_at_end acc (.inr (by simp [left])), dashes_at_end acc (h.head? left)]
      exact agree_ok.2 ⟨rfl, h⟩
    | cons c r =>
      obtain ⟨m, rfl⟩ : ∃ k, m = k + 1 := ⟨m - 1, by omega⟩
      simp only [left, List.length_cons] at enough
      simp only [readDashes, run_peek, left, h.cons left, List.head?_cons]
      refine agree_ite Iff.rfl (fun _ => ?_) fun _ => agree_ok.2 ⟨rfl, h⟩
      refine (agree_bumpAndSpace h left).bind ?_
      rintro _ _ s t ⟨-, -, h, length⟩
      split
      · simp
      · split
        · simp
        · exact ih h (by omega) (by omega)

def readOpened (start : Place) (negated : Bool) : Reader OpenClass := do
  let items ← readDashes start .empty (← get).rest.length
  let items ← match items, ← peek with
    | .empty, some ']' => do
      if !(← bumpAndSpace) then fail .classUnclosed (← spanFrom start)
      pure (.union .empty (.literal { char := ']' }))
    | _, _ => pure items
  pure ⟨← spanFrom start, negated, items⟩

lemma readClassOpen_eq : readClassOpen = (do
    let start ← place
    if !(← bumpAndSpace) then fail .classUnclosed (← spanFrom start)
    let negated := (← peek) = some '^'
    if negated then
      if !(← bumpAndSpace) then fail .classUnclosed (← spanFrom start)
    readOpened start negated) :=
  rfl

lemma agree_readOpened {p q : Place} {negated : Bool} (h : Beside s t) :
    Agree (fun a b s t => (a.negated = b.negated ∧ a.items = b.items) ∧ Beside s t) (readOpened p negated s)
      (readOpened q negated t) := by
  unfold readOpened
  simp only [run_get]
  refine (agree_readDashes h le_rfl h.length_le).bind ?_
  rintro items _ s t ⟨rfl, h⟩
  simp only [run_peek]
  cases items with
  | empty =>
    cases left : s.rest with
    | nil =>
      obtain head | head := h.head? left
      · rw [head]
        exact agree_ok.2 ⟨⟨rfl, rfl⟩, h⟩
      · rw [head]
        exact agree_ok.2 ⟨⟨rfl, rfl⟩, h⟩
    | cons c r =>
      simp only [h.cons left, List.head?_cons]
      by_cases bracket : c = ']'
      · subst bracket
        refine agree_bumpAndSpace_bind h (fun _ _ => by simp) fun s t h _ => ?_
        exact agree_ok.2 ⟨⟨rfl, rfl⟩, h⟩
      · have other : ClassExpr.empty = .empty → some c = some ']' → False := by simpa using bracket
        simp only
        exact agree_ok.2 ⟨⟨rfl, rfl⟩, h⟩
  | _ => exact agree_ok.2 ⟨⟨rfl, rfl⟩, h⟩

lemma agree_readClassOpen (h : Beside s t) :
    Agree (fun a b s t => (a.negated = b.negated ∧ a.items = b.items) ∧ Beside s t) (readClassOpen s)
      (readClassOpen t) := by
  rw [readClassOpen_eq]
  simp only [run_place]
  refine agree_bumpAndSpace_bind h (fun _ _ => by simp) fun s t h more => ?_
  obtain ⟨d, u, left⟩ := List.exists_cons_of_ne_nil more
  simp only [Bool.not_true, Bool.false_eq_true, if_false, run_peek, left, h.cons left, List.head?_cons]
  refine agree_ite Iff.rfl (fun _ => ?_) fun _ => agree_readOpened h
  refine agree_bumpAndSpace_bind h (fun _ _ => by simp) fun s t h _ => ?_
  exact agree_readOpened h

def ErasedAlike (a b : Option (SetOp × ClassExpr)) : Prop :=
  a.map (fun p => (p.1, p.2.erase)) = b.map fun p => (p.1, p.2.erase)

lemma erase_applyOp {pending pending' : Option (SetOp × ClassExpr)} {e e' : ClassExpr}
    (hp : ErasedAlike pending pending') (he : e.erase = e'.erase) :
    (applyOp pending e).erase = (applyOp pending' e').erase := by
  cases pending with
  | none =>
    cases pending' with
    | none => exact he
    | some p => simp [ErasedAlike] at hp
  | some p =>
    cases pending' with
    | none => simp [ErasedAlike] at hp
    | some p' =>
      obtain ⟨hk, hc⟩ : p.1 = p'.1 ∧ p.2.erase = p'.2.erase := by simpa [ErasedAlike] using hp
      simp [applyOp, ClassExpr.erase, hk, hc, he]

lemma second_char (h : Beside s t) {c d : Char} {r : List Char} (left : s.rest = c :: r) (hd : d ≠ ')') :
    t.rest[1]? = some d ↔ s.rest[1]? = some d := by
  rw [left, h.cons left]
  cases r with
  | nil => simp [ending, hd.symm]
  | cons e r => simp

lemma agree_readClassBody {o o' : OpenClass} {pending pending' : Option (SetOp × ClassExpr)}
    {items items' : ClassExpr} {n m : Nat} (h : Beside s t) (negated : o.negated = o'.negated)
    (hp : ErasedAlike pending pending') (hi : items.erase = items'.erase) :
    Agree (fun a b s t => a.erase = b.erase ∧ Beside s t) (readClassBody o pending items n s)
      (readClassBody o' pending' items' m t) := by
  induction n generalizing m s t o o' pending pending' items items' with
  | zero => simp [readClassBody]
  | succ n ih =>
    cases m with
    | zero => simp [readClassBody]
    | succ m =>
      unfold readClassBody
      refine (agree_bumpSpace h).bind ?_
      rintro _ _ s t ⟨h, -⟩
      cases left : s.rest with
      | nil => simp [left]
      | cons c r =>
        simp only [run_peek, left, h.cons left, List.head?_cons]
        by_cases inner : c = '['
        · subst inner
          refine (agree_readAsciiClass h).bind ?_
          rintro e e' s t ⟨same, h⟩
          cases e with
          | some e =>
            obtain ⟨e', rfl, he⟩ := Option.map_eq_some_iff.1 same.symm
            exact ih h negated hp (by simp [ClassExpr.erase, hi, he])
          | none =>
            obtain rfl : e' = none := by simpa using same.symm
            refine (agree_readClassOpen h).bind ?_
            rintro o₁ o₂ s t ⟨⟨negated', start⟩, h⟩
            refine (ih h negated' rfl (congrArg _ start)).bind ?_
            rintro e e' s t ⟨he, h⟩
            exact ih h negated hp (by simp [ClassExpr.erase, hi, he])
        by_cases close : c = ']'
        · subst close
          refine (agree_bump h left).bind ?_
          rintro _ _ s t ⟨-, -, -, h⟩
          exact agree_ok.2 ⟨by simp [ClassExpr.erase, negated, erase_applyOp hp hi], h⟩
        simp only [run_get]
        have operator (k : SetOp) {d : Char} (two : s.rest[1]? = some d) :
            Agree (fun a b s t => a.erase = b.erase ∧ Beside s t)
              ((bump >>= fun _ => bump >>= fun _ =>
                readClassBody o (some (k, applyOp pending items)) .empty n) s)
              ((bump >>= fun _ => bump >>= fun _ =>
                readClassBody o' (some (k, applyOp pending' items')) .empty m) t) := by
          obtain ⟨u, rfl⟩ : ∃ u, r = d :: u := by
            cases r with
            | nil => simp [left] at two
            | cons e u => exact ⟨u, by simpa [left] using two⟩
          refine (agree_bump h left).bind ?_
          rintro _ _ s t ⟨-, -, left, h⟩
          refine (agree_bump h left).bind ?_
          rintro _ _ s t ⟨-, -, -, h⟩
          exact ih h negated (by simp [ErasedAlike, erase_applyOp hp hi]) rfl
        have item : Agree (fun a b s t => a.erase = b.erase ∧ Beside s t)
            ((readClassRange o.span >>= fun e => readClassBody o pending (.union items e) n) s)
            ((readClassRange o'.span >>= fun e => readClassBody o' pending' (.union items' e) m) t) := by
          refine (agree_readClassRange h).bind ?_
          rintro e e' s t ⟨he, h⟩
          exact ih h negated hp (by simp [ClassExpr.erase, hi, he])
        have pair (d : Char) (hd : d ≠ ')') :
            c = d ∧ t.rest[1]? = some d ↔ c = d ∧ s.rest[1]? = some d :=
          and_congr_right fun _ => second_char h left hd
        simp only [pair '&' (by decide), pair '-' (by decide), pair '~' (by decide)]
        by_cases amp : c = '&' ∧ s.rest[1]? = some '&'
        · simp only [if_pos amp]
          exact operator .inter amp.2
        by_cases dash : c = '-' ∧ s.rest[1]? = some '-'
        · simp only [if_neg amp, if_pos dash]
          exact operator .diff dash.2
        by_cases tilde : c = '~' ∧ s.rest[1]? = some '~'
        · simp only [if_neg amp, if_neg dash, if_pos tilde]
          exact operator .symmDiff tilde.2
        · simp only [if_neg amp, if_neg dash, if_neg tilde]
          exact item

lemma agree_readClass (h : Beside s t) :
    Agree (fun a b s t => a.erase = b.erase ∧ Beside s t) (readClass s) (readClass t) := by
  unfold readClass
  simp only [run_place]
  refine (agree_readClassOpen h).bind ?_
  rintro o o' s t ⟨⟨negated, start⟩, h⟩
  simp only [run_get]
  refine (agree_readClassBody h negated rfl (congrArg _ start)).bind ?_
  rintro e e' s t ⟨he, h⟩
  exact agree_ok.2 ⟨by simp [Pattern.erase, he], h⟩

end ItemPipeline.Regex
