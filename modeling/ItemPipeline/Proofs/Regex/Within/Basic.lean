import ItemPipeline.Regex.Parser
import Mathlib.Data.List.Basic
import Mathlib.Order.Nat
import Mathlib.Tactic.Lemma

/-!
A pattern is read alike on its own and in a group that ends the text: wherever both readings go through,
they give the same pattern but for places.
-/

namespace ItemPipeline.Regex

open Reader

def ending : List Char :=
  [')', '$']

/-- The second reading stands where the first does. A comment that the first ends in takes in the ending. -/
structure Beside (s t : ReadState) : Prop where
  captures : t.captures = s.captures
  ignoreSpace : t.ignoreSpace = s.ignoreSpace
  rest : t.rest = s.rest ++ ending ∨ s.rest = [] ∧ t.rest = []

/-- If both readings go through, then their results and the states behind them are related. -/
def Agree {α β : Type} (Q : α → β → ReadState → ReadState → Prop) (x : Except SyntaxError (α × ReadState))
    (y : Except SyntaxError (β × ReadState)) : Prop :=
  ∀ a s b t, x = .ok (a, s) → y = .ok (b, t) → Q a b s t

variable {α β γ δ : Type} {s t : ReadState} {Q : α → β → ReadState → ReadState → Prop}
  {P : γ → δ → ReadState → ReadState → Prop}

@[simp]
lemma agree_error (e : SyntaxError) (y : Except SyntaxError (β × ReadState)) : Agree Q (.error e) y := nofun

@[simp]
lemma agree_error_right (x : Except SyntaxError (α × ReadState)) (e : SyntaxError) : Agree Q x (.error e) := nofun

@[simp]
lemma agree_ok {a : α} {b : β} : Agree Q (.ok (a, s)) (.ok (b, t)) ↔ Q a b s t := by
  constructor
  · exact fun h => h a s b t rfl rfl
  · rintro h _ _ _ _ ⟨⟩ ⟨⟩
    exact h

lemma Agree.mono {R : α → β → ReadState → ReadState → Prop} {x : Except SyntaxError (α × ReadState)}
    {y : Except SyntaxError (β × ReadState)} (h : Agree Q x y) (le : ∀ a b s t, Q a b s t → R a b s t) :
    Agree R x y :=
  fun a s b t left right => le a b s t (h a s b t left right)

lemma Agree.bind {x : Reader γ} {y : Reader δ} {f : γ → Reader α} {g : δ → Reader β} (h : Agree P (x s) (y t))
    (next : ∀ a b s t, P a b s t → Agree Q (f a s) (g b t)) : Agree Q ((x >>= f) s) ((y >>= g) t) := by
  intro a s' b t' left right
  simp only [Bind.bind, StateT.bind, Except.bind] at left right
  split at left
  · simp at left
  · rename_i ls
    split at right
    · simp at right
    · rename_i rs
      exact next _ _ _ _ (h _ _ _ _ ls rs) _ _ _ _ left right

lemma agree_ite {p q : Prop} [Decidable p] [Decidable q] {x y : Reader α} {x' y' : Reader β} (iff : p ↔ q)
    (pos : p → Agree Q (x s) (x' t)) (neg : ¬p → Agree Q (y s) (y' t)) :
    Agree Q ((if p then x else y) s) ((if q then x' else y') t) := by
  by_cases h : p
  · rw [if_pos h, if_pos (iff.1 h)]
    exact pos h
  · rw [if_neg h, if_neg (iff.not.1 h)]
    exact neg h

@[simp] lemma run_pure (a : α) (s : ReadState) : (pure a : Reader α) s = .ok (a, s) := rfl
@[simp] lemma run_pure_bind (a : α) (f : α → Reader β) (s : ReadState) : (pure a >>= f) s = f a s := rfl
@[simp] lemma run_fail (k : Fault) (p : Span) (e : Option Span) (s : ReadState) :
    (fail k p e : Reader α) s = .error ⟨k, p, e⟩ := rfl
@[simp] lemma run_fail_bind (k : Fault) (p : Span) (e : Option Span) (f : α → Reader β) (s : ReadState) :
    ((fail k p e : Reader α) >>= f) s = .error ⟨k, p, e⟩ := rfl
@[simp] lemma run_fail_map (k : Fault) (p : Span) (e : Option Span) (f : α → β) (s : ReadState) :
    (f <$> (fail k p e : Reader α)) s = .error ⟨k, p, e⟩ := rfl
@[simp] lemma run_get (f : ReadState → Reader α) (s : ReadState) : (get >>= f) s = f s s := rfl
@[simp] lemma run_set (f : PUnit → Reader α) (s t : ReadState) : (set t >>= f) s = f ⟨⟩ t := rfl
@[simp] lemma run_set_last (s t : ReadState) : (set t : Reader PUnit) s = .ok (⟨⟩, t) := rfl
@[simp] lemma run_peek (f : Option Char → Reader α) (s : ReadState) : (peek >>= f) s = f s.rest.head? s := rfl
@[simp] lemma run_atEnd (f : Bool → Reader α) (s : ReadState) : (atEnd >>= f) s = f s.rest.isEmpty s := rfl
@[simp] lemma run_place (f : Place → Reader α) (s : ReadState) : (place >>= f) s = f s.place s := rfl
@[simp] lemma run_here (f : Span → Reader α) (s : ReadState) : (here >>= f) s = f ⟨s.place, s.place⟩ s := rfl
@[simp] lemma run_spanFrom (p : Place) (f : Span → Reader α) (s : ReadState) :
    (spanFrom p >>= f) s = f ⟨p, s.place⟩ s := rfl
@[simp] lemma run_spanChar (f : Span → Reader α) (s : ReadState) :
    (spanChar >>= f) s = f ⟨s.place, match s.rest with
      | c :: _ => s.place.after c
      | [] => s.place⟩ s := rfl

lemma Beside.cons {c : Char} {r : List Char} (h : Beside s t) (left : s.rest = c :: r) :
    t.rest = c :: (r ++ ending) := by
  obtain rest | ⟨rest, -⟩ := h.rest
  · simpa [left] using rest
  · simp [left] at rest

lemma Beside.head? (h : Beside s t) (left : s.rest = []) : t.rest.head? = some ')' ∨ t.rest.head? = none := by
  obtain rest | ⟨-, rest⟩ := h.rest
  · exact .inl (by simp [rest, left, ending])
  · exact .inr (by simp [rest])

lemma dropSpace_append (comment : Bool) (p q : Place) (u : List Char) :
    (dropSpace comment q (u ++ ending)).1 = (dropSpace comment p u).1 ++ ending ∨
      (dropSpace comment p u).1 = [] ∧ (dropSpace comment q (u ++ ending)).1 = [] := by
  induction u generalizing comment p q with
  | nil =>
    cases comment with
    | true => exact .inr ⟨rfl, rfl⟩
    | false => exact .inl rfl
  | cons c u ih =>
    simp only [List.cons_append, dropSpace]
    split
    · exact ih _ _ _
    · split
      · exact ih _ _ _
      · split
        · exact ih _ _ _
        · exact .inl rfl

lemma length_dropSpace (comment : Bool) (p : Place) (u : List Char) :
    (dropSpace comment p u).1.length ≤ u.length := by
  induction u generalizing comment p with
  | nil => simp [dropSpace]
  | cons c u ih =>
    simp only [dropSpace, List.length_cons]
    split
    · exact (ih _ _).trans (Nat.le_succ _)
    · split
      · exact (ih _ _).trans (Nat.le_succ _)
      · split
        · exact (ih _ _).trans (Nat.le_succ _)
        · exact le_rfl

lemma agree_bumpSpace (h : Beside s t) :
    Agree (fun _ _ s' t' => Beside s' t' ∧ s'.rest.length ≤ s.rest.length) (bumpSpace s) (bumpSpace t) := by
  unfold bumpSpace
  simp only [run_get, h.ignoreSpace]
  split
  · simp only [run_set_last, agree_ok]
    refine ⟨⟨h.captures, rfl, ?_⟩, length_dropSpace _ _ _⟩
    obtain rest | ⟨rest, rest'⟩ := h.rest
    · rw [rest]
      exact dropSpace_append false s.place t.place s.rest
    · simp [rest, rest', dropSpace]
  · simpa using h

lemma agree_bump {c : Char} {r : List Char} (h : Beside s t) (left : s.rest = c :: r) :
    Agree (fun a b s t => a = !r.isEmpty ∧ b = true ∧ s.rest = r ∧ Beside s t) (bump s) (bump t) := by
  unfold bump
  simp only [run_get, left, h.cons left, run_set, run_pure, agree_ok, true_and]
  exact ⟨by simp [ending], h.captures, h.ignoreSpace, .inl rfl⟩

lemma run_bind {x : Reader γ} {f : γ → Reader α} {a : γ} (h : x s = .ok (a, t)) : (x >>= f) s = f a t := by
  simp only [Bind.bind, StateT.bind, Except.bind, h]

lemma bumpSpace_of_nil (left : s.rest = []) : bumpSpace s = .ok (⟨⟩, s) := by
  unfold bumpSpace
  simp only [run_get, left, dropSpace]
  cases s
  simp only at left
  split <;> simp [left]

lemma bump_of_nil (left : s.rest = []) : bump s = .ok (false, s) := by
  simp [bump, left]

lemma bumpAndSpace_of_nil (left : s.rest = []) : bumpAndSpace s = .ok (false, s) := by
  unfold bumpAndSpace
  rw [run_bind (bump_of_nil left)]
  rfl

lemma bumpAndSpace_eq :
    bumpAndSpace = bump >>= fun _ => bumpSpace >>= fun _ => atEnd >>= fun last => pure !last := by
  funext s
  cases left : s.rest with
  | nil =>
    rw [bumpAndSpace_of_nil left]
    simp only [run_bind (bump_of_nil left), run_bind (bumpSpace_of_nil left), run_atEnd, left]
    rfl
  | cons c r =>
    have goes : bump s = .ok (!r.isEmpty, { s with rest := r, place := s.place.after c }) := by
      unfold bump
      simp only [run_get, left, run_set, run_pure]
    rw [bumpAndSpace, run_bind goes, run_bind goes]
    cases r with
    | nil =>
      simp only [run_bind (bumpSpace_of_nil _), run_atEnd]
      rfl
    | cons d r => rfl

lemma agree_bumpAndSpace {c : Char} {r : List Char} (h : Beside s t) (left : s.rest = c :: r) :
    Agree (fun a b s t => a = !s.rest.isEmpty ∧ (a = true → b = true) ∧ Beside s t ∧ s.rest.length ≤ r.length)
      (bumpAndSpace s) (bumpAndSpace t) := by
  rw [bumpAndSpace_eq]
  refine (agree_bump h left).bind ?_
  rintro _ _ s t ⟨-, -, rfl, h⟩
  refine (agree_bumpSpace h).bind ?_
  rintro _ _ s t ⟨h, le⟩
  simp only [run_atEnd, run_pure, agree_ok, true_and]
  refine ⟨fun more => ?_, h, le⟩
  cases left : s.rest with
  | nil => simp [left] at more
  | cons c r => simp [h.cons left]

lemma agree_bumpAndSpace_bind {f : Bool → Reader α} {g : Bool → Reader β} (h : Beside s t)
    (stuck : ∀ s y, Agree Q (f false s) y)
    (next : ∀ s t, Beside s t → s.rest ≠ [] → Agree Q (f true s) (g true t)) :
    Agree Q ((bumpAndSpace >>= f) s) ((bumpAndSpace >>= g) t) := by
  cases left : s.rest with
  | nil =>
    rw [run_bind (bumpAndSpace_of_nil left)]
    exact stuck s _
  | cons c r =>
    refine (agree_bumpAndSpace h left).bind ?_
    rintro a b s t ⟨rest, more, h, -⟩
    cases a with
    | false => exact stuck s _
    | true =>
      rw [more rfl]
      exact next s t h (by rintro nil; simp [nil] at rest)

lemma isPrefixOf_ending {l : List Char} (plain : ')' ∉ l) (u : List Char) :
    l.isPrefixOf (u ++ ending) = l.isPrefixOf u := by
  induction u generalizing l with
  | nil =>
    cases l with
    | nil => rfl
    | cons c l => simp [List.isPrefixOf, ending, Ne.symm (List.ne_of_not_mem_cons plain)]
  | cons d u ih =>
    cases l with
    | nil => rfl
    | cons c l => simp [List.isPrefixOf, ih (List.not_mem_of_not_mem_cons plain)]

lemma agree_bumps {l r : List Char} (h : Beside s t) (left : s.rest = l ++ r) :
    Agree (fun _ _ s t => Beside s t)
      ((forIn l PUnit.unit fun _ _ => do
        let _ ← bump
        pure (ForInStep.yield PUnit.unit) : Reader PUnit) s)
      ((forIn l PUnit.unit fun _ _ => do
        let _ ← bump
        pure (ForInStep.yield PUnit.unit) : Reader PUnit) t) := by
  induction l generalizing s t with
  | nil => simpa using h
  | cons c l ih =>
    simp only [List.forIn_cons, bind_assoc, pure_bind]
    refine (agree_bump h left).bind ?_
    rintro _ _ s t ⟨-, -, left, h⟩
    exact ih h left

lemma agree_bumpIf {x : String} (h : Beside s t) (plain : ')' ∉ x.toList) :
    Agree (fun a b s t => a = b ∧ Beside s t) (bumpIf x s) (bumpIf x t) := by
  have same : x.toList.isPrefixOf t.rest = x.toList.isPrefixOf s.rest := by
    obtain rest | ⟨rest, rest'⟩ := h.rest
    · rw [rest, isPrefixOf_ending plain]
    · rw [rest, rest']
  unfold bumpIf
  simp only [run_get, same]
  split
  · rename_i here
    obtain ⟨r, left⟩ := List.isPrefixOf_iff_prefix.1 here
    refine (agree_bumps h left.symm).bind ?_
    rintro _ _ s t h
    simpa using h
  · simpa using h

lemma Beside.length_le (h : Beside s t) : s.rest.length ≤ t.rest.length := by
  obtain rest | ⟨rest, -⟩ := h.rest
  · simp [rest]
  · simp [rest]

/-- A loop that takes characters as long as they pass a test, which a parenthesis does not. -/
lemma agree_loop {σ ρ : Type} (loop : σ → Nat → Reader ρ) (out : σ → ρ) (test : Char → Bool) (next : σ → Char → σ)
    {advance : Reader Bool} (zero : ∀ a, loop a 0 = pure (out a))
    (succ : ∀ a n, loop a (n + 1) = peek >>= fun c => match c with
      | some c => if test c then advance >>= fun _ => loop (next a c) n else pure (out a)
      | none => pure (out a))
    (paren : test ')' = false) (step : advance = bump ∨ advance = bumpAndSpace) (acc : σ) {n m : Nat}
    (h : Beside s t) (enough : s.rest.length ≤ n) (le : n ≤ m) :
    Agree (fun a b s t => a = b ∧ Beside s t ∧ s.rest.length ≤ n) (loop acc n s) (loop acc m t) := by
  have stops (s : ReadState) (head : s.rest.head? = some ')' ∨ s.rest.head? = none) (acc : σ) (n : Nat) :
      loop acc n s = .ok (out acc, s) := by
    cases n with
    | zero => rw [zero, run_pure]
    | succ n =>
      rw [succ, run_peek]
      obtain head | head := head
      · simp [head, paren]
      · simp [head]
  induction n generalizing m s t acc with
  | zero =>
    have nil : s.rest = [] := List.eq_nil_of_length_eq_zero (by omega)
    rw [stops s (.inr (by simp [nil])), stops t (h.head? nil)]
    exact agree_ok.2 ⟨rfl, h, enough⟩
  | succ n ih =>
    cases left : s.rest with
    | nil =>
      rw [stops s (.inr (by simp [left])), stops t (h.head? left)]
      exact agree_ok.2 ⟨rfl, h, by simp [left]⟩
    | cons c r =>
      obtain ⟨m, rfl⟩ : ∃ k, m = k + 1 := ⟨m - 1, by omega⟩
      simp only [left, List.length_cons] at enough
      rw [succ, succ]
      simp only [run_peek, left, h.cons left, List.head?_cons]
      refine agree_ite Iff.rfl (fun _ => ?_) fun _ => agree_ok.2 ⟨rfl, h, by simpa [left] using enough⟩
      refine Agree.bind (P := fun _ _ s t => Beside s t ∧ s.rest.length ≤ n) ?_ fun _ _ s t ⟨h, length⟩ =>
        (ih _ h length (by omega)).mono fun _ _ _ _ ⟨eq, h, le⟩ => ⟨eq, h, by omega⟩
      obtain rfl | rfl := step
      · exact (agree_bump h left).mono fun _ _ _ _ ⟨_, _, rest, h⟩ => ⟨h, by rw [rest]; omega⟩
      · exact (agree_bumpAndSpace h left).mono fun _ _ _ _ ⟨_, _, h, le⟩ => ⟨h, by omega⟩

end ItemPipeline.Regex
