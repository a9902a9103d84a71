import Mathlib.Data.List.Forall2
import Mathlib.Tactic.Lemma

/-!
What is known of a reader's result and of the state behind it: if it goes through, and that it goes through.
-/

namespace ItemPipeline

variable {ε σ α β : Type} {s : σ}

lemma takeWhile_append {p : α → Bool} {l r : List α} (all : ∀ d ∈ l, p d = true) (stop : ∀ d ∈ r.head?, p d = false) :
    (l ++ r).takeWhile p = l := by
  rw [List.takeWhile_append_of_pos all]
  cases r with
  | nil => simp
  | cons d r => simp [stop d rfl]

/-- If the reading goes through, its result and the state behind it are related. -/
def Ensures (x : Except ε (α × σ)) (Q : α → σ → Prop) : Prop :=
  ∀ a s, x = .ok (a, s) → Q a s

def Gives (x : Except ε (α × σ)) (Q : α → σ → Prop) : Prop :=
  ∃ a s, x = .ok (a, s) ∧ Q a s

variable {x : Except ε (α × σ)} {P Q : α → σ → Prop} {R : β → σ → Prop}

@[simp]
lemma ensures_error (e : ε) : Ensures (.error e) Q := nofun

@[simp]
lemma ensures_ok {a : α} : Ensures (.ok (a, s) : Except ε (α × σ)) Q ↔ Q a s := by
  constructor
  · exact fun h => h a s rfl
  · rintro h _ _ ⟨⟩
    exact h

@[simp]
lemma gives_ok {a : α} : Gives (.ok (a, s) : Except ε (α × σ)) Q ↔ Q a s := by
  constructor
  · rintro ⟨_, _, ⟨⟩, h⟩
    exact h
  · exact fun h => ⟨a, s, rfl, h⟩

lemma Ensures.mono (h : Ensures x P) (le : ∀ a s, P a s → Q a s) : Ensures x Q :=
  fun a s eq => le a s (h a s eq)

lemma Gives.mono (h : Gives x P) (le : ∀ a s, P a s → Q a s) : Gives x Q := by
  obtain ⟨a, s, eq, h⟩ := h
  exact ⟨a, s, eq, le a s h⟩

lemma Ensures.bind {p : StateT σ (Except ε) α} {f : α → StateT σ (Except ε) β} (h : Ensures (p s) P)
    (next : ∀ a s, P a s → Ensures (f a s) R) : Ensures ((p >>= f) s) R := by
  intro b t eq
  simp only [Bind.bind, StateT.bind, Except.bind] at eq
  split at eq
  · simp at eq
  · rename_i goes
    exact next _ _ (h _ _ goes) b t eq

lemma Gives.bind {p : StateT σ (Except ε) α} {f : α → StateT σ (Except ε) β} (h : Gives (p s) P)
    (next : ∀ a s, P a s → Gives (f a s) R) : Gives ((p >>= f) s) R := by
  obtain ⟨a, t, eq, h⟩ := h
  simp only [Bind.bind, StateT.bind, Except.bind, eq]
  exact next a t h

lemma ensures_ite {p : Prop} [Decidable p] {f g : StateT σ (Except ε) α} (pos : p → Ensures (f s) Q)
    (neg : ¬p → Ensures (g s) Q) : Ensures ((if p then f else g) s) Q := by
  by_cases h : p
  · rw [if_pos h]
    exact pos h
  · rw [if_neg h]
    exact neg h

lemma ensures_true : Ensures x fun _ _ => True :=
  fun _ _ _ => trivial

lemma ensures_mapM {R : α → β → Prop} {f : α → StateT σ (Except ε) β} {l : List α}
    (h : ∀ a ∈ l, ∀ s, Ensures (f a s) fun b _ => R a b) (s : σ) :
    Ensures (l.mapM f s) fun bs _ => List.Forall₂ R l bs := by
  induction l generalizing s with
  | nil => exact ensures_ok.2 .nil
  | cons a l ih =>
    rw [List.forall_mem_cons] at h
    rw [List.mapM_cons]
    refine (h.1 s).bind fun b t first => (ih h.2 t).bind fun bs u rest => ensures_ok.2 (.cons first rest)

@[simp] lemma read_pure (a : α) (s : σ) : (pure a : StateT σ (Except ε) α) s = .ok (a, s) := rfl
@[simp] lemma read_throw (e : ε) (s : σ) : (throw e : StateT σ (Except ε) α) s = .error e := rfl
@[simp] lemma read_pure_bind (a : α) (f : α → StateT σ (Except ε) β) (s : σ) : (pure a >>= f) s = f a s := rfl
@[simp] lemma read_throw_bind (e : ε) (f : α → StateT σ (Except ε) β) (s : σ) :
    ((throw e : StateT σ (Except ε) α) >>= f) s = .error e := rfl
@[simp] lemma read_get (s : σ) : (get : StateT σ (Except ε) σ) s = .ok (s, s) := rfl
@[simp] lemma read_get_bind (f : σ → StateT σ (Except ε) β) (s : σ) : (get >>= f) s = f s s := rfl
@[simp] lemma read_set (s t : σ) : (set t : StateT σ (Except ε) PUnit) s = .ok (⟨⟩, t) := rfl
@[simp] lemma read_set_bind (f : PUnit → StateT σ (Except ε) β) (s t : σ) : (set t >>= f) s = f ⟨⟩ t := rfl
@[simp] lemma read_modify (g : σ → σ) (s : σ) : (modify g : StateT σ (Except ε) PUnit) s = .ok (⟨⟩, g s) := rfl
@[simp] lemma read_modify_bind (g : σ → σ) (f : PUnit → StateT σ (Except ε) β) (s : σ) :
    (modify g >>= f) s = f ⟨⟩ (g s) := rfl
@[simp] lemma read_throw_map (e : ε) (g : α → β) (s : σ) :
    (g <$> (throw e : StateT σ (Except ε) α)) s = .error e := rfl

end ItemPipeline
