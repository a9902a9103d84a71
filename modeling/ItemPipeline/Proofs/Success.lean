import Mathlib.Data.List.Forall2
import Mathlib.Tactic.Lemma

/-!
What the success of a computation made of parts says of its parts.
-/

namespace ItemPipeline

variable {ε ε' α β : Type} {x : Except ε α}

lemma bind_eq_ok_iff {f : α → Except ε β} {b : β} : x >>= f = .ok b ↔ ∃ a, x = .ok a ∧ f a = .ok b := by
  cases x <;> simp [bind, Except.bind]

lemma map_eq_ok_iff {f : α → β} {b : β} : x.map f = .ok b ↔ ∃ a, x = .ok a ∧ f a = b := by
  cases x <;> simp [Except.map]

lemma mapError_eq_ok_iff {f : ε → ε'} {a : α} : x.mapError f = .ok a ↔ x = .ok a := by
  cases x with
  | error e =>
    change Except.error (f e) = .ok a ↔ _
    simp
  | ok b =>
    change Except.ok b = .ok a ↔ _
    simp

lemma any_toOption_iff {P : α → Bool} : x.toOption.any P = true ↔ ∃ a, x = .ok a ∧ P a = true := by
  cases x <;> simp [Except.toOption]

lemma mapM_eq_ok_iff {f : α → Except ε β} {l : List α} {bs : List β} :
    l.mapM f = .ok bs ↔ List.Forall₂ (fun a b => f a = .ok b) l bs := by
  induction l generalizing bs with
  | nil =>
    rw [List.mapM_nil, List.forall₂_nil_left_iff]
    exact ⟨fun h => (Except.ok.inj h).symm, fun h => congrArg Except.ok h.symm⟩
  | cons a l ih =>
    rw [List.mapM_cons, bind_eq_ok_iff, List.forall₂_cons_left_iff]
    refine exists_congr fun b => ?_
    rw [bind_eq_ok_iff]
    constructor
    · rintro ⟨first, bs, rest, ⟨⟩⟩
      exact ⟨bs, first, ih.1 rest, rfl⟩
    · rintro ⟨bs, first, rest, rfl⟩
      exact ⟨first, bs, ih.2 rest, rfl⟩

end ItemPipeline
