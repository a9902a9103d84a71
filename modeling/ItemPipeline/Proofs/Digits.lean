import ItemPipeline.Text.Digits
import Mathlib.Data.List.Basic
import Mathlib.Data.String.Basic
import Mathlib.Tactic.Lemma

/-!
Whole numbers written with decimal digits are read as what they were written from.
-/

namespace ItemPipeline.Text

variable {d : Char} {l : List Char}

lemma isDigit_eq (d : Char) : isDigit d = d.isDigit := by
  rw [Bool.eq_iff_iff]
  simp [isDigit, Char.isDigit, UInt32.le_iff_toNat_le]

lemma digit?_of_isDigit (digit : isDigit d = true) : digit? 10 d = some (d.toNat - 48) := by
  have bounds : 48 ≤ d.toNat ∧ d.toNat ≤ 57 := by simpa [isDigit] using digit
  have low : d.toNat - 48 < 10 := by omega
  simp [digit?, bounds, low]

lemma digitsFrom?_of_isDigit (digits : ∀ d ∈ l, isDigit d = true) (acc : Nat) :
    digitsFrom? 10 acc l = some (Nat.ofDigitChars 10 l acc) := by
  induction l generalizing acc with
  | nil => rfl
  | cons d l ih =>
    rw [List.forall_mem_cons] at digits
    rw [digitsFrom?, digit?_of_isDigit digits.1, Option.bind_some, ih digits.2, Nat.ofDigitChars_cons, Nat.mul_comm]
    rfl

lemma isDigit_toDigits (n : Nat) : ∀ d ∈ Nat.toDigits 10 n, isDigit d = true := by
  intro d hd
  rw [isDigit_eq]
  exact Nat.isDigit_of_mem_toDigits (by decide) (by decide) hd

lemma digits?_toDigits (n : Nat) : digits? 10 (Nat.toDigits 10 n) = some n := by
  rw [digits?, if_neg Nat.toDigits_ne_nil, digitsFrom?_of_isDigit (isDigit_toDigits n),
    Nat.ofDigitChars_toDigits (by decide) (by decide)]

lemma head?_toDigits (n : Nat) (h : (Nat.toDigits 10 n).head? = some '0') : n = 0 := by
  induction n using Nat.strong_induction_on with
  | _ n ih =>
    rw [Nat.toDigits_eq_if (by decide)] at h
    split_ifs at h with small
    · have only : ∀ m < 10, Nat.digitChar m = '0' → m = 0 := by decide
      exact only n small (by simpa using h)
    · rw [List.head?_append_of_ne_nil _ Nat.toDigits_ne_nil] at h
      have := ih (n / 10) (by omega) h
      omega

end ItemPipeline.Text
