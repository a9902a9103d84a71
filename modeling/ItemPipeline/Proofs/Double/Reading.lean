import ItemPipeline.Proofs.Double.Arithmetic
import ItemPipeline.Proofs.Numerals
import ItemPipeline.Value.Basic

/-!
What is read as a word of 64 bits is read as a double, too: the one nearest to it.
-/

namespace ItemPipeline

open Text

variable {n : ℕ} {s l sign : List Char}

lemma Text.Numeral.isDigit (numeral : Numeral 10 l n) {c : Char} (hc : c ∈ l) : isDigit c = true := by
  obtain ⟨d, digit⟩ := numeral.exists_digit (by decide) hc
  rw [digit?_eq_some_iff (by decide), standsFor_iff (by decide)] at digit
  simp [Text.isDigit]
  omega

lemma Text.isAlpha_eq_false {c : Char} (digit : isDigit c = true) : c.isAlpha = false := by
  have bounds : 48 ≤ c.toNat ∧ c.toNat ≤ 57 := by simpa [isDigit] using digit
  rw [Exposition.isAlpha_eq, Bool.eq_false_iff, ne_eq, Bool.or_eq_true, Exposition.isUpper_iff, Exposition.isLower_iff]
  omega

lemma Text.toLower_eq_self {c : Char} (digit : isDigit c = true) : c.toLower = c := by
  have noLetter : c.isUpper = false := (Bool.or_eq_false_iff.1 (isAlpha_eq_false digit)).1
  exact dif_neg (of_decide_eq_false noLetter)

lemma Text.Numeral.ne_nil {base : ℕ} (numeral : Numeral base l n) : l ≠ [] := by
  obtain ⟨ds, ne, digits, -⟩ := numeral
  rintro rfl
  exact ne (List.forall₂_nil_left_iff.1 digits)

namespace Decimal

lemma sign_signed (hs : sign ∈ signs) (numeral : Numeral 10 l n) : Decimal.sign (sign ++ l) = (false, l) := by
  obtain ⟨c, r, rfl⟩ := List.exists_cons_of_ne_nil numeral.ne_nil
  have digit := numeral.isDigit List.mem_cons_self
  rcases mem_signs.1 hs with rfl | rfl
  · rw [List.nil_append, Decimal.sign]
    · rintro r ⟨⟩
      simp [isDigit] at digit
    · rintro r ⟨⟩
      simp [isDigit] at digit
  · rfl

lemma spanDigits_numeral (numeral : Numeral 10 l n) : spanDigits l = (l, []) := by
  have digits : ∀ c ∈ l, isDigit c = true := fun c hc => numeral.isDigit hc
  rw [spanDigits, List.takeWhile_eq_self_iff.2 digits, List.dropWhile_eq_nil_iff.2 digits]

lemma parse?_signed (hs : sign ∈ signs) (numeral : Numeral 10 l n) : parse? (sign ++ l) = some ⟨false, n, 0⟩ := by
  have read := (digits?_eq_some_iff (by decide)).2 numeral
  simp only [parse?, sign_signed hs numeral, spanDigits_numeral numeral]
  simp [numeral.ne_nil, read, exponent?]

lemma is_toFloat (small : n ≤ 2 ^ 64) : Double.Is (toFloat ⟨false, n, 0⟩) (Double.nearest n) := by
  rw [toFloat, if_neg Bool.false_ne_true, magnitude]
  dsimp only
  split_ifs with zero large tiny
  · rw [zero, Nat.cast_zero, Double.nearest_zero]
    exact Double.is_zero
  · have few : (Nat.toDigits 10 n).length ≤ 20 := Nat.toDigits_length 10 n 20 (by decide) (by omega)
    omega
  · omega
  · exact Double.is_ofScientific small

end Decimal

lemma readFloat?_signed (hs : sign ∈ signs) (numeral : Numeral 10 l n) :
    readFloat? (sign ++ l) = some (Decimal.toFloat ⟨false, n, 0⟩) := by
  have digits : ∀ c ∈ l, isDigit c = true := fun c hc => numeral.isDigit hc
  have same : lowerAscii l = l := (List.map_congr_left fun c hc => toLower_eq_self (digits c hc)).trans (List.map_id l)
  have noName {name : List Char} (letter : Char) (inName : letter ∈ name) (noDigit : isDigit letter = false) :
      l ≠ name := by
    rintro rfl
    simp [digits letter inName] at noDigit
  simp only [readFloat?, Decimal.sign_signed hs numeral, Decimal.parse?_signed hs numeral, same]
  rw [if_neg, if_neg (noName 'n' (by decide) (by decide))]
  · rfl
  · exact not_or.2 ⟨noName 'i' (by decide) (by decide), noName 'i' (by decide) (by decide)⟩

lemma readUInt64?_trimBlanks (s : List Char) : readUInt64? (trimBlanks s) = readUInt64? s := by
  rw [readUInt64?, trimBlanks_trimBlanks]
  rfl

lemma readDouble?_trimBlanks (s : List Char) : readDouble? (trimBlanks s) = readDouble? s := by
  rw [readDouble?, trimBlanks_trimBlanks]
  rfl

lemma readDouble?_of_readUInt64? {k : UInt64} (read : readUInt64? s = some k) :
    ∃ x, readDouble? s = some x ∧ Double.Is x (Double.nearest k.toNat) := by
  obtain ⟨sign, hs, l, eq, numeral⟩ := (uint64?_eq_some_iff (by decide)).1 read
  have value := Decimal.is_toFloat k.toNat_lt.le
  have noLetter : ∀ c ∈ sign ++ l, c.isAlpha = false := by
    rw [List.forall_mem_append]
    refine ⟨?_, fun c hc => isAlpha_eq_false (numeral.isDigit hc)⟩
    rcases mem_signs.1 hs with rfl | rfl
    · exact List.forall_mem_nil _
    · exact List.forall_mem_singleton.2 rfl
  have plain : ¬ (sign ++ l = [] ∨ (sign ++ l).any (fun c => c.isAlpha && c != 'e' && c != 'E') = true) := by
    rintro (empty | letter)
    · exact numeral.ne_nil (List.append_eq_nil_iff.1 empty).2
    · obtain ⟨c, hc, alpha⟩ := List.any_eq_true.1 letter
      simp [noLetter c hc] at alpha
  refine ⟨_, ?_, value⟩
  rw [readDouble?, eq]
  simp only [if_neg plain, readFloat?_signed hs numeral, Option.filter_some, value.isFinite, if_true]

end ItemPipeline
