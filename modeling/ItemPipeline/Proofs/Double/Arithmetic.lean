import ItemPipeline.Proofs.Double.Rounding

/-!
Arithmetic of doubles: a product or a quotient is the double nearest to that of the fractions, and so is a whole number
turned into a double.
-/

namespace ItemPipeline.Double

open Float.Model Float.Model.UnpackedFloat

variable {u v : UnpackedFloat} {p q : ℚ} {x y : Float}

section Signs

variable (s s' : Sign) (p q : ℚ)

lemma signed_mul : signed (s * s') (p * q) = signed s p * signed s' q := by
  cases s <;> cases s'
  · exact (neg_mul_neg p q).symm
  · exact (neg_mul p q).symm
  · exact (mul_neg p q).symm
  · rfl

lemma signed_div : signed (s / s') (p / q) = signed s p / signed s' q := by
  cases s <;> cases s'
  · exact (neg_div_neg_eq p q).symm
  · exact (neg_div q p).symm
  · exact (div_neg p).symm
  · rfl

lemma nearest_signed : nearest (signed s p) = signed s (nearest p) := by
  cases s
  · exact nearest_neg p
  · rfl

lemma abs_signed : |signed s p| = |p| := by
  cases s
  · exact abs_neg p
  · rfl

end Signs

lemma Stands.neg (hp : Stands u p) : Stands u.neg (-p) := by
  cases hp with
  | zero => rw [neg_zero]; exact .zero
  | @finite s m e pos kept =>
    have flipped : -signed s (m * 2 ^ e) = signed (-s) (m * 2 ^ e) := by
      cases s
      · exact neg_neg _
      · rfl
    rw [flipped]
    exact .finite kept

lemma Stands.mul (hp : Stands u p) (hq : Stands v q) (small : |p * q| < 2 ^ (1023 : ℤ)) :
    Stands (UnpackedFloat.mul .binary64 u v) (nearest (p * q)) := by
  cases hp with
  | zero =>
    rw [zero_mul, nearest_zero]
    cases hq <;> exact .zero
  | @finite s m e pos kept =>
    cases hq with
    | zero =>
      rw [mul_zero, nearest_zero]
      exact .zero
    | @finite s' m' e' pos' kept' =>
      have whole : (m * 2 ^ e * (m' * 2 ^ e') : ℚ) = (m * m' : ℕ) * 2 ^ (e + e') := by
        rw [zpow_add₀ two_ne_zero]
        push_cast
        ring
      have shows : Shows (.ofMantissaAndAccuracy (m * m') .exact) (m * 2 ^ e * (m' * 2 ^ e') / 2 ^ (e + e') : ℚ) := by
        rw [whole]
        exact mul_div_cancel_right₀ _ (zpow_pos two_pos _).ne'
      have pos'' : 0 < m * m' := Nat.mul_pos pos pos'
      have room : e + e' ≤ lastPlace (m * 2 ^ e * (m' * 2 ^ e') : ℚ) := by
        obtain ⟨positive, log⟩ := log_eq_of_shows pos'' shows
        rw [lastPlace_of_pos positive, log]
        rcases Nat.lt_or_ge (m * m') (2 ^ 52) with less | full
        · have few : m < 2 ^ 52 := (Nat.le_mul_of_pos_right m pos').trans_lt less
          have few' : m' < 2 ^ 52 := (Nat.le_mul_of_pos_left m' pos).trans_lt less
          have least := kept.normal.resolve_left (by omega)
          have least' := kept'.normal.resolve_left (by omega)
          omega
        · have := (Nat.le_log2 pos''.ne').2 full
          omega
      rw [← signed_mul, abs_signed] at small
      rw [← signed_mul, nearest_signed]
      exact stands_roundWithAccuracy pos'' shows room (lt_of_abs_lt small)

section Quotient

variable {m m' : ℕ} {e e' : ℤ}

lemma log_quotient (e e' : ℤ) (pos : 0 < m) (pos' : 0 < m') :
    0 < (m * 2 ^ e / (m' * 2 ^ e') : ℚ) ∧
      totalExponent m e - totalExponent m' e' - 1 ≤ Int.log 2 (m * 2 ^ e / (m' * 2 ^ e') : ℚ) := by
  have positive : 0 < (m * 2 ^ e / (m' * 2 ^ e') : ℚ) := div_pos (magnitude_pos pos e) (magnitude_pos pos' e')
  refine ⟨positive, (Int.zpow_le_iff_le_log Nat.one_lt_two positive).1 ?_⟩
  have least := ((Nat.log2_eq_iff pos.ne').1 (Eq.refl m.log2)).1
  have greatest := ((Nat.log2_eq_iff pos'.ne').1 (Eq.refl m'.log2)).2
  have least : (2 ^ m.log2 : ℚ) ≤ m := by exact_mod_cast least
  have greatest : (m' : ℚ) ≤ 2 ^ (m'.log2 + 1) := by exact_mod_cast greatest.le
  rw [le_div_iff₀ (magnitude_pos pos' e')]
  calc ((2 : ℕ) : ℚ) ^ (totalExponent m e - totalExponent m' e' - 1) * (m' * 2 ^ e')
      ≤ 2 ^ (totalExponent m e - totalExponent m' e' - 1) * (2 ^ (m'.log2 + 1) * 2 ^ e') := by
        gcongr
        simp
    _ = 2 ^ m.log2 * 2 ^ e := by
        rw [← zpow_natCast, ← zpow_natCast, ← zpow_add₀ two_ne_zero, ← zpow_add₀ two_ne_zero,
          ← zpow_add₀ two_ne_zero]
        congr 1
        unfold totalExponent
        push_cast
        ring
    _ ≤ m * 2 ^ e := mul_le_mul_of_nonneg_right least (zpow_pos two_pos e).le

lemma stands_quotient {s : Sign} (pos : 0 < m) (pos' : 0 < m')
    (large : 2 ^ (-1074 : ℤ) ≤ (m * 2 ^ e / (m' * 2 ^ e') : ℚ))
    (small : (m * 2 ^ e / (m' * 2 ^ e') : ℚ) < 2 ^ (1023 : ℤ)) :
    Stands (roundWithAccuracy .binary64 s (divCore .binary64 m e m' e').1 (divCore .binary64 m e m' e').2.1
      (divCore .binary64 m e m' e').2.2) (signed s (nearest (m * 2 ^ e / (m' * 2 ^ e')))) := by
  obtain ⟨positive, log⟩ := log_quotient e e' pos pos'
  set x : ℚ := m * 2 ^ e / (m' * 2 ^ e')
  obtain ⟨t, target⟩ : ∃ t, t = min (e - e')
      (Format.binary64.targetExponent (totalExponent m e - totalExponent m' e')) := ⟨_, rfl⟩
  obtain ⟨k, shift⟩ : ∃ k : ℕ, e - e' - t = k := ⟨(e - e' - t).toNat, by omega⟩
  have core : divCore .binary64 m e m' e' = (m <<< k / m', t, accuracyOfFraction (m <<< k % m') m') := by
    simp only [divCore, ← target, shift, Int.toNat_natCast]
  have room : t ≤ lastPlace x ∧ (t ≤ Int.log 2 x ∨ t ≤ -1074) := by
    change t = min (e - e') (max (totalExponent m e - totalExponent m' e' - 53) (-1074)) at target
    rw [lastPlace_of_pos positive]
    omega
  have scaled : x / 2 ^ t = (m <<< k : ℕ) / m' := by
    have power : (2 : ℚ) ^ k = 2 ^ e / 2 ^ e' / 2 ^ t := by
      rw [← zpow_natCast, ← shift, zpow_sub₀ two_ne_zero, zpow_sub₀ two_ne_zero]
    rw [Nat.shiftLeft_eq, Nat.cast_mul, Nat.cast_pow, Nat.cast_ofNat, power]
    change (m * 2 ^ e / (m' * 2 ^ e') / 2 ^ t : ℚ) = _
    field_simp
  have shows := shows_quotient (a := m <<< k) pos'
  rw [← scaled] at shows
  have some_bits : 0 < m <<< k / m' := by
    have least : 2 ^ t ≤ x := by
      rcases room.2 with le | le
      · exact_mod_cast (Int.zpow_le_iff_le_log Nat.one_lt_two positive).2 le
      · exact (zpow_le_zpow_right₀ one_le_two le).trans large
    rw [← one_le_div₀ (zpow_pos two_pos t), scaled, one_le_div₀ (Nat.cast_pos.2 pos'), Nat.cast_le] at least
    exact Nat.div_pos least pos'
  rw [core]
  exact stands_roundWithAccuracy some_bits shows room.1 small

end Quotient

lemma Stands.div (hp : Stands u p) (hq : Stands v q) (nonzero : q ≠ 0) (small : |p / q| < 2 ^ (1023 : ℤ))
    (large : p ≠ 0 → 2 ^ (-1074 : ℤ) ≤ |p / q|) : Stands (UnpackedFloat.div .binary64 u v) (nearest (p / q)) := by
  cases hq with
  | zero => exact (nonzero rfl).elim
  | @finite s' m' e' pos' kept' =>
    cases hp with
    | zero =>
      rw [zero_div, nearest_zero]
      exact .zero
    | @finite s m e pos kept =>
      have positive := (log_quotient e e' pos pos').1
      have present : signed s (m * 2 ^ e) ≠ 0 := by
        rw [← abs_pos, abs_signed]
        exact abs_pos.2 (magnitude_pos pos e).ne'
      have large := large present
      rw [← signed_div, abs_signed, abs_of_pos positive] at small large
      rw [← signed_div, nearest_signed]
      exact stands_quotient pos pos' large small

section Floats

lemma Is.neg (hx : Is x p) : Is x.neg (-p) :=
  (Stands.neg hx).is

lemma Is.mul (hx : Is x p) (hy : Is y q) (small : |p * q| < 2 ^ (1023 : ℤ)) : Is (x * y) (nearest (p * q)) :=
  (Stands.mul hx hy small).is

lemma Is.div (hx : Is x p) (hy : Is y q) (nonzero : q ≠ 0) (small : |p / q| < 2 ^ (1023 : ℤ))
    (large : p ≠ 0 → 2 ^ (-1074 : ℤ) ≤ |p / q|) : Is (x / y) (nearest (p / q)) :=
  (Stands.div hx hy nonzero small large).is

lemma is_zero : Is 0 0 :=
  .zero

lemma is_of_unpack {m : ℕ} {e : ℤ} (pos : 0 < m) (kept : IsKept m e)
    (unpacked : x.toModel.unpack = .finite .positive m e pos) : Is x (m * 2 ^ e) := by
  unfold Is
  rw [unpacked]
  exact .finite (s := .positive) kept

lemma is_one : Is (.ofBits 0x3FF0000000000000) 1 := by
  have one : ((2 ^ 52 : ℕ) * 2 ^ (-52 : ℤ) : ℚ) = 1 := by norm_num
  rw [← one]
  exact is_of_unpack (by decide) ⟨by decide, by decide, by decide, .inl le_rfl⟩ rfl

lemma is_billion : Is 1e9 1000000000 := by
  have billion : ((8388608000000000 : ℕ) * 2 ^ (-23 : ℤ) : ℚ) = 1000000000 := by norm_num
  rw [← billion]
  exact is_of_unpack (by decide) ⟨by decide, by decide, by decide, .inl (by decide)⟩ rfl

lemma natCast_lt {n : ℕ} (small : n ≤ 2 ^ 64) : (n : ℚ) < 2 ^ (1023 : ℤ) := by
  have small : (n : ℚ) ≤ 2 ^ (64 : ℤ) := by exact_mod_cast small
  exact small.trans_lt (zpow_lt_zpow_right₀ one_lt_two (by decide))

lemma is_word (n : UInt64) : Is n.toFloat (nearest n.toNat) := by
  have small := natCast_lt n.toNat_lt.le
  change Is (.ofModel (.pack (UnpackedFloat.normalize .binary64 (n.toNat : ℤ) 0 .positive))) _
  generalize n.toNat = k at *
  apply Stands.is
  rcases Nat.eq_zero_or_pos k with rfl | pos
  · rw [Nat.cast_zero (R := ℚ), nearest_zero]
    exact .zero
  · have gt : compare (k : ℤ) 0 = .gt := compare_gt_iff_gt.2 (by omega)
    have rounded := stands_round (s := .positive) (e := 0) pos (by simpa using small)
    rw [zpow_zero, mul_one] at rounded
    simp only [UnpackedFloat.normalize, gt, Int.toNat_natCast]
    exact rounded

lemma stands_ofScientific {n : ℕ} (pos : n ≠ 0) (small : n ≤ 2 ^ 64) :
    Stands (UnpackedFloat.ofScientific .binary64 n 0) (nearest n) := by
  have shows : Shows (.ofMantissaAndAccuracy (n <<< 53 * 1) .exact) (n / 2 ^ (-53 : ℤ) : ℚ) := by
    change (n / 2 ^ (-53 : ℤ) : ℚ) = (n <<< 53 * 1 : ℕ)
    rw [zpow_neg, div_inv_eq_mul, Nat.shiftLeft_eq]
    push_cast
    norm_num
  have pos' : 0 < n <<< 53 * 1 := by
    rw [Nat.shiftLeft_eq]
    omega
  have room : -53 ≤ lastPlace (n : ℚ) := by
    rw [lastPlace, Nat.abs_cast, Int.log_natCast]
    omega
  have not_tiny : ¬ (0 : ℤ) < -((2 ^ Format.binary64.exponentBits : ℤ) + n.log2) := by
    change ¬ (0 : ℤ) < -(2048 + n.log2)
    omega
  have width : Format.binary64.mantissaBits = 53 := rfl
  have sign : (Sign.positive * Sign.positive) = Sign.positive := rfl
  unfold UnpackedFloat.ofScientific
  rw [dif_neg pos, if_neg (by decide), if_neg not_tiny, if_pos le_rfl]
  simp only [UnpackedFloat.mul, width, sign, Int.toNat_zero, pow_zero, add_zero]
  exact stands_roundWithAccuracy (s := .positive) pos' shows room (natCast_lt small)

lemma is_ofScientific {n : ℕ} (small : n ≤ 2 ^ 64) : Is (Float.ofScientific n false 0) (nearest n) := by
  unfold Float.ofScientific
  by_cases fast : n < 2 ^ 53 ∧ 0 ≤ 22
  · rw [dif_pos fast]
    have word := is_word n.toUInt64
    have same : n.toUInt64.toNat = n := Nat.mod_eq_of_lt (by omega)
    rw [same, nearest_natCast fast.1.le] at word
    have product := word.mul is_one
    rw [mul_one, nearest_natCast fast.1.le, Nat.abs_cast] at product
    rw [nearest_natCast fast.1.le]
    exact product (natCast_lt small)
  · rw [dif_neg fast]
    change Is (.ofModel (.pack (UnpackedFloat.ofScientific .binary64 n 0))) _
    exact (stands_ofScientific (by omega) small).is

lemma is_ofInt {d : ℤ} (small : d.natAbs ≤ 2 ^ 64) : Is (Float.ofInt d) (nearest d) := by
  cases d with
  | ofNat n => exact is_ofScientific small
  | negSucc n =>
    have negated := (is_ofScientific (n := n + 1) small).neg
    rw [← nearest_neg] at negated
    rw [Int.cast_negSucc]
    exact negated

lemma Is.toNat_toUInt64 (hx : Is x p) (nonneg : 0 ≤ p) : x.toUInt64.toNat = min ⌊p⌋₊ (UInt64.size - 1) := by
  have clamp (k : ℕ) : (UInt64.ofNatClamp k).toNat = min k (UInt64.size - 1) := by
    rw [UInt64.ofNatClamp]
    split_ifs with small
    · rw [UInt64.toNat_ofNatLT, min_eq_left (by omega)]
    · rw [UInt64.toNat_ofNatLT, min_eq_right (by omega)]
  change (UInt64.ofNatClamp (UnpackedFloat.toInt 0 _ x.toModel.unpack).toNat).toNat = _
  rw [clamp]
  congr 1
  unfold Is at hx
  generalize x.toModel.unpack = u at *
  cases hx with
  | zero => simp [UnpackedFloat.toInt]
  | @finite s m e pos kept =>
    cases s with
    | negative => exact absurd (magnitude_pos pos e) (not_lt.2 (neg_nonneg.1 nonneg))
    | positive =>
      rw [UnpackedFloat.toInt, roundToInt_eq]
      rfl

end Floats

end ItemPipeline.Double
