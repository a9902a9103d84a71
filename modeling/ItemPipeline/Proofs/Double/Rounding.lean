import ItemPipeline.Proofs.Double.Format
import ItemPipeline.Proofs.Double.Nearest
import Mathlib.Tactic.Ring

/-!
Rounding to a double. Two bits behind a mantissa say enough of what was cut off to round it, and shifting keeps what they
say; so a number is rounded to the nearest double, the even one of two.
-/

namespace ItemPipeline.Double

open Float.Model Float.Model.UnpackedFloat

/-- What a mantissa and the two bits behind it say of a number. -/
def Shows : ExtendedMantissa → ℚ → Prop
  | ⟨m, false, false⟩, x => x = m
  | ⟨m, false, true⟩, x => m < x ∧ x < m + 1 / 2
  | ⟨m, true, false⟩, x => x = m + 1 / 2
  | ⟨m, true, true⟩, x => m + 1 / 2 < x ∧ x < m + 1

namespace Shows

variable {m : ExtendedMantissa} {x : ℚ}

lemma bounds (shows : Shows m x) : m.mantissa ≤ x ∧ x < m.mantissa + 1 := by
  obtain ⟨m, r, s⟩ := m
  cases r <;> cases s <;> simp only [Shows] at shows ⊢ <;> constructor <;> linarith

lemma floor_eq (shows : Shows m x) : ⌊x⌋ = m.mantissa :=
  Int.floor_eq_iff.2 (by exact_mod_cast shows.bounds)

lemma roundedMantissa_eq (shows : Shows m x) : (m.roundedMantissa : ℤ) = roundEven x := by
  have floor := shows.floor_eq
  obtain ⟨m, r, s⟩ := m
  rw [roundEven, floor, Int.cast_natCast]
  cases r
  · cases s
    · have whole : x = m := shows
      rw [whole, sub_self, if_pos one_half_pos]
      rfl
    · have less : x < m + 1 / 2 := shows.2
      rw [if_pos (by linarith)]
      rfl
  · cases s
    · have tie : x = m + 1 / 2 := shows
      rw [tie, add_sub_cancel_left, if_neg (lt_irrefl _), if_neg (lt_irrefl _)]
      rfl
    · have more : m + 1 / 2 < x := shows.1
      rw [if_neg (by linarith), if_pos (by linarith)]
      rfl

lemma shiftRightOne (shows : Shows m x) : Shows m.shiftRightOne (x / 2) := by
  obtain ⟨m, r, s⟩ := m
  obtain ⟨k, rfl | rfl⟩ := Nat.even_or_odd' m
  · have shifted : ExtendedMantissa.shiftRightOne ⟨2 * k, r, s⟩ = ⟨k, false, r || s⟩ := by
      simp [ExtendedMantissa.shiftRightOne]
    rw [shifted]
    cases r <;> cases s <;> simp only [Shows, Bool.or_true, Bool.or_false] at shows ⊢ <;> grind
  · have shifted : ExtendedMantissa.shiftRightOne ⟨2 * k + 1, r, s⟩ = ⟨k, true, r || s⟩ := by
      simp [ExtendedMantissa.shiftRightOne]
      omega
    rw [shifted]
    cases r <;> cases s <;> simp only [Shows, Bool.or_true, Bool.or_false] at shows ⊢ <;> grind

lemma shiftRight (shows : Shows m x) (n : ℕ) : Shows (m >>> n) (x / 2 ^ n) := by
  induction n with
  | zero =>
    rw [pow_zero, div_one]
    exact shows
  | succ n ih =>
    rw [pow_succ, ← div_div]
    exact ih.shiftRightOne

end Shows

lemma shows_quotient {a b : ℕ} (pos : 0 < b) :
    Shows (.ofMantissaAndAccuracy (a / b) (accuracyOfFraction (a % b) b)) (a / b : ℚ) := by
  have pos' : (0 : ℚ) < b := Nat.cast_pos.2 pos
  have division : (a / b : ℚ) = (a / b : ℕ) + (a % b : ℕ) / b := by
    rw [eq_comm, ← Nat.cast_inj (R := ℚ).2 (Nat.div_add_mod a b)]
    push_cast
    field_simp
  have less : a % b < b := Nat.mod_lt a pos
  rw [division]
  generalize a / b = q at *
  generalize a % b = r at *
  unfold accuracyOfFraction
  split_ifs with zero
  · simp [zero, Shows, ExtendedMantissa.ofMantissaAndAccuracy]
  · have low : (0 : ℚ) < r / b := div_pos (Nat.cast_pos.2 (Nat.pos_of_ne_zero zero)) pos'
    have high : (r / b : ℚ) < 1 := (div_lt_one pos').2 (Nat.cast_lt.2 less)
    rcases lt_trichotomy (2 * r) b with lt | eq | gt
    · have half : (r / b : ℚ) < 1 / 2 := by
        rw [div_lt_div_iff₀ pos' two_pos]
        exact_mod_cast (by omega : r * 2 < 1 * b)
      rw [compare_lt_iff_lt.2 lt]
      exact ⟨by linarith, by linarith⟩
    · have half : (r / b : ℚ) = 1 / 2 := by
        rw [div_eq_div_iff pos'.ne' two_ne_zero]
        exact_mod_cast (by omega : r * 2 = 1 * b)
      rw [compare_eq_iff_eq.2 eq]
      exact congrArg _ half
    · have half : 1 / 2 < (r / b : ℚ) := by
        rw [div_lt_div_iff₀ two_pos pos']
        exact_mod_cast (by omega : 1 * b < r * 2)
      rw [compare_gt_iff_gt.2 gt]
      exact ⟨by linarith, by linarith⟩

section Round

variable {s : Sign} {m r : ℕ} {e t : ℤ} {acc : Accuracy} {x : ℚ}

lemma ofMantissaAndAccuracy_mantissa (m : ℕ) (acc : Accuracy) :
    (ExtendedMantissa.ofMantissaAndAccuracy m acc).mantissa = m := by
  match acc with
  | .exact => rfl
  | .inexact .lt => rfl
  | .inexact .eq => rfl
  | .inexact .gt => rfl

lemma log_eq_of_shows (pos : 0 < m) (shows : Shows (.ofMantissaAndAccuracy m acc) (x / 2 ^ e)) :
    0 < x ∧ Int.log 2 x = m.log2 + e := by
  have scale : (0 : ℚ) < 2 ^ e := zpow_pos two_pos e
  obtain ⟨low, high⟩ := shows.bounds
  rw [ofMantissaAndAccuracy_mantissa] at low high
  rw [le_div_iff₀ scale] at low
  rw [div_lt_iff₀ scale] at high
  have pos' : 0 < x := (magnitude_pos pos e).trans_le low
  obtain ⟨least, greatest⟩ := (Nat.log2_eq_iff pos.ne').1 (Eq.refl m.log2)
  have below : (2 : ℚ) ^ (m.log2 + e : ℤ) ≤ x := by
    rw [zpow_add₀ two_ne_zero, zpow_natCast]
    exact (mul_le_mul_of_nonneg_right (by exact_mod_cast least) scale.le).trans low
  have above : x < (2 : ℚ) ^ (m.log2 + e + 1 : ℤ) := by
    rw [add_right_comm, zpow_add₀ two_ne_zero]
    exact high.trans_le (mul_le_mul_of_nonneg_right (by exact_mod_cast greatest) scale.le)
  refine ⟨pos', le_antisymm (Int.lt_add_one_iff.1 ?_) ?_⟩
  · exact (Int.lt_zpow_iff_log_lt Nat.one_lt_two pos').1 (by simpa using above)
  · exact (Int.zpow_le_iff_le_log Nat.one_lt_two pos').1 (by simpa using below)

lemma targetExponent_eq (pos : 0 < m) (shows : Shows (.ofMantissaAndAccuracy m acc) (x / 2 ^ e)) :
    Format.binary64.targetExponent (totalExponent m e) = lastPlace x := by
  obtain ⟨pos', log⟩ := log_eq_of_shows pos shows
  rw [lastPlace_of_pos pos', log]
  change max ((m.log2 : ℤ) + 1 + e - 53) (-1074) = _
  omega

lemma shift_kept (bits : r < 2 ^ 53) (low : -1074 ≤ t) :
    shiftToTargetExponent .binary64 r t .exact = (⟨r, false, false⟩, t) := by
  have log : r.log2 ≤ 52 := by
    rcases Nat.eq_zero_or_pos r with rfl | pos
    · decide
    · exact Nat.lt_succ_iff.1 ((Nat.log2_lt pos.ne').2 bits)
  have none : (Format.binary64.targetExponent (totalExponent r t) - t).toNat = 0 := by
    change (max ((r.log2 : ℤ) + 1 + t - 53) (-1074) - t).toNat = 0
    omega
  rw [shiftToTargetExponent, shiftToExponent, none]
  change (_, t + 0) = _
  rw [add_zero]
  rfl

lemma shift_carry (low : -1074 ≤ t) :
    shiftToTargetExponent .binary64 (2 ^ 53) t .exact = (⟨2 ^ 52, false, false⟩, t + 1) := by
  have one : (Format.binary64.targetExponent (totalExponent (2 ^ 53) t) - t).toNat = 1 := by
    change (max (((2 ^ 53 : ℕ).log2 : ℤ) + 1 + t - 53) (-1074) - t).toNat = 1
    rw [Nat.log2_two_pow]
    omega
  rw [shiftToTargetExponent, shiftToExponent, one]
  rfl

lemma roundWithAccuracy_eq {first : ExtendedMantissa} {e' : ℤ}
    (shifted : shiftToTargetExponent .binary64 m e acc = (first, e'))
    (again : shiftToTargetExponent .binary64 first.roundedMantissa e' .exact = (⟨r, false, false⟩, t)) :
    roundWithAccuracy .binary64 s m e acc = if h : r = 0 then .zero s else .finite s r t (Nat.pos_of_ne_zero h) := by
  simp only [roundWithAccuracy, shifted, again]

lemma stands_zero_or_finite (kept : IsKept r t) :
    Stands (if h : r = 0 then .zero s else .finite s r t (Nat.pos_of_ne_zero h)) (signed s (r * 2 ^ t)) := by
  split_ifs with zero
  · have nothing : signed s (r * 2 ^ t) = 0 := by cases s <;> simp [signed, zero]
    rw [nothing]
    exact .zero
  · exact .finite kept

lemma rounded_bits (pos : 0 < x) (rounded : nearest x = r * 2 ^ lastPlace x) :
    r ≤ 2 ^ 53 ∧ (2 ^ 52 ≤ r ∨ lastPlace x = -1074) := by
  have scale : (0 : ℚ) < 2 ^ lastPlace x := zpow_pos two_pos _
  have place := lastPlace_of_pos pos
  constructor
  · have above : x ≤ 2 ^ (lastPlace x + 53) := by
      have := Int.lt_zpow_succ_log_self Nat.one_lt_two x
      exact this.le.trans (zpow_le_zpow_right₀ (by norm_num) (by omega))
    have := nearest_le_zpow pos above (by omega)
    rw [rounded, add_comm, zpow_add₀ two_ne_zero, mul_le_mul_iff_of_pos_right scale] at this
    exact_mod_cast this
  · rcases eq_or_ne (lastPlace x) (-1074) with least | more
    · exact .inr least
    · have below : 2 ^ (lastPlace x + 52) ≤ x := by
        have := Int.zpow_log_le_self Nat.one_lt_two pos
        rwa [show Int.log 2 x = lastPlace x + 52 by omega] at this
      have := zpow_le_nearest below (by omega)
      rw [rounded, add_comm, zpow_add₀ two_ne_zero, mul_le_mul_iff_of_pos_right scale] at this
      exact .inl (by exact_mod_cast this)

lemma stands_roundWithAccuracy (pos : 0 < m) (shows : Shows (.ofMantissaAndAccuracy m acc) (x / 2 ^ e))
    (room : e ≤ lastPlace x) (small : x < 2 ^ (1023 : ℤ)) :
    Stands (roundWithAccuracy .binary64 s m e acc) (signed s (nearest x)) := by
  have low := neg_le_lastPlace x
  obtain ⟨pos', -⟩ := log_eq_of_shows pos shows
  obtain ⟨k, place⟩ : ∃ k : ℕ, lastPlace x = e + k := ⟨(lastPlace x - e).toNat, by omega⟩
  set first := ExtendedMantissa.ofMantissaAndAccuracy m acc >>> k
  have shifted : shiftToTargetExponent .binary64 m e acc = (first, lastPlace x) := by
    rw [shiftToTargetExponent, targetExponent_eq pos shows, shiftToExponent, place, add_sub_cancel_left, Int.toNat_natCast]
  have shows : Shows first (x / 2 ^ lastPlace x) := by
    rw [place, zpow_add₀ two_ne_zero, zpow_natCast, ← div_div]
    exact shows.shiftRight k
  have rounded : nearest x = first.roundedMantissa * 2 ^ lastPlace x := by
    rw [nearest_of_pos pos', ← shows.roundedMantissa_eq, Int.cast_natCast]
  obtain ⟨le, full⟩ := rounded_bits pos' rounded
  have high : lastPlace x ≤ 970 := by
    have log_lt : Int.log 2 x < 1023 := (Int.lt_zpow_iff_log_lt Nat.one_lt_two pos').1 (by simpa using small)
    rw [lastPlace_of_pos pos']
    omega
  rw [rounded]
  rcases le.lt_or_eq with bits | carry
  · rw [roundWithAccuracy_eq shifted (shift_kept bits low)]
    exact stands_zero_or_finite ⟨bits, low, by omega, full⟩
  · have again := shift_carry low
    rw [← carry] at again
    rw [roundWithAccuracy_eq shifted again, carry]
    have same : ((2 ^ 53 : ℕ) : ℚ) * 2 ^ lastPlace x = (2 ^ 52 : ℕ) * 2 ^ (lastPlace x + 1) := by
      rw [zpow_add₀ two_ne_zero]
      push_cast
      ring
    rw [same]
    exact stands_zero_or_finite ⟨by decide, by omega, by omega, .inl le_rfl⟩

lemma shows_shiftLeft (m k : ℕ) (e : ℤ) :
    Shows (.ofMantissaAndAccuracy (m <<< k) .exact) (m * 2 ^ e / 2 ^ (e - k) : ℚ) := by
  change (m * 2 ^ e / 2 ^ (e - k) : ℚ) = (m <<< k : ℕ)
  rw [mul_div_assoc, ← zpow_sub₀ two_ne_zero, sub_sub_cancel, zpow_natCast, Nat.shiftLeft_eq]
  push_cast
  rfl

lemma stands_round (pos : 0 < m) (small : (m * 2 ^ e : ℚ) < 2 ^ (1023 : ℤ)) :
    Stands (UnpackedFloat.round .binary64 s m e) (signed s (nearest (m * 2 ^ e))) := by
  have whole : Shows (.ofMantissaAndAccuracy m .exact) (m * 2 ^ e / 2 ^ e : ℚ) :=
    mul_div_cancel_right₀ _ (zpow_pos two_pos e).ne'
  obtain ⟨k, shift⟩ : ∃ k : ℕ, k = (e - lastPlace (m * 2 ^ e)).toNat := ⟨_, rfl⟩
  have moved : decreaseExponent m e (lastPlace (m * 2 ^ e)) = (m <<< k, e - k) := by
    rw [shift]
    rfl
  simp only [UnpackedFloat.round, targetExponent_eq pos whole, moved]
  exact stands_roundWithAccuracy (by rw [Nat.shiftLeft_eq]; positivity) (shows_shiftLeft m k e) (by omega) small

lemma roundToInt_eq (s : Sign) (m : ℕ) (e : ℤ) : roundToInt s m e = s.apply ⌊(m * 2 ^ e : ℚ)⌋ := by
  obtain ⟨k, left⟩ : ∃ k : ℕ, k = (e - 0).toNat := ⟨_, rfl⟩
  obtain ⟨j, right⟩ : ∃ j : ℕ, j = (0 - (e - k)).toNat := ⟨_, rfl⟩
  have shows := (shows_shiftLeft m k e).shiftRight j
  have unit : (2 : ℚ) ^ (e - k) * 2 ^ j = 1 := by
    rw [← zpow_natCast, ← zpow_add₀ two_ne_zero, show e - k + j = 0 by omega, zpow_zero]
  rw [div_div, unit, div_one] at shows
  rw [shows.floor_eq, right, left]
  rfl

end Round

end ItemPipeline.Double
