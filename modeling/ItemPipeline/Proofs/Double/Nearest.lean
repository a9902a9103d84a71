import Mathlib.Data.Int.Log
import Mathlib.Data.Rat.Floor
import Mathlib.Data.Sign.Basic
import Mathlib.Tactic.Lemma
import Mathlib.Tactic.Linarith

/-!
The fraction with at most 53 significant bits that is nearest to a given one, a tie going to the even one. It keeps the
order of fractions, and powers of two and whole numbers of 53 bits as they are.
-/

namespace ItemPipeline.Double

variable {x y : ℚ} {k : ℤ}

/-- The whole number next to a fraction, the even one of two that are equally near. -/
def roundEven (x : ℚ) : ℤ :=
  if x - ⌊x⌋ < 1 / 2 then ⌊x⌋ else if 1 / 2 < x - ⌊x⌋ then ⌊x⌋ + 1 else ⌊x⌋ + ⌊x⌋ % 2

lemma roundEven_intCast (k : ℤ) : roundEven k = k := by
  rw [roundEven, Int.floor_intCast, if_pos (by norm_num)]

lemma floor_le_roundEven (x : ℚ) : ⌊x⌋ ≤ roundEven x := by
  unfold roundEven
  split_ifs <;> omega

lemma roundEven_le_floor_add_one (x : ℚ) : roundEven x ≤ ⌊x⌋ + 1 := by
  unfold roundEven
  split_ifs <;> omega

lemma roundEven_mono (le : x ≤ y) : roundEven x ≤ roundEven y := by
  rcases (Int.floor_le_floor le).lt_or_eq with lt | eq
  · calc roundEven x ≤ ⌊x⌋ + 1 := roundEven_le_floor_add_one x
      _ ≤ ⌊y⌋ := lt
      _ ≤ roundEven y := floor_le_roundEven y
  · unfold roundEven
    rw [eq]
    split_ifs <;> grind

/-- The place of the last bit of the double next to a fraction. -/
def lastPlace (x : ℚ) : ℤ :=
  max (Int.log 2 |x| - 52) (-1074)

def nearest (x : ℚ) : ℚ :=
  SignType.sign x * (roundEven (|x| / 2 ^ lastPlace x) * 2 ^ lastPlace x)

lemma nearest_zero : nearest 0 = 0 := by
  simp [nearest]

lemma nearest_neg (x : ℚ) : nearest (-x) = -nearest x := by
  simp [nearest, lastPlace, Left.sign_neg]

lemma nearest_of_pos (pos : 0 < x) : nearest x = roundEven (x / 2 ^ lastPlace x) * 2 ^ lastPlace x := by
  simp [nearest, sign_pos pos, abs_of_pos pos]

lemma lastPlace_of_pos (pos : 0 < x) : lastPlace x = max (Int.log 2 x - 52) (-1074) := by
  rw [lastPlace, abs_of_pos pos]

lemma neg_le_lastPlace (x : ℚ) : -1074 ≤ lastPlace x :=
  le_max_right _ _

lemma zpow_toNat (nonneg : 0 ≤ k) : ((2 ^ k.toNat : ℤ) : ℚ) = 2 ^ k := by
  obtain ⟨n, rfl⟩ := Int.eq_ofNat_of_zero_le nonneg
  simp

lemma roundEven_zpow (nonneg : 0 ≤ k) : (roundEven (2 ^ k) : ℚ) = 2 ^ k := by
  rw [← zpow_toNat nonneg, roundEven_intCast]

lemma nearest_le_zpow (pos : 0 < x) (le : x ≤ 2 ^ k) (place : lastPlace x ≤ k) : nearest x ≤ 2 ^ k := by
  have scale : (0 : ℚ) < 2 ^ lastPlace x := zpow_pos two_pos _
  have le : x / 2 ^ lastPlace x ≤ 2 ^ (k - lastPlace x) := by
    rwa [zpow_sub₀ two_ne_zero, div_le_div_iff_of_pos_right scale]
  rw [nearest_of_pos pos, ← le_div_iff₀ scale, ← zpow_sub₀ two_ne_zero,
    ← roundEven_zpow (k := k - lastPlace x) (by omega)]
  exact Int.cast_le.2 (roundEven_mono le)

lemma zpow_le_nearest (le : 2 ^ k ≤ x) (place : lastPlace x ≤ k) : 2 ^ k ≤ nearest x := by
  have scale : (0 : ℚ) < 2 ^ lastPlace x := zpow_pos two_pos _
  have pos : 0 < x := (zpow_pos two_pos k).trans_le le
  have le : 2 ^ (k - lastPlace x) ≤ x / 2 ^ lastPlace x := by
    rwa [zpow_sub₀ two_ne_zero, div_le_div_iff_of_pos_right scale]
  rw [nearest_of_pos pos, ← div_le_iff₀ scale, ← zpow_sub₀ two_ne_zero,
    ← roundEven_zpow (k := k - lastPlace x) (by omega)]
  exact Int.cast_le.2 (roundEven_mono le)

lemma lastPlace_mono (pos : 0 < x) (le : x ≤ y) : lastPlace x ≤ lastPlace y := by
  rw [lastPlace_of_pos pos, lastPlace_of_pos (pos.trans_le le)]
  have := Int.log_mono_right (b := 2) pos le
  omega

lemma nearest_nonneg (nonneg : 0 ≤ x) : 0 ≤ nearest x := by
  rcases nonneg.eq_or_lt with rfl | pos
  · rw [nearest_zero]
  · have scale : (0 : ℚ) < 2 ^ lastPlace x := zpow_pos two_pos _
    have whole : 0 ≤ roundEven (x / 2 ^ lastPlace x) := by
      simpa using roundEven_intCast 0 ▸ roundEven_mono (x := (0 : ℤ)) (by simpa using (div_pos pos scale).le)
    rw [nearest_of_pos pos]
    exact mul_nonneg (Int.cast_nonneg whole) scale.le

lemma nearest_mono (nonneg : 0 ≤ x) (le : x ≤ y) : nearest x ≤ nearest y := by
  rcases nonneg.eq_or_lt with rfl | pos
  · rw [nearest_zero]
    exact nearest_nonneg le
  have pos' : 0 < y := pos.trans_le le
  rcases (lastPlace_mono pos le).eq_or_lt with same | lower
  · have scale : (0 : ℚ) < 2 ^ lastPlace y := zpow_pos two_pos _
    rw [nearest_of_pos pos, nearest_of_pos pos', same]
    have whole := roundEven_mono (div_le_div_of_nonneg_right le scale.le)
    exact mul_le_mul_of_nonneg_right (Int.cast_le.2 whole) scale.le
  · -- where the places differ a power of two stands between the numbers
    have places := lower
    rw [lastPlace_of_pos pos, lastPlace_of_pos pos'] at places
    have below : x < 2 ^ Int.log 2 y := by
      simpa using (Int.lt_zpow_iff_log_lt Nat.one_lt_two pos).2 (show Int.log 2 x < Int.log 2 y by omega)
    have above : (2 : ℚ) ^ Int.log 2 y ≤ y := by simpa using Int.zpow_log_le_self Nat.one_lt_two pos'
    calc nearest x ≤ 2 ^ Int.log 2 y := nearest_le_zpow pos below.le (by rw [lastPlace_of_pos pos]; omega)
      _ ≤ nearest y := zpow_le_nearest above (by rw [lastPlace_of_pos pos']; omega)

lemma nearest_eq_self {m : ℕ} {e : ℤ} (place : lastPlace (m * 2 ^ e) ≤ e) : nearest (m * 2 ^ e) = m * 2 ^ e := by
  rcases Nat.eq_zero_or_pos m with rfl | pos
  · simp [nearest_zero]
  have pos : (0 : ℚ) < m * 2 ^ e := mul_pos (Nat.cast_pos.2 pos) (zpow_pos two_pos e)
  have scale : (2 : ℚ) ^ lastPlace (m * 2 ^ e) ≠ 0 := (zpow_pos two_pos _).ne'
  have whole : (m * 2 ^ e / 2 ^ lastPlace (m * 2 ^ e) : ℚ) =
      ((m * 2 ^ (e - lastPlace (m * 2 ^ e)).toNat : ℤ) : ℚ) := by
    rw [mul_div_assoc, ← zpow_sub₀ two_ne_zero, ← zpow_toNat (by omega)]
    push_cast
    rfl
  rw [nearest_of_pos pos, whole, roundEven_intCast, ← whole, div_mul_cancel₀ _ scale]

lemma lastPlace_zpow (k : ℤ) : lastPlace (2 ^ k) = max (k - 52) (-1074) := by
  have log : Int.log 2 ((2 : ℚ) ^ k) = k := by simpa using Int.log_zpow (R := ℚ) Nat.one_lt_two k
  rw [lastPlace_of_pos (zpow_pos two_pos k), log]

lemma nearest_zpow (place : -1074 ≤ k) : nearest (2 ^ k) = 2 ^ k := by
  have same : ((1 : ℕ) * 2 ^ k : ℚ) = 2 ^ k := by rw [Nat.cast_one, one_mul]
  have kept := nearest_eq_self (m := 1) (e := k)
  rw [same, lastPlace_zpow] at kept
  exact kept (by omega)

lemma nearest_natCast {n : ℕ} (small : n ≤ 2 ^ 53) : nearest n = n := by
  rcases small.lt_or_eq with small | rfl
  · have log : Nat.log 2 n ≤ 52 := Nat.lt_succ_iff.1 (Nat.log_lt_of_lt_pow' (by decide) small)
    have place : lastPlace n ≤ 0 := by
      rw [lastPlace, Nat.abs_cast, Int.log_natCast]
      omega
    simpa using nearest_eq_self (m := n) (e := 0) (by simpa using place)
  · exact_mod_cast nearest_zpow (k := 53) (by decide)

lemma nearest_le (nonneg : 0 ≤ x) (le : x ≤ 2 ^ k) (place : -1074 ≤ k) : nearest x ≤ 2 ^ k :=
  nearest_zpow place ▸ nearest_mono nonneg le

lemma le_nearest (le : 2 ^ k ≤ x) (place : -1074 ≤ k) : 2 ^ k ≤ nearest x :=
  nearest_zpow place ▸ nearest_mono (zpow_pos two_pos k).le le

lemma le_of_nearest_le {m n : ℕ} (small : m ≤ 2 ^ 53) (le : nearest m ≤ nearest n) : m ≤ n := by
  by_contra less
  rw [nearest_natCast small, nearest_natCast (by omega), Nat.cast_le] at le
  exact less le

lemma le_of_nearest_le_of_lt {m n : ℕ} (small : n < 2 ^ 53) (le : nearest m ≤ nearest n) : m ≤ n := by
  by_contra less
  have next : ((n + 1 : ℕ) : ℚ) ≤ m := Nat.cast_le.2 (by omega)
  have above := (nearest_mono (Nat.cast_nonneg _) next).trans le
  rw [nearest_natCast small, nearest_natCast small.le, Nat.cast_le] at above
  omega

end ItemPipeline.Double
