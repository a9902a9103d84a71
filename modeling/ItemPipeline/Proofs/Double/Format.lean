import Mathlib

/-!
Doubles as fractions. A finite double is kept with 53 bits, or with fewer at the least exponent; so its word of 64 bits gives
it back, and doubles are ordered and equal as their fractions are.
-/

namespace ItemPipeline.Double

open Float.Model Float.Model.UnpackedFloat

def signed : Sign → ℚ → ℚ
  | .positive, x => x
  | .negative, x => -x

structure IsKept (m : ℕ) (e : ℤ) : Prop where
  bits : m < 2 ^ 53
  low : -1074 ≤ e
  high : e ≤ 971
  normal : 2 ^ 52 ≤ m ∨ e = -1074

inductive Stands : UnpackedFloat → ℚ → Prop
  | zero {s : Sign} : Stands (.zero s) 0
  | finite {s : Sign} {m : ℕ} {e : ℤ} {pos : 0 < m} (kept : IsKept m e) :
      Stands (.finite s m e pos) (signed s (m * 2 ^ e))

/-- The double `x` is the fraction `p`. -/
def Is (x : Float) (p : ℚ) : Prop :=
  Stands x.toModel.unpack p

section Packing

variable {s : Sign} {m : ℕ} {e : ℤ}

lemma toNat_implicit (mantissa : BitVec 52) : (1#1 ++ mantissa).toNat = 2 ^ 52 + mantissa.toNat := by
  rw [BitVec.toNat_append, ← Nat.shiftLeft_add_eq_or_of_lt mantissa.isLt]
  rfl

lemma ofNat_ne_ofNat {w k j : ℕ} (hk : k < 2 ^ w) (hj : j < 2 ^ w) (ne : k ≠ j) :
    BitVec.ofNat w k ≠ BitVec.ofNat w j := by
  intro same
  have := congrArg BitVec.toNat same
  rw [BitVec.toNat_ofNat, BitVec.toNat_ofNat, Nat.mod_eq_of_lt hk, Nat.mod_eq_of_lt hj] at this
  exact ne this

section Normal

variable {k : ℕ} (pos : 0 < m) (bits : m.log2 = 52) (biased : e + 1075 = k) (below : k < 2047)

include bits biased below

lemma pack_normal : UnpackedFloat.pack .binary64 (.finite s m e pos) =
    packComponents .binary64 s (BitVec.ofNat 11 k) (BitVec.ofNat 52 m) := by
  have exponent : (e + Format.binary64.exponentBias + Format.binary64.mantissaBitsWithoutImplicit).toNat = k := by
    change (e + (1023 : ℕ) + (52 : ℕ)).toNat = k
    omega
  unfold UnpackedFloat.pack
  dsimp only
  rw [exponent, if_neg (by change ¬ 2048 ≤ k + 1; omega), if_pos (by change m.log2 + 1 = 53; omega)]

lemma unpack_normal (above : 0 < k) :
    UnpackedFloat.unpack .binary64 (packComponents .binary64 s (BitVec.ofNat 11 k) (BitVec.ofNat 52 m)) =
      .finite s m e pos := by
  have notTop : BitVec.ofNat 11 k ≠ -1#11 := ofNat_ne_ofNat (j := 2047) (by omega) (by omega) (by omega)
  have notZero : BitVec.ofNat 11 k ≠ 0#11 := ofNat_ne_ofNat (by omega) (by omega) above.ne'
  have exponent : (BitVec.ofNat 11 k).toNat = k := by rw [BitVec.toNat_ofNat, Nat.mod_eq_of_lt (by omega)]
  obtain ⟨ge, lt⟩ := (Nat.log2_eq_iff pos.ne').1 bits
  have mantissa : (1#1 ++ BitVec.ofNat 52 m).toNat = m := by
    rw [toNat_implicit, BitVec.toNat_ofNat]
    omega
  unfold UnpackedFloat.unpack
  simp only [unpackExponent_packComponents, unpackMantissa_packComponents, unpackSign_packComponents, notTop, notZero,
    if_false, Sign.ofBitVec_toBitVec, exponent, mantissa]
  congr 1
  change (k : ℤ) - ((1023 : ℕ) + (52 : ℕ)) = e
  omega

end Normal

lemma unpack_pack_normal (pos : 0 < m) (bits : m.log2 = 52) (low : -1074 ≤ e) (high : e ≤ 971) :
    (Float.Model.pack (.finite s m e pos)).unpack = .finite s m e pos := by
  obtain ⟨k, biased⟩ : ∃ k : ℕ, e + 1075 = k := ⟨(e + 1075).toNat, by omega⟩
  change UnpackedFloat.unpack .binary64 (UnpackedFloat.pack .binary64 (.finite s m e pos)) = _
  rw [pack_normal pos bits biased (by omega), unpack_normal pos bits biased (by omega) (by omega)]

section Subnormal

variable (pos : 0 < m) (small : m < 2 ^ 52)

include small

lemma pack_subnormal : UnpackedFloat.pack .binary64 (.finite s m (-1074) pos) =
    packComponents .binary64 s 0#11 (BitVec.ofNat 52 m) := by
  have bits : m.log2 < 52 := (Nat.log2_lt pos.ne').2 small
  unfold UnpackedFloat.pack
  dsimp only
  rw [if_neg (by decide), if_neg (by change ¬ m.log2 + 1 = 53; omega)]

lemma unpack_subnormal :
    UnpackedFloat.unpack .binary64 (packComponents .binary64 s 0#11 (BitVec.ofNat 52 m)) = .finite s m (-1074) pos := by
  have notZero : BitVec.ofNat 52 m ≠ 0#52 := ofNat_ne_ofNat small (by decide) pos.ne'
  have mantissa : (BitVec.ofNat 52 m).toNat = m := by rw [BitVec.toNat_ofNat, Nat.mod_eq_of_lt small]
  unfold UnpackedFloat.unpack
  simp only [unpackExponent_packComponents, unpackMantissa_packComponents, unpackSign_packComponents, notZero,
    Sign.ofBitVec_toBitVec, mantissa]
  rfl

end Subnormal

lemma unpack_pack_subnormal (pos : 0 < m) (small : m < 2 ^ 52) :
    (Float.Model.pack (.finite s m (-1074) pos)).unpack = .finite s m (-1074) pos := by
  change UnpackedFloat.unpack .binary64 (UnpackedFloat.pack .binary64 (.finite s m (-1074) pos)) = _
  rw [pack_subnormal pos small, unpack_subnormal pos small]

end Packing

lemma Stands.unpack_pack {u : UnpackedFloat} {p : ℚ} (stands : Stands u p) : (Float.Model.pack u).unpack = u := by
  cases stands with
  | @zero s => cases s <;> rfl
  | @finite s m e pos kept =>
    by_cases full : 2 ^ 52 ≤ m
    · exact unpack_pack_normal pos ((Nat.log2_eq_iff pos.ne').2 ⟨full, kept.bits⟩) kept.low kept.high
    · obtain rfl := kept.normal.resolve_left full
      exact unpack_pack_subnormal pos (by omega)

lemma Stands.is {u : UnpackedFloat} {p : ℚ} (stands : Stands u p) : Is (.ofModel (.pack u)) p := by
  unfold Is
  rwa [stands.unpack_pack]

section Order

variable {u v : UnpackedFloat} {p q : ℚ} {m m' : ℕ} {e e' : ℤ}

lemma magnitude_pos (pos : 0 < m) (e : ℤ) : (0 : ℚ) < m * 2 ^ e :=
  mul_pos (Nat.cast_pos.2 pos) (zpow_pos two_pos e)

lemma IsKept.lt_of_exponent (kept : IsKept m e) (kept' : IsKept m' e') (lt : e < e') : (m * 2 ^ e : ℚ) < m' * 2 ^ e' := by
  have full : 2 ^ 52 ≤ m' := kept'.normal.resolve_right (lt_of_le_of_lt kept.low lt).ne'
  have bits : (m : ℚ) < 2 ^ (53 : ℤ) := by exact_mod_cast kept.bits
  have full : (2 ^ (52 : ℤ) : ℚ) ≤ m' := by exact_mod_cast full
  calc (m * 2 ^ e : ℚ) < 2 ^ (53 : ℤ) * 2 ^ e := mul_lt_mul_of_pos_right bits (zpow_pos two_pos e)
    _ = 2 ^ (53 + e) := (zpow_add₀ two_ne_zero _ _).symm
    _ ≤ 2 ^ (52 + e') := zpow_le_zpow_right₀ one_le_two (by omega)
    _ = 2 ^ (52 : ℤ) * 2 ^ e' := zpow_add₀ two_ne_zero _ _
    _ ≤ m' * 2 ^ e' := mul_le_mul_of_nonneg_right full (zpow_pos two_pos e').le

lemma compare_magnitudes (kept : IsKept m e) (kept' : IsKept m' e') :
    (compare e e').then (compare m m') = compare (m * 2 ^ e : ℚ) (m' * 2 ^ e') := by
  rcases lt_trichotomy e e' with lt | rfl | gt
  · rw [compare_lt_iff_lt.2 lt, compare_lt_iff_lt.2 (kept.lt_of_exponent kept' lt)]
    rfl
  · have scale : (0 : ℚ) < 2 ^ e := zpow_pos two_pos e
    rw [compare_eq_iff_eq.2 rfl]
    change compare m m' = _
    rcases lt_trichotomy m m' with lt | rfl | gt
    · rw [compare_lt_iff_lt.2 lt, compare_lt_iff_lt.2 (mul_lt_mul_of_pos_right (Nat.cast_lt.2 lt) scale)]
    · rw [compare_eq_iff_eq.2 rfl, compare_eq_iff_eq.2 rfl]
    · rw [compare_gt_iff_gt.2 gt, compare_gt_iff_gt.2 (mul_lt_mul_of_pos_right (Nat.cast_lt.2 gt) scale)]
  · rw [compare_gt_iff_gt.2 gt, compare_gt_iff_gt.2 (kept'.lt_of_exponent kept gt)]
    rfl

lemma compare_neg (p q : ℚ) : compare (-p) (-q) = (compare p q).swap := by
  rcases lt_trichotomy p q with lt | rfl | gt
  · rw [compare_lt_iff_lt.2 lt, compare_gt_iff_gt.2 (neg_lt_neg lt), Ordering.swap_lt]
  · rw [compare_eq_iff_eq.2 rfl, compare_eq_iff_eq.2 rfl, Ordering.swap_eq]
  · rw [compare_gt_iff_gt.2 gt, compare_lt_iff_lt.2 (neg_lt_neg gt), Ordering.swap_gt]

lemma Stands.compare_eq (hp : Stands u p) (hq : Stands v q) : u.compare v = some (compare p q) := by
  cases hp with
  | zero =>
    cases hq with
    | zero => rw [compare_eq_iff_eq.2 rfl]; rfl
    | @finite s m e pos kept =>
      have magnitude := magnitude_pos pos e
      cases s with
      | positive => rw [signed, compare_lt_iff_lt.2 magnitude]; rfl
      | negative => rw [signed, compare_gt_iff_gt.2 (neg_neg_of_pos magnitude)]; rfl
  | @finite s m e pos kept =>
    have magnitude := magnitude_pos pos e
    cases hq with
    | zero =>
      cases s with
      | positive => rw [signed, compare_gt_iff_gt.2 magnitude]; rfl
      | negative => rw [signed, compare_lt_iff_lt.2 (neg_neg_of_pos magnitude)]; rfl
    | @finite s' m' e' pos' kept' =>
      have magnitude' := magnitude_pos pos' e'
      cases s with
      | positive =>
        cases s' with
        | positive => rw [signed, signed, ← compare_magnitudes kept kept']; rfl
        | negative => rw [signed, signed, compare_gt_iff_gt.2 ((neg_neg_of_pos magnitude').trans magnitude)]; rfl
      | negative =>
        cases s' with
        | positive => rw [signed, signed, compare_lt_iff_lt.2 ((neg_neg_of_pos magnitude).trans magnitude')]; rfl
        | negative => rw [signed, signed, compare_neg, ← compare_magnitudes kept kept']; rfl

variable {x y : Float}

lemma Is.lt_iff (hx : Is x p) (hy : Is y q) : x < y ↔ p < q := by
  change decide ((x.toModel.unpack.compare y.toModel.unpack == some .lt) = true) = true ↔ p < q
  rw [hx.compare_eq hy, decide_eq_true_iff, beq_iff_eq, Option.some_inj, compare_lt_iff_lt]

lemma Is.beq_iff (hx : Is x p) (hy : Is y q) : (x == y) = true ↔ p = q := by
  change (x.toModel.unpack.compare y.toModel.unpack == some .eq) = true ↔ p = q
  rw [hx.compare_eq hy, beq_iff_eq, Option.some_inj, compare_eq_iff_eq]

lemma Stands.isFinite (stands : Stands u p) : u.isFinite = true := by
  cases stands <;> rfl

lemma Is.isFinite (hx : Is x p) : x.isFinite = true :=
  Stands.isFinite hx

end Order

end ItemPipeline.Double
