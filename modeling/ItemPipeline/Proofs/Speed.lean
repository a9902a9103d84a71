import ItemPipeline.Proofs.Double.Arithmetic
import ItemPipeline.Step.Run

/-!
Rates of words that do not decrease. A word after the remembered one comes to its rate, a word at the same instant fails,
and an earlier one comes to nothing, as long as the nanoseconds between them are a signed word of 64 bits; a distance that
is none counts as the greatest such word, so what is earlier by more than that counts as later.
-/

namespace ItemPipeline

namespace Double

variable {d : ℤ} {n : ℕ} {x y : Float} {p q : ℚ}

def seconds (d : ℤ) : ℚ :=
  nearest (nearest d / 1000000000)

def rate (n : ℕ) (d : ℤ) : ℚ :=
  nearest (nearest n / seconds d)

lemma nearest_natCast_le (small : n ≤ 2 ^ 64) : nearest n ≤ 2 ^ (64 : ℤ) :=
  nearest_le (Nat.cast_nonneg n) (by exact_mod_cast small) (by decide)

lemma one_le_nearest (pos : 0 < n) : 1 ≤ nearest n := by
  simpa using le_nearest (x := n) (k := 0) (by exact_mod_cast pos) (by decide)

lemma abs_nearest (d : ℤ) : |nearest d| = nearest d.natAbs := by
  rw [Nat.cast_natAbs, Int.cast_abs]
  rcases le_total 0 (d : ℚ) with nonneg | nonpos
  · rw [abs_of_nonneg nonneg, abs_of_nonneg (nearest_nonneg nonneg)]
  · rw [abs_of_nonpos nonpos, nearest_neg, abs_of_nonpos]
    rw [← neg_nonneg, ← nearest_neg]
    exact nearest_nonneg (neg_nonneg.2 nonpos)

lemma Is.div_of_moderate (hx : Is x p) (hy : Is y q) (nonzero : q ≠ 0) (small : |p / q| ≤ 2 ^ (100 : ℤ))
    (large : p ≠ 0 → 2 ^ (-100 : ℤ) ≤ |p / q|) : Is (x / y) (nearest (p / q)) :=
  hx.div hy nonzero (small.trans_lt (zpow_lt_zpow_right₀ one_lt_two (by decide)))
    fun ne => (zpow_le_zpow_right₀ one_le_two (by decide)).trans (large ne)

lemma is_seconds (small : d.natAbs ≤ 2 ^ 64) : Is (Float.ofInt d / 1e9) (seconds d) := by
  have billion : (0 : ℚ) < 1000000000 := by norm_num
  refine (is_ofInt small).div_of_moderate is_billion billion.ne' ?_ fun ne => ?_
  · rw [abs_div, abs_nearest, abs_of_pos billion, div_le_iff₀ billion]
    calc nearest d.natAbs ≤ 2 ^ (64 : ℤ) := nearest_natCast_le small
      _ ≤ 2 ^ (100 : ℤ) * 1000000000 := by norm_num
  · have pos : 0 < d.natAbs := by
      rw [Int.natAbs_pos]
      rintro rfl
      simp [nearest_zero] at ne
    rw [abs_div, abs_nearest, abs_of_pos billion, le_div_iff₀ billion]
    calc (2 : ℚ) ^ (-100 : ℤ) * 1000000000 ≤ 1 := by norm_num
      _ ≤ nearest d.natAbs := one_le_nearest pos

lemma seconds_zero : seconds 0 = 0 := by
  simp [seconds, nearest_zero]

lemma seconds_neg (d : ℤ) : seconds (-d) = -seconds d := by
  rw [seconds, Int.cast_neg, nearest_neg, neg_div, nearest_neg, seconds]

lemma le_seconds (pos : 0 < d) : 2 ^ (-30 : ℤ) ≤ seconds d := by
  lift d to ℕ using pos.le
  refine le_nearest ?_ (by decide)
  rw [Int.cast_natCast, le_div_iff₀ (by norm_num)]
  calc (2 : ℚ) ^ (-30 : ℤ) * 1000000000 ≤ 1 := by norm_num
    _ ≤ nearest d := one_le_nearest (by exact_mod_cast pos)

lemma seconds_le (pos : 0 < d) (small : d ≤ 2 ^ 64) : seconds d ≤ 2 ^ (64 : ℤ) := by
  lift d to ℕ using pos.le
  refine nearest_le (div_nonneg (nearest_nonneg (by positivity)) (by norm_num)) ?_ (by decide)
  rw [Int.cast_natCast, div_le_iff₀ (by norm_num)]
  calc nearest d ≤ 2 ^ (64 : ℤ) := nearest_natCast_le (by exact_mod_cast small)
    _ ≤ 2 ^ (64 : ℤ) * 1000000000 := by norm_num

lemma rate_nonneg (pos : 0 < d) : 0 ≤ rate n d :=
  nearest_nonneg (div_nonneg (nearest_nonneg (Nat.cast_nonneg n)) ((zpow_pos two_pos _).le.trans (le_seconds pos)))

lemma is_rate {k : UInt64} (pos : 0 < d) (small : d ≤ 2 ^ 64) (value : Is x (seconds d)) :
    Is (k.toFloat / x) (rate k.toNat d) := by
  have low := le_seconds pos
  have high := seconds_le pos small
  have positive : 0 < seconds d := (zpow_pos two_pos _).trans_le low
  have nonneg : 0 ≤ nearest k.toNat := nearest_nonneg (Nat.cast_nonneg _)
  refine (is_word k).div_of_moderate value positive.ne' ?_ fun ne => ?_
  · rw [abs_div, abs_of_nonneg nonneg, abs_of_pos positive, div_le_iff₀ positive]
    calc nearest k.toNat ≤ 2 ^ (64 : ℤ) := nearest_natCast_le k.toNat_lt.le
      _ ≤ 2 ^ (100 : ℤ) * 2 ^ (-30 : ℤ) := by norm_num
      _ ≤ 2 ^ (100 : ℤ) * seconds d := by gcongr
  · have some_bits : 0 < k.toNat := by
      rw [Nat.pos_iff_ne_zero]
      intro zero
      simp [zero, nearest_zero] at ne
    rw [abs_div, abs_of_nonneg nonneg, abs_of_pos positive, le_div_iff₀ positive]
    calc (2 : ℚ) ^ (-100 : ℤ) * seconds d ≤ 2 ^ (-100 : ℤ) * 2 ^ (64 : ℤ) := by gcongr
      _ ≤ 1 := by norm_num
      _ ≤ nearest k.toNat := one_le_nearest some_bits

end Double

namespace Timestamp

variable {now since : Timestamp}

lemma elapsedWord_of_fits (low : since.nanos ≤ now.nanos + 2 ^ 63) (high : now.nanos < since.nanos + 2 ^ 63) :
    now.elapsedWord since = now.nanos - since.nanos := by
  have limit : Int.pow 2 63 = 2 ^ 63 := rfl
  rw [elapsedWord, elapsed, limit]
  exact if_pos (by omega)

lemma elapsedWord_of_far (far : now.nanos + 2 ^ 63 < since.nanos ∨ since.nanos + 2 ^ 63 ≤ now.nanos) :
    now.elapsedWord since = 2 ^ 63 - 1 := by
  have limit : Int.pow 2 63 = 2 ^ 63 := rfl
  rw [elapsedWord, elapsed, limit]
  exact if_neg (by omega)

lemma elapsedWord_of_later (later : since.nanos < now.nanos) :
    now.elapsedWord since = min (now.nanos - since.nanos) (2 ^ 63 - 1) := by
  rcases lt_or_ge now.nanos (since.nanos + 2 ^ 63) with near | far
  · rw [elapsedWord_of_fits (by omega) near, min_eq_left (by omega)]
  · rw [elapsedWord_of_far (.inr far), min_eq_right (by omega)]

end Timestamp

/-- A rate as a double; where values are words, its whole part as far as a word goes. -/
inductive Value.IsRate : ValueType → ℚ → Value → Prop
  | word {q : ℚ} {k : UInt64} (whole : k.toNat = min ⌊q⌋₊ (UInt64.size - 1)) : IsRate .uint64 q (.uint64 k)
  | double {t : ValueType} {q : ℚ} {x : Float} (noWord : t ≠ .uint64) (value : Double.Is x q) : IsRate t q (.double x)

namespace Step

open Double

variable {s : Step} {t : ValueType} {now since : Timestamp} {p n : UInt64} {v : Value} {typeName kind : String}

lemma isRate_perSecond {k : UInt64} {d : ℤ} {x : Float} (pos : 0 < d) (small : d ≤ 2 ^ 64) (value : Is x (seconds d)) :
    (perSecond t (.uint64 k) x).IsRate t (rate k.toNat d) := by
  have speed := is_rate (k := k) pos small value
  unfold perSecond
  dsimp only
  split_ifs with words
  · subst words
    exact .word (speed.toNat_toUInt64 (rate_nonneg pos))
  · exact .double words speed

lemma change_word (le : p ≤ n) (small : (now.elapsedWord since).natAbs ≤ 2 ^ 64) :
    (now.elapsedWord since < 0 → change true t now (.uint64 n) typeName kind (some ⟨.uint64 p, since⟩) = .ok .none) ∧
    (now.elapsedWord since = 0 → change true t now (.uint64 n) typeName kind (some ⟨.uint64 p, since⟩) =
      .error (.differencing kind typeName .sameInstant)) ∧
    (0 < now.elapsedWord since → ∃ w,
      change true t now (.uint64 n) typeName kind (some ⟨.uint64 p, since⟩) = .ok w ∧
      w.IsRate t (rate (n.toNat - p.toNat) (now.elapsedWord since))) := by
  have run : change true t now (.uint64 n) typeName kind (some ⟨.uint64 p, since⟩) =
      if Float.ofInt (now.elapsedWord since) / 1e9 < 0 then .ok .none
      else if (Float.ofInt (now.elapsedWord since) / 1e9 == 0) = true then .error (.differencing kind typeName .sameInstant)
      else .ok (perSecond t (.uint64 (n - p)) (Float.ofInt (now.elapsedWord since) / 1e9)) := by
    simp [change, isLess, UInt64.not_lt.2 le, difference]
  have value := is_seconds small
  have less := value.lt_iff is_zero
  have equal := value.beq_iff is_zero
  rw [run, ← UInt64.toNat_sub_of_le n p le]
  generalize now.elapsedWord since = d at *
  refine ⟨fun neg => ?_, fun zero => ?_, fun pos => ?_⟩
  · have opposite := le_seconds (d := -d) (by omega)
    rw [seconds_neg] at opposite
    have neg : seconds d < 0 := neg_pos.1 ((zpow_pos two_pos _).trans_le opposite)
    exact if_pos (less.2 neg)
  · have none : seconds d = 0 := by rw [zero, seconds_zero]
    rw [if_neg (fun h => (less.1 h).ne none), if_pos (equal.2 none)]
  · have positive : 0 < seconds d := (zpow_pos two_pos _).trans_le (le_seconds pos)
    rw [if_neg (fun h => (less.1 h).not_gt positive), if_neg (fun h => positive.ne' (equal.1 h))]
    exact ⟨_, rfl, isRate_perSecond pos (by omega) value⟩

/-- A word that is not less than the remembered one is remembered. What is earlier by 2^63 nanoseconds at most comes to
nothing and what is at the same instant fails; anything later comes to a rate, and so does anything earlier by more. -/
theorem run_deltaSpeed (isSpeed : s.kind = .deltaSpeed) (number : v.toNumber t = .ok (.uint64 n)) (le : p ≤ n)
    (c : Context) (cache : Option Cache) (now since : Timestamp) :
    (s.run c cache t now (some ⟨.uint64 p, since⟩) v).memory = some ⟨.uint64 n, now⟩ ∧
    (now.nanos < since.nanos → since.nanos ≤ now.nanos + 2 ^ 63 →
      (s.run c cache t now (some ⟨.uint64 p, since⟩) v).value = .ok .none) ∧
    (now = since → (s.run c cache t now (some ⟨.uint64 p, since⟩) v).value =
      .error (.differencing "speed per second" v.typeName .sameInstant)) ∧
    (since.nanos < now.nanos → ∃ w, (s.run c cache t now (some ⟨.uint64 p, since⟩) v).value = .ok w ∧
      w.IsRate t (rate (n.toNat - p.toNat) (min (now.nanos - since.nanos) (2 ^ 63 - 1)))) ∧
    (now.nanos + 2 ^ 63 < since.nanos → ∃ w, (s.run c cache t now (some ⟨.uint64 p, since⟩) v).value = .ok w ∧
      w.IsRate t (rate (n.toNat - p.toNat) (2 ^ 63 - 1))) := by
  have run : s.run c cache t now (some ⟨.uint64 p, since⟩) v =
      ⟨change true t now (.uint64 n) v.typeName "speed per second" (some ⟨.uint64 p, since⟩),
        some ⟨.uint64 n, now⟩, c⟩ := by
    simp [Step.run, isSpeed, StepKind.hasHistory, remember, delta, number]
  rw [run]
  refine ⟨rfl, fun earlier near => ?_, ?_, fun later => ?_, fun far => ?_⟩
  · have word := Timestamp.elapsedWord_of_fits near (by omega)
    exact (change_word le (by omega)).1 (by omega)
  · rintro rfl
    have word : now.elapsedWord now = now.nanos - now.nanos := Timestamp.elapsedWord_of_fits (by omega) (by omega)
    exact (change_word le (by omega)).2.1 (by omega)
  · rw [← Timestamp.elapsedWord_of_later later]
    have word := Timestamp.elapsedWord_of_later later
    exact (change_word le (by omega)).2.2 (by omega)
  · rw [← Timestamp.elapsedWord_of_far (.inl far)]
    have word := Timestamp.elapsedWord_of_far (.inl far)
    exact (change_word le (by omega)).2.2 (by omega)

theorem run_deltaSpeed_of_instants :
    ∃ (s : Step) (v : Value), s.kind = .deltaSpeed ∧ v.toNumber .text = .ok (.uint64 18446744073709551615) ∧
      (s.run {} none .text ⟨4⟩ (some ⟨.uint64 7, ⟨5⟩⟩) v).value = .ok .none ∧
      (s.run {} none .text ⟨4⟩ (some ⟨.uint64 7, ⟨5⟩⟩) v).memory =
        some ⟨.uint64 18446744073709551615, ⟨4⟩⟩ ∧
      (s.run {} none .text ⟨5⟩ (some ⟨.uint64 7, ⟨5⟩⟩) v).value =
        .error (.differencing "speed per second" v.typeName .sameInstant) ∧
      (s.run {} none .text ⟨5⟩ (some ⟨.uint64 7, ⟨5⟩⟩) v).memory =
        some ⟨.uint64 18446744073709551615, ⟨5⟩⟩ ∧
      ∃ w, (s.run {} none .text ⟨6⟩ (some ⟨.uint64 7, ⟨5⟩⟩) v).value = .ok w ∧
        w.IsRate .text (rate 18446744073709551608 1) := by
  let s : Step := { kind := .deltaSpeed }
  let v : Value := .text " +18446744073709551615"
  have number : v.toNumber .text = .ok (.uint64 18446744073709551615) := by rfl
  have le : (7 : UInt64) ≤ 18446744073709551615 := by decide
  obtain ⟨before, none, -⟩ := run_deltaSpeed (s := s) (p := 7) rfl number le {} Option.none ⟨4⟩ ⟨5⟩
  obtain ⟨same, -, fails, -⟩ := run_deltaSpeed (s := s) (p := 7) rfl number le {} Option.none ⟨5⟩ ⟨5⟩
  obtain ⟨-, -, -, comes, -⟩ := run_deltaSpeed (s := s) (p := 7) rfl number le {} Option.none ⟨6⟩ ⟨5⟩
  exact ⟨s, v, rfl, number, none (by decide) (by decide), before, fails rfl, same, comes (by decide)⟩

theorem run_deltaSpeed_far_earlier :
    (0 : ℤ) < Int.pow 10 19 ∧
      (Step.run { kind := .deltaSpeed } {} none .uint64 ⟨0⟩ (some ⟨.uint64 0, ⟨Int.pow 10 19⟩⟩)
        (.uint64 18446744073709551615)).value = .ok (.uint64 1999999999) :=
  ⟨by decide, rfl⟩

end Step

end ItemPipeline
