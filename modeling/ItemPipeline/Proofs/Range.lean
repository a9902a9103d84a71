import ItemPipeline.Proofs.Double.Reading
import ItemPipeline.Proofs.Success
import ItemPipeline.Proofs.Text
import ItemPipeline.Step.Run

/-!
Validation of words against bounds that are words. Words and bounds are compared as the doubles nearest to them, so a word
outside the bounds can pass if a double cannot tell it from one of them; up to the width of a double it cannot.
-/

namespace ItemPipeline

open Double

namespace Step

def IsBound (l : List Char) : Option UInt64 → Prop
  | none => Text.trimBlanks l = []
  | some k => readUInt64? l = some k

def Within (a b : Option UInt64) (n : UInt64) : Prop :=
  (∀ k ∈ a, k ≤ n) ∧ ∀ k ∈ b, n ≤ k

def NearlyWithin (a b : Option UInt64) (n : UInt64) : Prop :=
  (∀ k ∈ a, nearest k.toNat ≤ nearest n.toNat) ∧ ∀ k ∈ b, nearest n.toNat ≤ nearest k.toNat

variable {s : Step} {l low high : List Char} {k? a b : Option UInt64} {x? : Option Float} {n : UInt64} {x : Float}
  {p : ℚ} {v : Value} {t : ValueType}

lemma Within.nearly (within : Within a b n) : NearlyWithin a b n :=
  ⟨fun k hk => nearest_mono (Nat.cast_nonneg _) (Nat.cast_le.2 (within.1 k hk)),
    fun k hk => nearest_mono (Nat.cast_nonneg _) (Nat.cast_le.2 (within.2 k hk))⟩

lemma NearlyWithin.within (nearly : NearlyWithin a b n) (small : ∀ k ∈ a, k.toNat ≤ 2 ^ 53)
    (small' : ∀ k ∈ b, k.toNat < 2 ^ 53) : Within a b n :=
  ⟨fun k hk => le_of_nearest_le (small k hk) (nearly.1 k hk),
    fun k hk => le_of_nearest_le_of_lt (small' k hk) (nearly.2 k hk)⟩

lemma readBound_of_isBound (side : String) (bound : IsBound l k?) :
    ∃ x?, readBound side (Text.trimBlanks l) = .ok x? ∧ Option.Rel (fun x k => Is x (nearest k.toNat)) x? k? := by
  cases k? with
  | none => exact ⟨none, if_pos bound, .none⟩
  | some k =>
    obtain ⟨x, read, value⟩ := readDouble?_of_readUInt64? bound
    have filled : Text.trimBlanks l ≠ [] := by
      intro empty
      simp [readDouble?, empty] at read
    refine ⟨some x, ?_, .some value⟩
    simp only [readBound, if_neg filled, readDouble?_trimBlanks, read]

lemma any_lt_iff (bound : Option.Rel (fun x k => Is x (nearest k.toNat)) x? k?) (value : Is x p) :
    (x?.any fun y => decide (x < y)) = true ↔ ∃ k ∈ k?, p < nearest k.toNat := by
  cases bound with
  | none => simp
  | some other => simp [value.lt_iff other]

lemma any_gt_iff (bound : Option.Rel (fun x k => Is x (nearest k.toNat)) x? k?) (value : Is x p) :
    (x?.any fun y => decide (x > y)) = true ↔ ∃ k ∈ k?, nearest k.toNat < p := by
  cases bound with
  | none => simp
  | some other => simp [other.lt_iff value]

lemma validateRange_word {params : String} (lines : Text.InTwo params.toList low high) (isLow : IsBound low a)
    (isHigh : IsBound high b) (number : v.toNumber t = .ok (.uint64 n)) :
    (NearlyWithin a b n → validateRange t params v = .ok v) ∧
      (¬ NearlyWithin a b n → validateRange t params v =
        .error (.outsideBounds (String.ofList (Text.trimBlanks low)) (String.ofList (Text.trimBlanks high)))) := by
  obtain ⟨x?, readLow, relLow⟩ := readBound_of_isBound "minimum" isLow
  obtain ⟨y?, readHigh, relHigh⟩ := readBound_of_isBound "maximum" isHigh
  have value := is_word n
  have outside : ((x?.any fun y => decide (n.toFloat < y)) || y?.any fun y => decide (n.toFloat > y)) = true ↔
      ¬ NearlyWithin a b n := by
    rw [Bool.or_eq_true, any_lt_iff relLow value, any_gt_iff relHigh value, NearlyWithin, not_and_or]
    simp only [not_forall, not_le, exists_prop]
  have run : validateRange t params v =
      if ((x?.any fun y => decide (n.toFloat < y)) || y?.any fun y => decide (n.toFloat > y)) = true then
        .error (.outsideBounds (String.ofList (Text.trimBlanks low)) (String.ofList (Text.trimBlanks high)))
      else .ok v := by
    simp only [validateRange, lines.twoLines_eq, readLow, readHigh, number]
    rfl
  rw [run]
  exact ⟨fun nearly => if_neg fun h => outside.1 h nearly, fun not => if_pos (outside.2 not)⟩

/-- A word passes exactly if the nearest doubles are in order; so every word within the bounds passes, and only these if the
bounds are less than the numbers that doubles do not tell apart. -/
theorem run_validateRange (kind : s.kind = .validateRange) (lines : Text.InTwo s.params.toList low high)
    (isLow : IsBound low a) (isHigh : IsBound high b) (number : v.toNumber t = .ok (.uint64 n)) (c : Context)
    (cache : Option Cache) (now : Timestamp) (m : Option Memory) :
    ((s.run c cache t now m v).value = .ok v ↔ NearlyWithin a b n) ∧
    (¬ NearlyWithin a b n → (s.run c cache t now m v).value =
      .error (.outsideBounds (String.ofList (Text.trimBlanks low)) (String.ofList (Text.trimBlanks high)))) ∧
    (Within a b n → (s.run c cache t now m v).value = .ok v) ∧
    ((∀ k ∈ a, k.toNat ≤ 2 ^ 53) → (∀ k ∈ b, k.toNat < 2 ^ 53) →
      ((s.run c cache t now m v).value = .ok v ↔ Within a b n)) := by
  have run : (s.run c cache t now m v).value = validateRange t s.params v := by
    simp [Step.run, kind, StepKind.hasHistory, apply]
  obtain ⟨passes, fails⟩ := validateRange_word lines isLow isHigh number
  have iff : validateRange t s.params v = .ok v ↔ NearlyWithin a b n := by
    refine ⟨fun passed => ?_, passes⟩
    by_contra not
    simp [fails not] at passed
  rw [run]
  refine ⟨iff, fails, fun within => passes within.nearly, fun small small' => ?_⟩
  exact iff.trans ⟨fun nearly => nearly.within small small', Within.nearly⟩

theorem run_validateRange_of_ten :
    ∃ (s : Step) (low high : List Char), s.kind = .validateRange ∧ Text.InTwo s.params.toList low high ∧
      IsBound low (some 1) ∧ IsBound high (some 10) ∧
      (s.run {} none .text ⟨0⟩ none (.text " 10")).value = .ok (.text " 10") ∧
      (s.run {} none .text ⟨0⟩ none (.text "18446744073709551615")).value = .error (.outsideBounds "1" "+10") := by
  let s : Step := { kind := .validateRange, params := "1\n +10" }
  have written : s.params.toList = ['1'] ++ '\n' :: [' ', '+', '1', '0'] := by decide
  have lines : Text.InTwo s.params.toList ['1'] [' ', '+', '1', '0'] := written ▸ .two (by decide)
  have small : ∀ k ∈ some (1 : UInt64), k.toNat ≤ 2 ^ 53 := by simp
  have small' : ∀ k ∈ some (10 : UInt64), k.toNat < 2 ^ 53 := by simp
  have isLow : IsBound ['1'] (some 1) := rfl
  have isHigh : IsBound [' ', '+', '1', '0'] (some 10) := rfl
  obtain ⟨-, -, passes, -⟩ := run_validateRange (v := .text " 10") (t := .text) (n := 10) rfl lines isLow isHigh rfl
    {} none ⟨0⟩ none
  obtain ⟨-, fails, -, exact⟩ := run_validateRange (v := .text "18446744073709551615") (t := .text)
    (n := 18446744073709551615) rfl lines isLow isHigh rfl {} none ⟨0⟩ none
  have outside : ¬ Within (some 1) (some 10) 18446744073709551615 := fun within => absurd (within.2 10 rfl) (by decide)
  refine ⟨s, _, _, rfl, lines, isLow, isHigh, passes ⟨by simp, by simp⟩, fails fun nearly => ?_⟩
  exact outside (nearly.within small small')

theorem run_validateRange_beyond :
    Text.InTwo "\n9007199254740992".toList [] "9007199254740992".toList ∧ IsBound [] none ∧
      IsBound "9007199254740992".toList (some 9007199254740992) ∧
      (Step.run { kind := .validateRange, params := "\n9007199254740992" } {} none .uint64 ⟨0⟩ none
        (.uint64 9007199254740993)).value = .ok (.uint64 9007199254740993) ∧
      ¬ Within none (some 9007199254740992) 9007199254740993 := by
  have written : "\n9007199254740992".toList = [] ++ '\n' :: "9007199254740992".toList := by decide
  exact ⟨written ▸ .two (by decide), rfl, rfl, rfl, fun within => absurd (within.2 9007199254740992 rfl) (by decide)⟩

end Step

end ItemPipeline
