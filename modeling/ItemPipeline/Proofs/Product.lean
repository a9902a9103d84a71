import ItemPipeline.Proofs.Composition
import ItemPipeline.Proofs.Double.Reading

/-!
Chains of multipliers. As long as the products are words the value is the exact product; from the first one on that is no
word, it is a double or an error, whatever is multiplied after that.
-/

namespace ItemPipeline

structure Step.IsFactor (s : Step) (m : UInt64) : Prop where
  kind : s.kind = .multiplier
  handler : s.handler = .default
  factor : readUInt64? s.params.toList = some m

def StaysWord (n : ℕ) (ms : List UInt64) : Prop :=
  ∀ k, 1 ≤ k → k ≤ ms.length → n * ((ms.take k).map UInt64.toNat).prod < UInt64.size

inductive Value.IsOverflow : Value → Prop
  | double (x : Float) : IsOverflow (.double x)
  | error (e : String) : IsOverflow (.error e)

variable {s : Step} {m n : UInt64} {ms : List UInt64} {t : ValueType} {l : List Step} {w : Value}

lemma staysWord_cons : StaysWord n.toNat (m :: ms) ↔
    n.toNat * m.toNat < UInt64.size ∧ StaysWord (n.toNat * m.toNat) ms := by
  constructor
  · intro stays
    have first : n.toNat * m.toNat < UInt64.size := by simpa using stays 1 le_rfl (by simp)
    refine ⟨first, fun k _ le => ?_⟩
    have next := stays (k + 1) (by omega) (by simpa using le)
    rwa [List.take_succ_cons, List.map_cons, List.prod_cons, ← mul_assoc] at next
  · rintro ⟨first, stays⟩ k pos le
    obtain ⟨k, rfl⟩ := Nat.exists_eq_add_of_le' pos
    rw [List.take_succ_cons, List.map_cons, List.prod_cons, ← mul_assoc]
    rcases Nat.eq_zero_or_pos k with rfl | pos
    · simpa using first
    · exact stays k pos (by simpa using le)

namespace Step

lemma IsFactor.multiply_word (factor : s.IsFactor m) (noFloat : t ≠ .float) :
    (n.toNat * m.toNat < UInt64.size → multiply t s.params (.uint64 n) = .ok (.uint64 (n * m))) ∧
      (¬ n.toNat * m.toNat < UInt64.size → ∀ y, multiply t s.params (.uint64 n) = .ok y → y.IsOverflow) := by
  obtain ⟨x, read, -⟩ := readDouble?_of_readUInt64? factor.factor
  have number : (Value.uint64 n).toNumber t = .ok (.uint64 n) := by
    cases t with
    | float => exact absurd rfl noFloat
    | _ => rfl
  simp only [multiply, readDouble?_trimBlanks, readUInt64?_trimBlanks, read, factor.factor, number, product]
  constructor
  · intro small
    simp only [if_pos small, isBounded, if_true]
  · intro large y made
    simp only [if_neg large] at made
    split_ifs at made
    obtain rfl := Except.ok.inj made
    exact .double _

lemma IsFactor.multiply_double (factor : s.IsFactor m) {x : Float} {y : Value}
    (made : multiply t s.params (.double x) = .ok y) : y.IsOverflow := by
  obtain ⟨z, read, -⟩ := readDouble?_of_readUInt64? factor.factor
  have number : (Value.double x).toNumber t = .ok (.double x) := by cases t <;> rfl
  simp only [multiply, readDouble?_trimBlanks, read, number] at made
  split_ifs at made
  obtain rfl := Except.ok.inj made
  exact .double _

lemma isOverflow_resultOf (handler : s.handler = .default) {o : Except Fault Value}
    (made : ∀ y, o = .ok y → y.IsOverflow) : (s.resultOf o).value.IsOverflow := by
  cases o with
  | ok y => exact made y rfl
  | error f =>
    simp only [resultOf, onFail, handler]
    exact .error _

end Step

section Chain

variable {now : Timestamp} {i : ℕ} {c : Context} {cache : Option Cache} {h : History}

lemma lastValue_factor (factor : s.IsFactor m) (go : s.stopsAt w = false) :
    lastValue (runSteps t now i (s :: l) c cache h w).results w =
      lastValue (runSteps t now (i + 1) l c none (h.pop i).2 (s.resultOf (Step.multiply t s.params w)).value).results
        (s.resultOf (Step.multiply t s.params w)).value := by
  have run : s.run c cache t now (h.pop i).1 w = ⟨Step.multiply t s.params w, (h.pop i).1, c⟩ := by
    simp [Step.run, Step.apply, factor.kind, StepKind.hasHistory]
  rw [lastValue_runSteps_cons go run]

lemma isOverflow_lastValue (factors : List.Forall₂ Step.IsFactor l ms) (overflow : w.IsOverflow) :
    (lastValue (runSteps t now i l c cache h w).results w).IsOverflow := by
  induction factors generalizing i c cache h w with
  | nil => exact overflow
  | @cons s m l ms factor _ ih =>
    cases overflow with
    | double x =>
      rw [lastValue_factor factor (by simp [Step.stopsAt, Value.isNone, Value.isError])]
      exact ih (Step.isOverflow_resultOf factor.handler fun y made => factor.multiply_double made)
    | error e =>
      have stop : s.stopsAt (.error e) = true := by simp [Step.stopsAt, Value.isError, factor.kind]
      simp only [runSteps, stop, if_true]
      exact .error e

lemma lastValue_factors (now : Timestamp) (i : ℕ) (c : Context) (cache : Option Cache) (h : History)
    (factors : List.Forall₂ Step.IsFactor l ms) (noFloat : t ≠ .float) :
    (StaysWord n.toNat ms → ∃ k, lastValue (runSteps t now i l c cache h (.uint64 n)).results (.uint64 n) = .uint64 k ∧
      k.toNat = n.toNat * (ms.map UInt64.toNat).prod) ∧
    (¬ StaysWord n.toNat ms →
      (lastValue (runSteps t now i l c cache h (.uint64 n)).results (.uint64 n)).IsOverflow) := by
  induction factors generalizing i c cache h n with
  | nil => exact ⟨fun _ => ⟨n, rfl, by simp⟩, fun not => (not fun k pos le => by simp at le; omega).elim⟩
  | @cons s m l ms factor factors ih =>
    obtain ⟨small, large⟩ := factor.multiply_word (n := n) noFloat
    rw [lastValue_factor factor (by simp [Step.stopsAt, Value.isNone, Value.isError]), staysWord_cons]
    by_cases fits : n.toNat * m.toNat < UInt64.size
    · have product : (n * m).toNat = n.toNat * m.toNat := by rw [UInt64.toNat_mul, Nat.mod_eq_of_lt fits]
      have value : (s.resultOf (Step.multiply t s.params (.uint64 n))).value = .uint64 (n * m) := by
        rw [small fits]
        rfl
      rw [value, List.map_cons, List.prod_cons, ← mul_assoc, ← product]
      obtain ⟨within, beyond⟩ := ih (n := n * m) (i + 1) c none (h.pop i).2
      exact ⟨fun stays => within stays.2, fun leaves => beyond fun stays => leaves ⟨product ▸ fits, stays⟩⟩
    · refine ⟨fun stays => (fits stays.1).elim, fun _ => isOverflow_lastValue factors ?_⟩
      exact Step.isOverflow_resultOf factor.handler (large fits)

end Chain

lemma Trace.isOverflow_outcome {tr : Trace} (overflow : (lastValue tr.results w).IsOverflow) :
    (tr.outcome w).IsOverflow := by
  cases last : lastValue tr.results w with
  | double x =>
    rw [tr.outcome_of_sound (by rw [last]; rfl), last]
    exact .double x
  | error e =>
    have failed : (tr.outcome w).isError = true := by
      rw [tr.isError_outcome, last]
      rfl
    cases out : tr.outcome w with
    | error e => exact .error e
    | _ => simp [out, Value.isError] at failed
  | _ => exact nomatch last ▸ overflow

/-- The value is a word exactly if no product on the way is too large for one, and then it is the product of all factors;
it never is what is left of a product that is too large. -/
theorem RuleSet.execute_factors {r : RuleSet} {cache : Option Cache} {input : Value} (noFloat : r.valueType ≠ .float)
    (steps : r.steps ≠ []) (factors : List.Forall₂ Step.IsFactor r.steps ms) (word : source cache input = .uint64 n)
    (c : Context) (now : Timestamp) (h : History) :
    ((∃ k, (r.execute c cache input now h).1.value = .uint64 k) ↔ StaysWord n.toNat ms) ∧
    (∀ k, (r.execute c cache input now h).1.value = .uint64 k → k.toNat = n.toNat * (ms.map UInt64.toNat).prod) ∧
    (¬ StaysWord n.toNat ms → (∃ x, (r.execute c cache input now h).1.value = .double x) ∨
      ∃ e, (r.execute c cache input now h).1.value = .error e) := by
  obtain ⟨small, large⟩ := lastValue_factors (n := n) now 0 c cache h factors noFloat
  rw [r.execute_of_steps steps, word, Trace.close]
  generalize runSteps r.valueType now 0 r.steps c cache h (.uint64 n) = tr at *
  by_cases stays : StaysWord n.toNat ms
  · obtain ⟨k, last, product⟩ := small stays
    have value : tr.outcome (.uint64 n) = .uint64 k := by rw [tr.outcome_of_sound (by rw [last]; rfl), last]
    refine ⟨⟨fun _ => stays, fun _ => ⟨k, value⟩⟩, fun j same => ?_, fun not => (not stays).elim⟩
    obtain rfl : k = j := Value.uint64.inj (value.symm.trans same)
    exact product
  · have overflow := Trace.isOverflow_outcome (large stays)
    dsimp only
    generalize tr.outcome (.uint64 n) = out at *
    have noWord (k : UInt64) : out ≠ .uint64 k := by
      rintro rfl
      cases overflow
    refine ⟨⟨?_, fun fits => (stays fits).elim⟩, fun k same => (noWord k same).elim, fun _ => ?_⟩
    · rintro ⟨k, same⟩
      exact (noWord k same).elim
    · cases overflow with
      | double x => exact .inl ⟨x, rfl⟩
      | error e => exact .inr ⟨e, rfl⟩

theorem RuleSet.execute_factors_of_zero :
    ∃ (r r' : RuleSet), r.valueType = .uint64 ∧ r'.valueType = .uint64 ∧
      List.Forall₂ Step.IsFactor r.steps [4294967296, 0] ∧ List.Forall₂ Step.IsFactor r'.steps [0, 4294967296] ∧
      ¬ StaysWord 4294967296 [4294967296, 0] ∧ StaysWord 4294967296 [0, 4294967296] ∧
      (¬ ∃ k, (r.execute {} none (.uint64 4294967296) ⟨0⟩ {}).1.value = .uint64 k) ∧
      ∃ k, (r'.execute {} none (.uint64 4294967296) ⟨0⟩ {}).1.value = .uint64 k ∧ k.toNat = 0 := by
  let large : Step := { kind := .multiplier, params := "+4294967296" }
  let zero : Step := { kind := .multiplier, params := " 00" }
  let r : RuleSet := { valueType := .uint64, steps := [large, zero] }
  let r' : RuleSet := { valueType := .uint64, steps := [zero, large] }
  have isLarge : large.IsFactor 4294967296 := ⟨rfl, rfl, by decide⟩
  have isZero : zero.IsFactor 0 := ⟨rfl, rfl, by decide⟩
  have factors : List.Forall₂ Step.IsFactor r.steps [4294967296, 0] := .cons isLarge (.cons isZero .nil)
  have factors' : List.Forall₂ Step.IsFactor r'.steps [0, 4294967296] := .cons isZero (.cons isLarge .nil)
  have leaves : ¬ StaysWord (4294967296 : UInt64).toNat [4294967296, 0] := fun stays =>
    absurd (stays 1 le_rfl (by decide)) (by decide)
  have stays : StaysWord (4294967296 : UInt64).toNat [0, 4294967296] :=
    staysWord_cons.2 ⟨by decide, fun k pos le => by
      obtain rfl : k = 1 := by simp at le; omega
      decide⟩
  have word : source none (.uint64 4294967296) = .uint64 4294967296 := rfl
  obtain ⟨iff, -, -⟩ := execute_factors (by decide) (List.cons_ne_nil _ _) factors word {} ⟨0⟩ {}
  obtain ⟨iff', exact, -⟩ := execute_factors (by decide) (List.cons_ne_nil _ _) factors' word {} ⟨0⟩ {}
  obtain ⟨k, value⟩ := iff'.2 stays
  exact ⟨r, r', rfl, rfl, factors, factors', leaves, stays, fun made => leaves (iff.1 made), k, value, exact k value⟩

end ItemPipeline
