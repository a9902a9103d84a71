import ItemPipeline.Proofs.Runs
import Mathlib.Algebra.GroupWithZero.Nat
import Mathlib.Data.List.Forall2

/-!
Differences over whole runs. A step on words remembers the word of the run before, and after a failure nothing, so over a
stretch of words that do not decrease the differences add up to the whole way.
-/

namespace ItemPipeline

def Value.IsWordOrText (t : ValueType) (v : Value) : Prop :=
  (∃ n, v.toNumber t = .ok (.uint64 n)) ∨ ∃ s u, v = .text s ∧ v.toNumber t = .error u

lemma Value.IsWordOrText.content {t : ValueType} {v : Value} (h : v.IsWordOrText t) :
    v.isNone = false ∧ v.isError = false := by
  rcases h with ⟨n, number⟩ | ⟨s, u, rfl, -⟩
  · cases v with
    | none => cases t <;> simp [toNumber] at number
    | error => cases t <;> simp [toNumber] at number
    | _ => exact ⟨rfl, rfl⟩
  · exact ⟨rfl, rfl⟩

def increase : Option UInt64 → UInt64 → Value
  | none, _ => .none
  | some m, n => if n < m then .none else .uint64 (n - m)

def wordMemory (t : ValueType) (x : Value × Timestamp) : Option Memory :=
  match x.1.toNumber t with
  | .ok n => some ⟨n, x.2⟩
  | .error _ => none

lemma isError_increase (before : Option UInt64) (n : UInt64) : (increase before n).isError = false := by
  cases before with
  | none => rfl
  | some m =>
    rw [increase]
    split_ifs <;> rfl

namespace Step

variable {s : Step} {t : ValueType} {now : Timestamp} {m : Option Memory} {v : Value} {n : UInt64}
  {before : Option UInt64} {u : Value.Unfit}

lemma remember_word (kind : s.kind = .deltaValue) (number : v.toNumber t = .ok (.uint64 n))
    (memory : m.map (·.value) = before.map .uint64) :
    s.remember t now m v = (.ok (increase before n), some ⟨.uint64 n, now⟩) := by
  simp only [remember, kind, delta, number]
  cases m with
  | none =>
    obtain rfl : before = none := by simpa using memory.symm
    rfl
  | some m =>
    obtain ⟨k, rfl, value⟩ : ∃ k, before = some k ∧ Value.uint64 k = m.value := by simpa using memory.symm
    simp only [change, ← value, isLess, increase, difference, Bool.not_false, if_true]
    split <;> simp_all

lemma remember_unfit (kind : s.kind = .deltaValue) (unfit : v.toNumber t = .error u) :
    ∃ f, s.remember t now m v = (.error f, m) := by
  simp only [remember, kind, delta, unfit]
  exact ⟨_, rfl⟩

end Step

namespace RuleSet

variable {r : RuleSet} {s : Step} {l ys l₂ : List (Value × Timestamp)} {out : List Value} {h h' : History}
  {m : Option Memory}

section Once

variable (c : Context) {cache : Option Cache} {input : Value} (now : Timestamp) {n : UInt64} {b : Option UInt64}

lemma execute_word (single : r.steps = [s]) (kind : s.kind = .deltaValue)
    (number : (source cache input).toNumber r.valueType = .ok (.uint64 n)) (memory : m.map (·.value) = b.map .uint64) :
    (r.execute c cache input now (.alone m)).1.value = increase b n ∧
      (r.execute c cache input now (.alone m)).2.1 = .alone (some ⟨.uint64 n, now⟩) := by
  obtain ⟨filled, sound⟩ := Value.IsWordOrText.content (.inl ⟨n, number⟩)
  refine execute_single single (by simp [kind, StepKind.hasHistory]) (by simp [kind]) ?_
    (Step.remember_word kind number memory) (isError_increase b n)
  simp [Step.stopsAt, filled, sound]

lemma execute_unfit {u : Value.Unfit} {text : String} (single : r.steps = [s]) (kind : s.kind = .deltaValue)
    (handler : s.handler = .default) (isText : source cache input = .text text)
    (unfit : (source cache input).toNumber r.valueType = .error u) :
    (∃ e, (r.execute c cache input now (.alone m)).1.value = .error e) ∧
      (r.execute c cache input now (.alone m)).2.1 = .alone none := by
  obtain ⟨f, step⟩ : ∃ f, s.remember r.valueType now m (source cache input) = (.error f, m) :=
    Step.remember_unfit kind unfit
  refine execute_single_error single (by simp [kind, StepKind.hasHistory]) (by simp [kind]) ?_ handler step
  simp [Step.stopsAt, isText, Value.isNone, Value.isError]

end Once

lemma wordMemory_of_word {t : ValueType} {x : Value × Timestamp} {n : UInt64}
    (number : x.1.toNumber t = .ok (.uint64 n)) :
    wordMemory t x = some ⟨.uint64 n, x.2⟩ := by
  simp [wordMemory, number]

lemma wordMemory_of_unfit {t : ValueType} {x : Value × Timestamp} {u : Value.Unfit} (unfit : x.1.toNumber t = .error u) :
    wordMemory t x = none := by
  simp [wordMemory, unfit]

lemma Runs.alone_wordMemory (runs : r.Runs h l out h') (single : r.steps = [s]) (kind : s.kind = .deltaValue)
    (handler : s.handler = .default) (inputs : ∀ x ∈ l, x.1.IsWordOrText r.valueType) (start : h = .alone m)
    {b : Option UInt64} (memory : m.map (·.value) = b.map .uint64) :
    h' = .alone ((l.getLast?.map (wordMemory r.valueType)).getD m) := by
  induction runs generalizing m b with
  | done => exact start
  | @run _ _ l _ c cache input now rest ih =>
    subst start
    rw [List.forall_mem_cons] at inputs
    obtain ⟨first, inputs⟩ := inputs
    have last : (((source cache input, now) :: l).getLast?.map (wordMemory r.valueType)).getD m =
        (l.getLast?.map (wordMemory r.valueType)).getD (wordMemory r.valueType (source cache input, now)) := by
      rw [List.getLast?_cons]
      cases l.getLast? <;> rfl
    rw [last]
    rcases first with ⟨n, number⟩ | ⟨text, u, isText, unfit⟩
    · have left := (execute_word c now single kind number memory).2
      rw [wordMemory_of_word number]
      exact ih inputs left (b := some n) rfl
    · have left := (execute_unfit c now (m := m) single kind handler isText unfit).2
      rw [wordMemory_of_unfit unfit]
      exact ih inputs left (b := none) rfl

lemma Runs.exists_before (runs : r.Runs .empty l out h) (single : r.steps = [s]) (kind : s.kind = .deltaValue)
    (handler : s.handler = .default) (inputs : ∀ x ∈ l, x.1.IsWordOrText r.valueType) :
    ∃ (m : Option Memory) (before : Option UInt64), h = .alone m ∧ m.map (·.value) = before.map .uint64 ∧
      (l = [] → before = none) ∧
      ∀ y, l.getLast? = some y → m = wordMemory r.valueType y ∧
        (∀ u, y.1.toNumber r.valueType = .error u → before = none) ∧
        ∀ k, y.1.toNumber r.valueType = .ok (.uint64 k) → before = some k := by
  have left := runs.alone_wordMemory single kind handler inputs (m := none) rfl (b := none) rfl
  cases last : l.getLast? with
  | none => exact ⟨none, none, by simpa [last] using left, rfl, fun _ => rfl, nofun⟩
  | some y =>
    have ne : l ≠ [] := fun empty => by simp [empty] at last
    rw [last, Option.map_some, Option.getD_some] at left
    rcases inputs y (List.mem_of_getLast? last) with ⟨n, number⟩ | ⟨text, u, isText, unfit⟩
    · refine ⟨_, some n, left, by rw [wordMemory_of_word number]; rfl, fun empty => (ne empty).elim, fun y' same => ?_⟩
      obtain rfl := Option.some.inj same
      exact ⟨rfl, fun u unfit => by simp [number] at unfit, fun k same => by simpa [number] using same⟩
    · refine ⟨_, none, left, by rw [wordMemory_of_unfit unfit]; rfl, fun _ => rfl, fun y' same => ?_⟩
      obtain rfl := Option.some.inj same
      exact ⟨rfl, fun _ _ => rfl, fun k same => by simp [unfit] at same⟩

lemma Runs.isError_last (runs : r.Runs .empty l out h) (single : r.steps = [s]) (kind : s.kind = .deltaValue)
    (handler : s.handler = .default) (inputs : ∀ x ∈ l, x.1.IsWordOrText r.valueType) {y : Value × Timestamp}
    {k : UInt64} (last : l.getLast? = some y) (number : y.1.toNumber r.valueType = .ok (.uint64 k)) :
    ∃ w, out.getLast? = some w ∧ w.isError = false := by
  obtain ⟨l₀, rfl⟩ := List.getLast?_eq_some_iff.1 last
  obtain ⟨out₀, rest, h₀, rfl, first, final⟩ := runs.split
  rw [List.forall_mem_append] at inputs
  obtain ⟨m, before, rfl, memory, -⟩ := first.exists_before single kind handler inputs.1
  cases final with
  | run c cache input now rest =>
    cases rest
    refine ⟨_, by rw [List.getLast?_append]; rfl, ?_⟩
    rw [(execute_word c _ single kind number memory).1]
    exact isError_increase before k

lemma Runs.sum_differences {n : UInt64} {ns : List UInt64} {now : Timestamp} (single : r.steps = [s])
    (kind : s.kind = .deltaValue) (words : List.Forall₂ (fun y k => y.1.toNumber r.valueType = .ok (.uint64 k)) ys ns)
    (rising : (n :: ns).IsChain (· ≤ ·)) (runs : r.Runs (.alone (some ⟨.uint64 n, now⟩)) (ys ++ l₂) out h') :
    ∃ (ds : List UInt64) (out₂ : List Value), out = ds.map Value.uint64 ++ out₂ ∧ ds.length = ys.length ∧
      n.toNat + (ds.map UInt64.toNat).sum = ((n :: ns).getLast (List.cons_ne_nil n ns)).toNat := by
  induction words generalizing n now out with
  | nil => exact ⟨[], out, rfl, rfl, rfl⟩
  | @cons y k ys ns number _ ih =>
    rw [List.isChain_cons_cons] at rising
    obtain ⟨le, rising⟩ := rising
    cases runs with
    | run c cache input later rest =>
      obtain ⟨value, left⟩ := execute_word c later (m := some ⟨.uint64 n, now⟩) (b := some n) single kind
        number rfl
      rw [left] at rest
      obtain ⟨ds, out₂, rfl, length, sum⟩ := ih rising rest
      refine ⟨(k - n) :: ds, out₂, ?_, congrArg (· + 1) length, ?_⟩
      · rw [value, increase, if_neg (UInt64.not_lt.2 le)]
        rfl
      · have exact : (k - n).toNat = k.toNat - n.toNat := UInt64.toNat_sub_of_le k n le
        have le : n.toNat ≤ k.toNat := le
        rw [List.getLast_cons (List.cons_ne_nil k ns), ← sum, List.map_cons, List.sum_cons, exact]
        omega

/-- A value that is no number fails and empties the history. A word is remembered, and comes to nothing as the first one,
after a failure and if it is less than the word before; otherwise it comes to the difference. So the differences over
words that do not decrease add up to the last word less the first. -/
theorem runs_delta (single : r.steps = [s]) (kind : s.kind = .deltaValue) (handler : s.handler = .default)
    (runs : r.Runs .empty l out h) (inputs : ∀ x ∈ l, x.1.IsWordOrText r.valueType) :
    (∀ l₁ x l₂, l = l₁ ++ x :: l₂ → ∃ out₁ w out₂, out = out₁ ++ w :: out₂ ∧ out₁.length = l₁.length ∧
      (∀ u, x.1.toNumber r.valueType = .error u → ∃ e, w = .error e) ∧
      ∀ n, x.1.toNumber r.valueType = .ok (.uint64 n) →
        (l₁ = [] → w = .none) ∧
        (∀ e, out₁.getLast? = some (.error e) → w = .none) ∧
        ∀ y m, l₁.getLast? = some y → y.1.toNumber r.valueType = .ok (.uint64 m) →
          (n < m → w = .none) ∧ (m ≤ n → w = .uint64 (n - m) ∧ (n - m).toNat = n.toNat - m.toNat)) ∧
    (∀ l₁ x, l = l₁ ++ [x] →
      (∀ u, x.1.toNumber r.valueType = .error u → h = .empty) ∧
      ∀ n, x.1.toNumber r.valueType = .ok (.uint64 n) → h = .alone (some ⟨.uint64 n, x.2⟩)) ∧
    ∀ l₁ x ys l₂ n ns, l = l₁ ++ x :: (ys ++ l₂) → x.1.toNumber r.valueType = .ok (.uint64 n) →
      List.Forall₂ (fun y k => y.1.toNumber r.valueType = .ok (.uint64 k)) ys ns → (n :: ns).IsChain (· ≤ ·) →
      ∃ (out₁ : List Value) (w : Value) (ds : List UInt64) (out₂ : List Value),
        out = out₁ ++ w :: (ds.map Value.uint64 ++ out₂) ∧ out₁.length = l₁.length ∧
        ds.length = ys.length ∧
        n.toNat + (ds.map UInt64.toNat).sum = ((n :: ns).getLast (List.cons_ne_nil n ns)).toNat := by
  refine ⟨?_, ?_, ?_⟩
  · rintro l₁ x l₂ rfl
    rw [List.forall_mem_append, List.forall_mem_cons] at inputs
    obtain ⟨earlier, input, -⟩ := inputs
    obtain ⟨out₁, rest, h₁, rfl, first, later⟩ := runs.split
    obtain ⟨m, before, rfl, memory, start, left⟩ := first.exists_before single kind handler earlier
    cases later with
    | @run _ _ _ out₂ c cache v now _ =>
      refine ⟨out₁, _, out₂, rfl, first.length_eq, fun u unfit => ?_, fun n number => ?_⟩
      · rcases input with ⟨n, number⟩ | ⟨text, -, isText, -⟩
        · simp [number] at unfit
        · exact (execute_unfit c now single kind handler isText unfit).1
      · rw [(execute_word c _ single kind number memory).1]
        refine ⟨fun none => by rw [start none]; rfl, fun e failed => ?_, fun y k last previous => ?_⟩
        · cases last : l₁.getLast? with
          | none => rw [start (List.getLast?_eq_none_iff.1 last)]; rfl
          | some y =>
            rcases earlier y (List.mem_of_getLast? last) with ⟨k, number⟩ | ⟨-, u, -, unfit⟩
            · obtain ⟨w, last, sound⟩ := first.isError_last single kind handler earlier last number
              obtain rfl := Option.some.inj (last.symm.trans failed)
              simp [Value.isError] at sound
            · rw [(left y last).2.1 u unfit]
              rfl
        · rw [(left y last).2.2 k previous]
          refine ⟨fun less => if_pos less, fun le => ⟨if_neg (UInt64.not_lt.2 le), UInt64.toNat_sub_of_le n k le⟩⟩
  · rintro l₁ x rfl
    obtain ⟨m, before, rfl, memory, -, left⟩ := runs.exists_before single kind handler inputs
    obtain ⟨rfl, -⟩ := left x List.getLast?_concat
    refine ⟨fun u unfit => ?_, fun n number => ?_⟩
    · rw [wordMemory_of_unfit unfit]
      rfl
    · rw [wordMemory_of_word number]
  · rintro l₁ x ys l₂ n ns rfl number words rising
    rw [List.forall_mem_append] at inputs
    obtain ⟨out₁, rest, h₁, rfl, first, later⟩ := runs.split
    obtain ⟨m, before, rfl, memory, -⟩ := first.exists_before single kind handler inputs.1
    cases later with
    | run c cache v now rest =>
      rw [(execute_word c now single kind number memory).2] at rest
      obtain ⟨ds, out₂, rfl, length, sum⟩ := rest.sum_differences single kind words rising
      exact ⟨out₁, _, ds, out₂, rfl, first.length_eq, length, sum⟩

theorem runs_delta_of_reset :
    ∃ (r : RuleSet) (s : Step) (l : List (Value × Timestamp)) (e : String) (h : History),
      r.steps = [s] ∧ s.kind = .deltaValue ∧ s.handler = .default ∧ r.valueType ≠ .float ∧
      r.Runs .empty l [.none, .uint64 18446744073709551615, .none, .error e, .none, .uint64 2] h ∧
      (∀ x ∈ l, x.1.IsWordOrText r.valueType) ∧ l.length = 6 ∧ h = .alone (some ⟨.uint64 9, ⟨5⟩⟩) ∧
      ∃ (w : Value) (ds : List UInt64) (out₂ : List Value),
        [.none, .uint64 18446744073709551615, .none, .error e, .none, .uint64 2] =
          w :: (ds.map Value.uint64 ++ out₂) ∧
        ds.length = 1 ∧ (ds.map UInt64.toNat).sum = 18446744073709551615 := by
  let s : Step := { kind := .deltaValue }
  let r : RuleSet := { valueType := .uint64, steps := [s] }
  let l : List (Value × Timestamp) := [(.uint64 0, ⟨9⟩), (.uint64 18446744073709551615, ⟨9⟩), (.uint64 7, ⟨8⟩),
    (.text "up", ⟨8⟩), (.uint64 7, ⟨6⟩), (.text " 9", ⟨5⟩)]
  have up : (Value.text "up").toNumber .uint64 = .error .noNumber := rfl
  have nine : (Value.text " 9").toNumber .uint64 = .ok (.uint64 9) := rfl
  have inputs : ∀ x ∈ l, x.1.IsWordOrText r.valueType := by
    simp only [l, List.forall_mem_cons, List.not_mem_nil, false_imp_iff, implies_true, and_true]
    exact ⟨.inl ⟨_, rfl⟩, .inl ⟨_, rfl⟩, .inl ⟨_, rfl⟩, .inr ⟨_, _, rfl, up⟩, .inl ⟨_, rfl⟩, .inl ⟨_, nine⟩⟩
  obtain ⟨⟨e, failed⟩, emptied⟩ : (∃ e, (r.execute {} none (.text "up") ⟨8⟩ _).1.value = .error e) ∧ _ :=
    execute_unfit {} ⟨8⟩ (m := some ⟨.uint64 7, ⟨8⟩⟩) rfl rfl rfl rfl up
  have runs : r.Runs .empty l [.none, .uint64 18446744073709551615, .none, .error e, .none, .uint64 2]
      (.alone (some ⟨.uint64 9, ⟨5⟩⟩)) := by
    refine .cons {} (.alone (some ⟨.uint64 0, ⟨9⟩⟩)) rfl rfl ?_
    refine .cons {} (.alone (some ⟨.uint64 18446744073709551615, ⟨9⟩⟩)) rfl rfl ?_
    refine .cons {} (.alone (some ⟨.uint64 7, ⟨8⟩⟩)) rfl rfl ?_
    refine .cons {} (.alone none) failed emptied ?_
    refine .cons {} (.alone (some ⟨.uint64 7, ⟨6⟩⟩)) rfl rfl ?_
    exact .cons {} _ rfl rfl .done
  obtain ⟨-, remembered, sums⟩ := runs_delta rfl rfl rfl runs inputs
  obtain ⟨out₁, w, ds, out₂, eq, none, length, sum⟩ :=
    sums [] _ [(.uint64 18446744073709551615, ⟨9⟩)] _ 0 [18446744073709551615] rfl rfl (.cons rfl .nil) (by decide)
  obtain rfl := List.length_eq_zero_iff.1 none
  have kept := (remembered (l.take 5) (.text " 9", ⟨5⟩) rfl).2 9 nine
  exact ⟨r, s, l, e, _, rfl, rfl, rfl, by decide, runs, inputs, rfl, kept, w, ds, out₂, eq, length, by simpa using sum⟩

end RuleSet

end ItemPipeline
