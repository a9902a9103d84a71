import ItemPipeline.Manager.Drain
import ItemPipeline.Proofs.Execution

/-!
What execution keeps of a task: its item, whether it is serial, and all that its flush takes from the
item.
-/

namespace ItemPipeline

namespace Task

def isTest : Task → Bool
  | test _ => true
  | _ => false

def valueTask? : Task → Option ValueTask
  | test _ => none
  | value t => some t
  | serialValue t => some t
  | dependent t => some t.primary

def answer : Task → Output
  | test t => .reply t.ticket t.reply
  | value t => .flush t.flushed
  | serialValue t => .flush t.flushed
  | dependent t => .flush t.primary.flushed

end Task

def Task.ticket? : Task → Option Nat
  | .test t => some t.ticket
  | _ => none

structure Stamp where
  item : UInt64
  host : UInt64
  valueType : ValueType
  discovery : Bool
  time : Timestamp
  options : ValueOptions

def FlushedValue.stamp (v : FlushedValue) : Stamp :=
  ⟨v.item, v.host, v.valueType, v.discovery, v.time, v.options⟩

def Item.stamp (x : Item) (t : Timestamp) (o : ValueOptions) : Stamp :=
  ⟨x.id, x.host, x.rules.valueType, x.rules.discovery, t, o⟩

def Task.flushed? (t : Task) : Option FlushedValue :=
  t.valueTask?.map ValueTask.flushed

def Task.uses (k : Nat) (t : Task) : Bool :=
  t.valueTask?.any fun v => v.edition.number == k

def Task.stamp? (t : Task) : Option Stamp :=
  t.valueTask?.map fun v => v.flushed.stamp

namespace Output

def stamp? (o : Output) : Option Stamp :=
  o.toFlushed.map FlushedValue.stamp

def ticket? (o : Output) : Option Nat :=
  o.toReply.map Prod.fst

end Output

def Job.sequence? : Job → Option UInt64
  | .single _ => none
  | .sequence i _ => some i

namespace Histories

variable (m : Histories) (e : Edition)

lemma of_set (h : History) (e' : Edition) :
    (m.set e h).of e' = if e.number = e'.number then h else m.of e' := by
  unfold of set
  rw [Table.get?_insert]
  split <;> rfl

lemma of_eq_empty {m : Histories} {e : Edition} (h : m.get? e.number = none) : m.of e = .empty := by
  simp [of, h]

end Histories

namespace ValueTask

variable (t : ValueTask) (b : Bench)

lemma history_set {e : Edition} (h : t.edition.number ≠ e.number) (m : Histories) (x : History) :
    t.history (m.set e x) = t.history m := by
  unfold history
  rw [Histories.of_set, if_neg (Ne.symm h)]

lemma keep_get? {k : Nat} (h : t.edition.number ≠ k) (m : Histories) (x : History) :
    (t.keep m x).get? k = m.get? k := by
  unfold keep Histories.set
  split
  · rw [Table.get?_insert, if_neg h]
  · rfl

def input : Value × Timestamp :=
  (match t.cache with
    | some k => k.value
    | none => t.value, t.time)

lemma execute_input (c : Context) (h : History) :
    t.rules.execute c t.cache t.value t.time h = t.rules.execute c none t.input.1 t.input.2 h := by
  unfold input
  cases t.cache with
  | none => rfl
  | some k => exact t.rules.execute_cached k

lemma run_result (hb : b.context.Sound) :
    (t.run b).1.result = (t.rules.once t.input (t.history b.histories)).1 := by
  have h := (t.rules.execute_eq t.input.1 t.input.2 (t.history b.histories) hb).1
  simp only [run, execute_input, RuleSet.once, h]

lemma run_histories (hb : b.context.Sound) :
    (t.run b).2.histories = t.keep b.histories (t.rules.once t.input (t.history b.histories)).2 := by
  have h := (t.rules.execute_eq t.input.1 t.input.2 (t.history b.histories) hb).2.1
  simp only [run, execute_input, RuleSet.once, h]

lemma run_context (hb : b.context.Sound) : (t.run b).2.context.Sound := by
  have h := (t.rules.execute_eq t.input.1 t.input.2 (t.history b.histories) hb).2.2
  simpa only [run, execute_input] using h

end ValueTask

lemma TestTask.run_context (t : TestTask) (b : Bench) (hb : b.context.Sound) : (t.run b).2.context.Sound :=
  (t.rules.execute_eq t.value t.time t.history hb).2.2

namespace Task

variable (t : Task) (b : Bench)

lemma run_context (hb : b.context.Sound) : (t.run b).2.context.Sound := by
  cases t with
  | test t => exact t.run_context b hb
  | value t => exact t.run_context b hb
  | serialValue t => exact t.run_context b hb
  | dependent t => exact t.primary.run_context b hb

def input? : Option (Value × Timestamp) :=
  t.valueTask?.map ValueTask.input

def result? : Option Value :=
  t.valueTask?.map ValueTask.result

lemma run_histories_of_value {v : ValueTask} (h : t.valueTask? = some v) :
    (t.run b).2.histories = (v.run b).2.histories := by
  cases t <;> simp only [valueTask?, Option.some.injEq, reduceCtorEq] at h <;> subst h <;> rfl

lemma run_histories_of_test (h : t.valueTask? = none) : (t.run b).2.histories = b.histories := by
  cases t <;> simp only [valueTask?, reduceCtorEq] at h
  rfl

lemma run_histories_get? {k : Nat} (h : t.uses k = false) :
    (t.run b).2.histories.get? k = b.histories.get? k := by
  cases hv : t.valueTask? with
  | none => rw [t.run_histories_of_test b hv]
  | some v =>
    have hk : v.edition.number ≠ k := by simpa [uses, hv] using h
    rw [t.run_histories_of_value b hv]
    exact v.keep_get? hk _ _

lemma run_fst_congr {t : Task} {b b' : Bench} (ht : t.isTest = false)
    (same : ∀ v, t.valueTask? = some v → (v.run b).1 = (v.run b').1) : (t.run b).1 = (t.run b').1 := by
  cases t with
  | test t => simp [isTest] at ht
  | value v => exact congrArg value (same v rfl)
  | serialValue v => exact congrArg serialValue (same v rfl)
  | dependent d =>
    have primary := same d.primary rfl
    simp only [run, DependentTask.run, primary]

lemma run_histories_set {e : Edition} (h : t.uses e.number = false) (x : History) :
    (t.run ⟨b.context, b.histories.set e x⟩).1 = (t.run b).1 := by
  cases ht : t.isTest with
  | true =>
    cases t <;> simp only [isTest, reduceCtorEq] at ht
    rfl
  | false =>
    refine run_fst_congr ht fun v hv => ?_
    have ne : v.edition.number ≠ e.number := by simpa [uses, hv] using h
    simp only [ValueTask.run, v.history_set ne]

lemma uses_iff {t : Task} {k : Nat} :
    t.uses k = true ↔ ∃ v, t.valueTask? = some v ∧ v.edition.number = k := by
  simp [uses, Option.any_eq_true]

lemma run_item : (t.run b).1.item = t.item := by
  cases t <;> rfl

lemma run_isSerial : (t.run b).1.isSerial = t.isSerial := by
  cases t <;> rfl

lemma run_isTest : (t.run b).1.isTest = t.isTest := by
  cases t <;> rfl

lemma run_stamp? : (t.run b).1.stamp? = t.stamp? := by
  cases t <;> rfl

lemma item_of_valueTask? {t : Task} {v : ValueTask} (h : t.valueTask? = some v) : t.item = v.item := by
  cases t <;> simp only [valueTask?, Option.some.injEq, reduceCtorEq] at h <;> subst h <;> rfl

lemma item_of_stamp? {t : Task} {s : Stamp} (h : t.stamp? = some s) : t.item = s.item := by
  obtain ⟨v, hv, rfl⟩ := Option.map_eq_some_iff.1 h
  exact item_of_valueTask? hv

lemma run_ticket? : (t.run b).1.ticket? = t.ticket? := by
  cases t <;> rfl

lemma answer_stamp? : t.answer.stamp? = t.stamp? := by
  cases t <;> rfl

lemma answer_toFlushed : t.answer.toFlushed = t.flushed? := by
  cases t <;> rfl

lemma answer_ticket? : t.answer.ticket? = t.ticket? := by
  cases t <;> rfl

lemma ticket?_of_not_isTest {t : Task} (h : t.isTest = false) : t.ticket? = none := by
  cases t <;> simp_all [isTest, ticket?]

lemma stamp?_eq_some {t : Task} (h : t.isTest = false) : ∃ s, t.stamp? = some s := by
  cases t <;> simp_all [isTest, stamp?, valueTask?]

lemma stamp?_eq_none {t : Task} (h : t.isTest = true) : t.stamp? = none := by
  cases t <;> simp_all [isTest, stamp?, valueTask?]

lemma run_valueTask? : (t.run b).1.valueTask? = t.valueTask?.map fun v => (v.run b).1 := by
  cases t <;> rfl

lemma isTest_eq_isNone : t.isTest = t.valueTask?.isNone := by
  cases t <;> rfl

lemma not_isTest_of_isSerial {t : Task} (h : t.isSerial = true) : t.isTest = false := by
  cases t <;> simp_all [isSerial, isTest]

end Task

lemma Job.run_task (j : Job) (b : Bench) : (j.run b).1.task = (j.task.run b).1 := by
  cases j <;> rfl

lemma Job.run_bench (j : Job) (b : Bench) : (j.run b).2 = (j.task.run b).2 := by
  cases j <;> rfl

lemma Job.run_sequence? (j : Job) (b : Bench) : (j.run b).1.sequence? = j.sequence? := by
  cases j <;> rfl

namespace Manager

variable (m : Manager)

lemma taskOf_isTest (t : ValueTask) : (m.taskOf t).isTest = false := by
  unfold taskOf Task.ofValue
  split
  · split <;> rfl
  · rfl

lemma taskOf_valueTask? (t : ValueTask) : (m.taskOf t).valueTask? = some t := by
  unfold taskOf Task.ofValue
  split
  · split <;> rfl
  · rfl

lemma taskOf_item (t : ValueTask) : (m.taskOf t).item = t.item := by
  unfold taskOf Task.ofValue
  split
  · split <;> rfl
  · rfl

lemma taskOf_isSerial (t : ValueTask) : (m.taskOf t).isSerial = t.isSerial := by
  unfold taskOf Task.ofValue
  split
  · split <;> simp_all [Task.isSerial]
  · rfl

end Manager

end ItemPipeline
