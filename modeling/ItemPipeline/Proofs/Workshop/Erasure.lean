import ItemPipeline.Proofs.Workshop.Memory

/-!
A workshop without its trials. Whatever step a workshop takes, the same workshop cleared of all trials
either takes the same step or has nothing to do, as long as it is known how many trials the drain that is
under way has still to handle.
-/

namespace ItemPipeline

def Job.isTest (j : Job) : Bool :=
  j.task.isTest

def Act.isTrial : Act → Bool
  | tryItem _ _ _ => true
  | trySteps _ _ _ _ _ => true
  | _ => false

inductive Act.Within : Act → Act → Prop
  | same (a : Act) : a.Within a
  | drain {limit₀ limit : Nat} : limit₀ ≤ limit → Act.Within (.drain limit₀) (.drain limit)

def Event.isTest : Event → Bool
  | tried _ => true
  | ran t _ => t.isTest
  | settled t _ => t.isTest
  | _ => false

namespace Queue

def withoutTests (q : Queue) : Queue :=
  { q with
    pending := q.pending.filter fun j => !j.isTest
    immediate := q.immediate.filter fun j => !j.isTest
    finished := q.finished.filter fun j => !j.isTest }

variable (q : Queue) {t : Task} {j : Job}

lemma withoutTests_pushImmediate (h : j.isTest = false) :
    (q.pushImmediate j).withoutTests = q.withoutTests.pushImmediate j := by
  simp [withoutTests, pushImmediate, h]

lemma withoutTests_pushImmediate_test (h : j.isTest = true) :
    (q.pushImmediate j).withoutTests = q.withoutTests := by
  simp [withoutTests, pushImmediate, h]

lemma withoutTests_pushPending (h : j.isTest = false) :
    (q.pushPending j).withoutTests = q.withoutTests.pushPending j := by
  simp [withoutTests, pushPending, h]

lemma withoutTests_pushFinished (h : j.isTest = false) :
    (q.pushFinished j).withoutTests = q.withoutTests.pushFinished j := by
  simp [withoutTests, pushFinished, h]

lemma withoutTests_pushFinished_test (h : j.isTest = true) :
    (q.pushFinished j).withoutTests = q.withoutTests := by
  simp [withoutTests, pushFinished, h]

lemma withoutTests_pushSerial (h : t.isTest = false) :
    (q.pushSerial t).withoutTests = q.withoutTests.pushSerial t := by
  have hj : (Job.sequence t.item t).isTest = false := h
  unfold pushSerial
  cases hs : q.sequences.get? t.item <;> simp [withoutTests, hs, hj]

lemma withoutTests_push (h : t.isTest = false) :
    (q.push (.single t)).withoutTests = q.withoutTests.push (.single t) := by
  cases hs : t.isSerial with
  | true => rw [push_of_isSerial _ hs, push_of_isSerial _ hs, withoutTests_pushSerial _ h]
  | false => rw [push_of_parallel _ hs h, push_of_parallel _ hs h, withoutTests_pushPending]; exact h

lemma withoutTests_pushFed (h : t.isTest = false) :
    (Manager.pushFed q t).withoutTests = Manager.pushFed q.withoutTests t := by
  unfold Manager.pushFed
  split
  · exact q.withoutTests_push h
  · exact q.withoutTests_pushImmediate h

lemma withoutTests_bred {l : List (Item × Task)} (h : ∀ b ∈ l, b.2.isTest = false) :
    (l.foldl (fun q b => Manager.pushFed q b.2) q).withoutTests =
      l.foldl (fun q b => Manager.pushFed q b.2) q.withoutTests := by
  induction l generalizing q with
  | nil => rfl
  | cons b l ih =>
    simp only [List.forall_mem_cons] at h
    rw [List.foldl_cons, List.foldl_cons, ih _ h.2, withoutTests_pushFed _ h.1]

end Queue

namespace Manager

def withoutTests (m : Manager) (tickets inFlight : Nat) : Manager :=
  { m with queue := m.queue.withoutTests, tickets := tickets, inFlight := inFlight }

variable (m : Manager) (k f : Nat)

lemma withoutTests_updateItem (i : UInt64) (r : RuleSet) :
    (m.withoutTests k f).updateItem i r = ((m.updateItem i r).1, (m.updateItem i r).2.withoutTests k f) := by
  unfold updateItem
  cases hx : m.items.get? i <;> simp [withoutTests, hx]

@[simp] lemma withoutTests_items : (m.withoutTests k f).items = m.items := rfl

@[simp] lemma withoutTests_taskOf (v : ValueTask) : (m.withoutTests k f).taskOf v = m.taskOf v := rfl

@[simp] lemma withoutTests_bred (t : Task) : (m.withoutTests k f).bred t = m.bred t := rfl

lemma withoutTests_submit {t : Task} (h : t.isTest = false) :
    (m.withoutTests k f).submit t = (m.submit t).withoutTests k (f + 1) := by
  simp only [submit, withoutTests, m.queue.withoutTests_push h]

lemma withoutTests_enqueue (i : UInt64) (v : Value) (t : Timestamp) (o : ValueOptions) :
    ∃ f', ((m.withoutTests k f).enqueue i v t o).2 = (m.enqueue i v t o).2.withoutTests k f' := by
  unfold enqueue
  cases hx : m.items.get? i with
  | none => exact ⟨f, by simp [hx]⟩
  | some x =>
    refine ⟨f + 1, ?_⟩
    simp only [withoutTests_items, hx, withoutTests_taskOf, m.withoutTests_submit k f (m.taskOf_isTest _)]
    rfl

lemma withoutTests_settleTask (t : Task) :
    ∃ f', ((m.withoutTests k f).settleTask t).2 = (m.settleTask t).2.withoutTests k f' := by
  refine ⟨f - 1 + (m.bred t).length, ?_⟩
  rw [settleTask_eq, settleTask_eq, withoutTests_bred]
  simp only [withoutTests, m.queue.withoutTests_bred (m.bred_isTest t)]

lemma withoutTests_pushTest (i : UInt64) (r : RuleSet) (v : Value) (now : Timestamp) (h : History) :
    (m.pushTest i r v now h).2.withoutTests k f = m.withoutTests k f := by
  have hq : (m.queue.push (.single (m.trial i r v now h))).withoutTests = m.queue.withoutTests := by
    rw [m.queue.push_of_isTest rfl, m.queue.withoutTests_pushImmediate_test rfl]
  simp only [pushTest, submit, withoutTests, hq]

lemma settleTask_test {t : Task} (h : t.isTest = true) :
    ∃ f', (m.settleTask t).2 = { m with inFlight := f' } := by
  cases t with
  | test t => exact ⟨_, rfl⟩
  | _ => simp [Task.isTest] at h

lemma withoutTests_advance {i : UInt64} (h : ∀ t ∈ (m.queue.sequences.get? i).getD [], t.isTest = false) :
    (m.withoutTests k f).advance i = (m.advance i).withoutTests k f := by
  cases hs : (m.queue.sequences.get? i).getD [] with
  | nil =>
    rw [m.advance_of_empty hs, advance_of_empty _ (by simpa [withoutTests, Queue.withoutTests] using hs)]
    rfl
  | cons t r =>
    have hg : m.queue.sequences.get? i = some (t :: r) := by
      cases hg : m.queue.sequences.get? i <;> simp_all
    have ht : (Job.sequence i t).isTest = false := h t (by simp [hs])
    rw [m.advance_of_waiting hg, advance_of_waiting _ (by simpa [withoutTests, Queue.withoutTests] using hg)]
    simp [withoutTests, Queue.withoutTests, ht]

end Manager

section Run

variable {c c₀ : Context} (m : Histories)

lemma ValueTask.run_of_sound (v : ValueTask) (hc : c.Sound) (hc₀ : c₀.Sound) :
    (v.run ⟨c, m⟩).1 = (v.run ⟨c₀, m⟩).1 ∧ (v.run ⟨c, m⟩).2.histories = (v.run ⟨c₀, m⟩).2.histories := by
  have h := v.rules.execute_eq v.input.1 v.input.2 (v.history m) hc
  have h₀ := v.rules.execute_eq v.input.1 v.input.2 (v.history m) hc₀
  simp only [ValueTask.run, execute_input, h.1, h.2.1, h₀.1, h₀.2.1, and_self]

lemma TestTask.run_of_sound (t : TestTask) (hc : c.Sound) (hc₀ : c₀.Sound) :
    (t.run ⟨c, m⟩).1 = (t.run ⟨c₀, m⟩).1 := by
  have h := t.rules.execute_eq t.value t.time t.history hc
  have h₀ := t.rules.execute_eq t.value t.time t.history hc₀
  simp only [TestTask.run, h.1, h.2.1, h₀.1, h₀.2.1]

lemma Task.run_of_sound (t : Task) (hc : c.Sound) (hc₀ : c₀.Sound) :
    (t.run ⟨c, m⟩).1 = (t.run ⟨c₀, m⟩).1 ∧ (t.run ⟨c, m⟩).2.histories = (t.run ⟨c₀, m⟩).2.histories := by
  cases t with
  | test t => exact ⟨congrArg test (t.run_of_sound m hc hc₀), rfl⟩
  | value v =>
    have h := v.run_of_sound m hc hc₀
    exact ⟨congrArg value h.1, h.2⟩
  | serialValue v =>
    have h := v.run_of_sound m hc hc₀
    exact ⟨congrArg serialValue h.1, h.2⟩
  | dependent d =>
    have h := d.primary.run_of_sound m hc hc₀
    simp only [run, DependentTask.run, h.1, h.2, and_self]

lemma Job.run_of_sound (j : Job) (hc : c.Sound) (hc₀ : c₀.Sound) :
    (j.run ⟨c, m⟩).1 = (j.run ⟨c₀, m⟩).1 ∧ (j.run ⟨c, m⟩).2.histories = (j.run ⟨c₀, m⟩).2.histories := by
  cases j with
  | single t =>
    have h := t.run_of_sound m hc hc₀
    exact ⟨congrArg single h.1, h.2⟩
  | sequence i t =>
    have h := t.run_of_sound m hc hc₀
    exact ⟨congrArg (sequence i) h.1, h.2⟩

lemma Job.run_isTest (j : Job) (b : Bench) : (j.run b).1.isTest = j.isTest := by
  rw [isTest, j.run_task, j.task.run_isTest]
  rfl

end Run

def Hand.withoutTests : Hand → Hand
  | free => free
  | ready j => if j.isTest then free else ready j
  | done j => if j.isTest then free else done j

namespace Duty

def left : Duty → Nat
  | idle => 0
  | draining left => left
  | settling left _ => left
  | advancing left _ => left

def withoutTests (k : Nat) : Duty → Duty
  | idle => idle
  | draining left => draining (left - k)
  | settling left j => if j.isTest then draining (left - k) else settling (left - k) j
  | advancing left i => advancing (left - k) i

end Duty

structure Worker.Cleared (v v₀ : Worker) : Prop where
  hand : v₀.hand = v.hand.withoutTests
  before : v.context.Sound
  after : v₀.context.Sound

/-- The second workshop is the first without its trials: the same table, histories and flushes, and the
same queue, hands and duty but for trials, of which the drain under way is still to handle `k`. -/
structure Workshop.Cleared (k : Nat) (w w₀ : Workshop) : Prop where
  manager : ∃ t f, w₀.manager = w.manager.withoutTests t f
  duty : w₀.duty = w.duty.withoutTests k
  workers : List.Forall₂ Worker.Cleared w.workers w₀.workers
  issued : w₀.issued = w.issued

lemma forall₂_append_cons {α β : Type} {R : α → β → Prop} {l r : List α} {v : α} {ws : List β}
    (h : List.Forall₂ R (l ++ v :: r) ws) :
    ∃ l₀ v₀ r₀, ws = l₀ ++ v₀ :: r₀ ∧ R v v₀ ∧
      ∀ u u₀, R u u₀ → List.Forall₂ R (l ++ u :: r) (l₀ ++ u₀ :: r₀) := by
  induction l generalizing ws with
  | nil =>
    cases h with
    | cons hv hr => exact ⟨[], _, _, rfl, hv, fun u u₀ hu => .cons hu hr⟩
  | cons x l ih =>
    cases h with
    | cons hx hl =>
      obtain ⟨l₀, v₀, r₀, rfl, hv, rest⟩ := ih hl
      exact ⟨_ :: l₀, v₀, r₀, rfl, hv, fun u u₀ hu => .cons hx (rest u u₀ hu)⟩

namespace Queue

variable {q : Queue} {j : Job}

lemma withoutTests_pop_of_test (h : ∀ j ∈ q.pending, j.isSerial = false ∧ j.isTest = false)
    (hj : ∀ j ∈ q.pop.1, j.isTest = true) : q.pop.2.withoutTests = q.withoutTests := by
  rcases q.pop_cases fun j hj => (h j hj).1 with ⟨k, r, hi, hp⟩ | ⟨k, r, hi, hq, hp⟩ | hp
  · have hk : k.isTest = true := hj k (by simp [hp])
    simp [hp, withoutTests, hi, hk]
  · have hk : k.isTest = true := hj k (by simp [hp])
    simp [(h k (by simp [hq])).2] at hk
  · rw [hp]

lemma withoutTests_pop (h : ∀ j ∈ q.pending, j.isSerial = false ∧ j.isTest = false)
    (found : q.pop.1 = some j) (hj : j.isTest = false) :
    q.withoutTests.pop = (some j, q.pop.2.withoutTests) := by
  rcases q.pop_cases fun j hj => (h j hj).1 with ⟨k, r, hi, hp⟩ | ⟨k, r, hi, hq, hp⟩ | hp
  · obtain rfl : k = j := by simpa [hp] using found
    simp [pop, withoutTests, hi, hj]
  · obtain rfl : k = j := by simpa [hp] using found
    have hk : k.isSerial = false := (h k (by simp [hq])).1
    cases k with
    | single t =>
      have ht : t.isSerial = false := hk
      simp [pop, popPending, withoutTests, hi, hq, hj, ht]
    | sequence i t => simp [pop, popPending, withoutTests, hi, hq, hj]
  · simp [hp] at found

end Queue

namespace Workshop

variable {w w' w₀ : Workshop} {a : Act} {e : List Event} {k : Nat}

inductive Follows (w₀ : Workshop) (k : Nat) (a : Act) (e : List Event) (w' : Workshop) : Prop
  | skip (tests : ∀ x ∈ e, x.isTest = true) (after : w'.Cleared k w₀)
  | keep {a₀ : Act} {w₀' : Workshop} (others : ∀ x ∈ e, x.isTest = false) (untried : a₀.isTrial = false)
      (within : a₀.Within a) (turn : Turn w₀ a₀ e w₀') (after : w'.Cleared k w₀')

lemma Cleared.eq (h : w.Cleared k w₀) :
    ∃ t f ws, w₀ = ⟨w.manager.withoutTests t f, w.duty.withoutTests k, ws, w.issued⟩ ∧
      List.Forall₂ Worker.Cleared w.workers ws := by
  obtain ⟨m₀, d₀, ws, is₀⟩ := w₀
  obtain ⟨⟨t, f, rfl⟩, rfl, hw, rfl⟩ := h
  exact ⟨t, f, ws, rfl, hw⟩

lemma Cleared.eq_of_idle (h : w.Cleared k w₀) (idle : w.duty = .idle) :
    ∃ t f ws, w₀ = ⟨w.manager.withoutTests t f, w.duty.withoutTests k, ws, w.issued⟩ ∧
      w.duty.withoutTests k = .idle ∧ List.Forall₂ Worker.Cleared w.workers ws := by
  obtain ⟨t, f, ws, hw₀, hw⟩ := h.eq
  exact ⟨t, f, ws, hw₀, by rw [idle]; rfl, hw⟩

section Drain

variable {left : Nat} {j : Job} {q : Queue} {i : UInt64}

lemma follows_take (duty : w.duty = .draining (left + 1))
    (found : w.manager.queue.popFinished = (some j, q)) (hk : k ≤ left) :
    ∃ k₀ ≤ left + 1, ∀ w₀, w.Cleared k₀ w₀ →
      Follows w₀ k .take [] { w with manager := { w.manager with queue := q }, duty := .settling left j } := by
  obtain ⟨r, hf, rfl⟩ := Queue.popFinished_eq_some found
  cases hj : j.isTest with
  | true =>
    -- one trial less is ahead of the drain
    refine ⟨k + 1, Nat.succ_le_succ hk, fun w₀ h => .skip (by simp) ?_⟩
    obtain ⟨t, f, ws, rfl, hw⟩ := h.eq
    refine ⟨⟨t, f, ?_⟩, ?_, hw, rfl⟩
    · simp [Manager.withoutTests, Queue.withoutTests, hf, hj]
    · simp [duty, Duty.withoutTests, hj]
  | false =>
    refine ⟨k, Nat.le_succ_of_le hk, fun w₀ h => ?_⟩
    obtain ⟨t, f, ws, rfl, hw⟩ := h.eq
    have duty₀ : w.duty.withoutTests k = .draining (left - k + 1) := by
      rw [duty, Duty.withoutTests, Nat.succ_sub hk]
    have found₀ : (w.manager.withoutTests t f).queue.popFinished =
        (some j, Queue.withoutTests { w.manager.queue with finished := r }) := by
      simp [Manager.withoutTests, Queue.withoutTests, Queue.popFinished, hf, hj]
    refine .keep (by simp) rfl (.same _) (.take duty₀ found₀) ⟨⟨t, f, rfl⟩, ?_, hw, rfl⟩
    simp [Duty.withoutTests, hj]

lemma follows_settle (h : w.Cleared k w₀) (duty : w.duty = .settling left j) (fit : j.Fit) :
    Follows w₀ k .settle
      (.settled j.task (w.manager.settleTask j.task).1 :: (w.manager.bred j.task).map fun b => .bred b.1 b.2)
      { w with manager := (w.manager.settleTask j.task).2, duty := .after left j } := by
  obtain ⟨t, f, ws, rfl, hw⟩ := h.eq
  cases hj : j.task.isTest with
  | true =>
    have bred : w.manager.bred j.task = [] :=
      Manager.bred_of_test (by simpa [Task.isTest_eq_isNone] using hj)
    obtain ⟨f', settled⟩ := w.manager.settleTask_test hj
    have after : Duty.after left j = .draining left := by
      cases j with
      | single t => rfl
      | sequence i t => exact absurd (Task.not_isTest_of_isSerial fit.1) (by simpa [Job.task] using hj)
    refine .skip (by simp [bred, Event.isTest, hj]) ⟨⟨t, f, by rw [settled]; rfl⟩, ?_, hw, rfl⟩
    simp [duty, after, Duty.withoutTests, Job.isTest, hj]
  | false =>
    have duty₀ : w.duty.withoutTests k = .settling (left - k) j := by
      simp [duty, Duty.withoutTests, Job.isTest, hj]
    have outputs : ((w.manager.withoutTests t f).settleTask j.task).1 = (w.manager.settleTask j.task).1 := by
      rw [Manager.settleTask_eq, Manager.settleTask_eq]
    obtain ⟨f', settled⟩ := w.manager.withoutTests_settleTask t f j.task
    have turn₀ := Turn.settle (w := ⟨w.manager.withoutTests t f, _, ws, w.issued⟩) duty₀
    simp only [outputs, Manager.withoutTests_bred] at turn₀
    refine .keep ?_ rfl (.same _) turn₀ ⟨⟨t, f', settled⟩, ?_, hw, rfl⟩
    · refine List.forall_mem_cons.2 ⟨hj, fun x hx => ?_⟩
      obtain ⟨b, -, rfl⟩ := List.mem_map.1 hx
      rfl
    · cases j <;> rfl

lemma follows_advance (h : w.Cleared k w₀) (duty : w.duty = .advancing left i)
    (chain : ∀ t ∈ (w.manager.queue.sequences.get? i).getD [], t.isTest = false) :
    Follows w₀ k .advance [] { w with manager := w.manager.advance i, duty := .draining left } := by
  obtain ⟨t, f, ws, rfl, hw⟩ := h.eq
  have duty₀ : w.duty.withoutTests k = .advancing (left - k) i := by
    rw [duty, Duty.withoutTests]
  exact .keep (by simp) rfl (.same _) (.advance duty₀)
    ⟨⟨t, f, w.manager.withoutTests_advance t f chain⟩, rfl, hw, rfl⟩

end Drain

section Work

variable {l r : List Worker} {v : Worker} {j done : Job} {b : Bench}

lemma follows_pop (h : w.Cleared k w₀) (split : w.workers = l ++ v :: r) (hand : v.hand = .free)
    (pending : ∀ j ∈ w.manager.queue.pending, j.isSerial = false ∧ j.isTest = false) :
    Follows w₀ k .pop []
      { w with
        manager := { w.manager with queue := w.manager.queue.pop.2 }
        workers := l ++ { v with hand := .ofPop w.manager.queue.pop.1 } :: r } := by
  obtain ⟨t, f, ws, rfl, hw⟩ := h.eq
  obtain ⟨l₀, v₀, r₀, rfl, hv, others⟩ := forall₂_append_cons (split ▸ hw)
  have hand₀ : v₀.hand = .free := by rw [hv.hand, hand]; rfl
  by_cases hj : ∀ j ∈ w.manager.queue.pop.1, j.isTest = true
  · refine .skip (by simp) ⟨⟨t, f, ?_⟩, rfl, others _ _ ⟨?_, hv.before, hv.after⟩, rfl⟩
    · simp only [Manager.withoutTests, Queue.withoutTests_pop_of_test pending hj]
    · rw [hand₀]
      cases hp : w.manager.queue.pop.1 with
      | none => rfl
      | some j => simp [Hand.ofPop, Hand.withoutTests, hj j hp]
  · obtain ⟨j, found, hj⟩ : ∃ j, w.manager.queue.pop.1 = some j ∧ j.isTest = false := by
      simpa using hj
    have popped := Queue.withoutTests_pop pending found hj
    refine .keep (by simp) rfl (.same _) (.pop rfl hand₀)
      ⟨⟨t, f, congrArg (fun q => { w.manager with queue := q, tickets := t, inFlight := f }) ?_⟩, rfl,
        others _ _ ⟨?_, hv.before, hv.after⟩, rfl⟩
    · exact congrArg Prod.snd popped
    · have first : (w.manager.withoutTests t f).queue.pop.1 = some j := congrArg Prod.fst popped
      simp [first, found, Hand.ofPop, Hand.withoutTests, hj]

lemma follows_run (h : w.Cleared k w₀) (split : w.workers = l ++ v :: r) (hand : v.hand = .ready j)
    (result : j.run ⟨v.context, w.manager.histories⟩ = (done, b)) :
    Follows w₀ k .run [.ran j.task done.task]
      { w with
        manager := { w.manager with histories := b.histories }
        workers := l ++ ⟨b.context, .done done⟩ :: r } := by
  obtain ⟨t, f, ws, rfl, hw⟩ := h.eq
  obtain ⟨l₀, v₀, r₀, rfl, hv, others⟩ := forall₂_append_cons (split ▸ hw)
  have bench : b = (j.task.run ⟨v.context, w.manager.histories⟩).2 := by rw [← j.run_bench, result]
  have sound : b.context.Sound := bench ▸ j.task.run_context _ hv.before
  have kind : done.isTest = j.isTest := by rw [← j.run_isTest ⟨v.context, w.manager.histories⟩, result]
  cases hj : j.isTest with
  | true =>
    have hand₀ : v₀.hand = .free := by simp [hv.hand, hand, Hand.withoutTests, hj]
    have histories : b.histories = w.manager.histories := by
      rw [bench, j.task.run_histories_of_test]
      simpa [Job.isTest, Task.isTest_eq_isNone] using hj
    refine .skip (List.forall_mem_singleton.2 hj)
      ⟨⟨t, f, by rw [histories]⟩, rfl, others _ _ ⟨?_, sound, hv.after⟩, rfl⟩
    simp [hand₀, Hand.withoutTests, kind, hj]
  | false =>
    have hand₀ : v₀.hand = .ready j := by simp [hv.hand, hand, Hand.withoutTests, hj]
    obtain ⟨same, histories⟩ := j.run_of_sound w.manager.histories hv.before hv.after
    rw [result] at same histories
    have result₀ : j.run ⟨v₀.context, w.manager.histories⟩ = (done, (j.run ⟨v₀.context, _⟩).2) :=
      Prod.ext same.symm rfl
    have sound₀ : (j.run ⟨v₀.context, w.manager.histories⟩).2.context.Sound := by
      rw [j.run_bench]
      exact j.task.run_context _ hv.after
    refine .keep (List.forall_mem_singleton.2 hj) rfl (.same _) (.run rfl hand₀ result₀)
      ⟨⟨t, f, ?_⟩, rfl, others _ _ ⟨?_, sound, sound₀⟩, rfl⟩
    · exact congrArg (fun x => { w.manager.withoutTests t f with histories := x }) histories.symm
    · simp [Hand.withoutTests, kind, hj]

lemma follows_put (h : w.Cleared k w₀) (split : w.workers = l ++ v :: r) (hand : v.hand = .done j) :
    Follows w₀ k .put []
      { w with
        manager := { w.manager with queue := w.manager.queue.pushFinished j }
        workers := l ++ { v with hand := .free } :: r } := by
  obtain ⟨t, f, ws, rfl, hw⟩ := h.eq
  obtain ⟨l₀, v₀, r₀, rfl, hv, others⟩ := forall₂_append_cons (split ▸ hw)
  cases hj : j.isTest with
  | true =>
    have hand₀ : v₀.hand = .free := by simp [hv.hand, hand, Hand.withoutTests, hj]
    refine .skip (by simp) ⟨⟨t, f, ?_⟩, rfl, others _ _ ⟨hand₀, hv.before, hv.after⟩, rfl⟩
    simp only [Manager.withoutTests, w.manager.queue.withoutTests_pushFinished_test hj]
  | false =>
    have hand₀ : v₀.hand = .done j := by simp [hv.hand, hand, Hand.withoutTests, hj]
    refine .keep (by simp) rfl (.same _) (.put rfl hand₀)
      ⟨⟨t, f, ?_⟩, rfl, others _ _ ⟨rfl, hv.before, hv.after⟩, rfl⟩
    simp only [Manager.withoutTests, w.manager.queue.withoutTests_pushFinished hj]

end Work

lemma Turn.follows (h : Turn w a e w') (ho : w.floor.Orderly) (hk : k ≤ w'.duty.left) :
    ∃ k₀ ≤ w.duty.left, ∀ w₀, w.Cleared k₀ w₀ → Follows w₀ k a e w' := by
  cases h with
  | add i host r idle =>
    refine ⟨k, hk, fun w₀ h => ?_⟩
    obtain ⟨t, f, ws, rfl, idle₀, hw⟩ := h.eq_of_idle idle
    exact .keep (by simp) rfl (.same _) (.add i host r idle₀) ⟨⟨t, f, rfl⟩, rfl, hw, rfl⟩
  | restore x idle known =>
    refine ⟨k, hk, fun w₀ h => ?_⟩
    obtain ⟨t, f, ws, rfl, idle₀, hw⟩ := h.eq_of_idle idle
    exact .keep (by simp) rfl (.same _) (.restore x idle₀ known) ⟨⟨t, f, rfl⟩, rfl, hw, rfl⟩
  | update i r idle =>
    refine ⟨k, hk, fun w₀ h => ?_⟩
    obtain ⟨t, f, ws, rfl, idle₀, hw⟩ := h.eq_of_idle idle
    have hu := w.manager.withoutTests_updateItem t f i r
    exact .keep (by simp) rfl (.same _) (.update i r idle₀)
      ⟨⟨t, f, congrArg Prod.snd hu⟩, rfl, hw, by rw [hu]; rfl⟩
  | remove i idle =>
    refine ⟨k, hk, fun w₀ h => ?_⟩
    obtain ⟨t, f, ws, rfl, idle₀, hw⟩ := h.eq_of_idle idle
    exact .keep (by simp) rfl (.same _) (.remove i idle₀) ⟨⟨t, f, rfl⟩, rfl, hw, rfl⟩
  | feed i v now o idle =>
    refine ⟨k, hk, fun w₀ h => ?_⟩
    obtain ⟨t, f, ws, rfl, idle₀, hw⟩ := h.eq_of_idle idle
    obtain ⟨f', hf⟩ := w.manager.withoutTests_enqueue t f i v now o
    exact .keep (by simp [Event.isTest]) rfl (.same _) (.feed i v now o idle₀) ⟨⟨t, f', hf⟩, rfl, hw, rfl⟩
  | tryItem i v now idle =>
    refine ⟨k, hk, fun w₀ h => .skip (by simp [Event.isTest]) ?_⟩
    obtain ⟨t, f, ws, rfl, hw⟩ := h.eq
    refine ⟨⟨t, f, ?_⟩, rfl, hw, rfl⟩
    simp only [Manager.test]
    split
    · rfl
    · exact (w.manager.withoutTests_pushTest t f _ _ _ _ _).symm
  | trySteps s vt v now hist idle =>
    refine ⟨k, hk, fun w₀ h => .skip (by simp [Event.isTest]) ?_⟩
    obtain ⟨t, f, ws, rfl, hw⟩ := h.eq
    exact ⟨⟨t, f, (w.manager.withoutTests_pushTest t f _ _ _ _ _).symm⟩, rfl, hw, rfl⟩
  | drain limit idle =>
    refine ⟨0, Nat.zero_le _, fun w₀ h => ?_⟩
    obtain ⟨t, f, ws, rfl, idle₀, hw⟩ := h.eq_of_idle idle
    exact .keep (by simp) rfl (.drain (Nat.sub_le _ _)) (.drain (limit - k) idle₀)
      ⟨⟨t, f, rfl⟩, rfl, hw, rfl⟩
  | stop duty ended =>
    refine ⟨0, Nat.zero_le _, fun w₀ h => ?_⟩
    obtain ⟨t, f, ws, rfl, hw⟩ := h.eq
    have duty₀ := congrArg (Duty.withoutTests 0) duty
    have ended₀ := ended.imp_right fun hf : w.manager.queue.finished = [] =>
      show w.manager.queue.withoutTests.finished = [] by simp [Queue.withoutTests, hf]
    exact .keep (by simp) rfl (.same _) (.stop duty₀ ended₀) ⟨⟨t, f, rfl⟩, rfl, hw, rfl⟩
  | take duty found =>
    rw [duty]
    exact follows_take duty found hk
  | @settle left j duty =>
    have fit : j.Fit := ho.jobs j (by simp [Floor.jobs, Floor.past, floor, duty])
    refine ⟨k, ?_, fun w₀ h => follows_settle h duty fit⟩
    cases j <;> simpa [duty, Duty.left, Duty.after] using hk
  | @advance left i duty =>
    refine ⟨k, by simpa [duty, Duty.left] using hk, fun w₀ h => follows_advance h duty fun t ht => ?_⟩
    exact Task.not_isTest_of_isSerial (ho.chains i t ht).1
  | pop split hand =>
    refine ⟨k, hk, fun w₀ h => follows_pop h split hand fun j hj => ⟨ho.pending_parallel j hj, ?_⟩⟩
    obtain ⟨t, rfl, ht⟩ := ho.pending j hj
    exact ht
  | run split hand result => exact ⟨k, hk, fun w₀ h => follows_run h split hand result⟩
  | put split hand => exact ⟨k, hk, fun w₀ h => follows_put h split hand⟩

end Workshop

end ItemPipeline
