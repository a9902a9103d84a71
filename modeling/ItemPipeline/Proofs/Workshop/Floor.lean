import ItemPipeline.Proofs.Task
import ItemPipeline.Proofs.Workshop.Basic
import Mathlib.Data.List.Perm.Basic

/-!
Where the jobs are. The floor of a workshop is its lanes, its workers and the manager's duty, and a
step moves jobs about on it in few ways, whatever call it belongs to.
-/

namespace ItemPipeline

structure Floor where
  queue : Queue
  workers : List Worker
  duty : Duty

def Workshop.floor (w : Workshop) : Floor :=
  ⟨w.manager.queue, w.workers, w.duty⟩

/-- How a task that was made gets into the queue: behind its sequence, at the head of a new one, ahead
of the pending tasks, or behind them. -/
inductive Queue.Sends (q : Queue) : Event → Queue → Prop
  | join {e : Event} {t : Task} {l : List Task} (made : e.made? = some t) (serial : t.isSerial = true)
      (chain : q.sequences.get? t.item = some l) :
      Sends q e { q with sequences := q.sequences.insert t.item (l ++ [t]) }
  | start {e : Event} {t : Task} (made : e.made? = some t) (serial : t.isSerial = true)
      (chain : q.sequences.get? t.item = none) :
      Sends q e
        { q with
          sequences := q.sequences.insert t.item []
          immediate := q.immediate ++ [.sequence t.item t] }
  | ahead {e : Event} {t : Task} (made : e.made? = some t) (parallel : t.isSerial = false)
      (origin : e.fed? = none) : Sends q e (q.pushImmediate (.single t))
  | behind {x : Item} {t : Task} (parallel : t.isSerial = false) (kind : t.isTest = false) :
      Sends q (.fed x t) (q.pushPending (.single t))

namespace Event

def Proper : Event → Prop
  | fed _ t => t.isTest = false
  | tried t => t.isTest = true
  | bred _ t => t.isTest = false
  | ran t d => ∃ b, d = (t.run b).1
  | settled t o => o = [t.answer]

lemma not_ran_of_made {e : Event} {t : Task} (h : e.made? = some t) :
    e.ran? = none ∧ e.settled? = none := by
  cases e <;> simp_all [made?, ran?, settled?]

lemma filterMap_made_bred (l : List (Item × Task)) :
    (l.map fun b => bred b.1 b.2).filterMap made? = l.map Prod.snd := by
  simp [List.filterMap_map, Function.comp_def, made?]

end Event

lemma Queue.Sends.made {q q' : Queue} {e : Event} (h : q.Sends e q') : ∃ t, e.made? = some t := by
  cases h with
  | join made serial chain => exact ⟨_, made⟩
  | start made serial chain => exact ⟨_, made⟩
  | ahead made parallel origin => exact ⟨_, made⟩
  | behind parallel kind => exact ⟨_, rfl⟩

lemma Queue.Sends.finished_eq {q q' : Queue} {e : Event} (h : q.Sends e q') : q'.finished = q.finished := by
  cases h <;> rfl

namespace Floor

def toRun (f : Floor) : List Job :=
  f.workers.flatMap fun v => v.hand.toRun

def toPut (f : Floor) : List Job :=
  f.workers.flatMap fun v => v.hand.toPut

def upcoming (f : Floor) : List Job :=
  f.toRun ++ f.queue.immediate ++ f.queue.pending

def past (f : Floor) : List Job :=
  f.duty.jobs ++ f.queue.finished ++ f.toPut

def chain (f : Floor) (i : UInt64) : List Task :=
  (f.queue.sequences.get? i).getD []

lemma chain_of_insert {f f' : Floor} {k : UInt64} {l : List Task}
    (h : f'.queue.sequences = f.queue.sequences.insert k l) (i : UInt64) :
    f'.chain i = if k = i then l else f.chain i := by
  simp only [chain, h, Table.get?_insert]
  split <;> rfl

lemma chain_of_erase {f f' : Floor} {k : UInt64} (h : f'.queue.sequences = f.queue.sequences.erase k)
    (i : UInt64) : f'.chain i = if k = i then [] else f.chain i := by
  simp only [chain, h, Table.get?_erase]
  split <;> rfl

inductive Shift : Floor → List Event → Floor → Prop
  | rest {f : Floor} {d : Duty} (before : f.duty.jobs = [] ∧ f.duty.sequences = [])
      (after : d.jobs = [] ∧ d.sequences = []) : Shift f [] { f with duty := d }
  | send {f : Floor} {e : Event} {q : Queue} (sends : f.queue.Sends e q) :
      Shift f [e] { f with queue := q }
  | take {f : Floor} {left : Nat} {j : Job} {r : List Job}
      (before : f.duty.jobs = [] ∧ f.duty.sequences = []) (found : f.queue.finished = j :: r) :
      Shift f [] { f with queue := { f.queue with finished := r }, duty := .settling left j }
  | settle {f : Floor} {left : Nat} {j : Job} (duty : f.duty = .settling left j) :
      Shift f [.settled j.task [j.task.answer]] { f with duty := .after left j }
  | forward {f : Floor} {left : Nat} {i : UInt64} {t : Task} {r : List Task}
      (duty : f.duty = .advancing left i) (next : f.queue.sequences.get? i = some (t :: r)) :
      Shift f []
        { f with
          queue :=
            { f.queue with
              sequences := f.queue.sequences.insert i r
              immediate := f.queue.immediate ++ [.sequence i t] }
          duty := .draining left }
  | close {f : Floor} {left : Nat} {i : UInt64} (duty : f.duty = .advancing left i)
      (ended : f.chain i = []) :
      Shift f [] { f with queue := f.queue.removeSequence i, duty := .draining left }
  | pop {f : Floor} {l r : List Worker} {v : Worker} (split : f.workers = l ++ v :: r)
      (hand : v.hand = .free) :
      Shift f []
        { f with
          queue := f.queue.pop.2
          workers := l ++ { v with hand := .ofPop f.queue.pop.1 } :: r }
  | run {f : Floor} {l r : List Worker} {v : Worker} {j : Job} {b : Bench}
      (split : f.workers = l ++ v :: r) (hand : v.hand = .ready j) :
      Shift f [.ran j.task (j.run b).1.task]
        { f with workers := l ++ ⟨(j.run b).2.context, .done (j.run b).1⟩ :: r }
  | put {f : Floor} {l r : List Worker} {v : Worker} {j : Job} (split : f.workers = l ++ v :: r)
      (hand : v.hand = .done j) :
      Shift f []
        { f with
          queue := f.queue.pushFinished j
          workers := l ++ { v with hand := .free } :: r }

inductive Shifts : Floor → List Event → Floor → Prop
  | nil {f : Floor} : Shifts f [] f
  | cons {f f' f'' : Floor} {e e' : List Event} : Shift f e f' → Shifts f' e' f'' → Shifts f (e ++ e') f''

lemma Shift.shifts {f f' : Floor} {e : List Event} (h : Shift f e f') : Shifts f e f' := by
  simpa using Shifts.cons h .nil

end Floor

namespace Queue

variable (q : Queue) {e : Event} {t : Task}

lemma push_of_isSerial (h : t.isSerial = true) : q.push (.single t) = q.pushSerial t := by
  cases t <;> simp_all [push, Task.isSerial]

lemma push_of_isTest (h : t.isTest = true) : q.push (.single t) = q.pushImmediate (.single t) := by
  cases t <;> simp_all [push, Task.isTest]

lemma push_of_parallel (h : t.isSerial = false) (ht : t.isTest = false) :
    q.push (.single t) = q.pushPending (.single t) := by
  cases t <;> simp_all [push, Task.isTest]

lemma pushSerial_sends (made : e.made? = some t) (h : t.isSerial = true) : q.Sends e (q.pushSerial t) := by
  unfold pushSerial
  cases hc : q.sequences.get? t.item with
  | some l => exact .join made h hc
  | none => exact .start made h hc

lemma push_sends_fed (x : Item) (ht : t.isTest = false) : q.Sends (.fed x t) (q.push (.single t)) := by
  cases h : t.isSerial with
  | true => exact q.push_of_isSerial h ▸ q.pushSerial_sends rfl h
  | false => exact q.push_of_parallel h ht ▸ .behind h ht

lemma push_sends_tried (ht : t.isTest = true) : q.Sends (.tried t) (q.push (.single t)) := by
  have h : t.isSerial = false := by
    cases t <;> simp_all [Task.isSerial, Task.isTest]
  exact q.push_of_isTest ht ▸ .ahead rfl h rfl

lemma pushFed_sends (x : Item) (t : Task) : q.Sends (.bred x t) (Manager.pushFed q t) := by
  unfold Manager.pushFed
  split
  · rename_i h
    exact q.push_of_isSerial h ▸ q.pushSerial_sends rfl h
  · rename_i h
    exact .ahead rfl (by simpa using h) rfl

end Queue

namespace Manager

lemma start_eq {c : ManagerConfig} {m : Manager} (h : start c = .ok m) :
    m = { batchSize := c.batchSize.toNat, queue := { workers := c.workers.toNat } } := by
  unfold start at h
  split at h
  · cases h
  · simpa using h.symm

variable (m : Manager)

lemma settleTask_eq (t : Task) :
    m.settleTask t =
      ([t.answer],
        { m with
          queue := (m.bred t).foldl (fun q b => pushFed q b.2) m.queue
          flushed := if t.isTest then m.flushed else m.flushed + 1
          inFlight := m.inFlight - 1 + (m.bred t).length }) := by
  cases t with
  | test t => rfl
  | value t => rfl
  | serialValue t => rfl
  | dependent t =>
    obtain ⟨p, r, c⟩ := t
    cases c with
    | none => rfl
    | some c =>
      simp [settleTask, settleDependent, flush, bred, fanOut, fed, taskOf, List.foldl_map, Task.answer,
        Task.isTest]

lemma advance_of_waiting {i : UInt64} {t : Task} {r : List Task}
    (h : m.queue.sequences.get? i = some (t :: r)) :
    m.advance i =
      { m with
        queue :=
          { m.queue with
            sequences := m.queue.sequences.insert i r
            immediate := m.queue.immediate ++ [.sequence i t] } } := by
  simp [advance, Queue.nextInSequence, h, Queue.pushImmediate]

lemma advance_of_empty {i : UInt64} (h : (m.queue.sequences.get? i).getD [] = []) :
    m.advance i = { m with queue := m.queue.removeSequence i } := by
  cases hs : m.queue.sequences.get? i with
  | none => simp [advance, Queue.nextInSequence, hs]
  | some l =>
    obtain rfl : l = [] := by simpa [hs] using h
    simp [advance, Queue.nextInSequence, hs]

end Manager

lemma Manager.bred_of_test {m : Manager} {t : Task} (h : t.valueTask? = none) : m.bred t = [] := by
  cases t <;> simp [Task.valueTask?] at h
  rfl

lemma Manager.bred_isTest (m : Manager) (t : Task) : ∀ b ∈ m.bred t, b.2.isTest = false := by
  intro b hb
  unfold bred at hb
  split at hb
  · obtain ⟨x, -, rfl⟩ := List.mem_map.1 hb
    exact m.taskOf_isTest _
  · simp at hb

lemma Queue.pop_cases {q : Queue} (h : ∀ j ∈ q.pending, j.isSerial = false) :
    (∃ j r, q.immediate = j :: r ∧ q.pop = (some j, { q with immediate := r })) ∨
      (∃ j r, q.immediate = [] ∧ q.pending = j :: r ∧ q.pop = (some j, { q with pending := r })) ∨
      q.pop = (none, q) := by
  obtain ⟨pending, immediate, finished, sequences, workers⟩ := q
  cases immediate with
  | cons j r => exact .inl ⟨j, r, rfl, rfl⟩
  | nil =>
    cases pending with
    | nil => exact .inr (.inr rfl)
    | cons j r =>
      refine .inr (.inl ⟨j, r, rfl, rfl, ?_⟩)
      have hj : j.isSerial = false := h j (by simp)
      cases j with
      | single t =>
        have ht : t.isSerial = false := hj
        simp [pop, popPending, ht]
      | sequence i t => simp [pop, popPending]

lemma Queue.popFinished_eq_some {q r : Queue} {j : Job} (h : q.popFinished = (some j, r)) :
    ∃ l, q.finished = j :: l ∧ r = { q with finished := l } := by
  unfold popFinished at h
  split at h
  · rename_i k l hf
    simp only [Prod.mk.injEq, Option.some.injEq] at h
    obtain ⟨rfl, rfl⟩ := h
    exact ⟨l, hf, rfl⟩
  · simp at h

lemma Queue.pop_sequences {q : Queue} (h : ∀ j ∈ q.pending, j.isSerial = false) :
    q.pop.2.sequences = q.sequences := by
  rcases q.pop_cases h with ⟨j, r, -, hp⟩ | ⟨j, r, -, -, hp⟩ | hp <;> rw [hp]

lemma Queue.pop_pending {q : Queue} (h : ∀ j ∈ q.pending, j.isSerial = false) :
    q.pop.2.pending ⊆ q.pending := by
  rcases q.pop_cases h with ⟨j, r, -, hp⟩ | ⟨j, r, -, hq, hp⟩ | hp
  · simp [hp]
  · simp [hp, hq]
  · simp [hp]

namespace Floor

lemma shifts_bred (f : Floor) (l : List (Item × Task)) :
    Shifts f (l.map fun b => .bred b.1 b.2)
      { f with queue := l.foldl (fun q b => Manager.pushFed q b.2) f.queue } := by
  induction l generalizing f with
  | nil => exact .nil
  | cons b l ih => exact .cons (.send (f.queue.pushFed_sends b.1 b.2)) (ih _)

section Moves

variable {q : Queue} {d : Duty} {l r : List Worker} {v : Worker} {j k : Job} {c : Context}

lemma pop_upcoming (h : ∀ j ∈ q.pending, j.isSerial = false) (hand : v.hand = .free) :
    (upcoming ⟨q.pop.2, l ++ { v with hand := .ofPop q.pop.1 } :: r, d⟩).Perm
      (upcoming ⟨q, l ++ v :: r, d⟩) := by
  rcases q.pop_cases h with ⟨j, t, hi, hp⟩ | ⟨j, t, hi, hq, hp⟩ | hp
  · simpa [upcoming, toRun, hp, hi, hand] using List.perm_middle.symm.append_left _
  · simpa [upcoming, toRun, hp, hi, hq, hand] using List.perm_middle.symm.append_left _
  · simp [upcoming, toRun, hp, hand]

lemma pop_past (h : ∀ j ∈ q.pending, j.isSerial = false) (hand : v.hand = .free) :
    past ⟨q.pop.2, l ++ { v with hand := .ofPop q.pop.1 } :: r, d⟩ = past ⟨q, l ++ v :: r, d⟩ := by
  rcases q.pop_cases h with ⟨j, t, hi, hp⟩ | ⟨j, t, hi, hq, hp⟩ | hp <;>
    simp [past, toPut, hp, hand]

lemma run_upcoming (hand : v.hand = .ready j) :
    (upcoming ⟨q, l ++ v :: r, d⟩).Perm (j :: upcoming ⟨q, l ++ ⟨c, .done k⟩ :: r, d⟩) := by
  simp [upcoming, toRun, hand]

lemma run_past (hand : v.hand = .ready j) :
    (past ⟨q, l ++ ⟨c, .done k⟩ :: r, d⟩).Perm (k :: past ⟨q, l ++ v :: r, d⟩) := by
  simp only [past, toPut, hand, List.flatMap_append, List.flatMap_cons, Hand.toPut_done, Hand.toPut_ready,
    List.nil_append, List.cons_append, ← List.append_assoc]
  exact List.perm_middle

lemma put_upcoming (hand : v.hand = .done j) :
    upcoming ⟨q.pushFinished j, l ++ { v with hand := .free } :: r, d⟩ = upcoming ⟨q, l ++ v :: r, d⟩ := by
  simp [upcoming, toRun, hand, Queue.pushFinished]

lemma put_past (hand : v.hand = .done j) :
    (past ⟨q.pushFinished j, l ++ { v with hand := .free } :: r, d⟩).Perm (past ⟨q, l ++ v :: r, d⟩) := by
  simpa [past, toPut, hand, Queue.pushFinished] using (List.perm_middle.symm.append_left _).append_left _

lemma take_past {left : Nat} {t : List Job} {ws : List Worker} (before : d.jobs = [])
    (found : q.finished = j :: t) :
    past ⟨{ q with finished := t }, ws, .settling left j⟩ = past ⟨q, ws, d⟩ := by
  simp [past, toPut, before, found]

lemma settle_past {left : Nat} {ws : List Worker} :
    past ⟨q, ws, .settling left j⟩ = j :: past ⟨q, ws, .after left j⟩ := by
  simp [past, toPut]

end Moves

end Floor

namespace Workshop

open Floor

variable {w w' : Workshop} {a : Act} {es : List Event}

lemma shift_rest (idle : w.duty = .idle) : Shifts w.floor [] w.floor := by
  have h : w.floor.duty.jobs = [] ∧ w.floor.duty.sequences = [] := by
    simp [floor, idle]
  exact (Shift.rest h h).shifts

@[simp] lemma opening_toRun (m : Manager) (n : Nat) : (opening m n).floor.toRun = [] := by
  simp [toRun, floor, opening]

@[simp] lemma opening_toPut (m : Manager) (n : Nat) : (opening m n).floor.toPut = [] := by
  simp [toPut, floor, opening]

theorem Turn.shifts (h : Turn w a es w') : Shifts w.floor es w'.floor := by
  cases h with
  | add i host r idle => exact shift_rest idle
  | restore x idle known => exact shift_rest idle
  | update i r idle =>
    have hq : (w.manager.updateItem i r).2.queue = w.manager.queue := by
      unfold Manager.updateItem
      split <;> rfl
    simpa [floor, hq] using shift_rest idle
  | remove i idle => exact shift_rest idle
  | feed i v t o idle =>
    cases hx : w.manager.items.get? i with
    | none => simpa [Manager.enqueue, hx] using shift_rest idle
    | some x =>
      simp only [Manager.enqueue, hx, Option.toList_some, List.map_cons, List.map_nil]
      exact (Shift.send (w.manager.queue.push_sends_fed x (w.manager.taskOf_isTest _))).shifts
  | tryItem i v now idle =>
    cases hx : w.manager.items.get? i with
    | none => simpa [Manager.test, hx] using shift_rest idle
    | some x =>
      simp only [Manager.test, hx, Option.toList_some, List.map_cons, List.map_nil]
      exact (Shift.send (w.manager.queue.push_sends_tried rfl)).shifts
  | trySteps s t v now hist idle => exact (Shift.send (w.manager.queue.push_sends_tried rfl)).shifts
  | drain limit idle =>
    exact (Shift.rest (by simp [floor, idle]) ⟨rfl, rfl⟩).shifts
  | stop duty ended =>
    exact (Shift.rest (by simp [floor, duty]) ⟨rfl, rfl⟩).shifts
  | @take left j q duty found =>
    obtain ⟨r, hf, rfl⟩ := Queue.popFinished_eq_some found
    exact (Shift.take (by simp [floor, duty]) hf).shifts
  | @settle left j duty =>
    rw [w.manager.settleTask_eq]
    exact Shifts.cons (.settle duty) (shifts_bred ⟨w.manager.queue, w.workers, .after left j⟩ _)
  | @advance left i duty =>
    cases hc : w.floor.chain i with
    | nil =>
      rw [w.manager.advance_of_empty hc]
      exact (Shift.close duty hc).shifts
    | cons t r =>
      have hs : w.manager.queue.sequences.get? i = some (t :: r) := by
        cases hg : w.manager.queue.sequences.get? i <;> simp_all [chain, floor]
      rw [w.manager.advance_of_waiting hs]
      exact (Shift.forward duty hs).shifts
  | pop split hand => exact (Shift.pop split hand).shifts
  | @run l r v j done b split hand result =>
    have hd : done = (j.run ⟨v.context, w.manager.histories⟩).1 := by rw [result]
    have hb : b = (j.run ⟨v.context, w.manager.histories⟩).2 := by rw [result]
    subst hd hb
    exact (Shift.run split hand).shifts
  | put split hand => exact (Shift.put split hand).shifts

theorem Course.floor_induction {P : List Event → Floor → Prop} {start w : Workshop} {as : List Act}
    {es : List Event} (h : Course start as es w) (first : P [] start.floor)
    (shift : ∀ {es f e f'}, P es f → Shift f e f' → P (es ++ e) f') : P es w.floor := by
  have shifts : ∀ {f e f'}, Shifts f e f' → ∀ {es}, P es f → P (es ++ e) f' := by
    intro f e f' h
    induction h with
    | nil => intro es hp; simpa using hp
    | cons hs _ ih => intro es hp; simpa using ih (shift hp hs)
  induction h with
  | nil => exact first
  | snoc _ hw ih => exact shifts hw.shifts ih

lemma Turn.proper (h : Turn w a es w') : ∀ e ∈ es, e.Proper := by
  cases h with
  | feed i v t o idle =>
    simp only [List.mem_map, Option.mem_toList, forall_exists_index, and_imp]
    rintro e x - rfl
    exact w.manager.taskOf_isTest _
  | tryItem i v now idle =>
    simp only [List.mem_map, Option.mem_toList, forall_exists_index, and_imp]
    rintro e x - rfl
    rfl
  | trySteps s t v now hist idle => simp [Event.Proper, Manager.trial, Task.isTest]
  | @settle left j duty =>
    rw [w.manager.settleTask_eq, List.forall_mem_cons]
    refine ⟨rfl, fun e he => ?_⟩
    obtain ⟨b, hb, rfl⟩ := List.mem_map.1 he
    exact w.manager.bred_isTest _ b hb
  | @run l r v j done b split hand result =>
    simp only [List.mem_singleton, forall_eq]
    exact ⟨⟨v.context, w.manager.histories⟩, by rw [← j.run_task, result]⟩
  | _ => simp

lemma Course.proper {start : Workshop} {as : List Act} (h : Course start as es w) : ∀ e ∈ es, e.Proper := by
  induction h with
  | nil => simp
  | snoc _ ht ih => exact List.forall_mem_append.2 ⟨ih, ht.proper⟩

lemma Course.of_ran {start : Workshop} {as : List Act} (h : Course start as es w) {p : Task × Task}
    (hp : p ∈ es.filterMap Event.ran?) : ∃ b, p.2 = (p.1.run b).1 := by
  obtain ⟨e, he, hr⟩ := List.mem_filterMap.1 hp
  have hd := h.proper e he
  cases e <;> simp only [Event.ran?, Option.some.injEq, reduceCtorEq] at hr
  subst hr
  exact hd

end Workshop

end ItemPipeline
