import ItemPipeline.Proofs.Workshop.Editions
import ItemPipeline.Proofs.Workshop.Sequences
import Mathlib.Algebra.Order.Group.Multiset
import Mathlib.Tactic.Abel

/-!
The books of a workshop. Every task that was made is waiting or has been run, and every task that has
been run is waiting to be handled or has been; nothing is lost on the way and nothing comes twice, so
the manager's counters are exact.
-/

namespace ItemPipeline

namespace Floor

/-- Tasks not run yet: in the lanes and in the workers' hands, alone or at the head of a sequence, and
behind the heads of sequences. -/
def waiting (f : Floor) : Multiset Task :=
  (f.upcoming.map Job.task : Multiset Task) + (f.queue.sequences.values.flatten : Multiset Task)

/-- Tasks run and not handled yet: in the workers' hands, in the finished lane and in the manager's
hand. -/
def unsettled (f : Floor) : Multiset Task :=
  (f.past.map Job.task : Multiset Task)

variable {q q' : Queue} {ws : List Worker} {d : Duty} {f f' : Floor} {e : List Event}

lemma send_keys {e : Event} (h : q.sequences.keys.Nodup) (hs : q.Sends e q') :
    q'.sequences.keys.Nodup := by
  cases hs with
  | join made serial chain => exact Table.nodup_insert h _ _
  | start made serial chain => exact Table.nodup_insert h _ _
  | ahead made parallel origin => exact h
  | behind parallel kind => exact h

lemma chained_eq (h : q.sequences.keys.Nodup) (i : UInt64) :
    (q.sequences.values.flatten : Multiset Task) =
      ((q.sequences.get? i).getD [] : Multiset Task) +
        ((q.sequences.erase i).values.flatten : Multiset Task) := by
  rw [Multiset.coe_add]
  exact Multiset.coe_eq_coe.2 (Table.flatten_perm h i)

lemma chained_insert (h : q.sequences.keys.Nodup) (i : UInt64) (l : List Task) :
    ((q.sequences.insert i l).values.flatten : Multiset Task) =
      (l : Multiset Task) + ((q.sequences.erase i).values.flatten : Multiset Task) := by
  rw [Multiset.coe_add]
  exact Multiset.coe_eq_coe.2 (Table.insert_flatten_perm h i l)

lemma send_waiting {e : Event} (h : q.sequences.keys.Nodup) (hs : q.Sends e q') :
    waiting ⟨q', ws, d⟩ = waiting ⟨q, ws, d⟩ + (e.made?.toList : Multiset Task) := by
  cases hs with
  | @join _ t l made serial chain =>
    simp only [waiting, upcoming, toRun, chained_insert h, chained_eq h t.item, chain, made,
      Option.getD_some, Option.toList_some, ← Multiset.coe_add]
    abel
  | @start _ t made serial chain =>
    simp only [waiting, upcoming, toRun, chained_insert h, chained_eq h t.item, chain, made,
      Option.getD_none, Option.toList_some, List.map_append, List.map_cons, List.map_nil, Job.task,
      ← Multiset.coe_add]
    abel
  | @ahead _ t made parallel origin =>
    simp only [waiting, upcoming, toRun, made, Queue.pushImmediate, Option.toList_some,
      List.map_append, List.map_cons, List.map_nil, Job.task, ← Multiset.coe_add]
    abel
  | @behind x t parallel kind =>
    simp only [waiting, upcoming, toRun, Queue.pushPending, Event.made?, Option.toList_some,
      List.map_append, List.map_cons, List.map_nil, Job.task, ← Multiset.coe_add]
    abel

lemma send_unsettled {e : Event} (hs : q.Sends e q') : unsettled ⟨q', ws, d⟩ = unsettled ⟨q, ws, d⟩ := by
  cases hs <;> rfl

lemma shift_keys (h : f.queue.sequences.keys.Nodup) (ho : f.Orderly) (hs : f.Shift e f') :
    f'.queue.sequences.keys.Nodup := by
  cases hs with
  | rest before after => exact h
  | send sends => exact send_keys h sends
  | take before found => exact h
  | settle duty => exact h
  | forward duty next => exact Table.nodup_insert h _ _
  | close duty ended => exact Table.nodup_erase h _
  | pop split hand => exact (Queue.pop_sequences ho.pending_parallel).symm ▸ h
  | run split hand => exact h
  | put split hand => exact h

lemma shift_waiting (h : f.queue.sequences.keys.Nodup) (ho : f.Orderly) (hs : f.Shift e f') :
    f'.waiting + ((e.filterMap Event.ran?).map Prod.fst : Multiset Task) =
      f.waiting + (e.filterMap Event.made? : Multiset Task) := by
  obtain ⟨q, ws, d⟩ := f
  cases hs with
  | rest before after => rfl
  | send sends =>
    obtain ⟨t, made⟩ := sends.made
    simp [send_waiting h sends, made, Event.not_ran_of_made made]
  | take before found => rfl
  | settle duty => rfl
  | @forward left i t r duty next =>
    simp only [waiting, upcoming, toRun, chained_insert h, chained_eq h i, next, Option.getD_some,
      List.map_append, List.map_cons, List.map_nil, Job.task, List.filterMap_nil, ← Multiset.coe_add,
      ← Multiset.cons_coe, ← Multiset.singleton_add, Multiset.coe_nil]
    abel
  | @close left i duty ended =>
    have hc : (q.sequences.get? i).getD [] = [] := ended
    simp only [waiting, upcoming, toRun, Queue.removeSequence, chained_eq h i, hc]
    simp
  | @pop l r v split hand =>
    obtain rfl := split
    have hp := Multiset.coe_eq_coe.2
      ((pop_upcoming (d := d) (l := l) (r := r) ho.pending_parallel hand).map Job.task)
    simp only [waiting, hp, Queue.pop_sequences ho.pending_parallel]
    rfl
  | @run l r v j b split hand =>
    obtain rfl := split
    have hp := Multiset.coe_eq_coe.2 ((run_upcoming (q := q) (l := l) (r := r) (d := d)
      (c := (j.run b).2.context) (k := (j.run b).1) hand).map Job.task)
    simp only [waiting, hp, List.map_cons, List.map_nil, List.filterMap_cons, List.filterMap_nil,
      Event.ran?, Event.made?, ← Multiset.cons_coe, ← Multiset.singleton_add, Multiset.coe_nil]
    abel
  | put split hand =>
    obtain rfl := split
    simp only [waiting, put_upcoming hand]
    rfl

lemma shift_unsettled (ho : f.Orderly) (hs : f.Shift e f') :
    f'.unsettled + (e.filterMap Event.settled? : Multiset Task) =
      f.unsettled + ((e.filterMap Event.ran?).map Prod.snd : Multiset Task) := by
  obtain ⟨q, ws, d⟩ := f
  cases hs with
  | rest before after => simp [unsettled, past, toPut, before.1, after.1]
  | send sends =>
    obtain ⟨t, made⟩ := sends.made
    simp [send_unsettled sends, Event.not_ran_of_made made]
  | take before found => simp [unsettled, take_past before.1 found]
  | settle duty =>
    obtain rfl := duty
    simp only [unsettled, settle_past, List.map_cons, List.map_nil, List.filterMap_cons,
      List.filterMap_nil, Event.settled?, Event.ran?, ← Multiset.cons_coe, ← Multiset.singleton_add,
      Multiset.coe_nil]
    abel
  | forward duty next =>
    obtain rfl := duty
    simp [unsettled, past, toPut]
  | close duty ended =>
    obtain rfl := duty
    simp [unsettled, past, toPut, Queue.removeSequence]
  | pop split hand =>
    obtain rfl := split
    simp [unsettled, pop_past ho.pending_parallel hand]
  | @run l r v j b split hand =>
    obtain rfl := split
    have hp := Multiset.coe_eq_coe.2 ((run_past (q := q) (l := l) (r := r) (d := d)
      (c := (j.run b).2.context) (k := (j.run b).1) hand).map Job.task)
    simp only [unsettled, hp, List.map_cons, List.map_nil, List.filterMap_cons, List.filterMap_nil,
      Event.ran?, Event.settled?, j.run_task, ← Multiset.cons_coe, ← Multiset.singleton_add,
      Multiset.coe_nil]
    abel
  | @put l r v j split hand =>
    obtain rfl := split
    have hp := Multiset.coe_eq_coe.2
      ((put_past (q := q) (d := d) (l := l) (r := r) hand).map Job.task)
    simp [unsettled, hp]

structure Balanced (es : List Event) (f : Floor) : Prop where
  keys : f.queue.sequences.keys.Nodup
  made : (es.filterMap Event.made? : Multiset Task) =
    ((es.filterMap Event.ran?).map Prod.fst : Multiset Task) + f.waiting
  ran : ((es.filterMap Event.ran?).map Prod.snd : Multiset Task) =
    (es.filterMap Event.settled? : Multiset Task) + f.unsettled

lemma Balanced.shift {es : List Event} (h : f.Balanced es) (ho : f.Orderly) (hs : f.Shift e f') :
    f'.Balanced (es ++ e) where
  keys := shift_keys h.keys ho hs
  made := by
    simp only [List.filterMap_append, List.map_append, ← Multiset.coe_add, h.made, add_assoc,
      ← shift_waiting h.keys ho hs]
    abel
  ran := by
    simp only [List.filterMap_append, List.map_append, ← Multiset.coe_add, h.ran, add_assoc,
      ← shift_unsettled ho hs]
    abel

end Floor

namespace Event

lemma outputs_eq {es : List Event} (h : ∀ e ∈ es, e.Proper) :
    es.flatMap outputs = (es.filterMap settled?).map Task.answer := by
  induction es with
  | nil => rfl
  | cons e es ih =>
    have he := h e List.mem_cons_self
    have := ih fun e he => h e (List.mem_cons_of_mem _ he)
    cases e <;> simp_all [outputs, settled?, Proper, List.filterMap_cons]

lemma length_stamps {es : List Event} (h : ∀ e ∈ es, e.Proper) :
    ((es.filterMap made?).filterMap Task.stamp?).length =
      (es.filterMap fed?).length + (es.filterMap bred?).length := by
  induction es with
  | nil => rfl
  | cons e es ih =>
    have he := h e List.mem_cons_self
    have hs := ih fun e he => h e (List.mem_cons_of_mem _ he)
    cases e with
    | fed x t =>
      obtain ⟨s, hx⟩ := Task.stamp?_eq_some he
      simp only [List.filterMap_cons, made?, fed?, bred?, hx, List.length_cons, hs]
      omega
    | bred x t =>
      obtain ⟨s, hx⟩ := Task.stamp?_eq_some he
      simp only [List.filterMap_cons, made?, fed?, bred?, hx, List.length_cons, hs]
      omega
    | tried t => simpa [List.filterMap_cons, made?, fed?, bred?, Task.stamp?_eq_none he] using hs
    | ran t d => simpa [List.filterMap_cons, made?, fed?, bred?] using hs
    | settled t o => simpa [List.filterMap_cons, made?, fed?, bred?] using hs

end Event

namespace Workshop

variable {c : ManagerConfig} {m : Manager} {n : Nat} {as : List Act} {es : List Event} {w : Workshop}

lemma opening_balanced (hm : Manager.start c = .ok m) : (opening m n).floor.Balanced [] where
  keys := by simp [opening_sequences hm, Table.keys]
  made := by simp [Floor.waiting, opening_upcoming hm, opening_sequences hm, Table.values]
  ran := by simp [Floor.unsettled, opening_past hm]

lemma Course.balanced (hm : Manager.start c = .ok m) (h : Course (opening m n) as es w) :
    w.floor.Balanced es :=
  (h.floor_induction (P := fun es f => f.Orderly ∧ f.Balanced es)
    ⟨opening_orderly hm, opening_balanced hm⟩
    fun hp hs => ⟨hp.1.shift hs, hp.2.shift hp.1 hs⟩).2

structure Counted (es : List Event) (w : Workshop) : Prop where
  inFlight : w.manager.inFlight + (es.filterMap Event.settled?).length = (es.filterMap Event.made?).length
  queued : w.manager.queued = (es.filterMap Event.fed?).length
  flushed : w.manager.flushed = (es.filterMap Event.settled?).countP fun t => !t.isTest
  tickets : (es.filterMap Event.made?).filterMap Task.ticket? = List.range w.manager.tickets

lemma Counted.inFlight_eq (h : w.Counted es) (hb : w.floor.Balanced es) :
    w.manager.inFlight = (w.floor.waiting + w.floor.unsettled).card := by
  have hm := congrArg Multiset.card hb.made
  have hr := congrArg Multiset.card hb.ran
  have hi := h.inFlight
  simp only [Multiset.card_add, Multiset.coe_card, List.length_map] at hm hr ⊢
  omega

lemma Counted.rest (h : w.Counted es) (hb : w.floor.Balanced es) (quiet : w.manager.inFlight = 0) :
    w.floor.upcoming = [] ∧ w.floor.past = [] ∧ ∀ i, w.floor.chain i = [] := by
  rw [h.inFlight_eq hb] at quiet
  simp only [Floor.waiting, Floor.unsettled, Multiset.card_add, Multiset.coe_card, List.length_map] at quiet
  have hc : w.floor.queue.sequences.values.flatten = [] := List.length_eq_zero_iff.1 (by omega)
  refine ⟨List.length_eq_zero_iff.1 (by omega), List.length_eq_zero_iff.1 (by omega), fun i => ?_⟩
  have hp := Table.flatten_perm hb.keys i
  rw [hc] at hp
  exact (List.append_eq_nil_iff.1 hp.nil_eq.symm).1

lemma Counted.inFlight_pos (h : w.Counted es) (hb : w.floor.Balanced es) {left : Nat} {j : Job}
    (duty : w.duty = .settling left j) : 0 < w.manager.inFlight := by
  rw [h.inFlight_eq hb, Multiset.card_pos_iff_exists_mem]
  exact ⟨j.task, Multiset.mem_add.2 (.inr (by simp [Floor.unsettled, Floor.past, floor, duty]))⟩

lemma Turn.counters {w' : Workshop} {a : Act} (h : Turn w a es w')
    (positive : ∀ left j, w.duty = .settling left j → 0 < w.manager.inFlight) :
    w'.manager.inFlight + (es.filterMap Event.settled?).length =
        w.manager.inFlight + (es.filterMap Event.made?).length ∧
      w'.manager.queued = w.manager.queued + (es.filterMap Event.fed?).length ∧
      w'.manager.flushed = w.manager.flushed + (es.filterMap Event.settled?).countP (fun t => !t.isTest) ∧
      List.range w'.manager.tickets =
        List.range w.manager.tickets ++ (es.filterMap Event.made?).filterMap Task.ticket? := by
  cases h with
  | update i r idle =>
    unfold Manager.updateItem
    split <;> simp
  | feed i v t o idle =>
    cases hx : w.manager.items.get? i with
    | none => simp [Manager.enqueue, hx]
    | some x =>
      have ht := Task.ticket?_of_not_isTest (w.manager.taskOf_isTest (.ofItem x v t o))
      simp [Manager.enqueue, Manager.submit, hx, Event.settled?, Event.made?, Event.fed?, ht]
  | tryItem i v now idle =>
    cases hx : w.manager.items.get? i with
    | none => simp [Manager.test, hx]
    | some x =>
      simp [Manager.test, Manager.pushTest, Manager.submit, hx, Event.settled?, Event.made?, Event.fed?,
        Manager.trial, Task.ticket?, List.range_succ]
  | trySteps s t v now hist idle =>
    simp [Manager.testSteps, Manager.pushTest, Manager.submit, Event.settled?, Event.made?, Event.fed?,
      Manager.trial, Task.ticket?, List.range_succ]
  | @settle left j duty =>
    have ht : ∀ b ∈ w.manager.bred j.task, b.2.ticket? = none := fun b hb =>
      Task.ticket?_of_not_isTest (w.manager.bred_isTest _ b hb)
    have hp := positive left j duty
    have hs : ((w.manager.bred j.task).map fun b => Event.bred b.1 b.2).filterMap Event.settled? = [] := by
      simp [Event.settled?]
    have hf : ((w.manager.bred j.task).map fun b => Event.bred b.1 b.2).filterMap Event.fed? = [] := by
      simp [Event.fed?]
    have hk : ((w.manager.bred j.task).map Prod.snd).filterMap Task.ticket? = [] := by
      simpa [List.filterMap_map] using fun x t => ht (x, t)
    rw [w.manager.settleTask_eq]
    simp only [List.filterMap_cons, Event.settled?, Event.made?, Event.fed?, Event.filterMap_made_bred, hs,
      hf, hk]
    refine ⟨?_, rfl, ?_, by simp⟩
    · simp only [List.length_cons, List.length_nil, List.length_map]
      omega
    · cases hj : j.task.isTest <;> simp [hj]
  | @advance left i duty =>
    rw [w.manager.advance_eq]
    simp
  | run split hand result => simp [List.filterMap_cons, Event.settled?, Event.made?, Event.fed?]
  | _ => simp [Manager.addItem, Manager.register, Manager.removeItem]

lemma Counted.turn {w' : Workshop} {a : Act} {e : List Event} (h : w.Counted es)
    (hb : w.floor.Balanced es) (ht : Turn w a e w') : w'.Counted (es ++ e) := by
  obtain ⟨hi, hq, hf, hk⟩ := ht.counters fun _ _ => h.inFlight_pos hb
  have := h.inFlight
  refine ⟨?_, ?_, ?_, ?_⟩
  · simp only [List.filterMap_append, List.length_append]
    omega
  · simp [hq, h.queued]
  · simp [hf, h.flushed]
  · rw [hk, ← h.tickets, List.filterMap_append, List.filterMap_append]

lemma opening_counted (hm : Manager.start c = .ok m) : (opening m n).Counted [] := by
  obtain rfl := Manager.start_eq hm
  exact ⟨rfl, rfl, rfl, rfl⟩

lemma Course.counted (hm : Manager.start c = .ok m) (h : Course (opening m n) as es w) : w.Counted es := by
  induction h with
  | nil => exact opening_counted hm
  | snoc hc ht ih => exact ih.turn (hc.balanced hm) ht

lemma Course.kept {α : Type} (f : Task → Option α) (keeps : ∀ t b, f (t.run b).1 = f t)
    (hm : Manager.start c = .ok m) (h : Course (opening m n) as es w) :
    ((es.filterMap Event.settled?).filterMap f : Multiset α) +
        (w.floor.waiting + w.floor.unsettled).filterMap f =
      ((es.filterMap Event.made?).filterMap f : Multiset α) := by
  have hb := h.balanced hm
  have hp : ∀ p ∈ es.filterMap Event.ran?, f p.2 = f p.1 := by
    intro p hp
    obtain ⟨b, hb⟩ := h.of_ran hp
    rw [hb, keeps]
  have hr : ((es.filterMap Event.ran?).map Prod.snd).filterMap f =
      ((es.filterMap Event.ran?).map Prod.fst).filterMap f := by
    rw [List.filterMap_map, List.filterMap_map]
    exact List.filterMap_congr hp
  have hs := congrArg (Multiset.filterMap f) hb.ran
  have hw := congrArg (Multiset.filterMap f) hb.made
  simp only [Multiset.filterMap_add, Multiset.filterMap_coe, hr] at hs hw ⊢
  rw [hw, hs]
  abel

lemma card_stamps (s : Multiset Task) :
    (s.filterMap Task.stamp?).card = s.countP fun t => t.isTest = false := by
  induction s using Multiset.induction_on with
  | empty => rfl
  | cons t s ih =>
    cases ht : t.isTest with
    | false =>
      obtain ⟨x, hx⟩ := Task.stamp?_eq_some ht
      simp [Multiset.filterMap_cons_some _ _ _ hx, ih, ht]
    | true => simp [Multiset.filterMap_cons_none _ _ (Task.stamp?_eq_none ht), ih, ht]

lemma Counted.queued_eq (hm : Manager.start c = .ok m) (h : Course (opening m n) as es w) :
    w.manager.queued + (es.filterMap Event.bred?).length =
      w.manager.flushed + (w.floor.waiting + w.floor.unsettled).countP fun t => t.isTest = false := by
  have hc := h.counted hm
  have hk := congrArg Multiset.card (h.kept Task.stamp? Task.run_stamp? hm)
  have hf : w.manager.flushed = ((es.filterMap Event.settled?).filterMap Task.stamp?).length := by
    rw [hc.flushed, ← Multiset.coe_card, ← Multiset.filterMap_coe, card_stamps, Multiset.coe_countP]
    simp
  rw [Multiset.card_add, card_stamps, Multiset.coe_card, Multiset.coe_card,
    Event.length_stamps h.proper] at hk
  rw [hf, hc.queued]
  exact hk.symm

section Making

variable {w' : Workshop} {a : Act} {x : Item} {t : Task}

lemma Turn.fed_stamp (h : Turn w a es w') (hr : w.Registered) (hx : .fed x t ∈ es) :
    ∃ i v s o, a = .feed i v s o ∧ w.manager.items.get? i = some x ∧ x.id = i ∧
      t.stamp? = some (x.stamp s o) := by
  cases h with
  | feed i v s o idle =>
    simp only [List.mem_map, Option.mem_toList, Event.fed.injEq] at hx
    obtain ⟨y, hy, rfl, rfl⟩ := hx
    refine ⟨i, v, s, o, rfl, hy, (hr.items i y hy).1, ?_⟩
    simp only [Task.stamp?, Manager.taskOf_valueTask?]
    rfl
  | _ => simp at hx

lemma Turn.bred_stamp (h : Turn w a es w') (hr : w.Registered) (hx : .bred x t ∈ es) :
    ∃ left j p r k, w.duty = .settling left j ∧ j.task = .dependent ⟨p, r, some k⟩ ∧
      x.id ∈ p.rules.dependents ∧ w.manager.items.get? x.id = some x ∧
      t.stamp? = some (x.stamp p.time {}) := by
  cases h with
  | @settle left j duty =>
    simp only [List.mem_cons, reduceCtorEq, List.mem_map, Event.bred.injEq, false_or] at hx
    obtain ⟨b, hb, rfl, rfl⟩ := hx
    unfold Manager.bred at hb
    split at hb
    · rename_i p r k hj
      obtain ⟨y, hy, rfl⟩ := List.mem_map.1 hb
      obtain ⟨i, hi, hg⟩ := List.mem_filterMap.1 hy
      obtain rfl := (hr.items i y hg).1
      refine ⟨left, j, p, r, k, duty, hj, hi, hg, ?_⟩
      simp only [Task.stamp?, Manager.taskOf_valueTask?]
      rfl
    · simp at hb
  | _ => simp at hx

end Making

/-- Every task that was made has been run or is in one place of the floor, and every task that was run
has been handled or is in one place, as it was run. The tasks in these places are counted by what is in
flight, which is never taken below zero; the values accepted and passed on are those flushed and those
in these places. What leaves the pipeline is one answer for each task handled, in their order: for all
tasks made, the flushes have their stamps and the replies their tickets, once each. A stamp is made with
the task, from the item that is then in the table. -/
theorem tasks_conserved (hm : Manager.start c = .ok m) (h : Course (opening m n) as es w) :
    (es.filterMap Event.made? : Multiset Task) =
      ((es.filterMap Event.ran?).map Prod.fst : Multiset Task) + w.floor.waiting ∧
    ((es.filterMap Event.ran?).map Prod.snd : Multiset Task) =
      (es.filterMap Event.settled? : Multiset Task) + w.floor.unsettled ∧
    (∀ t d, .ran t d ∈ es → ∃ b, d = (t.run b).1) ∧
    w.manager.inFlight = (w.floor.waiting + w.floor.unsettled).card ∧
    (∀ left j, w.duty = .settling left j → 0 < w.manager.inFlight) ∧
    w.manager.queued + (es.filterMap Event.bred?).length =
      w.manager.flushed + (w.floor.waiting + w.floor.unsettled).countP (fun t => t.isTest = false) ∧
    es.flatMap Event.outputs = (es.filterMap Event.settled?).map Task.answer ∧
    w.manager.flushed = ((es.flatMap Event.outputs).filterMap Output.toFlushed).length ∧
    ((es.flatMap Event.outputs).filterMap Output.stamp? : Multiset Stamp) +
        (w.floor.waiting + w.floor.unsettled).filterMap Task.stamp? =
      ((es.filterMap Event.made?).filterMap Task.stamp? : Multiset Stamp) ∧
    ((es.flatMap Event.outputs).filterMap Output.ticket? : Multiset Nat) +
        (w.floor.waiting + w.floor.unsettled).filterMap Task.ticket? =
      (List.range w.manager.tickets : Multiset Nat) ∧
    ∀ a e w', Turn w a e w' →
      (∀ x t, .fed x t ∈ e → ∃ i v s o, a = .feed i v s o ∧ w.manager.items.get? i = some x ∧ x.id = i ∧
        t.stamp? = some (x.stamp s o)) ∧
      ∀ x t, .bred x t ∈ e → ∃ left j p r k, w.duty = .settling left j ∧
        j.task = .dependent ⟨p, r, some k⟩ ∧ x.id ∈ p.rules.dependents ∧
        w.manager.items.get? x.id = some x ∧ t.stamp? = some (x.stamp p.time {}) := by
  have hb := h.balanced hm
  have hc := h.counted hm
  have hr := h.registered hm
  have ho := Event.outputs_eq h.proper
  have hs : (es.flatMap Event.outputs).filterMap Output.stamp? =
      (es.filterMap Event.settled?).filterMap Task.stamp? := by
    rw [ho, List.filterMap_map]
    exact List.filterMap_congr fun t _ => t.answer_stamp?
  have hk : (es.flatMap Event.outputs).filterMap Output.ticket? =
      (es.filterMap Event.settled?).filterMap Task.ticket? := by
    rw [ho, List.filterMap_map]
    exact List.filterMap_congr fun t _ => t.answer_ticket?
  refine ⟨hb.made, hb.ran, fun t d => h.proper _, hc.inFlight_eq hb, fun _ _ => hc.inFlight_pos hb,
    Counted.queued_eq hm h, ho, ?_, ?_, ?_,
    fun a e w' ht => ⟨fun x t => ht.fed_stamp hr, fun x t => ht.bred_stamp hr⟩⟩
  · have hf : (es.flatMap Event.outputs).filterMap Output.stamp? =
        ((es.flatMap Event.outputs).filterMap Output.toFlushed).map FlushedValue.stamp := by
      rw [List.map_filterMap]
      rfl
    have hl := congrArg List.length (hf.symm.trans hs)
    rw [List.length_map] at hl
    rw [hl, hc.flushed, ← Multiset.coe_card, ← Multiset.filterMap_coe, card_stamps, Multiset.coe_countP]
    simp
  · rw [hs]
    exact h.kept Task.stamp? Task.run_stamp? hm
  · rw [hk, h.kept Task.ticket? Task.run_ticket? hm, hc.tickets]

theorem tasks_conserved_of_dependent :
    ∃ as es w, Course (opening { batchSize := 256, queue := { workers := 3 } } 1) as es w ∧
      w.duty = .idle ∧ (es.filterMap Event.bred?).length = 1 ∧ w.manager.flushed = 1 ∧
      (w.floor.waiting + w.floor.unsettled).card = 1 := by
  have h := (Course.nil : Course (opening { batchSize := 256, queue := { workers := 3 } } 1) [] [] _)
    |>.snoc (.add 7 1 { dependents := [8] } rfl)
    |>.snoc (.add 8 1 {} rfl)
    |>.snoc (.feed 7 (.text "up") ⟨1⟩ {} rfl)
    |>.snoc (.pop (l := []) (r := []) (v := {}) rfl rfl)
    |>.snoc (.run (l := []) (r := []) rfl rfl rfl)
    |>.snoc (.put (l := []) (r := []) rfl rfl)
    |>.snoc (.drain 1 rfl)
    |>.snoc (.take rfl rfl)
    |>.snoc (.settle rfl)
    |>.snoc (.stop rfl (.inl rfl))
  exact ⟨_, _, _, h, rfl, rfl, rfl, ((tasks_conserved (c := {}) rfl h).2.2.2.1).symm.trans rfl⟩

end Workshop

end ItemPipeline
