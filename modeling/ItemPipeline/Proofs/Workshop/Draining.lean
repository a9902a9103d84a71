import ItemPipeline.Proofs.Workshop.Passing
import Mathlib.Algebra.BigOperators.Group.List.Lemmas

/-!
Draining comes to an end. While the table is that of a checked configuration and nothing new is sent,
there is a finite amount of work ahead, and every step of a worker and of a drain takes from it. Where no
step is left, nothing is in flight.
-/

namespace ItemPipeline

lemma Config.Checked.exists_weight {c : Config} (h : c.Checked) (k : Nat) :
    ∃ weight : UInt64 → Nat, ∀ i, weight i = ((c.dependents i).map weight).sum + k := by
  have wf : WellFounded fun d i => d ∈ c.dependents i := ⟨h.acc_dependents⟩
  refine ⟨wf.fix fun i weight => ((c.dependents i).attach.map fun d => weight d.1 d.2).sum + k, fun i => ?_⟩
  rw [wf.fix_eq, List.attach_map_val (f := wf.fix _)]

section Load

variable (g : Task → Nat)

def Queue.load (q : Queue) : Nat :=
  (q.sequences.values.flatten.map fun t => g t + 9).sum +
    ((q.immediate ++ q.pending).map fun j => g j.task + 8).sum + (q.finished.map fun j => g j.task + 5).sum

def Hand.load : Hand → Nat
  | free => 0
  | ready j => g j.task + 7
  | done j => g j.task + 6

def Duty.load (finished : List Job) : Duty → Nat
  | idle => 1
  | draining left => if left = 0 || finished.isEmpty then 2 else 0
  | settling _ j => g j.task + 4
  | advancing _ _ => 3

/-- The steps ahead, if `g` bounds those of the tasks that a task leads to: a task that is sent into a
sequence has nine ahead, one that waits to be handled four. -/
def Workshop.load (w : Workshop) : Nat :=
  w.manager.queue.load g + (w.workers.map fun v => v.hand.load g).sum +
    w.duty.load g w.manager.queue.finished

end Load

namespace Queue

variable {g : Task → Nat} {q q' : Queue}

lemma load_chain (h : q.sequences.keys.Nodup) (i : UInt64) :
    (q.sequences.values.flatten.map fun t => g t + 9).sum =
      (((q.sequences.get? i).getD []).map fun t => g t + 9).sum +
        ((q.sequences.erase i).values.flatten.map fun t => g t + 9).sum := by
  rw [((Table.flatten_perm h i).map _).sum_eq, List.map_append, List.sum_append]

lemma load_insert (h : q.sequences.keys.Nodup) (i : UInt64) (l : List Task) :
    ((q.sequences.insert i l).values.flatten.map fun t => g t + 9).sum =
      (l.map fun t => g t + 9).sum + ((q.sequences.erase i).values.flatten.map fun t => g t + 9).sum := by
  rw [((Table.insert_flatten_perm h i l).map _).sum_eq, List.map_append, List.sum_append]

lemma send_load {e : Event} {t : Task} (h : q.sequences.keys.Nodup) (hs : q.Sends e q')
    (made : e.made? = some t) : q'.load g ≤ q.load g + (g t + 9) := by
  cases hs with
  | @join _ u l hu serial chain =>
    obtain rfl : u = t := by simpa [hu] using made
    have hc := load_chain (g := g) h u.item
    simp only [load, load_insert h, chain, Option.getD_some, List.map_append, List.sum_append, List.map_cons,
      List.map_nil, List.sum_cons, List.sum_nil] at hc ⊢
    omega
  | @start _ u hu serial chain =>
    obtain rfl : u = t := by simpa [hu] using made
    have hc := load_chain (g := g) h u.item
    simp only [load, load_insert h, chain, Option.getD_none, List.map_append, List.sum_append, List.map_cons,
      List.map_nil, List.sum_cons, List.sum_nil, Job.task] at hc ⊢
    omega
  | @ahead _ u hu parallel origin =>
    obtain rfl : u = t := by simpa [hu] using made
    simp only [load, pushImmediate, List.map_append, List.sum_append, List.map_cons, List.map_nil,
      List.sum_cons, List.sum_nil, Job.task]
    omega
  | @behind x u parallel kind =>
    obtain rfl : u = t := by simpa [Event.made?] using made
    simp only [load, pushPending, List.map_append, List.sum_append, List.map_cons, List.map_nil,
      List.sum_cons, List.sum_nil, Job.task]
    omega

lemma load_bred (h : q.sequences.keys.Nodup) (l : List (Item × Task)) :
    (l.foldl (fun q b => Manager.pushFed q b.2) q).load g ≤ q.load g + (l.map fun b => g b.2 + 9).sum := by
  induction l generalizing q with
  | nil => simp
  | cons b l ih =>
    have hs := q.pushFed_sends b.1 b.2
    have first := send_load (g := g) h hs rfl
    have rest := ih (Floor.send_keys h hs)
    simp only [List.foldl_cons, List.map_cons, List.sum_cons]
    omega

lemma load_pop (h : ∀ j ∈ q.pending, j.isSerial = false) {j : Job} (found : q.pop.1 = some j) :
    q.pop.2.load g + (g j.task + 8) = q.load g ∧ q.pop.2.finished = q.finished := by
  rcases q.pop_cases h with ⟨k, r, hi, hp⟩ | ⟨k, r, hi, hq, hp⟩ | hp
  · obtain rfl : k = j := by simpa [hp] using found
    simp only [hp, load, hi, List.cons_append, List.map_cons, List.sum_cons, and_true]
    omega
  · obtain rfl : k = j := by simpa [hp] using found
    simp only [hp, load, hi, hq, List.nil_append, List.map_cons, List.sum_cons, and_true]
    omega
  · simp [hp] at found

lemma lanes_of_pop (h : ∀ j ∈ q.pending, j.isSerial = false) (hp : q.pop.1 = none) :
    q.immediate = [] ∧ q.pending = [] := by
  obtain ⟨pending, immediate, finished, sequences, workers⟩ := q
  cases immediate with
  | cons j r => simp [pop] at hp
  | nil =>
    cases pending with
    | nil => exact ⟨rfl, rfl⟩
    | cons j r =>
      have hj : j.isSerial = false := h j List.mem_cons_self
      cases j with
      | single t =>
        have ht : t.isSerial = false := hj
        simp [pop, popPending, ht] at hp
      | sequence i t => simp [pop, popPending] at hp

lemma load_advance {m : Manager} (h : m.queue.sequences.keys.Nodup) (i : UInt64) :
    (m.advance i).queue.load g ≤ m.queue.load g := by
  have hc := load_chain (g := g) h i
  cases hl : (m.queue.sequences.get? i).getD [] with
  | nil =>
    rw [m.advance_of_empty hl]
    simp only [hl, load, removeSequence] at hc ⊢
    omega
  | cons t r =>
    have hs : m.queue.sequences.get? i = some (t :: r) := by
      cases hg : m.queue.sequences.get? i <;> simp_all
    rw [m.advance_of_waiting hs]
    simp only [hl, load, load_insert h, List.map_append, List.sum_append, List.map_cons, List.map_nil,
      List.sum_cons, List.sum_nil, Job.task] at hc ⊢
    omega

end Queue

namespace Duty

variable {g : Task → Nat} (left : Nat) (j : Job) (l : List Job)

lemma load_of_ended {left : Nat} {l : List Job} (h : left = 0 ∨ l = []) : (draining left).load g l = 2 := by
  rcases h with rfl | rfl <;> simp [load]

lemma load_draining_le : (draining left).load g l ≤ 2 := by
  simp only [load]
  split <;> omega

lemma load_after_le : (after left j).load g l ≤ 3 := by
  cases j with
  | single t => exact Nat.le_succ_of_le (load_draining_le left l)
  | sequence i t => exact Nat.le_refl 3

lemma load_put_le (d : Duty) : d.load g (l ++ [j]) ≤ d.load g l := by
  cases d with
  | draining left =>
    simp only [load]
    split <;> split <;> simp_all
  | _ => exact Nat.le_refl _

end Duty

def Task.weight (weight : UInt64 → Nat) (t : Task) : Nat :=
  (t.valueTask?.map fun v => (v.rules.dependents.map weight).sum).getD 0

lemma Task.run_weight (weight : UInt64 → Nat) (t : Task) (b : Bench) :
    (t.run b).1.weight weight = t.weight weight := by
  cases t <;> rfl

lemma Manager.taskOf_weight (m : Manager) (weight : UInt64 → Nat) (v : ValueTask) :
    (m.taskOf v).weight weight = (v.rules.dependents.map weight).sum := by
  simp [Task.weight, taskOf_valueTask?]

lemma sum_filterMap_le {α β : Type} {f : α → Option β} {p : β → Nat} {q : α → Nat} {l : List α}
    (h : ∀ a ∈ l, ∀ b, f a = some b → p b ≤ q a) : ((l.filterMap f).map p).sum ≤ (l.map q).sum := by
  induction l with
  | nil => simp
  | cons a l ih =>
    have ih := ih fun a ha => h a (List.mem_cons_of_mem _ ha)
    cases hf : f a with
    | none =>
      simp only [List.filterMap_cons, hf, List.map_cons, List.sum_cons]
      omega
    | some b =>
      have := h a List.mem_cons_self b hf
      simp only [List.filterMap_cons, hf, List.map_cons, List.sum_cons]
      omega

lemma Manager.Stocked.bred_weight {c : Config} {m : Manager} (h : m.Stocked c) (hc : c.Checked)
    {weight : UInt64 → Nat} {k : Nat} (hw : ∀ i, weight i = ((c.dependents i).map weight).sum + k)
    (t : Task) : ((m.bred t).map fun b => b.2.weight weight + k).sum ≤ t.weight weight := by
  unfold bred
  split
  · rename_i p r s
    rw [List.map_map, fed]
    refine sum_filterMap_le fun i _ y hy => ?_
    obtain ⟨x, hx, rfl, -, -, hr⟩ := h.kept i y hy
    have rules : (ValueTask.ofCache y s p.time {}).rules = x.rules := hr
    rw [hw, hc.dependents_eq hx, Function.comp_apply, taskOf_weight, rules]
    exact Nat.le_refl _
  · simp

namespace Workshop

variable {w w' : Workshop} {a : Act} {es : List Event} {g : Task → Nat}

/-- What goes on when nothing new is sent and the table stays as it is: workers find jobs, run them and
put them back, and drains begin that have something to handle. -/
def Proceeds (w : Workshop) : Act → Prop
  | .pop => w.manager.queue.pop.1.isSome
  | .drain limit => 0 < limit ∧ w.manager.queue.finished ≠ []
  | .run | .put | .take | .settle | .advance | .stop => True
  | _ => False

lemma Proceeds.keepsTable (h : w.Proceeds a) : a.keepsTable = true := by
  cases a <;> simp_all [Proceeds, Act.keepsTable]

lemma Turn.load_lt (h : Turn w a es w') (ha : w.Proceeds a) (ho : w.floor.Orderly)
    (keys : w.manager.queue.sequences.keys.Nodup) (run : ∀ t b, g (t.run b).1 = g t)
    (bred : ∀ t, ((w.manager.bred t).map fun b => g b.2 + 9).sum ≤ g t) : w'.load g < w.load g := by
  cases h with
  | drain limit idle =>
    have hl : limit ≠ 0 := Nat.pos_iff_ne_zero.1 ha.1
    simp [load, idle, Duty.load, hl, ha.2]
  | stop duty ended =>
    simp only [load, duty, Duty.load_of_ended ended]
    exact Nat.lt_succ_self _
  | @take left j q duty found =>
    obtain ⟨r, hf, rfl⟩ := Queue.popFinished_eq_some found
    simp only [load, duty, Queue.load, hf, Duty.load, List.map_cons, List.sum_cons]
    omega
  | @settle left j duty =>
    have sent := Queue.load_bred (g := g) keys (w.manager.bred j.task)
    have weight := bred j.task
    have after := Duty.load_after_le (g := g) left j (w.manager.settleTask j.task).2.queue.finished
    rw [w.manager.settleTask_eq] at after ⊢
    simp only [load, duty, Duty.load] at after ⊢
    omega
  | @advance left i duty =>
    have advanced := Queue.load_advance (g := g) keys i
    have after := Duty.load_draining_le (g := g) left (w.manager.advance i).queue.finished
    simp only [load, duty] at after ⊢
    simp only [Duty.load] at after ⊢
    omega
  | @pop l r v split hand =>
    obtain ⟨j, found⟩ := Option.isSome_iff_exists.1 ha
    obtain ⟨popped, finished⟩ := Queue.load_pop (g := g) ho.pending_parallel found
    simp only [load, split, found, finished, hand, Hand.ofPop, Hand.load, List.map_append, List.sum_append,
      List.map_cons, List.sum_cons]
    omega
  | @run l r v j done b split hand result =>
    have kept : g done.task = g j.task := by
      rw [← run j.task ⟨v.context, w.manager.histories⟩, ← j.run_task, result]
    simp only [load, split, hand, Hand.load, kept, List.map_append, List.sum_append, List.map_cons,
      List.sum_cons]
    omega
  | @put l r v j split hand =>
    have later := Duty.load_put_le (g := g) j w.manager.queue.finished w.duty
    simp only [load, split, hand, Hand.load, Queue.load, Queue.pushFinished, List.map_append, List.sum_append,
      List.map_cons, List.sum_cons, List.map_nil, List.sum_nil] at later ⊢
    omega
  | _ => exact ha.elim

inductive Schedule (start : Workshop) : List Act → Workshop → Prop
  | nil : Schedule start [] start
  | snoc {as : List Act} {es : List Event} {w w' : Workshop} {a : Act} :
      Schedule start as w → Turn w a es w' → w.Proceeds a → Schedule start (as ++ [a]) w'

/-- Between drains, with no job to take up, none in hand and none finished. -/
structure Still (w : Workshop) : Prop where
  idle : w.duty = .idle
  lanes : w.manager.queue.pop.1 = none
  hands : ∀ v ∈ w.workers, v.hand = .free
  finished : w.manager.queue.finished = []

variable {c : Config} {s : ManagerConfig} {m : Manager} {n : Nat} {as bs : List Act}

lemma Schedule.course (h : Schedule w bs w') : ∃ es, Course w bs es w' := by
  induction h with
  | nil => exact ⟨[], .nil⟩
  | snoc _ ht _ ih =>
    obtain ⟨es, hc⟩ := ih
    exact ⟨_, hc.snoc ht⟩

lemma Course.workers_length (h : Course (opening m n) as es w) : w.workers.length = n :=
  h.floor_induction (P := fun _ f => f.workers.length = n) (by simp [opening, floor])
    fun hn hs => (Floor.shift_workers hs).trans hn

lemma Schedule.items (h : Schedule w bs w') : w'.manager.items = w.manager.items := by
  induction h with
  | nil => rfl
  | snoc _ ht ha ih => exact ((ht.table ha.keepsTable).1).trans ih

lemma Schedule.length_le (hs : Manager.start s = .ok m) (hc : Course (opening m n) as es w)
    (run : ∀ t b, g (t.run b).1 = g t)
    (bred : ∀ m' : Manager, m'.items = w.manager.items → ∀ t, ((m'.bred t).map fun b => g b.2 + 9).sum ≤ g t)
    (h : Schedule w bs w') : bs.length + w'.load g ≤ w.load g := by
  induction h with
  | nil => simp
  | @snoc bs e v v' a hb ht ha ih =>
    obtain ⟨es', hv⟩ := hb.course
    have reached := hc.append hv
    have less := ht.load_lt ha (reached.orderly hs) (reached.balanced hs).keys run (bred _ hb.items)
    simp only [List.length_append, List.length_singleton]
    omega

lemma Still.empty (h : w.Still) (hs : Manager.start s = .ok m) (hc : Course (opening m n) as es w) :
    w.manager.inFlight = 0 ∧ w.manager.queue.immediate = [] ∧ w.manager.queue.pending = [] ∧
      w.manager.queue.finished = [] ∧ w.manager.queue.sequences.entries = [] := by
  have ho := hc.orderly hs
  obtain ⟨immediate, pending⟩ := Queue.lanes_of_pop ho.pending_parallel h.lanes
  have upcoming : w.floor.upcoming = [] := by
    simpa [Floor.upcoming, Floor.toRun, floor, immediate, pending] using fun v hv => by simp [h.hands v hv]
  have past : w.floor.past = [] := by
    simpa [Floor.past, Floor.toPut, floor, h.idle, h.finished] using fun v hv => by simp [h.hands v hv]
  have advancing : w.floor.duty.sequences = [] := by simp only [floor, h.idle, Duty.sequences]
  have carried : w.floor.carried = [] := by
    simp only [Floor.carried, Floor.jobs, upcoming, past, advancing, List.append_nil, List.filterMap_nil]
  have none (i : UInt64) : w.manager.queue.sequences.contains i = false := by
    have hi := ho.carried i
    rw [carried, List.count_nil] at hi
    cases hq : w.manager.queue.sequences.contains i with
    | false => rfl
    | true => simp [floor, hq] at hi
  have sequences := Table.entries_eq_nil none
  have chains : w.floor.queue.sequences.values = [] := by simp only [floor, Table.values, sequences, List.map_nil]
  refine ⟨?_, immediate, pending, h.finished, sequences⟩
  rw [(hc.counted hs).inFlight_eq (hc.balanced hs)]
  simp [Floor.waiting, Floor.unsettled, upcoming, past, chains]

lemma still_of_stuck (hc : Course (opening m n) as es w) (workers : 0 < n)
    (stuck : ∀ a es' w', w.Proceeds a → ¬ Turn w a es' w') : w.Still := by
  have idle : w.duty = .idle := by
    cases hd : w.duty with
    | idle => rfl
    | settling left j => exact (stuck .settle _ _ trivial (.settle hd)).elim
    | advancing left i => exact (stuck .advance _ _ trivial (.advance hd)).elim
    | draining left =>
      refine (?_ : False).elim
      cases left with
      | zero => exact stuck .stop _ _ trivial (.stop hd (.inl rfl))
      | succ left =>
        cases hf : w.manager.queue.finished with
        | nil => exact stuck .stop _ _ trivial (.stop hd (.inr hf))
        | cons j r =>
          have found : w.manager.queue.popFinished = (some j, { w.manager.queue with finished := r }) := by
            simp only [Queue.popFinished, hf]
          exact stuck .take _ _ trivial (.take hd found)
  have finished : w.manager.queue.finished = [] := by
    by_contra hf
    exact stuck (.drain 1) _ _ ⟨Nat.one_pos, hf⟩ (.drain 1 idle)
  have hands : ∀ v ∈ w.workers, v.hand = .free := by
    intro v hv
    obtain ⟨l, r, split⟩ := List.append_of_mem hv
    cases hh : v.hand with
    | free => rfl
    | ready j => exact (stuck .run _ _ trivial (.run split hh rfl)).elim
    | done j => exact (stuck .put _ _ trivial (.put split hh)).elim
  refine ⟨idle, ?_, hands, finished⟩
  cases hw : w.workers with
  | nil =>
    have := hc.workers_length
    simp only [hw, List.length_nil] at this
    omega
  | cons v r =>
    by_contra hp
    exact stuck .pop _ _ (Option.isSome_iff_ne_none.2 hp)
      (.pop (l := []) hw (hands v (hw ▸ List.mem_cons_self)))

/-- Take any state that is reached, with the table of a checked configuration. If from there on nothing new
is sent and the table stays, there is a bound on the steps of workers and drains, in whatever order they
come, as long as each drain has something to handle. They can go on until there is no job to take up, in
hand or finished; and then nothing is in flight, the lanes are empty and there is no sequence. -/
theorem draining_terminates (hs : Manager.start s = .ok m) (hc : Course (opening m n) as es w)
    (checked : c.check = .ok ()) (table : w.manager.Stocked c) :
    (∃ bound, ∀ bs w', Schedule w bs w' → bs.length ≤ bound) ∧
    ∀ bs w', Schedule w bs w' →
      (0 < n → (∀ a es' w'', w'.Proceeds a → ¬ Turn w' a es' w'') → w'.Still) ∧
      (w'.Still → w'.manager.inFlight = 0 ∧ w'.manager.queue.immediate = [] ∧
        w'.manager.queue.pending = [] ∧ w'.manager.queue.finished = [] ∧
        w'.manager.queue.sequences.entries = []) := by
  have hc' := Config.checked_of_check checked
  obtain ⟨weight, hw⟩ := hc'.exists_weight 9
  constructor
  · refine ⟨w.load (Task.weight weight), fun bs w' h => ?_⟩
    have length := h.length_le hs hc (Task.run_weight weight) fun m' items t =>
      (table.of_items items).bred_weight hc' hw t
    omega
  · intro bs w' h
    obtain ⟨es', hb⟩ := h.course
    have reached := hc.append hb
    exact ⟨fun workers stuck => still_of_stuck reached workers stuck, fun still => still.empty hs reached⟩

theorem draining_terminates_of_fed :
    ∃ (c : Config) (as bs : List Act) (es : List Event) (w w' : Workshop),
      c.check = .ok () ∧ Course (opening { batchSize := 256, queue := { workers := 3 } } 1) as es w ∧
      w.manager.Stocked c ∧ w.manager.inFlight = 1 ∧
      (∃ bound, ∀ bs w', Schedule w bs w' → bs.length ≤ bound) ∧
      Schedule w bs w' ∧ w'.manager.flushed = 2 ∧ w'.manager.inFlight = 0 := by
  let c : Config := { items := [{ id := 7, dependents := [8] }, { id := 8 }] }
  let m : Manager := { batchSize := 256, queue := { workers := 3 } }
  let w : Workshop :=
    { opening (((m.addItem 7 0 { dependents := [8] }).2.addItem 8 0 {}).2.enqueue 7 (.text "up") ⟨1⟩ {}).2 1 with
      issued := [(8, ⟨1, {}⟩), (7, ⟨0, { dependents := [8] }⟩)] }
  have added := (Course.nil : Course (opening m 1) [] [] _)
    |>.snoc (.add 7 0 { dependents := [8] } rfl)
    |>.snoc (.add 8 0 {} rfl)
  have table := (added.stocked_of_add (g := {}) (l := c.items) rfl).2
  have fed : Course (opening m 1) _ _ w := added.snoc (.feed 7 (.text "up") ⟨1⟩ {} rfl)
  obtain ⟨bounded, rest⟩ := draining_terminates (s := {}) (c := c) rfl fed rfl ⟨table.known, table.kept⟩
  have drained := (Schedule.nil : Schedule w [] w)
    |>.snoc (.pop (l := []) (r := []) (v := {}) rfl rfl) rfl
    |>.snoc (.run (l := []) (r := []) rfl rfl rfl) trivial
    |>.snoc (.put (l := []) (r := []) rfl rfl) trivial
    |>.snoc (.drain 1 rfl) ⟨Nat.one_pos, List.cons_ne_nil _ _⟩
    |>.snoc (.take rfl rfl) trivial
    |>.snoc (.settle rfl) trivial
    |>.snoc (.stop rfl (.inl rfl)) trivial
    |>.snoc (.pop (l := []) (r := []) rfl rfl) rfl
    |>.snoc (.run (l := []) (r := []) rfl rfl rfl) trivial
    |>.snoc (.put (l := []) (r := []) rfl rfl) trivial
    |>.snoc (.drain 1 rfl) ⟨Nat.one_pos, List.cons_ne_nil _ _⟩
    |>.snoc (.take rfl rfl) trivial
    |>.snoc (.settle rfl) trivial
    |>.snoc (.stop rfl (.inl rfl)) trivial
  exact ⟨c, _, _, _, _, _, rfl, fed, ⟨table.known, table.kept⟩, rfl, bounded, drained, rfl,
    ((rest _ _ drained).2 ⟨rfl, rfl, by simp, rfl⟩).1⟩

end Workshop

end ItemPipeline
