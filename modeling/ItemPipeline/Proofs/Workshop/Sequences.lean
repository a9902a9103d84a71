import ItemPipeline.Proofs.Table
import ItemPipeline.Proofs.Workshop.Floor

/-!
The sequence table and the jobs that carry sequences. An item has a sequence as long as exactly one
job carries it, and its serial tasks are at the head of that job or wait behind it.
-/

namespace ItemPipeline

def Job.Fit : Job → Prop
  | .single t => t.isSerial = false
  | .sequence i t => t.isSerial = true ∧ t.item = i

lemma Job.Fit.run {j : Job} (h : j.Fit) (b : Bench) : (j.run b).1.Fit := by
  cases j with
  | single t => exact (t.run_isSerial b).trans h
  | sequence i t => exact ⟨(t.run_isSerial b).trans h.1, (t.run_item b).trans h.2⟩

namespace Floor

def jobs (f : Floor) : List Job :=
  f.upcoming ++ f.past

def carried (f : Floor) : List UInt64 :=
  f.jobs.filterMap Job.sequence? ++ f.duty.sequences

structure Orderly (f : Floor) : Prop where
  carried : ∀ i, f.carried.count i = (f.queue.sequences.contains i).toNat
  jobs : ∀ j ∈ f.jobs, j.Fit
  chains : ∀ i, ∀ t ∈ f.chain i, t.isSerial = true ∧ t.item = i
  pending : ∀ j ∈ f.queue.pending, ∃ t, j = .single t ∧ t.isTest = false

def carriers (i : UInt64) (l : List Job) : Nat :=
  (l.filterMap Job.sequence?).count i

@[simp] lemma carriers_nil (i : UInt64) : carriers i [] = 0 := rfl

@[simp] lemma carriers_append (i : UInt64) (l r : List Job) :
    carriers i (l ++ r) = carriers i l + carriers i r := by
  simp [carriers]

lemma carriers_cons (i : UInt64) (j : Job) (l : List Job) :
    carriers i (j :: l) = carriers i [j] + carriers i l := by
  rw [← carriers_append]
  rfl

@[simp] lemma carriers_single (i : UInt64) (t : Task) : carriers i [.single t] = 0 := rfl

@[simp] lemma carriers_sequence (i k : UInt64) (t : Task) :
    carriers i [.sequence k t] = if k = i then 1 else 0 := by
  simp [carriers, Job.sequence?, List.count_singleton]

@[simp] lemma carriers_run (i : UInt64) (j : Job) (b : Bench) :
    carriers i [(j.run b).1] = carriers i [j] := by
  simp only [carriers, List.filterMap_cons, List.filterMap_nil, j.run_sequence?]

variable {q : Queue} {ws : List Worker} {d : Duty}

lemma count_carried (i : UInt64) :
    (carried ⟨q, ws, d⟩).count i =
      carriers i (ws.flatMap (·.hand.toRun)) + carriers i q.immediate + carriers i q.pending +
        carriers i d.jobs + carriers i q.finished + carriers i (ws.flatMap (·.hand.toPut)) +
        d.sequences.count i := by
  simp only [carried, jobs, upcoming, past, toRun, toPut, List.count_append, List.filterMap_append,
    carriers]
  omega

lemma forall_jobs {P : Job → Prop} :
    (∀ j ∈ jobs ⟨q, ws, d⟩, P j) ↔
      (∀ j ∈ ws.flatMap (·.hand.toRun), P j) ∧ (∀ j ∈ q.immediate, P j) ∧ (∀ j ∈ q.pending, P j) ∧
        (∀ j ∈ d.jobs, P j) ∧ (∀ j ∈ q.finished, P j) ∧ ∀ j ∈ ws.flatMap (·.hand.toPut), P j := by
  simp only [jobs, upcoming, past, toRun, toPut, List.forall_mem_append, and_assoc]

namespace Orderly

lemma pending_parallel (h : Orderly ⟨q, ws, d⟩) : ∀ j ∈ q.pending, j.isSerial = false := by
  intro j hj
  obtain ⟨t, rfl, -⟩ := h.pending j hj
  exact (forall_jobs.1 h.jobs).2.2.1 (.single t) hj

lemma send {e : Event} {q' : Queue} (h : Orderly ⟨q, ws, d⟩) (hs : q.Sends e q') :
    Orderly ⟨q', ws, d⟩ := by
  have hj := forall_jobs.1 h.jobs
  cases hs with
  | @join _ t l made serial chain =>
    have hc : q.sequences.contains t.item = true := Table.contains_eq_true_iff.2 ⟨l, chain⟩
    refine ⟨fun i => ?_, h.jobs, fun i u hu => ?_, h.pending⟩
    · have hi := h.carried i
      rw [count_carried] at hi ⊢
      by_cases ht : t.item = i
      · subst ht
        simpa [Table.contains_insert, hc] using hi
      · simpa [Table.contains_insert, ht] using hi
    · rw [chain_of_insert (f := ⟨q, ws, d⟩) rfl] at hu
      split at hu
      · rename_i hi
        subst hi
        rcases List.mem_append.1 hu with hl | ht
        · exact h.chains _ u (by simpa [Floor.chain, chain] using hl)
        · obtain rfl := List.mem_singleton.1 ht
          exact ⟨serial, rfl⟩
      · exact h.chains i u hu
  | @start _ t made serial chain =>
    have hc : q.sequences.contains t.item = false := Table.contains_eq_false_iff.2 chain
    refine ⟨fun i => ?_, ?_, fun i u hu => ?_, h.pending⟩
    · have hi := h.carried i
      rw [count_carried] at hi ⊢
      by_cases ht : t.item = i
      · subst ht
        simp [Table.contains_insert, hc] at hi ⊢
        omega
      · simpa [Table.contains_insert, ht] using hi
    · simp only [forall_jobs, List.forall_mem_append, List.forall_mem_singleton]
      exact ⟨hj.1, ⟨hj.2.1, serial, rfl⟩, hj.2.2⟩
    · rw [chain_of_insert (f := ⟨q, ws, d⟩) rfl] at hu
      split at hu
      · simp at hu
      · exact h.chains i u hu
  | @ahead _ t made parallel origin =>
    refine ⟨fun i => ?_, ?_, h.chains, h.pending⟩
    · have hi := h.carried i
      rw [count_carried] at hi ⊢
      simpa [Queue.pushImmediate] using hi
    · simp only [forall_jobs, Queue.pushImmediate, List.forall_mem_append, List.forall_mem_singleton]
      exact ⟨hj.1, ⟨hj.2.1, parallel⟩, hj.2.2⟩
  | @behind x t parallel kind =>
    refine ⟨fun i => ?_, ?_, h.chains, ?_⟩
    · have hi := h.carried i
      rw [count_carried] at hi ⊢
      simpa [Queue.pushPending] using hi
    · simp only [forall_jobs, Queue.pushPending, List.forall_mem_append, List.forall_mem_singleton]
      exact ⟨hj.1, hj.2.1, ⟨hj.2.2.1, parallel⟩, hj.2.2.2⟩
    · simp only [Queue.pushPending, List.forall_mem_append, List.forall_mem_singleton]
      exact ⟨h.pending, t, rfl, kind⟩

lemma move {q' : Queue} {ws' : List Worker} {d' : Duty} (h : Orderly ⟨q, ws, d⟩)
    (carries : (Floor.carried ⟨q', ws', d'⟩).Perm (Floor.carried ⟨q, ws, d⟩))
    (fit : ∀ j ∈ Floor.jobs ⟨q', ws', d'⟩, j.Fit) (fewer : q'.pending ⊆ q.pending)
    (table : q'.sequences = q.sequences) : Orderly ⟨q', ws', d'⟩ where
  carried i := by
    simpa only [carries.count_eq, table] using h.carried i
  jobs := fit
  chains i := by
    simpa only [chain, table] using h.chains i
  pending j hj := h.pending j (fewer hj)

section Hands

variable {l r : List Worker} {v : Worker} {j k : Job} {c : Context}

lemma pop (h : Orderly ⟨q, l ++ v :: r, d⟩) (hand : v.hand = .free) :
    Orderly ⟨q.pop.2, l ++ { v with hand := .ofPop q.pop.1 } :: r, d⟩ := by
  have hp : (Floor.jobs ⟨q.pop.2, l ++ { v with hand := .ofPop q.pop.1 } :: r, d⟩).Perm
      (Floor.jobs ⟨q, l ++ v :: r, d⟩) := by
    rw [Floor.jobs, pop_past h.pending_parallel hand]
    exact (pop_upcoming h.pending_parallel hand).append_right _
  exact h.move ((hp.filterMap _).append_right _) (fun j hj => h.jobs j (hp.mem_iff.1 hj))
    (Queue.pop_pending h.pending_parallel) (Queue.pop_sequences h.pending_parallel)

lemma run (h : Orderly ⟨q, l ++ v :: r, d⟩) (hand : v.hand = .ready j) (b : Bench) :
    Orderly ⟨q, l ++ ⟨c, .done (j.run b).1⟩ :: r, d⟩ := by
  have hj : (Floor.jobs ⟨q, l ++ v :: r, d⟩).Perm
      (j :: (upcoming ⟨q, l ++ ⟨c, .done (j.run b).1⟩ :: r, d⟩ ++ past ⟨q, l ++ v :: r, d⟩)) :=
    (run_upcoming hand).append_right _
  have hk : (Floor.jobs ⟨q, l ++ ⟨c, .done (j.run b).1⟩ :: r, d⟩).Perm
      ((j.run b).1 :: (upcoming ⟨q, l ++ ⟨c, .done (j.run b).1⟩ :: r, d⟩ ++ past ⟨q, l ++ v :: r, d⟩)) :=
    ((run_past hand).append_left _).trans List.perm_middle
  refine h.move (List.Perm.append_right _ ?_) (fun k hm => ?_) (List.Subset.refl _) rfl
  · refine (hk.filterMap _).trans ((hj.filterMap _).trans ?_).symm
    simp only [List.filterMap_cons, j.run_sequence?, List.Perm.refl]
  · rcases List.mem_cons.1 (hk.mem_iff.1 hm) with rfl | hm
    · exact (h.jobs j (hj.mem_iff.2 List.mem_cons_self)).run b
    · exact h.jobs k (hj.mem_iff.2 (List.mem_cons_of_mem _ hm))

lemma put (h : Orderly ⟨q, l ++ v :: r, d⟩) (hand : v.hand = .done j) :
    Orderly ⟨q.pushFinished j, l ++ { v with hand := .free } :: r, d⟩ := by
  have hp : (Floor.jobs ⟨q.pushFinished j, l ++ { v with hand := .free } :: r, d⟩).Perm
      (Floor.jobs ⟨q, l ++ v :: r, d⟩) := by
    rw [Floor.jobs, put_upcoming hand]
    exact (put_past hand).append_left _
  exact h.move ((hp.filterMap _).append_right _) (fun k hk => h.jobs k (hp.mem_iff.1 hk))
    (List.Subset.refl _) rfl

end Hands

section Drain

variable {left : Nat} {i : UInt64} {j : Job} {r : List Job}

lemma rest {d' : Duty} (h : Orderly ⟨q, ws, d⟩) (before : d.jobs = [] ∧ d.sequences = [])
    (after : d'.jobs = [] ∧ d'.sequences = []) : Orderly ⟨q, ws, d'⟩ := by
  have hj : Floor.jobs ⟨q, ws, d'⟩ = Floor.jobs ⟨q, ws, d⟩ := by
    simp [Floor.jobs, upcoming, past, toRun, toPut, before.1, after.1]
  refine h.move ?_ (hj ▸ h.jobs) (List.Subset.refl _) rfl
  simp [Floor.carried, hj, before.2, after.2]

lemma take (h : Orderly ⟨q, ws, d⟩) (before : d.jobs = [] ∧ d.sequences = [])
    (found : q.finished = j :: r) : Orderly ⟨{ q with finished := r }, ws, .settling left j⟩ := by
  have hj : Floor.jobs ⟨{ q with finished := r }, ws, .settling left j⟩ = Floor.jobs ⟨q, ws, d⟩ := by
    rw [Floor.jobs, take_past before.1 found]
    rfl
  refine h.move ?_ (hj ▸ h.jobs) (List.Subset.refl _) rfl
  simp [Floor.carried, hj, before.2]

lemma settle (h : Orderly ⟨q, ws, .settling left j⟩) : Orderly ⟨q, ws, .after left j⟩ := by
  have hj : (Floor.jobs ⟨q, ws, .settling left j⟩).Perm (j :: Floor.jobs ⟨q, ws, .after left j⟩) := by
    rw [Floor.jobs, settle_past]
    exact List.perm_middle
  refine h.move ?_ (fun k hk => h.jobs k (hj.mem_iff.2 (List.mem_cons_of_mem _ hk)))
    (List.Subset.refl _) rfl
  refine List.Perm.trans ?_ ((hj.filterMap _).append_right _).symm
  cases j with
  | single t => simp [Floor.carried, Duty.after, Job.sequence?, List.filterMap_cons]
  | sequence i t => simp [Floor.carried, Duty.after, Job.sequence?]

lemma forward {t : Task} {l : List Task} (h : Orderly ⟨q, ws, .advancing left i⟩)
    (next : q.sequences.get? i = some (t :: l)) :
    Orderly
      ⟨{ q with sequences := q.sequences.insert i l, immediate := q.immediate ++ [.sequence i t] }, ws,
        .draining left⟩ := by
  have hj := forall_jobs.1 h.jobs
  have ht : ∀ u ∈ t :: l, u.isSerial = true ∧ u.item = i := by
    simpa [Floor.chain, next] using h.chains i
  refine ⟨fun k => ?_, ?_, fun k u hu => ?_, h.pending⟩
  · have hk := h.carried k
    have hc : q.sequences.contains i = true := Table.contains_eq_true_iff.2 ⟨_, next⟩
    rw [count_carried] at hk ⊢
    by_cases hi : i = k
    · subst hi
      simp [Table.contains_insert, hc] at hk ⊢
      omega
    · simpa [Table.contains_insert, hi, List.count_singleton] using hk
  · simp only [forall_jobs, List.forall_mem_append, List.forall_mem_singleton, Duty.jobs_draining]
    exact ⟨hj.1, ⟨hj.2.1, ht t List.mem_cons_self⟩, hj.2.2⟩
  · rw [chain_of_insert (f := ⟨q, ws, .advancing left i⟩) rfl] at hu
    split at hu
    · rename_i hi
      exact hi ▸ ht u (List.mem_cons_of_mem _ hu)
    · exact h.chains k u hu

lemma chain_eq_nil (h : Orderly ⟨q, ws, .advancing left i⟩)
    (ended : Floor.chain ⟨q, ws, .advancing left i⟩ i = []) : q.sequences.get? i = some [] := by
  have hc := h.carried i
  cases hs : q.sequences.get? i with
  | none =>
    have : q.sequences.contains i = false := Table.contains_eq_false_iff.2 hs
    simp [count_carried, this] at hc
  | some l => simpa [Floor.chain, hs] using ended

lemma close (h : Orderly ⟨q, ws, .advancing left i⟩)
    (ended : Floor.chain ⟨q, ws, .advancing left i⟩ i = []) :
    Orderly ⟨q.removeSequence i, ws, .draining left⟩ := by
  refine ⟨fun k => ?_, h.jobs, fun k u hu => ?_, h.pending⟩
  · have hk := h.carried k
    have hc : q.sequences.contains i = true :=
      Table.contains_eq_true_iff.2 ⟨_, h.chain_eq_nil ended⟩
    rw [count_carried] at hk ⊢
    by_cases hi : i = k
    · subst hi
      simp [Queue.removeSequence, Table.contains_erase, hc] at hk ⊢
      omega
    · simpa [Queue.removeSequence, Table.contains_erase, hi, List.count_singleton] using hk
  · rw [chain_of_erase (f := ⟨q, ws, .advancing left i⟩) rfl] at hu
    split at hu
    · simp at hu
    · exact h.chains k u hu

end Drain

theorem shift {f f' : Floor} {e : List Event} (h : f.Orderly) (hs : f.Shift e f') : f'.Orderly := by
  obtain ⟨q, ws, d⟩ := f
  cases hs with
  | rest before after => exact h.rest before after
  | send sends => exact h.send sends
  | take before found => exact h.take before found
  | settle duty =>
    obtain rfl := duty
    exact h.settle
  | forward duty next =>
    obtain rfl := duty
    exact h.forward next
  | close duty ended =>
    obtain rfl := duty
    exact h.close ended
  | pop split hand =>
    obtain rfl := split
    exact h.pop hand
  | run split hand =>
    obtain rfl := split
    exact h.run hand _
  | put split hand =>
    obtain rfl := split
    exact h.put hand

end Orderly

end Floor

namespace Workshop

variable {c : ManagerConfig} {m : Manager} {n : Nat} {as : List Act} {es : List Event} {w : Workshop}

lemma opening_upcoming (hm : Manager.start c = .ok m) : (opening m n).floor.upcoming = [] := by
  simp only [Floor.upcoming, opening_toRun]
  simp [floor, opening, Manager.start_eq hm]

lemma opening_past (hm : Manager.start c = .ok m) : (opening m n).floor.past = [] := by
  simp only [Floor.past, opening_toPut]
  simp [floor, opening, Manager.start_eq hm]

lemma opening_sequences (hm : Manager.start c = .ok m) : (opening m n).floor.queue.sequences = {} := by
  simp [floor, opening, Manager.start_eq hm]

lemma opening_orderly (hm : Manager.start c = .ok m) : (opening m n).floor.Orderly := by
  have hj : (opening m n).floor.jobs = [] := by
    simp [Floor.jobs, opening_upcoming hm, opening_past hm]
  refine ⟨fun i => ?_, by simp [hj], fun i t ht => ?_, ?_⟩
  · rw [Floor.carried, hj, opening_sequences hm]
    rfl
  · rw [Floor.chain, opening_sequences hm] at ht
    simp [Table.get?, Table.lookIn] at ht
  · simp [opening, floor, Manager.start_eq hm]

lemma Course.orderly (hm : Manager.start c = .ok m) (h : Course (opening m n) as es w) :
    w.floor.Orderly :=
  h.floor_induction (P := fun _ f => f.Orderly) (opening_orderly hm) Floor.Orderly.shift

/-- At any moment an item is in the table if one job carries its sequence, and if it is not in the
table none does; such a job holds a serial task of its item, and so do the tasks behind it; serial
tasks are nowhere else; none but parallel tasks of items are pending. So what waits in a sequence has a
job to wait for, and no sequence ends before its last task. -/
theorem sequence_table (hm : Manager.start c = .ok m) (h : Course (opening m n) as es w) :
    (∀ i, (w.manager.queue.sequences.contains i = true ↔ w.floor.carried.count i = 1) ∧
      (w.manager.queue.sequences.contains i = false ↔ w.floor.carried.count i = 0)) ∧
    (∀ i t, .sequence i t ∈ w.floor.jobs → t.isSerial = true ∧ t.item = i) ∧
    (∀ i, ∀ t ∈ w.floor.chain i, t.isSerial = true ∧ t.item = i) ∧
    (∀ t, .single t ∈ w.floor.jobs → t.isSerial = false) ∧
    (∀ j ∈ w.manager.queue.pending, ∃ t, j = .single t ∧ t.isSerial = false ∧ t.isTest = false) ∧
    (∀ i, w.floor.chain i ≠ [] → w.floor.carried.count i = 1) ∧
    (∀ left i q, w.duty = .advancing left i → w.manager.queue.nextInSequence i = (none, q) →
      w.manager.queue.sequences.get? i = some []) := by
  have ho := Course.orderly hm h
  have carried (i : UInt64) :
      (w.manager.queue.sequences.contains i = true ↔ w.floor.carried.count i = 1) ∧
        (w.manager.queue.sequences.contains i = false ↔ w.floor.carried.count i = 0) := by
    rw [ho.carried i]
    cases hi : w.manager.queue.sequences.contains i <;> simp [floor, hi]
  refine ⟨carried, fun i t => ho.jobs _, ho.chains, fun t => ho.jobs _, fun j hj => ?_, fun i hi => ?_,
    fun left i q hd hq => ?_⟩
  · obtain ⟨t, rfl, ht⟩ := ho.pending j hj
    exact ⟨t, rfl, ho.pending_parallel _ hj, ht⟩
  · apply (carried i).1.1
    cases hs : w.manager.queue.sequences.get? i with
    | none => simp [Floor.chain, floor, hs] at hi
    | some l => exact Table.contains_eq_true_iff.2 ⟨l, hs⟩
  · have hw : w.floor = ⟨w.manager.queue, w.workers, .advancing left i⟩ := by
      rw [floor, hd]
    refine (hw ▸ ho).chain_eq_nil ?_
    unfold Queue.nextInSequence at hq
    split at hq
    · simp at hq
    · rename_i hs
      cases hl : w.manager.queue.sequences.get? i with
      | none => simp [Floor.chain, hl]
      | some l => cases l <;> simp_all [Floor.chain]

theorem sequence_table_of_two :
    ∃ as es w, Course (opening { batchSize := 256, queue := { workers := 3 } } 2) as es w ∧
      (w.floor.chain 7).length = 1 ∧ w.manager.queue.immediate = [] ∧ w.floor.carried.count 7 = 1 := by
  have h := (Course.nil : Course (opening { batchSize := 256, queue := { workers := 3 } } 2) [] [] _)
    |>.snoc (.add 7 1 { requestedMode := .serial } rfl)
    |>.snoc (.feed 7 (.uint64 1) ⟨1⟩ {} rfl)
    |>.snoc (.feed 7 (.uint64 2) ⟨2⟩ {} rfl)
    |>.snoc (.pop (l := []) (r := [{}]) (v := {}) rfl rfl)
  exact ⟨_, _, _, h, rfl, rfl, ((sequence_table (c := {}) rfl h).1 7).1.1 rfl⟩

end Workshop

end ItemPipeline
