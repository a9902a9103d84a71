import ItemPipeline.Command.Feed
import ItemPipeline.Proofs.Workshop.Budget

/-!
The session behind a run of the program. After each call its worker has taken up all there is, so that a
drain handles something as long as anything is in flight, and the drains that end a run handle all of it.
-/

namespace ItemPipeline

namespace Queue

variable {q r : Queue}

lemma popPending_none {l : List Job} (hq : q.immediate = []) (h : q.popPending l = (none, r)) :
    r.immediate = [] ∧ r.pending = [] := by
  induction l generalizing q with
  | nil =>
    obtain rfl : _ = r := by simpa [popPending] using h
    exact ⟨hq, rfl⟩
  | cons j rest ih =>
    cases j with
    | sequence i t => simp [popPending] at h
    | single t =>
      simp only [popPending] at h
      split at h
      · split at h
        · simp at h
        · rename_i empty
          exact ih empty h
      · simp at h

lemma pop_none (h : q.pop = (none, r)) : r.pop.1 = none := by
  unfold pop at h
  split at h
  · simp at h
  · rename_i empty
    obtain ⟨immediate, pending⟩ := popPending_none empty h
    simp [pop, popPending, immediate, pending]

lemma pop_work (q : Queue) (b : Bench) : (q.work b).2.1.pop.1 = none := by
  fun_induction work q b with
  | case1 q b q' hp => exact pop_none hp
  | case2 q b j q' hp j' b' hr n q'' b'' hw ih => rwa [hw] at ih

end Queue

lemma Floor.shift_queue_workers {f f' : Floor} {e : List Event} (ho : f.Orderly) (hs : f.Shift e f') :
    f'.queue.workers = f.queue.workers := by
  cases hs with
  | send sends => cases sends <;> rfl
  | pop split hand =>
    rcases f.queue.pop_cases ho.pending_parallel with ⟨j, r, -, hp⟩ | ⟨j, r, -, -, hp⟩ | hp <;> simp only [hp]
  | _ => rfl

namespace Manager

lemma drain_outputs_ne_nil {m : Manager} {limit : Nat} (some : limit ≠ 0) (finished : m.queue.finished ≠ []) :
    (m.drain limit).outputs ≠ [] := by
  obtain ⟨j, r, hf⟩ := List.exists_cons_of_ne_nil finished
  obtain ⟨limit, rfl⟩ := Nat.exists_eq_succ_of_ne_zero some
  rw [drain, Queue.popFinished, hf]
  cases j with
  | single t => simp [settle, settleTask_eq]
  | sequence i t => simp [settle, settleTask_eq]

lemma foldl_addItem_queue (m : Manager) (l : List ItemConfig) :
    (l.foldl (fun m i => (m.addItem i.id i.host i.rules).2) m).queue = m.queue := by
  induction l generalizing m with
  | nil => rfl
  | cons i l ih => exact ih _

end Manager

namespace Workshop

variable {s : ManagerConfig} {m : Manager} {n : Nat} {w w' : Workshop} {a : Act} {as : List Act}
  {es : List Event}

lemma Course.queue_workers (hm : Manager.start s = .ok m) (h : Course (opening m n) as es w) :
    w.manager.queue.workers = s.workers.toNat := by
  have opened : m.queue.workers = s.workers.toNat := by rw [Manager.start_eq hm]
  have kept := h.floor_induction (P := fun _ f => f.Orderly ∧ f.queue.workers = s.workers.toNat)
    ⟨opening_orderly hm, opened⟩ fun hp hs => ⟨hp.1.shift hs, (Floor.shift_queue_workers hp.1 hs).trans hp.2⟩
  exact kept.2

lemma Turn.batchSize (h : Turn w a es w') : w'.manager.batchSize = w.manager.batchSize := by
  cases h with
  | update i r idle =>
    unfold Manager.updateItem
    split <;> rfl
  | feed i v t o idle =>
    unfold Manager.enqueue
    split <;> rfl
  | tryItem i v now idle =>
    unfold Manager.test
    split <;> rfl
  | settle duty => rw [w.manager.settleTask_eq]
  | @advance left i duty => rw [w.manager.advance_eq]
  | _ => rfl

lemma Course.batchSize (hm : Manager.start s = .ok m) (h : Course (opening m n) as es w) :
    w.manager.batchSize = s.batchSize.toNat := by
  induction h with
  | nil => exact congrArg Manager.batchSize (Manager.start_eq hm)
  | snoc _ ht ih => exact ht.batchSize.trans ih

lemma course_add (l : List ItemConfig) (w : Workshop) (idle : w.duty = .idle) :
    ∃ issued, Course w (l.map ItemConfig.add) []
      { w with
        manager := l.foldl (fun m i => (m.addItem i.id i.host i.rules).2) w.manager
        issued := issued } := by
  induction l using List.reverseRecOn with
  | nil => exact ⟨w.issued, .nil⟩
  | append_singleton l x ih =>
    obtain ⟨issued, h⟩ := ih
    have added := h.snoc (.add x.id x.host x.rules idle)
    rw [List.map_append, List.foldl_append]
    exact ⟨_, added⟩

end Workshop

namespace Session

open Workshop

variable {c : Config} {s s' : Session} {weight : UInt64 → Nat} {o : List Output} {limit : Nat}

def Reached (c : Config) (s : Session) : Prop :=
  ∃ m issued as es, Manager.start c.manager = .ok m ∧ (∀ a ∈ as, a.keepsTable = true) ∧
    Course (opening m 1) (c.items.map ItemConfig.add ++ as) es (s.workshop issued)

namespace Reached

lemma goes (h : s.Reached c) (hg : ∀ issued, Goes (s.workshop issued) o (s'.workshop issued)) :
    s'.Reached c := by
  obtain ⟨m, issued, as, es, hm, table, hc⟩ := h
  obtain ⟨bs, es', inner, -, hb⟩ := hg issued
  refine ⟨m, issued, as ++ bs, es ++ es', hm, ?_, ?_⟩
  · exact List.forall_mem_append.2 ⟨table, fun a ha => Act.keepsTable_of_isInner (inner a ha)⟩
  · rw [← List.append_assoc]
    exact hc.append hb

lemma settle (h : s.Reached c) : s.settle.Reached c :=
  h.goes fun issued => s.goes_settle issued

lemma enqueue (h : s.Reached c) (i : UInt64) (v : Value) (t : Timestamp) (o : ValueOptions) :
    { s with manager := (s.manager.enqueue i v t o).2 : Session }.Reached c := by
  obtain ⟨m, issued, as, es, hm, table, hc⟩ := h
  have fed := hc.snoc (.feed i v t o rfl)
  rw [List.append_assoc] at fed
  exact ⟨m, issued, _, _, hm, List.forall_mem_append.2 ⟨table, by simp [Act.keepsTable]⟩, fed⟩

lemma workers (h : s.Reached c) (hc : c.Checked) : s.manager.queue.workers ≠ 0 := by
  obtain ⟨m, issued, as, es, hm, -, hcourse⟩ := h
  have kept : s.manager.queue.workers = c.manager.workers.toNat := hcourse.queue_workers hm
  intro none
  have zero : c.manager.workers = 0 := UInt64.toNat_inj.1 (kept.symm.trans none)
  have checked := hc.manager
  simp [ManagerConfig.check, zero] at checked

lemma batchSize (h : s.Reached c) (hc : c.Checked) : s.manager.batchSize ≠ 0 := by
  obtain ⟨m, issued, as, es, hm, -, hcourse⟩ := h
  have kept : s.manager.batchSize = c.manager.batchSize.toNat := hcourse.batchSize hm
  intro none
  have zero : c.manager.batchSize = 0 := UInt64.toNat_inj.1 (kept.symm.trans none)
  have checked := hc.manager
  simp only [ManagerConfig.check, zero] at checked
  split at checked <;> simp at checked

end Reached

lemma settle_lanes (workers : s.manager.queue.workers ≠ 0) : s.settle.manager.queue.pop.1 = none := by
  rw [settle, if_neg workers]
  exact Queue.pop_work _ _

structure Rests (c : Config) (s : Session) : Prop where
  reached : s.Reached c
  lanes : s.manager.queue.pop.1 = none

lemma Reached.rests_settle (h : s.Reached c) (hc : c.Checked) : s.settle.Rests c :=
  ⟨h.settle, settle_lanes (h.workers hc)⟩

namespace Rests

lemma drain (h : s.Rests c) (hc : c.Checked) (limit : Nat) : (s.drain limit).2.Rests c := by
  have handled : { s with manager := (s.manager.drain limit).manager : Session }.Reached c :=
    h.reached.goes (o := (s.manager.drain limit).outputs) fun issued =>
      Workshop.goes_drain (s.workshop issued) rfl limit
  exact handled.rests_settle hc

lemma enqueue (h : s.Rests c) (hc : c.Checked) (i : UInt64) (v : Value) (t : Timestamp) (o : ValueOptions) :
    (s.call fun m => m.enqueue i v t o).2.Rests c :=
  (h.reached.enqueue i v t o).rests_settle hc

lemma still (h : s.Rests c) (finished : s.manager.queue.finished = []) (issued : List (UInt64 × Edition)) :
    (s.workshop issued).Still :=
  ⟨rfl, h.lanes, by simp [workshop], finished⟩

lemma ahead_lt (h : s.Rests c) (hc : c.Checked) (hw : ∀ i, weight i = ((c.dependents i).map weight).sum + 1)
    (some : limit ≠ 0) (busy : s.manager.inFlight ≠ 0) :
    ((s.drain limit).2.workshop []).ahead weight < (s.workshop []).ahead weight := by
  obtain ⟨m, issued, as, es, hm, table, hcourse⟩ := h.reached
  have finished : s.manager.queue.finished ≠ [] := by
    intro finished
    exact busy ((h.still finished issued).empty hm hcourse).1
  have handled : 0 < (s.drain limit).1.2.length :=
    List.length_pos_of_ne_nil (Manager.drain_outputs_ne_nil some finished)
  have stocked := (hcourse.prepared hm hc table).1
  have taken := (s.goes_drain issued limit).ahead_add_le hm hcourse stocked hc hw
  exact Nat.lt_of_lt_of_le (Nat.lt_add_of_pos_right handled) taken

lemma ahead_le_budget (h : s.Rests c) (hc : c.Checked)
    (hw : ∀ i, weight i = ((c.dependents i).map weight).sum + 1) :
    (s.workshop []).ahead weight ≤ budget s.manager := by
  obtain ⟨m, issued, as, es, hm, table, hcourse⟩ := h.reached
  obtain ⟨stocked, prepared⟩ := hcourse.prepared hm hc table
  have bound := hc.weight_le hw (stocked.dependents_le hc) stocked.ids_card_le
  -- what was issued is no part of the floor, so it does not count here
  have least := hcourse.ahead_le hm fun t ht => stocked.weight_lt hc hw bound (prepared t ht)
  exact least

lemma finishWithin (h : s.Rests c) (hc : c.Checked)
    (hw : ∀ i, weight i = ((c.dependents i).map weight).sum + 1) (some : limit ≠ 0) {fuel : Nat}
    (enough : (s.workshop []).ahead weight ≤ fuel) :
    (s.finishWithin limit fuel).2.Rests c ∧ (s.finishWithin limit fuel).2.manager.inFlight = 0 ∧
      ∀ more, s.finishWithin limit (fuel + more) = s.finishWithin limit fuel := by
  -- each drain takes from what is ahead, so the fuel stays enough for the rest
  induction fuel generalizing s with
  | zero =>
    obtain ⟨m, issued, as, es, hm, -, hcourse⟩ := h.reached
    have least := hcourse.inFlight_le_ahead weight hm
    have quiet : s.manager.inFlight = 0 := Nat.le_zero.1 (least.trans enough)
    refine ⟨h, quiet, fun more => ?_⟩
    cases more with
    | zero => rfl
    | succ more => simp only [Session.finishWithin, if_pos quiet]
  | succ fuel ih =>
    by_cases quiet : s.manager.inFlight = 0
    · simp only [Nat.succ_add, Session.finishWithin, if_pos quiet]
      exact ⟨h, quiet, fun _ => trivial⟩
    · have less := h.ahead_lt hc hw some quiet
      obtain ⟨rests, done, same⟩ := ih (h.drain hc limit) (Nat.le_of_lt_succ (Nat.lt_of_lt_of_le less enough))
      simp only [Nat.succ_add, Session.finishWithin, if_neg quiet]
      exact ⟨rests, done, fun more => by rw [same more]⟩

lemma empty (h : s.Rests c) (quiet : s.manager.inFlight = 0) :
    s.manager.queue.immediate = [] ∧ s.manager.queue.pending = [] ∧ s.manager.queue.finished = [] ∧
      s.manager.queue.sequences.entries = [] := by
  obtain ⟨m, issued, as, es, hm, -, hcourse⟩ := h.reached
  have rest := (hcourse.counted hm).rest (hcourse.balanced hm) quiet
  have finished : s.manager.queue.finished = [] := by
    simpa [Floor.past, Floor.toPut, workshop, floor] using rest.2.1
  exact ((h.still finished issued).empty hm hcourse).2

theorem finish (h : s.Rests c) (hc : c.Checked) :
    s.finish.2.Rests c ∧ s.finish.2.manager.inFlight = 0 ∧
      ∀ more, s.finishWithin s.manager.batchSize (budget s.manager + more) = s.finish := by
  obtain ⟨weight, hw⟩ := hc.exists_weight 1
  exact h.finishWithin hc hw (h.reached.batchSize hc) (h.ahead_le_budget hc hw)

end Rests

end Session

namespace Command.Feed

variable {c : Config} {f : Feed}

lemma start_rests (h : start c = .ok f) : f.session.Rests c := by
  unfold start at h
  cases hs : Session.start c.manager with
  | error e => simp [hs, bind, Except.bind] at h
  | ok s =>
    simp only [hs, bind, Except.bind, pure, Except.pure, Except.ok.injEq] at h
    obtain rfl := h
    obtain ⟨hm, opened⟩ := Session.workshop_start hs
    obtain ⟨issued, added⟩ := Workshop.course_add c.items (s.workshop []) rfl
    have lanes : s.manager.queue.pop.1 = none := by rw [Manager.start_eq hm]; rfl
    refine ⟨⟨s.manager, issued, [], [], hm, by simp, ?_⟩, ?_⟩
    · rw [List.append_nil, ← opened]
      exact added
    · rw [s.manager.foldl_addItem_queue]
      exact lanes

lemma line_rests (h : f.session.Rests c) (hc : c.Checked) (now : Timestamp) (s : String) :
    (f.line now s).2.session.Rests c := by
  unfold line
  dsimp only
  split
  · exact h
  · cases parseLine (Text.trimEnd Text.isBlank s.toList) with
    | none =>
      have called : (f.session.call fun m => (false, m)).2.Rests c := h.reached.rests_settle hc
      exact called.drain hc _
    | some p => exact (h.enqueue hc p.1 p.2 now {}).drain hc _

def after (f : Feed) (l : List (Timestamp × String)) : Feed :=
  l.foldl (fun f e => (f.line e.1 e.2).2) f

lemma after_rests (h : f.session.Rests c) (hc : c.Checked) (l : List (Timestamp × String)) :
    (f.after l).session.Rests c := by
  induction l generalizing f with
  | nil => exact h
  | cons e l ih => exact ih (line_rests h hc e.1 e.2)

theorem finish_completes (hc : c.check = .ok ()) (hf : start c = .ok f) (l : List (Timestamp × String)) :
    let s := (f.after l).session
    s.finish.2.manager.inFlight = 0 ∧
      (s.finish.2.manager.queue.immediate = [] ∧ s.finish.2.manager.queue.pending = [] ∧
        s.finish.2.manager.queue.finished = [] ∧ s.finish.2.manager.queue.sequences.entries = []) ∧
      ∀ more, s.finishWithin s.manager.batchSize (Session.budget s.manager + more) = s.finish := by
  have checked := Config.checked_of_check hc
  have rests := after_rests (start_rests hf) checked l
  obtain ⟨ended, quiet, same⟩ := rests.finish checked
  exact ⟨quiet, ended.empty quiet, same⟩

end Command.Feed

end ItemPipeline
