import ItemPipeline.Proofs.Workshop.Sequences

/-!
The order of an item's tasks. Serial tasks of an item are run and handled in the order in which they
are made, whatever the workers do; with a single worker so are the parallel tasks of an item that is
either fed or passed values on, but not both.
-/

namespace ItemPipeline

def Task.ofKind (i : UInt64) (s : Bool) (t : Task) : Bool :=
  !t.isTest && t.item == i && t.isSerial == s

namespace Task

variable {i : UInt64} {s : Bool} {t : Task}

lemma ofKind_iff : t.ofKind i s = true ↔ t.isTest = false ∧ t.item = i ∧ t.isSerial = s := by
  simp [ofKind, and_assoc]

lemma ofKind_of_ne (h : t.item ≠ i) : t.ofKind i s = false := by
  simp [ofKind, h]

lemma run_ofKind (b : Bench) : (t.run b).1.ofKind i s = t.ofKind i s := by
  simp only [ofKind, t.run_isTest, t.run_item, t.run_isSerial]

lemma ofKind_true_iff : t.ofKind i true = true ↔ t.isSerial = true ∧ t.item = i := by
  rw [ofKind_iff]
  constructor
  · exact fun h => ⟨h.2.2, h.2.1⟩
  · exact fun h => ⟨not_isTest_of_isSerial h.1, h.2, h.1⟩

end Task

namespace Floor

def line (i : UInt64) (s : Bool) (l : List Job) : List Task :=
  (l.map Job.task).filter (Task.ofKind i s)

section Lines

variable {i : UInt64} {s : Bool} {j : Job} {l r : List Job}

@[simp] lemma line_nil : line i s [] = [] := rfl

@[simp] lemma line_append : line i s (l ++ r) = line i s l ++ line i s r := by
  simp [line]

lemma line_singleton : line i s [j] = [j.task].filter (Task.ofKind i s) := rfl

lemma line_cons_of_pos (h : j.task.ofKind i s = true) (l : List Job) :
    line i s (j :: l) = j.task :: line i s l := by
  simp [line, h]

lemma line_cons_of_neg (h : j.task.ofKind i s = false) (l : List Job) : line i s (j :: l) = line i s l := by
  simp [line, h]

lemma length_line_true (h : ∀ j ∈ l, j.Fit) : (line i true l).length = carriers i l := by
  induction l with
  | nil => rfl
  | cons j l ih =>
    have hl := ih fun k hk => h k (List.mem_cons_of_mem _ hk)
    have hj := h j List.mem_cons_self
    rw [carriers_cons]
    cases j with
    | single t =>
      have ht : t.ofKind i true = false := by
        rw [← Bool.not_eq_true, Task.ofKind_true_iff]
        simp [show t.isSerial = false from hj]
      rw [line_cons_of_neg (j := .single t) ht, hl, carriers_single, Nat.zero_add]
    | sequence k t =>
      obtain ⟨ht, rfl⟩ := hj
      by_cases hk : t.item = i
      · rw [line_cons_of_pos (j := .sequence t.item t) (Task.ofKind_true_iff.2 ⟨ht, hk⟩)]
        simp [hk, hl, Nat.add_comm]
      · rw [line_cons_of_neg (j := .sequence t.item t) (Task.ofKind_of_ne hk)]
        simp [hk, hl]

end Lines

variable {i : UInt64} {s : Bool} {q : Queue} {ws : List Worker} {d : Duty}

lemma Orderly.line_pending (h : Orderly ⟨q, ws, d⟩) : line i true q.pending = [] := by
  refine List.filter_eq_nil_iff.2 fun t ht => ?_
  obtain ⟨j, hj, rfl⟩ := List.mem_map.1 ht
  obtain ⟨t, rfl, -⟩ := h.pending j hj
  have hp : t.isSerial = false := h.pending_parallel _ hj
  rw [Task.ofKind_true_iff]
  simp [Job.task, hp]

lemma Orderly.line_chain (h : Orderly ⟨q, ws, d⟩) (k : UInt64) (hk : k ≠ i ∨ s = false) :
    (Floor.chain ⟨q, ws, d⟩ k).filter (Task.ofKind i s) = [] := by
  refine List.filter_eq_nil_iff.2 fun t ht => ?_
  obtain ⟨hs, hi⟩ := h.chains k t ht
  rw [Task.ofKind_iff]
  rintro ⟨-, hi', hs'⟩
  exact hk.elim (fun hk => hk (hi.symm.trans hi')) fun hk => by simp [hs, hk] at hs'

lemma Orderly.line_others {l r : List Worker} {v : Worker} (h : Orderly ⟨q, l ++ v :: r, d⟩)
    (few : s = true ∨ (l ++ v :: r).length ≤ 1)
    (here : line i s (v.hand.toRun ++ v.hand.toPut ++ q.immediate ++ q.pending) ≠ []) :
    line i s (l.flatMap (·.hand.toRun)) = [] ∧ line i s (r.flatMap (·.hand.toRun)) = [] ∧
      line i s (l.flatMap (·.hand.toPut)) = [] ∧ line i s (r.flatMap (·.hand.toPut)) = [] := by
  rcases few with rfl | few
  · -- each of these tasks is at the head of the item's sequence, which no two jobs carry
    have hc := h.carried i
    have hb := Bool.toNat_le (q.sequences.contains i)
    have hl := List.length_pos_iff.2 here
    have hj := forall_jobs.1 h.jobs
    simp only [List.flatMap_append, List.flatMap_cons, List.forall_mem_append] at hj
    rw [count_carried] at hc
    simp only [List.flatMap_append, List.flatMap_cons, carriers_append] at hc
    simp only [line_append, List.length_append] at hl
    simp only [← List.length_eq_zero_iff]
    rw [length_line_true hj.1.2.1, length_line_true hj.2.2.2.2.2.2.1, length_line_true hj.2.1,
      length_line_true hj.2.2.1] at hl
    rw [length_line_true hj.1.1, length_line_true hj.1.2.2, length_line_true hj.2.2.2.2.2.1,
      length_line_true hj.2.2.2.2.2.2.2]
    omega
  · simp only [List.length_append, List.length_cons] at few
    obtain rfl : l = [] := List.length_eq_zero_iff.1 (by omega)
    obtain rfl : r = [] := List.length_eq_zero_iff.1 (by omega)
    simp

def queueing (i : UInt64) (s : Bool) (f : Floor) : List Task :=
  line i s f.upcoming ++ (f.chain i).filter (Task.ofKind i s)

lemma filter_append_comm {t : Task} {l : List Task} (h : t.ofKind i s = true → l = []) :
    [t].filter (Task.ofKind i s) ++ l = l ++ [t].filter (Task.ofKind i s) := by
  cases hk : t.ofKind i s with
  | true => simp [h hk]
  | false => simp [hk]

lemma send_queueing {e : Event} {q' : Queue} (h : Orderly ⟨q, ws, d⟩) (hs : q.Sends e q')
    (ahead : ∀ t, e.made? = some t → e.fed? = none → t.ofKind i s = true → line i s q.pending = []) :
    queueing i s ⟨q', ws, d⟩ = queueing i s ⟨q, ws, d⟩ ++ e.made?.toList.filter (Task.ofKind i s) := by
  cases hs with
  | @join _ t l made serial chain =>
    by_cases hi : t.item = i
    · subst hi
      simp [queueing, upcoming, toRun, Floor.chain, Table.get?_insert, chain, made]
    · simp [queueing, upcoming, toRun, Floor.chain, Table.get?_insert, hi, made, Task.ofKind_of_ne]
  | @start _ t made serial chain =>
    have empty : Floor.chain ⟨q, ws, d⟩ t.item = [] := by
      simp [Floor.chain, chain]
    have hc : Floor.chain
        ⟨{ q with
            sequences := q.sequences.insert t.item []
            immediate := q.immediate ++ [.sequence t.item t] }, ws, d⟩ i =
        Floor.chain ⟨q, ws, d⟩ i := by
      rw [chain_of_insert (f := ⟨q, ws, d⟩) rfl]
      split
      · rename_i hi
        rw [← hi, empty]
      · rfl
    have behind : t.ofKind i s = true →
        line i s q.pending ++ (Floor.chain ⟨q, ws, d⟩ i).filter (Task.ofKind i s) = [] := by
      intro hk
      obtain ⟨-, rfl, rfl⟩ := Task.ofKind_iff.1 hk
      rw [serial, h.line_pending, empty]
      rfl
    rw [queueing, queueing, hc]
    simp only [upcoming, toRun, line_append, line_singleton, Job.task, made, Option.toList_some,
      List.append_assoc, filter_append_comm behind]
  | @ahead _ t made parallel origin =>
    have behind : t.ofKind i s = true →
        line i s q.pending ++ (Floor.chain ⟨q, ws, d⟩ i).filter (Task.ofKind i s) = [] := by
      intro hk
      obtain ⟨-, rfl, rfl⟩ := Task.ofKind_iff.1 hk
      rw [ahead t made origin hk, h.line_chain _ (.inr parallel)]
      rfl
    change line i s (upcoming _) ++ (Floor.chain ⟨q, ws, d⟩ i).filter _ = _
    simp only [queueing, upcoming, toRun, Queue.pushImmediate, line_append, line_singleton, Job.task, made,
      Option.toList_some, List.append_assoc, filter_append_comm behind]
  | @behind x t parallel kind =>
    have behind : t.ofKind i s = true →
        (Floor.chain ⟨q, ws, d⟩ i).filter (Task.ofKind i s) = [] := by
      intro hk
      obtain ⟨-, rfl, rfl⟩ := Task.ofKind_iff.1 hk
      exact h.line_chain _ (.inr parallel)
    change line i s (upcoming _) ++ (Floor.chain ⟨q, ws, d⟩ i).filter _ = _
    simp only [queueing, upcoming, toRun, Queue.pushPending, line_append, line_singleton, Job.task,
      Event.made?, Option.toList_some, List.append_assoc, filter_append_comm behind]

section Hands

variable {l r : List Worker} {v : Worker} {j : Job} {c : Context}

lemma Orderly.pop_line (h : Orderly ⟨q, l ++ v :: r, d⟩) (few : s = true ∨ (l ++ v :: r).length ≤ 1)
    (hand : v.hand = .free) :
    line i s (upcoming ⟨q.pop.2, l ++ { v with hand := .ofPop q.pop.1 } :: r, d⟩) =
      line i s (upcoming ⟨q, l ++ v :: r, d⟩) := by
  have ho := h.line_others few (i := i)
  rcases q.pop_cases h.pending_parallel with ⟨j, t, hi, hq⟩ | ⟨j, t, hi, ht, hq⟩ | hq
  · cases hk : j.task.ofKind i s with
    | true =>
      obtain ⟨-, hr, -, -⟩ := ho (by simp [hand, hi, line_cons_of_pos hk])
      simp [upcoming, toRun, hq, hi, hand, line_cons_of_pos hk, hr]
    | false => simp [upcoming, toRun, hq, hi, hand, line_cons_of_neg hk]
  · cases hk : j.task.ofKind i s with
    | true =>
      obtain ⟨-, hr, -, -⟩ := ho (by simp [hand, hi, ht, line_cons_of_pos hk])
      simp [upcoming, toRun, hq, hi, ht, hand, line_cons_of_pos hk, hr]
    | false => simp [upcoming, toRun, hq, hi, ht, hand, line_cons_of_neg hk]
  · simp [upcoming, toRun, hq, hand]

lemma Orderly.run_line (h : Orderly ⟨q, l ++ v :: r, d⟩) (few : s = true ∨ (l ++ v :: r).length ≤ 1)
    (hand : v.hand = .ready j) (b : Bench) :
    line i s (upcoming ⟨q, l ++ v :: r, d⟩) =
        [j.task].filter (Task.ofKind i s) ++
          line i s (upcoming ⟨q, l ++ ⟨c, .done (j.run b).1⟩ :: r, d⟩) ∧
      line i s (past ⟨q, l ++ v :: r, d⟩) ++ [(j.run b).1.task].filter (Task.ofKind i s) =
        line i s (past ⟨q, l ++ ⟨c, .done (j.run b).1⟩ :: r, d⟩) := by
  have hr : (j.run b).1.task.ofKind i s = j.task.ofKind i s := by
    rw [j.run_task, Task.run_ofKind]
  cases hk : j.task.ofKind i s with
  | true =>
    rw [hk] at hr
    obtain ⟨hl, -, -, hp⟩ := h.line_others few (i := i) (by simp [hand, line_cons_of_pos hk])
    constructor
    · simp [upcoming, toRun, hand, line_cons_of_pos hk, hl, hk]
    · simp [past, toPut, hand, line_cons_of_pos hr, hp, hr]
  | false =>
    rw [hk] at hr
    constructor
    · simp [upcoming, toRun, hand, line_cons_of_neg hk, hk]
    · simp [past, toPut, hand, line_cons_of_neg hr, hr]

lemma Orderly.put_line (h : Orderly ⟨q, l ++ v :: r, d⟩) (few : s = true ∨ (l ++ v :: r).length ≤ 1)
    (hand : v.hand = .done j) :
    line i s (past ⟨q.pushFinished j, l ++ { v with hand := .free } :: r, d⟩) =
      line i s (past ⟨q, l ++ v :: r, d⟩) := by
  cases hk : j.task.ofKind i s with
  | true =>
    obtain ⟨-, -, hl, -⟩ := h.line_others few (i := i) (by simp [hand, line_cons_of_pos hk])
    simp [past, toPut, hand, line_cons_of_pos hk, hl, Queue.pushFinished]
  | false => simp [past, toPut, hand, line_cons_of_neg hk, Queue.pushFinished]

end Hands

variable {f f' : Floor} {e : List Event}

lemma Orderly.shift_queueing (h : f.Orderly) (hs : f.Shift e f')
    (few : s = true ∨ f.workers.length ≤ 1)
    (ahead : ∀ a ∈ e, ∀ t, a.made? = some t → a.fed? = none → t.ofKind i s = true →
      line i s f.queue.pending = []) :
    queueing i s f ++ (e.filterMap Event.made?).filter (Task.ofKind i s) =
      ((e.filterMap Event.ran?).map Prod.fst).filter (Task.ofKind i s) ++ queueing i s f' := by
  obtain ⟨q, ws, d⟩ := f
  cases hs with
  | rest before after => simp [queueing, upcoming, toRun, chain]
  | @send e q' sends =>
    obtain ⟨t, made⟩ := sends.made
    rw [send_queueing h sends (ahead e List.mem_cons_self)]
    simp [made, Event.not_ran_of_made made]
  | take before found => simp [queueing, upcoming, toRun, chain]
  | settle duty =>
    simp [queueing, upcoming, toRun, chain, List.filterMap_cons, Event.made?, Event.ran?]
  | @forward left k t r duty next =>
    obtain ⟨serial, rfl⟩ := h.chains k t (by simp [chain, next])
    have first : t.ofKind i s = true → line i s q.pending = [] := by
      intro hk
      obtain ⟨-, rfl, rfl⟩ := Task.ofKind_iff.1 hk
      rw [serial, h.line_pending]
    have after : chain
        ⟨{ q with
            sequences := q.sequences.insert t.item r
            immediate := q.immediate ++ [.sequence t.item t] }, ws, .draining left⟩ i =
        if t.item = i then r else chain ⟨q, ws, d⟩ i := chain_of_insert rfl i
    have hc : (chain ⟨q, ws, d⟩ i).filter (Task.ofKind i s) = [t].filter (Task.ofKind i s) ++
        (if t.item = i then r else chain ⟨q, ws, d⟩ i).filter (Task.ofKind i s) := by
      split
      · rename_i hi
        subst hi
        rw [← List.filter_append]
        simp [chain, next]
      · rename_i hi
        simp [Task.ofKind_of_ne hi]
    rw [queueing, queueing, hc, after]
    simp only [upcoming, toRun, line_append, line_singleton, Job.task, List.filterMap_nil, List.map_nil,
      List.filter_nil, List.append_nil, List.nil_append, List.append_assoc]
    rw [← List.append_assoc (line i s q.pending), ← filter_append_comm first, List.append_assoc]
  | @close left k duty ended =>
    have hc : chain ⟨q.removeSequence k, ws, .draining left⟩ i = chain ⟨q, ws, d⟩ i := by
      rw [chain_of_erase (f := ⟨q, ws, d⟩) rfl]
      split
      · rename_i hi
        rw [← hi, ended]
      · rfl
    rw [queueing, queueing, hc]
    simp [upcoming, toRun, Queue.removeSequence]
  | pop split hand =>
    obtain rfl := split
    rw [queueing, queueing, h.pop_line few hand]
    simp [chain, Queue.pop_sequences h.pending_parallel]
  | @run l r v j b split hand =>
    obtain rfl := split
    rw [queueing, queueing, (h.run_line few hand b (c := (j.run b).2.context)).1]
    simp [chain, Event.made?, Event.ran?]
  | put split hand =>
    obtain rfl := split
    rw [queueing, queueing, put_upcoming hand]
    simp [chain, Queue.pushFinished]

lemma Orderly.shift_line_past (h : f.Orderly) (hs : f.Shift e f')
    (few : s = true ∨ f.workers.length ≤ 1) :
    line i s f.past ++ ((e.filterMap Event.ran?).map Prod.snd).filter (Task.ofKind i s) =
      (e.filterMap Event.settled?).filter (Task.ofKind i s) ++ line i s f'.past := by
  obtain ⟨q, ws, d⟩ := f
  cases hs with
  | rest before after => simp [past, toPut, before.1, after.1]
  | @send e q' sends =>
    obtain ⟨t, made⟩ := sends.made
    have hp : past ⟨q, ws, d⟩ = past ⟨q', ws, d⟩ := by
      cases sends <;> rfl
    rw [hp]
    simp [Event.not_ran_of_made made]
  | take before found => simp [take_past before.1 found]
  | @settle left j duty =>
    obtain rfl := duty
    cases hk : j.task.ofKind i s with
    | true => simp [settle_past, line_cons_of_pos hk, Event.ran?, Event.settled?, hk]
    | false => simp [settle_past, line_cons_of_neg hk, Event.ran?, Event.settled?, hk]
  | forward duty next =>
    obtain rfl := duty
    simp [past, toPut]
  | close duty ended =>
    obtain rfl := duty
    simp [past, toPut, Queue.removeSequence]
  | pop split hand =>
    obtain rfl := split
    simp [pop_past h.pending_parallel hand]
  | @run l r v j b split hand =>
    obtain rfl := split
    rw [← (h.run_line few hand b (c := (j.run b).2.context)).2]
    simp [Event.settled?, Event.ran?]
  | put split hand =>
    obtain rfl := split
    simp [h.put_line few hand]

lemma shift_workers (hs : f.Shift e f') : f'.workers.length = f.workers.length := by
  cases hs with
  | pop split hand => simp [split]
  | run split hand => simp [split]
  | put split hand => simp [split]
  | _ => rfl

lemma Orderly.shift_pending (h : f.Orderly) (hs : f.Shift e f') :
    ∀ j ∈ f'.queue.pending, j ∈ f.queue.pending ∨ ∃ x, .fed x j.task ∈ e := by
  obtain ⟨q, ws, d⟩ := f
  cases hs with
  | send sends =>
    cases sends with
    | @behind x t parallel kind =>
      simp only [Queue.pushPending, List.forall_mem_append, List.forall_mem_singleton]
      exact ⟨fun j hj => .inl hj, .inr ⟨x, List.mem_cons_self⟩⟩
    | _ => exact fun j hj => .inl hj
  | pop split hand => exact fun j hj => .inl (Queue.pop_pending h.pending_parallel hj)
  | _ => exact fun j hj => .inl hj

def Apart (i : UInt64) (s : Bool) (es : List Event) : Prop :=
  s = true ∨ (∀ x t, .fed x t ∈ es → t.ofKind i s = false) ∨ ∀ x t, .bred x t ∈ es → t.ofKind i s = false

lemma Apart.mono {es es' : List Event} (h : Apart i s es) (hs : es' ⊆ es) : Apart i s es' :=
  h.imp_right <| Or.imp (fun h x t ht => h x t (hs ht)) fun h x t ht => h x t (hs ht)

structure InLine (i : UInt64) (s : Bool) (es : List Event) (f : Floor) : Prop where
  made : (es.filterMap Event.made?).filter (Task.ofKind i s) =
    ((es.filterMap Event.ran?).map Prod.fst).filter (Task.ofKind i s) ++ queueing i s f
  ran : ((es.filterMap Event.ran?).map Prod.snd).filter (Task.ofKind i s) =
    (es.filterMap Event.settled?).filter (Task.ofKind i s) ++ line i s f.past

lemma InLine.shift {es : List Event} (h : f.InLine i s es) (ho : f.Orderly) (hs : f.Shift e f')
    (few : s = true ∨ f.workers.length ≤ 1)
    (ahead : ∀ a ∈ e, ∀ t, a.made? = some t → a.fed? = none → t.ofKind i s = true →
      line i s f.queue.pending = []) : f'.InLine i s (es ++ e) where
  made := by
    have hq := ho.shift_queueing hs few ahead
    simp only [List.filterMap_append, List.map_append, List.filter_append, h.made, List.append_assoc, hq]
  ran := by
    have hp := ho.shift_line_past hs few (i := i)
    simp only [List.filterMap_append, List.map_append, List.filter_append, h.ran, List.append_assoc, hp]

lemma Apart.line_pending {es : List Event} (h : Apart i s es) (ho : f.Orderly)
    (fed : ∀ j ∈ f.queue.pending, ∃ x, .fed x j.task ∈ es) (proper : ∀ a ∈ es, a.Proper) :
    ∀ a ∈ es, ∀ t, a.made? = some t → a.fed? = none → t.ofKind i s = true →
      line i s f.queue.pending = [] := by
  intro a ha t made origin hk
  rcases h with rfl | h | h
  · exact ho.line_pending
  · refine List.filter_eq_nil_iff.2 fun u hu => ?_
    obtain ⟨j, hj, rfl⟩ := List.mem_map.1 hu
    obtain ⟨x, hx⟩ := fed j hj
    simp [h x j.task hx]
  · cases a with
    | bred x u =>
      obtain rfl : u = t := by simpa [Event.made?] using made
      simp [h x u ha] at hk
    | tried u =>
      obtain rfl : u = t := by simpa [Event.made?] using made
      have hu : u.isTest = true := proper _ ha
      simp [Task.ofKind, hu] at hk
    | fed x u => simp [Event.fed?] at origin
    | ran u d => simp [Event.made?] at made
    | settled u o => simp [Event.made?] at made

end Floor

namespace Workshop

variable {c : ManagerConfig} {m : Manager} {n : Nat} {as : List Act} {es : List Event} {w : Workshop}
  {i : UInt64} {s : Bool}

lemma Course.inLine (hm : Manager.start c = .ok m) (h : Course (opening m n) as es w)
    (few : s = true ∨ n ≤ 1) (apart : Floor.Apart i s es) : w.floor.InLine i s es := by
  have key := h.floor_induction
    (P := fun es f => f.Orderly ∧ f.workers.length = n ∧
      (∀ j ∈ f.queue.pending, ∃ x, .fed x j.task ∈ es) ∧
      ((∀ a ∈ es, a.Proper) → Floor.Apart i s es → f.InLine i s es))
    ⟨opening_orderly hm, by simp [opening, floor], by simp [opening, floor, Manager.start_eq hm],
      fun _ _ => ?_⟩ ?_
  · exact key.2.2.2 h.proper apart
  · constructor
    · simp [Floor.queueing, opening_upcoming hm, Floor.chain, opening_sequences hm, Table.get?, Table.lookIn]
    · simp [opening_past hm]
  · rintro es f e f' ⟨ho, hn, hp, hl⟩ hs
    have hp' : ∀ j ∈ f'.queue.pending, ∃ x, .fed x j.task ∈ es ++ e := by
      intro j hj
      rcases ho.shift_pending hs j hj with hj | ⟨x, hx⟩
      · obtain ⟨x, hx⟩ := hp j hj
        exact ⟨x, List.mem_append_left _ hx⟩
      · exact ⟨x, List.mem_append_right _ hx⟩
    refine ⟨ho.shift hs, (Floor.shift_workers hs).trans hn, hp', fun proper apart => ?_⟩
    have hl := hl (fun a ha => proper a (List.mem_append_left _ ha))
      (apart.mono (List.subset_append_left _ _))
    refine hl.shift ho hs (hn ▸ few) fun a ha => ?_
    refine apart.line_pending ho (fun j hj => ?_) proper a (List.mem_append_right _ ha)
    obtain ⟨x, hx⟩ := hp j hj
    exact ⟨x, List.mem_append_left _ hx⟩

end Workshop

end ItemPipeline
