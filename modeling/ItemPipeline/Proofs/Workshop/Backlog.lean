import ItemPipeline.Proofs.Workshop.Ledger
import ItemPipeline.Proofs.Workshop.Order

/-!
The report of backlogs. It is taken from the lengths of what waits in the sequence table; these come to the
serial tasks of each item that were made and not handled, wherever the first of them is.
-/

namespace ItemPipeline

namespace Queue

def Precedes (a b : UInt64 × ℕ) : Prop :=
  b.2 < a.2 ∨ a.2 = b.2 ∧ a.1 < b.1

/-- All items that have tasks, each with the number of those behind its first: longer backlogs first, and lower
items first among equals. -/
structure IsBacklog (tasks : UInt64 → ℕ) (l : List (UInt64 × ℕ)) : Prop where
  entries : ∀ i k, (i, k) ∈ l ↔ tasks i = k + 1
  ordered : l.Pairwise Precedes

section Order

variable {a b : UInt64 × ℕ}

lemma Precedes.asymm (h : Precedes a b) : ¬Precedes b a := by
  rintro (h' | ⟨he, h'⟩)
  · rcases h with h | ⟨he, -⟩ <;> omega
  · rcases h with h | ⟨-, h⟩
    · omega
    · exact UInt64.lt_asymm h h'

lemma Precedes.ne (h : Precedes a b) : a ≠ b := by
  rintro rfl
  exact h.asymm h

lemma backlogBefore_iff : backlogBefore a b = true ↔ b.2 < a.2 ∨ a.2 = b.2 ∧ a.1 ≤ b.1 := by
  simp [backlogBefore]

lemma backlogBefore_trans (a b c : UInt64 × ℕ) (h : backlogBefore a b = true)
    (h' : backlogBefore b c = true) : backlogBefore a c = true := by
  rw [backlogBefore_iff] at h h' ⊢
  rcases h with h | ⟨he, h⟩ <;> rcases h' with h' | ⟨he', h'⟩
  · exact .inl (h'.trans h)
  · exact .inl (he' ▸ h)
  · exact .inl (he ▸ h')
  · exact .inr ⟨he.trans he', UInt64.le_trans h h'⟩

lemma backlogBefore_total (a b : UInt64 × ℕ) : (backlogBefore a b || backlogBefore b a) = true := by
  rw [Bool.or_eq_true, backlogBefore_iff, backlogBefore_iff]
  rcases lt_trichotomy a.2 b.2 with h | h | h
  · exact .inr (.inl h)
  · exact (UInt64.le_total a.1 b.1).imp (fun hl => .inr ⟨h, hl⟩) fun hl => .inr ⟨h.symm, hl⟩
  · exact .inl (.inl h)

lemma precedes_of_backlogBefore (h : backlogBefore a b = true) (distinct : a.1 ≠ b.1) : Precedes a b :=
  (backlogBefore_iff.1 h).imp_right fun ⟨he, hl⟩ => ⟨he, UInt64.lt_of_le_of_ne hl distinct⟩

end Order

lemma IsBacklog.unique {tasks : UInt64 → ℕ} {l l' : List (UInt64 × ℕ)} (h : IsBacklog tasks l)
    (h' : IsBacklog tasks l') : l = l' := by
  have same : l.Perm l' := by
    rw [List.perm_ext_iff_of_nodup (h.ordered.imp Precedes.ne) (h'.ordered.imp Precedes.ne)]
    exact fun ⟨i, k⟩ => (h.entries i k).trans (h'.entries i k).symm
  exact same.eq_of_pairwise (fun a b _ _ before after => absurd after before.asymm) h.ordered h'.ordered

def sequenceLength (q : Queue) (i : UInt64) : ℕ :=
  ((q.sequences.get? i).map fun l => l.length + 1).getD 0

lemma sequenceLength_eq_succ_iff {q : Queue} {i : UInt64} {k : ℕ} :
    q.sequenceLength i = k + 1 ↔ ∃ l, q.sequences.get? i = some l ∧ l.length = k := by
  rw [sequenceLength]
  cases q.sequences.get? i <;> simp

def lengths (q : Queue) : List (UInt64 × ℕ) :=
  q.sequences.entries.map fun e => (e.1, e.2.length)

section Report

variable {q q' : Queue} (h : q.sequences.keys.Nodup)
include h

lemma lengths_distinct : q.lengths.Pairwise fun a b => a.1 ≠ b.1 := by
  rw [lengths, List.pairwise_map]
  exact List.pairwise_map.1 h

lemma mem_lengths {i : UInt64} {k : ℕ} : (i, k) ∈ q.lengths ↔ q.sequenceLength i = k + 1 := by
  simp only [sequenceLength_eq_succ_iff, lengths, List.mem_map, Prod.mk.injEq, ← Table.mem_entries_iff h]
  constructor
  · rintro ⟨⟨j, l⟩, hl, rfl, rfl⟩
    exact ⟨l, hl, rfl⟩
  · rintro ⟨l, hl, rfl⟩
    exact ⟨(i, l), hl, rfl, rfl⟩

lemma isBacklog_sorted : IsBacklog q.sequenceLength (q.lengths.mergeSort backlogBefore) where
  entries i k := by
    rw [List.mem_mergeSort, mem_lengths h]
  ordered := by
    have sorted := List.pairwise_mergeSort backlogBefore_trans backlogBefore_total q.lengths
    have distinct : (q.lengths.mergeSort backlogBefore).Pairwise fun a b => a.1 ≠ b.1 :=
      (List.mergeSort_perm _ _).symm.pairwise (lengths_distinct h) fun hne => hne.symm
    exact (sorted.and distinct).imp fun ⟨before, hne⟩ => precedes_of_backlogBefore before hne

lemma backlog_of_perm (same : q'.sequences.entries.Perm q.sequences.entries) (limit : ℕ) :
    q'.backlog limit = q.backlog limit := by
  have h' : q'.sequences.keys.Nodup := (same.map Prod.fst).nodup_iff.2 h
  have lengths_eq : q'.sequenceLength = q.sequenceLength := by
    funext i
    have found : q'.sequences.get? i = q.sequences.get? i := by
      ext l
      rw [← Table.mem_entries_iff h', ← Table.mem_entries_iff h, same.mem_iff]
    rw [sequenceLength, sequenceLength, found]
  have sorted := lengths_eq ▸ isBacklog_sorted h'
  exact congrArg (List.take limit) (sorted.unique (isBacklog_sorted h))

end Report

end Queue

namespace Workshop

def serialMade (i : UInt64) (es : List Event) : List Task :=
  (es.filterMap Event.made?).filter (Task.ofKind i true)

def serialSettled (i : UInt64) (es : List Event) : List Task :=
  (es.filterMap Event.settled?).filter (Task.ofKind i true)

/-- The number of serial tasks of an item that were made and not handled. The head of a sequence counts until
what waits behind it has been sent on, which is part of its handling. -/
def outstanding (w : Workshop) (es : List Event) (i : UInt64) : ℕ :=
  (serialMade i es).length + w.duty.sequences.count i - (serialSettled i es).length

variable {c : ManagerConfig} {m : Manager} {n : ℕ} {as : List Act} {es : List Event} {w : Workshop}

lemma Course.length_serialMade (hm : Manager.start c = .ok m) (h : Course (opening m n) as es w) (i : UInt64) :
    (serialMade i es).length + w.duty.sequences.count i =
      (serialSettled i es).length + (w.floor.chain i).length +
        (w.manager.queue.sequences.contains i).toNat := by
  have ho := h.orderly hm
  have hl := h.inLine hm (.inl rfl) (.inl rfl) (i := i)
  -- what was made is waiting or was run, what was run is on its way to the manager or was handled
  have made := congrArg List.length hl.made
  have ran := congrArg List.length hl.ran
  have runs : (((es.filterMap Event.ran?).map Prod.fst).filter (Task.ofKind i true)).length =
      (((es.filterMap Event.ran?).map Prod.snd).filter (Task.ofKind i true)).length := by
    simp only [List.filter_map, List.length_map]
    refine congrArg List.length (List.filter_congr fun p hp => ?_)
    obtain ⟨b, hb⟩ := h.of_ran hp
    rw [Function.comp_apply, Function.comp_apply, hb, Task.run_ofKind]
  have chained : (w.floor.chain i).filter (Task.ofKind i true) = w.floor.chain i :=
    List.filter_eq_self.2 fun t ht => Task.ofKind_true_iff.2 (ho.chains i t ht)
  have heads : (Floor.line i true w.floor.upcoming).length + (Floor.line i true w.floor.past).length =
      Floor.carriers i w.floor.jobs := by
    rw [← Floor.length_line_true ho.jobs, Floor.jobs, Floor.line_append, List.length_append]
  have carried : Floor.carriers i w.floor.jobs + w.duty.sequences.count i =
      (w.manager.queue.sequences.contains i).toNat :=
    List.count_append.symm.trans (ho.carried i)
  simp only [Floor.queueing, List.length_append, chained] at made ran
  simp only [serialMade, serialSettled]
  omega

lemma Course.outstanding_add (hm : Manager.start c = .ok m) (h : Course (opening m n) as es w) (i : UInt64) :
    w.outstanding es i + (serialSettled i es).length =
      (serialMade i es).length + w.duty.sequences.count i := by
  have number := h.length_serialMade hm i
  rw [outstanding]
  omega

lemma Course.outstanding_eq (hm : Manager.start c = .ok m) (h : Course (opening m n) as es w) :
    w.outstanding es = w.manager.queue.sequenceLength := by
  funext i
  have number := h.length_serialMade hm i
  have places : (w.floor.chain i).length + (w.manager.queue.sequences.contains i).toNat =
      w.manager.queue.sequenceLength i := by
    rw [Queue.sequenceLength, Floor.chain, Table.contains]
    change ((w.manager.queue.sequences.get? i).getD []).length + _ = _
    cases w.manager.queue.sequences.get? i <;> rfl
  rw [outstanding]
  omega

/-- At any moment the report names, up to its limit, all items with serial tasks that were made and not handled,
each with the number of these tasks less one, higher numbers first and lower items first among equals. There is
one such list only, and the order in which the table goes through its entries does not show in it. -/
theorem backlog_exact (hm : Manager.start c = .ok m) (h : Course (opening m n) as es w) :
    (∀ i, w.outstanding es i + (serialSettled i es).length =
      (serialMade i es).length + w.duty.sequences.count i) ∧
    (∃ l, Queue.IsBacklog (w.outstanding es) l ∧ (∀ l', Queue.IsBacklog (w.outstanding es) l' → l' = l) ∧
      ∀ limit, w.manager.queue.backlog limit = l.take limit) ∧
    ∀ q : Queue, q.sequences.entries.Perm w.manager.queue.sequences.entries →
      ∀ limit, q.backlog limit = w.manager.queue.backlog limit := by
  have keys : w.manager.queue.sequences.keys.Nodup := (h.balanced hm).keys
  refine ⟨h.outstanding_add hm, ?_, fun q same limit => Queue.backlog_of_perm keys same limit⟩
  have listed := Queue.isBacklog_sorted keys
  rw [h.outstanding_eq hm]
  exact ⟨_, listed, fun l' other => other.unique listed, fun limit => rfl⟩

theorem backlog_exact_of_four :
    ∃ as es w l, Course (opening { batchSize := 256, queue := { workers := 3 } } 1) as es w ∧
      w.duty = .idle ∧ w.outstanding es 7 = 2 ∧ (serialSettled 7 es).length = 1 ∧ w.outstanding es 5 = 2 ∧
      Queue.IsBacklog (w.outstanding es) l ∧ w.manager.queue.backlog 1 = l.take 1 ∧ l.take 1 = [(5, 1)] := by
  have h := (Course.nil : Course (opening { batchSize := 256, queue := { workers := 3 } } 1) [] [] _)
    |>.snoc (.add 7 1 { requestedMode := .serial } rfl)
    |>.snoc (.add 5 1 { requestedMode := .serial } rfl)
    |>.snoc (.feed 7 (.uint64 1) ⟨1⟩ {} rfl)
    |>.snoc (.feed 7 (.uint64 2) ⟨2⟩ {} rfl)
    |>.snoc (.feed 7 (.uint64 3) ⟨3⟩ {} rfl)
    |>.snoc (.feed 5 (.uint64 1) ⟨4⟩ {} rfl)
    |>.snoc (.pop (l := []) (r := []) (v := {}) rfl rfl)
    |>.snoc (.run (l := []) (r := []) rfl rfl rfl)
    |>.snoc (.feed 5 (.uint64 2) ⟨5⟩ {} rfl)
    |>.snoc (.put (l := []) (r := []) rfl rfl)
    |>.snoc (.drain 1 rfl)
    |>.snoc (.take rfl rfl)
    |>.snoc (.settle rfl)
    |>.snoc (.advance rfl)
    |>.snoc (.stop rfl (.inl rfl))
  obtain ⟨-, ⟨l, listed, -, report⟩, -⟩ := backlog_exact (c := {}) rfl h
  have sorted : ([(7, 1), (5, 1)] : List (UInt64 × ℕ)).mergeSort Queue.backlogBefore = [(5, 1), (7, 1)] := by
    simp [List.mergeSort, Queue.backlogBefore]
  exact ⟨_, _, _, l, h, rfl, rfl, rfl, rfl, listed, report 1,
    (report 1).symm.trans (congrArg (List.take 1) sorted)⟩

end Workshop

end ItemPipeline
