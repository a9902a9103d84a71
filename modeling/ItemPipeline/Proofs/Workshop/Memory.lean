import ItemPipeline.Proofs.Workshop.Ledger
import ItemPipeline.Proofs.Workshop.Order

/-!
What the editions remember. The runs on one edition, in the order in which they happen, have the results
that its rules give for their values one after another, and leave the history that these values leave.
-/

namespace ItemPipeline

def runs (k : Nat) (es : List Event) : List (Task × Task) :=
  (es.filterMap Event.ran?).filter fun p => p.1.uses k

def inputs (k : Nat) (es : List Event) : List (Value × Timestamp) :=
  (runs k es).filterMap fun p => p.1.input?

def outcomes (k : Nat) (es : List Event) : List Value :=
  (runs k es).filterMap fun p => p.2.result?

section Runs

variable {k : Nat} {es es' : List Event}

lemma runs_append : runs k (es ++ es') = runs k es ++ runs k es' := by
  simp [runs]

lemma runs_eq_nil (h : ∀ p ∈ es.filterMap Event.ran?, p.1.uses k = false) : runs k es = [] := by
  simpa [runs, List.filter_eq_nil_iff] using h

end Runs

namespace Workshop

variable {c : ManagerConfig} {m : Manager} {n : Nat} {as : List Act} {es : List Event} {w w' : Workshop}
  {a : Act} {e : List Event}

lemma Course.ran_made (hm : Manager.start c = .ok m) (h : Course (opening m n) as es w) :
    ∀ p ∈ es.filterMap Event.ran?, p.1 ∈ es.filterMap Event.made? := by
  intro p hp
  have hb := (h.balanced hm).made
  have hl : p.1 ∈ ((es.filterMap Event.made? : List Task) : Multiset Task) := by
    rw [hb]
    exact Multiset.mem_add.2 (.inl (Multiset.mem_coe.2 (List.mem_map_of_mem hp)))
  exact Multiset.mem_coe.1 hl

lemma Course.settled_ran (hm : Manager.start c = .ok m) (h : Course (opening m n) as es w) :
    ∀ d ∈ es.filterMap Event.settled?, ∃ p ∈ es.filterMap Event.ran?, p.2 = d := by
  intro d hd
  have hl : d ∈ (((es.filterMap Event.ran?).map Prod.snd : List Task) : Multiset Task) := by
    rw [(h.balanced hm).ran]
    exact Multiset.mem_add.2 (.inl (Multiset.mem_coe.2 hd))
  exact List.mem_map.1 (Multiset.mem_coe.1 hl)

lemma Course.made_uses (hm : Manager.start c = .ok m) (h : Course (opening m n) as es w) {i : UInt64}
    {e : Edition} (hi : (i, e) ∈ w.issued) {t : Task} (ht : t ∈ es.filterMap Event.made?)
    (hu : t.uses e.number = true) :
    t.isSerial = e.rules.isSerial ∧ ∃ v, t.valueTask? = some v ∧ v.edition = e := by
  obtain ⟨v, hv, hn⟩ := Task.uses_iff.1 hu
  obtain ⟨⟨k, hk⟩, hs⟩ := h.genuine hm t ht v hv
  obtain ⟨-, rfl⟩ := Prod.ext_iff.1 ((h.registered hm).eq_of_number hk hi hn)
  exact ⟨hs, v, hv, rfl⟩

lemma Turn.still (h : Turn w a e w') (ha : a ≠ .run) :
    e.filterMap Event.ran? = [] ∧ w'.manager.histories = w.manager.histories ∧
      w'.workers.map Worker.context = w.workers.map Worker.context := by
  cases h with
  | update i r idle =>
    unfold Manager.updateItem
    split <;> exact ⟨rfl, rfl, rfl⟩
  | feed i v t o idle =>
    unfold Manager.enqueue
    split <;> exact ⟨by simp [Event.ran?], rfl, rfl⟩
  | tryItem i v now idle =>
    unfold Manager.test
    split <;> exact ⟨by simp [Event.ran?], rfl, rfl⟩
  | settle duty =>
    rw [w.manager.settleTask_eq]
    exact ⟨by simp [List.filterMap_cons, Event.ran?], rfl, rfl⟩
  | advance duty =>
    rw [w.manager.advance_eq]
    exact ⟨rfl, rfl, rfl⟩
  | pop split hand => exact ⟨rfl, rfl, by simp [split]⟩
  | put split hand => exact ⟨rfl, rfl, by simp [split]⟩
  | run split hand result => exact absurd rfl ha
  | _ => exact ⟨rfl, rfl, rfl⟩

/-- Editions remember what their runs have left, and workers have kept nothing that changes a result. -/
structure Recalled (es : List Event) (w : Workshop) : Prop where
  contexts : ∀ v ∈ w.workers, v.context.Sound
  fresh : ∀ k, w.manager.editions ≤ k → w.manager.histories.get? k = none
  results : ∀ i e, (i, e) ∈ w.issued →
    outcomes e.number es = e.rules.results .empty (inputs e.number es)
  memory : ∀ i e, (i, e) ∈ w.issued → 0 < e.rules.historyCount →
    w.manager.histories.of e = e.rules.memory .empty (inputs e.number es)

lemma Recalled.still (h : w.Recalled es) (ht : Turn w a e w') (ha : a ≠ .run)
    (unused : ∀ k, w.manager.editions ≤ k → runs k es = []) : w'.Recalled (es ++ e) := by
  obtain ⟨he, hh, hw⟩ := ht.still ha
  obtain ⟨hk, -, hi⟩ := ht.issues
  have hr (k : Nat) : runs k (es ++ e) = runs k es := by
    rw [runs_append, (runs_eq_nil (by simp [he]) : runs k e = []), List.append_nil]
  refine ⟨fun v hv => ?_, fun k hk' => ?_, fun i x hx => ?_, fun i x hx hc => ?_⟩
  · have hv := List.mem_map_of_mem (f := Worker.context) hv
    rw [hw] at hv
    obtain ⟨u, hu, hc⟩ := List.mem_map.1 hv
    exact hc ▸ h.contexts u hu
  · rw [hh]
    exact h.fresh k (Nat.le_trans hk hk')
  · simp only [outcomes, inputs, hr]
    rcases hi _ hx with hx | hx
    · exact h.results i x hx
    · have hu : runs x.number es = [] := unused _ hx
      simp [hu, RuleSet.results]
  · simp only [inputs, hr, hh]
    rcases hi _ hx with hx | hx
    · exact h.memory i x hx hc
    · have hu : runs x.number es = [] := unused _ hx
      simp [hu, RuleSet.memory, Histories.of_eq_empty (h.fresh _ hx)]

lemma Recalled.history_eq (h : w.Recalled es) {i : UInt64} {v : ValueTask} (hi : (i, v.edition) ∈ w.issued) :
    v.history w.manager.histories = v.rules.memory .empty (inputs v.edition.number es) := by
  unfold ValueTask.history
  split
  · rename_i hc
    exact h.memory i v.edition hi hc
  · -- nothing is kept for these rules, and nothing is what they would leave
    rename_i hc
    rw [RuleSet.memory_of_forgetful _ (by omega)]

section Run

variable {t : Task} {b : Bench}

lemma runs_ran_of_uses {k : Nat} (hu : t.uses k = true) (d : Task) :
    runs k (es ++ [.ran t d]) = runs k es ++ [(t, d)] := by
  simp [runs, Event.ran?, hu]

lemma runs_ran_of_not_uses {k : Nat} (hu : t.uses k = false) (d : Task) :
    runs k (es ++ [.ran t d]) = runs k es := by
  simp [runs, Event.ran?, hu]

lemma Recalled.run_uses (h : w.Recalled es) (hb : b.context.Sound) (hh : b.histories = w.manager.histories)
    {i : UInt64} {v : ValueTask} (hv : t.valueTask? = some v) (hi : (i, v.edition) ∈ w.issued) :
    outcomes v.edition.number (es ++ [.ran t (t.run b).1]) =
        v.rules.results .empty (inputs v.edition.number (es ++ [.ran t (t.run b).1])) ∧
      (0 < v.rules.historyCount → (t.run b).2.histories.of v.edition =
        v.rules.memory .empty (inputs v.edition.number (es ++ [.ran t (t.run b).1]))) := by
  have hu : t.uses v.edition.number = true := by simp [Task.uses, hv]
  have hin : inputs v.edition.number (es ++ [.ran t (t.run b).1]) =
      inputs v.edition.number es ++ [v.input] := by
    simp [inputs, runs_ran_of_uses hu, Task.input?, hv]
  have hout : outcomes v.edition.number (es ++ [.ran t (t.run b).1]) =
      outcomes v.edition.number es ++ [(v.run b).1.result] := by
    simp [outcomes, runs_ran_of_uses hu, Task.result?, t.run_valueTask?, hv]
  have hist : v.history b.histories = v.rules.memory .empty (inputs v.edition.number es) := by
    rw [hh, h.history_eq hi]
  rw [hin, hout]
  constructor
  · have ho : outcomes v.edition.number es = v.rules.results .empty (inputs v.edition.number es) :=
      h.results i v.edition hi
    rw [RuleSet.results_snoc, ho, v.run_result b hb, hist]
  · intro hc
    rw [t.run_histories_of_value b hv, v.run_histories b hb, RuleSet.memory_snoc, hist, ValueTask.keep,
      if_pos hc, Histories.of_set, if_pos rfl]

lemma Recalled.run_other (h : w.Recalled es) (hh : b.histories = w.manager.histories) {i : UInt64}
    {x : Edition} (hi : (i, x) ∈ w.issued) (hu : t.uses x.number = false) :
    outcomes x.number (es ++ [.ran t (t.run b).1]) =
        x.rules.results .empty (inputs x.number (es ++ [.ran t (t.run b).1])) ∧
      (0 < x.rules.historyCount → (t.run b).2.histories.of x =
        x.rules.memory .empty (inputs x.number (es ++ [.ran t (t.run b).1]))) := by
  simp only [outcomes, inputs, runs_ran_of_not_uses hu]
  refine ⟨h.results i x hi, fun hc => ?_⟩
  rw [Histories.of, t.run_histories_get? b hu, hh]
  exact h.memory i x hi hc

lemma Recalled.run (h : w.Recalled es) (hr : w.Registered) (ht : Turn w .run e w')
    (known : ∀ t d, .ran t d ∈ e → ∀ v, t.valueTask? = some v → ∃ k, (k, v.edition) ∈ w.issued) :
    w'.Recalled (es ++ e) := by
  cases ht with
  | @run l r v j done b split hand result =>
    have hc : v.context.Sound := h.contexts v (by simp [split])
    have hd : done.task = (j.task.run ⟨v.context, w.manager.histories⟩).1 := by
      rw [← j.run_task, result]
    have hb : b = (j.task.run ⟨v.context, w.manager.histories⟩).2 := by
      rw [← j.run_bench, result]
    have key (i : UInt64) (x : Edition) (hx : (i, x) ∈ w.issued) :
        outcomes x.number (es ++ [.ran j.task done.task]) =
            x.rules.results .empty (inputs x.number (es ++ [.ran j.task done.task])) ∧
          (0 < x.rules.historyCount → b.histories.of x =
            x.rules.memory .empty (inputs x.number (es ++ [.ran j.task done.task]))) := by
      rw [hd, hb]
      cases hu : j.task.uses x.number with
      | false => exact h.run_other rfl hx hu
      | true =>
        obtain ⟨u, hv, hn⟩ := Task.uses_iff.1 hu
        obtain ⟨k, hk⟩ := known j.task done.task List.mem_cons_self u hv
        obtain ⟨-, rfl⟩ := Prod.ext_iff.1 (hr.eq_of_number hk hx hn)
        exact h.run_uses hc rfl hv hx
    refine ⟨?_, fun k hk => ?_, fun i x hx => (key i x hx).1, fun i x hx => (key i x hx).2⟩
    · have hs := h.contexts
      simp only [split, List.forall_mem_append, List.forall_mem_cons] at hs ⊢
      exact ⟨hs.1, hb ▸ j.task.run_context _ hc, hs.2.2⟩
    · have hu : j.task.uses k = false := by
        rw [← Bool.not_eq_true]
        intro hu
        obtain ⟨u, hv, rfl⟩ := Task.uses_iff.1 hu
        obtain ⟨i, hi⟩ := known j.task done.task List.mem_cons_self u hv
        exact Nat.not_lt.2 hk (hr.bound _ hi)
      rw [hb, j.task.run_histories_get? _ hu]
      exact h.fresh k hk

end Run

lemma opening_recalled (hm : Manager.start c = .ok m) : (opening m n).Recalled [] := by
  obtain rfl := Manager.start_eq hm
  refine ⟨fun v hv => ?_, fun k _ => rfl, by simp [opening], by simp [opening]⟩
  rw [List.eq_of_mem_replicate hv]
  exact Context.sound_empty

lemma Course.recalled (hm : Manager.start c = .ok m) (h : Course (opening m n) as es w) : w.Recalled es := by
  induction h with
  | nil => exact opening_recalled hm
  | @snoc as es e w w' a hc ht ih =>
    by_cases ha : a = .run
    · subst ha
      refine ih.run (hc.registered hm) ht fun t d hd v hv => ?_
      have h := hc.snoc ht
      have hmade := h.ran_made hm (t, d) (List.mem_filterMap.2 ⟨_, List.mem_append_right _ hd, rfl⟩)
      rw [← (ht.table rfl).2.2]
      exact (h.genuine hm t hmade v hv).1
    · refine ih.still ht ha fun k hk => runs_eq_nil fun p hp => ?_
      rw [← Bool.not_eq_true]
      intro hu
      obtain ⟨v, hv, rfl⟩ := Task.uses_iff.1 hu
      obtain ⟨i, known⟩ := (hc.genuine hm p.1 (hc.ran_made hm p hp) v hv).1
      exact Nat.not_lt.2 hk ((hc.registered hm).bound _ known)

lemma filter_of_imp {α : Type} {p q : α → Bool} {l : List α} (h : ∀ a ∈ l, q a = true → p a = true) :
    (l.filter p).filter q = l.filter q := by
  rw [List.filter_filter]
  refine List.filter_congr fun a ha => ?_
  cases hq : q a with
  | false => rfl
  | true => simp [h a ha hq]

lemma Course.runs_prefix (hm : Manager.start c = .ok m) (h : Course (opening m n) as es w) {i : UInt64}
    {e : Edition} (hi : (i, e) ∈ w.issued) (own : w.Owned i e.number es) (hs : e.rules.isSerial = true) :
    (runs e.number es).map Prod.fst <+: (es.filterMap Event.made?).filter (Task.uses e.number) := by
  have hk : ∀ t ∈ es.filterMap Event.made?, t.uses e.number = true → t.ofKind i true = true := by
    intro t ht hu
    obtain ⟨serial, -⟩ := h.made_uses hm hi ht hu
    exact Task.ofKind_true_iff.2 ⟨serial.trans hs, own.tasks t ht hu⟩
  have hr : ∀ t ∈ (es.filterMap Event.ran?).map Prod.fst,
      t.uses e.number = true → t.ofKind i true = true := by
    intro t ht
    obtain ⟨p, hp, rfl⟩ := List.mem_map.1 ht
    exact hk p.1 (h.ran_made hm p hp)
  have hl : (runs e.number es).map Prod.fst =
      ((es.filterMap Event.ran?).map Prod.fst).filter (Task.uses e.number) := by
    rw [List.filter_map]
    rfl
  have hp := (h.inLine hm (.inl rfl) (.inl rfl) (i := i)).made
  rw [hl, ← filter_of_imp hk, ← filter_of_imp hr, hp]
  exact (List.prefix_append _ _).filter _

/-- No more than one serial task of an item is under way at a time, all others wait for it in its
sequence; they are run in the order in which they are made, and handled in the order in which they are
run, each with the answer for the result of its run. An edition that remembers values, as long as no other item
is restored with it, has its own item's serial tasks run on it only. One after another they have the results that its rules give for their values
from the empty history on, and leave it the history that these leave; no other task reads or changes this
history. -/
theorem serial_tasks_linear (hm : Manager.start c = .ok m) (h : Course (opening m n) as es w) (i : UInt64) :
    (Floor.line i true w.floor.jobs).length ≤ 1 ∧
    ((es.filterMap Event.ran?).map Prod.fst).filter (Task.ofKind i true) <+:
      (es.filterMap Event.made?).filter (Task.ofKind i true) ∧
    (es.filterMap Event.settled?).filter (Task.ofKind i true) <+:
      ((es.filterMap Event.ran?).map Prod.snd).filter (Task.ofKind i true) ∧
    (∀ t d, .ran t d ∈ es → ∃ b, d = (t.run b).1) ∧
    (∀ t o, .settled t o ∈ es → o = [t.answer]) ∧
    ∀ e, (i, e) ∈ w.issued → (∀ x, .restore x ∈ as → x.edition.number = e.number → x.id = i) →
      0 < e.rules.historyCount →
      (∀ t ∈ es.filterMap Event.made?, t.uses e.number = true →
        t.ofKind i true = true ∧ ∃ v, t.valueTask? = some v ∧ v.edition = e) ∧
      (runs e.number es).map Prod.fst <+: (es.filterMap Event.made?).filter (Task.uses e.number) ∧
      outcomes e.number es = e.rules.results .empty (inputs e.number es) ∧
      w.manager.histories.of e = e.rules.memory .empty (inputs e.number es) ∧
      ∀ (t : Task) (b : Bench) (x : History), t.uses e.number = false →
        (t.run b).2.histories.of e = b.histories.of e ∧
          (t.run ⟨b.context, b.histories.set e x⟩).1 = (t.run b).1 := by
  have ho := h.orderly hm
  have hl := h.inLine hm (.inl rfl) (.inl rfl) (i := i)
  refine ⟨?_, ?_, ?_, fun t d => h.proper _, fun t o => h.proper _, fun e hi own hc => ?_⟩
  · have hcount := ho.carried i
    have hb := Bool.toNat_le (w.floor.queue.sequences.contains i)
    rw [Floor.length_line_true ho.jobs]
    rw [Floor.carried, List.count_append] at hcount
    exact Nat.le_trans (Nat.le_add_right _ _) (hcount ▸ hb)
  · rw [hl.made]
    exact List.prefix_append _ _
  · rw [hl.ran]
    exact List.prefix_append _ _
  · have hr := h.recalled hm
    have ho := h.owned hm hi own
    have hs : e.rules.isSerial = true := by simp [RuleSet.isSerial, RuleSet.mode, hc]
    refine ⟨fun t ht hu => ?_, h.runs_prefix hm hi ho hs, hr.results i e hi, hr.memory i e hi hc,
      fun t b x hu => ⟨?_, t.run_histories_set b hu x⟩⟩
    · obtain ⟨serial, hv⟩ := h.made_uses hm hi ht hu
      exact ⟨Task.ofKind_true_iff.2 ⟨serial.trans hs, ho.tasks t ht hu⟩, hv⟩
    · rw [Histories.of, t.run_histories_get? b hu]
      rfl

theorem serial_tasks_linear_of_change :
    ∃ as es w x, Course (opening { batchSize := 256, queue := { workers := 3 } } 1) as es w ∧
      .remove 7 ∈ as ∧ .restore x ∈ as ∧ (7, x.edition) ∈ w.issued ∧
      (∀ y, .restore y ∈ as → y.edition.number = x.edition.number → y.id = 7) ∧
      0 < x.edition.rules.historyCount ∧ inputs x.edition.number es = [(.uint64 3, ⟨1⟩), (.uint64 5, ⟨2⟩)] ∧
      outcomes x.edition.number es = [.none, .uint64 2] ∧
      outcomes x.edition.number es = x.edition.rules.results .empty (inputs x.edition.number es) ∧
      w.manager.histories.of x.edition = x.edition.rules.memory .empty (inputs x.edition.number es) := by
  let x : Item := { id := 7, host := 1, edition := ⟨0, { valueType := .uint64, steps := [{ kind := .deltaValue }] }⟩ }
  let t : ValueTask := { item := 7, host := 1, edition := x.edition, value := .uint64 3, time := ⟨1⟩ }
  let t' : ValueTask := { item := 7, host := 1, edition := x.edition, value := .uint64 5, time := ⟨2⟩ }
  let d : ValueTask := { t with value := .none }
  let d' : ValueTask := { t' with value := .none, result := .uint64 2 }
  let as : List Act :=
    [.add 7 1 x.rules, .feed 7 (.uint64 3) ⟨1⟩ {}, .pop, .run, .put, .remove 7, .restore x,
      .feed 7 (.uint64 5) ⟨2⟩ {}, .drain 1, .take, .settle, .advance, .pop, .run]
  let es : List Event :=
    [.fed x (.serialValue t), .ran (.serialValue t) (.serialValue d), .fed x (.serialValue t'),
      .settled (.serialValue d) [(Task.serialValue d).answer], .ran (.serialValue t') (.serialValue d')]
  have queued := (Course.nil : Course (opening { batchSize := 256, queue := { workers := 3 } } 1) [] [] _)
    |>.snoc (.add 7 1 x.rules rfl)
    |>.snoc (.feed 7 (.uint64 3) ⟨1⟩ {} rfl)
    |>.snoc (.pop (l := []) (r := []) (v := {}) rfl rfl)
    |>.snoc (.run (l := []) (r := []) rfl rfl rfl)
    |>.snoc (.put (l := []) (r := []) rfl rfl)
    |>.snoc (.remove 7 rfl)
  have first : Course (opening { batchSize := 256, queue := { workers := 3 } } 1) (as.take 6) (es.take 2)
      { manager :=
          { batchSize := 256, editions := 1, queued := 1, inFlight := 1
            histories := ⟨[(0, ⟨[⟨0, ⟨.uint64 3, ⟨1⟩⟩⟩]⟩)]⟩
            queue := { workers := 3, finished := [.sequence 7 (.serialValue d)], sequences := ⟨[(7, [])]⟩ } }
        workers := [{}], issued := [(7, x.edition)] } := queued
  have second := first
    |>.snoc (.restore x rfl ⟨7, List.mem_singleton_self _⟩)
    |>.snoc (.feed 7 (.uint64 5) ⟨2⟩ {} rfl)
    |>.snoc (.drain 1 rfl)
    |>.snoc (.take rfl rfl)
    |>.snoc (.settle rfl)
    |>.snoc (.advance rfl)
    |>.snoc (.pop (l := []) (r := []) rfl rfl)
    |>.snoc (.run (l := []) (r := []) rfl rfl rfl)
  have own : ∀ y, .restore y ∈ as → y.edition.number = x.edition.number → y.id = 7 := by
    intro y hy _
    obtain rfl : y = x := by simpa [as] using hy
    rfl
  obtain ⟨-, -, results, memory, -⟩ :=
    (serial_tasks_linear (c := {}) rfl (second : Course _ as es _) 7).2.2.2.2.2 x.edition (List.mem_singleton_self _)
      own (by decide)
  exact ⟨as, es, _, x, second, by simp [as], by simp [as], List.mem_singleton_self _, own, by decide, rfl, rfl, results,
    memory⟩

end Workshop

end ItemPipeline
