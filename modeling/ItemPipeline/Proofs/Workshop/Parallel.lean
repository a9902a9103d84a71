import ItemPipeline.Proofs.Workshop.Memory

/-!
Parallel values. Their rules remember nothing, so it makes no difference which worker runs them, when, and
what runs before, between or beside them.
-/

namespace ItemPipeline

lemma RuleSet.forgetful_of_parallel {r : RuleSet} (hr : r.isSerial = false) : r.historyCount = 0 := by
  by_contra remembers
  simp [isSerial, mode, Nat.pos_of_ne_zero remembers] at hr

namespace ValueTask

variable {v : ValueTask} (hv : v.isSerial = false) (b : Bench)
include hv

lemma run_of_parallel : v.run b = ((v.run {}).1, b) := by
  have forgetful := RuleSet.forgetful_of_parallel hv
  obtain ⟨same, context⟩ := v.rules.execute_of_forgetful (v.rules.forgetful_iff.1 forgetful) v.cache v.value
    b.context {} v.time v.time (v.history b.histories) (v.history {})
  simp only [run, keep, forgetful, Nat.lt_irrefl, gt_iff_lt, if_false, same, context]

lemma result_of_parallel : (v.run b).1.result = (v.rules.once v.input .empty).1 := by
  have forgetful := RuleSet.forgetful_of_parallel hv
  have none : v.history {} = .empty := by simp [history, forgetful]
  rw [run_of_parallel hv, run_result v {} Context.sound_empty, none]

end ValueTask

namespace Workshop

variable {k : ManagerConfig} {m : Manager} {n : Nat} {as : List Act} {es : List Event} {w : Workshop}

def parallelRuns (i : UInt64) (es : List Event) : List (Task × Task) :=
  (es.filterMap Event.ran?).filter fun p => p.1.ofKind i false

lemma Course.parallel_ran (hm : Manager.start k = .ok m) (h : Course (opening m n) as es w) {i : UInt64}
    {p : Task × Task} (hp : p ∈ parallelRuns i es) :
    ∃ v, p.1.valueTask? = some v ∧ v.isSerial = false ∧ p.2 = (p.1.run {}).1 := by
  obtain ⟨ran, kind⟩ := List.mem_filter.1 hp
  obtain ⟨notTest, -, parallel⟩ := Task.ofKind_iff.1 kind
  have value : p.1.valueTask?.isNone = false := by rw [← Task.isTest_eq_isNone, notTest]
  obtain ⟨v, hv⟩ := Option.isSome_iff_exists.1 (Option.isNone_eq_false_iff.1 value)
  have isSerial : v.isSerial = false := (h.genuine hm p.1 (h.ran_made hm p ran) v hv).2.symm.trans parallel
  obtain ⟨b, done⟩ := h.of_ran ran
  refine ⟨v, hv, isSerial, done.trans (Task.run_fst_congr notTest fun v' hv' => ?_)⟩
  obtain rfl : v = v' := Option.some.inj (hv.symm.trans hv')
  rw [ValueTask.run_of_parallel isSerial]

lemma Course.parallelRuns_eq (hm : Manager.start k = .ok m) (h : Course (opening m n) as es w) (i : UInt64) :
    parallelRuns i es = ((parallelRuns i es).map Prod.fst).map fun t => (t, (t.run {}).1) := by
  rw [List.map_map]
  refine (List.map_id' _).symm.trans (List.map_congr_left fun p hp => ?_)
  obtain ⟨-, -, -, done⟩ := h.parallel_ran hm hp
  exact Prod.ext rfl done

/-- Rules without memory are pure, and so the values of a parallel item come to the same in whatever order
the workers run them. -/
theorem parallel_values_order_free :
    (∀ r : RuleSet, (∀ s ∈ r.steps, s.kind.hasHistory = false) → ∀ cache input c c' now now' h h',
      (r.execute c cache input now h).1 = (r.execute c' cache input now' h').1 ∧
        (r.execute c cache input now h).2.2 = c) ∧
    ∀ k m n as es w, Manager.start k = .ok m → Course (opening m n) as es w → ∀ i,
      (∀ p ∈ parallelRuns i es, ∃ v, p.1.valueTask? = some v ∧
        p.2.result? = some (v.rules.once v.input .empty).1) ∧
      ∀ k' m' n' as' es' w', Manager.start k' = .ok m' → Course (opening m' n') as' es' w' →
        ((parallelRuns i es).map Prod.fst).Perm ((parallelRuns i es').map Prod.fst) →
        (parallelRuns i es).Perm (parallelRuns i es') := by
  refine ⟨fun r hr => r.execute_of_forgetful hr, fun k m n as es w hm h i => ⟨fun p hp => ?_, ?_⟩⟩
  · obtain ⟨v, hv, parallel, done⟩ := h.parallel_ran hm hp
    refine ⟨v, hv, ?_⟩
    rw [done, Task.result?, Task.run_valueTask?, hv, Option.map_some, Option.map_some,
      ValueTask.result_of_parallel parallel]
  · intro k' m' n' as' es' w' hm' h' perm
    rw [h.parallelRuns_eq hm, h'.parallelRuns_eq hm']
    exact perm.map _

theorem parallel_values_order_free_of_swap :
    ∃ (r : RuleSet) (es es' : List Event), (∀ s ∈ r.steps, s.kind.hasHistory = false) ∧
      (r.execute {} none (.text " b ") ⟨1⟩ .empty).1 = (r.execute {} none (.text " b ") ⟨9⟩ .empty).1 ∧
      (∃ as w, Course (opening { batchSize := 256, queue := { workers := 3 } } 2) as es w) ∧
      (∃ as w, Course (opening { batchSize := 256, queue := { workers := 3 } } 2) as es' w) ∧
      (parallelRuns 7 es).map (fun p => p.2.result?) = [some (.text "a"), some (.text "b")] ∧
      (parallelRuns 7 es').map (fun p => p.2.result?) = [some (.text "b"), some (.text "a")] ∧
      (parallelRuns 7 es).Perm (parallelRuns 7 es') := by
  let r : RuleSet := { steps := [{ kind := .trim, params := " " }] }
  have forgetful : ∀ s ∈ r.steps, s.kind.hasHistory = false := by decide
  have queued := (Course.nil : Course (opening { batchSize := 256, queue := { workers := 3 } } 2) [] [] _)
    |>.snoc (.add 7 0 r rfl)
    |>.snoc (.feed 7 (.text " a ") ⟨1⟩ {} rfl)
    |>.snoc (.feed 7 (.text " b ") ⟨2⟩ {} rfl)
    |>.snoc (.pop (l := []) (r := [{}]) (v := {}) rfl rfl)
    |>.snoc (.pop (l := [_]) (r := []) (v := {}) rfl rfl)
  have h := queued
    |>.snoc (.run (l := []) (r := [_]) rfl rfl rfl)
    |>.snoc (.run (l := [_]) (r := []) rfl rfl rfl)
  have h' := queued
    |>.snoc (.run (l := [_]) (r := []) rfl rfl rfl)
    |>.snoc (.run (l := []) (r := [_]) rfl rfl rfl)
  obtain ⟨pure, order⟩ := parallel_values_order_free
  have perm := (order {} _ _ _ _ _ rfl h 7).2 {} _ _ _ _ _ rfl h' (.swap _ _ _)
  exact ⟨r, _, _, forgetful, (pure r forgetful none _ {} {} _ _ _ _).1, ⟨_, _, h⟩, ⟨_, _, h'⟩, rfl, rfl, perm⟩

end Workshop

end ItemPipeline
