import ItemPipeline.Proofs.History
import ItemPipeline.Step.Chain

/-!
What a chain of steps does, step by step. Each executed step finds in its slot what the history before
the run has for it, whatever the order of the entries, and the history after the run holds what the steps
left in their slots.
-/

namespace ItemPipeline

structure Pass where
  index : Nat
  step : Step
  outcome : Step.Outcome

namespace Pass

def result (p : Pass) : StepResult :=
  p.step.resultOf p.outcome.value

def entries (p : Pass) : List HistoryEntry :=
  p.step.keep p.index p.result p.outcome.memory

lemma mem_entries {p : Pass} {e : HistoryEntry} :
    e ∈ p.entries ↔ p.step.kind.hasHistory = true ∧ p.result.value.isError = false ∧
      p.outcome.memory = some e.memory ∧ p.index = e.index := by
  obtain ⟨i, m⟩ := e
  unfold entries Step.keep
  split
  · simp_all
  · simp_all

lemma length_entries_le (p : Pass) : p.entries.length ≤ if p.step.kind.hasHistory then 1 else 0 := by
  unfold entries Step.keep
  cases p.step.kind.hasHistory with
  | false => simp
  | true =>
    split
    · cases p.outcome.memory <;> simp
    · simp

end Pass

/-- The steps that are executed on `v`, from number `i` on. Each works on the value that the one before it
leaves, in its context, and the first one has the cache. -/
inductive Passes (t : ValueType) (now : Timestamp) (slot : Nat → Option Memory) :
    Nat → List Step → Context → Option Cache → Value → List Pass → Prop
  | ended {i : Nat} {c : Context} {cache : Option Cache} {v : Value} : Passes t now slot i [] c cache v []
  | halt {i : Nat} {s : Step} {l : List Step} {c : Context} {cache : Option Cache} {v : Value}
      (stop : s.stopsAt v = true) : Passes t now slot i (s :: l) c cache v []
  | pass {i : Nat} {s : Step} {l : List Step} {c : Context} {cache : Option Cache} {v : Value}
      {o : Step.Outcome} {ps : List Pass} (go : s.stopsAt v = false) (run : s.run c cache t now (slot i) v = o)
      (rest : Passes t now slot (i + 1) l o.context none (s.resultOf o.value).value ps) :
      Passes t now slot i (s :: l) c cache v (⟨i, s, o⟩ :: ps)

def contextAfter (c : Context) : List Pass → Context
  | [] => c
  | p :: ps => contextAfter p.outcome.context ps

def valueAfter (v : Value) : List Pass → Value
  | [] => v
  | p :: ps => valueAfter p.result.value ps

def traceOf (c : Context) (ps : List Pass) : Trace :=
  ⟨ps.map Pass.result, ps.flatMap Pass.entries, contextAfter c ps⟩

def Trace.close (tr : Trace) (v : Value) : Execution × History × Context :=
  (⟨tr.outcome v, tr.results⟩, if (tr.outcome v).isError then .empty else ⟨tr.kept⟩, tr.context)

variable {t : ValueType} {now : Timestamp} {slot : Nat → Option Memory} {i : Nat} {l : List Step}
  {c : Context} {cache : Option Cache} {v : Value} {ps : List Pass}

namespace Passes

lemma exists_passes (t : ValueType) (now : Timestamp) (slot : Nat → Option Memory) (i : Nat) (l : List Step)
    (c : Context) (cache : Option Cache) (v : Value) : ∃ ps, Passes t now slot i l c cache v ps := by
  induction l generalizing i c cache v with
  | nil => exact ⟨[], .ended⟩
  | cons s l ih =>
    cases hs : s.stopsAt v with
    | true => exact ⟨[], .halt hs⟩
    | false =>
      obtain ⟨ps, rest⟩ := ih (i + 1) (s.run c cache t now (slot i) v).context none
        (s.resultOf (s.run c cache t now (slot i) v).value).value
      exact ⟨_, .pass hs rfl rest⟩

lemma runSteps_eq {h : History} (hp : Passes t now slot i l c cache v ps) (hd : h.Distinct)
    (hs : ∀ k, i ≤ k → h.slot k = slot k) : runSteps t now i l c cache h v = traceOf c ps := by
  induction hp generalizing h with
  | ended => rfl
  | halt stop => simp [runSteps, stop, traceOf, contextAfter]
  | @pass i s l c cache v o ps go run rest ih =>
    -- what is taken out of the history belongs to this step, so later ones still find theirs
    have run : s.run c cache t now (h.pop i).1 v = o := by rw [History.pop_fst, hs i (Nat.le_refl i), run]
    have tail := ih (hd.pop i) fun k hk => (hd.slot_pop (by omega)).trans (hs k (by omega))
    simp only [runSteps, go, Bool.false_eq_true, if_false, run, tail]
    rfl

lemma le_index (hp : Passes t now slot i l c cache v ps) : ∀ p ∈ ps, i ≤ p.index := by
  induction hp with
  | ended => simp
  | halt _ => simp
  | pass _ _ _ ih => exact List.forall_mem_cons.2 ⟨Nat.le_refl _, fun p hm => Nat.le_of_succ_le (ih p hm)⟩

lemma getElem?_index (hp : Passes t now slot i l c cache v ps) :
    ∀ p ∈ ps, l[p.index - i]? = some p.step := by
  induction hp with
  | ended => simp
  | halt _ => simp
  | @pass i s l c cache v o ps _ _ rest ih =>
    refine List.forall_mem_cons.2 ⟨by simp, fun p hm => ?_⟩
    have later : p.index - i = p.index - (i + 1) + 1 := by
      have := rest.le_index p hm
      omega
    rw [later, List.getElem?_cons_succ, ih p hm]

lemma entries_sorted (hp : Passes t now slot i l c cache v ps) :
    (ps.flatMap Pass.entries).Pairwise fun e e' => e.index < e'.index := by
  induction hp with
  | ended => exact .nil
  | halt _ => exact .nil
  | @pass i s l c cache v o ps _ _ rest ih =>
    rw [List.flatMap_cons, List.pairwise_append]
    refine ⟨?_, ih, fun e he e' he' => ?_⟩
    · unfold Pass.entries Step.keep
      split
      · cases o.memory <;> simp
      · exact .nil
    · obtain ⟨p, hm, hp'⟩ := List.mem_flatMap.1 he'
      have hi : i = e.index := (Pass.mem_entries.1 he).2.2.2
      have hi' : p.index = e'.index := (Pass.mem_entries.1 hp').2.2.2
      have := rest.le_index p hm
      omega

lemma length_entries_le (hp : Passes t now slot i l c cache v ps) :
    (ps.flatMap Pass.entries).length ≤ l.countP fun s => s.kind.hasHistory := by
  induction hp with
  | ended => simp
  | halt _ => simp
  | @pass i s l c cache v o ps _ _ _ ih =>
    have one := Pass.length_entries_le ⟨i, s, o⟩
    rw [List.flatMap_cons, List.length_append, List.countP_cons, Nat.add_comm]
    exact Nat.add_le_add ih one

end Passes

namespace RuleSet

variable (r : RuleSet) {input : Value}

def source (cache : Option Cache) (input : Value) : Value :=
  match cache with
  | some k => k.value
  | none => input

lemma execute_of_steps (hr : r.steps ≠ []) (h : History) :
    r.execute c cache input now h =
      (runSteps r.valueType now 0 r.steps c cache h (source cache input)).close (source cache input) := by
  have steps : r.steps.isEmpty = false := by simpa using hr
  cases cache <;> simp only [execute, steps, Bool.false_eq_true, if_false] <;> rfl

variable {r}

lemma execute_eq_of_passes {h : History} (hr : r.steps ≠ []) (hd : h.Distinct)
    (hp : Passes r.valueType now h.slot 0 r.steps c cache (source cache input) ps) :
    r.execute c cache input now h = (traceOf c ps).close (source cache input) := by
  rw [r.execute_of_steps hr, hp.runSteps_eq hd fun _ _ => rfl]

lemma execute_congr {h h' : History} (hr : r.steps ≠ []) (hd : h.Distinct) (hd' : h'.Distinct)
    (same : ∀ i, h'.slot i = h.slot i) : r.execute c cache input now h' = r.execute c cache input now h := by
  obtain ⟨ps, hp⟩ := Passes.exists_passes r.valueType now h.slot 0 r.steps c cache (source cache input)
  rw [execute_eq_of_passes hr hd hp, execute_eq_of_passes hr hd' (funext same ▸ hp)]

structure Fits (r : RuleSet) (h : History) : Prop where
  distinct : h.Distinct
  size_le : h.size ≤ r.historyCount
  remembers : ∀ e ∈ h.entries, ∃ s, r.steps[e.index]? = some s ∧ s.kind.hasHistory = true

lemma fits_empty (r : RuleSet) : r.Fits .empty :=
  ⟨History.distinct_empty, Nat.zero_le _, by simp [History.empty]⟩

lemma fits_execute {h : History} (hr : r.steps ≠ []) (hd : h.Distinct) :
    r.Fits (r.execute c cache input now h).2.1 := by
  obtain ⟨ps, hp⟩ := Passes.exists_passes r.valueType now h.slot 0 r.steps c cache (source cache input)
  rw [execute_eq_of_passes hr hd hp]
  dsimp only [Trace.close]
  split
  · exact r.fits_empty
  · refine ⟨?_, hp.length_entries_le, fun e he => ?_⟩
    · exact List.pairwise_map.2 (hp.entries_sorted.imp fun h => Nat.ne_of_lt h)
    · obtain ⟨p, hm, he⟩ := List.mem_flatMap.1 he
      obtain ⟨bears, -, -, hi⟩ := Pass.mem_entries.1 he
      exact ⟨p.step, by simpa [hi] using hp.getElem?_index p hm, bears⟩

/-- The histories that runs leave one after the other, the first with nothing remembered. -/
inductive Leaves (r : RuleSet) : History → Prop
  | start : Leaves r .empty
  | run {h : History} (before : Leaves r h) (c : Context) (cache : Option Cache) (input : Value)
      (now : Timestamp) : Leaves r (r.execute c cache input now h).2.1

lemma Leaves.fits {h : History} (hr : r.steps ≠ []) (hl : r.Leaves h) : r.Fits h := by
  induction hl with
  | start => exact r.fits_empty
  | run _ c cache input now ih => exact fits_execute hr ih.distinct

/-- Of the history before a run only what it has for each step matters. The history after it is empty if the
run comes to an error, and otherwise has, in the order of the steps, an entry for each step that remembers,
has come to no error and has left something in its slot. -/
theorem history_contract (hr : r.steps ≠ []) {h : History} (hd : h.Distinct) (c : Context)
    (cache : Option Cache) (input : Value) (now : Timestamp) :
    (∀ h', h'.Distinct → (∀ i, h'.get? i = h.get? i) →
      r.execute c cache input now h' = r.execute c cache input now h) ∧
    (∀ h', h'.entries.Perm h.entries → r.execute c cache input now h' = r.execute c cache input now h) ∧
    (∃ ps, Passes r.valueType now h.slot 0 r.steps c cache (source cache input) ps ∧
      (r.execute c cache input now h).1.results = ps.map Pass.result ∧
      ((r.execute c cache input now h).1.value.isError = true →
        (r.execute c cache input now h).2.1 = .empty) ∧
      ((r.execute c cache input now h).1.value.isError = false →
        (r.execute c cache input now h).2.1.entries.Pairwise (fun e e' => e.index < e'.index) ∧
        ∀ e, e ∈ (r.execute c cache input now h).2.1.entries ↔
          ∃ p ∈ ps, p.step.kind.hasHistory = true ∧ p.result.value.isError = false ∧
            p.outcome.memory = some e.memory ∧ p.index = e.index)) ∧
    ∀ h', r.Leaves h' → h'.Distinct ∧ h'.size ≤ r.historyCount ∧
      ∀ e ∈ h'.entries, ∃ s, r.steps[e.index]? = some s ∧ s.kind.hasHistory = true := by
  refine ⟨fun h' hd' same => ?_, fun h' perm => ?_, ?_, fun h' hl => ?_⟩
  · exact execute_congr hr hd hd' fun i => congrArg (Option.map HistoryEntry.memory) (same i)
  · have hd' : h'.Distinct := hd.of_perm perm
    exact execute_congr hr hd hd' fun i => hd'.slot_ext hd fun e => perm.mem_iff
  · obtain ⟨ps, hp⟩ := Passes.exists_passes r.valueType now h.slot 0 r.steps c cache (source cache input)
    refine ⟨ps, hp, ?_⟩
    rw [execute_eq_of_passes hr hd hp]
    dsimp only [Trace.close]
    refine ⟨rfl, fun failed => if_pos failed, fun sound => ?_⟩
    rw [if_neg (by simp [sound])]
    refine ⟨hp.entries_sorted, fun e => ?_⟩
    simp only [traceOf, List.mem_flatMap, Pass.mem_entries]
  · have fits := hl.fits hr
    exact ⟨fits.distinct, fits.size_le, fits.remembers⟩

theorem history_contract_of_two :
    ∃ (r : RuleSet) (h : History) (after : History), r.steps ≠ [] ∧ h.Distinct ∧ h.size = 2 ∧
      r.execute {} none (.uint64 9) ⟨5⟩ ⟨h.entries.reverse⟩ = r.execute {} none (.uint64 9) ⟨5⟩ h ∧
      (r.execute {} none (.uint64 9) ⟨5⟩ h).2.1 = after ∧ after.entries.map (·.index) = [0, 2] ∧
      (∃ ps, Passes r.valueType ⟨5⟩ h.slot 0 r.steps {} none (.uint64 9) ps ∧
        ∃ p ∈ ps, p.step.kind.hasHistory = true ∧ p.result.value.isError = false ∧
          p.outcome.memory = some ⟨.uint64 6, ⟨5⟩⟩ ∧ p.index = 2) ∧
      ∃ left, r.Leaves left ∧ left.size = 2 ∧ left.size ≤ r.historyCount := by
  let r : RuleSet := { valueType := .uint64, steps := [
    { kind := .deltaValue }, { kind := .validateNotSupported }, { kind := .throttleValue }] }
  let h : History := ⟨[⟨2, ⟨.uint64 4, ⟨1⟩⟩⟩, ⟨0, ⟨.uint64 3, ⟨1⟩⟩⟩]⟩
  have steps : r.steps ≠ [] := List.cons_ne_nil _ _
  have distinct : h.Distinct := by
    unfold History.Distinct
    decide
  obtain ⟨-, perm, ⟨ps, passes, -, -, sound⟩, leaves⟩ :=
    history_contract steps distinct {} none (.uint64 9) ⟨5⟩
  refine ⟨r, h, _, steps, distinct, rfl, perm ⟨h.entries.reverse⟩ (List.reverse_perm _), rfl, rfl,
    ⟨ps, passes, ?_⟩, ?_⟩
  · exact ((sound rfl).2 ⟨2, ⟨.uint64 6, ⟨5⟩⟩⟩).1 (List.mem_cons_of_mem _ List.mem_cons_self)
  · have once : r.Leaves _ := Leaves.start.run {} none (.uint64 9) ⟨5⟩
    have twice := once.run {} none (.uint64 12) ⟨6⟩
    exact ⟨_, twice, rfl, (leaves _ twice).2.1⟩

end RuleSet

end ItemPipeline
