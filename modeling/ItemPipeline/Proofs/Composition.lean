import ItemPipeline.Proofs.Chain

/-!
Chains put one after the other. The second runs on the value and in the context that the first one leaves,
and finds its own entries of the history as if it stood alone.
-/

namespace ItemPipeline

def lastValue (l : List StepResult) (v : Value) : Value :=
  (l.getLast?.map (·.value)).getD v

lemma lastValue_append (l l' : List StepResult) (v : Value) :
    lastValue (l ++ l') v = lastValue l' (lastValue l v) := by
  unfold lastValue
  rw [List.getLast?_append]
  cases l'.getLast? <;> rfl

lemma lastValue_runSteps_cons {t : ValueType} {now : Timestamp} {i : Nat} {s : Step} {l : List Step} {c : Context}
    {cache : Option Cache} {h : History} {v : Value} {o : Step.Outcome} (go : s.stopsAt v = false)
    (run : s.run c cache t now (h.pop i).1 v = o) : lastValue (runSteps t now i (s :: l) c cache h v).results v =
      lastValue (runSteps t now (i + 1) l o.context none (h.pop i).2 (s.resultOf o.value).value).results
        (s.resultOf o.value).value := by
  simp only [runSteps, go, Bool.false_eq_true, if_false, run]
  exact lastValue_append [_] _ v

namespace Trace

variable (tr : Trace) {v : Value}

lemma outcome_of_sound (sound : (lastValue tr.results v).isError = false) :
    tr.outcome v = lastValue tr.results v := by
  unfold lastValue at sound
  simp only [outcome, sound, Bool.false_and, Bool.false_eq_true, if_false]
  rfl

lemma isError_outcome : (tr.outcome v).isError = (lastValue tr.results v).isError := by
  cases sound : (lastValue tr.results v).isError with
  | false => rw [tr.outcome_of_sound sound, sound]
  | true =>
    unfold outcome
    dsimp only
    split
    · rfl
    · exact sound

lemma outcome_of_handled (handled : tr.results.getLast?.map (·.action) = some .setError ∨
    tr.results.getLast?.map (·.action) = some .forceError) : tr.outcome v = lastValue tr.results v := by
  unfold outcome
  rcases handled with h | h
  · simp [h, lastValue]
  · simp [h, lastValue]

def followedBy (n : Nat) (tail : Trace) : Trace :=
  ⟨tr.results ++ tail.results, tr.kept ++ tail.kept.map (HistoryEntry.raised n), tail.context⟩

variable {tr} {tail : Trace} {n : Nat}

lemma lastValue_followedBy :
    lastValue (tr.followedBy n tail).results v = lastValue tail.results (lastValue tr.results v) :=
  lastValue_append _ _ _

lemma isError_outcome_followedBy :
    ((tr.followedBy n tail).outcome v).isError = (tail.outcome (lastValue tr.results v)).isError := by
  rw [isError_outcome, isError_outcome, lastValue_followedBy]

lemma outcome_followedBy_of_sound (sound : (tail.outcome (lastValue tr.results v)).isError = false) :
    (tr.followedBy n tail).outcome v = tail.outcome (lastValue tr.results v) := by
  have sound' : ((tr.followedBy n tail).outcome v).isError = false := by rw [isError_outcome_followedBy, sound]
  rw [isError_outcome] at sound sound'
  rw [outcome_of_sound _ sound, outcome_of_sound _ sound', lastValue_followedBy]

lemma getLast?_followedBy (ne : tail.results ≠ []) :
    (tr.followedBy n tail).results.getLast? = tail.results.getLast? :=
  List.getLast?_append_of_ne_nil _ ne

lemma outcome_followedBy_of_handled (sound : (lastValue tr.results v).isError = false)
    (failed : (tail.outcome (lastValue tr.results v)).isError = true)
    (handled : (tr.followedBy n tail).results.getLast?.map (·.action) = some .setError ∨
      (tr.followedBy n tail).results.getLast?.map (·.action) = some .forceError) :
    (tr.followedBy n tail).outcome v = tail.outcome (lastValue tr.results v) := by
  have ne : tail.results ≠ [] := by
    intro empty
    rw [isError_outcome, empty] at failed
    exact absurd (failed.symm.trans sound) Bool.noConfusion
  have handled' := handled
  rw [getLast?_followedBy ne] at handled'
  rw [outcome_of_handled _ handled, outcome_of_handled _ handled', lastValue_followedBy]

lemma close_history (sound : (tr.outcome v).isError = false) : (tr.close v).2.1 = ⟨tr.kept⟩ :=
  if_neg (by simp [sound])

lemma close_followedBy_history (sound : (lastValue tr.results v).isError = false)
    (sound' : (tail.outcome (lastValue tr.results v)).isError = false) :
    ((tr.followedBy n tail).close v).2.1.entries =
      (tr.close v).2.1.entries ++ ((tail.close (lastValue tr.results v)).2.1.raised n).entries := by
  rw [close_history (isError_outcome_followedBy.trans sound'), close_history (tr.isError_outcome.trans sound),
    close_history sound']
  rfl

end Trace

variable {t : ValueType} {now : Timestamp} {slot slot' : Nat → Option Memory} {i n : Nat} {l l' : List Step}
  {c : Context} {cache : Option Cache} {v : Value} {ps ps' : List Pass}

lemma valueAfter_eq (v : Value) (ps : List Pass) : valueAfter v ps = lastValue (ps.map Pass.result) v := by
  induction ps generalizing v with
  | nil => rfl
  | cons p ps ih =>
    rw [valueAfter, ih, lastValue, lastValue, List.map_cons, List.getLast?_cons]
    cases (ps.map Pass.result).getLast? <;> rfl

def Pass.raised (n : Nat) (p : Pass) : Pass :=
  { p with index := p.index + n }

lemma map_result_raised (n : Nat) (ps : List Pass) :
    (ps.map (Pass.raised n)).map Pass.result = ps.map Pass.result :=
  List.map_map

lemma entries_raised (n : Nat) (p : Pass) : (p.raised n).entries = p.entries.map (HistoryEntry.raised n) := by
  have result : (p.raised n).result = p.result := rfl
  unfold Pass.entries Step.keep
  rw [result]
  cases h : p.step.kind.hasHistory && !p.result.value.isError with
  | false => simp [Pass.raised, h]
  | true => cases hm : p.outcome.memory <;> simp [Pass.raised, HistoryEntry.raised, h, hm]

lemma contextAfter_append : contextAfter c (ps ++ ps') = contextAfter (contextAfter c ps) ps' := by
  induction ps generalizing c with
  | nil => rfl
  | cons p ps ih => exact ih

lemma contextAfter_raised : contextAfter c (ps.map (Pass.raised n)) = contextAfter c ps := by
  induction ps generalizing c with
  | nil => rfl
  | cons p ps ih => exact ih

lemma traceOf_append : traceOf c (ps ++ ps'.map (Pass.raised n)) =
    (traceOf c ps).followedBy n (traceOf (contextAfter c ps) ps') := by
  simp only [traceOf, Trace.followedBy, List.map_append, map_result_raised, List.flatMap_append,
    List.flatMap_map, entries_raised, List.map_flatMap, contextAfter_append, contextAfter_raised]

namespace Passes

lemma congr (hp : Passes t now slot i l c cache v ps) (hs : ∀ k, i ≤ k → k < i + l.length → slot k = slot' k) :
    Passes t now slot' i l c cache v ps := by
  induction hp with
  | ended => exact .ended
  | halt stop => exact .halt stop
  | @pass i s l c cache v o ps go run rest ih =>
    rw [List.length_cons] at hs
    refine .pass go ?_ (ih fun k hk hl => hs k (by omega) (by omega))
    rw [← hs i (Nat.le_refl i) (by omega), run]

lemma raised (hp : Passes t now (fun k => slot (n + k)) i l c cache v ps) :
    Passes t now slot (i + n) l c cache v (ps.map (Pass.raised n)) := by
  induction hp with
  | ended => exact .ended
  | halt stop => exact .halt stop
  | @pass i s l c cache v o ps go run rest ih =>
    refine .pass go (by rw [Nat.add_comm i n, run]) ?_
    rwa [Nat.add_right_comm] at ih

lemma append (hp : Passes t now slot i l c none v ps)
    (hp' : Passes t now slot (i + l.length) l' (contextAfter c ps) none (valueAfter v ps) ps')
    (sound : (valueAfter v ps).isError = false) : Passes t now slot i (l ++ l') c none v (ps ++ ps') := by
  induction l generalizing i c v ps with
  | nil =>
    cases hp
    exact hp'
  | cons s l ih =>
    cases hp with
    | halt stop =>
      -- the value is no error, so it is one without content, and such a value stops every chain
      have noContent : v.isNone = true := by
        rw [valueAfter] at sound
        simpa [Step.stopsAt, sound] using stop
      cases hp' with
      | ended => exact .halt stop
      | halt _ => exact .halt stop
      | pass go _ _ => simp [Step.stopsAt, valueAfter, noContent] at go
    | pass go run rest =>
      refine .pass go run (ih rest ?_ sound)
      rwa [List.length_cons, ← Nat.add_assoc, Nat.add_right_comm] at hp'

end Passes

namespace RuleSet

variable {s₁ s₂ : List Step} {h h₁ h₂ : History} {c₁ c₂ : Context} {e₁ e₂ : Execution}

/-- Two chains, one after the other, are one chain, as long as the first of them comes to no error. An error
of the second one is reported with the results of both, unless it was made on purpose. -/
theorem execute_append (r : RuleSet) (hs₁ : s₁ ≠ []) (hs₂ : s₂ ≠ []) (hd : h.Distinct) (c : Context)
    (input : Value) (now : Timestamp)
    (first : execute { r with steps := s₁ } c none input now (h.below s₁.length) = (e₁, h₁, c₁))
    (sound : (lastValue e₁.results input).isError = false)
    (next : execute { r with steps := s₂ } c₁ none (lastValue e₁.results input) now (h.above s₁.length) =
      (e₂, h₂, c₂)) :
    ∃ e h', execute { r with steps := s₁ ++ s₂ } c none input now h = (e, h', c₂) ∧
      e.results = e₁.results ++ e₂.results ∧
      (e₂.value.isError = false →
        e.value = e₂.value ∧ h'.entries = h₁.entries ++ (h₂.raised s₁.length).entries) ∧
      (e₂.value.isError = true → e.value.isError = true ∧ h' = .empty ∧
        (e.results.getLast?.map (·.action) = some .setError ∨
          e.results.getLast?.map (·.action) = some .forceError → e.value = e₂.value)) := by
  set n := s₁.length
  obtain ⟨ps₁, hp₁⟩ := Passes.exists_passes r.valueType now (h.below n).slot 0 s₁ c none input
  rw [execute_eq_of_passes hs₁ (hd.below n) hp₁, Trace.close] at first
  obtain ⟨rfl, rfl, rfl⟩ := first
  have passed : valueAfter input ps₁ = lastValue (traceOf c ps₁).results input := valueAfter_eq input ps₁
  obtain ⟨ps₂, hp₂⟩ := Passes.exists_passes r.valueType now (h.above n).slot 0 s₂ (contextAfter c ps₁) none
    (lastValue (traceOf c ps₁).results input)
  have whole : Passes r.valueType now h.slot 0 (s₁ ++ s₂) c none input (ps₁ ++ ps₂.map (Pass.raised n)) := by
    have hp₁ := hp₁.congr fun k _ hk => hd.slot_below (by omega)
    rw [funext (hd.slot_above n), ← passed] at hp₂
    exact hp₁.append hp₂.raised (passed ▸ sound)
  rw [execute_eq_of_passes hs₂ (hd.above n) hp₂, Trace.close] at next
  obtain ⟨rfl, rfl, rfl⟩ := next
  rw [execute_eq_of_passes (List.append_ne_nil_of_left_ne_nil hs₁ s₂) hd whole, traceOf_append]
  refine ⟨_, _, rfl, rfl, fun sound' => ?_, fun failed => ?_⟩
  · exact ⟨Trace.outcome_followedBy_of_sound sound', Trace.close_followedBy_history sound sound'⟩
  · have failed' : ((traceOf c ps₁).followedBy n (traceOf (contextAfter c ps₁) ps₂) |>.outcome input).isError =
        true := Trace.isError_outcome_followedBy.trans failed
    exact ⟨failed', if_pos failed', Trace.outcome_followedBy_of_handled sound failed⟩

theorem execute_append_of_deltas :
    ∃ (s₁ s₂ : List Step) (h h' : History) (e : Execution), s₁.length = 2 ∧ s₂.length = 1 ∧ h.Distinct ∧
      RuleSet.execute { valueType := .uint64, steps := s₁ ++ s₂ } {} none (.uint64 9) ⟨5⟩ h = (e, h', {}) ∧
      e.results.map (·.value) = [.uint64 6, .uint64 6, .uint64 2] ∧ e.value = .uint64 2 ∧
      h'.entries.map (·.index) = [0, 2] := by
  let s₁ : List Step := [{ kind := .deltaValue }, { kind := .validateNotSupported }]
  let s₂ : List Step := [{ kind := .deltaValue }]
  let h : History := ⟨[⟨2, ⟨.uint64 4, ⟨1⟩⟩⟩, ⟨0, ⟨.uint64 3, ⟨1⟩⟩⟩]⟩
  have distinct : h.Distinct := by
    unfold History.Distinct
    decide
  have ne₁ : s₁ ≠ [] := List.cons_ne_nil _ _
  have ne₂ : s₂ ≠ [] := List.cons_ne_nil _ _
  obtain ⟨e, h', run, results, joined, -⟩ :=
    execute_append { valueType := .uint64, steps := [] } ne₁ ne₂ distinct {} (.uint64 9) ⟨5⟩ rfl rfl rfl
  obtain ⟨value, history⟩ := joined rfl
  refine ⟨s₁, s₂, h, h', e, rfl, rfl, distinct, run, ?_, value, ?_⟩
  · rw [results]
    rfl
  · rw [history]
    rfl

end RuleSet

end ItemPipeline
