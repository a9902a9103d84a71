import ItemPipeline.Proofs.Chain

/-!
Runs of a rule set one after the other, each with the history that the one before it left. With a single step, a
history is what that step remembers.
-/

namespace ItemPipeline

def History.alone (m : Option Memory) : History :=
  ⟨(m.map (HistoryEntry.mk 0)).toList⟩

lemma History.pop_alone (m : Option Memory) : (alone m).pop 0 = (m, empty) := by
  cases m <;> rfl

namespace RuleSet

inductive Runs (r : RuleSet) : History → List (Value × Timestamp) → List Value → History → Prop
  | done {h : History} : Runs r h [] [] h
  | run {h h' : History} {l : List (Value × Timestamp)} {out : List Value} (c : Context) (cache : Option Cache)
      (input : Value) (now : Timestamp) (rest : Runs r (r.execute c cache input now h).2.1 l out h') :
      Runs r h ((source cache input, now) :: l) ((r.execute c cache input now h).1.value :: out) h'

variable {r : RuleSet} {h h' : History} {l l₁ l₂ : List (Value × Timestamp)} {out : List Value}

lemma Runs.cons {v w : Value} {now : Timestamp} (c : Context) (h₁ : History)
    (value : (r.execute c none v now h).1.value = w) (left : (r.execute c none v now h).2.1 = h₁)
    (rest : r.Runs h₁ l out h') : r.Runs h ((v, now) :: l) (w :: out) h' := by
  subst value left
  exact .run c none v now rest

lemma Runs.length_eq (runs : r.Runs h l out h') : out.length = l.length := by
  induction runs with
  | done => rfl
  | run _ _ _ _ _ ih => exact congrArg (· + 1) ih

lemma Runs.split (runs : r.Runs h (l₁ ++ l₂) out h') :
    ∃ out₁ out₂ h₁, out = out₁ ++ out₂ ∧ r.Runs h l₁ out₁ h₁ ∧ r.Runs h₁ l₂ out₂ h' := by
  induction l₁ generalizing h out with
  | nil => exact ⟨[], out, h, rfl, .done, runs⟩
  | cons x l₁ ih =>
    cases runs with
    | run c cache input now rest =>
      obtain ⟨out₁, out₂, h₁, rfl, first, second⟩ := ih rest
      exact ⟨_ :: out₁, out₂, h₁, rfl, .run c cache input now first, second⟩

section Single

variable {s : Step} {c : Context} {cache : Option Cache} {input w : Value} {now : Timestamp} {m m' : Option Memory}
  {f : Step.Fault}

lemma runSteps_single (bears : s.kind.hasHistory = true) (noScript : s.kind ≠ .script) (t : ValueType) {v : Value}
    (go : s.stopsAt v = false) : runSteps t now 0 [s] c cache (.alone m) v =
      ⟨[s.resultOf (s.remember t now m v).1],
        s.keep 0 (s.resultOf (s.remember t now m v).1) (s.remember t now m v).2, c⟩ := by
  have run : s.run c cache t now m v = ⟨(s.remember t now m v).1, (s.remember t now m v).2, c⟩ := by
    simp [Step.run, bears, noScript]
  simp [runSteps, go, History.pop_alone, run]

lemma execute_single (single : r.steps = [s]) (bears : s.kind.hasHistory = true) (noScript : s.kind ≠ .script)
    (go : s.stopsAt (source cache input) = false)
    (step : s.remember r.valueType now m (source cache input) = (.ok w, m')) (sound : w.isError = false) :
    (r.execute c cache input now (.alone m)).1.value = w ∧
      (r.execute c cache input now (.alone m)).2.1 = .alone m' := by
  rw [r.execute_of_steps (by simp [single]), single, runSteps_single bears noScript _ go, step]
  simp [Step.resultOf, Step.keep, bears, sound, Trace.close, Trace.outcome, History.alone]

lemma execute_single_error (single : r.steps = [s]) (bears : s.kind.hasHistory = true) (noScript : s.kind ≠ .script)
    (go : s.stopsAt (source cache input) = false) (handler : s.handler = .default)
    (step : s.remember r.valueType now m (source cache input) = (.error f, m')) :
    (∃ e, (r.execute c cache input now (.alone m)).1.value = .error e) ∧
      (r.execute c cache input now (.alone m)).2.1 = .alone none := by
  rw [r.execute_of_steps (by simp [single]), single, runSteps_single bears noScript _ go, step]
  simp [Step.resultOf, Step.onFail, handler, ErrorHandler.action, Value.isError, Trace.close, Trace.outcome,
    History.alone, History.empty]

end Single

end RuleSet

end ItemPipeline
