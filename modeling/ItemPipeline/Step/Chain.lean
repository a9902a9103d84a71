import ItemPipeline.Step.Report
import ItemPipeline.Step.Run

/-!
A rule set's steps over one value. Each step works on the value before it, a failure goes to the
step's handler, and what the steps remember becomes the history of the next run.
-/

namespace ItemPipeline

structure Trace where
  results : List StepResult
  kept : List HistoryEntry
  context : Context

def Step.stopsAt (s : Step) (v : Value) : Bool :=
  v.isNone || (v.isError && s.kind != .validateNotSupported)

def Step.resultOf (s : Step) : Except Step.Fault Value → StepResult
  | .ok v => ⟨v, none, if v.isError then .forceError else .default⟩
  | .error f =>
    let (v, a) := s.onFail f.message
    ⟨v, some f.message, a⟩

def Step.keep (s : Step) (i : Nat) (r : StepResult) (m : Option Memory) : List HistoryEntry :=
  if s.kind.hasHistory && !r.value.isError then (m.map (HistoryEntry.mk i)).toList else []

/-- The steps from number `i` on; a cache is for the first step only. -/
def runSteps (t : ValueType) (now : Timestamp) (i : Nat) :
    List Step → Context → Option Cache → History → Value → Trace
  | [], c, _, _, _ => ⟨[], [], c⟩
  | s :: rest, c, cache, h, v =>
    if s.stopsAt v then ⟨[], [], c⟩
    else
      let (m, h) := h.pop i
      let o := s.run c cache t now m v
      let r := s.resultOf o.value
      let tail := runSteps t now (i + 1) rest o.context none h r.value
      ⟨r :: tail.results, s.keep i r o.memory ++ tail.kept, tail.context⟩

structure Execution where
  value : Value
  results : List StepResult := []

/-- The value after the last step; an error that no handler made on purpose becomes a report. -/
def Trace.outcome (t : Trace) (input : Value) : Value :=
  let v := (t.results.getLast?.map (·.value)).getD input
  let a := (t.results.getLast?.map (·.action)).getD .default
  if v.isError && a != .setError && a != .forceError then .error (failureReport input.preview t.results) else v

def RuleSet.execute (r : RuleSet) (c : Context) (cache : Option Cache) (input : Value) (now : Timestamp)
    (h : History) : Execution × History × Context :=
  let v := match cache with
    | some k => k.value
    | none => input
  if r.steps.isEmpty then (⟨v, []⟩, h, c)
  else
    let t := runSteps r.valueType now 0 r.steps c cache h v
    let out := t.outcome v
    (⟨out, t.results⟩, if out.isError then .empty else ⟨t.kept⟩, t.context)

end ItemPipeline
