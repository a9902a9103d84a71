import ItemPipeline.Table
import ItemPipeline.Task.Basic

/-!
Execution of tasks. The history of a rule set is kept under the number of its edition, and only
value tasks of rule sets with steps that remember use it.
-/

namespace ItemPipeline

abbrev Histories :=
  Table Nat History

namespace Histories

def of (m : Histories) (e : Edition) : History :=
  (m.get? e.number).getD .empty

def set (m : Histories) (e : Edition) (h : History) : Histories :=
  m.insert e.number h

end Histories

structure Bench where
  context : Context := {}
  histories : Histories := {}

def TestTask.run (t : TestTask) (b : Bench) : TestTask × Bench :=
  let (e, h, c) := t.rules.execute b.context none t.value t.time t.history
  ({ t with value := .none, result := e.value, results := e.results, history := h }, { b with context := c })

namespace ValueTask

def history (t : ValueTask) (m : Histories) : History :=
  if t.rules.historyCount > 0 then m.of t.edition else .empty

def keep (t : ValueTask) (m : Histories) (h : History) : Histories :=
  if t.rules.historyCount > 0 then m.set t.edition h else m

def run (t : ValueTask) (b : Bench) : ValueTask × Bench :=
  let (e, h, c) := t.rules.execute b.context t.cache t.value t.time (t.history b.histories)
  ({ t with value := .none, cache := none, result := e.value }, ⟨c, t.keep b.histories h⟩)

def feeds (t : ValueTask) : Bool :=
  !t.result.isNone && !t.result.isError

end ValueTask

/-- Runs the primary task; a result to pass on is cached for the rules of the items that it feeds. -/
def DependentTask.run (t : DependentTask) (b : Bench) : DependentTask × Bench :=
  let (p, b) := t.primary.run b
  let c := if p.feeds then t.cacheRules.map fun r => (Cache.ofRules r p.result).prepare else t.cache
  ({ t with primary := p, cache := c }, b)

def Task.run (b : Bench) : Task → Task × Bench
  | .test t => let (t, b) := t.run b; (.test t, b)
  | .value t => let (t, b) := t.run b; (.value t, b)
  | .serialValue t => let (t, b) := t.run b; (.serialValue t, b)
  | .dependent t => let (t, b) := t.run b; (.dependent t, b)

def Job.run (b : Bench) : Job → Job × Bench
  | .single t => let (t, b) := t.run b; (.single t, b)
  | .sequence i t => let (t, b) := t.run b; (.sequence i t, b)

end ItemPipeline
