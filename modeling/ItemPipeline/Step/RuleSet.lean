import ItemPipeline.Step.Basic

/-!
Rule sets: the steps that an item's values go through, and how these values may be scheduled.
-/

namespace ItemPipeline

inductive ProcessMode
  | parallel
  | serial
deriving Repr, DecidableEq

namespace ProcessMode

def all : List ProcessMode :=
  [parallel, serial]

def name : ProcessMode → String
  | parallel => "parallel"
  | serial => "serial"

def ofName? (s : String) : Option ProcessMode :=
  all.find? fun m => m.name == s

end ProcessMode

structure RuleSet where
  valueType : ValueType := .str
  steps : List Step := []
  requestedMode : ProcessMode := .parallel
  discovery : Bool := false
  dependents : List UInt64 := []
deriving Repr, DecidableEq

namespace RuleSet

def historyCount (r : RuleSet) : Nat :=
  r.steps.countP fun s => s.kind.hasHistory

/-- A rule set that remembers values is serial whatever mode was requested. -/
def mode (r : RuleSet) : ProcessMode :=
  if r.historyCount > 0 then .serial else r.requestedMode

def isSerial (r : RuleSet) : Bool :=
  r.mode == .serial

end RuleSet

end ItemPipeline
