import ItemPipeline.Failure
import ItemPipeline.Item
import ItemPipeline.Sink

/-!
The settings of the pipeline and the items it starts with.
-/

namespace ItemPipeline

structure ManagerConfig where
  workers : UInt64 := 3
  startupSeconds : UInt64 := 10
  batchSize : UInt64 := 256
  sinkMode : SinkMode := .server
  logFile : Option String := none
deriving Repr, DecidableEq

structure ItemConfig where
  id : UInt64
  host : UInt64 := 0
  valueType : ValueType := .str
  mode : ProcessMode := .parallel
  discovery : Bool := false
  dependents : List UInt64 := []
  steps : List Step := []
deriving Repr, DecidableEq

structure Config where
  manager : ManagerConfig := {}
  items : List ItemConfig := []
deriving Repr, DecidableEq

namespace ItemConfig

def rules (i : ItemConfig) : RuleSet where
  valueType := i.valueType
  steps := i.steps
  requestedMode := i.mode
  discovery := i.discovery
  dependents := i.dependents

end ItemConfig

namespace Config

def ids (c : Config) : List UInt64 :=
  c.items.map (·.id)

def item? (c : Config) (i : UInt64) : Option ItemConfig :=
  c.items.find? fun x => x.id == i

def dependents (c : Config) (i : UInt64) : List UInt64 :=
  ((c.item? i).map (·.dependents)).getD []

end Config

end ItemPipeline
