import ItemPipeline.Item
import ItemPipeline.Step.Chain

/-!
Units of work. A task carries all that a worker needs for one value, and its result once it has been
executed. Serial tasks of an item travel one at a time, at the head of a sequence.
-/

namespace ItemPipeline

structure ValueTask where
  item : UInt64
  host : UInt64
  edition : Edition
  value : Value
  time : Timestamp
  options : ValueOptions := {}
  result : Value := .none
  cache : Option Cache := none

namespace ValueTask

def ofItem (i : Item) (v : Value) (t : Timestamp) (o : ValueOptions) : ValueTask where
  item := i.id
  host := i.host
  edition := i.edition
  value := v
  time := t
  options := o

def ofCache (i : Item) (c : Cache) (t : Timestamp) (o : ValueOptions) : ValueTask :=
  { ofItem i .none t o with cache := some c }

def rules (t : ValueTask) : RuleSet :=
  t.edition.rules

def isSerial (t : ValueTask) : Bool :=
  t.rules.isSerial

end ValueTask

structure TestTask where
  ticket : Nat
  item : UInt64
  rules : RuleSet
  value : Value
  time : Timestamp
  history : History
  result : Value := .none
  results : List StepResult := []

structure TestReply where
  item : UInt64
  value : Value
  results : List StepResult
  history : History

def TestTask.reply (t : TestTask) : TestReply where
  item := t.item
  value := t.result
  results := t.results
  history := t.history

/-- A value whose result feeds other items; the cache holds it for them once there is one. -/
structure DependentTask where
  primary : ValueTask
  cacheRules : Option RuleSet
  cache : Option Cache := none

inductive Task
  | test (t : TestTask)
  | value (t : ValueTask)
  | serialValue (t : ValueTask)
  | dependent (t : DependentTask)

namespace Task

def ofValue (t : ValueTask) : Task :=
  if t.isSerial then .serialValue t else .value t

def item : Task → UInt64
  | test t => t.item
  | value t => t.item
  | serialValue t => t.item
  | dependent t => t.primary.item

def isSerial : Task → Bool
  | serialValue _ => true
  | dependent t => t.primary.isSerial
  | _ => false

def kind : Task → String
  | test _ => "test"
  | value _ => "value"
  | serialValue _ => "value_seq"
  | dependent _ => "dependent"

end Task

inductive Job
  | single (t : Task)
  | sequence (item : UInt64) (head : Task)

namespace Job

def item : Job → UInt64
  | single t => t.item
  | sequence i _ => i

def task : Job → Task
  | single t => t
  | sequence _ t => t

def isSerial : Job → Bool
  | single t => t.isSerial
  | sequence _ _ => false

def kind : Job → String
  | single t => t.kind
  | sequence _ _ => "sequence"

end Job

end ItemPipeline
