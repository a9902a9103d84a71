import ItemPipeline.Config.Check
import ItemPipeline.Queue
import ItemPipeline.Sink
import ItemPipeline.Task.Run

/-!
The manager holds the items, makes tasks of the values fed to them, and handles finished tasks: a
value is flushed, a trial is answered, a result to pass on becomes tasks of the items that it feeds,
and the next serial task of an item takes the place of the last.
-/

namespace ItemPipeline

structure Manager where
  batchSize : Nat
  items : Table UInt64 Item := {}
  queue : Queue := {}
  histories : Histories := {}
  editions : Nat := 0
  tickets : Nat := 0
  queued : Nat := 0
  flushed : Nat := 0
  inFlight : Nat := 0

namespace Manager

def start (c : ManagerConfig) : Except Failure Manager :=
  match c.check with
  | .error e => .error (.config e.message)
  | .ok _ => .ok { batchSize := c.batchSize.toNat, queue := { workers := c.workers.toNat } }

def register (m : Manager) (x : Item) : Option Item × Manager :=
  (m.items.get? x.id, { m with items := m.items.insert x.id x })

def addItem (m : Manager) (i host : UInt64) (r : RuleSet) : Option Item × Manager :=
  { m with editions := m.editions + 1 }.register { id := i, host := host, edition := ⟨m.editions, r⟩ }

def updateItem (m : Manager) (i : UInt64) (r : RuleSet) : Bool × Manager :=
  match m.items.get? i with
  | none => (false, m)
  | some x => (true, { m with
      items := m.items.insert i (x.revise ⟨m.editions, r⟩)
      editions := m.editions + 1 })

def removeItem (m : Manager) (i : UInt64) : Option Item × Manager :=
  (m.items.get? i, { m with items := m.items.erase i })

def item? (m : Manager) (i : UInt64) : Option Item :=
  m.items.get? i

def itemIds (m : Manager) : List UInt64 :=
  m.items.keys.mergeSort (· ≤ ·)

def fed (m : Manager) (r : RuleSet) : List Item :=
  r.dependents.filterMap m.items.get?

/-- A value task, or a dependent one if its rules list dependents; what it caches is for the first
of those that are registered. -/
def taskOf (m : Manager) (t : ValueTask) : Task :=
  if t.rules.dependents.isEmpty then .ofValue t
  else .dependent ⟨t, (m.fed t.rules).head?.map Item.rules, none⟩

def submit (m : Manager) (t : Task) : Manager :=
  { m with queue := m.queue.push (.single t), inFlight := m.inFlight + 1 }

def enqueue (m : Manager) (i : UInt64) (v : Value) (t : Timestamp) (o : ValueOptions) : Bool × Manager :=
  match m.items.get? i with
  | none => (false, m)
  | some x => (true, { m.submit (m.taskOf (.ofItem x v t o)) with queued := m.queued + 1 })

def trial (m : Manager) (i : UInt64) (r : RuleSet) (v : Value) (now : Timestamp) (h : History) : Task :=
  .test ⟨m.tickets, i, r, v, now, h, .none, []⟩

def pushTest (m : Manager) (i : UInt64) (r : RuleSet) (v : Value) (now : Timestamp) (h : History) :
    Nat × Manager :=
  (m.tickets, { m.submit (m.trial i r v now h) with tickets := m.tickets + 1 })

def test (m : Manager) (i : UInt64) (v : Value) (now : Timestamp) : Option Nat × Manager :=
  match m.items.get? i with
  | none => (none, m)
  | some x =>
    let (k, m) := m.pushTest i x.rules v now .empty
    (some k, m)

def testSteps (m : Manager) (s : List Step) (t : ValueType) (v : Value) (now : Timestamp) (h : History) :
    Nat × Manager :=
  m.pushTest 0 { valueType := t, steps := s } v now h

def debugText (m : Manager) : String :=
  String.join ["Manager \x7b items: ", toString m.items.size, ", workers: ", toString m.queue.workers,
    ", batch_size: ", toString m.batchSize, " \x7d"]

end Manager

end ItemPipeline
