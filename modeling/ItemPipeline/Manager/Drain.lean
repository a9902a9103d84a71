import ItemPipeline.Manager.Basic

/-!
Handling of finished jobs, and what leaves the pipeline by it.
-/

namespace ItemPipeline

inductive Output
  | flush (v : FlushedValue)
  | reply (ticket : Nat) (r : TestReply)

namespace Output

def toFlushed : Output → Option FlushedValue
  | flush v => some v
  | reply _ _ => none

def toReply : Output → Option (Nat × TestReply)
  | flush _ => none
  | reply k r => some (k, r)

end Output

namespace Manager

def fanOut (m : Manager) (t : ValueTask) (c : Cache) : List Task :=
  (m.fed t.rules).map fun i => m.taskOf (.ofCache i c t.time {})

/-- Serial tasks join their sequence, the others run ahead of new values. -/
def pushFed (q : Queue) (t : Task) : Queue :=
  if t.isSerial then q.push (.single t) else q.pushImmediate (.single t)

def flush (m : Manager) (t : ValueTask) : List Output × Manager :=
  ([.flush t.flushed], { m with flushed := m.flushed + 1 })

def settleDependent (m : Manager) (t : DependentTask) : List Output × Manager :=
  let tasks := match t.cache with
    | some c => m.fanOut t.primary c
    | none => []
  let (o, m) := m.flush t.primary
  (o, { m with
    queue := tasks.foldl pushFed m.queue
    inFlight := m.inFlight + tasks.length })

def settleTask (m : Manager) (t : Task) : List Output × Manager :=
  let m := { m with inFlight := m.inFlight - 1 }
  match t with
  | .test t => ([.reply t.ticket t.reply], m)
  | .value t => m.flush t
  | .serialValue t => m.flush t
  | .dependent t => m.settleDependent t

def advance (m : Manager) (i : UInt64) : Manager :=
  match m.queue.nextInSequence i with
  | (some t, q) => { m with queue := q.pushImmediate (.sequence i t) }
  | (none, q) => { m with queue := q.removeSequence i }

def settle (m : Manager) : Job → List Output × Manager
  | .single t => m.settleTask t
  | .sequence i t =>
    let (o, m) := m.settleTask t
    (o, m.advance i)

structure Drained where
  count : Nat
  outputs : List Output
  manager : Manager

def drain (m : Manager) : Nat → Drained
  | 0 => ⟨0, [], m⟩
  | limit + 1 =>
    match m.queue.popFinished with
    | (none, _) => ⟨0, [], m⟩
    | (some j, q) =>
      let (o, m) := { m with queue := q }.settle j
      let d := m.drain limit
      ⟨d.count + 1, o ++ d.outputs, d.manager⟩

end Manager

end ItemPipeline
