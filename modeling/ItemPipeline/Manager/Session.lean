import ItemPipeline.Manager.Drain
import ItemPipeline.Worker

/-!
A manager together with a worker that is idle between calls, and the signal between them: a wake-up
for the manager, which each executed job leaves and of which there is at most one.
-/

namespace ItemPipeline

structure Session where
  manager : Manager
  context : Context := {}
  wakeUp : Bool := false

namespace Session

def start (c : ManagerConfig) : Except Failure Session :=
  (Manager.start c).map fun m => ⟨m, {}, false⟩

def settle (s : Session) : Session :=
  if s.manager.queue.workers = 0 then s
  else
    let (n, q, b) := s.manager.queue.work ⟨s.context, s.manager.histories⟩
    ⟨{ s.manager with queue := q, histories := b.histories }, b.context, s.wakeUp || n > 0⟩

def call {α : Type} (s : Session) (f : Manager → α × Manager) : α × Session :=
  let (a, m) := f s.manager
  (a, { s with manager := m }.settle)

def drain (s : Session) (limit : Nat) : (Nat × List Output) × Session :=
  s.call fun m =>
    let d := m.drain limit
    ((d.count, d.outputs), d.manager)

def wait (s : Session) : Bool × Session :=
  if s.manager.queue.hasFinished then (true, s) else (s.wakeUp, { s with wakeUp := false })

def shutdown (s : Session) : Session :=
  { s with manager := { s.manager with queue := { s.manager.queue with workers := 0 } } }

def budget (m : Manager) : Nat :=
  let widest := (m.items.values.map fun i => i.rules.dependents.length).foldl max 0
  m.inFlight * Nat.pow (widest + 1) m.items.size

def finishWithin (limit : Nat) : Nat → Session → List (List Output) × Session
  | 0, s => ([], s)
  | fuel + 1, s =>
    if s.manager.inFlight = 0 then ([], s)
    else
      let ((_, o), s) := s.drain limit
      let (r, s) := finishWithin limit fuel s
      (o :: r, s)

def finish (s : Session) : List (List Output) × Session :=
  finishWithin s.manager.batchSize (budget s.manager) s

end Session

end ItemPipeline
