import ItemPipeline.Table
import ItemPipeline.Task.Basic

/-!
The lanes between those who make tasks and those who execute them, and the sequences of serial
tasks. The first task of a sequence travels in a lane; the others wait until it is done.
-/

namespace ItemPipeline

structure Queue where
  pending : List Job := []
  immediate : List Job := []
  finished : List Job := []
  sequences : Table UInt64 (List Task) := {}
  workers : Nat := 0

structure QueueCounts where
  pending : Nat
  immediate : Nat
  finished : Nat
  sequences : Nat
  waiting : Nat
  workers : Nat
deriving Repr, DecidableEq

namespace Queue

def pushSerial (q : Queue) (t : Task) : Queue :=
  match q.sequences.get? t.item with
  | some l => { q with sequences := q.sequences.insert t.item (l ++ [t]) }
  | none =>
    { q with sequences := q.sequences.insert t.item [], immediate := q.immediate ++ [.sequence t.item t] }

def pushImmediate (q : Queue) (j : Job) : Queue :=
  { q with immediate := q.immediate ++ [j] }

def pushPending (q : Queue) (j : Job) : Queue :=
  { q with pending := q.pending ++ [j] }

def pushFinished (q : Queue) (j : Job) : Queue :=
  { q with finished := q.finished ++ [j] }

def push (q : Queue) : Job → Queue
  | .single (.test t) => q.pushImmediate (.single (.test t))
  | .single t => if t.isSerial then q.pushSerial t else q.pushPending (.single t)
  | j => q.pushPending j

/-- The first of these pending jobs that may run, which also goes for a sequence that a serial one
among them starts; those behind it stay pending. -/
def popPending (q : Queue) : List Job → Option Job × Queue
  | [] => (none, { q with pending := [] })
  | .single t :: rest =>
    if t.isSerial then
      let q := { q with pending := rest }.pushSerial t
      match q.immediate with
      | j :: r => (some j, { q with immediate := r })
      | [] => popPending q rest
    else (some (.single t), { q with pending := rest })
  | j :: rest => (some j, { q with pending := rest })

def pop (q : Queue) : Option Job × Queue :=
  match q.immediate with
  | j :: r => (some j, { q with immediate := r })
  | [] => q.popPending q.pending

def popFinished (q : Queue) : Option Job × Queue :=
  match q.finished with
  | j :: r => (some j, { q with finished := r })
  | [] => (none, q)

def hasFinished (q : Queue) : Bool :=
  !q.finished.isEmpty

def nextInSequence (q : Queue) (i : UInt64) : Option Task × Queue :=
  match q.sequences.get? i with
  | some (t :: r) => (some t, { q with sequences := q.sequences.insert i r })
  | _ => (none, q)

def removeSequence (q : Queue) (i : UInt64) : Queue :=
  { q with sequences := q.sequences.erase i }

def register (q : Queue) : Queue :=
  { q with workers := q.workers + 1 }

def deregister (q : Queue) : Queue :=
  { q with workers := q.workers - 1 }

def counts (q : Queue) : QueueCounts where
  pending := q.pending.length
  immediate := q.immediate.length
  finished := q.finished.length
  sequences := q.sequences.size
  waiting := q.sequences.values.flatten.length
  workers := q.workers

def backlogBefore (a b : UInt64 × Nat) : Bool :=
  a.2 > b.2 || (a.2 == b.2 && a.1 ≤ b.1)

def backlog (q : Queue) (limit : Nat) : List (UInt64 × Nat) :=
  ((q.sequences.entries.map fun e => (e.1, e.2.length)).mergeSort backlogBefore).take limit

def ready (q : Queue) : Nat :=
  q.immediate.length + q.pending.length

theorem popPending_ready (q : Queue) (l : List Job) {j : Job} {r : Queue} (hq : q.immediate = [])
    (h : q.popPending l = (some j, r)) : r.ready < l.length := by
  induction l generalizing q with
  | nil => simp [popPending] at h
  | cons a rest ih =>
    cases a with
    | sequence i t =>
      simp only [popPending, Prod.mk.injEq] at h
      obtain ⟨_, rfl⟩ := h
      simp [ready, hq]
    | single t =>
      simp only [popPending] at h
      split at h
      · split at h
        · rename_i j' r' hp
          simp only [Prod.mk.injEq] at h
          obtain ⟨_, rfl⟩ := h
          cases hs : q.sequences.get? t.item with
          | some l => simp [pushSerial, hs, hq] at hp
          | none =>
            simp only [pushSerial, hs, hq, List.nil_append, List.cons.injEq] at hp
            obtain ⟨_, rfl⟩ := hp
            simp [ready, pushSerial, hs]
        · rename_i hp
          have := ih _ hp h
          simp only [List.length_cons]
          omega
      · simp only [Prod.mk.injEq] at h
        obtain ⟨_, rfl⟩ := h
        simp [ready, hq]

theorem pop_ready {q : Queue} {j : Job} {r : Queue} (h : q.pop = (some j, r)) : r.ready < q.ready := by
  unfold pop at h
  split at h
  · rename_i a l hi
    simp only [Prod.mk.injEq] at h
    obtain ⟨_, rfl⟩ := h
    simp [ready, hi]
  · rename_i hi
    have := popPending_ready q q.pending hi h
    simpa [ready, hi] using this

end Queue

end ItemPipeline
