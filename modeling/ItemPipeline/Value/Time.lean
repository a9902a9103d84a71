/-!
Instants with nanoseconds, and the distance between two of them in coarser units.
-/

namespace ItemPipeline

structure Timestamp where
  nanos : Int
deriving Repr, DecidableEq, Inhabited

namespace Timestamp

def ofSeconds (seconds : Int) (nanos : Nat) : Timestamp :=
  ⟨seconds * Int.pow 10 9 + nanos⟩

def split (t : Timestamp) : Int × Int :=
  (t.nanos.fdiv (Int.pow 10 9), t.nanos.fmod (Int.pow 10 9))

def elapsed (t since : Timestamp) : Int :=
  t.nanos - since.nanos

def elapsedSeconds (t since : Timestamp) : Int :=
  (t.elapsed since).tdiv (Int.pow 10 9)

def elapsedMillis (t since : Timestamp) : Int :=
  (t.elapsed since).tdiv (Int.pow 10 6)

/-- Nanoseconds from `since` to `t`; the greatest signed word of 64 bits stands for any distance that
does not fit into one. -/
def elapsedWord (t since : Timestamp) : Int :=
  let d := t.elapsed since
  if -Int.pow 2 63 ≤ d ∧ d < Int.pow 2 63 then d else Int.pow 2 63 - 1

end Timestamp

end ItemPipeline
