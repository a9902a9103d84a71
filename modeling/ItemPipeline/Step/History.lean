import ItemPipeline.Value.Basic
import ItemPipeline.Value.Time

/-!
What steps remember from one run to the next: at most one value with its time per step, as long as
entries are made by `add`.
-/

namespace ItemPipeline

structure Memory where
  value : Value
  time : Timestamp

structure HistoryEntry where
  index : Nat
  memory : Memory

structure History where
  entries : List HistoryEntry := []

namespace History

def empty : History :=
  {}

def size (h : History) : Nat :=
  h.entries.length

def isEmpty (h : History) : Bool :=
  h.entries.isEmpty

def get? (h : History) (i : Nat) : Option HistoryEntry :=
  h.entries.find? fun e => e.index == i

def addTo (i : Nat) (m : Memory) : List HistoryEntry → List HistoryEntry
  | [] => [⟨i, m⟩]
  | e :: r => if e.index = i then ⟨i, m⟩ :: r else e :: addTo i m r

def add (h : History) (i : Nat) (m : Memory) : History :=
  ⟨addTo i m h.entries⟩

def removeFrom (i : Nat) : List HistoryEntry → List HistoryEntry
  | [] => []
  | e :: r =>
    if e.index = i then
      match r.getLast? with
      | some l => l :: r.dropLast
      | none => []
    else e :: removeFrom i r

def pop (h : History) (i : Nat) : Option Memory × History :=
  match h.get? i with
  | some e => (some e.memory, ⟨removeFrom i h.entries⟩)
  | none => (none, h)

end History

end ItemPipeline
