/-!
Finite maps as lists of keys with values. `insert` overwrites a key in its place and adds a new one
at the end, so a table made by the operations below has each key once.
-/

namespace ItemPipeline

structure Table (κ α : Type) where
  entries : List (κ × α) := []

namespace Table

variable {κ α : Type} [DecidableEq κ]

def size (t : Table κ α) : Nat :=
  t.entries.length

def keys (t : Table κ α) : List κ :=
  t.entries.map (·.1)

def values (t : Table κ α) : List α :=
  t.entries.map (·.2)

def lookIn (k : κ) : List (κ × α) → Option α
  | [] => none
  | e :: r => if e.1 = k then some e.2 else lookIn k r

def get? (t : Table κ α) (k : κ) : Option α :=
  lookIn k t.entries

def contains (t : Table κ α) (k : κ) : Bool :=
  (t.get? k).isSome

def insertIn (k : κ) (a : α) : List (κ × α) → List (κ × α)
  | [] => [(k, a)]
  | e :: r => if e.1 = k then (k, a) :: r else e :: insertIn k a r

def insert (t : Table κ α) (k : κ) (a : α) : Table κ α :=
  ⟨insertIn k a t.entries⟩

def erase (t : Table κ α) (k : κ) : Table κ α :=
  ⟨t.entries.filter fun e => e.1 ≠ k⟩

theorem lookIn_insertIn (k : κ) (a : α) (l : List (κ × α)) (j : κ) :
    lookIn j (insertIn k a l) = if k = j then some a else lookIn j l := by
  induction l with
  | nil => simp [insertIn, lookIn]
  | cons e r ih => by_cases h : e.1 = k <;> by_cases hj : k = j <;> simp_all [insertIn, lookIn]

theorem get?_insert (t : Table κ α) (k : κ) (a : α) (j : κ) :
    (t.insert k a).get? j = if k = j then some a else t.get? j :=
  lookIn_insertIn k a t.entries j

theorem get?_erase (t : Table κ α) (k j : κ) :
    (t.erase k).get? j = if k = j then none else t.get? j := by
  obtain ⟨l⟩ := t
  simp only [erase, get?]
  induction l with
  | nil => simp [lookIn]
  | cons e r ih => by_cases h : e.1 = k <;> grind [lookIn]

end Table

end ItemPipeline
