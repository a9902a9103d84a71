import ItemPipeline.Script.Library

/-!
The state of a running script: operations counted, variables in scope, and cells shared with closures.
-/

namespace ItemPipeline.Script

inductive Signal
  | fault (f : Fault)
  | leave (d : Datum)
  | again
  | result (d : Datum)

structure Variable where
  name : String
  value : Datum
  constant : Bool := false

structure Machine where
  operations : Nat := 0
  scope : List Variable := []
  cells : Array Datum := #[]
  this : Option Datum := none

abbrev Run := ExceptT Signal (StateM Machine)

def operationLimit : Nat := 100000

def levelLimit : Nat := 32

namespace Run

def fault {α : Type} (c : Cause) (p : Place) : Run α :=
  throw (.fault (.mk c (some p)))

def ofCause {α : Type} (p : Place) : Except Cause α → Run α
  | .ok a => pure a
  | .error c => fault c p

def tick (p : Place) : Run Unit := do
  let m ← get
  set { m with operations := m.operations + 1 }
  if m.operations + 1 > operationLimit then fault .tooManyOperations p

def cell (i : Nat) : Run Datum := do
  pure ((← get).cells.getD i .unit)

def setCell (i : Nat) (d : Datum) : Run Unit :=
  modify fun m => { m with cells := m.cells.setIfInBounds i d }

def settle : Datum → Run Datum
  | .shared i => cell i
  | d => pure d

def find? (n : String) : Run (Option Variable) := do
  pure ((← get).scope.find? fun v => v.name == n)

def lookup (n : String) (p : Place) : Run Datum := do
  match ← find? n with
  | some v => settle v.value
  | none => fault (.unknownVariable n) p

def replaceIn (n : String) (d : Datum) : List Variable → List Variable
  | [] => []
  | v :: r => if v.name = n then { v with value := d } :: r else v :: replaceIn n d r

def assign (n : String) (d : Datum) (p : Place) : Run Unit := do
  match ← find? n with
  | none => fault (.unknownVariable n) p
  | some v =>
    if v.constant then fault (.constant n) p
    else match v.value with
      | .shared i => setCell i d
      | _ => modify fun m => { m with scope := replaceIn n d m.scope }

def declare (n : String) (d : Datum) (constant : Bool := false) : Run Unit :=
  modify fun m => { m with scope := ⟨n, d, constant⟩ :: m.scope }

def depth : Run Nat := do
  pure (← get).scope.length

def unwind (n : Nat) : Run Unit :=
  modify fun m => { m with scope := m.scope.drop (m.scope.length - n) }

def share (n : String) (p : Place) : Run Datum := do
  match ← find? n with
  | none => fault (.unknownVariable n) p
  | some v =>
    match v.value with
    | .shared i => pure (.shared i)
    | d => do
      let m ← get
      let i := m.cells.size
      set { m with cells := m.cells.push d, scope := replaceIn n (.shared i) m.scope }
      pure (.shared i)

def truth (p : Place) : Datum → Run Bool
  | .bool b => pure b
  | d => fault (.mismatch "bool" d.typeName) p

def attempt {α : Type} (r : Run α) : Run (Except Signal α) :=
  fun m => match r m with
    | (x, m) => (.ok x, m)

end Run

end ItemPipeline.Script
