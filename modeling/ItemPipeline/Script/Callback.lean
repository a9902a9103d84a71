import ItemPipeline.Script.Machine

/-!
Functions on arrays and maps that take a function.
-/

namespace ItemPipeline.Script

abbrev Invoke := Option Datum → List Datum → List Datum → Run (Datum × Option Datum)

namespace Callback

variable (call : Invoke)

def value (args extra : List Datum) : Run Datum := do
  pure (← call none args extra).1

def isTrue (args extra : List Datum) : Run Bool := do
  match ← value call args extra with
  | .bool b => pure b
  | _ => pure false

def mapFrom (i : Nat) : List Datum → Run (List Datum)
  | [] => pure []
  | a :: r => do
    let b ← value call [a] [.int i]
    pure (b :: (← mapFrom (i + 1) r))

def partitionFrom (i : Nat) : List Datum → Run (List Datum × List Datum)
  | [] => pure ([], [])
  | a :: r => do
    let b ← isTrue call [a] [.int i]
    let (yes, no) ← partitionFrom (i + 1) r
    pure (if b then (a :: yes, no) else (yes, a :: no))

def findFrom (i : Nat) : List Datum → Run (Option (Nat × Datum))
  | [] => pure none
  | a :: r => do
    if ← isTrue call [a] [.int i] then pure (some (i, a)) else findFrom (i + 1) r

def findMapFrom (i : Nat) : List Datum → Run Datum
  | [] => pure .unit
  | a :: r => do
    match ← value call [a] [.int i] with
    | .unit => findMapFrom (i + 1) r
    | d => pure d

def allFrom (i : Nat) : List Datum → Run Bool
  | [] => pure true
  | a :: r => do
    if ← isTrue call [a] [.int i] then allFrom (i + 1) r else pure false

def eachFrom (i : Nat) : List Datum → Run (List Datum)
  | [] => pure []
  | a :: r => do
    let (_, t) ← call (some a) [] [.int i]
    pure (t.getD a :: (← eachFrom (i + 1) r))

def foldFrom (acc : Datum) : List (Nat × Datum) → Run Datum
  | [] => pure acc
  | (i, a) :: r => do foldFrom (← value call [acc, a] [.int i]) r

def goesBefore (a b : Datum) : Run Bool := do
  match ← value call [a, b] [] with
  | .int n => pure (n ≤ 0)
  | .bool x => pure x
  | _ => pure true

def insertSorted (a : Datum) : List Datum → Run (List Datum)
  | [] => pure [a]
  | b :: r => do
    if ← goesBefore call b a then pure (b :: (← insertSorted a r)) else pure (a :: b :: r)

def sortWith (sorted : List Datum) : List Datum → Run (List Datum)
  | [] => pure sorted
  | a :: r => do sortWith (← insertSorted call a sorted) r

def zipWith : List Datum → List Datum → Nat → Run (List Datum)
  | a :: r, b :: t, i => do
    let d ← value call [a, b] [.int i]
    pure (d :: (← zipWith r t (i + 1)))
  | _, _, _ => pure []

def numbered (l : List Datum) : List (Nat × Datum) :=
  l.zipIdx.map fun (a, i) => (i, a)

def give (d : Datum) : Run Reply :=
  pure ⟨d, none⟩

def change (self : Datum) (d : Datum := .unit) : Run Reply :=
  pure ⟨d, some self⟩

def onArray (name : String) (l : List Datum) (more : List Datum) : Option (Run Reply) :=
  match name, more with
  | "map", [] => some do give (.array (← mapFrom call 0 l))
  | "filter", [] => some do give (.array (← partitionFrom call 0 l).1)
  | "for_each", [] => some do change (.array (← eachFrom call 0 l))
  | "some", [] => some do give (.bool (← findFrom call 0 l).isSome)
  | "all", [] => some do give (.bool (← allFrom call 0 l))
  | "find", [] => some do give (((← findFrom call 0 l).map (·.2)).getD .unit)
  | "find_map", [] => some do give (← findMapFrom call 0 l)
  | "index_of", [] => some do give (.int (((← findFrom call 0 l).map fun x => (x.1 : Int)).getD (-1)))
  | "reduce", [] => some do give (← foldFrom call .unit (numbered l))
  | "reduce", [d] => some do give (← foldFrom call d (numbered l))
  | "reduce_rev", [] => some do give (← foldFrom call .unit (numbered l).reverse)
  | "reduce_rev", [d] => some do give (← foldFrom call d (numbered l).reverse)
  | "sort", [] => some do change (.array (← sortWith call [] l))
  | "drain", [] => some do
    let (yes, no) ← partitionFrom call 0 l
    change (.array no) (.array yes)
  | "retain", [] => some do
    let (yes, no) ← partitionFrom call 0 l
    change (.array yes) (.array no)
  | _, _ => none

def partitionMembers : List (String × Datum) → Run (List (String × Datum) × List (String × Datum))
  | [] => pure ([], [])
  | (n, d) :: r => do
    let b ← isTrue call [.text n, d] []
    let (yes, no) ← partitionMembers r
    pure (if b then ((n, d) :: yes, no) else (yes, (n, d) :: no))

def onMap (name : String) (m : List (String × Datum)) : Option (Run Reply) :=
  match name with
  | "filter" => some do give (.map (← partitionMembers call m).1)
  | "drain" => some do
    let (yes, no) ← partitionMembers call m
    change (.map no) (.map yes)
  | "retain" => some do
    let (yes, no) ← partitionMembers call m
    change (.map yes) (.map no)
  | _ => none

end Callback

def callWithFunction (invoke : String → List Datum → Invoke) (name : String) : List Datum → Option (Run Reply)
  | .array l :: .function f held :: more => Callback.onArray (invoke f held) name l more
  | [.array l, .array m, .function f held] =>
    if name = "zip" then some do Callback.give (.array (← Callback.zipWith (invoke f held) l m 0)) else none
  | [.map m, .function f held] => Callback.onMap (invoke f held) name m
  | _ => none

end ItemPipeline.Script
