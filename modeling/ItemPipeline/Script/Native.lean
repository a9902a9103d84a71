import ItemPipeline.Script.Operator

/-!
Functions that scripts find built in. One that changes its first argument says what that becomes.
-/

namespace ItemPipeline.Script

structure Reply where
  value : Datum
  self : Option Datum := none

abbrev Native := Option (Except Cause Reply)

namespace Native

def give (d : Datum) : Native :=
  some (.ok ⟨d, none⟩)

def change (self : Datum) (d : Datum := .unit) : Native :=
  some (.ok ⟨d, some self⟩)

def fail (message : String) : Native :=
  some (.error (.arithmetic message))

def ofAnswer (a : Answer) : Native :=
  a.map fun r => r.map fun d => ⟨d, none⟩

end Native

def offset (i : Int) (size : Nat) : Nat :=
  if i < 0 then size - i.natAbs else min i.toNat size

def position? (i : Int) (size : Nat) : Option Nat :=
  if i < 0 then (if i.natAbs ≤ size then some (size - i.natAbs) else none)
  else if i.toNat < size then some i.toNat else none

def stretch (start length : Int) (size : Nat) : Nat × Nat :=
  let a := offset start size
  (a, if length ≤ 0 then 0 else min length.toNat (size - a))

def rangeStretch (first last : Int) (closed : Bool) (size : Nat) : Nat × Nat :=
  let a := max first 0
  let b := max (if closed then last + 1 else last) a
  let start := min a.toNat size
  (start, min (b - a).toNat (size - start))

end ItemPipeline.Script
