import ItemPipeline.Step.Fault

/-!
Steps on numbers: multiplication, reading of truth words, octal and hexadecimal digits, and bounds.
-/

namespace ItemPipeline.Step

def product (n : UInt64) (m : Option UInt64) (x : Float) : Value :=
  match m with
  | some m => if n.toNat * m.toNat < UInt64.size then .uint64 (n * m) else .double (n.toFloat * x)
  | none => .double (n.toFloat * x)

def isBounded : Value → Bool
  | .double x => x.isFinite
  | _ => true

def multiply (t : ValueType) (params : String) (v : Value) : Except Fault Value :=
  let factor := Text.trimBlanks params.toList
  match readDouble? factor with
  | none => .error .noFactor
  | some x =>
    let wrap := Fault.multiplying params v.typeName
    match v.toNumber t with
    | .error u => .error (wrap (.unfit u))
    | .ok n =>
      let r := match n with
        | .uint64 n => product n (readUInt64? factor) x
        | .double y => .double (y * x)
        | n => n
      if isBounded r then .ok r else .error (wrap .outOfRange)

def truthWords : List String :=
  ["true", "t", "yes", "y", "on", "up", "running", "enabled", "available", "ok", "master"]

def falsityWords : List String :=
  ["false", "f", "no", "n", "off", "down", "unused", "disabled", "unavailable", "err", "slave"]

def readBoolean? (s : List Char) : Option UInt64 :=
  match readDouble? s with
  | some x => some (if x == 0 then 0 else 1)
  | none =>
    let w := String.ofList (s.map Char.toLower)
    if truthWords.contains w then some 1
    else if falsityWords.contains w then some 0
    else none

def readOctal? (s : List Char) : Option UInt64 :=
  Text.uint64? 8 (Text.trimBlanks s)

def dropHexMark : List Char → List Char
  | '0' :: 'x' :: r => r
  | '0' :: 'X' :: r => r
  | s => s

def readHex? (s : List Char) : Option UInt64 :=
  Text.uint64? 16 (dropHexMark (s.filter fun c => !Text.isBlank c))

def toDecimal (base : String) (read : List Char → Option UInt64) (v : Value) : Except Fault Value :=
  let wrap := Fault.converting v.display base
  match v.toText with
  | .error u => .error (wrap (.unfit u))
  | .ok s =>
    match read s.toList with
    | some n => .ok (.uint64 n)
    | none => .error (wrap .badFormat)

def readBound (side : String) (s : List Char) : Except Fault (Option Float) :=
  if s = [] then .ok none
  else match readDouble? s with
    | some x => .ok (some x)
    | none => .error (.badBound side (String.ofList s))

def validateRange (t : ValueType) (params : String) (v : Value) : Except Fault Value := do
  let (a, b) := Text.twoLines params.toList
  let a := Text.trimBlanks a
  let b := Text.trimBlanks b
  let low ← readBound "minimum" a
  let high ← readBound "maximum" b
  let n ← (v.toNumber t).mapError .unfit
  let x := n.toFloat?.getD (0.0 / 0.0)
  if low.any (x < ·) || high.any (x > ·) then
    .error (.outsideBounds (String.ofList a) (String.ofList b))
  else .ok v

end ItemPipeline.Step
