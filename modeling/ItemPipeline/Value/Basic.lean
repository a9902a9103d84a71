import ItemPipeline.Decimal.Read
import ItemPipeline.Decimal.Shortest
import ItemPipeline.Text.Blank

/-!
Item values: a number, a text, a failure or nothing, their declared types, and the data that
travels with them.
-/

namespace ItemPipeline

inductive Value
  | none
  | uint64 (n : UInt64)
  | double (x : Float)
  | text (s : String)
  | error (message : String)
deriving Inhabited

inductive ValueType
  | float
  | str
  | log
  | uint64
  | text
deriving Repr, DecidableEq

namespace ValueType

def all : List ValueType :=
  [float, str, log, uint64, text]

def name : ValueType → String
  | float => "float"
  | str => "str"
  | log => "log"
  | uint64 => "uint64"
  | text => "text"

def ofName? (s : String) : Option ValueType :=
  all.find? fun t => t.name == s

def isNumeric : ValueType → Bool
  | float => true
  | uint64 => true
  | _ => false

end ValueType

/-- Doubles in item values: always positional, the fewest digits that read back, a tie going up. -/
def Decimal.plain : Decimal.Style where
  tie := .up
  keepsPoint := false
  isScientific _ := false
  nan := "NaN"
  infinite := "inf"

def formatDouble (x : Float) : String :=
  Decimal.plain.write x

namespace Value

def typeName : Value → String
  | none => "none"
  | uint64 _ => "uint64"
  | double _ => "double"
  | text _ => "string"
  | error _ => "error"

def isNone : Value → Bool
  | none => true
  | _ => false

def isError : Value → Bool
  | error _ => true
  | _ => false

/-- Equality of values: doubles compare as numbers, so the undefined number differs from itself. -/
def same : Value → Value → Bool
  | none, none => true
  | uint64 a, uint64 b => a == b
  | double a, double b => a == b
  | text a, text b => a == b
  | error a, error b => a == b
  | _, _ => false

def toFloat? : Value → Option Float
  | uint64 n => some n.toFloat
  | double x => some x
  | _ => Option.none

def display : Value → String
  | none => ""
  | uint64 n => toString n.toNat
  | double x => formatDouble x
  | text s => s
  | error s => s

inductive Unfit
  | noText (typeName : String)
  | noNumber
deriving Repr, DecidableEq

def Unfit.message : Unfit → String
  | noText t => s!"cannot convert value of type \"{t}\" to string"
  | noNumber => "cannot convert value to numeric type"

def toText (v : Value) : Except Unfit String :=
  match v with
  | text s => .ok s
  | uint64 n => .ok (toString n.toNat)
  | double x => .ok (formatDouble x)
  | none => .error (.noText v.typeName)
  | error _ => .error (.noText v.typeName)

end Value

def readUInt64? (s : List Char) : Option UInt64 :=
  Text.uint64? 10 (Text.trimBlanks s)

def readDouble? (s : List Char) : Option Float :=
  let t := Text.trimBlanks s
  if t = [] ∨ t.any (fun c => c.isAlpha && c != 'e' && c != 'E') then none
  else (readFloat? t).filter Float.isFinite

def readNumber? (s : List Char) : Option Value :=
  match readUInt64? s with
  | some n => some (.uint64 n)
  | none => (readDouble? s).map .double

def Value.toNumber (v : Value) (t : ValueType) : Except Value.Unfit Value :=
  let n? := match v with
    | .uint64 _ => some v
    | .double _ => some v
    | .text s => readNumber? s.toList
    | _ => Option.none
  match t, n? with
  | _, Option.none => .error .noNumber
  | .float, some (.uint64 n) => .ok (.double n.toFloat)
  | _, some n => .ok n

structure FileOffset where
  lastLogSize : UInt64
  modified : Int32
deriving Repr, DecidableEq

structure LogRecord where
  timestamp : Int32
  severity : Int32
  eventId : Int32
  source : Option String
deriving Repr, DecidableEq

structure ValueOptions where
  offset : Option FileOffset := none
  log : Option LogRecord := none
deriving Repr, DecidableEq

end ItemPipeline
