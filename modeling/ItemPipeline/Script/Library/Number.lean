import ItemPipeline.Decimal.Read
import ItemPipeline.Script.Native
import ItemPipeline.Text.Digits

/-!
Functions on numbers, and between numbers and texts.
-/

namespace ItemPipeline.Script.Library

open Native

def digitOf? (c : Char) : Option Nat :=
  if Text.isDigit c then some (c.toNat - 48)
  else if c.isAlpha then some (c.toLower.toNat - 87)
  else none

def valueOf? (radix : Nat) (acc : Nat) : List Char → Option Nat
  | [] => some acc
  | c :: r =>
    match digitOf? c with
    | some d => if d < radix then valueOf? radix (acc * radix + d) r else none
    | none => none

def readInt (radix : Nat) (s : List Char) : Except String Int :=
  let (negative, digits) := match s with
    | '-' :: r => (true, r)
    | '+' :: r => (false, r)
    | r => (false, r)
  if s = [] then .error "cannot parse integer from empty string"
  else if digits = [] then .error "invalid digit found in string"
  else match valueOf? radix 0 digits with
    | none => .error "invalid digit found in string"
    | some n =>
      let i : Int := if negative then -n else n
      if fits i then .ok i
      else .error (if negative then "number too small to fit in target type" else "number too large to fit in target type")

def parseInt (s : String) (radix : Int) : Native :=
  if radix < 2 ∨ radix > 36 then fail s!"Invalid radix: '{radix}'"
  else match readInt radix.toNat (Text.trimBlanks s.toList) with
    | .ok n => give (.int n)
    | .error e => fail s!"Error parsing integer number '{s}': {e}"

def parseFloat (s : String) : Native :=
  let t := Text.trimBlanks s.toList
  match readFloat? t with
  | some x => give (.float x)
  | none =>
    let e := if t = [] then "cannot parse float from empty string" else "invalid float literal"
    fail s!"Error parsing floating-point number '{s}': {e}"

def wholeFloat (x : Float) : Float :=
  if x < 0 then x.ceil else x.floor

def floatToInt (x : Float) : Native :=
  if x.isNaN || x > 9223372036854775807.0 || x < -9223372036854775808.0 then
    fail s!"Integer overflow: to_int({Datum.plainFloat x})"
  else give (.int (wholeFloat x).toInt64.toInt)

def wordDigits (base : Nat) (n : Int) : String :=
  String.ofList (Nat.toDigits base (n.emod UInt64.size).toNat)

def intFunction (name : String) (n : Int) : Native :=
  match name with
  | "abs" => ofAnswer (some (checked n.natAbs s!"Negation overflow: abs({n})"))
  | "sign" => give (.int n.sign)
  | "is_zero" => give (.bool (n == 0))
  | "is_odd" => give (.bool (n % 2 != 0))
  | "is_even" => give (.bool (n % 2 == 0))
  | "to_float" => give (.float (Float.ofInt n))
  | "to_int" => give (.int n)
  | "to_hex" => give (.text (wordDigits 16 n))
  | "to_octal" => give (.text (wordDigits 8 n))
  | "to_binary" => give (.text (wordDigits 2 n))
  | _ => none

def floatFunction (name : String) (x : Float) : Native :=
  match name with
  | "abs" => give (.float x.abs)
  | "sign" =>
    if x.isNaN then fail "Sign of NaN is undefined"
    else give (.int (if x > 0 then 1 else if x < 0 then -1 else 0))
  | "is_zero" => give (.bool (x == 0))
  | "floor" => give (.float x.floor)
  | "ceiling" => give (.float x.ceil)
  | "round" => give (.float x.round)
  | "int" => give (.float (wholeFloat x))
  | "fraction" => give (.float (x - wholeFloat x))
  | "is_nan" => give (.bool x.isNaN)
  | "is_finite" => give (.bool x.isFinite)
  | "is_infinite" => give (.bool x.isInf)
  | "to_int" => floatToInt x
  | "to_float" => give (.float x)
  | "sin" => give (.float x.sin)
  | "cos" => give (.float x.cos)
  | "tan" => give (.float x.tan)
  | "asin" => give (.float x.asin)
  | "acos" => give (.float x.acos)
  | "atan" => give (.float x.atan)
  | "sinh" => give (.float x.sinh)
  | "cosh" => give (.float x.cosh)
  | "tanh" => give (.float x.tanh)
  | "sqrt" => give (.float x.sqrt)
  | "exp" => give (.float x.exp)
  | "ln" => give (.float x.log)
  | "log" => give (.float x.log10)
  | "to_degrees" => give (.float (x * (180.0 / 3.141592653589793)))
  | "to_radians" => give (.float (x * (3.141592653589793 / 180.0)))
  | _ => none

def larger (a b : Float) : Float :=
  if a.isNaN then b else if b.isNaN then a else if a < b then b else a

def smaller (a b : Float) : Float :=
  if a.isNaN then b else if b.isNaN then a else if b < a then b else a

def numberPair (name : String) (a b : Datum) : Native :=
  match name, a, b with
  | "max", .int x, .int y => give (.int (max x y))
  | "min", .int x, .int y => give (.int (min x y))
  | "max", .float x, .float y => give (.float (larger x y))
  | "min", .float x, .float y => give (.float (smaller x y))
  | "max", .int x, .float y => give (.float (larger (Float.ofInt x) y))
  | "min", .int x, .float y => give (.float (smaller (Float.ofInt x) y))
  | "max", .float x, .int y => give (.float (larger x (Float.ofInt y)))
  | "min", .float x, .int y => give (.float (smaller x (Float.ofInt y)))
  | "max", .text x, .text y => give (.text (if x < y then y else x))
  | "min", .text x, .text y => give (.text (if y < x then y else x))
  | "max", .char x, .char y => give (.char (if x < y then y else x))
  | "min", .char x, .char y => give (.char (if y < x then y else x))
  | "hypot", .float x, .float y => give (.float (x * x + y * y).sqrt)
  | "atan", .float x, .float y => give (.float (Float.atan2 x y))
  | "log", .float x, .float y => give (.float (x.log / y.log))
  | "range", .int x, .int y => give (.range x y false)
  | _, _, _ => none

def numbers (name : String) (args : List Datum) : Native :=
  match name, args with
  | "PI", [] => give (.float 3.141592653589793)
  | "E", [] => give (.float 2.718281828459045)
  | "parse_int", [.text s] => parseInt s 10
  | "parse_int", [.text s, .int r] => parseInt s r
  | "parse_float", [.text s] => parseFloat s
  | n, [.int i] => intFunction n i
  | n, [.float x] => floatFunction n x
  | n, [a, b] => numberPair n a b
  | _, _ => none

end ItemPipeline.Script.Library
