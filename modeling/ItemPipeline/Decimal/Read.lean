import ItemPipeline.Text.Digits

/-!
Decimal fractions as text: an optional sign, digits with at most one point and at least one digit,
and an optional exponent. The nearest double of the fraction.
-/

namespace ItemPipeline

structure Decimal where
  negative : Bool
  digits : Nat
  exponent : Int
deriving Repr, DecidableEq

namespace Decimal

def spanDigits (s : List Char) : List Char × List Char :=
  (s.takeWhile Text.isDigit, s.dropWhile Text.isDigit)

def sign : List Char → Bool × List Char
  | '-' :: r => (true, r)
  | '+' :: r => (false, r)
  | s => (false, s)

def exponent? : List Char → Option Int
  | [] => some 0
  | c :: r =>
    if c = 'e' ∨ c = 'E' then
      let (negative, d) := sign r
      (Text.digits? 10 d).map fun n => if negative then -(n : Int) else n
    else none

def parse? (s : List Char) : Option Decimal :=
  let (negative, s) := sign s
  let (whole, s) := spanDigits s
  let (part, s) := match s with
    | '.' :: r => spanDigits r
    | s => ([], s)
  if whole = [] ∧ part = [] then none
  else do
    let n ← Text.digits? 10 (whole ++ part)
    let e ← exponent? s
    pure ⟨negative, n, e - part.length⟩

/-- Beyond 10^400 either way the answer is infinite or zero. -/
def magnitude (d : Decimal) : Float :=
  if d.digits = 0 then 0
  else
    let top := d.exponent + (Nat.toDigits 10 d.digits).length
    if top > 400 then 1.0 / 0.0
    else if top < -400 then 0
    else Float.ofScientific d.digits (d.exponent < 0) d.exponent.natAbs

def toFloat (d : Decimal) : Float :=
  if d.negative then -d.magnitude else d.magnitude

end Decimal

def lowerAscii (s : List Char) : List Char :=
  s.map Char.toLower

def readFloat? (s : List Char) : Option Float :=
  let (negative, r) := Decimal.sign s
  let signed (x : Float) : Float := if negative then -x else x
  let name := lowerAscii r
  if name = "inf".toList ∨ name = "infinity".toList then some (signed (1.0 / 0.0))
  else if name = "nan".toList then some (signed (0.0 / 0.0))
  else (Decimal.parse? s).map Decimal.toFloat

end ItemPipeline
