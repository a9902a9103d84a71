/-!
The fewest digits that read back to a given double, and its two written forms: positional, and
positional or scientific by size.
-/

namespace ItemPipeline.Decimal

inductive Tie
  | up
  | even
deriving Repr, DecidableEq

/-- A positive finite double `mantissa · 2 ^ exponent` with its rounding interval in units of
`2 ^ (exponent - 2)`; the ends belong to it when `closed`. -/
structure Binary where
  mantissa : Nat
  exponent : Int
  low : Nat
  high : Nat
  closed : Bool
deriving Repr, DecidableEq

def Binary.ofBits (bits : Nat) : Binary :=
  let fraction : Nat := bits % Nat.pow 2 52
  let e : Nat := bits / Nat.pow 2 52 % Nat.pow 2 11
  let m : Nat := if e = 0 then fraction else fraction + Nat.pow 2 52
  { mantissa := m
    exponent := (max e 1 : Int) - 1075
    low := if fraction = 0 ∧ e > 1 then 4 * m - 1 else 4 * m - 2
    high := 4 * m + 2
    closed := m % 2 == 0 }

def ratio (n : Nat) (q p : Int) : Nat × Nat :=
  (n * Nat.pow 2 q.toNat * Nat.pow 10 (-p).toNat, Nat.pow 2 (-q).toNat * Nat.pow 10 p.toNat)

def Binary.holds (b : Binary) (d : Nat) (p : Int) : Bool :=
  let (low, s) := ratio b.low (b.exponent - 2) p
  let (high, _) := ratio b.high (b.exponent - 2) p
  if b.closed then low ≤ d * s && d * s ≤ high else low < d * s && d * s < high

def Binary.onGrid (b : Binary) (tie : Tie) (p : Int) : Option Nat :=
  let (n, s) := ratio b.mantissa b.exponent p
  let d := n / s
  let r := n % s
  match b.holds d p, b.holds (d + 1) p with
  | false, false => none
  | true, false => some d
  | false, true => some (d + 1)
  | true, true =>
    if 2 * r < s then some d
    else if 2 * r > s then some (d + 1)
    else match tie with
      | .up => some (d + 1)
      | .even => some (if d % 2 = 0 then d else d + 1)

def climb (n s : Nat) (k : Nat) : Nat → Nat
  | 0 => k
  | fuel + 1 => if n < Nat.pow 10 k * s then k else climb n s (k + 1) fuel

def Binary.scale (b : Binary) : Int :=
  let start := (b.exponent + b.mantissa.log2) * 30103 / 100000 - 1
  let (n, s) := ratio b.mantissa b.exponent start
  start + climb n s 0 5

def Binary.shortest (b : Binary) (tie : Tie) : Nat × Int :=
  let k := b.scale
  let rec go (count : Nat) : Nat → Nat × Int
    | 0 => (0, 0)
    | fuel + 1 =>
      let p := k - count
      match b.onGrid tie p with
      | some d => (d, p)
      | none => go (count + 1) fuel
  go 1 18

def stripZeros (d : Nat) (p : Int) : Nat → Nat × Int
  | 0 => (d, p)
  | fuel + 1 => if d ≠ 0 ∧ d % 10 = 0 then stripZeros (d / 10) (p + 1) fuel else (d, p)

def digitChars (d : Nat) : List Char :=
  Nat.toDigits 10 d

def zeros (n : Nat) : List Char :=
  List.replicate n '0'

def positional (d : Nat) (p : Int) : List Char :=
  let ds := digitChars d
  if p ≥ 0 then ds ++ zeros p.toNat
  else
    let places := (-p).toNat
    if places < ds.length then
      ds.take (ds.length - places) ++ '.' :: ds.drop (ds.length - places)
    else '0' :: '.' :: (zeros (places - ds.length) ++ ds)

def scientific (plus : Bool) (d : Nat) (p : Int) : List Char :=
  let ds := digitChars d
  let e := p + ds.length - 1
  let head := match ds with
    | [] => []
    | [a] => [a]
    | a :: r => a :: '.' :: r
  head ++ 'e' :: (if e < 0 then ['-'] else if plus then ['+'] else []) ++ digitChars e.natAbs

structure Style where
  tie : Tie
  keepsPoint : Bool
  isScientific : Int → Bool
  plus : Bool := true
  nan : String
  infinite : String

def Style.magnitude (n : Style) (bits : Nat) : List Char :=
  if bits = 0 then if n.keepsPoint then "0.0".toList else ['0']
  else
    let b := Binary.ofBits bits
    let (d, p) := b.shortest n.tie
    let (d, p) := stripZeros d p 20
    if n.isScientific (p + (digitChars d).length - 1) then scientific n.plus d p
    else if n.keepsPoint ∧ p ≥ 0 then positional d p ++ ".0".toList
    else positional d p

def Style.write (n : Style) (x : Float) : String :=
  if x.isNaN then n.nan
  else
    let bits := x.toBits.toNat
    let sign := if bits ≥ Nat.pow 2 63 then "-" else ""
    if x.isInf then sign ++ n.infinite
    else sign ++ String.ofList (n.magnitude (bits % Nat.pow 2 63))

end ItemPipeline.Decimal
