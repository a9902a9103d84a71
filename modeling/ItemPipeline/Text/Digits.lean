/-!
Whole numbers as digits: reading in any base up to sixteen, and reading words of 64 bits.
-/

namespace ItemPipeline.Text

def digit? (base : Nat) (c : Char) : Option Nat :=
  let n := c.toNat
  let d :=
    if 48 ≤ n ∧ n ≤ 57 then n - 48
    else if 97 ≤ n ∧ n ≤ 102 then n - 87
    else if 65 ≤ n ∧ n ≤ 70 then n - 55
    else base
  if d < base then some d else none

def isDigit (c : Char) : Bool :=
  48 ≤ c.toNat && c.toNat ≤ 57

def digitsFrom? (base : Nat) (acc : Nat) : List Char → Option Nat
  | [] => some acc
  | c :: r => (digit? base c).bind fun d => digitsFrom? base (acc * base + d) r

def digits? (base : Nat) (s : List Char) : Option Nat :=
  if s = [] then none else digitsFrom? base 0 s

def dropPlus : List Char → List Char
  | '+' :: r => r
  | s => s

def uint64? (base : Nat) (s : List Char) : Option UInt64 :=
  (digits? base (dropPlus s)).bind fun n => if n < UInt64.size then some n.toUInt64 else none

def int64? (s : List Char) : Option Int :=
  let fit (i : Int) : Option Int := if -Int.pow 2 63 ≤ i ∧ i < Int.pow 2 63 then some i else none
  match s with
  | '-' :: r => (digits? 10 r).bind fun n => fit (-n)
  | s => (digits? 10 (dropPlus s)).bind fun n => fit n

end ItemPipeline.Text
