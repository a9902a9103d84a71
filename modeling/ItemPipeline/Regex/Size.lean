import ItemPipeline.Regex.Basic

/-!
The bytes of memory that an expression takes when it is compiled to run on the bytes of a text, forward or backward.
-/

namespace ItemPipeline.Regex

open Unicode (CharSet)

abbrev Digits := List (Nat × Nat)

/-- The numbers between two bounds in blocks whose digits each run through a range of their own. -/
def blocks : Nat → Nat → Nat → List Digits
  | 0, a, b => [[(a, b)]]
  | k + 1, a, b =>
    let unit := Nat.pow 64 (k + 1)
    let first := a / unit
    let last := b / unit
    if first = last then (blocks k (a % unit) (b % unit)).map ((first, first) :: ·)
    else
      let low := if a % unit = 0 then [] else (blocks k (a % unit) (unit - 1)).map ((first, first) :: ·)
      let high := if b % unit = unit - 1 then [] else (blocks k 0 (b % unit)).map ((last, last) :: ·)
      let start := if low.isEmpty then first else first + 1
      let stop := if high.isEmpty then last + 1 else last
      let full := if start < stop then [(start, stop - 1) :: List.replicate (k + 1) (0, 63)] else []
      low ++ full ++ high

structure Encoding where
  first : Nat
  last : Nat
  continuations : Nat
  lead : Nat

def encodings : List Encoding :=
  [⟨0, 0x7F, 0, 0⟩, ⟨0x80, 0x7FF, 1, 0xC0⟩, ⟨0x800, 0xD7FF, 2, 0xE0⟩, ⟨0xE000, 0xFFFF, 2, 0xE0⟩,
    ⟨0x10000, 0x10FFFF, 3, 0xF0⟩]

def Encoding.blocks (e : Encoding) (a b : Nat) : List Digits :=
  let a := max a e.first
  let b := min b e.last
  if a ≤ b then (Regex.blocks e.continuations a b).map fun d => match d with
    | (p, q) :: r => (p + e.lead, q + e.lead) :: r
    | [] => []
  else []

def sequences (s : CharSet) : List Digits :=
  s.flatMap fun (a, b) => encodings.flatMap fun e => e.blocks a b

def grouped : List Digits → List ((Nat × Nat) × List Digits)
  | [] => []
  | [] :: r => grouped r
  | (x :: d) :: r =>
    match grouped r with
    | [] => [(x, [d])]
    | (y, l) :: g => if x = y then (y, d :: l) :: g else (x, [d]) :: (y, l) :: g

/-- The states of a forward run, each told by what follows it. -/
def states : Nat → List (List Digits) → List (List Digits)
  | 0, _ => []
  | depth + 1, level =>
    let next := (level.flatMap fun l => (grouped l).map (·.2)).filter (· ≠ [[]])
    level ++ states depth next.eraseDups

def branchCount : Nat → List Digits → Nat
  | 0, _ => 0
  | depth + 1, l => (grouped l).foldl (fun n g => n + 1 + branchCount depth g.2) 0

def isSingle : CharSet → Bool
  | [(a, b)] => a == b
  | _ => false

def classWeight (backward : Bool) (s : CharSet) : Nat :=
  let l := sequences s
  if isSingle s then 32 * l.flatten.length
  else if s.all fun (_, b) => b < 128 then 64 + 8 * s.length
  else if backward then 64 + 32 * branchCount 4 l + 4 * l.length
  else (states 4 [l]).eraseDups.foldl (fun n state => n + 32 + 8 * (grouped state).length) 32

def branchWeight (r : Regex) (weight : Nat) : Nat :=
  match r with
  | alt _ _ => weight - 64
  | _ => max 32 weight + 4

def isVoid : Regex → Bool
  | empty => true
  | look _ => true
  | chars _ => false
  | capture _ r => r.isVoid
  | seq r s => r.isVoid && s.isVoid
  | alt r s => r.isVoid && s.isVoid
  | repetition _ b _ r => b == some 0 || r.isVoid

def repeatedWeight (nullable : Bool) (a : Nat) (b : Option Nat) (weight : Nat) : Nat :=
  let each := max 32 weight
  match a, b with
  | 0, some 0 => 0
  | 0, some 1 => each + 72
  | 0, none => each + if nullable then 112 else 40
  | 1, some 1 => weight
  | a, none => a * each + 40
  | a, some b => (if a = 0 then 32 else a * each) + if a = b then 0 else 32 + (b - a) * (each + 40)

def weight (backward : Bool) : Regex → Nat
  | empty => 0
  | look _ => 32
  | chars s => classWeight backward s
  | capture _ r => max 32 (weight backward r) + if backward then 0 else 64
  | seq r s => weight backward r + weight backward s
  | alt r s => 64 + branchWeight r (weight backward r) + branchWeight s (weight backward s)
  | repetition a b _ r =>
    let (a, b) := if r.isVoid then (min a 1, some (min 1 (b.getD 1))) else (a, b)
    repeatedWeight r.nullable a b (weight backward r)

/-- The search for a first place and the end of a match are states too. -/
def size (r : Regex) : Nat :=
  144 + max (weight false (.capture 0 r)) (weight true (.capture 0 r))

end ItemPipeline.Regex
