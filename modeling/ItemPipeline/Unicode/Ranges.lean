import ItemPipeline.Text.Cut
import ItemPipeline.Text.Digits

/-!
Sets of code points as ranges in increasing order, none touching the next, and their written form:
hexadecimal bounds between blanks.
-/

namespace ItemPipeline.Unicode

abbrev CharSet := List (Nat × Nat)

namespace CharSet

def contains : CharSet → Nat → Bool
  | [], _ => false
  | (a, b) :: r, n => if n < a then false else if n ≤ b then true else contains r n

def absorb (a b : Nat) : CharSet → CharSet
  | [] => [(a, b)]
  | (c, d) :: r => if c ≤ b + 1 then absorb a (max b d) r else (a, b) :: (c, d) :: r

def join : CharSet → CharSet
  | [] => []
  | (a, b) :: r => absorb a b (join r)

def ofRanges (l : List (Nat × Nat)) : CharSet :=
  join (l.mergeSort fun x y => x.1 ≤ y.1)

def union (s t : CharSet) : CharSet :=
  ofRanges (s ++ t)

def maxCode : Nat := 0x10FFFF

def gaps (a : Nat) : CharSet → CharSet
  | [] => if a ≤ maxCode then [(a, maxCode)] else []
  | (b, c) :: r => if a < b then (a, b - 1) :: gaps (c + 1) r else gaps (c + 1) r

def complement (s : CharSet) : CharSet :=
  gaps 0 s

def inter (s t : CharSet) : CharSet :=
  complement (union (complement s) (complement t))

def diff (s t : CharSet) : CharSet :=
  inter s (complement t)

def symmDiff (s t : CharSet) : CharSet :=
  union (diff s t) (diff t s)

def parseRange? (s : List Char) : Option (Nat × Nat) :=
  match Text.cutAt '-' s with
  | some (a, b) => do pure (← Text.digits? 16 a, ← Text.digits? 16 b)
  | none => (Text.digits? 16 s).map fun n => (n, n)

def parse (s : String) : CharSet :=
  (Text.splitOn ' ' s.toList).filterMap parseRange?

end CharSet

end ItemPipeline.Unicode
