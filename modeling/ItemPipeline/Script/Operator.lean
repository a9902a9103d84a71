import ItemPipeline.Decimal.Remainder
import ItemPipeline.Script.Fault
import ItemPipeline.Text.Cut

/-!
Operators on values of scripts. An operator that is not defined on its operands has no answer.
-/

namespace ItemPipeline.Script

abbrev Answer := Option (Except Cause Datum)

def fits (n : Int) : Bool :=
  -Int.pow 2 63 ≤ n && n < Int.pow 2 63

def checked (n : Int) (message : String) : Except Cause Datum :=
  if fits n then .ok (.int n) else .error (.arithmetic message)

def shiftLeft (n : Int) (k : Nat) : Int :=
  if k ≥ 64 then 0 else (n * Int.pow 2 k).bmod UInt64.size

def shiftRight (n : Int) (k : Nat) : Int :=
  if k ≥ 64 then (if n < 0 then -1 else 0) else n.fdiv (Int.pow 2 k)

def bitwise (f : Nat → Nat → Nat) (a b : Int) : Int :=
  let word (n : Int) : Nat := (n.emod UInt64.size).toNat
  (f (word a) (word b) : Int).bmod UInt64.size

def power (a b : Int) : Except Cause Datum :=
  if b ≥ UInt32.size then .error (.arithmetic s!"Exponential overflow: {a} ~ {b}")
  else if b < 0 then .error (.arithmetic s!"Integer raised to a negative power: {a} ~ {b}")
  else if a.natAbs ≤ 1 then .ok (.int (a.pow (b.toNat % 2 + (if b > 0 then 2 else 0))))
  else if b > 64 then .error (.arithmetic s!"Exponential overflow: {a} ~ {b}")
  else checked (a.pow b.toNat) s!"Exponential overflow: {a} ~ {b}"

def intOp (op : String) (a b : Int) : Answer :=
  match op with
  | "+" => some (checked (a + b) s!"Addition overflow: {a} + {b}")
  | "-" => some (checked (a - b) s!"Subtraction overflow: {a} - {b}")
  | "*" => some (checked (a * b) s!"Multiplication overflow: {a} * {b}")
  | "/" => some (if b = 0 then .error (.arithmetic s!"Division by zero: {a} / {b}")
      else checked (a.tdiv b) s!"Division overflow: {a} / {b}")
  | "%" => some (if b = 0 then .error (.arithmetic s!"Modulo division by zero: {a} % {b}")
      else checked (a.tmod b) s!"Modulo division overflow: {a} % {b}")
  | "**" => some (power a b)
  | "<<" => some (.ok (.int (if b < 0 then shiftRight a b.natAbs else shiftLeft a b.toNat)))
  | ">>" => some (.ok (.int (if b < 0 then shiftLeft a b.natAbs else shiftRight a b.toNat)))
  | "&" => some (.ok (.int (bitwise Nat.land a b)))
  | "|" => some (.ok (.int (bitwise Nat.lor a b)))
  | "^" => some (.ok (.int (bitwise Nat.xor a b)))
  | "==" => some (.ok (.bool (a == b)))
  | "!=" => some (.ok (.bool (a != b)))
  | "<" => some (.ok (.bool (a < b)))
  | "<=" => some (.ok (.bool (a ≤ b)))
  | ">" => some (.ok (.bool (a > b)))
  | ">=" => some (.ok (.bool (a ≥ b)))
  | _ => none

def floatOp (op : String) (a b : Float) : Answer :=
  match op with
  | "+" => some (.ok (.float (a + b)))
  | "-" => some (.ok (.float (a - b)))
  | "*" => some (.ok (.float (a * b)))
  | "/" => some (.ok (.float (a / b)))
  | "%" => some (.ok (.float (Decimal.remainder a b)))
  | "**" => some (.ok (.float (a.pow b)))
  | "==" => some (.ok (.bool (a == b)))
  | "!=" => some (.ok (.bool (a != b)))
  | "<" => some (.ok (.bool (a < b)))
  | "<=" => some (.ok (.bool (a ≤ b)))
  | ">" => some (.ok (.bool (a > b)))
  | ">=" => some (.ok (.bool (a ≥ b)))
  | _ => none

def orderOp (op : String) (o : Ordering) : Answer :=
  match op with
  | "==" => some (.ok (.bool o.isEq))
  | "!=" => some (.ok (.bool o.isNe))
  | "<" => some (.ok (.bool o.isLT))
  | "<=" => some (.ok (.bool o.isLE))
  | ">" => some (.ok (.bool o.isGT))
  | ">=" => some (.ok (.bool o.isGE))
  | _ => none

def compareText (a b : String) : Ordering :=
  if a = b then .eq else if a < b then .lt else .gt

def removeAll (x s : String) : String :=
  String.ofList (Text.replaceAll x.toList [] s.toList)

def textOp (op : String) (a b : String) : Answer :=
  match op with
  | "+" => some (.ok (.text (a ++ b)))
  | "-" => some (.ok (.text (removeAll b a)))
  | op => orderOp op (compareText a b)

def boolOp (op : String) (a b : Bool) : Answer :=
  match op with
  | "&" => some (.ok (.bool (a && b)))
  | "|" => some (.ok (.bool (a || b)))
  | "^" => some (.ok (.bool (a != b)))
  | op => orderOp op (compare a.toNat b.toNat)

def mixin (a b : List (String × Datum)) : List (String × Datum) :=
  b.foldl (fun m (n, d) => insertMember n d m) a
where
  insertMember (n : String) (d : Datum) : List (String × Datum) → List (String × Datum)
    | [] => [(n, d)]
    | (k, v) :: r => if n = k then (n, d) :: r else if n < k then (n, d) :: (k, v) :: r else (k, v) :: insertMember n d r

def setMember (n : String) (d : Datum) (m : List (String × Datum)) : List (String × Datum) :=
  mixin.insertMember n d m

mutual

/-- Equality as scripts see it: numbers by value, everything else by kind and content. -/
def same : Datum → Datum → Bool
  | .unit, .unit => true
  | .bool a, .bool b => a == b
  | .int a, .int b => a == b
  | .float a, .float b => a == b
  | .int a, .float b => Float.ofInt a == b
  | .float a, .int b => a == Float.ofInt b
  | .char a, .char b => a == b
  | .text a, .text b => a == b
  | .char a, .text b => String.singleton a == b
  | .text a, .char b => a == String.singleton b
  | .array a, .array b => sameList a b
  | .map a, .map b => sameMembers a b
  | .range a b c, .range a' b' c' => a == a' && b == b' && c == c'
  | .function n a, .function m b => n == m && sameList a b
  | .shared a, .shared b => a == b
  | _, _ => false

def sameList : List Datum → List Datum → Bool
  | [], [] => true
  | a :: r, b :: t => same a b && sameList r t
  | _, _ => false

def sameMembers : List (String × Datum) → List (String × Datum) → Bool
  | [], [] => true
  | (n, a) :: r, (m, b) :: t => n == m && same a b && sameMembers r t
  | _, _ => false

end

def equalityOp (op : String) (equal : Bool) : Answer :=
  match op with
  | "==" => some (.ok (.bool equal))
  | "!=" => some (.ok (.bool !equal))
  | _ => none

def unlikeOp (op : String) : Answer :=
  match op with
  | "==" | "<" | "<=" | ">" | ">=" => some (.ok (.bool false))
  | "!=" => some (.ok (.bool true))
  | _ => none

def besideText (op : String) (a b : Datum) : Answer :=
  match op, a, b with
  | "+", a, b => some (.ok (.text (a.toText ++ b.toText)))
  | op, .unit, .text _ => orderOp op .lt
  | op, .text _, .unit => orderOp op .gt
  | op, _, _ => unlikeOp op

def binaryOp (op : String) (a b : Datum) : Answer :=
  match a, b with
  | .int x, .int y => intOp op x y
  | .float x, .float y => floatOp op x y
  | .int x, .float y => floatOp op (Float.ofInt x) y
  | .float x, .int y => floatOp op x (Float.ofInt y)
  | .text x, .text y => textOp op x y
  | .text x, .char y => textOp op x (String.singleton y)
  | .char x, .text y => textOp op (String.singleton x) y
  | .char x, .char y =>
    if op = "+" then some (.ok (.text (String.ofList [x, y]))) else orderOp op (compare x.toNat y.toNat)
  | .bool x, .bool y => boolOp op x y
  | .array x, .array y => if op = "+" then some (.ok (.array (x ++ y))) else equalityOp op (sameList x y)
  | .map x, .map y => if op = "+" then some (.ok (.map (mixin x y))) else equalityOp op (sameMembers x y)
  | .unit, .unit => match op with
    | "==" => some (.ok (.bool true))
    | "!=" | "<" | "<=" | ">" | ">=" => some (.ok (.bool false))
    | _ => none
  | .text x, b => besideText op (.text x) b
  | a, .text y => besideText op a (.text y)
  | .range a b c, .range a' b' c' => equalityOp op (same (.range a b c) (.range a' b' c'))
  | .function n x, .function m y => equalityOp op (n == m && sameList x y)
  | _, _ => unlikeOp op

def unaryOp (op : String) (a : Datum) : Answer :=
  match op, a with
  | "-", .int n => some (checked (-n) s!"Negation overflow: -{n}")
  | "-", .float x => some (.ok (.float (-x)))
  | "+", .int n => some (.ok (.int n))
  | "+", .float x => some (.ok (.float x))
  | "!", .bool b => some (.ok (.bool !b))
  | _, _ => none

def assignOp (op : String) (a b : Datum) : Answer :=
  match op, a, b with
  | "+", .array x, .array y => some (.ok (.array (x ++ y)))
  | "+", .array x, d => some (.ok (.array (x ++ [d])))
  | op, a, b => binaryOp op a b

end ItemPipeline.Script
