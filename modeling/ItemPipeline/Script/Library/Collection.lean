import ItemPipeline.Script.Native

/-!
Functions on arrays, maps and ranges, those that take functions apart.
-/

namespace ItemPipeline.Script.Library

open Native

def arrayLimit : Nat := 10000

def checkedArray (l : List Datum) (d : Datum := .unit) : Native :=
  if l.length > arrayLimit then some (.error (.tooLarge "Size of array/BLOB")) else change (.array l) d

def dropRepeats : List Datum → List Datum
  | [] => []
  | a :: r =>
    match dropRepeats r with
    | [] => [a]
    | b :: t => if same a b then a :: t else a :: b :: t

def indexIn (x : Datum) (i : Nat) : List Datum → Int
  | [] => -1
  | a :: r => if same a x then i else indexIn x (i + 1) r

def order? : Datum → Datum → Option Ordering
  | .int a, .int b => some (compare a b)
  | .float a, .float b => some (if a < b then .lt else if b < a then .gt else .eq)
  | .char a, .char b => some (compare a.toNat b.toNat)
  | .text a, .text b => some (compareText a b)
  | .bool a, .bool b => some (compare a.toNat b.toNat)
  | _, _ => none

def isSortable : List Datum → Bool
  | [] => true
  | a :: r => r.all fun b => (order? a b).isSome

def sortArray (l : List Datum) : Native :=
  if isSortable l ∨ l.length ≤ 1 then change (.array (l.mergeSort fun a b => (order? a b).all (·.isLE)))
  else some (.error (.unknownFunction "sort() cannot be called with elements of different types"))

def arrayOnly (name : String) (l : List Datum) : Native :=
  match name with
  | "len" => give (.int l.length)
  | "is_empty" => give (.bool l.isEmpty)
  | "clear" => change (.array [])
  | "pop" => change (.array l.dropLast) (l.getLast?.getD .unit)
  | "shift" => change (.array l.tail) (l.head?.getD .unit)
  | "reverse" => change (.array l.reverse)
  | "dedup" => change (.array (dropRepeats l))
  | "sort" => sortArray l
  | _ => none

def arrayStretch (name : String) (l : List Datum) (start length : Nat) : Native :=
  let part := (l.drop start).take length
  let others := l.take start ++ l.drop (start + length)
  match name with
  | "extract" => give (.array part)
  | "drain" => change (.array others) (.array part)
  | "retain" => change (.array part) (.array others)
  | _ => none

def arrayInt (name : String) (l : List Datum) (i : Int) : Native :=
  match name with
  | "get" => give (((position? i l.length).bind fun k => l[k]?).getD .unit)
  | "remove" =>
    match position? i l.length with
    | some k => change (.array (l.eraseIdx k)) (l[k]?.getD .unit)
    | none => give .unit
  | "truncate" => change (.array (l.take i.toNat))
  | "chop" => change (.array (l.drop (l.length - i.toNat)))
  | "extract" => give (.array (l.drop (offset i l.length)))
  | "split" => change (.array (l.take (offset i l.length))) (.array (l.drop (offset i l.length)))
  | _ => none

def arrayWith (name : String) (l : List Datum) (x : Datum) : Native :=
  match name, x with
  | "push", x => checkedArray (l ++ [x])
  | "append", .array m => checkedArray (l ++ m)
  | "contains", x => give (.bool (l.any fun a => same a x))
  | "index_of", x => give (.int (indexIn x 0 l))
  | n, .int i => arrayInt n l i
  | n, .range a b closed =>
    let (start, length) := rangeStretch a b closed l.length
    arrayStretch n l start length
  | _, _ => none

def arrayTwo (name : String) (l : List Datum) (a b : Datum) : Native :=
  match name, a, b with
  | "insert", .int i, x =>
    let k := offset i l.length
    checkedArray (l.take k ++ x :: l.drop k)
  | "set", .int i, x =>
    match position? i l.length with
    | some k => change (.array (l.set k x))
    | none => change (.array l)
  | "pad", .int n, x =>
    if n > arrayLimit then some (.error (.tooLarge "Size of array/BLOB"))
    else change (.array (l ++ List.replicate (n.toNat - l.length) x))
  | "index_of", x, .int i =>
    let k := offset i l.length
    give (.int (indexIn x k (l.drop k)))
  | "splice", .range a b closed, .array m =>
    let (start, length) := rangeStretch a b closed l.length
    checkedArray (l.take start ++ m ++ l.drop (start + length))
  | n, .int i, .int k =>
    let (start, length) := stretch i k l.length
    arrayStretch n l start length
  | _, _, _ => none

def arrays (name : String) (args : List Datum) : Native :=
  match name, args with
  | n, [.array l] => arrayOnly n l
  | n, [.array l, x] => arrayWith n l x
  | n, [.array l, a, b] => arrayTwo n l a b
  | "splice", [.array l, .int i, .int k, .array m] =>
    let (start, length) := stretch i k l.length
    checkedArray (l.take start ++ m ++ l.drop (start + length))
  | _, _ => none

def member? (n : String) (m : List (String × Datum)) : Option Datum :=
  (m.find? fun e => e.1 == n).map (·.2)

def mapLimit : Nat := 10000

def checkedMap (m : List (String × Datum)) (d : Datum := .unit) : Native :=
  if m.length > mapLimit then some (.error (.tooLarge "Size of object map")) else change (.map m) d

mutual

def jsonOf : Datum → String
  | .map m => "\x7b" ++ String.intercalate "," (jsonMembers m) ++ "\x7d"
  | .unit => "null"
  | d => d.inner

def jsonMembers : List (String × Datum) → List String
  | [] => []
  | (n, d) :: r => (Unicode.quoted '"' n.toList ++ ":" ++ jsonOf d) :: jsonMembers r

end

def maps (name : String) (args : List Datum) : Native :=
  match name, args with
  | "len", [.map m] => give (.int m.length)
  | "is_empty", [.map m] => give (.bool m.isEmpty)
  | "clear", [.map _] => change (.map [])
  | "keys", [.map m] => give (.array (m.map fun e => .text e.1))
  | "values", [.map m] => give (.array (m.map (·.2)))
  | "to_json", [.map m] => give (.text (jsonOf (.map m)))
  | "contains", [.map m, .text n] => give (.bool (member? n m).isSome)
  | "get", [.map m, .text n] => give ((member? n m).getD .unit)
  | "set", [.map m, .text n, d] => checkedMap (setMember n d m)
  | "remove", [.map m, .text n] => change (.map (m.filter fun e => e.1 != n)) ((member? n m).getD .unit)
  | "mixin", [.map m, .map k] => checkedMap (mixin m k)
  | "fill_with", [.map m, .map k] => checkedMap (mixin k m)
  | _, _ => none

def ranges (name : String) (args : List Datum) : Native :=
  match name, args with
  | "start", [.range a _ _] => give (.int a)
  | "end", [.range _ b _] => give (.int b)
  | "is_inclusive", [.range _ _ c] => give (.bool c)
  | "is_exclusive", [.range _ _ c] => give (.bool !c)
  | "is_empty", [.range a b c] => give (.bool (if c then b < a else b ≤ a))
  | "contains", [.range a b c, .int i] => give (.bool (a ≤ i && (if c then i ≤ b else i < b)))
  | "range", [.int a, .int b, .int k] =>
    if k > 0 then give (.array ((List.range (((b - a + k - 1).fdiv k).toNat)).map fun (i : Nat) => .int (a + i * k)))
    else if k < 0 then give (.array ((List.range (((a - b - k - 1).fdiv (-k)).toNat)).map fun (i : Nat) => .int (a + i * k)))
    else fail "step value cannot be zero"
  | _, _ => none

end ItemPipeline.Script.Library
