import ItemPipeline.Script.Library.Collection
import ItemPipeline.Script.Library.Number
import ItemPipeline.Script.Library.Text

/-!
All built-in functions, members of built-in values, and access by index.
-/

namespace ItemPipeline.Script

open Native

def anyValue (name : String) (args : List Datum) : Native :=
  match name, args with
  | "type_of", [d] => give (.text d.typeName)
  | "to_string", [d] => give (.text d.toText)
  | "to_debug", [d] => give (.text d.inner)
  | "print", [_] => give .unit
  | "debug", [_] => give .unit
  | "is_shared", [_] => give (.bool false)
  | "is_anonymous", [.function n _] => give (.bool ("anon$".toList.isPrefixOf n.toList))
  | "name", [.function n _] => give (.text n)
  | "Fn", [.text n] => give (.function n [])
  | "curry", .function n l :: more => give (.function n (l ++ more))
  | _, _ => none

def callNative (name : String) (args : List Datum) : Native :=
  Library.arrays name args <|> Library.onTexts name args <|> Library.numbers name args <|>
    Library.maps name args <|> Library.ranges name args <|> anyValue name args

def signature (name : String) (args : List Datum) : String :=
  s!"{name} (" ++ String.intercalate ", " (args.map Datum.signatureName) ++ ")"

def memberNames : List String :=
  ["len", "bytes", "is_empty", "chars", "is_odd", "is_even", "is_zero", "is_nan", "is_finite",
    "is_infinite", "floor", "ceiling", "round", "int", "fraction", "start", "end", "is_inclusive",
    "is_exclusive", "name", "is_anonymous"]

def getMember (name : String) (d : Datum) : Except Cause Datum :=
  match d with
  | .map m => .ok ((Library.member? name m).getD .unit)
  | d =>
    match (if memberNames.contains name then callNative name [d] else none) with
    | some (.ok r) => .ok r.value
    | some (.error c) => .error c
    | none => .error (.noGetter name d.typeName)

def putMember (name : String) (v d : Datum) : Except Cause Datum :=
  match d with
  | .map m => .ok (.map (setMember name v m))
  | d => .error (.noSetter name d.typeName)

def getIndex (d i : Datum) : Except Cause Datum :=
  match d, i with
  | .array l, .int k =>
    match (position? k l.length).bind fun p => l[p]? with
    | some x => .ok x
    | none => .error (.arrayBounds k l.length)
  | .map m, .text n => .ok ((Library.member? n m).getD .unit)
  | .text s, .int k =>
    match (position? k s.length).bind fun p => s.toList[p]? with
    | some c => .ok (.char c)
    | none => .error (.textBounds k s.length)
  | .text s, .range a b closed =>
    let (start, length) := rangeStretch a b closed s.length
    .ok (.text (String.ofList ((s.toList.drop start).take length)))
  | .array _, i => .error (.mismatch "i64" i.typeName)
  | .map _, i => .error (.mismatch "string" i.typeName)
  | .text _, i => .error (.mismatch "i64" i.typeName)
  | .int n, .int k =>
    if -64 ≤ k ∧ k < 64 then
      let p := if k < 0 then (64 + k).toNat else k.toNat
      .ok (.bool (shiftRight n p % 2 != 0))
    else .error (.arithmetic s!"Bit-field index {k} out of bounds: only 64 bits in bit-field")
  | d, i => .error (.noIndexer s!"{d.typeName} [{i.typeName}]")

def putIndex (d i v : Datum) : Except Cause Datum :=
  match d, i, v with
  | .array l, .int k, v =>
    match position? k l.length with
    | some p => .ok (.array (l.set p v))
    | none => .error (.arrayBounds k l.length)
  | .map m, .text n, v => .ok (.map (setMember n v m))
  | .text s, .int k, .char c =>
    match position? k s.length with
    | some p => .ok (.text (String.ofList (s.toList.set p c)))
    | none => .error (.textBounds k s.length)
  | .array _, i, _ => .error (.mismatch "i64" i.typeName)
  | .map _, i, _ => .error (.mismatch "string" i.typeName)
  | .text _, .int _, v => .error (.mismatch "char" v.typeName)
  | d, i, _ => .error (.noIndexer s!"{d.typeName} [{i.typeName}]")

def elements? : Datum → Option (List Datum)
  | .array l => some l
  | .text s => some (s.toList.map .char)
  | .range a b closed =>
    let n := (if closed then b + 1 - a else b - a).toNat
    some ((List.range (min n 200000)).map fun (k : Nat) => .int (a + k))
  | _ => none

end ItemPipeline.Script
