import ItemPipeline.Decimal.Read
import ItemPipeline.Decimal.Remainder
import ItemPipeline.Value.Basic
import ItemPipeline.XPath.Table
import ItemPipeline.Xml.Parser

/-!
Evaluation of expressions at a node of a document.
-/

namespace ItemPipeline.XPath

inductive Value
  | boolean (b : Bool)
  | number (x : Float)
  | text (s : String)
  | nodes (l : List Nat)

structure Context where
  node : Nat
  position : Nat := 1
  size : Nat := 1

def inOrder (l : List Nat) : List Nat :=
  let rec once : List Nat → List Nat
    | [] => []
    | [a] => [a]
    | a :: b :: r => if a = b then once (b :: r) else a :: once (b :: r)
  once (l.mergeSort (· ≤ ·))

def numberText (x : Float) : String :=
  if x.isInf then (if x < 0 then "-Infinity" else "Infinity") else formatDouble x

def textNumber (s : String) : Float :=
  (readFloat? (Text.trimBlanks s.toList)).getD (0.0 / 0.0)

namespace Value

def toText (t : Table) : Value → String
  | boolean b => if b then "true" else "false"
  | number x => numberText x
  | text s => s
  | nodes [] => ""
  | nodes (i :: _) => t.stringValue i

def toNumber (t : Table) : Value → Float
  | boolean b => if b then 1 else 0
  | number x => x
  | v => textNumber (v.toText t)

def toBool : Value → Bool
  | boolean b => b
  | number x => !x.isNaN && x != 0
  | text s => s != ""
  | nodes l => !l.isEmpty

def same (t : Table) (a b : Value) : Bool :=
  match a, b with
  | nodes l, nodes m =>
    let right := m.map t.stringValue
    l.any fun i => right.contains (t.stringValue i)
  | nodes l, number x => l.any fun i => textNumber (t.stringValue i) == x
  | number x, nodes l => l.any fun i => textNumber (t.stringValue i) == x
  | nodes l, text s => l.any fun i => t.stringValue i == s
  | text s, nodes l => l.any fun i => t.stringValue i == s
  | boolean x, b => x == b.toBool
  | a, boolean y => a.toBool == y
  | number x, b => x == b.toNumber t
  | a, number y => a.toNumber t == y
  | a, b => a.toText t == b.toText t

end Value

def binary (t : Table) (op : BinaryOp) (a b : Value) : Except Fault Value :=
  let x := a.toNumber t
  let y := b.toNumber t
  match op with
  | .or => .ok (.boolean (a.toBool || b.toBool))
  | .and => .ok (.boolean (a.toBool && b.toBool))
  | .eq => .ok (.boolean (a.same t b))
  | .ne => .ok (.boolean (!a.same t b))
  | .lt => .ok (.boolean (x < y))
  | .le => .ok (.boolean (x ≤ y))
  | .gt => .ok (.boolean (x > y))
  | .ge => .ok (.boolean (x ≥ y))
  | .add => .ok (.number (x + y))
  | .sub => .ok (.number (x - y))
  | .mul => .ok (.number (x * y))
  | .div => .ok (.number (x / y))
  | .mod => .ok (.number (Decimal.remainder x y))
  | .union =>
    match a, b with
    | .nodes l, .nodes m => .ok (.nodes (inOrder (l ++ m)))
    | _, _ => .error .notNodes

def roundUp (x : Float) : Float :=
  let y := x.floor
  if x == y || x.isNaN || x.isInf then x
  else
    let z := (2.0 * x - y).floor
    if x < 0 then -(z.abs) else z.abs

def substring (s : String) (start length : Float) : String :=
  let a := roundUp start
  let b := a + roundUp length
  let inside (i : Nat) : Bool := a ≤ (i + 1).toFloat && (i + 1).toFloat < b
  String.ofList ((s.toList.zipIdx.filter fun (_, i) => inside i).map (·.1))

def normalizeSpace (s : List Char) : List Char :=
  let words := (s.splitBy fun a b => Xml.Reader.isSpace a == Xml.Reader.isSpace b).filter fun w =>
    !(w.head?.any Xml.Reader.isSpace)
  [' '].intercalate words

def translate (s old new : List Char) : List Char :=
  s.filterMap fun c =>
    match old.idxOf? c with
    | none => some c
    | some i => new[i]?

def splitText? (sep : List Char) : List Char → Option (List Char × List Char)
  | [] => if sep = [] then some ([], []) else none
  | c :: r =>
    match Text.dropPrefix? sep (c :: r) with
    | some t => some ([], t)
    | none => (splitText? sep r).map fun (a, b) => (c :: a, b)

def arity? : String → Option (Nat × Option Nat)
  | "last" => some (0, some 0)
  | "position" => some (0, some 0)
  | "count" => some (1, some 1)
  | "local-name" => some (0, some 1)
  | "namespace-uri" => some (0, some 1)
  | "name" => some (0, some 1)
  | "string" => some (0, some 1)
  | "concat" => some (2, none)
  | "starts-with" => some (2, some 2)
  | "contains" => some (2, some 2)
  | "substring-before" => some (2, some 2)
  | "substring-after" => some (2, some 2)
  | "substring" => some (2, some 3)
  | "string-length" => some (0, some 1)
  | "normalize-space" => some (0, some 1)
  | "translate" => some (3, some 3)
  | "boolean" => some (1, some 1)
  | "not" => some (1, some 1)
  | "true" => some (0, some 0)
  | "false" => some (0, some 0)
  | "number" => some (0, some 1)
  | "sum" => some (1, some 1)
  | "floor" => some (1, some 1)
  | "ceiling" => some (1, some 1)
  | "round" => some (1, some 1)
  | _ => none

def qualifiedName (n : Xml.Name) : String :=
  match n.qualifier with
  | some p => p ++ ":" ++ n.localPart
  | none => n.localPart

def callFunction (t : Table) (c : Context) (f : QName) (args : List Value) : Except Fault Value :=
  let here : Value := .nodes [c.node]
  let arg (i : Nat) : Value := args.getD i here
  let str (i : Nat) : List Char := ((arg i).toText t).toList
  let text (s : List Char) : Except Fault Value := .ok (.text (String.ofList s))
  let named (g : Xml.Name → String) : Except Fault Value :=
    match arg 0 with
    | .nodes [] => .ok (.text "")
    | .nodes (i :: _) => .ok (.text (((t.name? i).map g).getD ""))
    | _ => .error (.argumentNotNodes f)
  match f.localPart with
  | "last" => .ok (.number c.size.toFloat)
  | "position" => .ok (.number c.position.toFloat)
  | "count" =>
    match arg 0 with
    | .nodes l => .ok (.number l.length.toFloat)
    | _ => .error (.argumentNotNodes f)
  | "local-name" => named fun n => n.localPart
  | "namespace-uri" => named fun n => n.namespaceUri.getD ""
  | "name" => named qualifiedName
  | "string" => .ok (.text ((arg 0).toText t))
  | "concat" => .ok (.text (String.join (args.map fun a => a.toText t)))
  | "starts-with" => .ok (.boolean ((str 1).isPrefixOf (str 0)))
  | "contains" => .ok (.boolean (splitText? (str 1) (str 0)).isSome)
  | "substring-before" => text (((splitText? (str 1) (str 0)).map (·.1)).getD [])
  | "substring-after" => text (((splitText? (str 1) (str 0)).map (·.2)).getD [])
  | "substring" =>
    .ok (.text (substring ((arg 0).toText t) ((arg 1).toNumber t)
      (if args.length = 3 then (arg 2).toNumber t else 1.0 / 0.0)))
  | "string-length" => .ok (.number (str 0).length.toFloat)
  | "normalize-space" => text (normalizeSpace (str 0))
  | "translate" => text (translate (str 0) (str 1) (str 2))
  | "boolean" => .ok (.boolean (arg 0).toBool)
  | "not" => .ok (.boolean (!(arg 0).toBool))
  | "true" => .ok (.boolean true)
  | "false" => .ok (.boolean false)
  | "number" => .ok (.number ((arg 0).toNumber t))
  | "sum" =>
    match arg 0 with
    | .nodes l => .ok (.number (l.foldl (fun x i => x + textNumber (t.stringValue i)) 0))
    | _ => .error (.argumentNotNodes f)
  | "floor" => .ok (.number ((arg 0).toNumber t).floor)
  | "ceiling" => .ok (.number ((arg 0).toNumber t).ceil)
  | "round" => .ok (.number (roundUp ((arg 0).toNumber t)))
  | _ => .error (.unknownFunction f)

def knownFunction (f : QName) : Except Fault (Nat × Option Nat) :=
  match f.qualifier, arity? f.localPart with
  | none, some a => .ok a
  | _, _ => .error (.unknownFunction f)

def checkArity (f : QName) (arity : Nat × Option Nat) (n : Nat) : Except Fault Unit :=
  if n < arity.1 then .error (.tooFewArguments f arity.1 n)
  else match arity.2 with
    | some m => if n > m then .error (.tooManyArguments f m n) else .ok ()
    | none => .ok ()

def checkQualifier : NodeTest → Except Fault Unit
  | .name ⟨some p, _⟩ => .error (.unknownQualifier p)
  | _ => .ok ()

def keeps (v : Value) (position : Nat) : Bool :=
  match v with
  | .number x => x == position.toFloat
  | v => v.toBool

def keepWhere (p : Context → Except Fault Value) (size position : Nat) : List Nat → Except Fault (List Nat)
  | [] => .ok []
  | i :: r => do
    let v ← p ⟨i, position, size⟩
    let rest ← keepWhere p size (position + 1) r
    .ok (if keeps v position then i :: rest else rest)

def gather (f : Nat → Except Fault (List Nat)) : List Nat → Except Fault (List Nat)
  | [] => .ok []
  | i :: r => do .ok ((← f i) ++ (← gather f r))

mutual

def Expr.eval (t : Table) : Expr → Context → Except Fault Value
  | .literal s, _ => .ok (.text s)
  | .number x, _ => .ok (.number x)
  | .variable q, _ => .error (.unknownVariable q)
  | .call f args, c => do
    let arity ← knownFunction f
    let vs ← evalArgs t args c
    checkArity f arity vs.length
    callFunction t c f vs
  | .binary op a b, c => do
    let x ← a.eval t c
    match op, x.toBool with
    | .or, true => .ok (.boolean true)
    | .and, false => .ok (.boolean false)
    | _, _ => binary t op x (← b.eval t c)
  | .negate a, c => do .ok (.number (-(← a.eval t c).toNumber t))
  | .root, _ => .ok (.nodes [0])
  | .context, c => .ok (.nodes [c.node])
  | .filter a p, c => do
    match ← a.eval t c with
    | .nodes l => do .ok (.nodes (← keepWhere (p.eval t) l.length 1 l))
    | _ => .error .notNodes
  | .path a steps, c => do
    match ← a.eval t c with
    | .nodes l => do .ok (.nodes (← evalSteps t steps l))
    | _ => .error .notNodes

def evalArgs (t : Table) : List Expr → Context → Except Fault (List Value)
  | [], _ => .ok []
  | a :: r, c => do
    let v ← a.eval t c
    .ok (v :: (← evalArgs t r c))

def evalPredicates (t : Table) : List Expr → List Nat → Except Fault (List Nat)
  | [], l => .ok l
  | p :: r, l => do evalPredicates t r (← keepWhere (p.eval t) l.length 1 l)

def Step.eval (t : Table) : Step → Nat → Except Fault (List Nat)
  | .mk axis test ps, i => do
    checkQualifier test
    evalPredicates t ps ((t.onAxis i axis).filter fun k => t.holds axis k test)

def evalSteps (t : Table) : List Step → List Nat → Except Fault (List Nat)
  | [], l => .ok l
  | s :: r, l => do evalSteps t r (inOrder (← gather (s.eval t) l))

end

end ItemPipeline.XPath
