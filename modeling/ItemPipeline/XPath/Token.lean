import ItemPipeline.Decimal.Read
import ItemPipeline.XPath.Basic
import ItemPipeline.Xml.Parser

/-!
Tokens of expressions. A name after an operand is an operator, and so is a star.
-/

namespace ItemPipeline.XPath

inductive Token
  | sign (s : String)
  | op (o : BinaryOp)
  | literal (s : String)
  | number (x : Float)
  | variable (q : QName)
  | axis (a : Axis)
  | nodeTest (t : NodeTest)
  | name (t : NameTest)
  | function (q : QName)
deriving Repr, BEq

def Token.opensOperand : Token → Bool
  | sign s => s != ")" && s != "]" && s != "." && s != ".."
  | op _ => true
  | axis _ => true
  | _ => false

def namedOp? : String → Option BinaryOp
  | "and" => some .and
  | "or" => some .or
  | "mod" => some .mod
  | "div" => some .div
  | _ => none

def takeName (s : List Char) : Option (String × List Char) :=
  match s with
  | c :: _ =>
    if Xml.isNameStart c then
      some (String.ofList (s.takeWhile Xml.isNameChar), s.dropWhile Xml.isNameChar)
    else none
  | [] => none

def skipSpace (s : List Char) : List Char :=
  s.dropWhile Xml.Reader.isSpace

def takeNameTest (s : List Char) : Option (NameTest × List Char) :=
  match s with
  | '*' :: r => some (⟨none, none⟩, r)
  | s =>
    match takeName s with
    | none => none
    | some (a, ':' :: '*' :: r) => some (⟨some a, none⟩, r)
    | some (a, ':' :: r) =>
      match takeName r with
      | some (b, t) => some (⟨some a, some b⟩, t)
      | none => some (⟨none, some a⟩, ':' :: r)
    | some (a, r) => some (⟨none, some a⟩, r)

def takeNodeTest? (name : String) (s : List Char) : Option (NodeTest × List Char) :=
  match skipSpace s with
  | '(' :: r =>
    match name, skipSpace r with
    | "node", ')' :: t => some (.node, t)
    | "text", ')' :: t => some (.text, t)
    | "comment", ')' :: t => some (.comment, t)
    | "processing-instruction", ')' :: t => some (.instruction none, t)
    | "processing-instruction", q :: t =>
      if q = '"' ∨ q = '\'' then
        match Text.cutAt q t with
        | some (a, u) =>
          match skipSpace u with
          | ')' :: v => some (.instruction (some (String.ofList a)), v)
          | _ => none
        | none => none
      else none
    | _, _ => none
  | _ => none

def isNodeKind (name : String) : Bool :=
  ["node", "text", "comment", "processing-instruction"].contains name

def signs : List (String × List Token) :=
  [("//", [.sign "/", .axis .descendantOrSelf, .nodeTest .node, .sign "/"]), ("/", [.sign "/"]),
    ("..", [.axis .parent, .nodeTest .node]), ("(", [.sign "("]), (")", [.sign ")"]), ("[", [.sign "["]),
    ("]", [.sign "]"]), (",", [.sign ","]), ("@", [.axis .attributes]), ("|", [.op .union]),
    ("+", [.op .add]), ("-", [.op .sub]), ("!=", [.op .ne]), ("=", [.op .eq]), ("<=", [.op .le]),
    (">=", [.op .ge]), ("<", [.op .lt]), (">", [.op .gt]), (".", [.axis .self, .nodeTest .node])]

def takeSign? (s : List Char) : Option (List Token × List Char) :=
  signs.findSome? fun (t, ts) => (Text.dropPrefix? t.toList s).map fun r => (ts, r)

def isNumberStart : List Char → Bool
  | c :: d :: _ => Text.isDigit c || (c == '.' && Text.isDigit d)
  | [c] => Text.isDigit c
  | [] => false

def takeNumber (s : List Char) : Float × List Char :=
  let (a, r) := Decimal.spanDigits s
  let (b, r) := match r with
    | '.' :: t =>
      let (b, t) := Decimal.spanDigits t
      ('.' :: b, t)
    | r => ([], r)
  ((readFloat? (a ++ b)).getD 0, r)

def nextTokens (previous : Option Token) (s : List Char) : Option (List Token × List Char) :=
  let afterOperand := previous.any fun t => !t.opensOperand
  if isNumberStart s then
    let (x, r) := takeNumber s
    some ([.number x], r)
  else
    match s with
    | '"' :: r => (Text.cutAt '"' r).map fun (a, t) => ([.literal (String.ofList a)], t)
    | '\'' :: r => (Text.cutAt '\'' r).map fun (a, t) => ([.literal (String.ofList a)], t)
    | '$' :: r =>
      match takeNameTest r with
      | some (⟨p, some n⟩, t) => some ([.variable ⟨p, n⟩], t)
      | _ => none
    | s =>
      match takeSign? s with
      | some r => some r
      | none =>
        if afterOperand then
          match s, takeName s with
          | '*' :: r, _ => some ([.op .mul], r)
          | _, some (n, r) => (namedOp? n).map fun o => ([.op o], r)
          | _, none => none
        else
          match takeNameTest s with
          | none => none
          | some (t, r) =>
            let bare := match t with
              | ⟨none, some n⟩ => some n
              | _ => none
            match bare.bind Axis.ofName?, Text.dropPrefix? [':', ':'] (skipSpace r) with
            | some a, some u => some ([.axis a], u)
            | _, _ =>
              match bare.bind fun n => takeNodeTest? n r with
              | some (k, u) => some ([.nodeTest k], u)
              | none =>
                match t, skipSpace r with
                | ⟨p, some n⟩, '(' :: _ =>
                  if p.isNone && isNodeKind n then none else some ([.function ⟨p, n⟩], r)
                | t, _ => some ([.name t], r)

def tokens (previous : Option Token) (s : List Char) : Nat → List Token × Bool
  | 0 => ([], true)
  | fuel + 1 =>
    match skipSpace s with
    | [] => ([], false)
    | s =>
      match nextTokens previous s with
      | none => ([], true)
      | some (ts, r) =>
        let (l, bad) := tokens ts.getLast? r fuel
        (ts ++ l, bad)

end ItemPipeline.XPath
