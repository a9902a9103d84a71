import ItemPipeline.Decimal.Read
import ItemPipeline.Exposition.Basic

/-!
The tokens of sample lines and patterns: names, quoted values, label blocks and numbers.
-/

namespace ItemPipeline.Exposition

def isNameFirst (c : Char) : Bool :=
  c == '_' || c == ':' || c.isAlpha

def isNameChar (c : Char) : Bool :=
  isNameFirst c || Text.isDigit c

def skipBlanks (s : List Char) : List Char :=
  s.dropWhile Text.isBlank

def readName? : List Char → Option (List Char × List Char)
  | [] => none
  | c :: r => if isNameFirst c then some (c :: r.takeWhile isNameChar, r.dropWhile isNameChar) else none

def readToken (s : List Char) : List Char × List Char :=
  (s.takeWhile fun c => !Text.isBlank c, s.dropWhile fun c => !Text.isBlank c)

def readQuotedTail : List Char → Except Fault (List Char × List Char)
  | [] => .error .unterminated
  | '"' :: r => .ok ([], r)
  | ['\\'] => .error .unterminated
  | '\\' :: c :: r => do
    let (v, t) ← readQuotedTail r
    .ok ((if c = 'n' then '\n' else c) :: v, t)
  | c :: r => do
    let (v, t) ← readQuotedTail r
    .ok (c :: v, t)

def readQuoted : List Char → Except Fault (List Char × List Char)
  | '"' :: r => readQuotedTail r
  | _ => .error .openingQuote

def readOp? : List Char → Option (LabelOp × List Char)
  | '=' :: '~' :: r => some (.like, r)
  | '!' :: '=' :: r => some (.notEqual, r)
  | '!' :: '~' :: r => some (.unlike, r)
  | '=' :: r => some (.equal, r)
  | _ => none

structure LabelTest where
  label : String
  op : LabelOp
  value : String
deriving Repr, DecidableEq

def readLabel (s : List Char) : Except Fault (LabelTest × List Char) :=
  match readName? s with
  | none => .error .labelName
  | some (name, s) =>
    match readOp? (skipBlanks s) with
    | none => .error (.operator (String.ofList name))
    | some (op, s) => do
      let (v, s) ← readQuoted (skipBlanks s)
      .ok (⟨String.ofList name, op, String.ofList v⟩, s)

def readLabels (s : List Char) : Nat → Except Fault (List LabelTest × List Char)
  | 0 => .error .separator
  | fuel + 1 =>
    match skipBlanks s with
    | '}' :: r => .ok ([], r)
    | s => do
      let (l, s) ← readLabel s
      match skipBlanks s with
      | ',' :: r =>
        let (ls, r) ← readLabels r fuel
        .ok (l :: ls, r)
      | '}' :: r => .ok ([l], r)
      | _ => .error .separator

def readBlock (s : List Char) : Except Fault (List LabelTest × List Char) :=
  match s with
  | '{' :: r => readLabels r (r.length + 1)
  | s => .ok ([], s)

def readValue (token : List Char) : Except Fault Float :=
  match readFloat? token with
  | some x => .ok x
  | none => .error (.badValue (String.ofList token))

end ItemPipeline.Exposition
