import ItemPipeline.Decimal.Shortest

/-!
JSON documents and their compact text. The members of an object are kept in the order of their
names, one for each name.
-/

namespace ItemPipeline

inductive Json.Number
  | natural (n : UInt64)
  | negative (i : Int)
  | float (x : Float)
deriving Inhabited

inductive Json
  | null
  | bool (b : Bool)
  | number (n : Json.Number)
  | str (s : String)
  | array (items : List Json)
  | object (members : List (String × Json))
deriving Inhabited

namespace Json

def Number.toFloat : Number → Float
  | natural n => n.toFloat
  | negative i => Float.ofInt i
  | float x => x

abbrev Members := List (String × Json)

def Members.insert (name : String) (v : Json) : Members → Members
  | [] => [(name, v)]
  | (n, w) :: r =>
    if name < n then (name, v) :: (n, w) :: r
    else if name = n then (name, v) :: r
    else (n, w) :: insert name v r

def Members.ofList (l : List (String × Json)) : Members :=
  l.foldl (fun m (n, v) => Members.insert n v m) []

def Members.get? (name : String) : Members → Option Json
  | [] => none
  | (n, v) :: r => if n = name then some v else get? name r

/-- Doubles in documents: scientific from 10^16 on and below 10^-5, a tie going to the even digit. -/
def floatStyle : Decimal.Style where
  tie := .even
  keepsPoint := true
  isScientific e := e < -5 || e > 15
  nan := "null"
  infinite := "null"

def Number.render : Number → String
  | natural n => toString n.toNat
  | negative i => toString i
  | float x => if x.isFinite then floatStyle.write x else "null"

def hexDigit (n : Nat) : Char :=
  if n < 10 then Char.ofNat (48 + n) else Char.ofNat (87 + n)

def escapeChar (c : Char) : List Char :=
  match c with
  | '"' => ['\\', '"']
  | '\\' => ['\\', '\\']
  | '\n' => ['\\', 'n']
  | '\r' => ['\\', 'r']
  | '\t' => ['\\', 't']
  | '\x08' => ['\\', 'b']
  | '\x0c' => ['\\', 'f']
  | c =>
    if c.toNat < 0x20 then ['\\', 'u', '0', '0', hexDigit (c.toNat / 16), hexDigit (c.toNat % 16)]
    else [c]

def quote (s : String) : String :=
  "\"" ++ String.ofList (s.toList.flatMap escapeChar) ++ "\""

mutual

def render : Json → String
  | null => "null"
  | bool b => if b then "true" else "false"
  | number n => n.render
  | str s => quote s
  | array items => "[" ++ String.intercalate "," (renderItems items) ++ "]"
  | object members => "\x7b" ++ String.intercalate "," (renderMembers members) ++ "\x7d"

def renderItems : List Json → List String
  | [] => []
  | v :: r => v.render :: renderItems r

def renderMembers : List (String × Json) → List String
  | [] => []
  | (n, v) :: r => (quote n ++ ":" ++ v.render) :: renderMembers r

end

def toItemText : Json → String
  | str s => s
  | v => v.render

end Json

end ItemPipeline
