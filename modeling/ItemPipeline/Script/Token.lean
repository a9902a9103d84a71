/-!
Tokens of a script, with the places where they start.
-/

namespace ItemPipeline.Script

structure Place where
  line : Nat := 1
  column : Nat := 1
deriving Repr, DecidableEq, Inhabited

def Place.after (p : Place) (c : Char) : Place :=
  if c = '\n' then ⟨p.line + 1, 1⟩ else ⟨p.line, p.column + 1⟩

def Place.afterAll (p : Place) (s : List Char) : Place :=
  s.foldl Place.after p

def Place.describe (p : Place) : String :=
  s!"line {p.line}, position {p.column}"

inductive LexFault
  | unexpected (c : Char)
  | openText
  | badEscape (s : String)
  | badNumber (s : String)
  | badChar (s : String)
deriving Repr, DecidableEq

def LexFault.message : LexFault → String
  | unexpected c => s!"Unexpected '{c}'"
  | openText => "Open string is not terminated"
  | badEscape s => s!"Invalid escape sequence: '{s}'"
  | badNumber s => s!"Invalid number: '{s}'"
  | badChar s => s!"Invalid character: '{s}'"

inductive Token
  | int (n : Int)
  | float (x : Float)
  | char (c : Char)
  | text (s : String)
  | piece (s : String) (last : Bool)
  | name (s : String)
  | keyword (s : String)
  | sign (s : String)
  | bad (f : LexFault)
  | eof

def Token.isSign (t : Token) (s : String) : Bool :=
  match t with
  | sign x => x == s
  | _ => false

def Token.isKeyword (t : Token) (s : String) : Bool :=
  match t with
  | keyword x => x == s
  | _ => false

structure Placed where
  token : Token
  place : Place

end ItemPipeline.Script
