import ItemPipeline.Text.Position

/-!
Configuration documents in TOML: values with the bytes of the document that they come from, and the
members of tables in the order in which they were written.
-/

namespace ItemPipeline

structure Toml.Span where
  start : Nat
  stop : Nat
deriving Repr, DecidableEq

/-- How a table came about, which decides whether more may be added to it: under a header of its
own, above a header, by a dotted key, or between braces. -/
inductive Toml.TableKind
  | header
  | implied
  | dotted
  | inline
deriving Repr, DecidableEq

structure Toml.Key where
  name : String
  span : Toml.Span
deriving Repr, DecidableEq

inductive Toml
  | text (span : Toml.Span) (s : String)
  | integer (span : Toml.Span) (i : Int)
  | float (span : Toml.Span) (x : Float)
  | boolean (span : Toml.Span) (b : Bool)
  | moment (span : Toml.Span)
  | array (span : Toml.Span) (items : List Toml)
  | table (span : Option Toml.Span) (kind : Toml.TableKind) (members : List (Toml.Key × Toml))
  | tables (items : List Toml)
deriving Inhabited

namespace Toml

abbrev Members := List (Key × Toml)

def span? : Toml → Option Span
  | text s _ => some s
  | integer s _ => some s
  | float s _ => some s
  | boolean s _ => some s
  | moment s => some s
  | array s _ => some s
  | table s _ _ => s
  | tables items =>
    match items.head?, items.getLast? with
    | some (.table (some a) _ _), some (.table (some b) _ _) => some ⟨a.start, b.stop⟩
    | _, _ => none

def typeName : Toml → String
  | text _ _ => "string"
  | integer _ _ => "integer"
  | float _ _ => "float"
  | boolean _ _ => "boolean"
  | moment _ => "datetime"
  | array _ _ => "array"
  | table _ .inline _ => "inline table"
  | table _ _ _ => "table"
  | tables _ => "array of tables"

namespace TableKind

def isImplicit : TableKind → Bool
  | implied => true
  | dotted => true
  | _ => false

end TableKind

namespace Members

def get? (m : Members) (name : String) : Option Toml :=
  (m.find? fun e => e.1.name == name).map (·.2)

def set (m : Members) (name : String) (v : Toml) : Members :=
  m.map fun e => if e.1.name = name then (e.1, v) else e

def erase (m : Members) (name : String) : Members :=
  m.filter fun e => e.1.name ≠ name

end Members

end Toml

end ItemPipeline
