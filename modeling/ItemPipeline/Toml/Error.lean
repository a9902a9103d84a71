import ItemPipeline.Text.Choice
import ItemPipeline.Toml.Basic

/-!
What can be wrong with a document or with a value in it, and the report that shows the line.
-/

namespace ItemPipeline.Toml

inductive Fault
  | malformed (what : Option String) (wanted : List String)
  | numberTooLarge
  | outOfRange
  | tooDeep
  | duplicateKey (key : String) (table : Option (List String))
  | notTable (path : List String) (actual : String)
  | unfit (found wanted : String)
  | unfitValue (found wanted : String)
  | tooShort (count : Nat) (wanted : String)
  | missing (field : String)
  | unknownVariant (name : String) (choices : List String)
  | noVariant
  | emptyVariant
  | severalVariants
  | variantNotEmpty (what : String)
  | variantNotTable (actual : String)
deriving Repr, DecidableEq

namespace Fault

def message : Fault → String
  | malformed what wanted =>
    String.intercalate "\n" ((what.map fun w => "invalid " ++ w).toList ++
      (if wanted = [] then [] else ["expected " ++ String.intercalate ", " wanted]))
  | numberTooLarge => "number too large to fit in target type"
  | outOfRange => "value is out of range"
  | tooDeep => "recursion limit exceeded"
  | duplicateKey k none => "duplicate key " ++ Text.ticked k
  | duplicateKey k (some []) => String.join ["duplicate key ", Text.ticked k, " in document root"]
  | duplicateKey k (some path) =>
    String.join ["duplicate key ", Text.ticked k, " in table ", Text.ticked (String.intercalate "." path)]
  | notTable path actual =>
    String.join ["dotted key ", Text.ticked (String.intercalate "." path),
      " attempted to extend non-table type (", actual, ")"]
  | unfit found wanted => s!"invalid type: {found}, expected {wanted}"
  | unfitValue found wanted => s!"invalid value: {found}, expected {wanted}"
  | tooShort n wanted => s!"invalid length {n}, expected {wanted}"
  | missing field => "missing field " ++ Text.ticked field
  | unknownVariant name choices => Text.unknownVariant name choices
  | noVariant => "wanted string or table"
  | emptyVariant => "wanted exactly 1 element, found 0 elements"
  | severalVariants => "wanted exactly 1 element, more than 1 element"
  | variantNotEmpty what => "expected empty " ++ what
  | variantNotTable actual => "expected table, found " ++ actual

end Fault

structure Error where
  fault : Fault
  span : Option Span
deriving Repr, DecidableEq

namespace Error

def within (s : Option Span) (e : Error) : Error :=
  match e.span with
  | some _ => e
  | none => { e with span := s }

def splitBytes : Nat → List Char → List Char × List Char
  | _, [] => ([], [])
  | n, c :: r =>
    if n = 0 then ([], c :: r)
    else
      let (a, b) := splitBytes (n - c.utf8Size) r
      (c :: a, b)

def spaces (n : Nat) : String :=
  String.ofList (List.replicate n ' ')

/-- Line and column in front, then the line with what is wrong underlined, as far as it goes on that
line, then the fault. -/
def report (text : String) (e : Error) : String :=
  match e.span with
  | none => e.fault.message ++ "\n"
  | some s =>
    let (before, after) := splitBytes s.start text.toList
    let line := (before.filter (· = '\n')).length + 1
    let head := (before.reverse.takeWhile (· ≠ '\n')).reverse
    let content := head ++ after.takeWhile (· ≠ '\n')
    let width := max 1 (min (s.stop - s.start) (Text.byteSize content - head.length))
    let gutter := spaces ((toString line).length + 1)
    String.join [s!"TOML parse error at line {line}, column {head.length + 1}\n", gutter, "|\n",
      toString line, " | ", String.ofList content, "\n", gutter, "|", spaces (head.length + 1),
      String.ofList (List.replicate width '^'), "\n", e.fault.message, "\n"]

end Error

end ItemPipeline.Toml
