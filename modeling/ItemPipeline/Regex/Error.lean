import ItemPipeline.Text.Cut

/-!
Faults in patterns and their report, which shows the pattern and marks the place.
-/

namespace ItemPipeline.Regex

structure Place where
  line : Nat := 1
  column : Nat := 1
deriving Repr, DecidableEq, Inhabited

def Place.after (p : Place) (c : Char) : Place :=
  if c = '\n' then ⟨p.line + 1, 1⟩ else ⟨p.line, p.column + 1⟩

structure Span where
  first : Place
  last : Place
deriving Repr, DecidableEq, Inhabited

inductive Fault
  | classEscapeInvalid
  | classRangeInvalid
  | classRangeLiteral
  | classUnclosed
  | decimalInvalid
  | escapeHexEmpty
  | escapeHexInvalid
  | escapeHexInvalidDigit
  | escapeUnexpectedEnd
  | escapeUnrecognized
  | flagDanglingNegation
  | flagDuplicate
  | flagRepeatedNegation
  | flagUnexpectedEnd
  | flagUnrecognized
  | groupNameDuplicate
  | groupNameEmpty
  | groupNameInvalid
  | groupNameUnexpectedEnd
  | groupUnclosed
  | groupUnopened
  | repetitionCountInvalid
  | repetitionCountEmpty
  | repetitionCountUnclosed
  | repetitionMissing
  | nestLimit
  | wordBoundaryUnclosed
  | wordBoundaryUnrecognized
  | wordBoundaryUnexpectedEnd
  | propertyInvalid
  | propertyNotFound
  | propertyValueNotFound
  | backreference
  | lookAround
  | invalidUtf8
  | unicodeNotAllowed
deriving Repr, DecidableEq

def Fault.message : Fault → String
  | classEscapeInvalid => "invalid escape sequence found in character class"
  | classRangeInvalid => "invalid character class range, the start must be <= the end"
  | classRangeLiteral => "invalid range boundary, must be a literal"
  | classUnclosed => "unclosed character class"
  | decimalInvalid => "decimal literal invalid"
  | escapeHexEmpty => "hexadecimal literal empty"
  | escapeHexInvalid => "hexadecimal literal is not a Unicode scalar value"
  | escapeHexInvalidDigit => "invalid hexadecimal digit"
  | escapeUnexpectedEnd => "incomplete escape sequence, reached end of pattern prematurely"
  | escapeUnrecognized => "unrecognized escape sequence"
  | flagDanglingNegation => "dangling flag negation operator"
  | flagDuplicate => "duplicate flag"
  | flagRepeatedNegation => "flag negation operator repeated"
  | flagUnexpectedEnd => "expected flag but got end of regex"
  | flagUnrecognized => "unrecognized flag"
  | groupNameDuplicate => "duplicate capture group name"
  | groupNameEmpty => "empty capture group name"
  | groupNameInvalid => "invalid capture group character"
  | groupNameUnexpectedEnd => "unclosed capture group name"
  | groupUnclosed => "unclosed group"
  | groupUnopened => "unopened group"
  | repetitionCountInvalid => "invalid repetition count range, the start must be <= the end"
  | repetitionCountEmpty => "repetition quantifier expects a valid decimal"
  | repetitionCountUnclosed => "unclosed counted repetition"
  | repetitionMissing => "repetition operator missing expression"
  | nestLimit => "exceed the maximum number of nested parentheses/brackets (250)"
  | wordBoundaryUnclosed =>
    "special word boundary assertion is either unclosed or contains an invalid character"
  | wordBoundaryUnrecognized =>
    "unrecognized special word boundary assertion, valid choices are: start, end, start-half or end-half"
  | wordBoundaryUnexpectedEnd =>
    "found either the beginning of a special word boundary or a bounded repetition on a \\b with an " ++
      "opening brace, but no closing brace"
  | propertyInvalid => "invalid Unicode character class"
  | propertyNotFound => "Unicode property not found"
  | propertyValueNotFound => "Unicode property value not found"
  | backreference => "backreferences are not supported"
  | lookAround => "look-around, including look-ahead and look-behind, is not supported"
  | invalidUtf8 => "pattern can match invalid UTF-8"
  | unicodeNotAllowed => "Unicode not allowed here"

structure SyntaxError where
  fault : Fault
  span : Span
  earlier : Option Span := none
deriving Repr, DecidableEq

def spaces (n : Nat) : String :=
  String.ofList (List.replicate n ' ')

def carets (n : Nat) : String :=
  String.ofList (List.replicate n '^')

def marks (column : Nat) : List Span → String
  | [] => ""
  | s :: r =>
    let width := max 1 (s.last.column - s.first.column)
    spaces (s.first.column - column) ++ carets width ++ marks (max column s.first.column + width) r

def notated (lines : List String) (width : Nat) (spans : List Span) : String :=
  String.join <| lines.zipIdx.map fun (line, i) =>
    let number := toString (i + 1)
    let head := if width = 0 then "    " else spaces (width - number.length) ++ number ++ ": "
    let here := spans.filter fun s => s.first.line = i + 1
    let below := if here.isEmpty then ""
      else spaces (if width = 0 then 4 else width + 2) ++ marks 1 here ++ "\n"
    head ++ line ++ "\n" ++ below

def throughNote (s : Span) : String :=
  s!"on line {s.first.line} (column {s.first.column}) through line {s.last.line} (column {s.last.column - 1})\n"

def SyntaxError.message (e : SyntaxError) (pattern : String) : String :=
  let lines := (Text.lines pattern.toList).map String.ofList
  let all := (e.span :: e.earlier.toList).mergeSort fun a b =>
    a.first.line < b.first.line || (a.first.line == b.first.line && a.first.column ≤ b.first.column)
  let inLine := all.filter fun s => s.first.line = s.last.line
  let across := all.filter fun s => s.first.line ≠ s.last.line
  if pattern.toList.contains '\n' then
    let count := lines.length + if pattern.endsWith "\n" then 1 else 0
    let width := if count ≤ 1 then 0 else (toString count).length
    let divider := String.ofList (List.replicate 79 '~') ++ "\n"
    "regex parse error:\n" ++ divider ++ notated lines width inLine ++ divider ++
      String.join (across.map throughNote) ++ "error: " ++ e.fault.message
  else
    "regex parse error:\n" ++ notated lines 0 inLine ++ "error: " ++ e.fault.message

inductive Error
  | malformed (pattern : String) (e : SyntaxError)
  | tooLarge
deriving Repr, DecidableEq

def sizeLimit : Nat := 10485760

def Error.message : Error → String
  | malformed pattern e => e.message pattern
  | tooLarge => s!"Compiled regex exceeds size limit of {sizeLimit} bytes."

end ItemPipeline.Regex
