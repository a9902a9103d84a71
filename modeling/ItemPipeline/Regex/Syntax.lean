import ItemPipeline.Regex.Error

/-!
Patterns as written: operators, classes and flags with their places.
-/

namespace ItemPipeline.Regex

inductive FlagName
  | ignoreCase
  | multiLine
  | dotNewline
  | swapGreed
  | unicode
  | crlf
  | ignoreSpace
deriving Repr, DecidableEq

inductive FlagItem
  | negation
  | flag (f : FlagName)
deriving Repr, DecidableEq

inductive Named
  | digit
  | blank
  | word
deriving Repr, DecidableEq

inductive PropertyName
  | single (name : String)
  | pair (name value : String) (equal : Bool)
deriving Repr, DecidableEq

inductive AsciiClass
  | alnum | alpha | ascii | blank | cntrl | digit | graph | lower | print | punct | space | upper | word
  | xdigit
deriving Repr, DecidableEq

def AsciiClass.ofName? : String → Option AsciiClass
  | "alnum" => some alnum
  | "alpha" => some alpha
  | "ascii" => some ascii
  | "blank" => some blank
  | "cntrl" => some cntrl
  | "digit" => some digit
  | "graph" => some graph
  | "lower" => some lower
  | "print" => some print
  | "punct" => some punct
  | "space" => some space
  | "upper" => some upper
  | "word" => some word
  | "xdigit" => some xdigit
  | _ => none

inductive SetOp
  | inter
  | diff
  | symmDiff
deriving Repr, DecidableEq

/-- A character as it is written. Two digits of an escape can also stand for a byte. -/
structure Literal where
  char : Char
  isByte : Bool := false
  span : Span := default
deriving Repr

inductive ClassExpr
  | empty
  | literal (l : Literal)
  | range (first last : Literal)
  | ascii (k : AsciiClass) (negated : Bool) (span : Span)
  | named (k : Named) (negated : Bool) (span : Span)
  | property (p : PropertyName) (negated : Bool) (span : Span)
  | bracket (negated : Bool) (inner : ClassExpr) (span : Span)
  | union (a b : ClassExpr)
  | op (k : SetOp) (a b : ClassExpr)
deriving Repr

inductive Anchor
  | lineStart
  | lineEnd
  | textStart
  | textEnd
  | wordBoundary
  | noWordBoundary
  | wordStart
  | wordEnd
  | wordStartHalf
  | wordEndHalf
deriving Repr, DecidableEq

inductive Pattern
  | empty
  | flags (items : List FlagItem)
  | dot (span : Span)
  | literal (l : Literal)
  | anchor (a : Anchor)
  | named (k : Named) (negated : Bool) (span : Span)
  | property (p : PropertyName) (negated : Bool) (span : Span)
  | cls (c : ClassExpr) (span : Span)
  | repetition (min : Nat) (max : Option Nat) (greedy : Bool) (p : Pattern)
  | capture (index : Nat) (p : Pattern)
  | scoped (items : List FlagItem) (p : Pattern)
  | seq (p q : Pattern)
  | alt (p q : Pattern)
deriving Repr

end ItemPipeline.Regex
