import ItemPipeline.Text.Cut

/-!
XPath 1.0 expressions.
-/

namespace ItemPipeline.XPath

inductive Axis
  | ancestor
  | ancestorOrSelf
  | attributes
  | child
  | descendant
  | descendantOrSelf
  | following
  | followingSibling
  | namespaces
  | parent
  | preceding
  | precedingSibling
  | self
deriving Repr, DecidableEq

def Axis.ofName? : String → Option Axis
  | "ancestor" => some ancestor
  | "ancestor-or-self" => some ancestorOrSelf
  | "attribute" => some attributes
  | "child" => some child
  | "descendant" => some descendant
  | "descendant-or-self" => some descendantOrSelf
  | "following" => some following
  | "following-sibling" => some followingSibling
  | "namespace" => some namespaces
  | "parent" => some parent
  | "preceding" => some preceding
  | "preceding-sibling" => some precedingSibling
  | "self" => some self
  | _ => none

structure QName where
  qualifier : Option String
  localPart : String
deriving Repr, DecidableEq

structure NameTest where
  qualifier : Option String
  localPart : Option String
deriving Repr, DecidableEq

inductive NodeTest
  | name (t : NameTest)
  | node
  | text
  | comment
  | instruction (target : Option String)
deriving Repr, DecidableEq

inductive BinaryOp
  | or
  | and
  | eq
  | ne
  | lt
  | le
  | gt
  | ge
  | add
  | sub
  | mul
  | div
  | mod
  | union
deriving Repr, DecidableEq

mutual

inductive Expr
  | literal (s : String)
  | number (x : Float)
  | variable (q : QName)
  | call (f : QName) (args : List Expr)
  | binary (op : BinaryOp) (a b : Expr)
  | negate (a : Expr)
  | root
  | context
  | filter (a predicate : Expr)
  | path (start : Expr) (steps : List Step)

inductive Step
  | mk (axis : Axis) (test : NodeTest) (predicates : List Expr)

end

instance : Inhabited Expr := ⟨.root⟩

def QName.describe (q : QName) : String :=
  let quoted := match q.qualifier with
    | none => "None"
    | some p => s!"Some(\"{p}\")"
  s!"OwnedPrefixedName \x7b prefix: {quoted}, local_part: \"{q.localPart}\" \x7d"

inductive Fault
  | extraTokens
  | noMoreInput
  | trailingSlash
  | emptyPredicate
  | missingOperand
  | missingArgument
  | badToken
  | noExpression
  | unknownFunction (q : QName)
  | unknownVariable (q : QName)
  | unknownQualifier (p : String)
  | notNodes
  | tooManyArguments (f : QName) (expected actual : Nat)
  | tooFewArguments (f : QName) (expected actual : Nat)
  | argumentNotNodes (f : QName)
deriving Repr, DecidableEq

def Fault.message : Fault → String
  | extraTokens => "Unable to parse XPath: ExtraUnparsedTokens"
  | noMoreInput => "Unable to parse XPath: RanOutOfInput"
  | trailingSlash => "Unable to parse XPath: TrailingSlash"
  | emptyPredicate => "Unable to parse XPath: EmptyPredicate"
  | missingOperand => "Unable to parse XPath: RightHandSideExpressionMissing"
  | missingArgument => "Unable to parse XPath: ArgumentMissing"
  | badToken => "Unable to parse XPath: UnexpectedToken"
  | noExpression => "NoXPath"
  | unknownFunction q => s!"Unable to execute XPath: unknown function {q.describe}"
  | unknownVariable q => s!"Unable to execute XPath: unknown variable {q.describe}"
  | unknownQualifier p => s!"Unable to execute XPath: unknown namespace prefix '{p}'"
  | notNodes => "Unable to execute XPath: expression did not evaluate to a nodeset"
  | tooManyArguments f e a =>
    s!"Unable to execute XPath: error while evaluating function {f.describe}: too many arguments, expected {e} but had {a}"
  | tooFewArguments f e a =>
    s!"Unable to execute XPath: error while evaluating function {f.describe}: not enough arguments, expected {e} but had {a}"
  | argumentNotNodes f =>
    s!"Unable to execute XPath: error while evaluating function {f.describe}: argument was not a nodeset"

end ItemPipeline.XPath
