/-!
Why a text is no XML document, and where.
-/

namespace ItemPipeline.Xml

inductive Fault
  | expected (wanted : List String)
  | unclosedElement
  | mismatchedEndName
  | duplicateAttribute
  | unknownReference
  | invalidDecimalReference
  | invalidHexReference
  | unknownQualifier
  | redefinedNamespace
  | redefinedDefaultNamespace
  | emptyNamespace
  | invalidTarget
deriving Repr, DecidableEq

def Fault.names : Fault → List String
  | expected l => l
  | unclosedElement => ["UnclosedElement"]
  | mismatchedEndName => ["MismatchedElementEndName"]
  | duplicateAttribute => ["DuplicateAttribute"]
  | unknownReference => ["UnknownNamedReference"]
  | invalidDecimalReference => ["InvalidDecimalReference"]
  | invalidHexReference => ["InvalidHexReference"]
  | unknownQualifier => ["UnknownNamespacePrefix"]
  | redefinedNamespace => ["RedefinedNamespace"]
  | redefinedDefaultNamespace => ["RedefinedDefaultNamespace"]
  | emptyNamespace => ["EmptyNamespace"]
  | invalidTarget => ["InvalidProcessingInstructionTarget"]

structure Error where
  fault : Fault
  location : Nat
deriving Repr, DecidableEq

def Error.message (e : Error) : String :=
  let names := String.intercalate ", " e.fault.names
  s!"Error \x7b location: {e.location}, errors: \x7b{names}\x7d \x7d"

end ItemPipeline.Xml
