import ItemPipeline.Script.Datum
import ItemPipeline.Script.Parser

/-!
Faults of a running script, and their messages.
-/

namespace ItemPipeline.Script

mutual

inductive Cause
  | thrown (d : Datum)
  | unknownVariable (name : String)
  | unknownFunction (signature : String)
  | noGetter (name type : String)
  | noSetter (name type : String)
  | noIndexer (types : String)
  | arithmetic (text : String)
  | arrayBounds (index : Int) (size : Nat)
  | textBounds (index : Int) (size : Nat)
  | mismatch (wanted found : String)
  | constant (name : String)
  | notIterable
  | unboundThis
  | tooManyOperations
  | stackOverflow
  | tooLarge (what : String)
  | parsing (e : SyntaxError)
  | inFunction (name : String) (inner : Fault)

inductive Fault
  | mk (cause : Cause) (place : Option Place)

end

def elementsText (one many empty : String) : Nat → String
  | 0 => empty
  | 1 => s!"only 1 {one}"
  | n => s!"only {n} {many}"

def thrownMessage (d : Datum) : String :=
  if d.toText = "" then "Runtime error" else "Runtime error: " ++ d.toText

def withPlace (message : String) : Option Place → String
  | none => message
  | some p => s!"{message} ({p.describe})"

mutual

def Cause.message : Cause → String
  | .thrown d => thrownMessage d
  | .unknownVariable n => s!"Variable not found: {n}"
  | .unknownFunction s => s!"Function not found: {s}"
  | .noGetter n t => s!"Unknown property '{n}' - a getter is not registered for type '{t}'"
  | .noSetter n t => s!"Unknown property '{n}' - a setter is not registered for type '{t}'"
  | .noIndexer t => s!"Indexer unavailable: {t}"
  | .arithmetic t => t
  | .arrayBounds i n =>
    let found := elementsText "element in array" "elements in array" "array is empty" n
    s!"Array index {i} out of bounds: {found}"
  | .textBounds i n =>
    let found := elementsText "character in string" "characters in string" "string is empty" n
    s!"String index {i} out of bounds: {found}"
  | .mismatch w f => if f = "" then s!"Data type incorrect, expecting {w}" else s!"Data type incorrect: {f} (expecting {w})"
  | .constant n => s!"Cannot modify constant: {n}"
  | .notIterable => "For loop expects iterable type"
  | .unboundThis => "'this' not bound"
  | .tooManyOperations => "Too many operations"
  | .stackOverflow => "Stack overflow"
  | .tooLarge w => s!"{w} too large"
  | .parsing e => s!"Syntax error: {e.message}"
  | .inFunction n f =>
    let inner := f.message
    if "anon$".toList.isPrefixOf n.toList then s!"{inner} in call to closure" else s!"{inner} in call to function {n}"

def Fault.message : Fault → String
  | .mk c p => withPlace c.message p

end

def Cause.isLimit : Cause → Bool
  | .tooManyOperations => true
  | .stackOverflow => true
  | .tooLarge _ => true
  | _ => false

namespace Fault

def isLimit : Fault → Bool
  | mk c _ => c.isLimit

def throughCall (name : String) (p : Option Place) : Fault → Fault
  | mk c q => if c.isLimit then mk c p else mk (.inFunction name (mk c q)) p

end Fault

def Fault.toDatum : Fault → Datum
  | mk (.thrown d) _ => d
  | mk c _ => .text c.message

end ItemPipeline.Script
