import ItemPipeline.Json.Basic
import ItemPipeline.Text.Choice
import ItemPipeline.Unicode.Quoted
import ItemPipeline.Value.Basic

/-!
Reading the declared type of an item from a JSON document: its name, or an object with the name as
its only member and nothing in it.
-/

namespace ItemPipeline

def Json.describe : Json → String
  | null => "null"
  | bool b => "boolean " ++ Text.ticked (toString b)
  | number (.float x) => "floating point " ++ Text.ticked (Json.Number.float x).render
  | number n => "integer " ++ Text.ticked n.render
  | str s => "string " ++ Unicode.quoted '"' s.toList
  | array _ => "sequence"
  | object _ => "map"

namespace ValueType

inductive Fault
  | unfit (found wanted : String)
  | unknown (name : String)
  | notSingle
deriving Repr, DecidableEq

def Fault.message : Fault → String
  | unfit found wanted => s!"invalid type: {found}, expected {wanted}"
  | unknown n => Text.unknownVariant n (all.map name)
  | notSingle => "invalid value: map, expected map with a single key"

def named (n : String) : Except Fault ValueType :=
  match ofName? n with
  | some t => .ok t
  | none => .error (.unknown n)

def ofJson : Json → Except Fault ValueType
  | .str n => named n
  | .object [(n, v)] => do
    let t ← named n
    match v with
    | .null => .ok t
    | v => .error (.unfit v.describe "unit")
  | .object _ => .error .notSingle
  | v => .error (.unfit v.describe "string or map")

end ValueType

end ItemPipeline
