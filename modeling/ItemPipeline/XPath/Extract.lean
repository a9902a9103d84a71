import ItemPipeline.XPath.Eval
import ItemPipeline.XPath.Parser

/-!
Extraction of an item value from a document: elements as markup, other nodes as their text, and
plain values as text.
-/

namespace ItemPipeline.XPath

def Table.render (t : Table) (i : Nat) : String :=
  match (t.entry i).kind with
  | .element n => n.render
  | _ => t.stringValue i

def Value.toItemText (t : Table) : Value → String
  | .boolean b => if b then "true" else "false"
  | .number x => formatDouble x
  | .text s => s
  | .nodes l => String.join (l.map t.render)

inductive Error
  | document (e : Xml.Error)
  | query (f : Fault)
deriving Repr, DecidableEq

def Error.message : Error → String
  | document e => "cannot parse xml value: " ++ e.message
  | query f => f.message

def extract (text path : String) : Except Error String := do
  let d ← (Xml.parse text).mapError .document
  let e ← (parse path).mapError .query
  let t := Table.ofDocument d
  let v ← (e.eval t ⟨0, 1, 1⟩).mapError .query
  pure (v.toItemText t)

end ItemPipeline.XPath
