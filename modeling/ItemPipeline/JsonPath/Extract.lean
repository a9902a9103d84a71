import ItemPipeline.JsonPath.Eval
import ItemPipeline.JsonPath.Parser

/-!
Extraction of an item value from a document. A path that can select one node at most gives the node,
any other path gives the list of all nodes.
-/

namespace ItemPipeline.JsonPath

def isDefinite : Option Char → List Char → Bool
  | _, [] => true
  | some _, ['\\'] => true
  | some q, '\\' :: _ :: r => isDefinite (some q) r
  | some q, c :: r => isDefinite (if c = q then none else some q) r
  | none, c :: r =>
    if c = '\'' ∨ c = '"' then isDefinite (some c) r
    else if c = '*' ∨ c = '?' ∨ c = ',' ∨ c = ':' then false
    else if c = '.' ∧ r.head? = some '.' then false
    else isDefinite none r

def extractBy {ε : Type} (read : String → Except ε Query) (doc : Json) (path : String) :
    Except ε (Option String) := do
  let q ← read path
  match q.run doc with
  | [] => pure none
  | [v] => pure (some (if isDefinite none path.toList then v.toItemText else (Json.array [v]).render))
  | l => pure (some (Json.array l).render)

def extract : Json → String → Except Error (Option String) :=
  extractBy parse

end ItemPipeline.JsonPath
