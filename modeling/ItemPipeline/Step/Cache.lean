import ItemPipeline.Exposition.Parser
import ItemPipeline.Json.Parser
import ItemPipeline.Step.Fault
import ItemPipeline.Step.RuleSet

/-!
A value shared by several items, with the document that the first steps of their rule sets read. The
document is read from the value at most once, by the first who needs it or ahead of all.
-/

namespace ItemPipeline

inductive Decoded
  | json (doc : Json)
  | exposition (p : Exposition.Payload)

def Decoded.read (tag : Option StepKind) (v : Value) : Except Step.Fault Decoded := do
  let s ← v.toText.mapError .unfit
  match tag with
  | some .jsonpath => ((Json.parse s).map .json).mapError .json
  | some .prometheusPattern => ((Exposition.parse s).map .exposition).mapError .exposition
  | _ => .error .notCached

/-- `tree` holds the document, or why there is none, once it has been read. -/
structure Cache where
  tag : Option StepKind
  value : Value
  tree : Option (Except Step.Fault Decoded) := none
  tree_eq : ∀ d ∈ tree, d = Decoded.read tag value := by simp

namespace Cache

def ofRules (r : RuleSet) (v : Value) : Cache where
  tag := r.steps.head?.map (·.kind)
  value := v

def serves (c : Cache) (k : StepKind) : Bool :=
  k.usesCache && c.tag == some k

def data (c : Cache) : Except Step.Fault Decoded :=
  c.tree.getD (Decoded.read c.tag c.value)

theorem data_eq (c : Cache) : c.data = Decoded.read c.tag c.value := by
  cases h : c.tree with
  | none => simp [data, h]
  | some d => simpa [data, h] using c.tree_eq d h

def build (c : Cache) : Cache :=
  { c with
    tree := some c.data
    tree_eq := by simp [data_eq] }

def prepare (c : Cache) : Cache :=
  if c.tag.any (·.usesCache) then c.build else c

theorem prepare_value (c : Cache) : c.prepare.value = c.value := by
  unfold prepare
  split <;> rfl

def json (c : Cache) : Except Step.Fault Json := do
  match ← c.data with
  | .json d => .ok d
  | .exposition _ => .error .cachedNotJson

def exposition (c : Cache) : Except Step.Fault Exposition.Payload := do
  match ← c.data with
  | .exposition p => .ok p
  | .json _ => .error .cachedNotExposition

end Cache

end ItemPipeline
