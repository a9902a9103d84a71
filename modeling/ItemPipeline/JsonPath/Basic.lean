import ItemPipeline.Json.Basic

/-!
Queries of JSON documents: segments of selectors, with filters over comparisons and functions.
-/

namespace ItemPipeline.JsonPath

inductive CompareOp
  | eq
  | ne
  | lt
  | le
  | gt
  | ge
deriving Repr, DecidableEq

mutual

inductive Selector
  | name (s : String)
  | wildcard
  | index (i : Int)
  | slice (first last step : Option Int)
  | filter (t : Test)

inductive Segment
  | child (l : List Selector)
  | descendant (l : List Selector)

inductive Query
  | root (l : List Segment)
  | current (l : List Segment)

inductive Operand
  | literal (v : Json)
  | query (q : Query)
  | length (a : Operand)
  | count (q : Query)
  | value (q : Query)

inductive Test
  | or (a b : Test)
  | and (a b : Test)
  | not (a : Test)
  | compare (op : CompareOp) (a b : Operand)
  | exists (q : Query)
  | regex (whole : Bool) (a b : Operand)

end

def Query.segments : Query → List Segment
  | root l => l
  | current l => l

def Segment.isSingular : Segment → Bool
  | child [.name _] => true
  | child [.index _] => true
  | _ => false

def Query.isSingular (q : Query) : Bool :=
  q.segments.all Segment.isSingular

end ItemPipeline.JsonPath
