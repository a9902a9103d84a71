import ItemPipeline.JsonPath.Basic
import ItemPipeline.Regex.Program

/-!
The nodes that a query selects, in document order.
-/

namespace ItemPipeline.JsonPath

mutual

def sameJson : Json → Json → Bool
  | .null, .null => true
  | .bool a, .bool b => a == b
  | .number a, .number b => a.toFloat == b.toFloat
  | .str a, .str b => a == b
  | .array a, .array b => sameItems a b
  | .object a, .object b => sameMembers a b
  | _, _ => false

def sameItems : List Json → List Json → Bool
  | [], [] => true
  | a :: r, b :: s => sameJson a b && sameItems r s
  | _, _ => false

def sameMembers : List (String × Json) → List (String × Json) → Bool
  | [], [] => true
  | (n, a) :: r, (m, b) :: s => n == m && sameJson a b && sameMembers r s
  | _, _ => false

end

def lessJson : Json → Json → Bool
  | .number a, .number b => a.toFloat < b.toFloat
  | .str a, .str b => a < b
  | _, _ => false

def sameValue : Option Json → Option Json → Bool
  | none, none => true
  | some a, some b => sameJson a b
  | _, _ => false

def lessValue : Option Json → Option Json → Bool
  | some a, some b => lessJson a b
  | _, _ => false

def CompareOp.holds (op : CompareOp) (a b : Option Json) : Bool :=
  match op with
  | eq => sameValue a b
  | ne => !sameValue a b
  | lt => lessValue a b
  | le => lessValue a b || sameValue a b
  | gt => lessValue b a
  | ge => lessValue b a || sameValue a b

mutual

def descendants : Json → List Json
  | .array l => .array l :: descendantsOfItems l
  | .object m => .object m :: descendantsOfMembers m
  | v => [v]

def descendantsOfItems : List Json → List Json
  | [] => []
  | v :: r => descendants v ++ descendantsOfItems r

def descendantsOfMembers : List (String × Json) → List Json
  | [] => []
  | (_, v) :: r => descendants v ++ descendantsOfMembers r

end

def children : Json → List Json
  | .array l => l
  | .object m => m.map (·.2)
  | _ => []

def atIndex (l : List Json) (i : Int) : List Json :=
  let k := if i < 0 then i + l.length else i
  if k < 0 then [] else (l[k.toNat]?).toList

/-- The indices of a slice; a negative bound counts from the end, and both are cut to the list. -/
def sliceIndices (first last step : Option Int) (n : Nat) : List Nat :=
  let len : Int := n
  let step := step.getD 1
  let norm (i : Int) : Int := if i ≥ 0 then i else len + i
  if step = 0 then []
  else if step > 0 then
    let lo := min (max (norm (first.getD 0)) 0) len
    let hi := min (max (norm (last.getD len)) 0) len
    (List.range ((hi - lo + step - 1) / step).toNat).map fun (k : Nat) => (lo + k * step).toNat
  else
    let hi := min (max (norm (first.getD (len - 1))) (-1)) (len - 1)
    let lo := min (max (norm (last.getD (-len - 1))) (-1)) (len - 1)
    (List.range ((hi - lo - step - 1) / -step).toNat).map fun (k : Nat) => (hi + k * step).toNat

def lengthOf : Option Json → Option Json
  | some (.str s) => some (.number (.natural s.length.toUInt64))
  | some (.array l) => some (.number (.natural l.length.toUInt64))
  | some (.object m) => some (.number (.natural m.length.toUInt64))
  | _ => none

def regexHolds (whole : Bool) : Option Json → Option Json → Bool
  | some (.str s), some (.str r) =>
    match Regex.build (if whole then s!"(?R)^({r})$" else s!"(?R)({r})") with
    | .ok p => p.isMatch s.toList
    | .error _ => false
  | _, _ => false

mutual

def Selector.select (root : Json) : Selector → Json → List Json
  | .name s, v =>
    match v with
    | .object m => (Json.Members.get? s m).toList
    | _ => []
  | .wildcard, v => children v
  | .index i, v =>
    match v with
    | .array l => atIndex l i
    | _ => []
  | .slice a b c, v =>
    match v with
    | .array l => (sliceIndices a b c l.length).filterMap fun i => l[i]?
    | _ => []
  | .filter t, v => (children v).filter fun w => t.holds root w

def selectAll (root : Json) : List Selector → Json → List Json
  | [], _ => []
  | s :: r, v => s.select root v ++ selectAll root r v

def Segment.step (root : Json) : Segment → List Json → List Json
  | .child l, vs => vs.flatMap fun v => selectAll root l v
  | .descendant l, vs => vs.flatMap fun v => (descendants v).flatMap fun w => selectAll root l w

def stepAll (root : Json) : List Segment → List Json → List Json
  | [], vs => vs
  | s :: r, vs => stepAll root r (s.step root vs)

def Query.nodes (root : Json) : Query → Json → List Json
  | .root l, _ => stepAll root l [root]
  | .current l, v => stepAll root l [v]

def Operand.value? (root : Json) : Operand → Json → Option Json
  | .literal w, _ => some w
  | .query q, v =>
    match q.nodes root v with
    | [w] => some w
    | _ => none
  | .length a, v => lengthOf (a.value? root v)
  | .count q, v => some (.number (.natural (q.nodes root v).length.toUInt64))
  | .value q, v =>
    match q.nodes root v with
    | [w] => some w
    | _ => none

def Test.holds (root : Json) : Test → Json → Bool
  | .or a b, v => a.holds root v || b.holds root v
  | .and a b, v => a.holds root v && b.holds root v
  | .not a, v => !a.holds root v
  | .compare op a b, v => op.holds (a.value? root v) (b.value? root v)
  | .exists q, v => !(q.nodes root v).isEmpty
  | .regex whole a b, v => regexHolds whole (a.value? root v) (b.value? root v)

end

def Query.run (q : Query) (doc : Json) : List Json :=
  q.nodes doc doc

end ItemPipeline.JsonPath
