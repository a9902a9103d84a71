import ItemPipeline.XPath.Basic
import ItemPipeline.Xml.Basic

/-!
The nodes of a document in document order, numbered from the root; the attributes of an element come
last to first right after it.
-/

namespace ItemPipeline.XPath

inductive Kind
  | root
  | element (n : Xml.Node)
  | attribute (a : Xml.Attribute)
  | text (s : String)
  | comment (s : String)
  | instruction (target : String) (value : Option String)

structure Entry where
  kind : Kind
  parent : Option Nat
  last : Nat

instance : Inhabited Entry := ⟨⟨.root, none, 0⟩⟩

abbrev Table := Array Entry

mutual

def entries (parent i : Nat) : Xml.Node → List Entry
  | .element name attributes children =>
    let own := attributes.reverse.zipIdx.map fun (a, k) => Entry.mk (.attribute a) (some i) (i + 1 + k)
    let inner := entriesOfList i (i + 1 + attributes.length) children
    ⟨.element (.element name attributes children), some parent, i + own.length + inner.length⟩ :: own ++ inner
  | .text s => [⟨.text s, some parent, i⟩]
  | .comment s => [⟨.comment s, some parent, i⟩]
  | .instruction t v => [⟨.instruction t v, some parent, i⟩]

def entriesOfList (parent i : Nat) : List Xml.Node → List Entry
  | [] => []
  | n :: r =>
    let a := entries parent i n
    a ++ entriesOfList parent (i + a.length) r

end

def Table.ofDocument (d : Xml.Document) : Table :=
  let inner := entriesOfList 0 1 d.children
  (⟨.root, none, inner.length⟩ :: inner).toArray

namespace Table

def entry (t : Table) (i : Nat) : Entry :=
  t.getD i default

def isAttribute (t : Table) (i : Nat) : Bool :=
  match (t.entry i).kind with
  | .attribute _ => true
  | _ => false

def between (t : Table) (a b : Nat) : List Nat :=
  ((List.range (b - a)).map (a + ·)).filter fun i => !t.isAttribute i

def ancestors (t : Table) (i : Nat) : Nat → List Nat
  | 0 => []
  | fuel + 1 =>
    match (t.entry i).parent with
    | some p => p :: t.ancestors p fuel
    | none => []

def descendants (t : Table) (i : Nat) : List Nat :=
  t.between (i + 1) ((t.entry i).last + 1)

def children (t : Table) (i : Nat) : List Nat :=
  (t.descendants i).filter fun k => (t.entry k).parent == some i

def attributes (t : Table) (i : Nat) : List Nat :=
  ((List.range ((t.entry i).last - i)).map (i + 1 + ·)).filter fun k =>
    t.isAttribute k && (t.entry k).parent == some i

def siblings (t : Table) (i : Nat) : List Nat :=
  if t.isAttribute i then []
  else match (t.entry i).parent with
    | some p => t.children p
    | none => []

def onAxis (t : Table) (i : Nat) : Axis → List Nat
  | .self => [i]
  | .child => t.children i
  | .attributes => t.attributes i
  | .namespaces => []
  | .parent => (t.entry i).parent.toList
  | .ancestor => t.ancestors i (i + 1)
  | .ancestorOrSelf => i :: t.ancestors i (i + 1)
  | .descendant => t.descendants i
  | .descendantOrSelf => i :: t.descendants i
  | .following => t.between ((t.entry i).last + 1) t.size
  | .followingSibling => (t.siblings i).filter (i < ·)
  | .preceding =>
    let up := t.ancestors i (i + 1)
    ((t.between 0 i).filter fun k => !up.contains k).reverse
  | .precedingSibling => ((t.siblings i).filter (· < i)).reverse

def stringValue (t : Table) (i : Nat) : String :=
  let texts := String.join ((t.descendants i).map fun k => match (t.entry k).kind with
    | .text s => s
    | _ => "")
  match (t.entry i).kind with
  | .root => texts
  | .element _ => texts
  | .attribute a => a.value
  | .text s => s
  | .comment s => s
  | .instruction _ v => v.getD ""

def name? (t : Table) (i : Nat) : Option Xml.Name :=
  match (t.entry i).kind with
  | .element (.element n _ _) => some n
  | .attribute a => some a.name
  | .instruction s _ => some { localPart := s }
  | _ => none

def nameHolds (t : Table) (i : Nat) (test : NameTest) : Bool :=
  match t.name? i, test.localPart with
  | some _, none => true
  | some n, some l => n.localPart == l && n.namespaceUri.isNone
  | none, _ => false

def holds (t : Table) (axis : Axis) (i : Nat) : NodeTest → Bool
  | .node => true
  | .name test =>
    match (t.entry i).kind with
    | .element _ => axis ≠ .attributes && t.nameHolds i test
    | .attribute _ => axis = .attributes && t.nameHolds i test
    | _ => false
  | .text =>
    match (t.entry i).kind with
    | .text _ => true
    | _ => false
  | .comment =>
    match (t.entry i).kind with
    | .comment _ => true
    | _ => false
  | .instruction target =>
    match (t.entry i).kind with
    | .instruction s _ => target.all (· == s)
    | _ => false

end Table

end ItemPipeline.XPath
