import ItemPipeline.Json.Basic
import ItemPipeline.Text.Blank

/-!
XML documents as trees, their text, and their image as JSON.
-/

namespace ItemPipeline.Xml

structure Name where
  qualifier : Option String := none
  namespaceUri : Option String := none
  localPart : String
deriving Repr, DecidableEq, Inhabited

structure Attribute where
  name : Name
  value : String
deriving Repr, DecidableEq, Inhabited

inductive Node
  | element (name : Name) (attributes : List Attribute) (children : List Node)
  | text (s : String)
  | comment (s : String)
  | instruction (target : String) (value : Option String)
deriving Repr, Inhabited

structure Document where
  children : List Node
deriving Repr, Inhabited

def Attribute.before (a b : Attribute) : Bool :=
  match a.name.qualifier, b.name.qualifier with
  | none, some _ => true
  | some _, none => false
  | some p, some q => p < q || (p == q && a.name.localPart ≤ b.name.localPart)
  | none, none => a.name.localPart ≤ b.name.localPart

def insertAttribute (a : Attribute) : List Attribute → List Attribute
  | [] => [a]
  | b :: r => if a.before b then a :: b :: r else b :: insertAttribute a r

def sortAttributes (l : List Attribute) : List Attribute :=
  l.foldr insertAttribute []

mutual

def Node.content : Node → String
  | .element _ _ l => contentOfList l
  | .text s => s
  | .comment _ => ""
  | .instruction _ _ => ""

def contentOfList : List Node → String
  | [] => ""
  | n :: r => n.content ++ contentOfList r

end

def escapeChar (c : Char) : List Char :=
  match c with
  | '&' => "&amp;".toList
  | '<' => "&lt;".toList
  | '>' => "&gt;".toList
  | '"' => "&quot;".toList
  | c => [c]

def escape (s : String) : String :=
  String.ofList (s.toList.flatMap escapeChar)

def Attribute.render (a : Attribute) : String :=
  s!" {a.name.localPart}=\"{escape a.value}\""

mutual

def Node.render : Node → String
  | .element name attributes children =>
    let head := "<" ++ name.localPart ++ String.join (attributes.map Attribute.render)
    match children with
    | [] => head ++ "/>"
    | l => head ++ ">" ++ renderList l ++ s!"</{name.localPart}>"
  | .text s => escape s
  | .comment s => s!"<!--{s}-->"
  | .instruction _ _ => ""

def renderList : List Node → String
  | [] => ""
  | n :: r => n.render ++ renderList r

end

def addMember (m : Json.Members) (name : String) (v : Json) : Json.Members :=
  match Json.Members.get? name m with
  | some (.array l) => Json.Members.insert name (.array (l ++ [v])) m
  | some w => Json.Members.insert name (.array [w, v]) m
  | none => Json.Members.insert name v m

def attributeMembers (l : List Attribute) : Json.Members :=
  l.foldl (fun m a => Json.Members.insert ("@" ++ a.name.localPart) (.str a.value) m) []

def ownText (l : List Node) : String :=
  let parts := l.filterMap fun n => match n with
    | .text s => some s
    | _ => none
  String.ofList (Text.trimBlanks (String.join parts).toList)

def elementJson (members : Json.Members) (text : String) : Json :=
  if members.isEmpty then .str text
  else if text = "" then .object members
  else .object (Json.Members.insert "#text" (.str text) members)

mutual

def Node.toJson : Node → Json
  | .element _ attributes children =>
    elementJson (addChildren (attributeMembers attributes) children) (ownText children)
  | _ => .null

def addChildren (m : Json.Members) : List Node → Json.Members
  | [] => m
  | .element n a c :: r =>
    addChildren (addMember m n.localPart (Node.toJson (.element n a c))) r
  | _ :: r => addChildren m r

end

def Document.toJson (d : Document) : Json :=
  .object (addChildren [] d.children)

end ItemPipeline.Xml
