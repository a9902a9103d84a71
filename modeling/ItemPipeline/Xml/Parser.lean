import ItemPipeline.Text.Cut
import ItemPipeline.Text.Digits
import ItemPipeline.Unicode.Ranges
import ItemPipeline.Xml.Basic
import ItemPipeline.Xml.Error

/-!
Reading an XML document. References are separate text nodes, and line ends stay as they are.
-/

namespace ItemPipeline.Xml

open Unicode (CharSet)

structure Cursor where
  rest : List Char
  location : Nat := 0

abbrev Reader := StateT Cursor (Except Error)

namespace Reader

def failAt {α : Type} (f : Fault) (location : Nat) : Reader α :=
  throw ⟨f, location⟩

def fail {α : Type} (f : Fault) : Reader α := do
  failAt f (← get).location

def expected {α : Type} (wanted : List String) : Reader α :=
  fail (.expected wanted)

def skip (n : Nat) : Reader Unit :=
  modify fun s => ⟨s.rest.drop n, (s.rest.take n).foldl (fun k c => k + c.utf8Size) s.location⟩

def looking (t : String) : Reader Bool := do
  pure (t.toList.isPrefixOf (← get).rest)

def eat (t : String) : Reader Bool := do
  if ← looking t then
    skip t.length
    pure true
  else pure false

def literal (t : String) : Reader Unit := do
  if !(← eat t) then expected [s!"Expected(\"{t}\")"]

def takeWhile (p : Char → Bool) : Reader (List Char) := do
  let l := (← get).rest.takeWhile p
  skip l.length
  pure l

def isSpace (c : Char) : Bool :=
  c == ' ' || c == '\t' || c == '\r' || c == '\n'

def space : Reader Unit := do
  let _ ← takeWhile isSpace

def someSpace : Reader Unit := do
  if (← takeWhile isSpace).isEmpty then expected ["ExpectedWhitespace"]

def before? (t s : List Char) : Option (List Char) :=
  if t.isPrefixOf s then some []
  else match s with
    | [] => none
    | c :: r => (before? t r).map (c :: ·)

def takeUntil? (t : String) : Reader (Option (List Char)) := do
  match before? t.toList (← get).rest with
  | some l =>
    skip l.length
    pure (some l)
  | none => pure none

end Reader

open Reader

def nameStartSet : CharSet :=
  CharSet.parse ("41-5A 5F 61-7A C0-D6 D8-F6 F8-2FF 370-37D 37F-1FFF 200C-200D 2070-218F 2C00-2FEF " ++
    "3001-D7FF F900-FDCF FDF0-FFFD 10000-EFFFF")

def nameExtraSet : CharSet :=
  CharSet.parse "2D-2E 30-39 B7 300-36F 203F-2040"

def isNameStart (c : Char) : Bool :=
  nameStartSet.contains c.toNat

def isNameChar (c : Char) : Bool :=
  isNameStart c || nameExtraSet.contains c.toNat

def readNcName (wanted : String) : Reader String := do
  match (← get).rest with
  | c :: _ => if isNameStart c then pure (String.ofList (← takeWhile isNameChar)) else expected [wanted]
  | [] => expected [wanted]

structure QName where
  qualifier : Option String
  localPart : String
  location : Nat
deriving DecidableEq

def readQName (wanted : String) : Reader QName := do
  let start := (← get).location
  let a ← readNcName wanted
  let s ← get
  match s.rest with
  | ':' :: c :: _ =>
    if isNameStart c then
      skip 1
      pure ⟨some a, ← readNcName "ExpectedNcName", start⟩
    else pure ⟨none, a, start⟩
  | _ => pure ⟨none, a, start⟩

def readName (wanted : String) : Reader String := do
  match (← get).rest with
  | c :: _ =>
    if isNameStart c || c == ':' then pure (String.ofList (← takeWhile fun c => isNameChar c || c == ':'))
    else expected [wanted]
  | [] => expected [wanted]

def namedReference? : String → Option Char
  | "lt" => some '<'
  | "gt" => some '>'
  | "amp" => some '&'
  | "apos" => some '\''
  | "quot" => some '"'
  | _ => none

def toChar? (n : Nat) : Option Char :=
  if n.isValidChar then some (Char.ofNat n) else none

def readReference : Reader Char := do
  if ← eat "#x" then
    let start := (← get).location
    let ds ← takeWhile fun c => (Text.digit? 16 c).isSome
    if ds.isEmpty then expected ["ExpectedHexReferenceValue"]
    literal ";"
    match (Text.digits? 16 ds).bind toChar? with
    | some c => pure c
    | none => failAt .invalidHexReference start
  else if ← eat "#" then
    let start := (← get).location
    let ds ← takeWhile Text.isDigit
    if ds.isEmpty then expected ["ExpectedDecimalReferenceValue"]
    literal ";"
    match (Text.digits? 10 ds).bind toChar? with
    | some c => pure c
    | none => failAt .invalidDecimalReference start
  else
    let start := (← get).location
    let name ← readName "ExpectedNamedReferenceValue"
    literal ";"
    match namedReference? name with
    | some c => pure c
    | none => failAt .unknownReference start

def readComment : Reader Node := do
  match ← takeUntil? "--" with
  | some l =>
    literal "-->"
    pure (.comment (String.ofList l))
  | none => expected ["Expected(\"-->\")"]

def readInstruction : Reader Node := do
  let start := (← get).location
  let target ← readName "ExpectedProcessingInstructionTarget"
  if target.toLower = "xml" then failAt .invalidTarget start
  if ← eat "?>" then pure (.instruction target none)
  else
    someSpace
    match ← takeUntil? "?>" with
    | some l =>
      skip 2
      pure (.instruction target (if l.isEmpty then none else some (String.ofList l)))
    | none => expected ["ExpectedProcessingInstructionValue"]

def readCData : Reader Node := do
  match ← takeUntil? "]]>" with
  | some l =>
    skip 3
    pure (.text (String.ofList l))
  | none => expected ["ExpectedCData"]

def charData : List Char → List Char
  | [] => []
  | c :: r =>
    if c = '<' ∨ c = '&' ∨ (c = ']' ∧ "]>".toList.isPrefixOf r) then [] else c :: charData r

def readAttributeValue (quote : Char) (acc : List Char) : Nat → Reader String
  | 0 => expected ["ExpectedAttributeValue"]
  | fuel + 1 => do
    match (← get).rest with
    | [] => expected ["ExpectedAttributeValue"]
    | c :: _ =>
      if c = quote then
        skip 1
        pure (String.ofList acc.reverse)
      else if c = '<' then expected ["ExpectedAttributeValue"]
      else if c = '&' then
        skip 1
        let d ← readReference
        readAttributeValue quote (d :: acc) fuel
      else
        let l ← takeWhile fun d => d != quote && d != '<' && d != '&'
        readAttributeValue quote (l.reverse ++ acc) fuel

def readQuote : Reader Char := do
  if ← eat "\"" then pure '"'
  else if ← eat "'" then pure '\''
  else expected ["ExpectedOpeningQuote(\"'\")", "ExpectedOpeningQuote(\"\\\"\")"]

def readAttributes (acc : List (QName × String)) : Nat → Reader (List (QName × String) × Bool)
  | 0 => expected ["ExpectedAttribute"]
  | fuel + 1 => do
    let start ← get
    space
    if ← eat ">" then pure (acc.reverse, false)
    else if ← eat "/>" then pure (acc.reverse, true)
    else
      set start
      someSpace
      let name ← readQName "ExpectedAttribute"
      space
      literal "="
      space
      let q ← readQuote
      let v ← readAttributeValue q [] (← get).rest.length
      readAttributes ((name, v) :: acc) fuel

abbrev Scope := List (Option String × String)

def xmlNamespace : String := "http://www.w3.org/XML/1998/namespace"

def isDefault (q : QName) : Bool :=
  q.qualifier.isNone && q.localPart == "xmlns"

def isDeclaration (q : QName) : Bool :=
  q.qualifier == some "xmlns" || isDefault q

def checkDuplicates (seen : List QName) : List (QName × String) → Reader Unit
  | [] => pure ()
  | (q, _) :: r => do
    if seen.any fun p => p.qualifier = q.qualifier ∧ p.localPart = q.localPart then
      failAt (if isDefault q then .redefinedDefaultNamespace
        else if isDeclaration q then .redefinedNamespace else .duplicateAttribute) q.location
    checkDuplicates (q :: seen) r

def lookupScope? (scope : Scope) (qualifier : Option String) : Option String :=
  scope.lookup qualifier

def resolveElement (scope : Scope) (q : QName) : Reader Name :=
  match q.qualifier, lookupScope? scope q.qualifier with
  | some _, none => failAt .unknownQualifier q.location
  | p, ns => pure ⟨p, if ns = some "" then none else ns, q.localPart⟩

def resolveAttribute (scope : Scope) (q : QName) : Reader Name :=
  match q.qualifier with
  | none => pure ⟨none, none, q.localPart⟩
  | some _ => resolveElement scope q

structure OpenElement where
  written : QName
  name : Name
  attributes : List Attribute
  children : List Node
  scope : Scope

def OpenElement.close (o : OpenElement) : Node :=
  .element o.name o.attributes o.children.reverse

def readTag (scope : Scope) (written : QName) : Reader (OpenElement × Bool) := do
  let (raw, closed) ← readAttributes [] ((← get).rest.length + 1)
  checkDuplicates [] raw
  let declared := raw.filter fun a => isDeclaration a.1
  for (q, v) in declared do
    if v = "" ∧ !isDefault q then failAt .emptyNamespace q.location
  let scope := declared.foldl (fun s (q, v) => ((if isDefault q then none else some q.localPart), v) :: s) scope
  let name ← resolveElement scope written
  let attributes ← (raw.filter fun a => !isDeclaration a.1).mapM fun (q, v) => do
    pure (Attribute.mk (← resolveAttribute scope q) v)
  pure (⟨written, name, sortAttributes attributes, [], scope⟩, closed)

def wantedInContent : List String :=
  ["Expected(\"</\")", "ExpectedCData", "ExpectedCharacterData", "ExpectedComment", "ExpectedElement",
    "ExpectedProcessingInstruction"]

def readContent (stack : List OpenElement) : Nat → Reader Node
  | 0 => fail .unclosedElement
  | fuel + 1 => do
    match stack with
    | [] => fail .unclosedElement
    | o :: outer =>
      let add (n : Node) : List OpenElement := { o with children := n :: o.children } :: outer
      match (← get).rest with
      | [] => fail .unclosedElement
      | '&' :: _ => do
        skip 1
        let c ← readReference
        readContent (add (.text (String.singleton c))) fuel
      | '<' :: _ => do
        if ← eat "</" then
          let q ← readQName "ExpectedElementName"
          space
          if q.qualifier ≠ o.written.qualifier ∨ q.localPart ≠ o.written.localPart then
            failAt .mismatchedEndName q.location
          literal ">"
          match outer with
          | [] => pure o.close
          | p :: rest => readContent ({ p with children := o.close :: p.children } :: rest) fuel
        else if ← eat "<!--" then readContent (add (← readComment)) fuel
        else if ← eat "<![CDATA[" then readContent (add (← readCData)) fuel
        else if ← eat "<?" then readContent (add (← readInstruction)) fuel
        else
          skip 1
          let q ← readQName "ExpectedElementName"
          let (inner, closed) ← readTag o.scope q
          if closed then readContent (add inner.close) fuel
          else readContent (inner :: o :: outer) fuel
      | s => do
        let l := charData s
        if l.isEmpty then expected wantedInContent
        skip l.length
        readContent (add (.text (String.ofList l))) fuel

def readEquals : Reader Unit := do
  space
  literal "="
  space

def readQuotedWord (p : Char → Bool) (wanted : String) : Reader Unit := do
  let q ← readQuote
  if (← takeWhile p).isEmpty then expected [wanted]
  literal (String.singleton q)

def readDeclared (name : String) (p : Char → Bool) (wanted : String) : Reader Unit := do
  let start ← get
  space
  if ← eat name then
    readEquals
    readQuotedWord p wanted
  else set start

def readDeclaration : Reader Unit := do
  someSpace
  literal "version"
  readEquals
  let q ← readQuote
  literal "1."
  if (← takeWhile Text.isDigit).isEmpty then expected ["ExpectedVersionNumber"]
  literal (String.singleton q)
  readDeclared "encoding" (fun c => c.isAlphanum || c == '.' || c == '_' || c == '-') "ExpectedEncoding"
  readDeclared "standalone" Char.isAlpha "ExpectedYesNo"
  space
  literal "?>"

def skipSubset (quote : Option Char) : List Char → Option (List Char)
  | [] => none
  | c :: r =>
    match quote with
    | some q => skipSubset (if c = q then none else some q) r
    | none =>
      if c = ']' then some r
      else skipSubset (if c = '"' ∨ c = '\'' then some c else none) r

def readLiteral : Reader Unit := do
  let q ← readQuote
  let _ ← takeWhile (· != q)
  literal (String.singleton q)

def readDocumentType : Reader Unit := do
  someSpace
  let _ ← readName "ExpectedDocumentTypeName"
  space
  if ← eat "SYSTEM" then
    someSpace
    readLiteral
  else if ← eat "PUBLIC" then
    someSpace
    readLiteral
    someSpace
    readLiteral
  space
  if ← eat "[" then
    let s ← get
    match skipSubset none s.rest with
    | some r => skip (s.rest.length - r.length)
    | none => expected ["ExpectedIntSubset"]
    space
  literal ">"

inductive Stage
  | beginning
  | declared
  | typed
  | done
deriving DecidableEq

def wantedAtTop : Stage → List String
  | .beginning =>
    ["Expected(\"<?xml\")", "ExpectedComment", "ExpectedElement", "ExpectedProcessingInstruction",
      "ExpectedWhitespace"]
  | .declared =>
    ["Expected(\"<!DOCTYPE\")", "ExpectedComment", "ExpectedElement", "ExpectedProcessingInstruction",
      "ExpectedWhitespace"]
  | .typed => ["ExpectedComment", "ExpectedElement", "ExpectedProcessingInstruction", "ExpectedWhitespace"]
  | .done => ["ExpectedComment", "ExpectedProcessingInstruction", "ExpectedWhitespace"]

def readTop (stage : Stage) (acc : List Node) : Nat → Reader Document
  | 0 => expected (wantedAtTop stage)
  | fuel + 1 => do
    let later := if stage = .beginning then .declared else stage
    match (← get).rest with
    | [] => if stage = .done then pure ⟨acc.reverse⟩ else expected (wantedAtTop stage)
    | c :: r =>
      if isSpace c then
        space
        readTop later acc fuel
      else if ← eat "<!--" then readTop later ((← readComment) :: acc) fuel
      else if stage = .beginning ∧ "<?xml".toList.isPrefixOf (c :: r) ∧ (r.drop 4).head?.any isSpace then
        skip 5
        readDeclaration
        readTop .declared acc fuel
      else if ← eat "<?" then readTop later ((← readInstruction) :: acc) fuel
      else if stage = .declared ∧ "<!DOCTYPE".toList.isPrefixOf (c :: r) then
        skip 9
        readDocumentType
        readTop .typed acc fuel
      else if stage ≠ .done ∧ c = '<' ∧ r.head?.any isNameStart then
        skip 1
        let q ← readQName "ExpectedElementName"
        let (o, closed) ← readTag [(some "xml", xmlNamespace)] q
        let e ← if closed then pure o.close else readContent [o] ((← get).rest.length + 2)
        readTop .done (e :: acc) fuel
      else expected (wantedAtTop stage)

def parse (text : String) : Except Error Document :=
  let chars := text.toList
  match readTop .beginning [] (chars.length + 1) { rest := chars } with
  | .ok (d, _) => .ok d
  | .error e => .error e

end ItemPipeline.Xml
