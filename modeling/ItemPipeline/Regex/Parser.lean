import ItemPipeline.Regex.Syntax
import ItemPipeline.Text.Digits
import ItemPipeline.Unicode.Class

/-!
Reading a pattern. The first fault from the left is reported.
-/

namespace ItemPipeline.Regex

structure ReadState where
  rest : List Char
  place : Place := {}
  captures : Nat := 0
  names : List (String × Span) := []
  ignoreSpace : Bool := false

abbrev Reader := StateT ReadState (Except SyntaxError)

namespace Reader

def fail {α : Type} (f : Fault) (s : Span) (earlier : Option Span := none) : Reader α :=
  throw ⟨f, s, earlier⟩

def place : Reader Place := do
  pure (← get).place

def peek : Reader (Option Char) := do
  pure (← get).rest.head?

def atEnd : Reader Bool := do
  pure (← get).rest.isEmpty

def here : Reader Span := do
  let p ← place
  pure ⟨p, p⟩

def spanFrom (p : Place) : Reader Span := do
  pure ⟨p, ← place⟩

def spanChar : Reader Span := do
  let s ← get
  pure ⟨s.place, match s.rest with
    | c :: _ => s.place.after c
    | [] => s.place⟩

def bump : Reader Bool := do
  let s ← get
  match s.rest with
  | [] => pure false
  | c :: r =>
    set { s with rest := r, place := s.place.after c }
    pure (!r.isEmpty)

def isSpace (c : Char) : Bool :=
  Text.isBlank c

def dropSpace (comment : Bool) (p : Place) : List Char → List Char × Place
  | [] => ([], p)
  | c :: r =>
    if comment then dropSpace (c ≠ '\n') (p.after c) r
    else if isSpace c then dropSpace false (p.after c) r
    else if c = '#' then dropSpace true (p.after c) r
    else (c :: r, p)

def bumpSpace : Reader Unit := do
  let s ← get
  if s.ignoreSpace then
    let (r, p) := dropSpace false s.place s.rest
    set { s with rest := r, place := p }

def bumpAndSpace : Reader Bool := do
  if ← bump then
    bumpSpace
    pure (!(← atEnd))
  else pure false

def bumpIf (t : String) : Reader Bool := do
  if t.toList.isPrefixOf (← get).rest then
    for _ in t.toList do
      let _ ← bump
    pure true
  else pure false

def peekSecond : Reader (Option Char) := do
  let s ← get
  match s.rest with
  | [] => pure none
  | _ :: r => pure (if s.ignoreSpace then (dropSpace false s.place r).1.head? else r.head?)

end Reader

open Reader

def isMeta (c : Char) : Bool :=
  "\\.+*?()|[]\x7b\x7d^$#&-~".toList.contains c

def isEscapable (c : Char) : Bool :=
  isMeta c || (c.toNat < 128 && !c.isAlphanum && c != '<' && c != '>')

def isHex (c : Char) : Bool :=
  (Text.digit? 16 c).isSome

def readDecimal : Reader Nat := do
  let rec skip (blanks : Bool) : Nat → Reader Unit
    | 0 => pure ()
    | fuel + 1 => do
      match ← peek with
      | some c =>
        if Reader.isSpace c then
          let _ ← if blanks then bumpAndSpace else bump
          skip blanks fuel
      | none => pure ()
  let rec digits (acc : List Char) : Nat → Reader (List Char)
    | 0 => pure acc.reverse
    | fuel + 1 => do
      match ← peek with
      | some c =>
        if Text.isDigit c then
          let _ ← bumpAndSpace
          digits (c :: acc) fuel
        else pure acc.reverse
      | none => pure acc.reverse
  let fuel := (← get).rest.length
  skip false fuel
  let start ← place
  let ds ← digits [] fuel
  let span ← spanFrom start
  skip true fuel
  match Text.digits? 10 ds with
  | none => fail .repetitionCountEmpty span
  | some n => if n < UInt32.size then pure n else fail .decimalInvalid span

def toChar? (n : Nat) : Option Char :=
  if n.isValidChar then some (Char.ofNat n) else none

def readHexDigits (acc : List Char) (start : Place) : Nat → Reader Char
  | 0 => do
    match (Text.digits? 16 acc.reverse).bind toChar? with
    | some c => pure c
    | none => fail .escapeHexInvalid ⟨start, ← place⟩
  | n + 1 => do
    match ← peek with
    | none => fail .escapeUnexpectedEnd (← here)
    | some c =>
      if !isHex c then fail .escapeHexInvalidDigit (← spanChar)
      let more ← bumpAndSpace
      if !more ∧ n > 0 then fail .escapeUnexpectedEnd (← here)
      readHexDigits (c :: acc) start n

def readBraced (acc : List Char) (check : Char → Reader Unit) : Nat → Reader (List Char)
  | 0 => pure acc.reverse
  | fuel + 1 => do
    let more ← bumpAndSpace
    match more, ← peek with
    | true, some '}' => pure acc.reverse
    | true, some c =>
      check c
      readBraced (c :: acc) check fuel
    | _, _ => pure acc.reverse

def readHexEscape : Reader (Char × Bool) := do
  let count := match ← peek with
    | some 'x' => 2
    | some 'u' => 4
    | _ => 8
  if !(← bumpAndSpace) then fail .escapeUnexpectedEnd (← here)
  if (← peek) = some '{' then
    let brace ← place
    let start := (← spanChar).last
    let ds ← readBraced [] (fun c => do if !isHex c then fail .escapeHexInvalidDigit (← spanChar))
      (← get).rest.length
    if ← atEnd then fail .escapeUnexpectedEnd (← spanFrom brace)
    let stop ← place
    let _ ← bumpAndSpace
    if ds.isEmpty then fail .escapeHexEmpty (← spanFrom brace)
    match (Text.digits? 16 ds).bind toChar? with
    | some c => pure (c, false)
    | none => fail .escapeHexInvalid ⟨start, stop⟩
  else
    let c ← readHexDigits [] (← place) count
    pure (c, count == 2)

def propertyName (s : List Char) : PropertyName :=
  let rec cut (acc : List Char) : List Char → Option (List Char × List Char)
    | '!' :: '=' :: r => some (acc.reverse, r)
    | c :: r => cut (c :: acc) r
    | [] => none
  match cut [] s with
  | some (a, b) => .pair (String.ofList a) (String.ofList b) false
  | none =>
    match Text.cutAt ':' s with
    | some (a, b) => .pair (String.ofList a) (String.ofList b) true
    | none =>
      match Text.cutAt '=' s with
      | some (a, b) => .pair (String.ofList a) (String.ofList b) true
      | none => .single (String.ofList s)

inductive Primitive
  | literal (c : Char) (isByte : Bool := false)
  | dot
  | anchor (a : Anchor)
  | named (k : Named) (negated : Bool)
  | property (p : PropertyName) (negated : Bool)

def readProperty (negated : Bool) : Reader Primitive := do
  if !(← bumpAndSpace) then fail .escapeUnexpectedEnd (← here)
  if (← peek) = some '{' then
    let name ← readBraced [] (fun _ => pure ()) (← get).rest.length
    if ← atEnd then fail .escapeUnexpectedEnd (← here)
    let _ ← bump
    pure (.property (propertyName name) negated)
  else
    match ← peek with
    | some c =>
      if c = '\\' then fail .propertyInvalid (← spanChar)
      let _ ← bumpAndSpace
      pure (.property (.single (String.ofList [c])) negated)
    | none => fail .escapeUnexpectedEnd (← here)

def isBoundaryChar (c : Char) : Bool :=
  c.isAlpha || c == '-'

def readBoundaryName (acc : List Char) : Nat → Reader (List Char)
  | 0 => pure acc.reverse
  | fuel + 1 => do
    match ← peek with
    | some c =>
      if isBoundaryChar c then
        let _ ← bumpAndSpace
        readBoundaryName (c :: acc) fuel
      else pure acc.reverse
    | none => pure acc.reverse

def readBoundary (start : Place) : Reader (Option Anchor) := do
  let saved ← get
  let brace ← place
  if !(← bumpAndSpace) then fail .wordBoundaryUnexpectedEnd (← spanFrom start)
  let inner ← place
  match ← peek with
  | some c =>
    if !isBoundaryChar c then
      set saved
      pure none
    else
      let name ← readBoundaryName [] (← get).rest.length
      if (← peek) ≠ some '}' then fail .wordBoundaryUnclosed (← spanFrom brace)
      let stop ← place
      let _ ← bump
      match String.ofList name with
      | "start" => pure (some .wordStart)
      | "end" => pure (some .wordEnd)
      | "start-half" => pure (some .wordStartHalf)
      | "end-half" => pure (some .wordEndHalf)
      | _ => fail .wordBoundaryUnrecognized ⟨inner, stop⟩
  | none => fail .wordBoundaryUnexpectedEnd (← spanFrom start)

def readEscape : Reader Primitive := do
  let start ← place
  if !(← bump) then fail .escapeUnexpectedEnd (← spanFrom start)
  match ← peek with
  | none => fail .escapeUnexpectedEnd (← spanFrom start)
  | some c =>
    if Text.isDigit c then fail .backreference ⟨start, (← spanChar).last⟩
    else if c = 'x' ∨ c = 'u' ∨ c = 'U' then
      let (d, isByte) ← readHexEscape
      pure (.literal d isByte)
    else if c = 'p' ∨ c = 'P' then readProperty (c = 'P')
    else do
      let _ ← bump
      let span ← spanFrom start
      if isEscapable c then pure (.literal c)
      else match c with
        | 'd' => pure (.named .digit false)
        | 'D' => pure (.named .digit true)
        | 's' => pure (.named .blank false)
        | 'S' => pure (.named .blank true)
        | 'w' => pure (.named .word false)
        | 'W' => pure (.named .word true)
        | 'a' => pure (.literal '\x07')
        | 'f' => pure (.literal '\x0c')
        | 't' => pure (.literal '\t')
        | 'n' => pure (.literal '\n')
        | 'r' => pure (.literal '\r')
        | 'v' => pure (.literal '\x0b')
        | 'A' => pure (.anchor .textStart)
        | 'z' => pure (.anchor .textEnd)
        | 'b' =>
          if (← peek) = some '{' then
            pure (.anchor ((← readBoundary start).getD .wordBoundary))
          else pure (.anchor .wordBoundary)
        | 'B' => pure (.anchor .noWordBoundary)
        | '<' => pure (.anchor .wordStart)
        | '>' => pure (.anchor .wordEnd)
        | _ => fail .escapeUnrecognized span

def Primitive.toPattern (p : Primitive) (s : Span) : Pattern :=
  match p with
  | literal c isByte => .literal ⟨c, isByte, s⟩
  | dot => .dot s
  | anchor a => .anchor a
  | named k n => .named k n s
  | property p n => .property p n s

def readPrimitive : Reader Pattern := do
  let start ← place
  let p ← match ← peek with
    | some '\\' => readEscape
    | some '.' => do
      let _ ← bump
      pure .dot
    | some '^' => do
      let _ ← bump
      pure (.anchor .lineStart)
    | some '$' => do
      let _ ← bump
      pure (.anchor .lineEnd)
    | some c => do
      let _ ← bump
      pure (.literal c)
    | none => fail .escapeUnexpectedEnd (← here)
  pure (p.toPattern (← spanFrom start))

def readClassItem : Reader (Primitive × Span) := do
  let start ← place
  let p ← match ← peek with
    | some '\\' => readEscape
    | some c => do
      let _ ← bump
      pure (.literal c)
    | none => fail .escapeUnexpectedEnd (← here)
  pure (p, ← spanFrom start)

def classItem (p : Primitive) (s : Span) : Reader ClassExpr :=
  match p with
  | .literal c isByte => pure (.literal ⟨c, isByte, s⟩)
  | .named k n => pure (.named k n s)
  | .property p n => pure (.property p n s)
  | _ => fail .classEscapeInvalid s

def classLiteral (p : Primitive) (s : Span) : Reader Literal :=
  match p with
  | .literal c isByte => pure ⟨c, isByte, s⟩
  | _ => fail .classRangeLiteral s

def readClassRange (unclosed : Span) : Reader ClassExpr := do
  let (p, s) ← readClassItem
  bumpSpace
  match ← peek with
  | none => fail .classUnclosed unclosed
  | some c =>
    let next ← peekSecond
    if c ≠ '-' ∨ next = some ']' ∨ next = some '-' then classItem p s
    else
      if !(← bumpAndSpace) then fail .classUnclosed unclosed
      let (q, t) ← readClassItem
      let a ← classLiteral p s
      let b ← classLiteral q t
      if a.char.toNat ≤ b.char.toNat then pure (.range a b)
      else fail .classRangeInvalid ⟨s.first, t.last⟩

def readAsciiClass : Reader (Option ClassExpr) := do
  let s ← get
  match s.rest with
  | '[' :: ':' :: r =>
    let (negated, r) := match r with
      | '^' :: t => (true, t)
      | t => (false, t)
    match Text.cutAt ':' r with
    | some (name, ']' :: _) =>
      match AsciiClass.ofName? (String.ofList name) with
      | some k =>
        let _ ← bumpIf (String.ofList ("[:".toList ++ (if negated then ['^'] else []) ++ name ++ ":]".toList))
        pure (some (.ascii k negated ⟨s.place, (← get).place⟩))
      | none => pure none
    | _ => pure none
  | _ => pure none

structure OpenClass where
  span : Span
  negated : Bool
  items : ClassExpr

def readDashes (start : Place) (acc : ClassExpr) : Nat → Reader ClassExpr
  | 0 => pure acc
  | fuel + 1 => do
    if (← peek) = some '-' then
      if !(← bumpAndSpace) then fail .classUnclosed (← spanFrom start)
      readDashes start (.union acc (.literal { char := '-' })) fuel
    else pure acc

def readClassOpen : Reader OpenClass := do
  let start ← place
  if !(← bumpAndSpace) then fail .classUnclosed (← spanFrom start)
  let negated := (← peek) = some '^'
  if negated then
    if !(← bumpAndSpace) then fail .classUnclosed (← spanFrom start)
  let items ← readDashes start .empty (← get).rest.length
  let items ← match items, ← peek with
    | .empty, some ']' => do
      if !(← bumpAndSpace) then fail .classUnclosed (← spanFrom start)
      pure (.union .empty (.literal { char := ']' }))
    | _, _ => pure items
  pure ⟨← spanFrom start, negated, items⟩

def applyOp (pending : Option (SetOp × ClassExpr)) (e : ClassExpr) : ClassExpr :=
  match pending with
  | some (k, a) => .op k a e
  | none => e

def readClassBody (o : OpenClass) (pending : Option (SetOp × ClassExpr)) (items : ClassExpr) :
    Nat → Reader ClassExpr
  | 0 => fail .classUnclosed o.span
  | fuel + 1 => do
    bumpSpace
    match ← peek with
    | none => fail .classUnclosed o.span
    | some '[' =>
      match ← readAsciiClass with
      | some e => readClassBody o pending (.union items e) fuel
      | none =>
        let inner ← readClassOpen
        let e ← readClassBody inner none inner.items fuel
        readClassBody o pending (.union items e) fuel
    | some ']' => do
      let _ ← bump
      pure (.bracket o.negated (applyOp pending items) (← spanFrom o.span.first))
    | some c =>
      let second := (← get).rest[1]?
      let op : Option SetOp :=
        if c = '&' ∧ second = some '&' then some .inter
        else if c = '-' ∧ second = some '-' then some .diff
        else if c = '~' ∧ second = some '~' then some .symmDiff
        else none
      match op with
      | some k =>
        let _ ← bump
        let _ ← bump
        readClassBody o (some (k, applyOp pending items)) .empty fuel
      | none =>
        let e ← readClassRange o.span
        readClassBody o pending (.union items e) fuel

def readClass : Reader Pattern := do
  let start ← place
  let o ← readClassOpen
  let e ← readClassBody o none o.items ((← get).rest.length + 1)
  pure (.cls e (← spanFrom start))

def flagName? : Char → Option FlagName
  | 'i' => some .ignoreCase
  | 'm' => some .multiLine
  | 's' => some .dotNewline
  | 'U' => some .swapGreed
  | 'u' => some .unicode
  | 'R' => some .crlf
  | 'x' => some .ignoreSpace
  | _ => none

def readFlags (acc : List (FlagItem × Span)) (dangling : Option Span) : Nat → Reader (List FlagItem)
  | 0 => pure (acc.reverse.map (·.1))
  | fuel + 1 => do
    match ← peek with
    | none => fail .flagUnexpectedEnd (← here)
    | some c =>
      if c = ':' ∨ c = ')' then
        match dangling with
        | some s => fail .flagDanglingNegation s
        | none => pure (acc.reverse.map (·.1))
      else
        let s ← spanChar
        let item ← if c = '-' then pure FlagItem.negation
          else match flagName? c with
            | some f => pure (.flag f)
            | none => fail .flagUnrecognized s
        match acc.find? fun e => e.1 = item with
        | some e => fail (if c = '-' then .flagRepeatedNegation else .flagDuplicate) s (some e.2)
        | none =>
          if !(← bump) then fail .flagUnexpectedEnd (← here)
          readFlags ((item, s) :: acc) (if c = '-' then some s else none) fuel

def flagState (f : FlagName) (on : Bool) : List FlagItem → Option Bool
  | [] => none
  | .negation :: r => flagState f false r
  | .flag g :: r => if g = f then some on else flagState f on r

def isNameChar (c : Char) (first : Bool) : Bool :=
  if first then c == '_' || Unicode.isAlphabetic c
  else c == '_' || c == '.' || c == '[' || c == ']' || Unicode.isAlphanumeric c

def readName (acc : List Char) : Nat → Reader (List Char)
  | 0 => pure acc.reverse
  | fuel + 1 => do
    match ← peek with
    | none => pure acc.reverse
    | some '>' => pure acc.reverse
    | some c =>
      if !isNameChar c acc.isEmpty then fail .groupNameInvalid (← spanChar)
      let _ ← bump
      readName (c :: acc) fuel

def readGroupName : Reader Unit := do
  if ← atEnd then fail .groupNameUnexpectedEnd (← here)
  let start ← place
  let name ← readName [] (← get).rest.length
  let span ← spanFrom start
  if ← atEnd then fail .groupNameUnexpectedEnd (← here)
  let _ ← bump
  if name.isEmpty then fail .groupNameEmpty ⟨start, start⟩
  let s ← get
  match s.names.find? fun e => e.1 = String.ofList name with
  | some e => fail .groupNameDuplicate span (some e.2)
  | none => set { s with names := (String.ofList name, span) :: s.names }

def nextCapture : Reader Nat := do
  let s ← get
  set { s with captures := s.captures + 1 }
  pure (s.captures + 1)

inductive GroupOpen
  | flags (items : List FlagItem)
  | capture (index : Nat)
  | scoped (items : List FlagItem)

def readGroupOpen : Reader (GroupOpen × Span) := do
  let paren ← spanChar
  let _ ← bump
  bumpSpace
  for t in ["?=", "?!", "?<=", "?<!"] do
    if ← bumpIf t then fail .lookAround (← spanFrom paren.first)
  let inner ← here
  if (← bumpIf "?P<") || (← bumpIf "?<") then
    let i ← nextCapture
    readGroupName
    pure (.capture i, paren)
  else if ← bumpIf "?" then
    if ← atEnd then fail .groupUnclosed paren
    let items ← readFlags [] none ((← get).rest.length + 1)
    let close ← peek
    let _ ← bump
    if close = some ')' then
      if items.isEmpty then fail .repetitionMissing inner
      pure (.flags items, paren)
    else pure (.scoped items, paren)
  else pure (.capture (← nextCapture), paren)

def takeOperand (items : List Pattern) (missing : Span) : Reader (Pattern × List Pattern) :=
  match items with
  | [] => fail .repetitionMissing missing
  | .flags _ :: _ => fail .repetitionMissing missing
  | .empty :: _ => fail .repetitionMissing missing
  | p :: r => pure (p, r)

def readCount : Reader (Nat × Option Nat) := do
  let start ← place
  let unclosed {α : Type} : Reader α := do fail .repetitionCountUnclosed (← spanFrom start)
  if !(← bumpAndSpace) then unclosed
  let s ← get
  let first : Except SyntaxError Nat × ReadState := match readDecimal s with
    | .ok (n, s) => (.ok n, s)
    | .error e =>
      let (r, p) := Reader.dropSpace false s.place s.rest
      (.error e, if s.ignoreSpace then { s with rest := r, place := p } else s)
  set first.2
  if ← atEnd then unclosed
  let range ← if (← peek) = some ',' then do
      if !(← bumpAndSpace) then unclosed
      if (← peek) ≠ some '}' then
        let a ← first.1
        let b ← readDecimal
        pure (a, some b)
      else pure (← first.1, none)
    else do
      let a ← first.1
      pure (a, some a)
  if (← peek) ≠ some '}' then unclosed
  pure range

def readLazy (more : Bool) : Reader Bool := do
  if more ∧ (← peek) = some '?' then
    let _ ← bump
    pure true
  else pure false

def seqOf (items : List Pattern) : Pattern :=
  match items with
  | [] => .empty
  | p :: r => r.foldl (fun acc q => .seq q acc) p

def setIgnoreSpace (b : Bool) : Reader Unit :=
  modify fun s => { s with ignoreSpace := b }

def readBody (group : Option Span) (branches : List Pattern) (items : List Pattern) : Nat → Reader Pattern
  | 0 => do fail .nestLimit (← here)
  | fuel + 1 => do
    bumpSpace
    let finish : Pattern := branches.foldl (fun acc q => .alt q acc) (seqOf items)
    match ← peek with
    | none =>
      match group with
      | some s => fail .groupUnclosed s
      | none => pure finish
    | some ')' =>
      match group with
      | none => fail .groupUnopened (← spanChar)
      | some _ =>
        let _ ← bump
        pure finish
    | some '(' =>
      let (o, paren) ← readGroupOpen
      let old := (← get).ignoreSpace
      match o with
      | .flags l =>
        setIgnoreSpace ((flagState .ignoreSpace true l).getD old)
        readBody group branches (.flags l :: items) fuel
      | .capture i =>
        let p ← readBody (some paren) [] [] fuel
        setIgnoreSpace old
        readBody group branches (.capture i p :: items) fuel
      | .scoped l =>
        setIgnoreSpace ((flagState .ignoreSpace true l).getD old)
        let p ← readBody (some paren) [] [] fuel
        setIgnoreSpace old
        readBody group branches (.scoped l p :: items) fuel
    | some '|' =>
      let _ ← bump
      readBody group (seqOf items :: branches) [] fuel
    | some '[' =>
      let p ← readClass
      readBody group branches (p :: items) fuel
    | some '{' =>
      let start ← place
      let (p, r) ← takeOperand items (← here)
      let (a, b) ← readCount
      let slow ← readLazy (← bumpAndSpace)
      let span ← spanFrom start
      if b.any (· < a) then fail .repetitionCountInvalid span
      readBody group branches (.repetition a b (!slow) p :: r) fuel
    | some c =>
      let range : Option (Nat × Option Nat) := match c with
        | '?' => some (0, some 1)
        | '*' => some (0, none)
        | '+' => some (1, none)
        | _ => none
      match range with
      | some (a, b) =>
        let (p, r) ← takeOperand items (← here)
        let slow ← readLazy (← bump)
        readBody group branches (.repetition a b (!slow) p :: r) fuel
      | none =>
        let p ← readPrimitive
        readBody group branches (p :: items) fuel

def parsePattern (text : String) : Except SyntaxError (Pattern × Nat) := do
  let chars := text.toList
  let (p, s) ← (readBody none [] [] (chars.length + 2)).run { rest := chars }
  pure (p, s.captures)

end ItemPipeline.Regex
