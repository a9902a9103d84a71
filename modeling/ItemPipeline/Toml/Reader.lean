import ItemPipeline.Decimal.Read
import ItemPipeline.Toml.Error

/-!
Reading the smallest parts of a document: blanks, comments, keys and values without parts.
-/

namespace ItemPipeline.Toml

structure Cursor where
  rest : List Char
  location : Nat := 0

abbrev Reader := StateT Cursor (Except Error)

namespace Reader

def here : Reader Nat := do
  pure (← get).location

def rest : Reader (List Char) := do
  pure (← get).rest

def failAt {α : Type} (f : Fault) (start stop : Nat) : Reader α :=
  throw ⟨f, some ⟨start, stop⟩⟩

def fail {α : Type} (f : Fault) : Reader α := do
  let s ← get
  failAt f s.location (s.location + (s.rest.head?.map Char.utf8Size).getD 0)

def malformed {α : Type} (what : String) (wanted : List String := []) : Reader α :=
  fail (.malformed (some what) wanted)

def expected {α : Type} (wanted : List String) : Reader α :=
  fail (.malformed none wanted)

def check {α : Type} (start : Cursor) : Except Fault α → Reader α
  | .ok a => pure a
  | .error f => do
    set start
    fail f

def skip (n : Nat) : Reader Unit :=
  modify fun s => ⟨s.rest.drop n, s.location + Text.byteSize (s.rest.take n)⟩

def skipWhile (p : Char → Bool) : Reader Unit := do
  skip ((← rest).takeWhile p).length

def advanceTo (left : List Char) : Reader Unit := do
  skip ((← rest).length - left.length)

def looking (t : String) : Reader Bool := do
  pure (t.toList.isPrefixOf (← rest))

def eat (t : String) : Reader Bool := do
  if ← looking t then
    skip t.length
    pure true
  else pure false

def isSpace (c : Char) : Bool :=
  c == ' ' || c == '\t'

def space : Reader Unit :=
  skipWhile isSpace

def isPlain (c : Char) : Bool :=
  c == '\t' || (0x20 ≤ c.toNat && c.toNat ≠ 0x7F)

def comment : Reader Unit := do
  if ← eat "#" then skipWhile isPlain

def newline : Reader Bool := do
  if ← eat "\n" then pure true else eat "\r\n"

def lineEnd (what : Option String) : Reader Unit := do
  space
  let commented ← looking "#"
  comment
  if !(← newline) && (← rest) ≠ [] then
    fail (.malformed what (if commented then [] else ["newline", "\x60#\x60"]))

def gap : Nat → Reader Unit
  | 0 => pure ()
  | fuel + 1 => do
    space
    comment
    if ← newline then gap fuel

def gaps : Reader Unit := do
  gap ((← rest).length + 1)

def escapes : List (Char × Char) :=
  [('b', '\x08'), ('t', '\t'), ('n', '\n'), ('f', '\x0c'), ('r', '\r'), ('"', '"'), ('\\', '\\')]

def hexCharacter (n : Nat) : Reader Char := do
  let start ← get
  match ((← rest).take n).mapM (Text.digit? 16) with
  | some ds =>
    if ds.length < n then malformed "unicode 4-digit hex code"
    let v := ds.foldl (fun a d => a * 16 + d) 0
    if v < 0xD800 ∨ (0xDFFF < v ∧ v < 0x110000) then
      skip n
      pure (Char.ofNat v)
    else check start (.error .outOfRange)
  | none => malformed "unicode 4-digit hex code"

def escape : Reader Char := do
  match (← rest) with
  | 'u' :: _ =>
    skip 1
    hexCharacter 4
  | 'U' :: _ =>
    skip 1
    hexCharacter 8
  | c :: _ =>
    match escapes.find? fun e => e.1 = c with
    | some e =>
      skip 1
      pure e.2
    | none => badEscape
  | [] => badEscape
where
  badEscape : Reader Char :=
    malformed "escape sequence" (["b", "f", "n", "r", "t", "u", "U", "\\", "\""].map Text.ticked)

def basicString (acc : List Char) : Nat → Reader String
  | 0 => malformed "basic string"
  | fuel + 1 => do
    match (← rest) with
    | '"' :: _ =>
      skip 1
      pure (String.ofList acc.reverse)
    | '\\' :: _ =>
      skip 1
      let c ← escape
      basicString (c :: acc) fuel
    | c :: _ =>
      if isPlain c then
        skip 1
        basicString (c :: acc) fuel
      else malformed "basic string"
    | [] => malformed "basic string"

def literalString : Reader String := do
  let s := (← rest).takeWhile fun c => isPlain c && c != '\''
  skip s.length
  if ← eat "'" then pure (String.ofList s) else malformed "literal string"

def lineContinues : Reader Bool := do
  let s ← get
  space
  if ← newline then
    skipBlankLines ((← rest).length + 1)
    pure true
  else
    set s
    pure false
where
  skipBlankLines : Nat → Reader Unit
    | 0 => pure ()
    | fuel + 1 => do
      space
      if ← newline then skipBlankLines fuel

def linesString (what : String) (quote : Char) (escaped : Bool) (acc : List Char) : Nat → Reader String
  | 0 => malformed what
  | fuel + 1 => do
    let l ← rest
    let quotes := (l.takeWhile (· = quote)).length
    if quotes ≥ 3 then
      let n := min quotes 5
      skip n
      pure (String.ofList (acc.reverse ++ List.replicate (n - 3) quote))
    else if ← newline then linesString what quote escaped ('\n' :: acc) fuel
    else
      match l with
      | [] => malformed what
      | c :: _ =>
        if escaped ∧ c = '\\' then
          skip 1
          if ← lineContinues then linesString what quote escaped acc fuel
          else
            let e ← escape
            linesString what quote escaped (e :: acc) fuel
        else if isPlain c then
          skip 1
          linesString what quote escaped (c :: acc) fuel
        else malformed what

def string (short : Bool) : Reader String := do
  let fuel := (← rest).length + 1
  if !short && (← eat "\"\"\"") then
    let _ ← newline
    linesString "multiline basic string" '"' true [] fuel
  else if !short && (← eat "'''") then
    let _ ← newline
    linesString "multiline literal string" '\'' false [] fuel
  else if ← eat "\"" then basicString [] fuel
  else
    skip 1
    literalString

def isBare (c : Char) : Bool :=
  c.isAlphanum || c == '_' || c == '-'

def simpleKey : Reader Key := do
  let start ← here
  match (← rest) with
  | '"' :: _ => named start (← string true)
  | '\'' :: _ => named start (← string true)
  | l =>
    let s := l.takeWhile isBare
    if s = [] then malformed "key"
    else
      skip s.length
      named start (String.ofList s)
where
  named (start : Nat) (s : String) : Reader Key := do
    pure ⟨s, ⟨start, ← here⟩⟩

def depthLimit : Nat := 80

def dottedKey (acc : List Key) : Nat → Reader (List Key)
  | 0 => malformed "key"
  | fuel + 1 => do
    space
    let k ← simpleKey
    space
    if ← eat "." then dottedKey (k :: acc) fuel
    else pure (k :: acc).reverse

def key : Reader (List Key) := do
  let start ← get
  let k ← dottedKey [] ((← rest).length + 1)
  check start (if depthLimit ≤ k.length then .error .tooDeep else .ok k)

end Reader

end ItemPipeline.Toml
