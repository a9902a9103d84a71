import ItemPipeline.Json.Parser
import ItemPipeline.JsonPath.Basic
import ItemPipeline.Text.Cut

/-!
Reading a query (RFC 9535). Types of function arguments and of operands are checked as they are read.
-/

namespace ItemPipeline.JsonPath

inductive Fault
  | malformed
  | memberName
  | unclosedQuote
  | selector
deriving Repr, DecidableEq

structure Error where
  fault : Fault
  position : Nat
deriving Repr, DecidableEq

def Fault.message : Fault → String
  | malformed => "parser error"
  | memberName => "in dot member name, must start with lowercase alpha or '_'"
  | unclosedQuote => "in long-hand segment, expected an ending quote"
  | selector => "in long-hand segment, parser error"

def Error.message (e : Error) : String :=
  s!"at position {e.position}, {e.fault.message}"

abbrev Reader := StateT (List Char) (Except (Fault × List Char))

namespace Reader

def fail {α : Type} (f : Fault) : Reader α := do
  throw (f, ← get)

def peek : Reader (Option Char) := do
  pure (← get).head?

def isSpace (c : Char) : Bool :=
  c == ' ' || c == '\t' || c == '\n' || c == '\r'

def skipSpace : Reader Unit :=
  modify fun s => s.dropWhile isSpace

def eat (t : String) : Reader Bool := do
  match Text.dropPrefix? t.toList (← get) with
  | some r =>
    set r
    pure true
  | none => pure false

def expect (t : String) : Reader Unit := do
  if !(← eat t) then fail .malformed

def attempt {α : Type} (p : Reader α) : Reader (Option α) := do
  let s ← get
  match p s with
  | .ok (a, r) =>
    set r
    pure (some a)
  | .error _ => pure none

def takeWhile (p : Char → Bool) : Reader (List Char) := do
  let s ← get
  set (s.dropWhile p)
  pure (s.takeWhile p)

end Reader

open Reader

def isNameFirst (c : Char) : Bool :=
  c.isAlpha || c == '_' || c.toNat ≥ 0x80

def isNameChar (c : Char) : Bool :=
  isNameFirst c || Text.isDigit c

def readName : Reader String := do
  match ← peek with
  | some c => if isNameFirst c then pure (String.ofList (← takeWhile isNameChar)) else fail .memberName
  | none => fail .memberName

def readHex : Reader Nat := do
  let s ← get
  match s.take 4 |>.mapM (Text.digit? 16) with
  | some [a, b, c, d] =>
    set (s.drop 4)
    pure (((a * 16 + b) * 16 + c) * 16 + d)
  | _ => fail .malformed

def readPlane : Reader Char := do
  let n ← readHex
  if n.isValidChar then pure (Char.ofNat n) else fail .malformed

/-- A surrogate, whose kind two capital digits tell. -/
def readSurrogate (kinds : List Char) : Reader Nat := do
  match (← get).take 2 with
  | ['D', c] => if kinds.contains c then readHex else fail .malformed
  | _ => fail .malformed

/-- A character beyond the first plane takes two escapes, a high and a low surrogate. -/
def readUnicode : Reader Char := do
  match ← attempt readPlane with
  | some c => pure c
  | none =>
    let high ← readSurrogate ['8', '9', 'A', 'B']
    expect "\\u"
    let low ← readSurrogate ['C', 'D', 'E', 'F']
    pure (Char.ofNat ((high - 0xD800) * 1024 + (low - 0xDC00) + 0x10000))

def readEscape (quote : Char) : Reader Char := do
  let s ← get
  match s with
  | '\\' :: c :: r =>
    set r
    match c with
    | 'n' => pure '\n'
    | 'r' => pure '\r'
    | 't' => pure '\t'
    | 'b' => pure '\x08'
    | 'f' => pure '\x0c'
    | '\\' => pure '\\'
    | '/' => pure '/'
    | 'u' => readUnicode
    | c => if c = quote then pure c else fail .malformed
  | _ => fail .malformed

def readQuoted (quote : Char) (acc : List Char) : Nat → Reader String
  | 0 => fail .unclosedQuote
  | fuel + 1 => do
    match ← peek with
    | none => fail .unclosedQuote
    | some c =>
      if c = quote then
        modify List.tail
        pure (String.ofList acc.reverse)
      else if c = '\\' then
        match ← attempt (readEscape quote) with
        | some e => readQuoted quote (e :: acc) fuel
        | none => fail .unclosedQuote
      else if c.toNat < 0x20 then fail .unclosedQuote
      else
        modify List.tail
        readQuoted quote (c :: acc) fuel

def readString : Reader String := do
  let s ← get
  match s with
  | '\'' :: r =>
    set r
    readQuoted '\'' [] (r.length + 1)
  | '"' :: r =>
    set r
    readQuoted '"' [] (r.length + 1)
  | _ => fail .malformed

def readDigits : Reader (List Char) := do
  match ← peek with
  | some '0' =>
    modify List.tail
    pure ['0']
  | _ =>
    let ds ← takeWhile Text.isDigit
    if ds.isEmpty then fail .malformed else pure ds

def maxIndex : Nat := Nat.pow 2 53 - 1

def readInt : Reader Int := do
  let negative ← eat "-"
  let ds ← readDigits
  let n := (Text.digits? 10 ds).getD 0
  if n > maxIndex ∨ (negative ∧ n = 0) then fail .malformed
  pure (if negative then -n else n)

def readNumber : Reader Json := do
  let s ← get
  let _ ← eat "-"
  let _ ← readDigits
  if (← peek) = some '.' then
    let _ ← attempt do
      expect "."
      if (← takeWhile Text.isDigit).isEmpty then fail .malformed
  let _ ← attempt do
    if !(← eat "e") then expect "E"
    if !(← eat "-") then
      let _ ← eat "+"
    if (← takeWhile Text.isDigit).isEmpty then fail .malformed
  let r ← get
  match Json.parse (String.ofList (s.take (s.length - r.length))) with
  | .ok v => pure v
  | .error _ => fail .malformed

def readLiteral : Reader Json := do
  match ← peek with
  | some '"' => pure (.str (← readString))
  | some '\'' => pure (.str (← readString))
  | some 't' => do
    expect "true"
    pure (.bool true)
  | some 'f' => do
    expect "false"
    pure (.bool false)
  | some 'n' => do
    expect "null"
    pure .null
  | _ => readNumber

def readCompareOp : Reader CompareOp := do
  if ← eat "==" then pure .eq
  else if ← eat "!=" then pure .ne
  else if ← eat "<=" then pure .le
  else if ← eat ">=" then pure .ge
  else if ← eat "<" then pure .lt
  else if ← eat ">" then pure .gt
  else fail .malformed

def readIndex : Reader Selector := do
  let first ← attempt readInt
  let s ← get
  skipSpace
  if ← eat ":" then
    skipSpace
    let last ← attempt readInt
    let t ← get
    skipSpace
    if ← eat ":" then
      let u ← get
      skipSpace
      match ← attempt readInt with
      | some step => pure (.slice first last (some step))
      | none =>
        set u
        pure (.slice first last none)
    else
      set t
      pure (.slice first last none)
  else
    set s
    match first with
    | some i => pure (.index i)
    | none => fail .selector

inductive Call
  | operand (a : Operand)
  | test (t : Test)

def isFunctionChar (c : Char) : Bool :=
  c.isLower || Text.isDigit c || c == '_'

mutual

def readSelector : Nat → Reader Selector
  | 0 => fail .malformed
  | fuel + 1 => do
    match ← peek with
    | some '\'' => pure (.name (← readString))
    | some '"' => pure (.name (← readString))
    | some '*' => do
      expect "*"
      pure .wildcard
    | some '?' => do
      expect "?"
      skipSpace
      pure (.filter (← readOr fuel))
    | _ => readIndex

def readSelectors (acc : List Selector) : Nat → Reader (List Selector)
  | 0 => fail .malformed
  | fuel + 1 => do
    skipSpace
    let s ← readSelector fuel
    skipSpace
    if ← eat "," then readSelectors (s :: acc) fuel
    else if ← eat "]" then pure (s :: acc).reverse
    else fail .selector

def readSegment? : Nat → Reader (Option Segment)
  | 0 => fail .malformed
  | fuel + 1 => do
    if ← eat ".." then
      if ← eat "[" then pure (some (.descendant (← readSelectors [] fuel)))
      else if ← eat "*" then pure (some (.descendant [.wildcard]))
      else pure (some (.descendant [.name (← readName)]))
    else if ← eat "." then
      if ← eat "*" then pure (some (.child [.wildcard]))
      else pure (some (.child [.name (← readName)]))
    else if ← eat "[" then pure (some (.child (← readSelectors [] fuel)))
    else pure none

def readSegments (acc : List Segment) : Nat → Reader (List Segment)
  | 0 => fail .malformed
  | fuel + 1 => do
    let s ← get
    skipSpace
    match ← readSegment? fuel with
    | some g => readSegments (g :: acc) fuel
    | none =>
      set s
      pure acc.reverse

def readQuery : Nat → Reader Query
  | 0 => fail .malformed
  | fuel + 1 => do
    if ← eat "$" then pure (.root (← readSegments [] fuel))
    else if ← eat "@" then pure (.current (← readSegments [] fuel))
    else fail .malformed

def readCall : Nat → Reader Call
  | 0 => fail .malformed
  | fuel + 1 => do
    let name ← takeWhile isFunctionChar
    expect "("
    skipSpace
    let c ← match String.ofList name with
      | "length" => do pure (Call.operand (.length (← readOperand fuel)))
      | "count" => do pure (Call.operand (.count (← readQuery fuel)))
      | "value" => do pure (Call.operand (.value (← readQuery fuel)))
      | "match" => do
        let a ← readOperand fuel
        skipSpace
        expect ","
        skipSpace
        pure (Call.test (.regex true a (← readOperand fuel)))
      | "search" => do
        let a ← readOperand fuel
        skipSpace
        expect ","
        skipSpace
        pure (Call.test (.regex false a (← readOperand fuel)))
      | _ => fail .malformed
    skipSpace
    expect ")"
    pure c

def readOperand : Nat → Reader Operand
  | 0 => fail .malformed
  | fuel + 1 => do
    match ← peek with
    | some '$' => readSingular fuel
    | some '@' => readSingular fuel
    | _ =>
      match ← attempt (readCall fuel) with
      | some (.operand a) => pure a
      | some (.test _) => fail .malformed
      | none => pure (.literal (← readLiteral))

def readSingular : Nat → Reader Operand
  | 0 => fail .malformed
  | fuel + 1 => do
    let q ← readQuery fuel
    if q.isSingular then pure (.query q) else fail .malformed

def readOr : Nat → Reader Test
  | 0 => fail .malformed
  | fuel + 1 => do
    let a ← readAnd fuel
    match ← attempt (do skipSpace; expect "||"; skipSpace) with
    | some _ => pure (.or a (← readOr fuel))
    | none => pure a

def readAnd : Nat → Reader Test
  | 0 => fail .malformed
  | fuel + 1 => do
    let a ← readBasic fuel
    match ← attempt (do skipSpace; expect "&&"; skipSpace) with
    | some _ => pure (.and a (← readAnd fuel))
    | none => pure a

def readParen : Nat → Reader Test
  | 0 => fail .malformed
  | fuel + 1 => do
    expect "("
    skipSpace
    let t ← readOr fuel
    skipSpace
    expect ")"
    pure t

def readComparison : Nat → Reader Test
  | 0 => fail .malformed
  | fuel + 1 => do
    let a ← readOperand fuel
    skipSpace
    let op ← readCompareOp
    skipSpace
    pure (.compare op a (← readOperand fuel))

def readTest : Nat → Reader Test
  | 0 => fail .malformed
  | fuel + 1 => do
    match ← peek with
    | some '$' => pure (.exists (← readQuery fuel))
    | some '@' => pure (.exists (← readQuery fuel))
    | _ =>
      match ← readCall fuel with
      | .test t => pure t
      | .operand _ => fail .malformed

def readBasic : Nat → Reader Test
  | 0 => fail .malformed
  | fuel + 1 => do
    match ← peek with
    | some '(' => readParen fuel
    | some '!' => do
      expect "!"
      skipSpace
      if (← peek) = some '(' then pure (.not (← readParen fuel)) else pure (.not (← readTest fuel))
    | _ =>
      match ← attempt (readComparison fuel) with
      | some t => pure t
      | none => readTest fuel

end

def readRoot (fuel : Nat) : Reader Query := do
  if (← peek) ≠ some '$' then fail .malformed
  let q ← readQuery fuel
  if (← get).isEmpty then pure q else fail .malformed

def parse (text : String) : Except Error Query :=
  let chars := text.toList
  match readRoot (16 * chars.length + 16) chars with
  | .ok (q, _) => .ok q
  | .error (f, rest) => .error ⟨f, Text.byteSize chars - Text.byteSize rest⟩

end ItemPipeline.JsonPath
