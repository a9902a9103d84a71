import ItemPipeline.Json.Basic
import ItemPipeline.Json.Error
import ItemPipeline.Text.Digits

/-!
Reading a JSON document. A fault is reported at the byte that shows it.
-/

namespace ItemPipeline.Json

structure Cursor where
  rest : List Char
  position : Text.Position

abbrev Reader (α : Type) := Cursor → Except Error (α × Cursor)

namespace Cursor

def skip (s : Cursor) : Cursor :=
  match s.rest with
  | [] => s
  | c :: r => ⟨r, s.position.after c⟩

def peekPosition (s : Cursor) : Text.Position :=
  s.position.peek s.rest

def faultHere (s : Cursor) (f : Fault) : Error :=
  ⟨f, s.position⟩

def faultNext (s : Cursor) (f : Fault) : Error :=
  ⟨f, s.peekPosition⟩

def isSpace (c : Char) : Bool :=
  c == ' ' || c == '\n' || c == '\t' || c == '\r'

def skipSpaceFrom (p : Text.Position) : List Char → Cursor
  | [] => ⟨[], p⟩
  | c :: r => if isSpace c then skipSpaceFrom (p.after c) r else ⟨c :: r, p⟩

def skipSpace (s : Cursor) : Cursor :=
  skipSpaceFrom s.position s.rest

end Cursor

def readWord (v : Json) : List Char → Reader Json
  | [], s => .ok (v, s)
  | c :: cs, s =>
    match s.rest with
    | [] => .error (s.faultHere .endInValue)
    | d :: _ => if d = c then readWord v cs s.skip else .error (s.faultNext .expectedWord)

def takeDigits (n : Nat) (count : Nat) (p : Text.Position) : List Char → (Nat × Nat × Bool) × Cursor
  | [] => ((n, count, false), ⟨[], p⟩)
  | c :: r =>
    match Text.digit? 10 c with
    | none => ((n, count, false), ⟨c :: r, p⟩)
    | some d =>
      if n * 10 + d < UInt64.size then takeDigits (n * 10 + d) (count + 1) (p.after c) r
      else ((n, count, true), ⟨c :: r, p⟩)

def skipDigits (count : Nat) (p : Text.Position) : List Char → Nat × Cursor
  | [] => (count, ⟨[], p⟩)
  | c :: r => if Text.isDigit c then skipDigits (count + 1) (p.after c) r else (count, ⟨c :: r, p⟩)

def powerOfTen (n : Nat) : Float :=
  Float.ofScientific 1 false n

def scaleFloat (x : Float) (e : Int) : Nat → Option Float
  | 0 => some x
  | fuel + 1 =>
    if e.natAbs ≤ 308 then
      if e ≥ 0 then
        let y := x * powerOfTen e.toNat
        if y.isInf then none else some y
      else some (x / powerOfTen e.natAbs)
    else if x == 0 then some x
    else if e ≥ 0 then none
    else scaleFloat (x / powerOfTen 308) (e + 308) fuel

def floatOfParts (negative : Bool) (n : Nat) (e : Int) (s : Cursor) : Except Error (Json × Cursor) :=
  match scaleFloat n.toUInt64.toFloat e (e.natAbs / 308 + 2) with
  | none => .error (s.faultHere .numberOutOfRange)
  | some x => .ok (.number (.float (if negative then -x else x)), s)

def maxExponent : Nat := Nat.pow 2 31 - 1

def takeExponent (n : Nat) (p : Text.Position) : List Char → (Nat × Bool) × Cursor
  | [] => ((n, false), ⟨[], p⟩)
  | c :: r =>
    match Text.digit? 10 c with
    | none => ((n, false), ⟨c :: r, p⟩)
    | some d =>
      if n * 10 + d ≤ maxExponent then takeExponent (n * 10 + d) (p.after c) r
      else ((n, true), ⟨c :: r, p⟩)

def clampExponent (e : Int) : Int :=
  max (-Int.pow 2 31) (min (Int.pow 2 31 - 1) e)

def readExponent (negative : Bool) (n : Nat) (e : Int) : Reader Json := fun s =>
  let (down, s) := match s.rest with
    | '+' :: _ => (false, s.skip)
    | '-' :: _ => (true, s.skip)
    | _ => (false, s)
  match s.rest with
  | [] => .error (s.faultHere .endInValue)
  | c :: _ =>
    if !Text.isDigit c then .error (s.faultNext .invalidNumber)
    else
      let ((m, excess), s) := takeExponent 0 s.position s.rest
      if excess then
        if n ≠ 0 ∧ !down then .error (s.faultHere .numberOutOfRange)
        else
          let (_, s) := skipDigits 0 s.position s.rest
          .ok (.number (.float (if negative then -0.0 else 0.0)), s)
      else floatOfParts negative n (clampExponent (if down then e - m else e + m)) s

def isExponentMark : List Char → Bool
  | c :: _ => c == 'e' || c == 'E'
  | [] => false

def readFraction (negative : Bool) (n : Nat) (e : Int) : Reader Json := fun s =>
  let ((m, count, excess), s) := takeDigits n 0 s.position s.rest
  if excess then
    let (_, s) := skipDigits 0 s.position s.rest
    if isExponentMark s.rest then readExponent negative m (e - count) s.skip
    else floatOfParts negative m (e - count) s
  else if count = 0 then
    .error (if s.rest = [] then s.faultNext .endInValue else s.faultNext .invalidNumber)
  else if isExponentMark s.rest then readExponent negative m (e - count) s.skip
  else floatOfParts negative m (e - count) s

def wholeNumber (negative : Bool) (n : Nat) : Json :=
  if !negative then .number (.natural n.toUInt64)
  else if n = 0 ∨ n > Nat.pow 2 63 then .number (.float (-n.toUInt64.toFloat))
  else .number (.negative (-n))

def readNumberTail (negative : Bool) (n : Nat) (e : Int) (long : Bool) : Reader Json := fun s =>
  match s.rest with
  | '.' :: _ => readFraction negative n e s.skip
  | r =>
    if isExponentMark r then readExponent negative n e s.skip
    else if long then floatOfParts negative n e s
    else .ok (wholeNumber negative n, s)

def readNumber (negative : Bool) : Reader Json := fun s =>
  match s.rest with
  | [] => .error (s.faultHere .endInValue)
  | c :: _ =>
    if c = '0' then
      let s := s.skip
      match s.rest with
      | d :: _ => if Text.isDigit d then .error (s.faultNext .invalidNumber) else readNumberTail negative 0 0 false s
      | [] => readNumberTail negative 0 0 false s
    else if Text.isDigit c then
      let ((n, _, excess), s) := takeDigits 0 0 s.position s.rest
      if excess then
        let (dropped, s) := skipDigits 0 s.position s.rest
        readNumberTail negative n dropped true s
      else readNumberTail negative n 0 false s
    else .error (s.faultNext .invalidNumber)

def readHex : Reader Nat := fun s =>
  if Text.byteSize (s.rest.take 4) < 4 then
    .error ⟨.endInString, s.position.skipBytes 4 s.rest⟩
  else
    match s.rest.take 4 |>.mapM (Text.digit? 16) with
    | some [a, b, c, d] => .ok (((a * 16 + b) * 16 + c) * 16 + d, s.skip.skip.skip.skip)
    | _ => .error ⟨.invalidEscape, s.position.skipBytes 4 s.rest⟩

def expectPair (c : Char) (s : Cursor) : Except Error Cursor :=
  match s.rest with
  | [] => .error (s.faultHere .endInString)
  | d :: _ => if d = c then .ok s.skip else .error (s.faultNext .endOfHexEscape)

def readUnicodeEscape : Reader Char := fun s => do
  let (n, s) ← readHex s
  if 0xDC00 ≤ n ∧ n ≤ 0xDFFF then .error (s.faultHere .loneSurrogate)
  else if n < 0xD800 ∨ n > 0xDBFF then .ok (Char.ofNat n, s)
  else do
    let s ← expectPair '\\' s
    let s ← expectPair 'u' s
    let (m, s) ← readHex s
    if m < 0xDC00 ∨ m > 0xDFFF then .error (s.faultHere .loneSurrogate)
    else .ok (Char.ofNat ((n - 0xD800) * 1024 + (m - 0xDC00) + 0x10000), s)

def readEscape : Reader Char := fun s =>
  match s.rest with
  | [] => .error (s.faultHere .endInString)
  | '"' :: _ => .ok ('"', s.skip)
  | '\\' :: _ => .ok ('\\', s.skip)
  | '/' :: _ => .ok ('/', s.skip)
  | 'b' :: _ => .ok ('\x08', s.skip)
  | 'f' :: _ => .ok ('\x0c', s.skip)
  | 'n' :: _ => .ok ('\n', s.skip)
  | 'r' :: _ => .ok ('\r', s.skip)
  | 't' :: _ => .ok ('\t', s.skip)
  | 'u' :: _ => readUnicodeEscape s.skip
  | _ => .error (s.faultNext .invalidEscape)

def readString (acc : List Char) (s : Cursor) : Nat → Except Error (String × Cursor)
  | 0 => .error (s.faultHere .endInString)
  | fuel + 1 =>
    match s.rest with
    | [] => .error (s.faultHere .endInString)
    | '"' :: _ => .ok (String.ofList acc.reverse, s.skip)
    | '\\' :: _ => do
      let (c, s) ← readEscape s.skip
      readString (c :: acc) s fuel
    | c :: _ =>
      if c.toNat < 0x20 then .error (s.faultNext .controlCharacter)
      else readString (c :: acc) s.skip fuel

def nextMember (first : Bool) (s : Cursor) : Except Error (Option Cursor) :=
  let s := s.skipSpace
  match s.rest with
  | [] => .error (s.faultNext .endInObject)
  | '}' :: _ => .ok none
  | c :: _ =>
    if c = ',' ∧ !first then
      let s := s.skip.skipSpace
      match s.rest with
      | '"' :: _ => .ok (some s)
      | '}' :: _ => .error (s.faultNext .trailingComma)
      | [] => .error (s.faultNext .endInValue)
      | _ => .error (s.faultNext .keyNotString)
    else if first then
      if c = '"' then .ok (some s) else .error (s.faultNext .keyNotString)
    else .error (s.faultNext .expectedObjectCommaOrEnd)

def nextItem (first : Bool) (s : Cursor) : Except Error (Option Cursor) :=
  let s := s.skipSpace
  match s.rest with
  | [] => .error (s.faultNext .endInList)
  | ']' :: _ => .ok none
  | c :: _ =>
    if c = ',' ∧ !first then
      let s := s.skip.skipSpace
      match s.rest with
      | ']' :: _ => .error (s.faultNext .trailingComma)
      | [] => .error (s.faultNext .endInValue)
      | _ => .ok (some s)
    else if first then .ok (some s)
    else .error (s.faultNext .expectedListCommaOrEnd)

def readColon (s : Cursor) : Except Error Cursor :=
  let s := s.skipSpace
  match s.rest with
  | ':' :: _ => .ok s.skip
  | [] => .error (s.faultNext .endInObject)
  | _ => .error (s.faultNext .expectedColon)

def maxDepth : Nat := 127

-- Each call takes one unit of fuel and, but for two calls at each level of nesting, reads a character.
mutual

def readValue (depth : Nat) (s : Cursor) : Nat → Except Error (Json × Cursor)
  | 0 => .error (s.faultNext .tooDeep)
  | fuel + 1 =>
    let s := s.skipSpace
    match s.rest with
    | [] => .error (s.faultNext .endInValue)
    | 'n' :: _ => readWord .null "ull".toList s.skip
    | 't' :: _ => readWord (.bool true) "rue".toList s.skip
    | 'f' :: _ => readWord (.bool false) "alse".toList s.skip
    | '-' :: _ => readNumber true s.skip
    | '"' :: _ => do
      let (t, s) ← readString [] s.skip fuel
      .ok (.str t, s)
    | '[' :: _ => if depth = 0 then .error (s.faultNext .tooDeep) else readItems (depth - 1) true [] s.skip fuel
    | '{' :: _ => if depth = 0 then .error (s.faultNext .tooDeep) else readMembers (depth - 1) true [] s.skip fuel
    | c :: _ => if Text.isDigit c then readNumber false s else .error (s.faultNext .expectedValue)

def readItems (depth : Nat) (first : Bool) (acc : List Json) (s : Cursor) :
    Nat → Except Error (Json × Cursor)
  | 0 => .error (s.faultNext .tooDeep)
  | fuel + 1 => do
    match ← nextItem first s with
    | none => .ok (.array acc.reverse, s.skipSpace.skip)
    | some s =>
      let (v, s) ← readValue depth s fuel
      readItems depth false (v :: acc) s fuel

def readMembers (depth : Nat) (first : Bool) (acc : List (String × Json)) (s : Cursor) :
    Nat → Except Error (Json × Cursor)
  | 0 => .error (s.faultNext .tooDeep)
  | fuel + 1 => do
    match ← nextMember first s with
    | none => .ok (.object (Members.ofList acc.reverse), s.skipSpace.skip)
    | some s =>
      let (name, s) ← readString [] s.skip fuel
      let s ← readColon s
      let (v, s) ← readValue depth s fuel
      readMembers depth false ((name, v) :: acc) s fuel

end

def parse (text : String) : Except Error Json := do
  let chars := text.toList
  let (v, s) ← readValue maxDepth ⟨chars, {}⟩ (chars.length + 2 * maxDepth + 16)
  let s := s.skipSpace
  if s.rest = [] then .ok v else .error (s.faultNext .trailingCharacters)

end ItemPipeline.Json
