import ItemPipeline.Decimal.Read
import ItemPipeline.Script.Token
import ItemPipeline.Text.Digits
import ItemPipeline.Unicode.Class

/-!
From characters to tokens. An expression inside a text is lexed in its place, between two pieces of
the text.
-/

namespace ItemPipeline.Script

def keywords : List String :=
  ["true", "false", "let", "const", "if", "else", "switch", "while", "loop", "for", "in", "do", "until",
    "fn", "private", "import", "export", "as", "return", "throw", "try", "catch", "break", "continue",
    "this"]

def reservedWords : List String :=
  ["var", "static", "is", "goto", "exit", "match", "case", "public", "protected", "new", "use", "with",
    "module", "package", "super", "thread", "spawn", "go", "await", "async", "sync", "yield", "default",
    "void", "null", "nil", "shared", "each", "then"]

def signs : List String :=
  ["**=", "<<=", ">>=", "..=", "...", "\x3f\x3f=", "===", "!==", "**", "<<", ">>", "..", "\x3f\x3f", "\x3f.",
    "\x3f[", "+=", "-=", "*=", "/=", "%=", "&=", "|=", "^=", "&&", "||", "==", "!=", "<=", ">=", "=>", "::",
    "#\x7b", "->", "<-", "+", "-", "*", "/", "%", "&", "|", "^", "!", "<", ">", "=", "\x3f", ".", ",", ";", ":",
    "(", ")", "[", "]", "\x7b", "\x7d", "$", "@", "#", "~"]

def isBlankChar (c : Char) : Bool :=
  Text.isBlank c

def isNameFirst (c : Char) : Bool :=
  c == '_' || c.isAlpha

def isNameChar (c : Char) : Bool :=
  c == '_' || c.isAlphanum

def skipComment (depth : Nat) (p : Place) : List Char → List Char × Place
  | [] => ([], p)
  | '/' :: '*' :: r => skipComment (depth + 1) ((p.after '/').after '*') r
  | '*' :: '/' :: r =>
    let q := (p.after '*').after '/'
    if depth ≤ 1 then (r, q) else skipComment (depth - 1) q r
  | c :: r => skipComment depth (p.after c) r

def skipLine (p : Place) : List Char → List Char × Place
  | [] => ([], p)
  | '\n' :: r => ('\n' :: r, p)
  | c :: r => skipLine (p.after c) r

def skipBlanks (p : Place) (s : List Char) : Nat → List Char × Place
  | 0 => (s, p)
  | fuel + 1 =>
    match s with
    | '/' :: '*' :: r =>
      let (r, q) := skipComment 1 ((p.after '/').after '*') r
      skipBlanks q r fuel
    | '/' :: '/' :: r =>
      let (r, q) := skipLine p r
      skipBlanks q r fuel
    | c :: r => if isBlankChar c then skipBlanks (p.after c) r fuel else (s, p)
    | [] => (s, p)

def unspaced (s : List Char) : List Char :=
  s.filter (· != '_')

def base? : Char → Option Nat
  | 'x' => some 16
  | 'X' => some 16
  | 'o' => some 8
  | 'O' => some 8
  | 'b' => some 2
  | 'B' => some 2
  | _ => none

def isDigitOf (base : Nat) (c : Char) : Bool :=
  c == '_' || (Text.digit? base c).isSome

def signedWord (n : Nat) : Int :=
  if n < Nat.pow 2 63 then n else (n : Int) - Int.pow 2 64

def basedNumber (base : Nat) (written digits : List Char) : Token :=
  match Text.digits? base (unspaced digits) with
  | some n => if n < UInt64.size then .int (signedWord n) else .bad (.badNumber (String.ofList written))
  | none => .bad (.badNumber (String.ofList written))

def spanExponent (s : List Char) : List Char × List Char :=
  match s with
  | e :: r =>
    if e = 'e' ∨ e = 'E' then
      let (sign, r') := match r with
        | '+' :: r' => (['+'], r')
        | '-' :: r' => (['-'], r')
        | r' => ([], r')
      let (d, rest) := r'.span (isDigitOf 10)
      if d = [] then ([], s) else (e :: sign ++ d, rest)
    else ([], s)
  | [] => ([], s)

def spanFraction (s : List Char) : List Char × List Char :=
  match s with
  | '.' :: c :: r =>
    if Text.isDigit c then
      let (d, rest) := (c :: r).span (isDigitOf 10)
      ('.' :: d, rest)
    else if c = '.' ∨ c = '_' ∨ isNameFirst c then ([], s)
    else (['.'], c :: r)
  | ['.'] => (['.'], [])
  | s => ([], s)

def decimalNumber (whole fraction exponent : List Char) : Token :=
  let written := unspaced (whole ++ fraction ++ exponent)
  let asFloat : Token := match readFloat? written with
    | some x => .float x
    | none => .bad (.badNumber (String.ofList written))
  if fraction = [] ∧ exponent = [] then
    match Text.digits? 10 written with
    | some n => if n < Nat.pow 2 63 then .int n else asFloat
    | none => asFloat
  else asFloat

def readNumber (s : List Char) : Token × List Char × List Char :=
  let plain : Token × List Char × List Char :=
    let (whole, r) := s.span (isDigitOf 10)
    let (fraction, r) := spanFraction r
    let (exponent, r) := spanExponent r
    (decimalNumber whole fraction exponent, whole ++ fraction ++ exponent, r)
  match s with
  | '0' :: b :: r =>
    match base? b with
    | some base =>
      let (d, rest) := r.span (isDigitOf base)
      (basedNumber base ('0' :: b :: d) d, '0' :: b :: d, rest)
    | none => plain
  | _ => plain

def hexEscapeLength? : Char → Option Nat
  | 'x' => some 2
  | 'u' => some 4
  | 'U' => some 8
  | _ => none

def simpleEscape? : Char → Option Char
  | 't' => some '\t'
  | 'n' => some '\n'
  | 'r' => some '\r'
  | '\\' => some '\\'
  | '\'' => some '\''
  | '"' => some '"'
  | _ => none

def charOf? (n : Nat) : Option Char :=
  if n.isValidChar then some (Char.ofNat n) else none

def readText (quote : Char) (acc : List Char) (p : Place) (s : List Char) :
    Nat → Except (LexFault × Place) (List Char × List Char × Place)
  | 0 => .error (.openText, p)
  | fuel + 1 =>
    match s with
    | [] => .error (.openText, p)
    | '\n' :: _ => .error (.openText, p)
    | '\\' :: '\n' :: r =>
      let (blanks, r) := r.span fun c => c == ' ' || c == '\t'
      readText quote acc (((p.after '\\').after '\n').afterAll blanks) r fuel
    | '\\' :: c :: r =>
      let q := (p.after '\\').after c
      match simpleEscape? c, hexEscapeLength? c with
      | some x, _ => readText quote (x :: acc) q r fuel
      | none, some n =>
        let digits := r.take n
        match (if digits.length = n then Text.digits? 16 digits else none).bind charOf? with
        | some x => readText quote (x :: acc) (q.afterAll digits) (r.drop n) fuel
        | none => .error (.badEscape (String.ofList ('\\' :: c :: digits)), p)
      | none, none => .error (.badEscape (String.ofList ['\\', c]), p)
    | c :: r =>
      if c = quote then
        match r with
        | d :: r' =>
          if d = quote ∧ quote = '"' then readText quote (c :: acc) ((p.after c).after d) r' fuel
          else .ok (acc.reverse, r, p.after c)
        | [] => .ok (acc.reverse, r, p.after c)
      else readText quote (c :: acc) (p.after c) r fuel

def readPiece (acc : List Char) (p : Place) : List Char → Except (LexFault × Place) (List Char × Bool × List Char × Place)
  | [] => .error (.openText, p)
  | '\x60' :: '\x60' :: r => readPiece ('\x60' :: acc) ((p.after '.').after '.') r
  | '\x60' :: r => .ok (acc.reverse, true, r, p.after '.')
  | '$' :: '\x7b' :: r => .ok (acc.reverse, false, r, (p.after '.').after '.')
  | c :: r => readPiece (c :: acc) (p.after c) r

def dropNewline (p : Place) : List Char → List Char × Place
  | '\n' :: r => (r, p.after '\n')
  | '\r' :: '\n' :: r => (r, (p.after '\r').after '\n')
  | s => (s, p)

def sign? (s : List Char) : Option (String × List Char) :=
  signs.findSome? fun t =>
    if t.toList.isPrefixOf s then some (t, s.drop t.length) else none

/-- Tokens from `s` on. The stack counts, for each text being lexed, the braces open in its
expression. -/
def lexFrom (p : Place) (s : List Char) (stack : List Nat) : Nat → List Placed
  | 0 => [⟨.eof, p⟩]
  | fuel + 1 =>
    let (s, p) := skipBlanks p s (s.length + 1)
    let pieceFrom (q : Place) (r : List Char) (stack : List Nat) : List Placed :=
      match readPiece [] q r with
      | .error (f, place) => [⟨.bad f, place⟩, ⟨.eof, place⟩]
      | .ok (t, true, rest, after) => ⟨.piece (String.ofList t) true, p⟩ :: lexFrom after rest stack fuel
      | .ok (t, false, rest, after) => ⟨.piece (String.ofList t) false, p⟩ :: lexFrom after rest (0 :: stack) fuel
    match s with
    | [] => [⟨.eof, p⟩]
    | '"' :: r =>
      match readText '"' [] (p.after '"') r (r.length + 1) with
      | .ok (t, rest, q) => ⟨.text (String.ofList t), p⟩ :: lexFrom q rest stack fuel
      | .error (f, q) => [⟨.bad f, q⟩, ⟨.eof, q⟩]
    | '\'' :: r =>
      match readText '\'' [] (p.after '\'') r (r.length + 1) with
      | .ok ([c], rest, q) => ⟨.char c, p⟩ :: lexFrom q rest stack fuel
      | .ok (t, _, q) => [⟨.bad (.badChar (String.ofList t)), p⟩, ⟨.eof, q⟩]
      | .error (f, q) => [⟨.bad f, q⟩, ⟨.eof, q⟩]
    | '\x60' :: r =>
      let (r, q) := dropNewline (p.after '.') r
      pieceFrom q r stack
    | c :: r =>
      if Text.isDigit c then
        let (t, written, rest) := readNumber s
        ⟨t, p⟩ :: lexFrom (p.afterAll written) rest stack fuel
      else if isNameFirst c then
        let (w, rest) := s.span isNameChar
        let word := String.ofList w
        let t : Token := if keywords.contains word then .keyword word else .name word
        ⟨t, p⟩ :: lexFrom (p.afterAll w) rest stack fuel
      else
        match sign? s with
        | none => [⟨.bad (.unexpected c), p⟩, ⟨.eof, p.after c⟩]
        | some (t, rest) =>
          let q := p.afterAll t.toList
          match t, stack with
          | "\x7b", n :: up => ⟨.sign t, p⟩ :: lexFrom q rest ((n + 1) :: up) fuel
          | "#\x7b", n :: up => ⟨.sign t, p⟩ :: lexFrom q rest ((n + 1) :: up) fuel
          | "\x7d", 0 :: up => pieceFrom (p.after c) r up
          | "\x7d", (n + 1) :: up => ⟨.sign t, p⟩ :: lexFrom q rest (n :: up) fuel
          | _, _ => ⟨.sign t, p⟩ :: lexFrom q rest stack fuel

def lex (s : List Char) : List Placed :=
  lexFrom {} s [] (s.length + 1)

end ItemPipeline.Script
