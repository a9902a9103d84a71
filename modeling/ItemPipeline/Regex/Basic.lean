import ItemPipeline.Regex.Parser
import ItemPipeline.Unicode.Named

/-!
Regular expressions with flags resolved: every class is a set of characters, every anchor a test of
the characters around a place.
-/

namespace ItemPipeline

open Unicode (CharSet)

inductive Regex.Look
  | textStart
  | textEnd
  | lineStart
  | lineEnd
  | crlfLineStart
  | crlfLineEnd
  | word (unicode : Bool) (k : Regex.Anchor)
deriving Repr, DecidableEq

inductive Regex
  | empty
  | look (l : Regex.Look)
  | chars (s : CharSet)
  | capture (index : Nat) (r : Regex)
  | seq (r s : Regex)
  | alt (r s : Regex)
  | repetition (min : Nat) (max : Option Nat) (greedy : Bool) (r : Regex)
deriving Repr

namespace Regex

structure Flags where
  ignoreCase : Bool := false
  multiLine : Bool := false
  dotNewline : Bool := false
  swapGreed : Bool := false
  unicode : Bool := true
  crlf : Bool := false
deriving Repr, DecidableEq

def Flags.apply (f : Flags) (items : List FlagItem) : Flags where
  ignoreCase := (flagState .ignoreCase true items).getD f.ignoreCase
  multiLine := (flagState .multiLine true items).getD f.multiLine
  dotNewline := (flagState .dotNewline true items).getD f.dotNewline
  swapGreed := (flagState .swapGreed true items).getD f.swapGreed
  unicode := (flagState .unicode true items).getD f.unicode
  crlf := (flagState .crlf true items).getD f.crlf

def anySet : CharSet :=
  [(0, CharSet.maxCode)]

def asciiSet : AsciiClass → CharSet
  | .alnum => CharSet.parse "30-39 41-5A 61-7A"
  | .alpha => CharSet.parse "41-5A 61-7A"
  | .ascii => CharSet.parse "0-7F"
  | .blank => CharSet.parse "9 20"
  | .cntrl => CharSet.parse "0-1F 7F"
  | .digit => CharSet.parse "30-39"
  | .graph => CharSet.parse "21-7E"
  | .lower => CharSet.parse "61-7A"
  | .print => CharSet.parse "20-7E"
  | .punct => CharSet.parse "21-2F 3A-40 5B-60 7B-7E"
  | .space => CharSet.parse "9-D 20"
  | .upper => CharSet.parse "41-5A"
  | .word => CharSet.parse "30-39 41-5A 5F 61-7A"
  | .xdigit => CharSet.parse "30-39 41-46 61-66"

def namedClass (f : Flags) (k : Named) : CharSet :=
  match k, f.unicode with
  | .digit, true => Unicode.digitSet
  | .blank, true => Unicode.blankSet
  | .word, true => Unicode.wordSet
  | .digit, false => Unicode.asciiDigitSet
  | .blank, false => Unicode.asciiBlankSet
  | .word, false => Unicode.asciiWordSet

def foldSet (f : Flags) (s : CharSet) : CharSet :=
  if f.ignoreCase then
    if f.unicode then Unicode.caseClosure s
    else CharSet.ofRanges (s ++ (CharSet.inter s (CharSet.parse "41-5A")).map (fun (a, b) => (a + 32, b + 32)) ++
      (CharSet.inter s (CharSet.parse "61-7A")).map (fun (a, b) => (a - 32, b - 32)))
  else s

def negateIf (negated : Bool) (s : CharSet) : CharSet :=
  if negated then s.complement else s

def nameFault : Unicode.NameError → Fault
  | .property => .propertyNotFound
  | .value => .propertyValueNotFound

def lookUp (p : PropertyName) : Except Unicode.NameError CharSet :=
  match p with
  | .single n => Unicode.namedSet n
  | .pair n v equal => do .ok (negateIf (!equal) (← Unicode.valueSet n v))

def propertySet (f : Flags) (p : PropertyName) (s : Span) : Except SyntaxError CharSet :=
  if f.unicode then
    match lookUp p with
    | .ok c => .ok c
    | .error e => .error ⟨nameFault e, s, none⟩
  else .error ⟨.unicodeNotAllowed, s, none⟩

def checkNegated (f : Flags) (negated : Bool) (s : Span) (c : CharSet) : Except SyntaxError CharSet :=
  if !f.unicode ∧ negated then .error ⟨.invalidUtf8, s, none⟩ else .ok c

def literalChar (f : Flags) (l : Literal) : Except SyntaxError Char :=
  if !f.unicode ∧ l.isByte ∧ 128 ≤ l.char.toNat then .error ⟨.invalidUtf8, l.span, none⟩ else .ok l.char

def classCode (f : Flags) (l : Literal) : Except SyntaxError Nat := do
  let c ← literalChar f l
  if !f.unicode ∧ 128 ≤ c.toNat then .error ⟨.unicodeNotAllowed, l.span, none⟩ else .ok c.toNat

def classSet (f : Flags) : ClassExpr → Except SyntaxError CharSet
  | .empty => .ok []
  | .literal l => do
    let n ← classCode f l
    .ok [(n, n)]
  | .range a b => do .ok [(← classCode f a, ← classCode f b)]
  | .ascii k n s => checkNegated f n s (negateIf n (foldSet f (asciiSet k)))
  | .named k n s => checkNegated f n s (negateIf n (namedClass f k))
  | .property p n s => do
    let c ← propertySet f p s
    .ok (negateIf n (foldSet f c))
  | .bracket n e s => do
    let c ← classSet f e
    checkNegated f n s (negateIf n (foldSet f (CharSet.ofRanges c)))
  | .union a b => do .ok ((← classSet f a) ++ (← classSet f b))
  | .op k a b => do
    let x := foldSet f (CharSet.ofRanges (← classSet f a))
    let y := foldSet f (CharSet.ofRanges (← classSet f b))
    .ok (match k with
      | .inter => x.inter y
      | .diff => x.diff y
      | .symmDiff => x.symmDiff y)

def literalSet (f : Flags) (c : Char) : CharSet :=
  if f.ignoreCase then
    if f.unicode then CharSet.ofRanges ((c.toNat :: Unicode.Case.orbit c.toNat).map fun n => (n, n))
    else foldSet f [(c.toNat, c.toNat)]
  else [(c.toNat, c.toNat)]

def dotSet (f : Flags) : CharSet :=
  if f.dotNewline then anySet
  else if f.crlf then CharSet.complement [(10, 10), (13, 13)]
  else CharSet.complement [(10, 10)]

def anchorLook (f : Flags) : Anchor → Look
  | .lineStart => if f.multiLine then (if f.crlf then .crlfLineStart else .lineStart) else .textStart
  | .lineEnd => if f.multiLine then (if f.crlf then .crlfLineEnd else .lineEnd) else .textEnd
  | .textStart => .textStart
  | .textEnd => .textEnd
  | a => .word f.unicode a

/-- Flags set inside a group hold up to its end, through all later branches. -/
def resolve (f : Flags) : Pattern → Except SyntaxError (Regex × Flags)
  | .empty => .ok (.empty, f)
  | .flags l => .ok (.empty, f.apply l)
  | .dot s => if f.unicode then .ok (.chars (dotSet f), f) else .error ⟨.invalidUtf8, s, none⟩
  | .literal l => do .ok (.chars (literalSet f (← literalChar f l)), f)
  | .anchor a => .ok (.look (anchorLook f a), f)
  | .named k n s => do .ok (.chars (← checkNegated f n s (negateIf n (namedClass f k))), f)
  | .property p n s => do
    let c ← propertySet f p s
    .ok (.chars (negateIf n (foldSet f c)), f)
  | .cls e _ => do .ok (.chars (CharSet.ofRanges (← classSet f e)), f)
  | .repetition a b g p => do
    let (r, f) ← resolve f p
    .ok (.repetition a b (g != f.swapGreed) r, f)
  | .capture i p => do
    let (r, _) ← resolve f p
    .ok (.capture i r, f)
  | .scoped l p => do
    let (r, _) ← resolve (f.apply l) p
    .ok (r, f)
  | .seq p q => do
    let (r, f) ← resolve f p
    let (s, f) ← resolve f q
    .ok (.seq r s, f)
  | .alt p q => do
    let (r, f) ← resolve f p
    let (s, f) ← resolve f q
    .ok (.alt r s, f)

def nullable : Regex → Bool
  | empty => true
  | look _ => true
  | chars _ => false
  | capture _ r => r.nullable
  | seq r s => r.nullable && s.nullable
  | alt r s => r.nullable || s.nullable
  | repetition a _ _ r => a == 0 || r.nullable

end Regex

end ItemPipeline
