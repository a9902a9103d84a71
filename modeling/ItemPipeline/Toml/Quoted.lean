import ItemPipeline.Text.Escape

/-!
Writing a string: in plain quotes if nothing in it needs an escape, else in the first form that needs
none, else with escapes.
-/

namespace ItemPipeline.Toml

structure Shape where
  control : Bool
  backslash : Bool
  newline : Bool
  quotes : Nat
  apostrophes : Nat
deriving Repr, DecidableEq

def longestRun (c : Char) (s : List Char) : Nat :=
  (s.foldl (fun (best, now) d =>
    let now := if d = c then now + 1 else 0
    (max best now, now)) (0, 0)).1

def isControl (c : Char) : Bool :=
  c ≠ '\t' && c ≠ '\n' && (c.toNat ≤ 0x1F || c.toNat = 0x7F)

def Shape.of (s : List Char) : Shape where
  control := s.any isControl
  backslash := s.contains '\\'
  newline := s.contains '\n'
  quotes := longestRun '"' s
  apostrophes := longestRun '\'' s

def escapeHex (c : Char) : List Char :=
  let h := (Text.hexText c.toNat).map Char.toUpper
  "\\u".toList ++ List.replicate (4 - h.length) '0' ++ h

def escapeChar (c : Char) : List Char :=
  match c with
  | '\x08' => ['\\', 'b']
  | '\t' => ['\\', 't']
  | '\n' => ['\\', 'n']
  | '\x0c' => ['\\', 'f']
  | '\r' => ['\\', 'r']
  | '\\' => ['\\', '\\']
  | c => if c.toNat ≤ 0x1F ∨ c.toNat = 0x7F then escapeHex c else [c]

def escapeBasic (several : Bool) (allowed : Nat) : Nat → List Char → List Char
  | _, [] => []
  | run, c :: r =>
    if c = '"' then
      if run < allowed then c :: escapeBasic several allowed (run + 1) r
      else '\\' :: c :: escapeBasic several allowed 0 r
    else if several ∧ c = '\n' then c :: escapeBasic several allowed 0 r
    else escapeChar c ++ escapeBasic several allowed 0 r

def surround (mark : String) (several : Bool) (s : List Char) : String :=
  String.join [mark, if several then "\n" else "", String.ofList s, mark]

def quoted (text : String) : String :=
  let s := text.toList
  let h := Shape.of s
  let basic := surround "\"" false (escapeBasic false 0 0 s)
  let lines := surround "\"\"\"" h.newline (escapeBasic true 2 0 s)
  if !h.control && !h.backslash && h.quotes = 0 && !h.newline then basic
  else if !h.control && h.apostrophes = 0 && !h.newline then surround "'" false s
  else if !h.control && !h.backslash && h.quotes ≤ 2 then lines
  else if !h.control && h.apostrophes ≤ 2 then surround "'''" h.newline s
  else if h.newline then lines
  else basic

end ItemPipeline.Toml
