/-!
A text with its quotes, backslashes and characters outside printable ASCII written as escapes.
-/

namespace ItemPipeline.Text

def hexText (n : Nat) : List Char :=
  Nat.toDigits 16 n

def codeEscape (c : Char) : List Char :=
  "\\u\x7b".toList ++ hexText c.toNat ++ ['}']

def escapeAsciiChar (c : Char) : List Char :=
  if c = '\t' then ['\\', 't']
  else if c = '\r' then ['\\', 'r']
  else if c = '\n' then ['\\', 'n']
  else if c = '\'' ∨ c = '"' ∨ c = '\\' then ['\\', c]
  else if 0x20 ≤ c.toNat ∧ c.toNat ≤ 0x7E then [c]
  else codeEscape c

def escapeAscii (s : List Char) : List Char :=
  s.flatMap escapeAsciiChar

end ItemPipeline.Text
