/-!
Places in a text by line and by column in bytes of UTF-8.
-/

namespace ItemPipeline.Text

structure Position where
  line : Nat := 1
  column : Nat := 0
deriving Repr, DecidableEq

namespace Position

def touch (p : Position) (c : Char) : Position :=
  if c = '\n' then ⟨p.line + 1, 0⟩ else ⟨p.line, p.column + 1⟩

def after (p : Position) (c : Char) : Position :=
  if c = '\n' then ⟨p.line + 1, 0⟩ else ⟨p.line, p.column + c.utf8Size⟩

def peek (p : Position) : List Char → Position
  | [] => p
  | c :: _ => p.touch c

def skipBytes (p : Position) : Nat → List Char → Position
  | _, [] => p
  | n, c :: r =>
    if n = 0 then p
    else if c.utf8Size ≤ n then (p.after c).skipBytes (n - c.utf8Size) r
    else ⟨p.line, p.column + n⟩

end Position

def byteSize (s : List Char) : Nat :=
  s.foldl (fun n c => n + c.utf8Size) 0

end ItemPipeline.Text
