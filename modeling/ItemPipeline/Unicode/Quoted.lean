import ItemPipeline.Text.Escape
import ItemPipeline.Unicode.Category
import ItemPipeline.Unicode.Property

/-!
A text in quotes that shows every character: what cannot be seen is written as an escape.
-/

namespace ItemPipeline.Unicode

def visibleSet : CharSet :=
  CharSet.ofRanges (["L", "M", "N", "P", "S"].flatMap fun n => (Category.ofShortName? n).getD [])

def isVisible (c : Char) : Bool :=
  if c.toNat < 128 then 0x20 ≤ c.toNat && c.toNat < 0x7F
  else visibleSet.contains c.toNat && !Property.graphemeExtendSet.contains c.toNat

def quoteChar (quote c : Char) : List Char :=
  if c = '\t' then ['\\', 't']
  else if c = '\r' then ['\\', 'r']
  else if c = '\n' then ['\\', 'n']
  else if c = Char.ofNat 0 then ['\\', '0']
  else if c = quote ∨ c = '\\' then ['\\', c]
  else if isVisible c then [c]
  else Text.codeEscape c

def quoted (quote : Char) (s : List Char) : String :=
  String.ofList (quote :: s.flatMap (quoteChar quote) ++ [quote])

end ItemPipeline.Unicode
