import ItemPipeline.Text.Blank
import ItemPipeline.Unicode.Case
import ItemPipeline.Unicode.Category

/-!
Classes of characters: digits, blanks, word characters, and the closure of a set under case.
-/

namespace ItemPipeline.Unicode

def digitSet : CharSet :=
  Category.decimalDigitSet

def blankSet : CharSet :=
  CharSet.parse "9-D 20 85 A0 1680 2000-200A 2028-2029 202F 205F 3000"

def wordSet : CharSet :=
  CharSet.ofRanges (Property.alphabeticSet ++ digitSet ++
    [Category.nonspacingMarks, Category.spacingMarks, Category.enclosingMarks, Category.connectors,
      "200C-200D"].flatMap CharSet.parse)

def asciiDigitSet : CharSet :=
  CharSet.parse "30-39"

def asciiBlankSet : CharSet :=
  CharSet.parse "9-D 20"

def asciiWordSet : CharSet :=
  CharSet.parse "30-39 41-5A 5F 61-7A"

def isAlphabetic (c : Char) : Bool :=
  if c.toNat < 128 then c.isAlpha else Property.alphabeticSet.contains c.toNat

def numberSet : CharSet :=
  CharSet.ofRanges ([Category.decimalDigits, Category.letterNumbers, Category.otherNumbers].flatMap CharSet.parse)

def isAlphanumeric (c : Char) : Bool :=
  isAlphabetic c || (if c.toNat < 128 then Text.isDigit c else numberSet.contains c.toNat)

def isWordChar (c : Char) : Bool :=
  wordSet.contains c.toNat

def caseClosure (s : CharSet) : CharSet :=
  let pairs : List (Nat × Nat) := Case.foldTable.flatMap fun e =>
    (List.range ((e.last - e.first) / e.stride + 1)).map fun i =>
      (e.first + i * e.stride, ((e.first + i * e.stride : Nat) + e.shift : Int).toNat)
  let hit := pairs.filter fun (c, f) => s.contains c || s.contains f
  let folds := CharSet.ofRanges (hit.map fun (_, f) => (f, f))
  let more := pairs.filter fun (_, f) => folds.contains f
  CharSet.ofRanges (s ++ folds ++ more.map fun (c, _) => (c, c))

end ItemPipeline.Unicode
