import ItemPipeline.Step.RuleSet

/-!
Items, and the editions of their rule sets. A change of an item's rules is a new edition; work that
is under way keeps the edition it began with, and each edition remembers values of its own.
-/

namespace ItemPipeline

structure Edition where
  number : Nat
  rules : RuleSet

structure Item where
  id : UInt64
  host : UInt64
  revision : Nat := 0
  edition : Edition

namespace Item

def revise (i : Item) (e : Edition) : Item :=
  { i with revision := i.revision + 1, edition := e }

def rules (i : Item) : RuleSet :=
  i.edition.rules

end Item

end ItemPipeline
