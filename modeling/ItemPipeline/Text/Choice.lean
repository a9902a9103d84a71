/-!
Names to choose from, and what is said when a name is none of them.
-/

namespace ItemPipeline.Text

def ticked (s : String) : String :=
  String.intercalate s ["\x60", "\x60"]

def choiceText : List String → String
  | [] => "there are no variants"
  | [a] => ticked a
  | [a, b] => ticked a ++ " or " ++ ticked b
  | l => "one of " ++ String.intercalate ", " (l.map ticked)

def unknownVariant (name : String) (choices : List String) : String :=
  match choices with
  | [] => String.join ["unknown variant ", ticked name, ", there are no variants"]
  | _ => String.join ["unknown variant ", ticked name, ", expected ", choiceText choices]

end ItemPipeline.Text
