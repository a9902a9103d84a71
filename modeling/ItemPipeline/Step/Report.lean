import ItemPipeline.Step.Basic

/-!
The message of a chain that ends in a failure: the input's beginning and a line per executed step.
-/

namespace ItemPipeline

def previewLength : Nat := 100

def previewText (s : String) : String :=
  if s.length > previewLength then String.ofList (s.toList.take previewLength) ++ "..." else s

def Value.preview (v : Value) : String :=
  match v with
  | text s => previewText s
  | error s => previewText s
  | v => v.display

def StepResult.outcome (r : StepResult) : String :=
  match r.error with
  | some e => "Failed: " ++ e ++ match r.action with
    | .discardValue => " (discard value)"
    | .setValue => s!" (set value to \"{r.value.display}\")"
    | .setError => s!" (set error to \"{r.value.display}\")"
    | _ => ""
  | none => if r.value.isNone then "Result: <empty>" else "Result: " ++ r.value.preview

def outcomeLines (first : Nat) : List StepResult → String
  | [] => ""
  | r :: rs => s!"\n{first}. {r.outcome}" ++ outcomeLines (first + 1) rs

def failureReport (inputPreview : String) (results : List StepResult) : String :=
  "Preprocessing failed for: " ++ inputPreview ++ outcomeLines 1 results

end ItemPipeline
