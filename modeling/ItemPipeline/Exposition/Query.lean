import ItemPipeline.Exposition.Pattern
import ItemPipeline.Json.Basic
import ItemPipeline.Text.Cut
import ItemPipeline.Value.Basic

/-!
Extraction from a payload: the value or a label of the one sample selected, a figure over all
samples selected, or these samples as a JSON document.
-/

namespace ItemPipeline.Exposition

inductive QueryFault
  | pattern (f : Fault)
  | noMatch
  | severalMatches
  | noLabel (name : String)
  | unknownFunction (name : String)
  | unknownRequest (name : String)
deriving Repr, DecidableEq

def QueryFault.message : QueryFault → String
  | pattern f => f.message
  | noMatch => "no data matches the specified pattern"
  | severalMatches => "data extraction error: multiple metrics match the pattern"
  | noLabel n => s!"label \"{n}\" is not present in the matching metric"
  | unknownFunction n => s!"unsupported function \"{n}\""
  | unknownRequest n => s!"unknown request \"{n}\""

def single : List Sample → Except QueryFault Sample
  | [] => .error .noMatch
  | [s] => .ok s
  | _ => .error .severalMatches

def lesser (a b : Float) : Float :=
  if a.isNaN then b else if b < a then b else a

def greater (a b : Float) : Float :=
  if a.isNaN then b else if b > a then b else a

def total (l : List Float) : Float :=
  l.foldl (· + ·) (-0.0)

def aggregate (function : String) (l : List Sample) : Except QueryFault String :=
  if function = "count" then .ok (toString l.length)
  else if l.isEmpty then .error .noMatch
  else
    let values := l.map (·.value)
    match function with
    | "sum" => .ok (formatDouble (total values))
    | "min" => .ok (formatDouble (values.foldl lesser (1.0 / 0.0)))
    | "max" => .ok (formatDouble (values.foldl greater (-1.0 / 0.0)))
    | "avg" => .ok (formatDouble (total values / l.length.toFloat))
    | f => .error (.unknownFunction f)

def Payload.select (p : Payload) (q : Pattern) : List Sample :=
  p.samples.filter q.holds

def Payload.query (p : Payload) (pattern request output : String) : Except QueryFault String := do
  let q ← (Pattern.parse pattern).mapError .pattern
  let found := p.select q
  match request with
  | "" => (single found).map (·.raw)
  | "value" => (single found).map (·.raw)
  | "label" =>
    let s ← single found
    match s.label? output with
    | some v => .ok v
    | none => .error (.noLabel output)
  | "function" => aggregate output found
  | r => .error (.unknownRequest r)

def familyEndings : List String :=
  ["_bucket", "_count", "_sum", "_total", "_created"]

def familyText? (texts : List (String × String)) (name : String) : Option String :=
  texts.lookup name <|> familyEndings.findSome? fun e =>
    (Text.dropSuffix? e.toList name.toList).bind fun family => texts.lookup (String.ofList family)

def sampleJson (p : Payload) (s : Sample) : Json :=
  let base := [("name", Json.str s.name), ("value", .str s.raw), ("line", .str s.line)]
  let labels := if s.labels.isEmpty then []
    else [("labels", Json.object (Json.Members.ofList (s.labels.map fun (k, v) => (k, .str v))))]
  let type := (familyText? p.types s.name).toList.map fun t => ("type", Json.str t)
  let help := (familyText? p.help s.name).toList.map fun t => ("help", Json.str t)
  .object (Json.Members.ofList (base ++ labels ++ type ++ help))

def Payload.toJson (p : Payload) (pattern : String) : Except QueryFault String := do
  let found ← if Text.trimBlanks pattern.toList = [] then .ok p.samples
    else ((Pattern.parse pattern).mapError .pattern).map p.select
  .ok (Json.array (found.map (sampleJson p))).render

end ItemPipeline.Exposition
