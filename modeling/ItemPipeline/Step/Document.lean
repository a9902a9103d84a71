import ItemPipeline.Step.Cache

/-!
Steps on documents: extraction from JSON, XML and exposition payloads, conversion to JSON, and
errors reported inside a document.
-/

namespace ItemPipeline.Step

def xpath (params : String) (v : Value) : Except Fault Value := do
  let s ← v.toText.mapError .unfit
  ((XPath.extract s params).map Value.text).mapError fun e => .extractingXml params (.xpath e)

def jsonDocument (cache : Option Cache) (v : Value) : Except Fault Json :=
  match cache with
  | some c => c.json
  | none => do
    let s ← v.toText.mapError .unfit
    (Json.parse s).mapError .json

def jsonpath (cache : Option Cache) (params : String) (v : Value) : Except Fault Value :=
  let found : Except Fault Value := do
    let d ← jsonDocument cache v
    match ← (JsonPath.extract d params).mapError .jsonPath with
    | some s => .ok (.text s)
    | none => .error .noPathMatch
  found.mapError (.extractingJson params)

def errorFieldJson (params : String) (v : Value) : Except Fault Value :=
  match v.toText with
  | .error _ => .ok v
  | .ok s =>
    match Json.parse s with
    | .error _ => .ok v
    | .ok d =>
      match JsonPath.extract d params with
      | .error e => .error (.jsonPath e)
      | .ok none => .ok v
      | .ok (some m) => .ok (if m = "" then v else .error m)

def errorFieldXml (params : String) (v : Value) : Except Fault Value :=
  match v.toText with
  | .error _ => .ok v
  | .ok s =>
    match XPath.extract s params with
    | .error _ => .ok v
    | .ok m => .ok (if m = "" then v else .error m)

def patternParams (params : String) : Except Fault (String × String × String) :=
  match Text.cutAt '\n' params.toList with
  | none => .error (.missingParameter "second")
  | some (pattern, rest) =>
    match Text.cutAt '\n' rest with
    | none => .error (.missingParameter "third")
    | some (request, output) => .ok (String.ofList pattern, String.ofList request, String.ofList output)

def prometheusPattern (cache : Option Cache) (params : String) (v : Value) : Except Fault Value := do
  let (pattern, request, output) ← patternParams params
  let payload ← match cache with
    | some c => c.exposition.mapError .applyingPattern
    | none => do
      let s ← v.toText.mapError .unfit
      (Exposition.parse s).mapError fun e => .applyingPattern (.exposition e)
  ((payload.query pattern request output).map Value.text).mapError fun e => .applyingPattern (.query e)

def prometheusToJson (params : String) (v : Value) : Except Fault Value := do
  let s ← v.toText.mapError .unfit
  let p ← (Exposition.parse s).mapError fun e => .convertingExposition (.exposition e)
  ((p.toJson params).map Value.text).mapError fun e => .convertingExposition (.query e)

def csvToJson (params : String) (v : Value) : Except Fault Value := do
  let parts := Text.splitOn '\n' params.toList
  let delimiter := String.ofList (parts[0]?.getD [','])
  let quote := String.ofList (parts[1]?.getD ['"'])
  let header := parts[2]?.all fun h => Text.trimBlanks h == ['1']
  let s ← v.toText.mapError .unfit
  ((Csv.toJson s delimiter quote header).map Value.text).mapError fun e => .convertingCsv (.csv e)

def xmlToJson (v : Value) : Except Fault Value :=
  let found : Except Fault Value := do
    let s ← v.toText.mapError .unfit
    let d ← (Xml.parse s).mapError .xml
    .ok (.text d.toJson.render)
  found.mapError .convertingXml

end ItemPipeline.Step
