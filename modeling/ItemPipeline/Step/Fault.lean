import ItemPipeline.Csv.Table
import ItemPipeline.Exposition.Query
import ItemPipeline.Failure
import ItemPipeline.Json.Error
import ItemPipeline.JsonPath.Extract
import ItemPipeline.Step.Basic
import ItemPipeline.Text.Escape
import ItemPipeline.XPath.Extract

/-!
Why a step fails, and the message for it. Most failures name the step and carry their cause.
-/

namespace ItemPipeline

inductive Step.Fault
  | unfit (u : Value.Unfit)
  | noFactor
  | outOfRange
  | badFormat
  | sameInstant
  | badRegex (pattern : String) (e : Regex.Error)
  | noRegexMatch
  | noPathMatch
  | emptySearch
  | missingParameter (ordinal : String)
  | badBound (side bound : String)
  | outsideBounds (low high : String)
  | notMatching (pattern : String)
  | matching (pattern : String)
  | badPeriod (params : String)
  | unsupported (message : String)
  | json (e : Json.Error)
  | jsonPath (e : JsonPath.Error)
  | xml (e : Xml.Error)
  | xpath (e : XPath.Error)
  | exposition (e : Exposition.LineFault)
  | query (e : Exposition.QueryFault)
  | csv (e : Csv.Fault)
  | script (f : Failure)
  | notCached
  | cachedNotJson
  | cachedNotExposition
  | multiplying (params type : String) (cause : Step.Fault)
  | trimming (side params type : String) (cause : Step.Fault)
  | substituting (pattern type : String) (cause : Step.Fault)
  | converting (value base : String) (cause : Step.Fault)
  | differencing (kind type : String) (cause : Step.Fault)
  | extractingXml (path : String) (cause : Step.Fault)
  | extractingJson (path : String) (cause : Step.Fault)
  | applyingPattern (cause : Step.Fault)
  | convertingExposition (cause : Step.Fault)
  | convertingCsv (cause : Step.Fault)
  | convertingXml (cause : Step.Fault)

namespace Step.Fault

def boundsMessage (low high : String) : String :=
  if low ≠ "" ∧ high ≠ "" then s!"value must be between {low} and {high}"
  else if low ≠ "" then s!"value must be greater than or equal to {low}"
  else s!"value must be less than or equal to {high}"

def message : Step.Fault → String
  | unfit u => u.message
  | noFactor => "a numerical value is expected or the value is out of range"
  | outOfRange => "value is out of range"
  | badFormat => "invalid value format"
  | sameInstant => "time interval between values is zero"
  | badRegex p e => s!"invalid regular expression \"{p}\": {e.message}"
  | noRegexMatch => "pattern does not match"
  | noPathMatch => "no data matches the specified path"
  | emptySearch => "cannot replace an empty string"
  | missingParameter n => s!"cannot find {n} parameter"
  | badBound side b => s!"{side} value \"{b}\" is not a number"
  | outsideBounds low high => boundsMessage low high
  | notMatching p => s!"value does not match regular expression \"{p}\""
  | matching p => s!"value matches regular expression \"{p}\""
  | badPeriod p => s!"invalid throttling period \"{p}\""
  | unsupported m => m
  | json e => "cannot parse as a valid JSON object: " ++ e.message
  | jsonPath e => "invalid JSONPath: " ++ e.message
  | xml e => "cannot parse xml value: " ++ e.message
  | xpath e => e.message
  | exposition e => e.message
  | query e => e.message
  | csv e => e.message
  | script f => f.message
  | notCached => "value has no cached representation"
  | cachedNotJson => "cached value is not a JSON document"
  | cachedNotExposition => "cached value is not a Prometheus payload"
  | multiplying p t c => s!"cannot apply multiplier \"{p}\" to value of type \"{t}\": {c.message}"
  | trimming side p t c =>
    s!"cannot perform {side}trim of \"{String.ofList (Text.escapeAscii p.toList)}\" for value of type \"{t}\": {c.message}"
  | substituting p t c =>
    s!"cannot perform regular expression \"{p}\" match for value of type \"{t}\": {c.message}"
  | converting v n c => s!"cannot convert value \"{v}\" from {n} to decimal format: {c.message}"
  | differencing k t c => s!"cannot calculate delta ({k}) for value of type \"{t}\": {c.message}"
  | extractingXml p c => s!"cannot extract XML value with xpath \"{p}\": {c.message}"
  | extractingJson p c => s!"cannot extract value from json by path \"{p}\": {c.message}"
  | applyingPattern c => s!"cannot apply Prometheus pattern: {c.message}"
  | convertingExposition c => s!"cannot convert Prometheus data to JSON: {c.message}"
  | convertingCsv c => s!"cannot convert CSV to JSON: {c.message}"
  | convertingXml c => s!"cannot convert XML to JSON: {c.message}"

end Step.Fault

end ItemPipeline
