import ItemPipeline.Value.Basic

/-!
Preprocessing steps, what happens when one fails, and the record of an executed step.
-/

namespace ItemPipeline

inductive StepKind
  | multiplier
  | rtrim
  | ltrim
  | trim
  | regsub
  | bool2dec
  | oct2dec
  | hex2dec
  | deltaValue
  | deltaSpeed
  | xpath
  | jsonpath
  | validateRange
  | validateRegex
  | validateNotRegex
  | validateNotSupported
  | errorFieldJson
  | errorFieldXml
  | errorFieldRegex
  | throttleValue
  | throttleTimedValue
  | script
  | prometheusPattern
  | prometheusToJson
  | csvToJson
  | xmlToJson
  | strReplace
deriving Repr, DecidableEq

namespace StepKind

def all : List StepKind :=
  [multiplier, rtrim, ltrim, trim, regsub, bool2dec, oct2dec, hex2dec, deltaValue, deltaSpeed, xpath,
    jsonpath, validateRange, validateRegex, validateNotRegex, validateNotSupported, errorFieldJson,
    errorFieldXml, errorFieldRegex, throttleValue, throttleTimedValue, script, prometheusPattern,
    prometheusToJson, csvToJson, xmlToJson, strReplace]

def name : StepKind → String
  | multiplier => "multiplier"
  | rtrim => "rtrim"
  | ltrim => "ltrim"
  | trim => "trim"
  | regsub => "regsub"
  | bool2dec => "bool2dec"
  | oct2dec => "oct2dec"
  | hex2dec => "hex2dec"
  | deltaValue => "delta_value"
  | deltaSpeed => "delta_speed"
  | xpath => "xpath"
  | jsonpath => "jsonpath"
  | validateRange => "validate_range"
  | validateRegex => "validate_regex"
  | validateNotRegex => "validate_not_regex"
  | validateNotSupported => "validate_not_supported"
  | errorFieldJson => "error_field_json"
  | errorFieldXml => "error_field_xml"
  | errorFieldRegex => "error_field_regex"
  | throttleValue => "throttle_value"
  | throttleTimedValue => "throttle_timed_value"
  | script => "script"
  | prometheusPattern => "prometheus_pattern"
  | prometheusToJson => "prometheus_to_json"
  | csvToJson => "csv_to_json"
  | xmlToJson => "xml_to_json"
  | strReplace => "str_replace"

def ofName? (s : String) : Option StepKind :=
  all.find? fun k => k.name == s

def hasHistory : StepKind → Bool
  | deltaValue => true
  | deltaSpeed => true
  | throttleValue => true
  | throttleTimedValue => true
  | script => true
  | _ => false

def usesCache : StepKind → Bool
  | jsonpath => true
  | prometheusPattern => true
  | _ => false

end StepKind

inductive ErrorHandler
  | default
  | discardValue
  | setValue
  | setError
deriving Repr, DecidableEq

namespace ErrorHandler

def all : List ErrorHandler :=
  [default, discardValue, setValue, setError]

def name : ErrorHandler → String
  | default => "default"
  | discardValue => "discard_value"
  | setValue => "set_value"
  | setError => "set_error"

def ofName? (s : String) : Option ErrorHandler :=
  all.find? fun h => h.name == s

end ErrorHandler

/-- What was done after a step; `forceError` is a step that succeeded in making an error. -/
inductive StepAction
  | default
  | discardValue
  | setValue
  | setError
  | forceError
deriving Repr, DecidableEq

def StepAction.name : StepAction → String
  | default => "default"
  | discardValue => "discard_value"
  | setValue => "set_value"
  | setError => "set_error"
  | forceError => "force_error"

def ErrorHandler.action : ErrorHandler → StepAction
  | default => .default
  | discardValue => .discardValue
  | setValue => .setValue
  | setError => .setError

structure Step where
  kind : StepKind
  params : String := ""
  handler : ErrorHandler := .default
  handlerParams : String := ""
deriving Repr, DecidableEq

structure StepResult where
  value : Value
  error : Option String
  action : StepAction

def Step.onFail (s : Step) (message : String) : Value × StepAction :=
  let v := match s.handler with
    | .default => .error message
    | .discardValue => .none
    | .setValue => .text s.handlerParams
    | .setError => .error s.handlerParams
  (v, s.handler.action)

end ItemPipeline
