import ItemPipeline.Script.Engine
import ItemPipeline.Step.Change
import ItemPipeline.Step.Document
import ItemPipeline.Step.Number
import ItemPipeline.Step.Text

/-!
One step on one value. Only steps with a history touch the memory, and only scripts the engine.
-/

namespace ItemPipeline

structure Context where
  engine : Option Script.Engine := none

def Context.debugText (c : Context) : String :=
  match c.engine with
  | none => "ExecutionContext \x7b script: None \x7d"
  | some e => "ExecutionContext \x7b script: Some(" ++ e.debugText ++ ") \x7d"

namespace Step

def apply (s : Step) (cache : Option Cache) (t : ValueType) (v : Value) : Except Fault Value :=
  match s.kind with
  | .multiplier => multiply t s.params v
  | .rtrim => trimWith "right " Text.trimEnd s.params v
  | .ltrim => trimWith "left " Text.trimStart s.params v
  | .trim => trimWith "" Text.trim s.params v
  | .regsub => regsub s.params v
  | .bool2dec => toDecimal "boolean" (fun l => readBoolean? (Text.trimBlanks l)) v
  | .oct2dec => toDecimal "octal" readOctal? v
  | .hex2dec => toDecimal "hexadecimal" readHex? v
  | .xpath => xpath s.params v
  | .jsonpath => jsonpath (cache.filter fun c => c.serves .jsonpath) s.params v
  | .validateRange => validateRange t s.params v
  | .validateRegex => validateRegex true s.params v
  | .validateNotRegex => validateRegex false s.params v
  | .validateNotSupported =>
    match v with
    | .error e => .error (.unsupported e)
    | v => .ok v
  | .errorFieldJson => errorFieldJson s.params v
  | .errorFieldXml => errorFieldXml s.params v
  | .errorFieldRegex => errorFieldRegex s.params v
  | .prometheusPattern => prometheusPattern (cache.filter fun c => c.serves .prometheusPattern) s.params v
  | .prometheusToJson => prometheusToJson s.params v
  | .csvToJson => csvToJson s.params v
  | .xmlToJson => xmlToJson v
  | .strReplace => replace s.params v
  | _ => .ok v

def remember (s : Step) (t : ValueType) (now : Timestamp) (m : Option Memory) (v : Value) :
    Except Fault Value × Option Memory :=
  match s.kind with
  | .deltaSpeed => delta true t now m v
  | .throttleValue => throttle now m v
  | .throttleTimedValue => throttleTimed now s.params m v
  | _ => delta false t now m v

def scriptInput (now : Timestamp) : Option Memory → Script.Input
  | none => {}
  | some m => ⟨some m.value, Float.ofInt (now.elapsedMillis m.time) / 1000⟩

structure Outcome where
  value : Except Fault Value
  memory : Option Memory
  context : Context

def runScript (c : Context) (now : Timestamp) (params : String) (m : Option Memory) (v : Value) : Outcome :=
  match (c.engine.getD {}).run params v (scriptInput now m) with
  | (.ok r, e) => ⟨.ok r, some ⟨v, now⟩, ⟨some e⟩⟩
  | (.error f, e) => ⟨.error (.script f), none, ⟨some e⟩⟩

def run (s : Step) (c : Context) (cache : Option Cache) (t : ValueType) (now : Timestamp)
    (m : Option Memory) (v : Value) : Outcome :=
  if s.kind = .script then runScript c now s.params m v
  else if s.kind.hasHistory then
    let (r, m) := s.remember t now m v
    ⟨r, m, c⟩
  else ⟨s.apply cache t v, m, c⟩

end Step

end ItemPipeline
