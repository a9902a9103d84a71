import ItemPipeline.Regex.Program

/-!
Samples of an exposition payload, with the help and type texts of their metrics.
-/

namespace ItemPipeline.Exposition

structure Sample where
  name : String
  labels : List (String × String)
  value : Float
  raw : String
  line : String
deriving Inhabited

def nameLabel : String := "__name__"

def Sample.label? (s : Sample) (name : String) : Option String :=
  if name = nameLabel then some s.name else s.labels.lookup name

/-- Samples in the order of the payload; of two texts for one metric the later comes first. -/
structure Payload where
  samples : List Sample := []
  help : List (String × String) := []
  types : List (String × String) := []
deriving Inhabited

def Payload.append (a b : Payload) : Payload :=
  ⟨a.samples ++ b.samples, b.help ++ a.help, b.types ++ a.types⟩

inductive LabelOp
  | equal
  | notEqual
  | like
  | unlike
deriving Repr, DecidableEq

def LabelOp.sign : LabelOp → String
  | equal => "="
  | notEqual => "!="
  | like => "=~"
  | unlike => "!~"

inductive Fault
  | metricName
  | labelName
  | operator (label : String)
  | openingQuote
  | unterminated
  | separator
  | unexpectedOperator (op : LabelOp)
  | badValue (token : String)
  | badPattern (text : String)
  | badRegex (pattern : String) (e : Regex.Error)
deriving Repr, DecidableEq

def Fault.message : Fault → String
  | metricName => "metric name expected"
  | labelName => "label name expected"
  | operator l => s!"operator expected after label \"{l}\""
  | openingQuote => "'\"' expected"
  | unterminated => "unterminated label value"
  | separator => "',' or '\x7d' expected"
  | unexpectedOperator op => s!"unexpected label operator \"{op.sign}\""
  | badValue t => s!"invalid metric value \"{t}\""
  | badPattern t => s!"invalid pattern \"{t}\""
  | badRegex p e => s!"invalid regular expression \"{p}\": {e.message}"

structure LineFault where
  line : Nat
  fault : Fault
deriving Repr, DecidableEq

def LineFault.message (e : LineFault) : String :=
  s!"cannot parse line {e.line}: {e.fault.message}"

end ItemPipeline.Exposition
