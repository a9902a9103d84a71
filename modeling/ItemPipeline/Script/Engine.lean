import ItemPipeline.Failure
import ItemPipeline.Script.Eval
import ItemPipeline.Table
import ItemPipeline.Value.Basic

/-!
The script engine of a worker: it compiles a script once, keeps a bounded number of compiled scripts,
and runs them on item values.
-/

namespace ItemPipeline.Script

structure Input where
  previous : Option Value := none
  seconds : Float := 0

def Code.converts (s : Code) : Bool :=
  s.functions.any fun f => f.name == "convert" && f.params.length == 1

structure Compiled where
  source : String
  script : Code
  converts : Bool

def Compiled.of (source : String) (s : Code) : Compiled :=
  ⟨source, s, s.converts⟩

def Compiled.debugText (c : Compiled) : String :=
  "CompiledScript \x7b source: " ++ Unicode.quoted '"' c.source.toList ++ ", has_convert: " ++
    (if c.converts then "true" else "false") ++ " \x7d"

structure Cache where
  scripts : Table String Compiled := {}

namespace Cache

def capacity : Nat := 1024

def size (c : Cache) : Nat :=
  c.scripts.size

def get? (c : Cache) (source : String) : Option Compiled :=
  c.scripts.get? source

def insert (c : Cache) (source : String) (s : Compiled) : Cache :=
  let scripts := if c.size ≥ capacity then {} else c.scripts
  ⟨scripts.insert source s⟩

def compile (c : Cache) (source : String) : Except Failure Compiled × Cache :=
  match c.get? source with
  | some s => (.ok s, c)
  | none =>
    match parse source with
    | .ok s => (.ok (.of source s), c.insert source (.of source s))
    | .error e => (.error (.script ("Compilation error: " ++ e.message)), c)

end Cache

def ofValue : Value → Datum
  | .uint64 n => if n.toNat < Nat.pow 2 63 then .int n.toNat else .float n.toFloat
  | .double x => .float x
  | .text s => .text s
  | .none => .unit
  | .error _ => .unit

def toValue : Datum → Except Failure Value
  | .unit => .ok .none
  | .text s => .ok (.text s)
  | .int n => .ok (if n ≥ 0 then .uint64 n.toNat.toUInt64 else .double (Float.ofInt n))
  | .float x => if x.isFinite then .ok (.double x) else .error (.script "script returned a non-finite number")
  | .bool b => .ok (.text (if b then "true" else "false"))
  | d => .ok (.text d.toText)

def Input.previousNumber? (i : Input) : Option Float :=
  match i.previous with
  | some (.uint64 n) => some n.toFloat
  | some (.double x) => some x
  | some (.text s) => readFloat? (Text.trimBlanks s.toList)
  | _ => none

def Input.derivative (i : Input) (current : Float) : Float :=
  match i.previousNumber? with
  | some x => if i.seconds > 0 then (current - x) / i.seconds else 0
  | none => 0

def Input.host (i : Input) (name : String) (args : List Datum) : Native :=
  match name, args with
  | "prev", [] => Native.give ((i.previous.map ofValue).getD .unit)
  | "has_prev", [] => Native.give (.bool i.previous.isSome)
  | "dt", [] => Native.give (.float i.seconds)
  | "derivative", [.float x] => Native.give (.float (i.derivative x))
  | _, _ => none

def Compiled.run (c : Compiled) (v : Value) (i : Input) : Except Failure Value :=
  match c.script.run i.host (ofValue v) c.converts with
  | .ok d => toValue d
  | .error f => .error ((Failure.script f.message).within "Execution error")

structure Engine where
  cache : Cache := {}
  input : Input := {}

namespace Engine

def compile (e : Engine) (source : String) : Except Failure Compiled × Engine :=
  let (r, c) := e.cache.compile source
  (r, { e with cache := c })

def execute (e : Engine) (s : Compiled) (v : Value) (i : Input) : Except Failure Value × Engine :=
  let e := { e with input := i }
  (s.run v e.input, e)

def run (e : Engine) (source : String) (v : Value) (i : Input) : Except Failure Value × Engine :=
  match e.compile source with
  | (.ok s, e) => e.execute s v i
  | (.error f, e) => (.error f, e)

def validate (source : String) : Except Failure Unit :=
  match parse source with
  | .ok _ => .ok ()
  | .error e => .error (.script ("Validation error: " ++ e.message))

def cached (e : Engine) : Nat :=
  e.cache.size

def debugText (e : Engine) : String :=
  "ScriptEngine \x7b cache_size: " ++ toString e.cached ++ " \x7d"

end Engine

end ItemPipeline.Script
