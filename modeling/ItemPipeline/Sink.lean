import ItemPipeline.Task.Basic

/-!
Where processed values go. A server sorts the values of discovery rules out; a proxy sends
everything on as history.
-/

namespace ItemPipeline

inductive SinkMode
  | server
  | proxy
deriving Repr, DecidableEq

namespace SinkMode

def all : List SinkMode :=
  [server, proxy]

def name : SinkMode → String
  | server => "server"
  | proxy => "proxy"

def ofName? (s : String) : Option SinkMode :=
  all.find? fun m => m.name == s

end SinkMode

structure FlushedValue where
  item : UInt64
  host : UInt64
  valueType : ValueType
  discovery : Bool
  value : Value
  time : Timestamp
  options : ValueOptions

def ValueTask.flushed (t : ValueTask) : FlushedValue where
  item := t.item
  host := t.host
  valueType := t.rules.valueType
  discovery := t.rules.discovery
  value := t.result
  time := t.time
  options := t.options

inductive Delivery
  | history (v : FlushedValue)
  | discovery (v : FlushedValue)

def Value.forDiscovery : Value → Value
  | .error e => .error e
  | v => match v.toText with
    | .ok s => .text s
    | .error _ => .none

def SinkMode.route (m : SinkMode) (v : FlushedValue) : Option Delivery :=
  if v.discovery && m == .server then
    let d := { v with value := v.value.forDiscovery }
    if d.value.isNone && d.options.offset.isNone then none else some (.discovery d)
  else some (.history v)

namespace Delivery

def toHistory : Delivery → Option FlushedValue
  | history v => some v
  | discovery _ => none

def toDiscovery : Delivery → Option FlushedValue
  | history _ => none
  | discovery v => some v

end Delivery

end ItemPipeline
