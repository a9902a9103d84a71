import ItemPipeline.Config.Check
import ItemPipeline.Toml.Quoted

/-!
Writing a configuration as a document: the settings of the manager, then each item with its steps,
every part under a header of its own.
-/

namespace ItemPipeline

namespace Toml

def member (name value : String) : String :=
  String.join [name, " = ", value, "\n"]

def writeArray : List String → String
  | [] => "[]"
  | [a] => String.join ["[", a, "]"]
  | l => String.join (["[\n"] ++ l.map (fun a => String.join ["    ", a, ",\n"]) ++ ["]"])

end Toml

open Toml (member quoted writeArray)

def writeWord (n : UInt64) : Except Failure String :=
  if n.toNat < Nat.pow 2 63 then .ok (toString n.toNat)
  else .error (.serialization "Failed to serialize configuration: out-of-range value for u64 type")

namespace ManagerConfig

def write (c : ManagerConfig) : Except Failure String := do
  let lines := [member "workers_num" (← writeWord c.workers),
    member "startup_timeout_secs" (← writeWord c.startupSeconds),
    member "batch_size" (← writeWord c.batchSize),
    member "sink_mode" (quoted c.sinkMode.name)]
  pure (String.join ("[manager]\n" :: lines ++ (c.logFile.map fun p => member "log_file" (quoted p)).toList))

end ManagerConfig

def Step.write (s : Step) : String :=
  String.join ["[[items.steps]]\n", member "type" (quoted s.kind.name), member "params" (quoted s.params),
    member "error_handler" (quoted s.handler.name), member "error_handler_params" (quoted s.handlerParams)]

namespace ItemConfig

def write (i : ItemConfig) : Except Failure (List String) := do
  let lines := [member "itemid" (← writeWord i.id), member "hostid" (← writeWord i.host),
    member "value_type" (quoted i.valueType.name), member "mode" (quoted i.mode.name),
    member "discovery" (toString i.discovery)]
  let dependents ← i.dependents.mapM writeWord
  let last := if dependents = [] then [] else [member "dependents" (writeArray dependents)]
  pure (String.join ("[[items]]\n" :: lines ++ last) :: i.steps.map Step.write)

end ItemConfig

def Config.write (c : Config) : Except Failure String := do
  let manager ← c.manager.write
  let items ← c.items.mapM ItemConfig.write
  let parts := if c.items.isEmpty then ["items = []\n", manager] else manager :: items.flatten
  pure (String.intercalate "\n" parts)

end ItemPipeline
