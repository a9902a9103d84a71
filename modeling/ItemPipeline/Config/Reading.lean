import ItemPipeline.Config.Check
import ItemPipeline.Toml.Document
import ItemPipeline.Toml.Schema

/-!
Reading a configuration document. All settings but the ids of items and the types of steps have
defaults, and unknown settings are passed over.
-/

namespace ItemPipeline

open Toml (Decoder Field Members)

namespace Step

structure Draft where
  kind : Option StepKind := none
  params : String := ""
  handler : ErrorHandler := .default
  handlerParams : String := ""

def fields : List (Toml.Field Draft) :=
  [.of "type" (Toml.toCase (StepKind.all.map StepKind.name) StepKind.ofName?) fun k d => { d with kind := some k },
    .of "params" (Toml.toText "a string") fun s d => { d with params := s },
    .of "error_handler" (Toml.toCase (ErrorHandler.all.map ErrorHandler.name) ErrorHandler.ofName?)
      fun h d => { d with handler := h },
    .of "error_handler_params" (Toml.toText "a string") fun s d => { d with handlerParams := s }]

def ofToml : Decoder Step := fun v => do
  let d ← v.fill "struct Step" fields {}
  match d.kind with
  | some k => .ok ⟨k, d.params, d.handler, d.handlerParams⟩
  | none => v.lacking 0 "type" "struct Step with 4 elements"

end Step

namespace ItemConfig

structure Draft where
  id : Option UInt64 := none
  rest : ItemConfig := { id := 0 }

def fields : List (Toml.Field Draft) :=
  [.of "itemid" (Toml.toUInt64 "u64") fun i d => { d with id := some i },
    part "hostid" (Toml.toUInt64 "u64") fun h c => { c with host := h },
    part "value_type" (Toml.toCase (ValueType.all.map ValueType.name) ValueType.ofName?)
      fun t c => { c with valueType := t },
    part "mode" (Toml.toCase (ProcessMode.all.map ProcessMode.name) ProcessMode.ofName?)
      fun m c => { c with mode := m },
    part "discovery" Toml.toBool fun b c => { c with discovery := b },
    part "dependents" (Toml.toList (Toml.toUInt64 "u64")) fun l c => { c with dependents := l },
    part "steps" (Toml.toList Step.ofToml) fun l c => { c with steps := l }]
where
  part {α : Type} (name : String) (decode : Decoder α) (put : α → ItemConfig → ItemConfig) : Toml.Field Draft :=
    .of name decode fun a d => { d with rest := put a d.rest }

def ofToml : Decoder ItemConfig := fun v => do
  let d ← v.fill "struct ItemConfig" fields {}
  match d.id with
  | some i => .ok { d.rest with id := i }
  | none => v.lacking 0 "itemid" "struct ItemConfig with 7 elements"

end ItemConfig

namespace ManagerConfig

def fields : List (Toml.Field ManagerConfig) :=
  [.of "workers_num" (Toml.toUInt64 "usize") fun n c => { c with workers := n },
    .of "startup_timeout_secs" (Toml.toUInt64 "u64") fun n c => { c with startupSeconds := n },
    .of "batch_size" (Toml.toUInt64 "usize") fun n c => { c with batchSize := n },
    .of "sink_mode" (Toml.toCase (SinkMode.all.map SinkMode.name) SinkMode.ofName?)
      fun m c => { c with sinkMode := m },
    .of "log_file" (Toml.toText "path string") fun s c => { c with logFile := some s }]

def ofToml : Decoder ManagerConfig := fun v =>
  v.fill "struct ManagerConfig" fields {}

end ManagerConfig

namespace Config

def fields : List (Toml.Field Config) :=
  [.of "manager" ManagerConfig.ofToml fun m c => { c with manager := m },
    .of "items" (Toml.toList ItemConfig.ofToml) fun l c => { c with items := l }]

def ofMembers (m : Members) : Except Toml.Error Config :=
  (Toml.table none .header m).fill "struct PreprocConfig" fields {}

def parse (text : String) : Except Failure Config :=
  match Toml.parse text >>= ofMembers with
  | .error e => .error (.config ("Failed to parse configuration: " ++ e.report text))
  | .ok c =>
    match c.check with
    | .error e => .error (.config e.message)
    | .ok _ => .ok c

end Config

end ItemPipeline
