import ItemPipeline.Config.Reading
import ItemPipeline.Proofs.Toml.Fields

/-!
The settings of a manager, an item and a step: how they are written, and that the same is made of what is read.
-/

namespace ItemPipeline

open Toml (Setting Proper Shown Puts IsTable headline member writeLines)

lemma StepKind.ofName?_name (k : StepKind) : StepKind.ofName? k.name = some k := by
  cases k <;> decide +kernel

lemma ErrorHandler.ofName?_name (h : ErrorHandler) : ErrorHandler.ofName? h.name = some h := by
  cases h <;> decide +kernel

lemma ValueType.ofName?_name (t : ValueType) : ValueType.ofName? t.name = some t := by
  cases t <;> decide +kernel

lemma ProcessMode.ofName?_name (m : ProcessMode) : ProcessMode.ofName? m.name = some m := by
  cases m <;> decide +kernel

lemma SinkMode.ofName?_name (m : SinkMode) : SinkMode.ofName? m.name = some m := by
  cases m <;> decide +kernel

namespace Step

def settings (s : Step) : List (String × Setting) :=
  [("type", .text s.kind.name), ("params", .text s.params), ("error_handler", .text s.handler.name),
    ("error_handler_params", .text s.handlerParams)]

lemma proper_settings (s : Step) : Proper s.settings where
  bare := by
    change ∀ n ∈ ["type", "params", "error_handler", "error_handler_params"], Toml.IsBare n
    decide +kernel
  fits := by simp [settings, Setting.Fits]
  distinct := by simp [settings]

lemma toList_write (s : Step) : s.write.toList = headline true "items" ["steps"] ++ writeLines s.settings := by
  rw [write, String.toList_join]
  rfl

lemma puts_settings (s : Step) : List.Forall₂ (Puts fields) s.settings
    [fun d => { d with kind := some s.kind }, fun d => { d with params := s.params },
      fun d => { d with handler := s.handler }, fun d => { d with handlerParams := s.handlerParams }] := by
  refine .cons ?_ (.cons ?_ (.cons ?_ (.cons ?_ .nil)))
  · exact Toml.puts_of rfl (fun _ is => Toml.toCase_text _ s.kind.ofName?_name is) rfl
  · exact Toml.puts_of rfl (fun _ is => Toml.toText_text _ is) rfl
  · exact Toml.puts_of rfl (fun _ is => Toml.toCase_text _ s.handler.ofName?_name is) rfl
  · exact Toml.puts_of rfl (fun _ is => Toml.toText_text _ is) rfl

lemma ofToml_of_isTable {s : Step} {t : Toml} (is : IsTable s.settings t) : ofToml t = .ok s := by
  obtain ⟨span, m, rfl, shown⟩ := is
  rw [ofToml, Toml.fill_shown s.puts_settings shown]
  rfl

end Step

lemma writeWord_eq_ok_iff {n : UInt64} {text : String} :
    writeWord n = .ok text ↔ n.toNat < Nat.pow 2 63 ∧ toString n.toNat = text := by
  rw [writeWord]
  split_ifs with fits <;> simp [fits]

lemma of_mapM_writeWord {l : List UInt64} {texts : List String} (written : l.mapM writeWord = .ok texts) :
    (∀ n ∈ l, n.toNat < Nat.pow 2 63) ∧ texts = l.map fun n => toString n.toNat := by
  induction mapM_eq_ok_iff.1 written with
  | nil => simp
  | cons first rest ih =>
    obtain ⟨fits, rfl⟩ := writeWord_eq_ok_iff.1 first
    obtain ⟨each, rfl⟩ := ih (mapM_eq_ok_iff.2 rest)
    exact ⟨List.forall_mem_cons.2 ⟨fits, each⟩, rfl⟩

namespace ManagerConfig

def settings (c : ManagerConfig) : List (String × Setting) :=
  [("workers_num", .word c.workers), ("startup_timeout_secs", .word c.startupSeconds),
    ("batch_size", .word c.batchSize), ("sink_mode", .text c.sinkMode.name)] ++
    (c.logFile.map fun p => ("log_file", .text p)).toList

lemma of_write {c : ManagerConfig} {text : String} (written : c.write = .ok text) :
    Proper c.settings ∧ text.toList = headline false "manager" [] ++ writeLines c.settings := by
  simp only [write, bind_eq_ok_iff, writeWord_eq_ok_iff] at written
  obtain ⟨_, ⟨workers, rfl⟩, _, ⟨startup, rfl⟩, _, ⟨batch, rfl⟩, ⟨⟩⟩ := written
  have bare : ∀ n ∈ ["workers_num", "startup_timeout_secs", "batch_size", "sink_mode", "log_file"], Toml.IsBare n := by
    decide +kernel
  obtain ⟨w, s, b, m, log⟩ := c
  refine ⟨⟨fun n hn => bare n ?_, ?_, ?_⟩, ?_⟩
  · cases log with
    | none => exact List.mem_append_left ["log_file"] hn
    | some _ => exact hn
  · cases log <;> simp [settings, Setting.Fits, workers, startup, batch]
  · cases log <;> simp [settings]
  · rw [String.toList_join]
    cases log <;> rfl

lemma ofToml_of_isTable {c : ManagerConfig} {t : Toml} (is : IsTable c.settings t) : ofToml t = .ok c := by
  obtain ⟨span, m, rfl, shown⟩ := is
  have puts : List.Forall₂ (Puts fields) c.settings ([fun d => { d with workers := c.workers },
      fun d => { d with startupSeconds := c.startupSeconds }, fun d => { d with batchSize := c.batchSize },
      fun d => { d with sinkMode := c.sinkMode }] ++
      (c.logFile.map fun p d => { d with logFile := some p }).toList) := by
    refine .cons ?_ (.cons ?_ (.cons ?_ (.cons ?_ ?_)))
    · exact Toml.puts_of rfl (fun _ is => Toml.toUInt64_of_isWord _ is) rfl
    · exact Toml.puts_of rfl (fun _ is => Toml.toUInt64_of_isWord _ is) rfl
    · exact Toml.puts_of rfl (fun _ is => Toml.toUInt64_of_isWord _ is) rfl
    · exact Toml.puts_of rfl (fun _ is => Toml.toCase_text _ c.sinkMode.ofName?_name is) rfl
    · cases c.logFile with
      | none => exact .nil
      | some p => exact .cons (Toml.puts_of rfl (fun _ is => Toml.toText_text _ is) rfl) .nil
  rw [ofToml, Toml.fill_shown puts shown]
  obtain ⟨w, s, b, m, log⟩ := c
  cases log <;> rfl

end ManagerConfig

namespace ItemConfig

def settings (i : ItemConfig) : List (String × Setting) :=
  [("itemid", .word i.id), ("hostid", .word i.host), ("value_type", .text i.valueType.name),
    ("mode", .text i.mode.name), ("discovery", .flag i.discovery)] ++
    if i.dependents = [] then [] else [("dependents", .words i.dependents)]

lemma map_fst_settings (i : ItemConfig) : i.settings.map (·.1) =
    ["itemid", "hostid", "value_type", "mode", "discovery"] ++ if i.dependents = [] then [] else ["dependents"] := by
  rw [settings]
  split_ifs <;> rfl

lemma of_write {i : ItemConfig} {parts : List String} (written : i.write = .ok parts) :
    Proper i.settings ∧ parts.map String.toList =
      (headline true "items" [] ++ writeLines i.settings) ::
        i.steps.map fun s => headline true "items" ["steps"] ++ writeLines s.settings := by
  simp only [write, bind_eq_ok_iff, writeWord_eq_ok_iff] at written
  obtain ⟨_, ⟨id, rfl⟩, _, ⟨host, rfl⟩, _, each, ⟨⟩⟩ := written
  obtain ⟨fits, rfl⟩ := of_mapM_writeWord each
  have bare : ∀ n ∈ ["itemid", "hostid", "value_type", "mode", "discovery", "dependents"], Toml.IsBare n := by
    decide +kernel
  obtain ⟨id, host, type, mode, discovery, dependents, steps⟩ := i
  refine ⟨⟨fun n hn => bare n ?_, ?_, ?_⟩, ?_⟩
  · rw [map_fst_settings] at hn
    split_ifs at hn
    · exact List.mem_append_left ["dependents"] hn
    · exact hn
  · cases dependents <;> simp_all [settings, Setting.Fits]
  · rw [map_fst_settings]
    split_ifs <;> decide
  · rw [List.map_cons, List.map_map, String.toList_join]
    refine List.cons_eq_cons.2 ⟨?_, ?_⟩
    · cases dependents <;> rfl
    · exact List.map_congr_left fun s _ => s.toList_write

def IsTable (i : ItemConfig) (t : Toml) : Prop :=
  ∃ span kind inner base ss, t = .table span kind inner ∧ Shown i.settings base ∧ Toml.Tabled base "steps" ss inner ∧
    List.Forall₂ (fun s t => Toml.IsTable s.settings t) i.steps ss

lemma ofToml_of_isTable {i : ItemConfig} {t : Toml} (is : i.IsTable t) : ofToml t = .ok i := by
  obtain ⟨span, kind, inner, base, ss, rfl, shown, ⟨-, tabled⟩, steps⟩ := is
  have puts : List.Forall₂ (Puts fields) i.settings ([fun d => { d with id := some i.id },
      fun d => { d with rest := { d.rest with host := i.host } },
      fun d => { d with rest := { d.rest with valueType := i.valueType } },
      fun d => { d with rest := { d.rest with mode := i.mode } },
      fun d => { d with rest := { d.rest with discovery := i.discovery } }] ++
      if i.dependents = [] then [] else [fun d => { d with rest := { d.rest with dependents := i.dependents } }]) := by
    refine .cons ?_ (.cons ?_ (.cons ?_ (.cons ?_ (.cons ?_ ?_))))
    · exact Toml.puts_of rfl (fun _ is => Toml.toUInt64_of_isWord _ is) rfl
    · exact Toml.puts_of rfl (fun _ is => Toml.toUInt64_of_isWord _ is) rfl
    · exact Toml.puts_of rfl (fun _ is => Toml.toCase_text _ i.valueType.ofName?_name is) rfl
    · exact Toml.puts_of rfl (fun _ is => Toml.toCase_text _ i.mode.ofName?_name is) rfl
    · exact Toml.puts_of rfl (fun _ is => Toml.toBool_flag is) rfl
    · split_ifs
      · exact .nil
      · exact .cons (Toml.puts_of rfl (fun _ is => Toml.toList_words _ is) rfl) .nil
  have filled := Toml.fill_shown puts shown "struct ItemConfig" span kind {}
  have list : Toml.toList Step.ofToml (.tables ss) = .ok i.steps :=
    Toml.toList_of_forall₂ (fun s _ _ is => Step.ofToml_of_isTable is) rfl steps
  obtain ⟨id, host, type, mode, discovery, dependents, l⟩ := i
  rcases tabled with ⟨rfl, rfl⟩ | ⟨k, name, rfl⟩
  · obtain rfl := List.forall₂_nil_right_iff.1 steps
    rw [ofToml, filled]
    cases dependents <;> rfl
  · have last (r : Draft) : Toml.fill "struct ItemConfig" fields (.table span kind [(k, .tables ss)]) r =
        .ok { r with rest := { r.rest with steps := l } } :=
      Toml.fill_single (by rw [name]; rfl) (congrArg (Except.map _) list) _ _ _
    rw [ofToml, Toml.fill_append, filled]
    change (Toml.fill "struct ItemConfig" fields (.table span kind [(k, .tables ss)]) _ >>= _) = _
    rw [last]
    cases dependents <;> rfl

end ItemConfig

end ItemPipeline
