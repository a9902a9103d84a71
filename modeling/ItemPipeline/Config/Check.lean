import ItemPipeline.Config.Basic

/-!
What a configuration has to satisfy: at least one worker, batches that hold something, items with
ids of their own, and dependents that exist and never lead back to the item that lists them.
-/

namespace ItemPipeline

inductive ConfigFault
  | noWorkers
  | noBatch
  | duplicate (item : UInt64)
  | unknownDependent (item dependent : UInt64)
  | selfDependent (item : UInt64)
  | cycle (path : List UInt64)
deriving Repr, DecidableEq

namespace ConfigFault

def message : ConfigFault → String
  | noWorkers => "workers_num must be at least 1"
  | noBatch => "batch_size must be at least 1"
  | duplicate i => s!"duplicate item {i}"
  | unknownDependent i d => s!"item {i} lists unknown dependent item {d}"
  | selfDependent i => s!"item {i} depends on itself"
  | cycle p => "dependency cycle " ++ String.intercalate " -> " (p.map fun i => toString i.toNat)

end ConfigFault

def ManagerConfig.check (c : ManagerConfig) : Except ConfigFault Unit :=
  if c.workers = 0 then .error .noWorkers
  else if c.batchSize = 0 then .error .noBatch
  else .ok ()

namespace Config

def firstDuplicate? : List UInt64 → List UInt64 → Option UInt64
  | _, [] => none
  | seen, i :: rest => if seen.contains i then some i else firstDuplicate? (i :: seen) rest

def checkItem (ids : List UInt64) (i : ItemConfig) : Except ConfigFault Unit :=
  match i.dependents.find? fun d => !ids.contains d with
  | some d => .error (.unknownDependent i.id d)
  | none => if i.dependents.contains i.id then .error (.selfDependent i.id) else .ok ()

/-- Visits these ids and all they lead to, and answers the ids that lead to no cycle, or the path of
the first cycle. `path` leads to the ids, newest first; `depth` bounds its growth. -/
def explore (next : UInt64 → List UInt64) :
    Nat → List UInt64 → List UInt64 → List UInt64 → Except (List UInt64) (List UInt64)
  | 0, _, _, done => .ok done
  | depth + 1, path, ids, done =>
    ids.foldlM (fun done i =>
      if path.contains i then .error (i :: (path.takeWhile (· ≠ i)).reverse ++ [i])
      else if done.contains i then .ok done
      else (explore next depth (i :: path) (next i) done).map (i :: ·)) done

def cycle? (c : Config) : Option (List UInt64) :=
  match explore c.dependents (c.items.length + 1) [] c.ids [] with
  | .ok _ => none
  | .error p => some p

def check (c : Config) : Except ConfigFault Unit := do
  c.manager.check
  if let some i := firstDuplicate? [] c.ids then throw (.duplicate i)
  c.items.forM (checkItem c.ids)
  if let some p := c.cycle? then throw (.cycle p)

end Config

end ItemPipeline
