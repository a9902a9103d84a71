import ItemPipeline.Table
import ItemPipeline.Text.Cut

/-!
Text files below a folder, and what can go wrong with them.
-/

namespace ItemPipeline

inductive StorageFault
  | notFound
  | alreadyThere
  | notFolder
  | isFolder
deriving Repr, DecidableEq

def StorageFault.message : StorageFault → String
  | notFound => "No such file or directory (os error 2)"
  | alreadyThere => "File exists (os error 17)"
  | notFolder => "Not a directory (os error 20)"
  | isFolder => "Is a directory (os error 21)"

inductive Entry
  | file (text : String)
  | folder

structure Folder where
  entries : Table (List String) Entry := {}

namespace Folder

def names (path : String) : List String :=
  ((Text.splitOn '/' path.toList).map String.ofList).filter fun n => n ≠ "" ∧ n ≠ "."

def entry? (t : Folder) (path : List String) : Option Entry :=
  if path = [] then some .folder else t.entries.get? path

def checkAbove (t : Folder) (path : List String) : Except StorageFault Unit :=
  (List.range path.length).forM fun n =>
    match t.entry? (path.take n) with
    | some .folder => .ok ()
    | some (.file _) => .error .notFolder
    | none => .error .notFound

def read (t : Folder) (path : String) : Except StorageFault String := do
  let p := names path
  t.checkAbove p
  match t.entry? p with
  | some (.file s) => .ok s
  | some .folder => .error .isFolder
  | none => .error .notFound

def write (t : Folder) (path text : String) : Except StorageFault Folder := do
  let p := names path
  t.checkAbove p
  match t.entry? p with
  | some .folder => .error .isFolder
  | _ => .ok ⟨t.entries.insert p (.file text)⟩

def makeFolders (t : Folder) (path : List String) : Except StorageFault Folder :=
  let steps := (List.range (path.length + 1)).map path.take
  if steps.dropLast.any fun p => match t.entry? p with
    | some (.file _) => true
    | _ => false
  then .error .notFolder
  else match t.entry? path with
    | some (.file _) => .error .alreadyThere
    | _ => .ok ⟨steps.foldl (fun e p => if p = [] then e else e.insert p .folder) t.entries⟩

def parent (path : String) : List String :=
  (names path).dropLast

end Folder

end ItemPipeline
