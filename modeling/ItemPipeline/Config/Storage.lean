import ItemPipeline.Config.Reading
import ItemPipeline.Config.Writing
import ItemPipeline.Folder

/-!
Configurations in files. `shown` is the path as messages give it.
-/

namespace ItemPipeline.Config

def ofFile (shown : String) : Except String String → Except Failure Config
  | .error e =>
    .error ((Failure.storage e).within ("Failed to read configuration " ++ Unicode.quoted '"' shown.toList))
  | .ok text => (parse text).mapError fun f => f.within ("in " ++ shown)

def load (t : Folder) (path shown : String) : Except Failure Config :=
  ofFile shown ((t.read path).mapError StorageFault.message)

def loadOrDefault (t : Folder) (path shown : String) : Config :=
  (load t path shown).toOption.getD {}

def save (c : Config) (t : Folder) (path shown : String) : Except Failure Folder := do
  let t ← (t.makeFolders (Folder.parent path)).mapError fun e =>
    (Failure.storage e.message).within "Failed to create configuration directory"
  let text ← c.write
  (t.write path text).mapError fun e =>
    (Failure.storage e.message).within ("Failed to write configuration " ++ Unicode.quoted '"' shown.toList)

end ItemPipeline.Config
