import ItemPipeline.Command.Arguments
import ItemPipeline.Config.Storage

/-!
The configuration that a run works with, and the report of a failure that ends the run.
-/

namespace ItemPipeline.Command

inductive Source
  | given (path : String)
  | standard (path : String)
  | nowhere
deriving Repr, DecidableEq

namespace Source

def path? : Source → Option String
  | given p => some p
  | standard p => some p
  | nowhere => none

def standardFor (home settings : Option String) : Source :=
  let name := "preproc-rs/preprocessor.toml"
  match settings.filter fun s => s.startsWith "/" with
  | some s => standard (s ++ "/" ++ name)
  | none =>
    match home.filter fun h => h ≠ "" with
    | some h => standard (h ++ "/.config/" ++ name)
    | none => nowhere

end Source

abbrev Report := List String

namespace Report

def indent (mark rest : String) (s : String) : String :=
  mark ++ String.intercalate ("\n" ++ rest) (s.splitOn "\n")

def causes : List String → List String
  | [] => []
  | [c] => [indent "    " "    " c]
  | l => l.zipIdx.map fun (c, n) => indent (String.join ["    ", toString n, ": "]) "       " c

def text : Report → String
  | [] => ""
  | [e] => String.join ["Error: ", e, "\n"]
  | e :: l => String.join ["Error: ", e, "\n\nCaused by:\n", String.intercalate "\n" (causes l), "\n"]

end Report

namespace Arguments

def source (a : Arguments) (home settings : Option String) : Source :=
  match a.config with
  | some p => .given p
  | none => .standardFor home settings

def found (s : Source) (content : Except String String) : Except Report Config :=
  match s with
  | .given p => (Config.ofFile p content).mapError fun f => ("Failed to load configuration " ++ p) :: f.chain
  | .standard p => .ok ((Config.ofFile p content).toOption.getD {})
  | .nowhere => .ok {}

def namesFile (path : String) : Bool :=
  match (path.splitOn "/").filter fun n => n ≠ "" with
  | ["."] => false
  | l => match (l.filter fun n => n ≠ ".").getLast? with
    | none => false
    | some n => n ≠ ".."

def settings (a : Arguments) (s : Source) (content : Except String String) : Except Report Config := do
  let c ← found s content
  let m := { c.manager with
    workers := a.workers.getD c.manager.workers
    logFile := a.logFile <|> c.manager.logFile }
  m.check.mapError fun e => (Failure.config e.message).chain
  match m.logFile.filter fun p => !namesFile p with
  | some p => .error ["Invalid log file path " ++ p]
  | none => .ok { c with manager := m }

end Arguments

end ItemPipeline.Command
