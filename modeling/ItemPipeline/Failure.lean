/-!
Failures of the engine itself, as opposed to failures of a step, and the contexts around them.
-/

namespace ItemPipeline

inductive Failure
  | script (message : String)
  | config (message : String)
  | startup (message : String)
  | storage (message : String)
  | serialization (message : String)
  | context (context : String) (cause : Failure)
deriving Repr, DecidableEq

def Failure.message : Failure → String
  | script m => "Script error: " ++ m
  | config m => "Configuration error: " ++ m
  | startup m => "Startup error: " ++ m
  | storage m => "IO error: " ++ m
  | serialization m => "Serialization error: " ++ m
  | context c f => c ++ ": " ++ f.message

def Failure.chain : Failure → List String
  | context c f => (context c f).message :: f.chain
  | storage m => [(storage m).message, m]
  | f => [f.message]

def Failure.within (f : Failure) (context : String) : Failure :=
  .context context f

end ItemPipeline
