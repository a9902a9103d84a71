import ItemPipeline.Text.Digits

/-!
The command line: at most one configuration file, the number of workers, and a log file. What is not
given there may come from the environment.
-/

namespace ItemPipeline.Command

inductive UsageFault
  | unknown (argument : String)
  | extra (argument : String)
  | repeated (option : String)
  | noValue (option : String)
  | badNumber (text : String)
  | emptyPath
deriving Repr, DecidableEq

def UsageFault.message : UsageFault → String
  | unknown a => s!"unexpected argument {a}"
  | extra a => s!"unexpected argument {a}"
  | repeated o => s!"option {o} is given more than once"
  | noValue o => s!"option {o} needs a value"
  | badNumber t => s!"not a number of workers: {t}"
  | emptyPath => "a path is empty"

structure Given where
  config : Option String := none
  workers : Option String := none
  logFile : Option String := none
deriving Repr, DecidableEq

namespace Given

def setOnce (option : String) (old : Option String) (v : String) : Except UsageFault (Option String) :=
  if old.isSome then .error (.repeated option) else .ok (some v)

def setConfig (g : Given) (v : String) : Except UsageFault Given :=
  if g.config.isSome then .error (.extra v) else .ok { g with config := some v }

def setWorkers (g : Given) (v : String) : Except UsageFault Given := do
  .ok { g with workers := ← setOnce "--workers" g.workers v }

def setLogFile (g : Given) (v : String) : Except UsageFault Given := do
  .ok { g with logFile := ← setOnce "--log-file" g.logFile v }

def isOption (a : String) : Bool :=
  a.startsWith "-" && a ≠ "-"

def joined? (option a : String) : Option String :=
  if a.startsWith option then some (a.drop option.length).toString else none

def paths (g : Given) (l : List String) : Except UsageFault Given :=
  l.foldlM setConfig g

def read (g : Given) : List String → Except UsageFault Given
  | [] => .ok g
  | "--" :: rest => g.paths rest
  | [a] => one g a
  | a :: v :: rest =>
    if a = "-w" ∨ a = "--workers" then
      if isOption v then .error (.noValue a) else do (← g.setWorkers v).read rest
    else if a = "--log-file" then
      if isOption v then .error (.noValue a) else do (← g.setLogFile v).read rest
    else do (← one g a).read (v :: rest)
where
  one (g : Given) (a : String) : Except UsageFault Given :=
    match joined? "--workers=" a, joined? "--log-file=" a, joined? "-w" a with
    | some v, _, _ => g.setWorkers v
    | _, some v, _ => g.setLogFile v
    | _, _, some v =>
      if v = "" then .error (.noValue a) else g.setWorkers (if v.startsWith "=" then (v.drop 1).toString else v)
    | _, _, _ =>
      if a = "--workers" ∨ a = "--log-file" then .error (.noValue a)
      else if isOption a then .error (.unknown a)
      else g.setConfig a

end Given

structure Arguments where
  config : Option String := none
  workers : Option UInt64 := none
  logFile : Option String := none
deriving Repr, DecidableEq

namespace Arguments

def number (s : String) : Except UsageFault UInt64 :=
  match Text.uint64? 10 s.toList with
  | some n => .ok n
  | none => .error (.badNumber s)

def path (s : String) : Except UsageFault String :=
  if s = "" then .error .emptyPath else .ok s

def read (l : List String) (workers logFile : Option String) : Except UsageFault Arguments := do
  let g ← Given.read {} l
  pure {
    config := ← g.config.mapM path
    workers := ← (g.workers <|> workers).mapM number
    logFile := ← (g.logFile <|> logFile).mapM path }

end Arguments

end ItemPipeline.Command
