import ItemPipeline.Command.Feed
import ItemPipeline.Command.Settings

/-!
The program: reads the configuration, then values from standard input, and prints what comes out of
the pipeline.
-/

namespace ItemPipeline.Command

def describeFault : IO.Error → String
  | .noFileOrDirectory _ code text => s!"{text} (os error {code})"
  | .permissionDenied _ code text => s!"{text} (os error {code})"
  | .inappropriateType _ code text => s!"{text} (os error {code})"
  | .userError _ => "stream did not contain valid UTF-8"
  | e => toString e

def readText (path : Option String) : IO (Except String String) := do
  match path with
  | none => pure (.ok "")
  | some p =>
    try
      pure (.ok (← IO.FS.readFile p))
    catch e => pure (.error (describeFault e))

def now : IO Timestamp := do
  pure ⟨(← IO.monoNanosNow)⟩

def printAll (out : IO.FS.Stream) (l : List String) : IO Unit := do
  for s in l do
    out.putStr (s ++ "\n")
  out.flush

partial def feedAll (input out : IO.FS.Stream) (f : Feed) : IO Feed := do
  let s ← input.getLine
  if s = "" then pure f
  else
    let (l, f) := f.line (← now) s
    printAll out l
    feedAll input out f

def run (c : Config) : IO UInt32 := do
  match Feed.start c with
  | .error e =>
    (← IO.getStderr).putStr (Report.text ("Failed to start preprocessing" :: e.chain))
    pure 1
  | .ok f =>
    let out ← IO.getStdout
    let f ← feedAll (← IO.getStdin) out f
    printAll out f.finish
    pure 0

end ItemPipeline.Command

open ItemPipeline.Command in
def main (args : List String) : IO UInt32 := do
  match Arguments.read args (← IO.getEnv "PREPROC_WORKERS") (← IO.getEnv "PREPROC_LOG_FILE") with
  | .error e =>
    IO.eprintln (String.join ["error: ", e.message])
    pure 2
  | .ok a =>
    let s := a.source (← IO.getEnv "HOME") (← IO.getEnv "XDG_CONFIG_HOME")
    match a.settings s (← readText s.path?) with
    | .error r =>
      (← IO.getStderr).putStr (Report.text r)
      pure 1
    | .ok c => run c
