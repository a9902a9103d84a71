import ItemPipeline.Exposition.Token
import ItemPipeline.Text.Cut

/-!
Reading a payload line by line: samples, and comments with help and type texts.
-/

namespace ItemPipeline.Exposition

def plainLabels : List LabelTest → Except Fault (List (String × String))
  | [] => .ok []
  | l :: r =>
    if l.op = .equal then (plainLabels r).map ((l.label, l.value) :: ·) else .error (.unexpectedOperator l.op)

def parseSample (line : List Char) : Except Fault Sample :=
  match readName? line with
  | none => .error .metricName
  | some (name, s) => do
    let (tests, s) ← readBlock s
    let labels ← plainLabels tests
    let (token, _) := readToken (skipBlanks s)
    let value ← readValue token
    .ok ⟨String.ofList name, labels, value, String.ofList token, String.ofList line⟩

def cutBlank (s : List Char) : List Char × Option (List Char) :=
  let (a, r) := readToken s
  (a, match r with
    | [] => none
    | _ :: t => some t)

def parseComment (s : List Char) : Payload :=
  let (kind, r) := cutBlank s
  match r with
  | none => {}
  | some r =>
    let (name, r) := cutBlank r
    let entry := (String.ofList name, String.ofList (Text.trimBlanks (r.getD [])))
    if kind = "HELP".toList then { help := [entry] }
    else if kind = "TYPE".toList then { types := [entry] }
    else {}

def parseLine (line : List Char) : Except Fault Payload :=
  match Text.trimBlanks line with
  | [] => .ok {}
  | '#' :: r => .ok (parseComment (skipBlanks r))
  | s => (parseSample s).map fun x => { samples := [x] }

def parseLines (n : Nat) : List (List Char) → Except LineFault Payload
  | [] => .ok {}
  | l :: r =>
    match parseLine l with
    | .error f => .error ⟨n, f⟩
    | .ok p => (parseLines (n + 1) r).map p.append

def parse (text : String) : Except LineFault Payload :=
  parseLines 1 (Text.lines text.toList)

end ItemPipeline.Exposition
