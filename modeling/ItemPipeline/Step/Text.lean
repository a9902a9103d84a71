import ItemPipeline.Step.Fault

/-!
Steps on texts: trimming, substitution and validation by regular expressions, and replacement.
-/

namespace ItemPipeline.Step

def trimSet (params : String) : List Char :=
  if params = "" then [' ', '\t', '\r', '\n'] else params.toList

def trimWith (side : String) (cut : (Char → Bool) → List Char → List Char) (params : String) (v : Value) :
    Except Fault Value :=
  match v.toText with
  | .error u => .error (.trimming side params v.typeName (.unfit u))
  | .ok s => .ok (.text (String.ofList (cut (fun c => (trimSet params).contains c) s.toList)))

/-- A backslash and a digit in the template stand for the text of a group. -/
def substitute (groups : List (Option (List Char))) : List Char → List Char
  | [] => []
  | '\\' :: d :: r =>
    if Text.isDigit d then (groups[d.toNat - 48]?.join).getD [] ++ substitute groups r
    else '\\' :: substitute groups (d :: r)
  | c :: r => c :: substitute groups r

def buildRegex (pattern : String) : Except Fault Regex.Program :=
  (Regex.build pattern).mapError (.badRegex pattern)

def regexParams (params : String) : String × List Char :=
  let (a, b) := Text.twoLines params.toList
  (String.ofList a, b)

def regsub (params : String) (v : Value) : Except Fault Value :=
  let (pattern, template) := regexParams params
  let found : Except Fault (List Char) := do
    let s ← v.toText.mapError .unfit
    let p ← buildRegex pattern
    match p.captures? s.toList with
    | some groups => .ok (substitute groups template)
    | none => .error .noRegexMatch
  (found.map fun s => .text (String.ofList s)).mapError (.substituting pattern v.typeName)

def validateRegex (wanted : Bool) (params : String) (v : Value) : Except Fault Value := do
  let s ← v.toText.mapError .unfit
  let p ← buildRegex params
  if p.isMatch s.toList = wanted then .ok v
  else .error (if wanted then .notMatching params else .matching params)

def errorFieldRegex (params : String) (v : Value) : Except Fault Value := do
  let (pattern, template) := regexParams params
  let s ← v.toText.mapError .unfit
  let p ← buildRegex pattern
  match p.captures? s.toList with
  | some groups => .ok (.error (String.ofList (substitute groups template)))
  | none => .ok v

def unescape : List Char → List Char
  | [] => []
  | '\\' :: 'n' :: r => '\n' :: unescape r
  | '\\' :: 'r' :: r => '\r' :: unescape r
  | '\\' :: 't' :: r => '\t' :: unescape r
  | '\\' :: 's' :: r => ' ' :: unescape r
  | '\\' :: '\\' :: r => '\\' :: unescape r
  | '\\' :: c :: r => '\\' :: c :: unescape r
  | c :: r => c :: unescape r

def replace (params : String) (v : Value) : Except Fault Value :=
  let (a, b) := Text.twoLines params.toList
  let search := unescape a
  if search = [] then .error .emptySearch
  else match v.toText with
    | .error u => .error (.unfit u)
    | .ok s => .ok (.text (String.ofList (Text.replaceAll search (unescape b) s.toList)))

end ItemPipeline.Step
