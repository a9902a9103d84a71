import ItemPipeline.Exposition.Token

/-!
Patterns that select samples by metric name, labels and value.
-/

namespace ItemPipeline.Exposition

inductive Test
  | equal (v : String)
  | notEqual (v : String)
  | like (p : Regex.Program)
  | unlike (p : Regex.Program)

structure Matcher where
  label : String
  test : Test

structure Pattern where
  name : Option String
  matchers : List Matcher
  value : Option Float

def Test.holds (t : Test) (v : String) : Bool :=
  match t with
  | equal w => v == w
  | notEqual w => v != w
  | .like p => p.isMatch v.toList
  | unlike p => !p.isMatch v.toList

def Matcher.holds (m : Matcher) (s : Sample) : Bool :=
  m.test.holds ((s.label? m.label).getD "")

/-- Equality of values, where the undefined number equals itself. -/
def sameFloat (wanted x : Float) : Bool :=
  if wanted.isNaN then x.isNaN else x == wanted

def Pattern.holds (p : Pattern) (s : Sample) : Bool :=
  p.name.all (s.name == ·) && p.value.all (sameFloat · s.value) && p.matchers.all (·.holds s)

def anchored (pattern : String) : Except Fault Regex.Program :=
  match Regex.build s!"^(?:{pattern})$" with
  | .ok p => .ok p
  | .error e => .error (.badRegex pattern e)

def LabelTest.toMatcher (l : LabelTest) : Except Fault Matcher :=
  match l.op with
  | .equal => .ok ⟨l.label, .equal l.value⟩
  | .notEqual => .ok ⟨l.label, .notEqual l.value⟩
  | .like => (anchored l.value).map fun p => ⟨l.label, .like p⟩
  | .unlike => (anchored l.value).map fun p => ⟨l.label, .unlike p⟩

def toMatchers : List LabelTest → Except Fault (List Matcher)
  | [] => .ok []
  | l :: r => do
    let m ← l.toMatcher
    (toMatchers r).map (m :: ·)

def readCondition (s : List Char) : Except Fault (Option Float × List Char) :=
  match s with
  | '=' :: '=' :: r =>
    let (token, r) := readToken (skipBlanks r)
    (readValue token).map fun x => (some x, r)
  | s => .ok (none, s)

def Pattern.parse (text : String) : Except Fault Pattern := do
  let s := skipBlanks text.toList
  let (name, s) := match readName? s with
    | some (n, r) => (some (String.ofList n), r)
    | none => (none, s)
  let (tests, s) ← readBlock (skipBlanks s)
  let matchers ← toMatchers tests
  let (value, s) ← readCondition (skipBlanks s)
  if skipBlanks s = [] ∧ (name.isSome ∨ !matchers.isEmpty) then .ok ⟨name, matchers, value⟩
  else .error (.badPattern text)

end ItemPipeline.Exposition
