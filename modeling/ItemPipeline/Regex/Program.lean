import ItemPipeline.Regex.Size

/-!
Regular expressions as programs, run on a text by following all threads at once. Of two threads the
first wins, so the match is the leftmost one, and of those the one that a search in the order of the
alternatives finds first.
-/

namespace ItemPipeline.Regex

open Unicode (CharSet)

inductive Instr
  | accept
  | chars (s : CharSet) (next : Nat)
  | look (l : Look) (next : Nat)
  | save (slot : Nat) (next : Nat)
  | fork (ways : List Nat)
deriving Repr, Inhabited

abbrev Code := Array Instr

def emit (i : Instr) (code : Code) : Nat × Code :=
  (code.size, code.push i)

def ways (greedy : Bool) (enter leave : Nat) : Instr :=
  .fork (if greedy then [enter, leave] else [leave, enter])

def emitPlus (body : Nat → Code → Nat × Code) (greedy : Bool) (next : Nat) (code : Code) : Nat × Code :=
  let loop := code.size
  let (enter, code) := body loop (code.push (.fork []))
  (enter, code.setIfInBounds loop (ways greedy enter next))

/-- Any number of runs. A body that can be empty is run once before the choice is repeated. -/
def emitStar (body : Nat → Code → Nat × Code) (nullable greedy : Bool) (next : Nat) (code : Code) :
    Nat × Code :=
  if nullable then
    let (enter, code) := emitPlus body greedy next code
    emit (ways greedy enter next) code
  else
    let loop := code.size
    let (enter, code) := body loop (code.push (.fork []))
    (loop, code.setIfInBounds loop (ways greedy enter next))

def emitTimes (body : Nat → Code → Nat × Code) : Nat → Nat → Code → Nat × Code
  | 0, next, code => (next, code)
  | n + 1, next, code =>
    let (rest, code) := emitTimes body n next code
    body rest code

def emitUpTo (body : Nat → Code → Nat × Code) (greedy : Bool) (next : Nat) : Nat → Code → Nat × Code
  | 0, code => (next, code)
  | n + 1, code =>
    let (rest, code) := emitUpTo body greedy next n code
    let (enter, code) := body rest code
    emit (ways greedy enter next) code

def compile : Regex → Nat → Code → Nat × Code
  | .empty, next, code => (next, code)
  | .look l, next, code => emit (.look l next) code
  | .chars s, next, code => emit (.chars s next) code
  | .capture i r, next, code =>
    let (close, code) := emit (.save (2 * i + 1) next) code
    let (enter, code) := compile r close code
    emit (.save (2 * i) enter) code
  | .seq r s, next, code =>
    let (mid, code) := compile s next code
    compile r mid code
  | .alt r s, next, code =>
    let (a, code) := compile r next code
    let (b, code) := compile s next code
    emit (.fork [a, b]) code
  | .repetition a b greedy r, next, code =>
    match b with
    | some b =>
      let (rest, code) := emitUpTo (compile r) greedy next (b - a) code
      emitTimes (compile r) a rest code
    | none =>
      if a = 0 then emitStar (compile r) r.nullable greedy next code
      else
        let (rest, code) := emitPlus (compile r) greedy next code
        emitTimes (compile r) (a - 1) rest code

structure Program where
  code : Code
  start : Nat
  groups : Nat
deriving Repr

def Program.ofRegex (r : Regex) (groups : Nat) : Program :=
  let (start, code) := compile (.capture 0 r) 0 #[.accept]
  ⟨code, start, groups⟩

def isWord (unicode : Bool) : Option Char → Bool
  | none => false
  | some c => if unicode then Unicode.isWordChar c else Unicode.asciiWordSet.contains c.toNat

def Look.holds (l : Look) (before after : Option Char) : Bool :=
  match l with
  | textStart => before.isNone
  | textEnd => after.isNone
  | lineStart => before.isNone || before == some '\n'
  | lineEnd => after.isNone || after == some '\n'
  | crlfLineStart => before.isNone || before == some '\n' || (before == some '\r' && after != some '\n')
  | crlfLineEnd => after.isNone || after == some '\r' || (after == some '\n' && before != some '\r')
  | word u k =>
    let b := isWord u before
    let a := isWord u after
    match k with
    | .wordBoundary => b != a
    | .noWordBoundary => b == a
    | .wordStart => !b && a
    | .wordEnd => b && !a
    | .wordStartHalf => !b
    | .wordEndHalf => !a
    | _ => false

abbrev Slots := Array (Option Nat)

structure Thread where
  pc : Nat
  slots : Slots
deriving Inhabited

structure Threads where
  list : Array Thread := #[]
  seen : Array Bool

def follow (code : Code) (pos : Nat) (before after : Option Char) (stack : List Thread) (ts : Threads) :
    Nat → Threads
  | 0 => ts
  | fuel + 1 =>
    match stack with
    | [] => ts
    | t :: stack =>
      if ts.seen.getD t.pc true then follow code pos before after stack ts fuel
      else
        let ts := { ts with seen := ts.seen.setIfInBounds t.pc true }
        match code.getD t.pc .accept with
        | .look l next =>
          if l.holds before after then follow code pos before after (⟨next, t.slots⟩ :: stack) ts fuel
          else follow code pos before after stack ts fuel
        | .save k next =>
          follow code pos before after (⟨next, t.slots.setIfInBounds k (some pos)⟩ :: stack) ts fuel
        | .fork l => follow code pos before after (l.map (⟨·, t.slots⟩) ++ stack) ts fuel
        | _ => follow code pos before after stack { ts with list := ts.list.push t } fuel

def followFuel (code : Code) : Nat :=
  3 * code.size + 3

def advance (code : Code) (c : Char) (pos : Nat) (after : Option Char) (ts : List Thread) (next : Threads) :
    Threads × Option Slots :=
  match ts with
  | [] => (next, none)
  | t :: r =>
    match code.getD t.pc .accept with
    | .chars s pc =>
      let next := if s.contains c.toNat
        then follow code (pos + 1) (some c) after [⟨pc, t.slots⟩] next (followFuel code) else next
      advance code c pos after r next
    | .accept => (next, some t.slots)
    | _ => advance code c pos after r next

def accepted (code : Code) (ts : Array Thread) : Option Slots :=
  (ts.find? fun t => match code.getD t.pc .accept with
    | .accept => true
    | _ => false).map (·.slots)

def withNewThread (p : Program) (before : Option Char) (pos : Nat) (after : Option Char) (best : Option Slots)
    (ts : Threads) : Threads :=
  if best.isNone then
    follow p.code pos before after [⟨p.start, Array.replicate (2 * (p.groups + 1)) none⟩] ts
      (followFuel p.code)
  else ts

def runFrom (p : Program) (before : Option Char) (pos : Nat) (ts : Threads) (best : Option Slots) :
    List Char → Option Slots
  | [] => accepted p.code (withNewThread p before pos none best ts).list <|> best
  | c :: r =>
    let ts := withNewThread p before pos (some c) best ts
    if ts.list.isEmpty ∧ best.isSome then best
    else
      let empty : Threads := ⟨#[], Array.replicate p.code.size false⟩
      let (next, hit) := advance p.code c pos r.head? ts.list.toList empty
      runFrom p (some c) (pos + 1) next (hit <|> best) r

def Program.run (p : Program) (s : List Char) : Option Slots :=
  runFrom p none 0 ⟨#[], Array.replicate p.code.size false⟩ none s

def Program.captures? (p : Program) (s : List Char) : Option (List (Option (List Char))) :=
  (p.run s).map fun slots =>
    (List.range (p.groups + 1)).map fun i =>
      match slots.getD (2 * i) none, slots.getD (2 * i + 1) none with
      | some a, some b => some ((s.drop a).take (b - a))
      | _, _ => none

def Program.isMatch (p : Program) (s : List Char) : Bool :=
  (p.run s).isSome

def build (text : String) : Except Error Program :=
  match parsePattern text with
  | .error e => .error (.malformed text e)
  | .ok (p, groups) =>
    match resolve {} p with
    | .error e => .error (.malformed text e)
    | .ok (r, _) =>
      if r.size > sizeLimit then .error .tooLarge else .ok (Program.ofRegex r groups)

end ItemPipeline.Regex
