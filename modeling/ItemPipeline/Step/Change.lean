import ItemPipeline.Step.Fault
import ItemPipeline.Step.History

/-!
Steps that compare a value with the one before it: differences, rates and throttling.
-/

namespace ItemPipeline.Step

def isLess : Value → Value → Bool
  | .uint64 a, .uint64 b => a < b
  | a, b =>
    match a.toFloat?, b.toFloat? with
    | some x, some y => x < y
    | _, _ => false

def difference : Value → Value → Value
  | .uint64 a, .uint64 b => .uint64 (a - b)
  | a, b => .double (a.toFloat?.getD 0 - b.toFloat?.getD 0)

def perSecond (t : ValueType) (d : Value) (seconds : Float) : Value :=
  let speed := d.toFloat?.getD 0 / seconds
  if t = .uint64 then .uint64 speed.toUInt64 else .double speed

/-- The change since the memory, or its rate; nothing without a memory and after a reset. -/
def change (speed : Bool) (t : ValueType) (now : Timestamp) (current : Value) (typeName kind : String) :
    Option Memory → Except Fault Value
  | none => .ok .none
  | some m =>
    if isLess current m.value then .ok .none
    else
      let d := difference current m.value
      if !speed then .ok d
      else
        let seconds := Float.ofInt (now.elapsedWord m.time) / 1e9
        if seconds < 0 then .ok .none
        else if seconds == 0 then .error (.differencing kind typeName .sameInstant)
        else .ok (perSecond t d seconds)

def delta (speed : Bool) (t : ValueType) (now : Timestamp) (m : Option Memory) (v : Value) :
    Except Fault Value × Option Memory :=
  let kind := if speed then "speed per second" else "simple change"
  match v.toNumber t with
  | .error u => (.error (.differencing kind v.typeName (.unfit u)), m)
  | .ok n => (change speed t now n v.typeName kind m, some ⟨n, now⟩)

def throttle (now : Timestamp) (m : Option Memory) (v : Value) : Except Fault Value × Option Memory :=
  if m.any fun m => m.value.same v then (.ok .none, m) else (.ok v, some ⟨v, now⟩)

def periodUnit? : Char → Option Int
  | 's' => some 1
  | 'm' => some 60
  | 'h' => some 3600
  | 'd' => some 86400
  | 'w' => some 604800
  | _ => none

def parsePeriod? (s : List Char) : Option Int :=
  let t := Text.trimBlanks s
  match t.getLast? with
  | none => none
  | some c =>
    let (digits, unit) := match periodUnit? c with
      | some u => (t.dropLast, u)
      | none => (t, 1)
    (Text.int64? digits).bind fun n =>
      let p := n * unit
      if -Int.pow 2 63 ≤ p ∧ p < Int.pow 2 63 then some p else none

def throttleTimed (now : Timestamp) (params : String) (m : Option Memory) (v : Value) :
    Except Fault Value × Option Memory :=
  match (parsePeriod? params.toList).filter (0 < ·) with
  | none => (.error (.badPeriod params), m)
  | some p =>
    if m.any fun m => m.value.same v && now.elapsedSeconds m.time < p then (.ok .none, m)
    else (.ok v, some ⟨v, now⟩)

end ItemPipeline.Step
