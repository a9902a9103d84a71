import ItemPipeline.Toml.Reader

/-!
Numbers, dates and times. Single underscores may stand between digits.
-/

namespace ItemPipeline.Toml.Reader

def grouped (p : Char → Bool) : List Char → List Char × List Char × Bool
  | [] => ([], [], false)
  | '_' :: c :: r =>
    if p c then
      let (d, l, bad) := grouped p r
      (c :: d, l, bad)
    else ([], '_' :: c :: r, true)
  | c :: r =>
    if p c then
      let (d, l, bad) := grouped p r
      (c :: d, l, bad)
    else ([], c :: r, c == '_')

def digits (what : String) (p : Char → Bool) : Reader (List Char) := do
  match (← rest) with
  | c :: r =>
    if p c then
      let (d, l, bad) := grouped p r
      advanceTo l
      if bad then
        skip 1
        malformed what
      pure (c :: d)
    else malformed what
  | [] => malformed what

def inRadix (base : Nat) (c : Char) : Bool :=
  (Text.digit? base c).isSome

def fit (i : Int) : Except Fault Int :=
  if -Int.pow 2 63 ≤ i ∧ i < Int.pow 2 63 then .ok i else .error .numberTooLarge

def radixInteger (what : String) (base : Nat) : Reader Int := do
  let start ← get
  skip 2
  let d ← digits what (inRadix base)
  check start (fit ((Text.digits? base d).getD 0))

def wholeDigits : Reader (List Char) := do
  match (← rest) with
  | '0' :: _ =>
    skip 1
    pure ['0']
  | _ => digits "integer" Text.isDigit

def sign : Reader (List Char) := do
  if ← eat "-" then pure ['-']
  else
    let _ ← eat "+"
    pure []

def exponent : Reader (List Char) := do
  if (← eat "e") || (← eat "E") then
    let s ← sign
    let d ← digits "floating-point number" Text.isDigit
    pure ('e' :: s ++ d)
  else pure []

def fraction : Reader (List Char) := do
  if ← eat "." then
    let d ← digits "floating-point number" Text.isDigit
    pure ('.' :: d)
  else pure []

def decimal : Reader (Int ⊕ Float) := do
  let start ← get
  let s ← sign
  if ← eat "inf" then pure (.inr (if s = [] then 1.0 / 0.0 else -1.0 / 0.0))
  else if ← eat "nan" then pure (.inr (0.0 / 0.0))
  else
    let w ← wholeDigits
    let f ← fraction
    let e ← exponent
    if f = [] ∧ e = [] then
      let n : Int := (Text.digits? 10 w).getD 0
      pure (.inl (← check start (fit (if s = [] then n else -n))))
    else
      let x := (readFloat? (s ++ w ++ f ++ e)).getD 0
      if x.isInf && x > 0 then
        set start
        malformed "floating-point number"
      pure (.inr x)

def field (width low high : Nat) : Reader Nat := do
  let d := (← rest).take width
  if d.length = width ∧ d.all Text.isDigit then
    let n := (Text.digits? 10 d).getD 0
    if low ≤ n ∧ n ≤ high then
      skip width
      pure n
    else malformed "date-time"
  else malformed "date-time"

def mark (c : String) : Reader Unit := do
  if !(← eat c) then malformed "date-time"

def fieldBefore (width : Nat) (c : Char) : Reader Bool := do
  let l ← rest
  pure ((l.take width).length = width && (l.take width).all Text.isDigit && l[width]? == some c)

def isLeap (year : Nat) : Bool :=
  year % 4 == 0 && (year % 100 != 0 || year % 400 == 0)

def monthDays (year month : Nat) : Nat :=
  if month = 2 then (if isLeap year then 29 else 28)
  else if month = 4 ∨ month = 6 ∨ month = 9 ∨ month = 11 then 30
  else 31

def time : Reader Unit := do
  let _ ← field 2 0 23
  mark ":"
  let _ ← field 2 0 59
  mark ":"
  let _ ← field 2 0 60
  if ← eat "." then
    if ((← rest).takeWhile Text.isDigit) = [] then malformed "date-time"
    skipWhile Text.isDigit

def offset : Reader Unit := do
  if (← eat "Z") || (← eat "z") then pure ()
  else if (← eat "+") || (← eat "-") then
    let _ ← field 2 0 23
    mark ":"
    let _ ← field 2 0 59

def date : Reader Unit := do
  let y ← field 4 0 9999
  mark "-"
  let m ← field 2 1 12
  mark "-"
  let _ ← field 2 1 (monthDays y m)

def moment : Reader Unit := do
  if ← fieldBefore 4 '-' then
    date
    let s ← get
    if (← eat "T") || (← eat "t") || (← eat " ") then
      if ← fieldBefore 2 ':' then
        time
        offset
      else set s
  else time

def number : Reader Toml := do
  let start ← here
  if (← fieldBefore 4 '-') || (← fieldBefore 2 ':') then
    moment
    pure (.moment ⟨start, ← here⟩)
  else if ← looking "0x" then
    let i ← radixInteger "hexadecimal integer" 16
    pure (.integer ⟨start, ← here⟩ i)
  else if ← looking "0o" then
    let i ← radixInteger "octal integer" 8
    pure (.integer ⟨start, ← here⟩ i)
  else if ← looking "0b" then
    let i ← radixInteger "binary integer" 2
    pure (.integer ⟨start, ← here⟩ i)
  else
    match ← decimal with
    | .inl i => pure (.integer ⟨start, ← here⟩ i)
    | .inr x => pure (.float ⟨start, ← here⟩ x)

end ItemPipeline.Toml.Reader
