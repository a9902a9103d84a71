import ItemPipeline.Toml.Number
import ItemPipeline.Toml.Tree

/-!
Reading a document: values of all kinds, members on lines of their own, and headers.
-/

namespace ItemPipeline.Toml

namespace Reader

def ofPath (start : Cursor) (l : List Key) : Reader (List Key × Key) :=
  match l.getLast? with
  | some k => pure (l.dropLast, k)
  | none => do
    set start
    malformed "key"

def equals : Reader Unit := do
  if !(← eat "=") then expected ["\x60.\x60", "\x60=\x60"]

def word (w : String) (v : Span → Toml) : Reader Toml := do
  let start ← here
  if ← eat w then pure (v ⟨start, ← here⟩)
  else noValue
where
  noValue : Reader Toml :=
    malformed "string" ["\x60\"\x60", "\x60'\x60"]

def strings (start : Nat) : Reader Toml := do
  let s ← string false
  pure (.text ⟨start, ← here⟩ s)

def inlineMembers (pairs : List ((List Key × Key) × Toml)) : Except Fault Members :=
  pairs.foldlM (fun m p => addMember none p.1.1 p.1.2 p.2 .inline m) []

mutual

def value (depth : Nat) : Nat → Reader Toml
  | 0 => fail .tooDeep
  | fuel + 1 => do
    let start ← here
    match (← rest) with
    | '"' :: _ => strings start
    | '\'' :: _ => strings start
    | '[' :: _ =>
      if depth = 0 then fail .tooDeep
      else
        skip 1
        gaps
        let items ← arrayItems (depth - 1) [] fuel
        pure (.array ⟨start, ← here⟩ items)
    | '{' :: _ =>
      if depth = 0 then fail .tooDeep
      else
        let open_ ← get
        skip 1
        space
        let pairs ← if ← eat "\x7d" then pure [] else tablePairs (depth - 1) [] fuel
        let stop ← get
        let m ← check open_ (inlineMembers pairs)
        set stop
        pure (.table (some ⟨start, stop.location⟩) .inline m)
    | 't' :: _ => word "true" fun s => .boolean s true
    | 'f' :: _ => word "false" fun s => .boolean s false
    | 'i' :: _ => word "inf" fun s => .float s (1.0 / 0.0)
    | 'n' :: _ => word "nan" fun s => .float s (0.0 / 0.0)
    | c :: _ => if Text.isDigit c || c == '+' || c == '-' then number else word.noValue
    | [] => word.noValue

def arrayItems (depth : Nat) (acc : List Toml) : Nat → Reader (List Toml)
  | 0 => fail .tooDeep
  | fuel + 1 => do
    if ← eat "]" then pure acc.reverse
    else
      let v ← value depth fuel
      gaps
      if ← eat "," then
        gaps
        arrayItems depth (v :: acc) fuel
      else if ← eat "]" then pure (v :: acc).reverse
      else malformed "array" ["\x60]\x60"]

def tablePairs (depth : Nat) (acc : List ((List Key × Key) × Toml)) : Nat → Reader (List ((List Key × Key) × Toml))
  | 0 => fail .tooDeep
  | fuel + 1 => do
    let start ← get
    let k ← ofPath start (← key)
    equals
    space
    let v ← value depth fuel
    space
    let acc := (k, v) :: acc
    if ← eat "," then tablePairs depth acc fuel
    else if ← eat "\x7d" then pure acc.reverse
    else malformed "inline table" ["\x60\x7d\x60"]

end

def memberValue : Reader Toml := do
  space
  let v ← value depthLimit.pred ((← rest).length + 4 * depthLimit)
  lineEnd none
  pure v

def member (d : Draft) : Reader Draft := do
  let start ← get
  let (path, k) ← ofPath start (← key)
  equals
  let v ← memberValue
  let stop ← get
  let d ← check start (d.add path k v)
  set stop
  pure d

def header (d : Draft) : Reader Draft := do
  let start ← get
  let isArray ← looking "[["
  let mark := if isArray then "]]" else "]"
  skip mark.length
  let path ← key
  if !(← eat mark) then malformed "table header" ["\x60.\x60", Text.ticked mark]
  let stop ← here
  lineEnd (some "table header")
  let after ← get
  let d ← check start (d.header path isArray ⟨start.location, stop⟩)
  set after
  pure d

def lines (d : Draft) : Nat → Reader Draft
  | 0 => pure d
  | fuel + 1 => do
    space
    match (← rest) with
    | [] => pure d
    | '#' :: _ =>
      lineEnd (some "comment")
      lines d fuel
    | '[' :: _ => lines (← header d) fuel
    | '\n' :: _ =>
      skip 1
      lines d fuel
    | '\r' :: _ =>
      lineEnd none
      lines d fuel
    | _ => lines (← member d) fuel

def document : Reader Members := do
  let _ ← eat "\ufeff"
  let start ← get
  let d ← lines {} ((← rest).length + 1)
  check start d.close

end Reader

def parse (text : String) : Except Error Members :=
  (Reader.document.run ⟨text.toList, 0⟩).map (·.1)

end ItemPipeline.Toml
