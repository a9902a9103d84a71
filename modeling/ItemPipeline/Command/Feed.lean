import ItemPipeline.Config.Check
import ItemPipeline.Manager.Session

/-!
Values from lines of input and results as lines of output. An input line holds the id of an item and
the value after the first blank; empty lines, comments and lines without an id are passed over.
-/

namespace ItemPipeline.Command

structure Feed where
  session : Session
  mode : SinkMode

namespace Feed

def start (c : Config) : Except Failure Feed := do
  let s ← Session.start c.manager
  let m := c.items.foldl (fun m i => (m.addItem i.id i.host i.rules).2) s.manager
  pure ⟨{ s with manager := m }, c.manager.sinkMode⟩

def parseLine (line : List Char) : Option (UInt64 × Value) :=
  let id := line.takeWhile fun c => !Text.isBlank c
  (Text.uint64? 10 id).map fun i =>
    match line.dropWhile fun c => !Text.isBlank c with
    | [] => (i, .none)
    | _ :: v => (i, .text (String.ofList v))

def write (v : FlushedValue) : String :=
  String.intercalate "\t" [toString v.item.toNat, v.value.typeName, v.value.display]

def deliver (mode : SinkMode) (o : List Output) : List String :=
  let l := o.filterMap fun x => x.toFlushed.bind mode.route
  l.filterMap (fun d => d.toHistory.map write) ++ l.filterMap fun d => d.toDiscovery.map fun v => "lld\t" ++ write v

def line (f : Feed) (now : Timestamp) (s : String) : List String × Feed :=
  let l := Text.trimEnd Text.isBlank s.toList
  if l = [] ∨ l.head? = some '#' then ([], f)
  else
    let (_, s) := f.session.call fun m =>
      match parseLine l with
      | some (i, v) => m.enqueue i v now {}
      | none => (false, m)
    let ((_, o), s) := s.drain s.manager.batchSize
    (deliver f.mode o, { f with session := s })

def finish (f : Feed) : List String :=
  f.session.finish.1.flatMap (deliver f.mode)

end Feed

end ItemPipeline.Command
