import ItemPipeline.Toml.Error

/-!
Building tables from keys and headers. A table is defined once: a header may still define a table
that only stood above other headers, and dotted keys may add to tables that dotted keys made.
-/

namespace ItemPipeline.Toml

def names (l : List Key) : List String :=
  l.map (·.name)

/-- Changes the table that a path leads to. Tables missing on the way are made in this kind; of an
array of tables the last one is meant. -/
def alter (made : TableKind) (whole : List Key)
    (f : TableKind → Members → Except Fault Members) :
    List Key → TableKind → Members → Except Fault Members
  | [], k, m => f k m
  | p :: rest, _, m =>
    match m.get? p.name with
    | none => do
      let inner ← alter made whole f rest made []
      .ok (m ++ [(p, .table none made inner)])
    | some (.table s k inner) =>
      if k = .inline then .error (.notTable (names (whole.take (whole.length - rest.length))) "inline table")
      else if made = .dotted ∧ !k.isImplicit then .error (.duplicateKey p.name none)
      else do
        let inner ← alter made whole f rest k inner
        .ok (m.set p.name (.table s k inner))
    | some (.tables items) =>
      match items.getLast? with
      | some (.table s k inner) => do
        let inner ← alter made whole f rest k inner
        .ok (m.set p.name (.tables (items.dropLast ++ [.table s k inner])))
      | _ => .error (.duplicateKey p.name none)
    | some v => .error (.notTable (names (whole.take (whole.length - rest.length))) v.typeName)

def addMember (table : Option (List String)) (path : List Key) (key : Key) (v : Toml) (kind : TableKind)
    (m : Members) : Except Fault Members :=
  alter .dotted path (fun k inner =>
    if (k = .dotted) ≠ (path ≠ []) then .error (.duplicateKey key.name none)
    else if (inner.get? key.name).isSome then .error (.duplicateKey key.name table)
    else .ok (inner ++ [(key, v)])) path kind m

structure Draft where
  root : Members := []
  path : List Key := []
  inArray : Bool := false
  span : Span := ⟨0, 0⟩
  members : Members := []

namespace Draft

def place (d : Draft) : Option (List Key × Key) :=
  d.path.getLast?.map fun k => (d.path.dropLast, k)

def asTable (d : Draft) : Toml :=
  .table (some d.span) .header d.members

def join (d : Draft) (key : Key) (m : Members) : Except Fault Members :=
  if d.inArray then
    match m.get? key.name with
    | none => .ok (m ++ [(key, .tables [d.asTable])])
    | some (.tables items) => .ok (m.set key.name (.tables (items ++ [d.asTable])))
    | some _ => .error (.duplicateKey key.name (some (names d.path.dropLast)))
  else .ok (m ++ [(key, d.asTable)])

def close (d : Draft) : Except Fault Members :=
  match d.place with
  | none => .ok d.members
  | some (above, key) => alter .implied above (fun _ m => d.join key m) above .implied d.root

def opened (path : List Key) (inArray : Bool) (key : Key) (m : Members) : Except Fault (Members × Members) :=
  match m.get? key.name, inArray with
  | none, _ => .ok (m, [])
  | some (.tables _), true => .ok (m, [])
  | some (.table _ .implied inner), false => .ok (m.erase key.name, inner)
  | _, _ => .error (.duplicateKey key.name (some (names path.dropLast)))

def header (d : Draft) (path : List Key) (inArray : Bool) (span : Span) : Except Fault Draft := do
  let root ← d.close
  match path.getLast? with
  | none => .ok d
  | some key =>
    let above := path.dropLast
    let inner ← found path inArray key above root
    let root ← alter .implied above (fun _ m => (opened path inArray key m).map (·.1)) above .implied root
    .ok ⟨root, path, inArray, span, inner⟩
where
  found (path : List Key) (inArray : Bool) (key : Key) : List Key → Members → Except Fault Members
    | [], m => (opened path inArray key m).map (·.2)
    | p :: rest, m =>
      match m.get? p.name with
      | some (.table _ _ inner) => found path inArray key rest inner
      | some (.tables items) =>
        match items.getLast? with
        | some (.table _ _ inner) => found path inArray key rest inner
        | _ => .ok []
      | _ => .ok []

def add (d : Draft) (path : List Key) (key : Key) (v : Toml) : Except Fault Draft := do
  let m ← addMember (some (names d.path)) path key v .header d.members
  let stop := (v.span?.map (·.stop)).getD d.span.stop
  .ok { d with members := m, span := ⟨d.span.start, stop⟩ }

end Draft

end ItemPipeline.Toml
