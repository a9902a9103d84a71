import ItemPipeline.Toml.Tree
import Mathlib.Data.List.Basic
import Mathlib.Tactic.Lemma

/-!
What headers make of the tables read so far: a table of its own, one more in an array of tables, or one more in an array
of the last table of another.
-/

namespace ItemPipeline.Toml

variable {base m root inner ib : Members} {n : String} {k : Key} {v : Toml} {ts ss : List Toml} {d : Draft}

namespace Members

def Lacks (m : Members) (n : String) : Prop :=
  ∀ e ∈ m, e.1.name ≠ n

lemma Lacks.get? (lacks : m.Lacks n) : m.get? n = none := by
  simpa [Members.get?] using fun k v mem => lacks (k, v) mem

lemma Lacks.append {m' : Members} (lacks : m.Lacks n) (lacks' : m'.Lacks n) : (m ++ m').Lacks n := by
  intro e he
  exact (List.mem_append.1 he).elim (lacks e) (lacks' e)

lemma get?_last (lacks : base.Lacks n) (name : k.name = n) : (base ++ [(k, v)]).get? n = some v := by
  have none : base.find? (fun e => e.1.name == n) = none := by simpa using fun k v mem => lacks (k, v) mem
  simp [Members.get?, List.find?_append, none, name]

lemma set_last (lacks : base.Lacks n) (name : k.name = n) (w : Toml) :
    (base ++ [(k, v)]).set n w = base ++ [(k, w)] := by
  have same : base.map (fun e => if e.1.name = n then (e.1, w) else e) = base := by
    conv_rhs => rw [← List.map_id base]
    exact List.map_congr_left fun e he => if_neg (lacks e he)
  simp [Members.set, same, name]

end Members

def Tabled (base : Members) (n : String) (ts : List Toml) (m : Members) : Prop :=
  base.Lacks n ∧ ((ts = [] ∧ m = base) ∨ ∃ k, k.name = n ∧ m = base ++ [(k, .tables ts)])

namespace Tabled

lemma opened (tabled : Tabled base n ts m) (name : k.name = n) (path : List Key) :
    Draft.opened path true k m = .ok (m, []) := by
  obtain ⟨lacks, ⟨-, rfl⟩ | ⟨k', name', rfl⟩⟩ := tabled
  · simp only [Draft.opened, name, lacks.get?]
  · simp only [Draft.opened, name, Members.get?_last lacks name']

lemma join (tabled : Tabled base n ts m) (name : k.name = n) (array : d.inArray = true) :
    ∃ m', d.join k m = .ok m' ∧ Tabled base n (ts ++ [d.asTable]) m' := by
  obtain ⟨lacks, ⟨rfl, rfl⟩ | ⟨k', name', rfl⟩⟩ := tabled
  · refine ⟨m ++ [(k, .tables [d.asTable])], ?_, lacks, .inr ⟨k, name, rfl⟩⟩
    rw [Draft.join, if_pos array, name, lacks.get?]
  · refine ⟨base ++ [(k', .tables (ts ++ [d.asTable]))], ?_, lacks, .inr ⟨k', name', rfl⟩⟩
    rw [Draft.join, if_pos array, name, Members.get?_last lacks name']
    simp only [Members.set_last lacks name']

section Last

variable {span : Option Span} {kind : TableKind} (tabled : Tabled base n (ts ++ [.table span kind inner]) m)

include tabled

lemma get? : m.get? n = some (.tables (ts ++ [.table span kind inner])) := by
  obtain ⟨lacks, ⟨empty, -⟩ | ⟨k, name, rfl⟩⟩ := tabled
  · simp at empty
  · exact Members.get?_last lacks name

lemma set (inner' : Members) :
    Tabled base n (ts ++ [.table span kind inner']) (m.set n (.tables (ts ++ [.table span kind inner']))) := by
  obtain ⟨lacks, ⟨empty, -⟩ | ⟨k, name, rfl⟩⟩ := tabled
  · simp at empty
  · exact ⟨lacks, .inr ⟨k, name, Members.set_last lacks name _⟩⟩

lemma alter (name : k.name = n) {made outer : TableKind} {whole : List Key}
    {f : TableKind → Members → Except Fault Members} {inner' : Members} (goes : f kind inner = .ok inner') :
    ∃ m', Toml.alter made whole f [k] outer m = .ok m' ∧
      Tabled base n (ts ++ [.table span kind inner']) m' := by
  refine ⟨_, ?_, tabled.set inner'⟩
  rw [Toml.alter, name, tabled.get?]
  simp [Toml.alter, goes, bind, Except.bind]

end Last

end Tabled

namespace Draft

def gathered (d : Draft) (span : Span) (m : Members) : Draft :=
  { d with members := m, span := span }

/-- Whatever members a table still gets, where it ends it stands among the tables like this. -/
def Closes (d : Draft) (R : Toml → Members → Prop) : Prop :=
  ∀ span m, ∃ root, (d.gathered span m).close = .ok root ∧ R (.table (some span) .header m) root

/-- Where the tables so far are these, a header begins an empty table, which stands among them like this in the end. -/
def Opens (d : Draft) (names : List String) (array : Bool) (R : Toml → Members → Prop) : Prop :=
  ∀ path span, Toml.names path = names → ∃ d', d.header path array span = .ok d' ∧ d'.members = [] ∧ d'.Closes R

lemma opens_table (closed : d.close = .ok root) (lacks : root.Lacks n) :
    d.Opens [n] false fun t root' => ∃ k, k.name = n ∧ root' = root ++ [(k, t)] := by
  intro path span named
  obtain ⟨k, rfl, name⟩ : ∃ k, path = [k] ∧ k.name = n := by simpa [Toml.names, List.map_eq_cons_iff] using named
  refine ⟨⟨root, [k], false, span, []⟩, ?_, rfl, fun span m => ?_⟩
  · simp [header, closed, header.found, alter, opened, name, lacks.get?, bind, Except.bind, Except.map]
  · exact ⟨root ++ [(k, .table (some span) .header m)], rfl, k, name, rfl⟩

lemma opens_tables (closed : d.close = .ok root) (tabled : Tabled base n ts root) :
    d.Opens [n] true fun t root' => Tabled base n (ts ++ [t]) root' := by
  intro path span named
  obtain ⟨k, rfl, name⟩ : ∃ k, path = [k] ∧ k.name = n := by simpa [Toml.names, List.map_eq_cons_iff] using named
  refine ⟨⟨root, [k], true, span, []⟩, ?_, rfl, fun span m => ?_⟩
  · simp [header, closed, header.found, alter, tabled.opened name, bind, Except.bind, Except.map]
  · obtain ⟨root', joins, tabled⟩ := tabled.join (d := gathered ⟨root, [k], true, span, []⟩ span m) name rfl
    exact ⟨root', by simpa [close, place, gathered, alter] using joins, tabled⟩

lemma opens_inner {above : String} {span : Option Span} {kind : TableKind} (closed : d.close = .ok root)
    (tabled : Tabled base above (ts ++ [.table span kind inner]) root) (within : Tabled ib n ss inner) :
    d.Opens [above, n] true fun t root' => ∃ inner', Tabled base above (ts ++ [.table span kind inner']) root' ∧
      Tabled ib n (ss ++ [t]) inner' := by
  intro path at' named
  obtain ⟨a, rest, rfl, name, k, rfl, name'⟩ :
      ∃ a rest, path = a :: rest ∧ a.name = above ∧ ∃ k, rest = [k] ∧ k.name = n := by
    simpa [Toml.names, List.map_eq_cons_iff] using named
  have begins := within.opened name' [a, k]
  obtain ⟨root', same, tabled'⟩ :
      ∃ root', alter .implied [a] (fun _ m => (opened [a, k] true k m).map (·.1)) [a] .implied root = .ok root' ∧
        Tabled base above (ts ++ [.table span kind inner]) root' :=
    tabled.alter name (by simp [begins, Except.map])
  have empty : header.found [a, k] true k [a] root = .ok [] := by
    simp [header.found, name, tabled.get?, begins, Except.map]
  refine ⟨⟨root', [a, k], true, at', []⟩, ?_, rfl, fun span' m => ?_⟩
  · simp [header, closed, empty, same, bind, Except.bind]
  · let d' := gathered ⟨root', [a, k], true, at', []⟩ span' m
    obtain ⟨inner', joins, within⟩ := within.join (d := d') name' rfl
    obtain ⟨root'', alters, tabled''⟩ :
        ∃ root'', alter .implied [a] (fun _ m => d'.join k m) [a] .implied root' = .ok root'' ∧
          Tabled base above (ts ++ [.table span kind inner']) root'' :=
      tabled'.alter name joins
    exact ⟨root'', alters, inner', tabled'', within⟩

end Draft

end ItemPipeline.Toml
