import ItemPipeline.Config.Storage
import ItemPipeline.Proofs.Config
import ItemPipeline.Proofs.Config.Settings

/-!
A configuration that is valid and can be saved is loaded again as it was.
-/

namespace ItemPipeline

open Toml (Setting Proper Shown Tabled headline member writeLines)

namespace Folder

variable {t t' : Folder} {path text : String}

lemma entry?_insert (t : Folder) {p : List String} (filled : p ≠ []) (e : Entry) (q : List String) :
    Folder.entry? ⟨t.entries.insert p e⟩ q = if p = q then some e else t.entry? q := by
  rw [ entry?, entry?, Table.get?_insert]
  by_cases same : p = q
  · subst same
    rw [if_neg filled]
    simp
  · simp [same]

lemma checkAbove_insert {p : List String} (filled : p ≠ []) (e : Entry) (above : t.checkAbove p = .ok ()) :
    Folder.checkAbove ⟨t.entries.insert p e⟩ p = .ok () := by
  rw [checkAbove, Config.forM_eq_ok_iff] at above ⊢
  intro n hn
  have shorter : p ≠ p.take n := by
    intro same
    have := congrArg List.length same
    rw [List.mem_range] at hn
    rw [List.length_take] at this
    omega
  rw [entry?_insert t filled, if_neg shorter]
  exact above n hn

lemma read_write (written : t.write path text = .ok t') : t'.read path = .ok text := by
  obtain ⟨⟨⟩, above, stored⟩ := bind_eq_ok_iff.1 written
  have filled : names path ≠ [] := by
    intro empty
    rw [empty] at stored
    cases stored
  obtain rfl : (⟨t.entries.insert (names path) (.file text)⟩ : Folder) = t' := by
    split at stored
    · cases stored
    · exact Except.ok.inj stored
  refine bind_eq_ok_iff.2 ⟨(), checkAbove_insert filled _ above, ?_⟩
  rw [entry?_insert t filled, if_pos rfl]

end Folder

namespace Config

def stepText (s : Step) : List Char :=
  '\n' :: (headline true "items" ["steps"] ++ writeLines s.settings)

def itemText (i : ItemConfig) : List Char :=
  '\n' :: (headline true "items" [] ++ (writeLines i.settings ++ i.steps.flatMap stepText))

def managerText (c : ManagerConfig) : List Char :=
  headline false "manager" [] ++ writeLines c.settings

lemma toList_intercalate_cons (a : String) (l : List String) :
    (String.intercalate "\n" (a :: l)).toList = a.toList ++ l.flatMap fun b => '\n' :: b.toList := by
  rw [String.toList_intercalate]
  induction l generalizing a with
  | nil => simp [List.intercalate]
  | cons b l ih =>
    rw [List.map_cons, List.map_cons, List.intercalate_cons_cons, ← List.map_cons, ih b]
    simp

lemma of_mapM_write {items : List ItemConfig} {parts : List (List String)}
    (written : items.mapM ItemConfig.write = .ok parts) :
    (∀ i ∈ items, Proper i.settings) ∧ (parts.flatten.flatMap fun b => '\n' :: b.toList) = items.flatMap itemText := by
  induction mapM_eq_ok_iff.1 written with
  | nil => simp
  | @cons i part items parts first rest ih =>
    obtain ⟨proper, text⟩ := ItemConfig.of_write first
    obtain ⟨each, texts⟩ := ih (mapM_eq_ok_iff.2 rest)
    refine ⟨List.forall_mem_cons.2 ⟨proper, each⟩, ?_⟩
    have head : (part.flatMap fun b => '\n' :: b.toList) = itemText i := by
      have lines := congrArg (List.flatMap fun b => '\n' :: b) text
      have steps : stepText = fun s => '\n' :: (headline true "items" ["steps"] ++ writeLines s.settings) := rfl
      simpa [List.flatMap_map, itemText, steps] using lines
    rw [List.flatten_cons, List.flatMap_append, List.flatMap_cons, head, texts]

lemma of_write {c : Config} {text : String} (written : c.write = .ok text) :
    Proper c.manager.settings ∧ (∀ i ∈ c.items, Proper i.settings) ∧
      text.toList =
        if c.items = [] then (member "items" (Setting.words []).write).toList ++ '\n' :: managerText c.manager
        else managerText c.manager ++ c.items.flatMap itemText := by
  simp only [write, bind_eq_ok_iff] at written
  obtain ⟨manager, first, parts, rest, ⟨⟩⟩ := written
  obtain ⟨proper, managed⟩ := ManagerConfig.of_write first
  obtain ⟨each, texts⟩ := of_mapM_write rest
  refine ⟨proper, each, ?_⟩
  by_cases none : c.items = []
  · simp only [none, List.isEmpty_nil, if_true]
    rw [toList_intercalate_cons, List.flatMap_singleton, managed]
    rfl
  · rw [if_neg none, if_neg (by simpa using none), toList_intercalate_cons, managed, texts]
    rfl

variable {d : Toml.Draft} {root base inner ib : Toml.Members} {ts ss : List Toml} {r : List Char}
  {Q : Toml.Draft → Prop}

lemma reads_steps {span : Option Toml.Span} {kind : Toml.TableKind} (steps : List Step) {done : List Step}
    (closed : d.close = .ok root) (tabled : Tabled base "items" (ts ++ [.table span kind inner]) root)
    (within : Tabled ib "steps" ss inner) (each : List.Forall₂ (fun (s : Step) t => Toml.IsTable s.settings t) done ss)
    (next : ∀ (d' : Toml.Draft) root inner ss, d'.close = .ok root →
      Tabled base "items" (ts ++ [.table span kind inner]) root → Tabled ib "steps" ss inner →
      List.Forall₂ (fun (s : Step) t => Toml.IsTable s.settings t) (done ++ steps) ss → d'.Reads r Q) :
    d.Reads (steps.flatMap stepText ++ r) Q := by
  induction steps generalizing d root inner ss done with
  | nil => simpa using next d root inner ss closed tabled within (by simpa using each)
  | cons s steps ih =>
    rw [List.flatMap_cons, stepText, List.append_assoc, List.cons_append, List.append_assoc]
    have begins := Toml.Draft.opens_inner closed tabled within
    refine .blank (.table (by decide +kernel) (by decide) s.proper_settings begins fun d' t root' is stands closed => ?_)
    obtain ⟨inner', tabled, within⟩ := stands
    have all : List.Forall₂ (fun (s : Step) t => Toml.IsTable s.settings t) (done ++ [s]) (ss ++ [t]) :=
      List.rel_append each (.cons is .nil)
    refine ih closed tabled within all ?_
    simpa using next

lemma reads_items (items : List ItemConfig) {done : List ItemConfig} (proper : ∀ i ∈ items, Proper i.settings)
    (closed : d.close = .ok root) (tabled : Tabled base "items" ts root)
    (each : List.Forall₂ ItemConfig.IsTable done ts) :
    d.Reads (items.flatMap itemText) fun d' => ∃ root, d'.close = .ok root ∧ ∃ ts, Tabled base "items" ts root ∧
      List.Forall₂ ItemConfig.IsTable (done ++ items) ts := by
  induction items generalizing d root ts done with
  | nil => exact .nil ⟨root, closed, ts, tabled, by simpa using each⟩
  | cons i items ih =>
    rw [List.forall_mem_cons] at proper
    rw [List.flatMap_cons, itemText, List.cons_append, List.append_assoc, List.append_assoc]
    refine .blank (.table (by decide +kernel) (by decide) proper.1 (Toml.Draft.opens_tables closed tabled)
      fun d' t root' is tabled closed => ?_)
    obtain ⟨span, m, rfl, shown⟩ := is
    have noSteps : Toml.Members.Lacks m "steps" := by
      refine shown.lacks ?_
      rw [ItemConfig.map_fst_settings]
      split_ifs <;> decide
    refine reads_steps i.steps closed tabled ⟨noSteps, .inl ⟨rfl, rfl⟩⟩ .nil ?_
    intro d' root inner ss closed tabled within each'
    have all : List.Forall₂ ItemConfig.IsTable (done ++ [i]) (ts ++ [.table (some span) .header inner]) :=
      List.rel_append each (.cons ⟨_, _, inner, m, ss, rfl, shown, within, by simpa using each'⟩ .nil)
    simpa using ih proper.2 closed tabled all

lemma fill_manager {c : ManagerConfig} {k : Toml.Key} {t : Toml} (name : k.name = "manager")
    (is : Toml.IsTable c.settings t) (r : Config) :
    Toml.fill "struct PreprocConfig" fields (.table none .header [(k, t)]) r = .ok { r with manager := c } :=
  Toml.fill_single (by rw [name]; rfl) (congrArg (Except.map _) (ManagerConfig.ofToml_of_isTable is)) _ _ _

lemma fill_items {items : List ItemConfig} {k : Toml.Key} {v : Toml} (name : k.name = "items")
    (rows : v.items? = some ts) (each : List.Forall₂ ItemConfig.IsTable items ts) (r : Config) :
    Toml.fill "struct PreprocConfig" fields (.table none .header [(k, v)]) r = .ok { r with items := items } :=
  Toml.fill_single (by rw [name]; rfl)
    (congrArg (Except.map _) (Toml.toList_of_forall₂ (fun _ _ _ is => ItemConfig.ofToml_of_isTable is) rows each)) _ _ _

lemma ofMembers_of_empty {c : Config} {k k' : Toml.Key} {v t : Toml} (empty : c.items = []) (name : k.name = "items")
    (is : (Setting.words []).Is v) (name' : k'.name = "manager") (manager : Toml.IsTable c.manager.settings t) :
    ofMembers [(k, v), (k', t)] = .ok c := by
  obtain ⟨span, ws, rfl, words⟩ := is
  obtain rfl := List.forall₂_nil_left_iff.1 words
  rw [ofMembers, ← List.singleton_append, Toml.fill_append, fill_items name rfl .nil]
  refine (fill_manager name' manager _).trans ?_
  rw [← empty]

lemma ofMembers_of_tabled {c : Config} {k : Toml.Key} {t : Toml} {m : Toml.Members} (name : k.name = "manager")
    (manager : Toml.IsTable c.manager.settings t) (tabled : Tabled [(k, t)] "items" ts m)
    (items : List.Forall₂ ItemConfig.IsTable c.items ts) : ofMembers m = .ok c := by
  obtain ⟨-, ⟨rfl, rfl⟩ | ⟨k', name', rfl⟩⟩ := tabled
  · have empty := List.forall₂_nil_right_iff.1 items
    rw [ofMembers, fill_manager name manager, ← empty]
  · rw [ofMembers, Toml.fill_append, fill_manager name manager]
    exact fill_items name' rfl items _

lemma parse_write {c : Config} {text : String} (written : c.write = .ok text) :
    ∃ m, Toml.parse text = .ok m ∧ ofMembers m = .ok c := by
  obtain ⟨proper, each, eq⟩ := of_write written
  refine Toml.parse_of_reads ?_ ?_
  · rw [eq]
    split_ifs <;> simp [member, String.join, managerText, headline]
  · rw [eq]
    split_ifs with empty
    · refine .member (by decide +kernel) (by simp [Setting.Fits]) (by simp [Toml.Members.Lacks]) ?_
      refine fun span k v name is => .blank ?_
      rw [managerText, ← List.append_nil (writeLines _)]
      refine .table (by decide +kernel) (by decide) proper
        (Toml.Draft.opens_table (show _ = Except.ok [(k, v)] from rfl) ?_) fun d' t root manager stands closed => .nil ?_
      · simp [Toml.Members.Lacks, name]
      · obtain ⟨k', name', rfl⟩ := stands
        exact ⟨_, closed, ofMembers_of_empty empty name is name' manager⟩
    · rw [managerText, List.append_assoc]
      have begins := Toml.Draft.opens_table (n := "manager") (show ({} : Toml.Draft).close = .ok [] from rfl)
        (by simp [Toml.Members.Lacks])
      refine .table (by decide +kernel) (by decide) proper begins fun d' t root manager stands closed => ?_
      obtain ⟨k, name, rfl⟩ := stands
      have none : Tabled [(k, t)] "items" [] [(k, t)] := ⟨by simp [Toml.Members.Lacks, name], .inl ⟨rfl, rfl⟩⟩
      refine (reads_items c.items each closed none .nil).mono ?_
      rintro d' ⟨root, closed, ts, tabled, items⟩
      exact ⟨root, closed, ofMembers_of_tabled name manager tabled items⟩

lemma parse_of_write {c : Config} {text : String} (valid : c.check = .ok ()) (written : c.write = .ok text) :
    parse text = .ok c := by
  obtain ⟨m, read, decoded⟩ := parse_write written
  have goes : (Toml.parse text >>= ofMembers) = .ok c := bind_eq_ok_iff.2 ⟨m, read, decoded⟩
  simp only [parse, goes, valid]

/-- A valid configuration that is saved is loaded again as it was: the settings of the manager, and all items in their
order with their settings and their steps, whatever texts these hold. -/
theorem load_save {c : Config} {t t' : Folder} {path shown : String} (valid : c.check = .ok ())
    (saved : c.save t path shown = .ok t') : load t' path shown = .ok c := by
  obtain ⟨t₁, -, rest⟩ := bind_eq_ok_iff.1 saved
  obtain ⟨text, written, stored⟩ := bind_eq_ok_iff.1 rest
  have found := Folder.read_write (mapError_eq_ok_iff.1 stored)
  rw [load, found]
  exact mapError_eq_ok_iff.2 (parse_of_write valid written)

theorem load_save_of_quotes :
    ∃ (c : Config) (t : Folder), c.check = .ok () ∧ c.save {} "/etc/preproc/items.toml" "items.toml" = .ok t ∧
      load t "/etc/preproc/items.toml" "items.toml" = .ok c ∧ c.items.map (·.dependents) = [[2], []] ∧
      (c.items.flatMap (·.steps)).map (·.params) = ["\"\"\"\n'''\\d", "a\"b'c", "\r\x01"] := by
  let c : Config :=
    { manager := { sinkMode := .proxy, logFile := some "C:\\log" },
      items := [{ id := 1, dependents := [2], steps := [{ kind := .regsub, params := "\"\"\"\n'''\\d" },
          { kind := .trim, params := "a\"b'c", handler := .setValue, handlerParams := "\n" }] },
        { id := 2, discovery := true, steps := [{ kind := .script, params := "\r\x01" }] }] }
  have valid : c.check = .ok () := by decide +kernel
  obtain ⟨t, saved, -⟩ : ∃ t, c.save {} "/etc/preproc/items.toml" "items.toml" = .ok t ∧ true = true :=
    any_toOption_iff.1 (by decide +kernel)
  exact ⟨c, t, valid, saved, load_save valid saved, rfl, rfl⟩

end Config

end ItemPipeline
