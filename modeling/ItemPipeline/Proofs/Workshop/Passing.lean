import ItemPipeline.Proofs.Reference
import ItemPipeline.Proofs.Workshop.Memory

/-!
How values get to items once the table has been filled from a checked configuration: an item receives
what is fed to it, or what the item that lists it passes on, in order and once each.
-/

namespace ItemPipeline

def Act.fedTo? (i : UInt64) : Act → Option Input
  | .feed j v t o => if j = i then some ⟨v, t, o⟩ else none
  | _ => none

def ItemConfig.add (x : ItemConfig) : Act :=
  .add x.id x.host x.rules

def fedTo (as : List Act) (i : UInt64) : List Input :=
  as.filterMap (Act.fedTo? i)

def ValueTask.entry (v : ValueTask) : Input :=
  ⟨v.input.1, v.time, v.options⟩

namespace Task

def entryFor? (i : UInt64) (t : Task) : Option Input :=
  t.valueTask?.bind fun v => if v.item = i then some v.entry else none

def Prepared (items : Table UInt64 Item) (t : Task) : Prop :=
  ∀ v, t.valueTask? = some v →
    (∃ y, items.get? v.item = some y ∧ y.host = v.host ∧ y.edition = v.edition) ∧
      (v.rules.dependents = [] ∧ t = .ofValue v ∨
        v.rules.dependents ≠ [] ∧ ∃ r, t = .dependent ⟨v, some r, none⟩)

def Finished (items : Table UInt64 Item) (d : Task) : Prop :=
  ∀ v, d.valueTask? = some v →
    (∃ y, items.get? v.item = some y ∧ y.host = v.host ∧ y.edition = v.edition) ∧
      (v.rules.dependents = [] ∧ d = .ofValue v ∨
        v.rules.dependents ≠ [] ∧
          ∃ r, d = .dependent
            ⟨v, some r, if v.feeds then some (Cache.ofRules r v.result).prepare else none⟩)

lemma Prepared.run {items : Table UInt64 Item} {t : Task} (h : t.Prepared items) (b : Bench) :
    (t.run b).1.Finished items := by
  intro u hu
  rw [t.run_valueTask?, Option.map_eq_some_iff] at hu
  obtain ⟨v, hv, rfl⟩ := hu
  obtain ⟨hy, ht⟩ := h v hv
  refine ⟨hy, ht.imp (fun ht => ⟨ht.1, ?_⟩) fun ht => ⟨ht.1, ?_⟩⟩
  · obtain rfl := ht.2
    have hs : (v.run b).1.isSerial = v.isSerial := rfl
    simp only [ofValue, hs]
    split <;> rfl
  · obtain ⟨r, rfl⟩ := ht.2
    exact ⟨r, rfl⟩

end Task

namespace Manager

variable {c : Config} {m : Manager}

structure Stocked (c : Config) (m : Manager) : Prop where
  known : ∀ x ∈ c.items, ∃ y, m.items.get? x.id = some y
  kept : ∀ i y, m.items.get? i = some y →
    ∃ x ∈ c.items, x.id = i ∧ y.id = i ∧ y.host = x.host ∧ y.rules = x.rules

lemma Stocked.of_items {m' : Manager} (h : m.Stocked c) (items : m'.items = m.items) : m'.Stocked c :=
  ⟨items ▸ h.known, items ▸ h.kept⟩

lemma Stocked.get? (h : m.Stocked c) (hc : c.Checked) {x : ItemConfig} (hx : x ∈ c.items) :
    ∃ y, m.items.get? x.id = some y ∧ y.id = x.id ∧ y.host = x.host ∧ y.rules = x.rules := by
  obtain ⟨y, hy⟩ := h.known x hx
  obtain ⟨x', hx', hi, hy'⟩ := h.kept _ y hy
  obtain rfl := hc.eq_of_id hx' hx hi
  exact ⟨y, hy, hy'⟩

lemma Stocked.fed_ne_nil (h : m.Stocked c) (hc : c.Checked) {x : ItemConfig} (hx : x ∈ c.items)
    (hd : x.dependents ≠ []) : m.fed x.rules ≠ [] := by
  cases hl : x.dependents with
  | nil => exact absurd hl hd
  | cons i l =>
    have hi : i ∈ c.ids := hc.known x hx (by simp [hl])
    obtain ⟨z, hz, rfl⟩ := List.mem_map.1 hi
    obtain ⟨y, hy⟩ := h.known z hz
    simp [fed, ItemConfig.rules, hl, hy]

lemma Stocked.taskOf_prepared (h : m.Stocked c) (hc : c.Checked) {y : Item} {v : ValueTask}
    (hy : m.items.get? y.id = some y) (item : v.item = y.id) (host : v.host = y.host)
    (edition : v.edition = y.edition) : (m.taskOf v).Prepared m.items := by
  intro u hu
  obtain rfl : v = u := by simpa [taskOf_valueTask?] using hu
  refine ⟨⟨y, item ▸ hy, host.symm, edition.symm⟩, ?_⟩
  obtain ⟨x, hx, -, -, -, hr⟩ := h.kept _ y hy
  have hv : v.rules = x.rules := (congrArg Edition.rules edition).trans hr
  by_cases hd : v.rules.dependents = []
  · exact .inl ⟨hd, by simp [taskOf, hd]⟩
  · refine .inr ⟨hd, ?_⟩
    have hf : m.fed v.rules ≠ [] := hv ▸ h.fed_ne_nil hc hx (by simpa [hv, ItemConfig.rules] using hd)
    obtain ⟨z, l, hz⟩ := List.exists_cons_of_ne_nil hf
    exact ⟨z.rules, by simp [taskOf, hd, hz]⟩

lemma Stocked.filterMap_fed (h : m.Stocked c) {l : List UInt64} (hl : l.Nodup) {i : UInt64}
    (hi : i ∈ c.ids) (u : Input) :
    ((l.filterMap m.items.get?).filterMap fun y => if y.id = i then some u else none) =
      if i ∈ l then [u] else [] := by
  induction l with
  | nil => rfl
  | cons k l ih =>
    obtain ⟨hk, hl⟩ := List.nodup_cons.1 hl
    have ih := ih hl
    cases hy : m.items.get? k with
    | none =>
      have hne : i ≠ k := by
        rintro rfl
        obtain ⟨x, hx, rfl⟩ := List.mem_map.1 hi
        obtain ⟨y, hy'⟩ := h.known x hx
        simp [hy] at hy'
      simp [hy, ih, hne]
    | some y =>
      obtain ⟨-, -, -, hid, -, -⟩ := h.kept k y hy
      by_cases hik : k = i
      · subst hik
        simp [hy, hid, ih, hk]
      · simp [hy, hid, ih, hik, Ne.symm hik]

end Manager

def received (i : UInt64) (es : List Event) : List Input :=
  (es.filterMap Event.made?).filterMap (Task.entryFor? i)

def flushesFor (i : UInt64) (es : List Event) : List FlushedValue :=
  ((es.flatMap Event.outputs).filterMap Output.toFlushed).filter fun f => f.item == i

lemma received_append (i : UInt64) (es es' : List Event) :
    received i (es ++ es') = received i es ++ received i es' := by
  simp [received]

lemma flushesFor_append (i : UInt64) (es es' : List Event) :
    flushesFor i (es ++ es') = flushesFor i es ++ flushesFor i es' := by
  simp [flushesFor]

lemma received_settled (i : UInt64) (d : Task) (o : List Output) (es : List Event) :
    received i (.settled d o :: es) = received i es := by
  simp [received, List.filterMap_cons, Event.made?]

lemma flushes_settled (d : Task) (l : List (Item × Task)) :
    ((Event.settled d [d.answer] :: l.map fun b => .bred b.1 b.2).flatMap Event.outputs).filterMap
      Output.toFlushed = d.flushed?.toList := by
  have hl : (l.map fun b => Event.bred b.1 b.2).flatMap Event.outputs = [] := by
    simp [List.flatMap_map, Event.outputs]
  rw [← d.answer_toFlushed]
  simp only [List.flatMap_cons, hl, Event.outputs, List.append_nil, List.filterMap_cons, List.filterMap_nil]
  cases d.answer.toFlushed <;> rfl

section Passing

variable {c : Config} {m : Manager} {i : UInt64} {d : Task} {v : ValueTask}

lemma Manager.taskOf_entryFor? (m : Manager) (v : ValueTask) :
    (m.taskOf v).entryFor? i = if v.item = i then some v.entry else none := by
  simp [Task.entryFor?, taskOf_valueTask?]

lemma ValueTask.passedOn_flushed (v : ValueTask) :
    passedOn [v.flushed] = if v.feeds then [⟨v.result, v.time, {}⟩] else [] := by
  cases hn : v.result.isNone <;> cases he : v.result.isError <;>
    simp [passedOn, flushed, feeds, hn, he]

lemma received_breds (l : List (Item × Task)) :
    received i (l.map fun b => .bred b.1 b.2) = l.filterMap fun b => b.2.entryFor? i := by
  rw [received, Event.filterMap_made_bred, List.filterMap_map]
  rfl

lemma Manager.Stocked.received_dependent (h : m.Stocked c) (hi : i ∈ c.ids)
    (nodup : v.rules.dependents.Nodup) (r : Option RuleSet) (k : Cache) :
    received i ((m.bred (.dependent ⟨v, r, some k⟩)).map fun b => .bred b.1 b.2) =
      if i ∈ v.rules.dependents then [⟨k.value, v.time, {}⟩] else [] := by
  rw [← h.filterMap_fed nodup hi ⟨k.value, v.time, {}⟩, received_breds, bred, List.filterMap_map]
  exact List.filterMap_congr fun y _ => taskOf_entryFor? m _

lemma Manager.Stocked.of_get? (h : m.Stocked c) {y : Item} (hy : m.items.get? v.item = some y)
    (host : y.host = v.host) (edition : y.edition = v.edition) :
    ∃ x ∈ c.items, x.id = v.item ∧ x.host = v.host ∧ x.rules = v.rules := by
  obtain ⟨x, hx, hi, -, hh, hr⟩ := h.kept _ y hy
  exact ⟨x, hx, hi, hh.symm.trans host, hr.symm.trans (congrArg Edition.rules edition)⟩

lemma Manager.Stocked.received_bred (h : m.Stocked c) (hi : i ∈ c.ids) (hd : d.Finished m.items)
    (hv : d.valueTask? = some v) (nodup : v.rules.dependents.Nodup) :
    received i ((m.bred d).map fun b => .bred b.1 b.2) =
      if i ∈ v.rules.dependents then passedOn [v.flushed] else [] := by
  rw [v.passedOn_flushed]
  obtain ⟨-, ⟨hl, rfl⟩ | ⟨hl, r, rfl⟩⟩ := hd v hv
  · have hb : m.bred (.ofValue v) = [] := by
      unfold Task.ofValue
      split <;> rfl
    simp [hb, hl, received]
  · cases hf : v.feeds with
    | false => simp [Manager.bred, received]
    | true =>
      have passed := h.received_dependent hi nodup (some r) (Cache.ofRules r v.result).prepare
      rw [Cache.prepare_value] at passed
      simpa [hf, Cache.ofRules] using passed

end Passing

namespace Workshop

variable {c : Config} {m : Manager} {n : Nat} {w w' : Workshop} {a : Act} {as : List Act} {e es : List Event}
  {i : UInt64}

lemma Turn.prepared (ht : Turn w a e w') (hs : w.manager.Stocked c) (hc : c.Checked) :
    ∀ t ∈ e.filterMap Event.made?, t.Prepared w.manager.items := by
  intro t hm v hv
  obtain ⟨k, y, hy, rfl, item, host, edition⟩ := ht.made hm hv
  obtain ⟨-, -, -, rfl, -, -⟩ := hs.kept k y hy
  exact hs.taskOf_prepared hc hy item host edition v hv

lemma Turn.received_eq (ht : Turn w a e w') (ha : a.keepsTable = true) (hs : w.manager.Stocked c)
    (hd : ∀ left j, w.duty = .settling left j → j.task.Finished w.manager.items) (hc : c.Checked)
    (single : c.Single) (hi : i ∈ c.ids) :
    received i e = (a.fedTo? i).toList ++
      passedOn (((e.flatMap Event.outputs).filterMap Output.toFlushed).filter fun f =>
        i ∈ c.dependents f.item) := by
  cases ht with
  | feed k u t o idle =>
    cases hy : w.manager.items.get? k with
    | none =>
      have hne : k ≠ i := by
        rintro rfl
        obtain ⟨x, hx, rfl⟩ := List.mem_map.1 hi
        obtain ⟨y, hy'⟩ := hs.known x hx
        simp [hy] at hy'
      simp [received, passedOn, Act.fedTo?, hne]
    | some y =>
      obtain ⟨-, -, -, rfl, -, -⟩ := hs.kept k y hy
      by_cases hk : y.id = i <;>
        simp [received, passedOn, Event.outputs, Act.fedTo?, hk, Event.made?, Manager.taskOf_entryFor?,
          ValueTask.ofItem, ValueTask.entry, ValueTask.input]
  | tryItem k u now idle =>
    cases w.manager.items.get? k <;>
      simp [received, passedOn, Event.outputs, Act.fedTo?, Event.made?, Manager.trial, Task.entryFor?,
        Task.valueTask?]
  | trySteps s t u now hist idle =>
    simp [received, passedOn, Event.outputs, Act.fedTo?, Event.made?, Manager.trial, Task.entryFor?,
      Task.valueTask?]
  | @settle left j duty =>
    have hd := hd left j duty
    rw [received_settled, w.manager.settleTask_eq, flushes_settled]
    cases hv : j.task.valueTask? with
    | none => simp [received, passedOn, Manager.bred_of_test hv, Task.flushed?, hv, Act.fedTo?]
    | some v =>
      obtain ⟨⟨y, hy, host, edition⟩, -⟩ := hd v hv
      obtain ⟨x, hx, hxi, -, hr⟩ := hs.of_get? hy host edition
      have listed : v.rules.dependents = c.dependents v.item := by
        rw [← hxi, hc.dependents_eq hx, ← hr]
        rfl
      have nodup : v.rules.dependents.Nodup := hr ▸ single.nodup hx
      rw [hs.received_bred hi hd hv nodup, listed]
      by_cases hl : i ∈ c.dependents v.item <;>
        simp [Act.fedTo?, Task.flushed?, hv, ValueTask.flushed, hl, passedOn]
  | run split hand result =>
    simp [received, passedOn, List.filterMap_cons, Event.outputs, Act.fedTo?, Event.made?]
  | add | restore | update | remove => simp [Act.keepsTable] at ha
  | _ => rfl

variable {g : ManagerConfig}

lemma Course.stocked_of_add (hm : Manager.start g = .ok m) {l : List ItemConfig}
    (h : Course (opening m n) (l.map ItemConfig.add) es w) :
    es = [] ∧ w.manager.Stocked { items := l } := by
  induction l using List.reverseRecOn generalizing es w with
  | nil =>
    generalize has : List.map ItemConfig.add [] = as at h
    cases h with
    | nil => exact ⟨rfl, by simp, by simp [opening, Manager.start_eq hm, Table.get?, Table.lookIn]⟩
    | snoc _ _ => simp at has
  | append_singleton l x ih =>
    rw [List.map_append] at h
    obtain ⟨es, e, w, rfl, hc, ht⟩ := h.of_snoc
    obtain ⟨rfl, hs⟩ := ih hc
    cases ht with
    | add i host r idle =>
      refine ⟨rfl, ?_, fun i y hy => ?_⟩
      · simp only [List.forall_mem_append, List.forall_mem_singleton, Manager.addItem, Manager.register,
          Table.get?_insert]
        refine ⟨fun z hz => ?_, _, if_pos trivial⟩
        split
        · exact ⟨_, rfl⟩
        · exact hs.known z hz
      · simp only [Manager.addItem, Manager.register, Table.get?_insert] at hy
        split at hy
        · rename_i hi
          cases hy
          exact ⟨x, by simp, hi, hi, rfl, rfl⟩
        · obtain ⟨z, hz, hy'⟩ := hs.kept i y hy
          exact ⟨z, List.mem_append_left _ hz, hy'⟩

lemma Course.finished (hm : Manager.start g = .ok m) (h : Course (opening m n) as es w)
    {items : Table UInt64 Item} (prepared : ∀ t ∈ es.filterMap Event.made?, t.Prepared items) :
    ∀ p ∈ es.filterMap Event.ran?, p.2.Finished items := by
  intro p hp
  obtain ⟨b, hb⟩ := h.of_ran hp
  exact hb ▸ (prepared _ (h.ran_made hm p hp)).run b

lemma Course.settling_ran (hm : Manager.start g = .ok m) (h : Course (opening m n) as es w) {left : Nat}
    {j : Job} (duty : w.duty = .settling left j) : ∃ p ∈ es.filterMap Event.ran?, p.2 = j.task := by
  have hj : j.task ∈ w.floor.unsettled := by
    simp [Floor.unsettled, Floor.past, floor, duty]
  have hr : j.task ∈ (((es.filterMap Event.ran?).map Prod.snd : List Task) : Multiset Task) := by
    rw [(h.balanced hm).ran]
    exact Multiset.mem_add.2 (.inr hj)
  exact List.mem_map.1 (Multiset.mem_coe.1 hr)

lemma Course.settling_finished (hm : Manager.start g = .ok m) (h : Course (opening m n) as es w)
    {items : Table UInt64 Item} (prepared : ∀ t ∈ es.filterMap Event.made?, t.Prepared items) :
    ∀ left j, w.duty = .settling left j → j.task.Finished items := by
  intro left j duty
  obtain ⟨p, hp, hpj⟩ := h.settling_ran hm duty
  exact hpj ▸ h.finished hm prepared p hp

lemma Course.eq_of_edition (hm : Manager.start g = .ok m) (h : Course (opening m n) as es w)
    (unshared : ∀ x, .restore x ∉ as) {i j : UInt64} {y z : Item} (hy : w.manager.items.get? i = some y)
    (hz : w.manager.items.get? j = some z) (same : y.edition.number = z.edition.number) : i = j := by
  obtain ⟨-, k, hk⟩ := (h.registered hm).items i y hy
  have owned := h.owned hm hk fun x hx => absurd hx (unshared x)
  exact (owned.items i y hy rfl).trans (owned.items j z hz same.symm).symm

structure Following (c : Config) (as : List Act) (es : List Event) (w : Workshop) : Prop where
  stocked : w.manager.Stocked c
  distinct : ∀ i j y z, w.manager.items.get? i = some y → w.manager.items.get? j = some z →
    y.edition.number = z.edition.number → i = j
  prepared : ∀ t ∈ es.filterMap Event.made?, t.Prepared w.manager.items
  source : ∀ i ∈ c.ids, (∀ p ∈ c.items, i ∉ p.dependents) → received i es = fedTo as i
  dependent : ∀ p ∈ c.items, ∀ i ∈ p.dependents, received i es = passedOn (flushesFor p.id es)
  fed : ∀ y t, .fed y t ∈ es → ∀ p ∈ c.items, t.item ∉ p.dependents
  bred : ∀ y t, .bred y t ∈ es → ∃ p ∈ c.items, t.item ∈ p.dependents

lemma Following.turn (h : w.Following c as es) (ht : Turn w a e w') (ha : a.keepsTable = true)
    (sources : ∀ i, a.fedTo? i ≠ none → ∀ p ∈ c.items, i ∉ p.dependents) (hr : w.Registered)
    (hd : ∀ left j, w.duty = .settling left j → j.task.Finished w.manager.items) (hc : c.Checked)
    (single : c.Single) : w'.Following c (as ++ [a]) (es ++ e) := by
  have items := (ht.table ha).1
  refine ⟨h.stocked.of_items items, by simpa only [items] using h.distinct, ?_, fun i hi free => ?_, fun p hp i hi => ?_, fun y t ht' => ?_,
    fun y t ht' => ?_⟩
  · rw [items, List.filterMap_append, List.forall_mem_append]
    exact ⟨h.prepared, ht.prepared h.stocked hc⟩
  · have unlisted (k : UInt64) : i ∉ c.dependents k := fun hk => by
      obtain ⟨p, hp, -, hi⟩ := Config.mem_dependents hk
      exact free p hp hi
    rw [received_append, h.source i hi free, ht.received_eq ha h.stocked hd hc single hi, fedTo, fedTo,
      List.filterMap_append]
    cases hf : a.fedTo? i <;> simp [hf, unlisted, passedOn]
  · have unfed : a.fedTo? i = none := by
      by_contra hf
      exact sources i hf p hp hi
    have listed (k : UInt64) : i ∈ c.dependents k ↔ k = p.id := by
      constructor
      · intro hk
        obtain ⟨x, hx, rfl, hxi⟩ := Config.mem_dependents hk
        rw [single.unique hx hp hxi hi]
      · rintro rfl
        rwa [hc.dependents_eq hp]
    rw [received_append, flushesFor_append, h.dependent p hp i hi,
      ht.received_eq ha h.stocked hd hc single (hc.known p hp hi), unfed, passedOn, passedOn, passedOn,
      List.filterMap_append]
    simp [listed, flushesFor, Bool.beq_eq_decide_eq]
  · rcases List.mem_append.1 ht' with ht' | ht'
    · exact h.fed y t ht'
    · obtain ⟨i, v, s, o, rfl, -, hi, hst⟩ := ht.fed_stamp hr ht'
      have hit : t.item = i := (Task.item_of_stamp? hst).trans hi
      exact hit ▸ sources i (by simp [Act.fedTo?])
  · rcases List.mem_append.1 ht' with ht' | ht'
    · exact h.bred y t ht'
    · obtain ⟨left, j, v, r, k, duty, hj, hy, -, hst⟩ := ht.bred_stamp hr ht'
      have hv : j.task.valueTask? = some v := by rw [hj]; rfl
      obtain ⟨⟨z, hz, host, edition⟩, -⟩ := hd left j duty v hv
      obtain ⟨x, hx, -, -, hxr⟩ := h.stocked.of_get? hz host edition
      refine ⟨x, hx, ?_⟩
      rw [Task.item_of_stamp? hst]
      rwa [← hxr] at hy

lemma Course.following (hm : Manager.start g = .ok m) (hc : c.Checked) (single : c.Single)
    {w₁ : Workshop} (h₁ : Course (opening m n) (c.items.map ItemConfig.add) [] w₁)
    (h : Course w₁ as es w) (table : ∀ a ∈ as, a.keepsTable = true)
    (sources : ∀ a ∈ as, ∀ i, a.fedTo? i ≠ none → ∀ p ∈ c.items, i ∉ p.dependents) :
    w.Following c as es := by
  induction h with
  | nil =>
    have hs := (h₁.stocked_of_add hm).2
    have unshared : ∀ x, .restore x ∉ c.items.map ItemConfig.add := by simp [ItemConfig.add]
    exact ⟨⟨hs.known, hs.kept⟩, fun i j y z => h₁.eq_of_edition hm unshared, by simp, fun i _ _ => rfl, fun p _ i _ => rfl, by simp, by simp⟩
  | @snoc as es e w w' a hw ht ih =>
    simp only [List.forall_mem_append, List.forall_mem_singleton] at table sources
    have hf := ih table.1 sources.1
    have hd := (h₁.append hw).settling_finished hm hf.prepared
    exact hf.turn ht table.2 sources.2 ((h₁.append hw).registered hm) hd hc single

end Workshop

end ItemPipeline
