import ItemPipeline.Proofs.Workshop.Passing

/-!
With one worker, what is flushed for an item is what its rules make of the values that it receives: never
anything else, and no less once nothing is in flight.
-/

namespace ItemPipeline

lemma filterMap_filter_of_imp {α β : Type} {p : α → Bool} {f : α → Option β} {l : List α}
    (h : ∀ a ∈ l, p a = false → f a = none) : (l.filter p).filterMap f = l.filterMap f := by
  rw [List.filterMap_filter]
  refine List.filterMap_congr fun a ha => ?_
  cases hp : p a with
  | false => simp [h a ha hp]
  | true => simp

structure ItemConfig.Ran (x : ItemConfig) (p : Task × Task) (v v' : ValueTask) : Prop where
  before : p.1.valueTask? = some v
  after : p.2.valueTask? = some v'
  item : v.item = x.id
  flushed : v'.flushed = x.flushed v.entry v'.result

lemma ItemConfig.flushes_runs (x : ItemConfig) {l : List (Task × Task)} (hl : ∀ p ∈ l, ∃ v v', x.Ran p v v')
    (hr : l.filterMap (fun p => p.2.result?) = x.rules.results .empty (l.filterMap fun p => p.1.input?)) :
    (l.map Prod.snd).filterMap Task.flushed? =
      x.flushes ((l.map Prod.fst).filterMap (Task.entryFor? x.id)) := by
  have hi : ((l.map Prod.fst).filterMap (Task.entryFor? x.id)).map Input.timed =
      l.filterMap fun p => p.1.input? := by
    rw [List.filterMap_map, List.map_filterMap]
    refine List.filterMap_congr fun p hp => ?_
    obtain ⟨v, v', h⟩ := hl p hp
    simp [Task.entryFor?, h.before, h.item, Task.input?, ValueTask.entry, Input.timed, ValueTask.input]
  rw [ItemConfig.flushes, hi, ← hr]
  clear hr hi
  induction l with
  | nil => rfl
  | cons p l ih =>
    obtain ⟨v, v', h⟩ := hl p List.mem_cons_self
    have hf : p.2.flushed? = some (x.flushed v.entry v'.result) := by
      simp [Task.flushed?, h.after, h.flushed]
    have he : p.1.entryFor? x.id = some v.entry := by
      simp [Task.entryFor?, h.before, h.item]
    have hr : p.2.result? = some v'.result := by
      simp [Task.result?, h.after]
    simp only [List.map_cons, List.filterMap_cons, hf, he, hr, List.zipWith_cons_cons,
      ih fun q hq => hl q (List.mem_cons_of_mem _ hq)]

namespace Workshop

variable {c : Config} {g : ManagerConfig} {m : Manager} {n : Nat} {as as' : List Act} {es : List Event}
  {w : Workshop} {x : ItemConfig} {y : Item} {t : Task}

lemma Following.kind_eq (f : w.Following c as es) (hm : Manager.start g = .ok m)
    (h : Course (opening m n) as' es w) (hy : w.manager.items.get? x.id = some y)
    (ht : t ∈ es.filterMap Event.made?) :
    t.ofKind x.id y.rules.isSerial = (t.valueTask?.any fun v => v.item == x.id) ∧
      t.uses y.edition.number = t.valueTask?.any fun v => v.item == x.id := by
  cases hv : t.valueTask? with
  | none => simp [Task.ofKind, Task.uses, t.isTest_eq_isNone, hv]
  | some v =>
    obtain ⟨⟨z, hz, -, edition⟩, -⟩ := f.prepared t ht v hv
    obtain ⟨-, hs⟩ := h.genuine hm t ht v hv
    have item := Task.item_of_valueTask? hv
    by_cases hx : v.item = x.id
    · obtain rfl : y = z := by simpa [hx, hy] using hz
      have hr : v.rules = y.rules := congrArg Edition.rules edition.symm
      simp [Task.ofKind, Task.uses, t.isTest_eq_isNone, hv, hx, item, hs, hr, edition]
    · have hn : v.edition.number ≠ y.edition.number := by
        intro hn
        exact hx (f.distinct _ _ z y hz hy (by rw [edition, hn]))
      have hb : (v.item == x.id) = false := by simpa using hx
      simp [Task.ofKind, Task.uses, hv, hb, item, hn]

lemma Following.ran (f : w.Following c as es) (hm : Manager.start g = .ok m)
    (h : Course (opening m n) as' es w) (hc : c.Checked) (hx : x ∈ c.items) {p : Task × Task}
    (hp : p ∈ es.filterMap Event.ran?) :
    p.2.ofKind x.id x.rules.isSerial = p.1.ofKind x.id x.rules.isSerial ∧
      p.2.valueTask?.any (fun v => v.item == x.id) = p.1.valueTask?.any (fun v => v.item == x.id) ∧
      (p.1.valueTask?.any (fun v => v.item == x.id) = true → ∃ v v', x.Ran p v v') := by
  have made := h.ran_made hm p hp
  obtain ⟨t, d⟩ := p
  obtain ⟨b, rfl⟩ : ∃ b, d = (t.run b).1 := h.of_ran hp
  refine ⟨t.run_ofKind b, ?_, fun hi => ?_⟩
  · rw [Task.run_valueTask?]
    cases Task.valueTask? _ <;> rfl
  · obtain ⟨v, hv, hi⟩ := (Option.any_eq_true _ _).1 hi
    obtain ⟨⟨z, hz, host, edition⟩, -⟩ := f.prepared t made v hv
    obtain ⟨x', hx', hxi, hxh, hxr⟩ := f.stocked.of_get? hz host edition
    have hi : v.item = x.id := by simpa using hi
    obtain rfl := hc.eq_of_id hx' hx (hxi.trans hi)
    refine ⟨v, (v.run b).1, hv, by simp [Task.run_valueTask?, hv], hi, ?_⟩
    have ht : x'.valueType = v.rules.valueType := congrArg RuleSet.valueType hxr
    have hds : x'.discovery = v.rules.discovery := congrArg RuleSet.discovery hxr
    simp only [ItemConfig.flushed, hxi, hxh, ht, hds]
    rfl

lemma Following.flushesFor_eq (f : w.Following c as es) (hm : Manager.start g = .ok m)
    (h : Course (opening m n) as' es w) (hc : c.Checked) (hx : x ∈ c.items) :
    flushesFor x.id es =
      ((es.filterMap Event.settled?).filter (Task.ofKind x.id x.rules.isSerial)).filterMap Task.flushed? := by
  obtain ⟨y, hy, -, -, hyr⟩ := f.stocked.get? hc hx
  rw [flushesFor, Event.outputs_eq h.proper, List.filterMap_map, List.filter_filterMap,
    List.filterMap_filter]
  refine List.filterMap_congr fun d hd => ?_
  obtain ⟨p, hp, rfl⟩ := h.settled_ran hm d hd
  obtain ⟨hk, hi, -⟩ := f.ran hm h hc hx hp
  have hm := (f.kind_eq hm h hy (h.ran_made hm p hp)).1
  rw [hyr] at hm
  rw [hk, hm, ← hi, Function.comp_apply, Task.answer_toFlushed, Task.flushed?]
  cases hv : p.2.valueTask? with
  | none => simp
  | some v => simp [Option.filter, ValueTask.flushed]

lemma Following.apart (f : w.Following c as es) (i : UInt64) (s : Bool) : Floor.Apart i s es := by
  refine .inr ?_
  by_cases hi : ∃ p ∈ c.items, i ∈ p.dependents
  · obtain ⟨p, hp, hi⟩ := hi
    refine .inl fun y t ht => Task.ofKind_of_ne ?_
    rintro rfl
    exact f.fed y t ht p hp hi
  · refine .inr fun y t ht => Task.ofKind_of_ne ?_
    rintro rfl
    exact hi (f.bred y t ht)

lemma Following.flushes_ran (f : w.Following c as es) (hm : Manager.start g = .ok m)
    (h : Course (opening m n) as' es w) (hc : c.Checked) (hx : x ∈ c.items) :
    (((es.filterMap Event.ran?).map Prod.snd).filter (Task.ofKind x.id x.rules.isSerial)).filterMap
        Task.flushed? =
      x.flushes ((((es.filterMap Event.ran?).map Prod.fst).filter
        (Task.ofKind x.id x.rules.isSerial)).filterMap (Task.entryFor? x.id)) := by
  obtain ⟨y, hy, -, -, hyr⟩ := f.stocked.get? hc hx
  have kind (p : Task × Task) (hp : p ∈ es.filterMap Event.ran?) := f.kind_eq hm h hy (h.ran_made hm p hp)
  rw [hyr] at kind
  let l := (es.filterMap Event.ran?).filter fun p => p.1.ofKind x.id x.rules.isSerial
  have runs_eq : runs y.edition.number es = l :=
    List.filter_congr fun p hp => (kind p hp).2.trans (kind p hp).1.symm
  have each : ∀ p ∈ l, ∃ v v', x.Ran p v v' := by
    intro p hp
    obtain ⟨hp, hk⟩ := List.mem_filter.1 hp
    exact (f.ran hm h hc hx hp).2.2 ((kind p hp).1.symm.trans hk)
  obtain ⟨-, k, issued⟩ := (h.registered hm).items _ y hy
  have results := (h.recalled hm).results k y.edition issued
  rw [outcomes, inputs, runs_eq, show y.edition.rules = x.rules from hyr] at results
  have snd : ((es.filterMap Event.ran?).map Prod.snd).filter (Task.ofKind x.id x.rules.isSerial) =
      l.map Prod.snd := by
    rw [List.filter_map]
    exact congrArg _ (List.filter_congr fun p hp => (f.ran hm h hc hx hp).1)
  rw [snd, List.filter_map]
  exact x.flushes_runs each results

lemma Following.received_eq (f : w.Following c as es) (hm : Manager.start g = .ok m)
    (h : Course (opening m n) as' es w) (hc : c.Checked) (hx : x ∈ c.items) :
    received x.id es =
      ((es.filterMap Event.made?).filter (Task.ofKind x.id x.rules.isSerial)).filterMap
        (Task.entryFor? x.id) := by
  obtain ⟨y, hy, -, -, hyr⟩ := f.stocked.get? hc hx
  refine (filterMap_filter_of_imp fun t ht hk => ?_).symm
  rw [← hyr, (f.kind_eq hm h hy ht).1] at hk
  cases hv : t.valueTask? with
  | none => simp [Task.entryFor?, hv]
  | some v => simpa [Task.entryFor?, hv] using hk

lemma Following.flushes (f : w.Following c as es) (hm : Manager.start g = .ok m)
    (h : Course (opening m n) as' es w) (one : n ≤ 1) (hc : c.Checked) (hx : x ∈ c.items) :
    flushesFor x.id es <+: x.flushes (received x.id es) ∧
      (w.manager.inFlight = 0 → flushesFor x.id es = x.flushes (received x.id es)) := by
  have line := h.inLine hm (.inr one) (f.apart x.id x.rules.isSerial)
  have ran := f.flushes_ran hm h hc hx
  rw [f.flushesFor_eq hm h hc hx, f.received_eq hm h hc hx]
  constructor
  · have handled := (line.ran ▸ List.prefix_append _ _ :
      (es.filterMap Event.settled?).filter (Task.ofKind x.id x.rules.isSerial) <+: _)
    have made := (line.made ▸ List.prefix_append _ _ :
      ((es.filterMap Event.ran?).map Prod.fst).filter (Task.ofKind x.id x.rules.isSerial) <+: _)
    exact (handled.filterMap _).trans (ran ▸ x.flushes_prefix (made.filterMap _))
  · intro quiet
    obtain ⟨hu, hp, hq⟩ := (h.counted hm).rest (h.balanced hm) quiet
    rw [line.made, ← List.append_nil ((es.filterMap Event.settled?).filter _)]
    have hl := line.ran
    simp only [hp, Floor.line_nil] at hl
    rw [← hl, ran, Floor.queueing, hu, hq]
    simp

lemma Following.receives (f : w.Following c as es) (hm : Manager.start g = .ok m)
    (h : Course (opening m n) as' es w) (one : n ≤ 1) (hc : c.Checked) {i : UInt64} (hi : i ∈ c.ids)
    {l : List Input} (hl : c.Receives (fedTo as) i l) :
    received i es <+: l ∧ (w.manager.inFlight = 0 → received i es = l) := by
  induction hl with
  | source free =>
    rw [f.source _ hi free]
    exact ⟨List.prefix_refl _, fun _ => rfl⟩
  | @dependent p i l mem listed _ ih =>
    -- what `p` receives is settled by induction, and so is what it has flushed by now
    obtain ⟨hr, ho⟩ := ih (List.mem_map_of_mem mem)
    obtain ⟨hp, hq⟩ := f.flushes hm h one hc mem
    rw [f.dependent p mem i listed]
    refine ⟨(hp.trans (p.flushes_prefix hr)).filterMap _, fun quiet => ?_⟩
    rw [hq quiet, ho quiet]

lemma Following.flushesFor_unknown (f : w.Following c as es) (hm : Manager.start g = .ok m)
    (h : Course (opening m n) as' es w) {i : UInt64} (hi : i ∉ c.ids) : flushesFor i es = [] := by
  rw [flushesFor, Event.outputs_eq h.proper, List.filterMap_map, List.filter_filterMap,
    List.filterMap_eq_nil_iff]
  intro d hd
  obtain ⟨p, hp, rfl⟩ := h.settled_ran hm d hd
  rw [Function.comp_apply, Task.answer_toFlushed, Task.flushed?]
  cases hv : p.2.valueTask? with
  | none => rfl
  | some v =>
    obtain ⟨⟨z, hz, host, edition⟩, -⟩ := h.finished hm f.prepared p hp v hv
    obtain ⟨x, hx, hxi, -, -⟩ := f.stocked.of_get? hz host edition
    have hne : v.item ≠ i := by
      rintro rfl
      exact hi (hxi ▸ List.mem_map_of_mem hx)
    simp [Option.filter, ValueTask.flushed, hne]

/-- Take a manager whose table has been filled from a checked configuration in which no item is listed
twice, one worker, and any order of feeds, trials, drains and the worker's steps from then on, with values
fed to items only that no item lists. Then it is settled what each item is to receive, and what is flushed
for it is at any moment the beginning of what it makes of that, and all of it when nothing is in flight.
Nothing is flushed for any other item. -/
theorem pipeline_refines (hc : c.check = .ok ()) (single : (c.items.flatMap (·.dependents)).Nodup)
    (hm : Manager.start c.manager = .ok m)
    (h : Course (opening m 1) (c.items.map ItemConfig.add ++ as) es w)
    (table : ∀ a ∈ as, a.keepsTable = true)
    (sources : ∀ i v t o, .feed i v t o ∈ as → ∀ p ∈ c.items, i ∉ p.dependents) :
    (∀ x ∈ c.items, ∃ l, c.Receives (fedTo as) x.id l ∧ (∀ l', c.Receives (fedTo as) x.id l' → l' = l) ∧
      flushesFor x.id es <+: x.flushes l ∧ (w.manager.inFlight = 0 → flushesFor x.id es = x.flushes l)) ∧
    ∀ i, i ∉ c.ids → flushesFor i es = [] := by
  have checked := Config.checked_of_check hc
  have f : w.Following c as es := by
    obtain ⟨es₁, es₂, w₁, rfl, h₁, h₂⟩ := h.of_append
    obtain ⟨rfl, -⟩ := h₁.stocked_of_add hm
    refine Course.following hm checked single h₁ h₂ table fun a ha i hf => ?_
    cases a <;> simp only [Act.fedTo?, ne_eq, not_true_eq_false] at hf
    obtain rfl : _ = i := by simpa using hf
    exact sources _ _ _ _ ha
  refine ⟨fun x hx => ?_, fun i hi => f.flushesFor_unknown hm h hi⟩
  obtain ⟨l, hl⟩ := checked.exists_receives (fedTo as) x.id
  obtain ⟨hr, ho⟩ := f.receives hm h (Nat.le_refl 1) checked (List.mem_map_of_mem hx) hl
  obtain ⟨hp, hq⟩ := f.flushes hm h (Nat.le_refl 1) checked hx
  refine ⟨l, hl, fun l' hl' => hl'.unique single hl, hp.trans (x.flushes_prefix hr), fun quiet => ?_⟩
  rw [hq quiet, ho quiet]

theorem pipeline_refines_of_two :
    ∃ (c : Config) (m : Manager) (as : List Act) (es : List Event) (w : Workshop) (l : List Input),
      c.check = .ok () ∧
      Course (opening m 1) (c.items.map ItemConfig.add ++ as) es w ∧ w.manager.inFlight = 0 ∧
      c.Receives (fedTo as) 8 l ∧ (flushesFor 8 es).length = 1 ∧
      flushesFor 8 es = ItemConfig.flushes { id := 8 } l := by
  let c : Config := { items := [{ id := 7, dependents := [8] }, { id := 8 }] }
  let as : List Act :=
    [.feed 7 (.text "up") ⟨1⟩ {}, .pop, .run, .put, .drain 1, .take, .settle, .stop,
      .pop, .run, .put, .drain 1, .take, .settle, .stop]
  have sources : ∀ i v t o, .feed i v t o ∈ as → ∀ p ∈ c.items, i ∉ p.dependents := by
    intro i v t o hf
    obtain rfl : i = 7 := by
      simp only [as, List.mem_cons, Act.feed.injEq, reduceCtorEq, List.not_mem_nil, or_false] at hf
      exact hf.1
    decide
  have h := (Course.nil : Course (opening { batchSize := 256, queue := { workers := 3 } } 1) [] [] _)
    |>.snoc (.add 7 0 { dependents := [8] } rfl)
    |>.snoc (.add 8 0 {} rfl)
    |>.snoc (.feed 7 (.text "up") ⟨1⟩ {} rfl)
    |>.snoc (.pop (l := []) (r := []) (v := {}) rfl rfl)
    |>.snoc (.run (l := []) (r := []) rfl rfl rfl)
    |>.snoc (.put (l := []) (r := []) rfl rfl)
    |>.snoc (.drain 1 rfl)
    |>.snoc (.take rfl rfl)
    |>.snoc (.settle rfl)
    |>.snoc (.stop rfl (.inl rfl))
    |>.snoc (.pop (l := []) (r := []) rfl rfl)
    |>.snoc (.run (l := []) (r := []) rfl rfl rfl)
    |>.snoc (.put (l := []) (r := []) rfl rfl)
    |>.snoc (.drain 1 rfl)
    |>.snoc (.take rfl rfl)
    |>.snoc (.settle rfl)
    |>.snoc (.stop rfl (.inl rfl))
  obtain ⟨l, hl, -, -, hq⟩ := (pipeline_refines (c := c) rfl (by decide) rfl
    (h : Course _ (c.items.map ItemConfig.add ++ as) _ _) (by simp [Act.keepsTable]) sources).1
    { id := 8 } (by simp [c])
  exact ⟨c, _, as, _, _, l, rfl, h, rfl, hl, rfl, hq rfl⟩

end Workshop

end ItemPipeline
