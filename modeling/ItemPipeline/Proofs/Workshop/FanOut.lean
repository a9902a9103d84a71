import ItemPipeline.Proofs.Workshop.Passing

/-!
What becomes of a result that is passed on. The items that receive it are those listed that are in the
table when it is handled; but whether there is anything for them to receive is settled when the value is
queued, since a task for which no listed item is known then does not keep its result.
-/

namespace ItemPipeline

structure Item.Takes (x : Item) (p : ValueTask) (t : Task) : Prop where
  entry : ∃ v, t.valueTask? = some v ∧ v.item = x.id ∧ v.host = x.host ∧ v.edition = x.edition ∧
    v.entry = ⟨p.result, p.time, {}⟩
  dependent : (∃ d, t = .dependent d) ↔ x.rules.dependents ≠ []
  isSerial : t.isSerial = x.rules.isSerial

namespace Manager

variable {m : Manager} {v : ValueTask} {d : DependentTask}

lemma taskOf_eq_dependent (h : m.taskOf v = .dependent d) :
    d = ⟨v, (m.fed v.rules).head?.map Item.rules, none⟩ := by
  unfold taskOf Task.ofValue at h
  split at h
  · split at h <;> cases h
  · cases h
    rfl

lemma taskOf_dependent_iff : (∃ d, m.taskOf v = .dependent d) ↔ v.rules.dependents ≠ [] := by
  constructor
  · rintro ⟨d, hd⟩ hl
    simp only [taskOf, hl, List.isEmpty_nil, if_true, Task.ofValue] at hd
    split at hd <;> cases hd
  · intro hl
    exact ⟨_, if_neg (by simpa using hl)⟩

lemma taskOf_takes (m : Manager) (x : Item) {k : Cache} {p : ValueTask} (hk : k.value = p.result) :
    x.Takes p (m.taskOf (.ofCache x k p.time {})) where
  entry := ⟨_, m.taskOf_valueTask? _, rfl, rfl, rfl, by rw [← hk]; rfl⟩
  dependent := taskOf_dependent_iff
  isSerial := m.taskOf_isSerial _

lemma forall₂_fed (m : Manager) (r : RuleSet) :
    List.Forall₂ (fun i x => m.items.get? i = some x) (r.dependents.filter m.items.contains) (m.fed r) := by
  rw [fed]
  induction r.dependents with
  | nil => exact .nil
  | cons i l ih =>
    cases hi : m.items.get? i with
    | none => simpa [List.filter_cons, List.filterMap_cons, Table.contains, hi] using ih
    | some x => simpa [List.filter_cons, List.filterMap_cons, Table.contains, hi] using ih

lemma fed_ne_nil_iff (r : RuleSet) : m.fed r ≠ [] ↔ ∃ i ∈ r.dependents, m.items.contains i = true := by
  simp [fed, Table.contains, Option.isSome_iff_ne_none]

lemma bred_of_cached {k : Cache} (hk : d.cache = some k) :
    (m.bred (.dependent d)).map Prod.snd =
      (m.fed d.primary.rules).map fun x => m.taskOf (.ofCache x k d.primary.time {}) := by
  obtain ⟨p, r, c⟩ := d
  obtain rfl : c = some k := hk
  simp [bred]

lemma bred_of_uncached (hk : d.cache = none) : m.bred (.dependent d) = [] := by
  obtain ⟨p, r, c⟩ := d
  obtain rfl : c = none := hk
  rfl

lemma pushFed_eq : pushFed = fun q t => if t.isSerial then q.pushSerial t else q.pushImmediate (.single t) := by
  funext q t
  unfold pushFed
  split
  · rename_i h
    exact q.push_of_isSerial h
  · rfl

end Manager

lemma Task.run_eq_dependent {t : Task} {b : Bench} {d : DependentTask} (h : (t.run b).1 = .dependent d) :
    ∃ d₀, t = .dependent d₀ ∧ d = (d₀.run b).1 := by
  cases t with
  | dependent d₀ => exact ⟨d₀, rfl, by simpa [run] using h.symm⟩
  | _ => simp [run] at h

namespace Workshop

variable {c : ManagerConfig} {m : Manager} {n left : Nat} {as : List Act} {e es : List Event} {w w' : Workshop}
  {j : Job} {d : DependentTask}

lemma Turn.settle_made (h : Turn w .settle e w') (duty : w.duty = .settling left j) :
    e.filterMap Event.made? = (w.manager.bred j.task).map Prod.snd ∧
      w'.manager.queue = (e.filterMap Event.made?).foldl Manager.pushFed w.manager.queue := by
  cases h with
  | @settle left' j' duty' =>
    obtain ⟨-, rfl⟩ := Duty.settling.inj (duty.symm.trans duty')
    have made : ((w.manager.bred j.task).map fun b => Event.bred b.1 b.2).filterMap Event.made? =
        (w.manager.bred j.task).map Prod.snd := Event.filterMap_made_bred _
    simp only [w.manager.settleTask_eq, List.filterMap_cons, Event.made?, made, List.foldl_map, and_self]

lemma Course.settling_dependent (hm : Manager.start c = .ok m) (h : Course (opening m n) as es w)
    (duty : w.duty = .settling left j) (hd : j.task = .dependent d) :
    ∃ v a e v' t b, Through (opening m n) as es w v a e v' ∧ t ∈ e.filterMap Event.made? ∧
      (t.run b).1 = j.task ∧
      d.cache =
        if d.primary.feeds then
          (v.manager.fed d.primary.rules).head?.map fun x => (Cache.ofRules x.rules d.primary.result).prepare
        else none := by
  obtain ⟨⟨t, k⟩, hp, hk⟩ := h.settling_ran hm duty
  obtain ⟨b, hb⟩ := h.of_ran hp
  obtain ⟨x, hx, hxt⟩ := List.mem_filterMap.1 (h.ran_made hm _ hp)
  obtain ⟨v, a, e, v', he, through⟩ := h.through hx
  have made : t ∈ e.filterMap Event.made? := List.mem_filterMap.2 ⟨x, he, hxt⟩
  obtain ⟨d₀, rfl, rfl⟩ := Task.run_eq_dependent ((hb.symm.trans hk).trans hd)
  refine ⟨v, a, e, v', _, b, through, made, hb.symm.trans hk, ?_⟩
  obtain ⟨as₁, as₂, es₁, es₂, -, -, -, turn, -⟩ := through
  obtain ⟨i, y, -, task, -⟩ := turn.made made rfl
  rw [Manager.taskOf_eq_dependent task.symm]
  simp only [DependentTask.run, Option.map_map]
  rfl

/-- When a result other than none or an error is handled, and an item to which it is to be passed on was
known at the time its task was made, each listed item that is known now receives it, in the order of the
list, through one new task of its own. Otherwise nothing is made. -/
theorem fan_out (hm : Manager.start c = .ok m) (h : Course (opening m n) as es w)
    (duty : w.duty = .settling left j) (hd : j.task = .dependent d) (turn : Turn w .settle e w') :
    w'.manager.queue = (e.filterMap Event.made?).foldl
      (fun q t => if t.isSerial then q.pushSerial t else q.pushImmediate (.single t)) w.manager.queue ∧
    ∃ v a e₁ v' t b, Through (opening m n) as es w v a e₁ v' ∧ t ∈ e₁.filterMap Event.made? ∧
      (t.run b).1 = j.task ∧
      ((d.primary.feeds = true ∧ ∃ i ∈ d.primary.rules.dependents, v.manager.items.contains i = true) →
        List.Forall₂ (fun i t => ∃ x, w.manager.items.get? i = some x ∧ x.id = i ∧ x.Takes d.primary t)
          (d.primary.rules.dependents.filter w.manager.items.contains) (e.filterMap Event.made?)) ∧
      (¬ (d.primary.feeds = true ∧ ∃ i ∈ d.primary.rules.dependents, v.manager.items.contains i = true) →
        e.filterMap Event.made? = []) := by
  obtain ⟨v, a, e₁, v', t, b, through, made, run, cached⟩ := h.settling_dependent hm duty hd
  obtain ⟨created, queue⟩ := turn.settle_made duty
  rw [Manager.pushFed_eq] at queue
  refine ⟨queue, v, a, e₁, v', t, b, through, made, run, ?_, ?_⟩
  all_goals rw [created, hd, ← Manager.fed_ne_nil_iff]
  · rintro ⟨feeds, known⟩
    obtain ⟨y, l, first⟩ := List.exists_cons_of_ne_nil known
    simp only [feeds, first, List.head?_cons, Option.map_some, if_true] at cached
    rw [Manager.bred_of_cached cached, List.forall₂_map_right_iff]
    refine (w.manager.forall₂_fed d.primary.rules).imp fun i x hx => ⟨x, hx, ?_, ?_⟩
    · exact ((h.registered hm).items i x hx).1
    · exact w.manager.taskOf_takes x (Cache.prepare_value _)
  · intro missed
    have none : d.cache = none := by
      rw [cached]
      split
      · rename_i feeds
        have unknown : v.manager.fed d.primary.rules = [] := by simpa [feeds] using missed
        rw [unknown]
        rfl
      · rfl
    rw [Manager.bred_of_uncached none, List.map_nil]

theorem fan_out_of_known :
    ∃ as es w e w' d, Course (opening { batchSize := 256, queue := { workers := 3 } } 1) as es w ∧
      Turn w .settle e w' ∧ (e.filterMap Event.made?).length = 2 ∧
      List.Forall₂ (fun i t => ∃ x, w.manager.items.get? i = some x ∧ x.id = i ∧ x.Takes d t) [9, 8]
        (e.filterMap Event.made?) := by
  have h := (Course.nil : Course (opening { batchSize := 256, queue := { workers := 3 } } 1) [] [] _)
    |>.snoc (.add 7 0 { dependents := [9, 8, 10] } rfl)
    |>.snoc (.add 8 0 {} rfl)
    |>.snoc (.feed 7 (.text "up") ⟨1⟩ {} rfl)
    |>.snoc (.add 9 0 {} rfl)
    |>.snoc (.pop (l := []) (r := []) (v := {}) rfl rfl)
    |>.snoc (.run (l := []) (r := []) rfl rfl rfl)
    |>.snoc (.put (l := []) (r := []) rfl rfl)
    |>.snoc (.drain 1 rfl)
    |>.snoc (.take rfl rfl)
  obtain ⟨-, v, a, e₁, v', t, b, -, -, -, takes, missed⟩ := fan_out (c := {}) rfl h rfl rfl (.settle rfl)
  have known := not_imp_comm.1 missed (List.cons_ne_nil _ _)
  exact ⟨_, _, _, _, _, _, h, .settle rfl, rfl, takes known⟩

/-- An item that is known by the time the result is handled misses it, if none was when the value was
queued. -/
theorem fan_out_missed :
    ∃ as es w e w' left j d x, Course (opening { batchSize := 256, queue := { workers := 3 } } 1) as es w ∧
      w.duty = .settling left j ∧ j.task = .dependent d ∧ d.primary.result.isNone = false ∧
      d.primary.result.isError = false ∧ d.primary.rules.dependents = [8] ∧
      w.manager.items.get? 8 = some x ∧ Turn w .settle e w' ∧ e.filterMap Event.made? = [] := by
  have h := (Course.nil : Course (opening { batchSize := 256, queue := { workers := 3 } } 1) [] [] _)
    |>.snoc (.add 7 0 { dependents := [8] } rfl)
    |>.snoc (.feed 7 (.text "up") ⟨1⟩ {} rfl)
    |>.snoc (.add 8 0 {} rfl)
    |>.snoc (.pop (l := []) (r := []) (v := {}) rfl rfl)
    |>.snoc (.run (l := []) (r := []) rfl rfl rfl)
    |>.snoc (.put (l := []) (r := []) rfl rfl)
    |>.snoc (.drain 1 rfl)
    |>.snoc (.take rfl rfl)
  exact ⟨_, _, _, _, _, _, _, _, _, h, rfl, rfl, rfl, rfl, rfl, rfl, .settle rfl, rfl⟩

end Workshop

end ItemPipeline
