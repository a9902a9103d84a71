import ItemPipeline.Proofs.Workshop.Draining
import ItemPipeline.Proofs.Workshop.Runs
import Mathlib.Algebra.BigOperators.Group.Multiset.Basic
import Mathlib.Algebra.Group.Action.Defs
import Mathlib.Algebra.Order.BigOperators.Group.List
import Mathlib.Algebra.Order.BigOperators.Group.Multiset
import Mathlib.Algebra.Order.Group.Nat

/-!
How many tasks are ahead: those in flight, with all that they will lead to. A task that is handled is one
less, whatever it leads to, and while the table is that of a checked configuration there are no more than
the paths through its items allow for.
-/

namespace ItemPipeline

open scoped Classical in
noncomputable def Config.below (c : Config) (i : UInt64) : Finset UInt64 :=
  c.ids.toFinset.filter (Relation.TransGen c.Feeds i)

namespace Config.Checked

variable {c : Config} {weight : UInt64 → Nat} {k n : Nat}

lemma below_ssubset (h : c.Checked) {i d : UInt64} (hd : d ∈ c.dependents i) : c.below d ⊂ c.below i := by
  classical
  rw [Finset.ssubset_iff_of_subset]
  · refine ⟨d, ?_, ?_⟩
    · exact Finset.mem_filter.2 ⟨List.mem_toFinset.2 (h.dependents_subset i hd), .single hd⟩
    · exact fun hm => h.irrefl_feeds d (Finset.mem_filter.1 hm).2
  · intro j hj
    obtain ⟨hj, path⟩ := Finset.mem_filter.1 hj
    exact Finset.mem_filter.2 ⟨hj, .head hd path⟩

lemma weight_le_below (h : c.Checked) (hw : ∀ i, weight i = ((c.dependents i).map weight).sum + 1)
    (wide : ∀ i, (c.dependents i).length ≤ k) (i : UInt64) : weight i ≤ Nat.pow (k + 1) (c.below i).card := by
  have wf : WellFounded fun d i => d ∈ c.dependents i := ⟨h.acc_dependents⟩
  induction i using wf.induction with
  | _ i ih =>
    rw [hw]
    cases hb : (c.below i).card with
    | zero =>
      have none : c.dependents i = [] := List.eq_nil_iff_forall_not_mem.2 fun d hd => by
        have := Finset.card_lt_card (h.below_ssubset hd)
        omega
      simp [none]
    | succ b =>
      have each : ∀ x ∈ (c.dependents i).map weight, x ≤ Nat.pow (k + 1) b := by
        intro x hx
        obtain ⟨d, hd, rfl⟩ := List.mem_map.1 hx
        have less := Finset.card_lt_card (h.below_ssubset hd)
        exact (ih d hd).trans (Nat.pow_le_pow_right (Nat.succ_pos k) (by omega))
      have sum := List.sum_le_card_nsmul _ _ each
      have length := Nat.mul_le_mul_right (Nat.pow (k + 1) b) (wide i)
      have one : 1 ≤ Nat.pow (k + 1) b := Nat.one_le_pow b (k + 1) (Nat.succ_pos k)
      have power : Nat.pow (k + 1) (b + 1) = k * Nat.pow (k + 1) b + Nat.pow (k + 1) b :=
        (Nat.mul_comm _ _).trans (Nat.succ_mul k _)
      rw [List.length_map, smul_eq_mul] at sum
      omega

lemma weight_le (h : c.Checked) (hw : ∀ i, weight i = ((c.dependents i).map weight).sum + 1)
    (wide : ∀ i, (c.dependents i).length ≤ k) (size : c.ids.toFinset.card ≤ n) (i : UInt64) :
    weight i ≤ Nat.pow (k + 1) n := by
  classical
  have few := Finset.card_le_card (Finset.filter_subset (Relation.TransGen c.Feeds i) c.ids.toFinset)
  exact (h.weight_le_below hw wide i).trans (Nat.pow_le_pow_right (Nat.succ_pos k) (few.trans size))

end Config.Checked

lemma Act.keepsTable_of_isInner {a : Act} (h : a.isInner = true) : a.keepsTable = true := by
  cases a <;> simp_all [isInner, keepsTable]

lemma le_foldl_max {l : List Nat} {n a : Nat} (h : n ∈ l) : n ≤ l.foldl max a := by
  have grows : ∀ (l : List Nat) a, a ≤ l.foldl max a := by
    intro l
    induction l with
    | nil => exact Nat.le_refl
    | cons b l ih => exact fun a => (Nat.le_max_left a b).trans (ih _)
  induction l generalizing a with
  | nil => simp at h
  | cons b l ih =>
    rcases List.mem_cons.1 h with rfl | h
    · exact (Nat.le_max_right a n).trans (grows l _)
    · exact ih h

namespace Manager.Stocked

variable {c : Config} {m : Manager} {weight : UInt64 → Nat} {b : Nat}

lemma dependents_le (h : m.Stocked c) (hc : c.Checked) (i : UInt64) :
    (c.dependents i).length ≤ (m.items.values.map fun y => y.rules.dependents.length).foldl max 0 := by
  by_cases hi : i ∈ c.ids
  · obtain ⟨x, hx, rfl⟩ := List.mem_map.1 hi
    obtain ⟨y, hy, -, -, rules⟩ := h.get? hc hx
    have dependents : y.rules.dependents = x.dependents := congrArg RuleSet.dependents rules
    have mem : y ∈ m.items.values := List.mem_map_of_mem (Table.mem_entries hy)
    rw [hc.dependents_eq hx, ← dependents]
    exact le_foldl_max (List.mem_map_of_mem mem)
  · rw [Config.dependents_of_unknown hi]
    exact Nat.zero_le _

lemma ids_card_le (h : m.Stocked c) : c.ids.toFinset.card ≤ m.items.size := by
  have subset : c.ids.toFinset ⊆ m.items.keys.toFinset := by
    intro i hi
    obtain ⟨x, hx, rfl⟩ := List.mem_map.1 (List.mem_toFinset.1 hi)
    obtain ⟨y, hy⟩ := h.known x hx
    exact List.mem_toFinset.2 (List.mem_map_of_mem (Table.mem_entries hy))
  have keys := (Finset.card_le_card subset).trans (List.toFinset_card_le _)
  rwa [Table.keys, List.length_map] at keys

lemma weight_lt (h : m.Stocked c) (hc : c.Checked)
    (hw : ∀ i, weight i = ((c.dependents i).map weight).sum + 1) (bound : ∀ i, weight i ≤ b) {t : Task}
    (ht : t.Prepared m.items) : t.weight weight < b := by
  cases hv : t.valueTask? with
  | none =>
    have pos := bound 0
    rw [hw] at pos
    rw [Task.weight, hv]
    exact Nat.lt_of_lt_of_le (Nat.succ_pos _) pos
  | some v =>
    obtain ⟨⟨y, hy, host, edition⟩, -⟩ := ht v hv
    obtain ⟨x, hx, -, -, rules⟩ := h.of_get? hy host edition
    have less := bound x.id
    have dependents : v.rules.dependents = x.dependents := congrArg RuleSet.dependents rules.symm
    rw [hw, hc.dependents_eq hx, ← dependents] at less
    rw [Task.weight, hv]
    exact less

end Manager.Stocked

namespace Workshop

variable {c : Config} {s : ManagerConfig} {m : Manager} {n : Nat} {w w' : Workshop} {a : Act} {as : List Act}
  {e es : List Event} {o : List Output} {weight : UInt64 → Nat}

def ahead (weight : UInt64 → Nat) (w : Workshop) : Nat :=
  ((w.floor.waiting + w.floor.unsettled).map fun t => t.weight weight + 1).sum

lemma Course.ahead_eq (weight : UInt64 → Nat) (hm : Manager.start s = .ok m)
    (h : Course (opening m n) as es w) :
    ((es.filterMap Event.settled?).map fun t => t.weight weight + 1).sum + w.ahead weight =
      ((es.filterMap Event.made?).map fun t => t.weight weight + 1).sum := by
  have kept := h.kept (some ∘ fun t => t.weight weight + 1) (fun t b => by simp [t.run_weight weight b]) hm
  have sums := congrArg Multiset.sum kept
  rwa [List.filterMap_eq_map, Multiset.filterMap_eq_map, Multiset.sum_add, Multiset.sum_coe,
    Multiset.sum_coe] at sums

lemma Turn.made_add_le (ht : Turn w a e w') (inner : a.isInner = true) (table : w.manager.Stocked c)
    (hc : c.Checked) (hw : ∀ i, weight i = ((c.dependents i).map weight).sum + 1) :
    ((e.filterMap Event.made?).map fun t => t.weight weight + 1).sum + (e.filterMap Event.settled?).length ≤
      ((e.filterMap Event.settled?).map fun t => t.weight weight + 1).sum := by
  cases ht with
  | @settle left j duty =>
    have bred := table.bred_weight hc hw j.task
    have none : ((w.manager.bred j.task).map fun b => Event.bred b.1 b.2).filterMap Event.settled? = [] := by
      simp [Event.settled?]
    simp only [List.filterMap_cons, Event.made?, Event.settled?, Event.filterMap_made_bred, none,
      List.map_map, Function.comp_def, List.map_cons, List.map_nil, List.sum_cons, List.sum_nil,
      List.length_singleton]
    omega
  | run split hand result => simp [List.filterMap_cons, Event.made?, Event.settled?]
  | drain | stop | take | advance | pop | put => simp
  | _ => simp [Act.isInner] at inner

lemma Turn.ahead_add_le (hm : Manager.start s = .ok m) (h : Course (opening m n) as es w)
    (ht : Turn w a e w') (inner : a.isInner = true) (table : w.manager.Stocked c) (hc : c.Checked)
    (hw : ∀ i, weight i = ((c.dependents i).map weight).sum + 1) :
    w'.ahead weight + (e.flatMap Event.outputs).length ≤ w.ahead weight := by
  have before := h.ahead_eq weight hm
  have after := (h.snoc ht).ahead_eq weight hm
  have made := ht.made_add_le inner table hc hw
  rw [List.filterMap_append, List.filterMap_append, List.map_append, List.map_append, List.sum_append,
    List.sum_append] at after
  rw [Event.outputs_eq ht.proper, List.length_map]
  omega

lemma Goes.ahead_add_le (hm : Manager.start s = .ok m) (h : Course (opening m n) as es w)
    (table : w.manager.Stocked c) (hc : c.Checked)
    (hw : ∀ i, weight i = ((c.dependents i).map weight).sum + 1) (hg : Goes w o w') :
    w'.ahead weight + o.length ≤ w.ahead weight := by
  obtain ⟨bs, es', inner, rfl, hb⟩ := hg
  have all : w'.manager.items = w.manager.items ∧
      w'.ahead weight + (es'.flatMap Event.outputs).length ≤ w.ahead weight := by
    induction hb with
    | nil => simp
    | @snoc bs es' e v v' a hv ht ih =>
      rw [List.forall_mem_append, List.forall_mem_singleton] at inner
      obtain ⟨items, less⟩ := ih inner.1
      have step := ht.ahead_add_le hm (h.append hv) inner.2 (table.of_items items) hc hw
      refine ⟨(ht.table (Act.keepsTable_of_isInner inner.2)).1.trans items, ?_⟩
      rw [List.flatMap_append, List.length_append]
      omega
  exact all.2

lemma Course.inFlight_le_ahead (weight : UInt64 → Nat) (hm : Manager.start s = .ok m)
    (h : Course (opening m n) as es w) : w.manager.inFlight ≤ w.ahead weight := by
  have each : ∀ x ∈ (w.floor.waiting + w.floor.unsettled).map fun t => t.weight weight + 1, 1 ≤ x := by
    intro x hx
    obtain ⟨t, -, rfl⟩ := Multiset.mem_map.1 hx
    exact Nat.succ_pos _
  have sum := Multiset.card_nsmul_le_sum each
  rwa [Multiset.card_map, smul_eq_mul, Nat.mul_one, ← (h.counted hm).inFlight_eq (h.balanced hm)] at sum

lemma Course.weight_made (weight : UInt64 → Nat) (hm : Manager.start s = .ok m)
    (h : Course (opening m n) as es w) {t : Task} (ht : t ∈ w.floor.waiting + w.floor.unsettled) :
    ∃ u ∈ es.filterMap Event.made?, t.weight weight = u.weight weight := by
  rcases Multiset.mem_add.1 ht with ht | ht
  · refine ⟨t, Multiset.mem_coe.1 ?_, rfl⟩
    rw [(h.balanced hm).made]
    exact Multiset.mem_add.2 (.inr ht)
  · have mem : t ∈ (((es.filterMap Event.ran?).map Prod.snd : List Task) : Multiset Task) := by
      rw [(h.balanced hm).ran]
      exact Multiset.mem_add.2 (.inr ht)
    obtain ⟨p, hp, rfl⟩ := List.mem_map.1 (Multiset.mem_coe.1 mem)
    obtain ⟨b, hb⟩ := h.of_ran hp
    exact ⟨p.1, h.ran_made hm p hp, hb ▸ p.1.run_weight weight b⟩

lemma Course.ahead_le {b : Nat} (hm : Manager.start s = .ok m) (h : Course (opening m n) as es w)
    (bound : ∀ t ∈ es.filterMap Event.made?, t.weight weight < b) :
    w.ahead weight ≤ w.manager.inFlight * b := by
  have each : ∀ x ∈ (w.floor.waiting + w.floor.unsettled).map fun t => t.weight weight + 1, x ≤ b := by
    intro x hx
    obtain ⟨t, ht, rfl⟩ := Multiset.mem_map.1 hx
    obtain ⟨u, hu, weight_eq⟩ := h.weight_made weight hm ht
    exact weight_eq ▸ bound u hu
  have sum := Multiset.sum_le_card_nsmul _ b each
  rwa [Multiset.card_map, smul_eq_mul, ← (h.counted hm).inFlight_eq (h.balanced hm)] at sum

lemma Course.prepared (hm : Manager.start s = .ok m) (hc : c.Checked)
    (h : Course (opening m n) (c.items.map ItemConfig.add ++ as) es w)
    (table : ∀ a ∈ as, a.keepsTable = true) :
    w.manager.Stocked c ∧ ∀ t ∈ es.filterMap Event.made?, t.Prepared w.manager.items := by
  induction as using List.reverseRecOn generalizing es w with
  | nil =>
    rw [List.append_nil] at h
    obtain ⟨rfl, stocked⟩ := h.stocked_of_add hm
    exact ⟨⟨stocked.known, stocked.kept⟩, by simp⟩
  | append_singleton as a ih =>
    rw [← List.append_assoc] at h
    rw [List.forall_mem_append, List.forall_mem_singleton] at table
    obtain ⟨es, e, v, rfl, hv, ht⟩ := h.of_snoc
    obtain ⟨stocked, prepared⟩ := ih hv table.1
    have items := (ht.table table.2).1
    refine ⟨stocked.of_items items, ?_⟩
    rw [items, List.filterMap_append, List.forall_mem_append]
    exact ⟨prepared, ht.prepared stocked hc⟩

end Workshop

end ItemPipeline
