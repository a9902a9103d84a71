import ItemPipeline.Proofs.Table
import ItemPipeline.Proofs.Workshop.Floor

/-!
The item table and the editions. Each item stands under its own id, with an edition that was issued, and no two
editions have the same number, so that items share their memory only if one is restored with another's edition.
-/

namespace ItemPipeline

def Act.keepsTable : Act → Bool
  | add _ _ _ => false
  | restore _ => false
  | update _ _ => false
  | remove _ => false
  | _ => true

namespace Manager

variable (m : Manager) (i : UInt64)

lemma advance_eq : m.advance i = { m with queue := (m.advance i).queue } := by
  unfold advance
  split <;> rfl

end Manager

namespace Workshop

variable {w w' : Workshop} {a : Act} {es : List Event}

lemma Turn.table (h : Turn w a es w') (ha : a.keepsTable = true) :
    w'.manager.items = w.manager.items ∧ w'.manager.editions = w.manager.editions ∧
      w'.issued = w.issued := by
  cases h with
  | add | restore | update | remove => simp [Act.keepsTable] at ha
  | feed i v t o idle =>
    unfold Manager.enqueue
    split <;> exact ⟨rfl, rfl, rfl⟩
  | tryItem i v now idle =>
    unfold Manager.test
    split <;> exact ⟨rfl, rfl, rfl⟩
  | settle duty =>
    rw [w.manager.settleTask_eq]
    exact ⟨rfl, rfl, rfl⟩
  | @advance left i duty =>
    rw [w.manager.advance_eq]
    exact ⟨rfl, rfl, rfl⟩
  | _ => exact ⟨rfl, rfl, rfl⟩

lemma Turn.issues (h : Turn w a es w') :
    w.manager.editions ≤ w'.manager.editions ∧ w.issued ⊆ w'.issued ∧
      ∀ b ∈ w'.issued, b ∈ w.issued ∨ w.manager.editions ≤ b.2.number := by
  by_cases ha : a.keepsTable = true
  · obtain ⟨-, he, hs⟩ := h.table ha
    rw [he, hs]
    exact ⟨Nat.le_refl _, List.Subset.refl _, fun b hb => .inl hb⟩
  · cases h with
    | add i host r idle =>
      refine ⟨Nat.le_succ _, List.subset_cons_self _ _, List.forall_mem_cons.2 ⟨?_, fun b hb => .inl hb⟩⟩
      exact .inr (Nat.le_refl _)
    | update i r idle =>
      cases hx : w.manager.items.get? i with
      | none => simp +contextual [Manager.updateItem, hx]
      | some x => simp +contextual [Manager.updateItem, hx]
    | restore x idle known => exact ⟨Nat.le_refl _, List.Subset.refl _, fun b hb => .inl hb⟩
    | remove i idle => exact ⟨Nat.le_refl _, List.Subset.refl _, fun b hb => .inl hb⟩
    | _ => simp [Act.keepsTable] at ha

structure Registered (w : Workshop) : Prop where
  items : ∀ i x, w.manager.items.get? i = some x → x.id = i ∧ ∃ k, (k, x.edition) ∈ w.issued
  numbers : (w.issued.map fun b => b.2.number).Nodup
  bound : ∀ b ∈ w.issued, b.2.number < w.manager.editions

lemma Registered.eq_of_number (h : w.Registered) {b c : UInt64 × Edition} (hb : b ∈ w.issued)
    (hc : c ∈ w.issued) (hn : b.2.number = c.2.number) : b = c :=
  List.inj_on_of_nodup_map h.numbers hb hc hn

lemma Registered.issue (h : w.Registered) {i : UInt64} {x : Item} {r : RuleSet} {w' : Workshop}
    (id : x.id = i) (edition : x.edition = ⟨w.manager.editions, r⟩)
    (items : w'.manager.items = w.manager.items.insert i x)
    (editions : w'.manager.editions = w.manager.editions + 1)
    (issued : w'.issued = (i, ⟨w.manager.editions, r⟩) :: w.issued) : w'.Registered where
  items k y hk := by
    rw [items, Table.get?_insert] at hk
    rw [issued]
    split at hk
    · rename_i hi
      obtain rfl : x = y := by simpa using hk
      exact ⟨id.trans hi, i, edition ▸ List.mem_cons_self⟩
    · obtain ⟨own, j, hj⟩ := h.items k y hk
      exact ⟨own, j, List.mem_cons_of_mem _ hj⟩
  numbers := by
    rw [issued, List.map_cons, List.nodup_cons]
    refine ⟨fun hm => ?_, h.numbers⟩
    obtain ⟨b, hb, hn⟩ := List.mem_map.1 hm
    exact Nat.ne_of_lt (h.bound b hb) hn
  bound b hb := by
    rw [issued] at hb
    rw [editions]
    rcases List.mem_cons.1 hb with rfl | hb
    · exact Nat.lt_succ_self _
    · exact Nat.lt_succ_of_lt (h.bound b hb)

lemma Registered.turn (h : w.Registered) (ht : Turn w a es w') : w'.Registered := by
  by_cases ha : a.keepsTable = true
  · obtain ⟨hi, he, hs⟩ := ht.table ha
    exact ⟨by simpa only [hi, hs] using h.items, by simpa only [hs] using h.numbers,
      by simpa only [he, hs] using h.bound⟩
  · cases ht with
    | add i host r idle => exact h.issue rfl rfl rfl rfl rfl
    | restore x idle known =>
      refine ⟨fun k y hk => ?_, h.numbers, h.bound⟩
      simp only [Manager.register, Table.get?_insert] at hk
      split at hk
      · rename_i hi
        obtain rfl : x = y := by simpa using hk
        exact ⟨hi, known⟩
      · exact h.items k y hk
    | update i r idle =>
      cases hx : w.manager.items.get? i with
      | none => simpa [Manager.updateItem, hx] using h
      | some x =>
        have id : (x.revise ⟨w.manager.editions, r⟩).id = i := (h.items i x hx).1
        refine h.issue id rfl ?_ ?_ ?_ <;> simp [Manager.updateItem, hx]
    | remove i idle =>
      refine ⟨fun k y hk => ?_, h.numbers, h.bound⟩
      simp only [Manager.removeItem, Table.get?_erase] at hk
      split at hk
      · simp at hk
      · exact h.items k y hk
    | _ => simp [Act.keepsTable] at ha

lemma Turn.made (h : Turn w a es w') {t : Task} (ht : t ∈ es.filterMap Event.made?) {v : ValueTask}
    (hv : t.valueTask? = some v) :
    ∃ i x, w.manager.items.get? i = some x ∧ t = w.manager.taskOf v ∧
      v.item = x.id ∧ v.host = x.host ∧ v.edition = x.edition := by
  cases h with
  | feed i u s o idle =>
    simp only [List.filterMap_map, List.mem_filterMap, Option.mem_toList] at ht
    obtain ⟨x, hx, ⟨⟩⟩ := ht
    rw [Manager.taskOf_valueTask?, Option.some.injEq] at hv
    subst hv
    exact ⟨i, x, hx, rfl, rfl, rfl, rfl⟩
  | tryItem i u now idle =>
    simp only [List.filterMap_map, List.mem_filterMap, Option.mem_toList] at ht
    obtain ⟨x, hx, ⟨⟩⟩ := ht
    cases hv
  | trySteps s u x now hist idle =>
    obtain rfl : t = _ := by simpa [Event.made?] using ht
    cases hv
  | @settle left j duty =>
    simp only [List.filterMap_cons, Event.made?, List.filterMap_map, List.mem_filterMap] at ht
    obtain ⟨b, hb, ⟨⟩⟩ := ht
    unfold Manager.bred at hb
    split at hb
    · obtain ⟨x, hx, rfl⟩ := List.mem_map.1 hb
      obtain ⟨i, -, hi⟩ := List.mem_filterMap.1 hx
      rw [Manager.taskOf_valueTask?, Option.some.injEq] at hv
      subst hv
      exact ⟨i, x, hi, rfl, rfl, rfl, rfl⟩
    · simp at hb
  | run split hand result => simp [List.filterMap_cons, Event.made?] at ht
  | _ => simp at ht

lemma Turn.genuine (h : Turn w a es w') (hr : w.Registered) :
    ∀ t ∈ es.filterMap Event.made?, ∀ v, t.valueTask? = some v →
      (∃ k, (k, v.edition) ∈ w.issued) ∧ t.isSerial = v.rules.isSerial := by
  intro t ht v hv
  obtain ⟨i, x, hx, rfl, -, -, edition⟩ := h.made ht hv
  rw [Manager.taskOf_isSerial, edition]
  exact ⟨(hr.items i x hx).2, rfl⟩

lemma opening_registered {c : ManagerConfig} {m : Manager} {n : Nat} (hm : Manager.start c = .ok m) :
    (opening m n).Registered := by
  obtain rfl := Manager.start_eq hm
  exact ⟨by simp [opening, Table.get?, Table.lookIn], List.nodup_nil, by simp [opening]⟩

lemma Course.registered {c : ManagerConfig} {m : Manager} {n : Nat} {as : List Act}
    (hm : Manager.start c = .ok m) (h : Course (opening m n) as es w) : w.Registered := by
  induction h with
  | nil => exact opening_registered hm
  | snoc _ ht ih => exact ih.turn ht

lemma Course.genuine {c : ManagerConfig} {m : Manager} {n : Nat} {as : List Act}
    (hm : Manager.start c = .ok m) (h : Course (opening m n) as es w) :
    ∀ t ∈ es.filterMap Event.made?, ∀ v, t.valueTask? = some v →
      (∃ k, (k, v.edition) ∈ w.issued) ∧ t.isSerial = v.rules.isSerial := by
  induction h with
  | nil => simp
  | snoc hc ht ih =>
    rw [List.filterMap_append, List.forall_mem_append]
    refine ⟨fun t hm v hv => ?_, fun t hm' v hv => ?_⟩
    · obtain ⟨⟨k, hk⟩, hs⟩ := ih t hm v hv
      exact ⟨⟨k, ht.issues.2.1 hk⟩, hs⟩
    · obtain ⟨⟨k, hk⟩, hs⟩ := ht.genuine (hc.registered hm) t hm' v hv
      exact ⟨⟨k, ht.issues.2.1 hk⟩, hs⟩

/-- No other item has this edition, and no task of another is run on it. -/
structure Owned (i : UInt64) (k : Nat) (es : List Event) (w : Workshop) : Prop where
  items : ∀ j x, w.manager.items.get? j = some x → x.edition.number = k → j = i
  tasks : ∀ t ∈ es.filterMap Event.made?, t.uses k = true → t.item = i

section Ownership

variable {w w' : Workshop} {a : Act} {es e : List Event} {i : UInt64} {k : Nat}

lemma Registered.number_lt (h : w.Registered) {j : UInt64} {x : Item} (hx : w.manager.items.get? j = some x) :
    x.edition.number < w.manager.editions := by
  obtain ⟨-, b, hb⟩ := h.items j x hx
  exact h.bound _ hb

lemma Turn.items_cases (h : Turn w a e w') {j : UInt64} {x : Item} (hx : w'.manager.items.get? j = some x) :
    w.manager.items.get? j = some x ∨ (a = .restore x ∧ x.id = j) ∨
      (j, x.edition) ∈ w'.issued ∧ x.edition.number = w.manager.editions := by
  by_cases ha : a.keepsTable = true
  · exact .inl ((h.table ha).1 ▸ hx)
  · cases h with
    | add i host r idle =>
      simp only [Manager.addItem, Manager.register, Table.get?_insert] at hx
      split at hx
      · rename_i hi
        obtain rfl := Option.some.inj hx
        exact .inr (.inr ⟨hi ▸ List.mem_cons_self, rfl⟩)
      · exact .inl hx
    | restore y idle known =>
      simp only [Manager.register, Table.get?_insert] at hx
      split at hx
      · rename_i hi
        obtain rfl := Option.some.inj hx
        exact .inr (.inl ⟨rfl, hi⟩)
      · exact .inl hx
    | update i r idle =>
      cases hy : w.manager.items.get? i with
      | none => exact .inl (by simpa [Manager.updateItem, hy] using hx)
      | some y =>
        simp only [Manager.updateItem, hy, Table.get?_insert] at hx ⊢
        split at hx
        · rename_i hi
          obtain rfl := Option.some.inj hx
          exact .inr (.inr ⟨hi ▸ List.mem_cons_self, rfl⟩)
        · exact .inl hx
    | remove i idle =>
      simp only [Manager.removeItem, Table.get?_erase] at hx
      split at hx
      · simp at hx
      · exact .inl hx
    | _ => simp [Act.keepsTable] at ha

lemma Turn.made_uses (h : Turn w a e w') (hr : w.Registered) {t : Task} (ht : t ∈ e.filterMap Event.made?)
    (hu : t.uses k = true) : ∃ x, w.manager.items.get? t.item = some x ∧ x.edition.number = k := by
  obtain ⟨v, hv, rfl⟩ := Task.uses_iff.1 hu
  obtain ⟨j, x, hx, rfl, item, -, edition⟩ := h.made ht hv
  obtain ⟨rfl, -⟩ := hr.items j x hx
  exact ⟨x, by rw [Manager.taskOf_item, item, hx], by rw [edition]⟩

lemma Owned.turn (h : w.Owned i k es) (hr : w.Registered) (ht : Turn w a e w') (issued : k < w.manager.editions)
    (own : ∀ x, a = .restore x → x.edition.number = k → x.id = i) : w'.Owned i k (es ++ e) where
  items j x hx hk := by
    rcases ht.items_cases hx with old | ⟨restored, rfl⟩ | ⟨-, new⟩
    · exact h.items j x old hk
    · exact own x restored hk
    · omega
  tasks := by
    rw [List.filterMap_append, List.forall_mem_append]
    refine ⟨h.tasks, fun t hm hu => ?_⟩
    obtain ⟨x, hx, hk⟩ := ht.made_uses hr hm hu
    exact h.items _ x hx hk

lemma Owned.issue (h : Turn w a e w') (hr : w.Registered) (hr' : w'.Registered) {d : Edition}
    (hi : (i, d) ∈ w'.issued) (fresh : w.manager.editions ≤ d.number)
    (unused : ∀ t ∈ es.filterMap Event.made?, ∀ v, t.valueTask? = some v → ∃ j, (j, v.edition) ∈ w.issued) :
    w'.Owned i d.number (es ++ e) where
  items j x hx hk := by
    rcases h.items_cases hx with old | ⟨rfl, -⟩ | ⟨new, -⟩
    · have := hr.number_lt old
      omega
    · cases h with
      | restore y idle known =>
        obtain ⟨b, hb⟩ := known
        have := hr.bound _ hb
        dsimp only at this
        omega
    · exact congrArg Prod.fst (hr'.eq_of_number new hi hk)
  tasks := by
    rw [List.filterMap_append, List.forall_mem_append]
    refine ⟨fun t hm hu => ?_, fun t hm hu => ?_⟩
    · obtain ⟨v, hv, hk⟩ := Task.uses_iff.1 hu
      obtain ⟨j, hj⟩ := unused t hm v hv
      have := hr.bound _ hj
      dsimp only at this
      omega
    · obtain ⟨x, hx, hk⟩ := h.made_uses hr hm hu
      have := hr.number_lt hx
      omega

lemma Course.owned {c : ManagerConfig} {m : Manager} {n : Nat} {as : List Act} (hm : Manager.start c = .ok m)
    (h : Course (opening m n) as es w) {d : Edition} (hi : (i, d) ∈ w.issued)
    (own : ∀ x, .restore x ∈ as → x.edition.number = d.number → x.id = i) : w.Owned i d.number es := by
  induction h with
  | nil => simp [opening] at hi
  | @snoc as es e w w' a hc ht ih =>
    have hr := hc.registered hm
    rcases ht.issues.2.2 _ hi with old | fresh
    · have before := ih old fun x hx => own x (List.mem_append_left _ hx)
      exact before.turn hr ht (hr.bound _ old) fun x ha => own x (by simp [ha])
    · exact .issue ht hr (hr.turn ht) hi fresh fun t hm' v hv => (hc.genuine hm t hm' v hv).1

end Ownership

end Workshop

end ItemPipeline
