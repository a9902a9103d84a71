import ItemPipeline.Config.Check
import Mathlib.Data.Fintype.Card
import Mathlib.Data.Fintype.EquivFin
import Mathlib.Data.List.Perm.Subperm
import Mathlib.Logic.Relation
import Mathlib.Tactic.Lemma

/-!
What a checked configuration has: items with ids of their own, dependents that are items, and no way
from an item through dependents back to it.
-/

namespace ItemPipeline

instance finite_uint64 : Finite UInt64 :=
  Finite.of_injective UInt64.toFin fun _ _ => UInt64.toFin_inj.1

lemma ManagerConfig.check_eq_ok_iff {m : ManagerConfig} :
    m.check = .ok () ↔ 1 ≤ m.workers ∧ 1 ≤ m.batchSize := by
  have pos (n : UInt64) : 1 ≤ n ↔ n ≠ 0 := by
    rw [UInt64.le_iff_toNat_le, ne_eq, ← UInt64.toNat_inj]
    exact Nat.one_le_iff_ne_zero
  unfold check
  rw [pos, pos]
  split
  · simp_all
  · split <;> simp_all

lemma ManagerConfig.check_ne_cycle (m : ManagerConfig) (p : List UInt64) : m.check ≠ .error (.cycle p) := by
  unfold check
  split
  · simp
  · split <;> simp

namespace Config

lemma firstDuplicate?_eq_none_iff {seen l : List UInt64} :
    firstDuplicate? seen l = none ↔ l.Nodup ∧ ∀ i ∈ l, i ∉ seen := by
  induction l generalizing seen with
  | nil => simp [firstDuplicate?]
  | cons i l ih =>
    by_cases hi : i ∈ seen
    · simp [firstDuplicate?, hi]
    · have step : firstDuplicate? seen (i :: l) = firstDuplicate? (i :: seen) l := by
        simp [firstDuplicate?, hi]
      rw [step, ih, List.nodup_cons, List.forall_mem_cons]
      constructor
      · rintro ⟨hl, hs⟩
        exact ⟨⟨fun him => hs i him List.mem_cons_self, hl⟩, hi,
          fun k hk hks => hs k hk (List.mem_cons_of_mem _ hks)⟩
      · rintro ⟨⟨hil, hl⟩, -, hs⟩
        refine ⟨hl, fun k hk hks => ?_⟩
        obtain rfl | hks := List.mem_cons.1 hks
        · exact hil hk
        · exact hs k hk hks

lemma checkItem_eq_ok_iff {ids : List UInt64} {x : ItemConfig} :
    checkItem ids x = .ok () ↔ x.dependents ⊆ ids ∧ x.id ∉ x.dependents := by
  unfold checkItem
  split
  · rename_i d hd
    have unknown : d ∉ ids := by simpa using List.find?_some hd
    simpa using fun known => absurd (known (List.mem_of_find?_eq_some hd)) unknown
  · rename_i hf
    have known : x.dependents ⊆ ids := fun d hd => by simpa using List.find?_eq_none.1 hf d hd
    simp [known]

lemma checkItem_ne_cycle (ids : List UInt64) (x : ItemConfig) (p : List UInt64) :
    checkItem ids x ≠ .error (.cycle p) := by
  unfold checkItem
  split
  · simp
  · split <;> simp

lemma forM_eq_ok_iff {ε α : Type} {f : α → Except ε Unit} {l : List α} :
    l.forM f = .ok () ↔ ∀ a ∈ l, f a = .ok () := by
  induction l with
  | nil => exact iff_of_true rfl (by simp)
  | cons a l ih =>
    rw [List.forM, List.forall_mem_cons, ← ih]
    cases f a <;> simp [bind, Except.bind]

lemma exists_of_forM_eq_error {ε α : Type} {f : α → Except ε Unit} {l : List α} {e : ε}
    (h : l.forM f = .error e) : ∃ a ∈ l, f a = .error e := by
  induction l with
  | nil => cases h
  | cons a l ih =>
    rw [List.forM] at h
    cases ha : f a with
    | error e' =>
      rw [ha] at h
      cases h
      exact ⟨a, List.mem_cons_self, ha⟩
    | ok u =>
      rw [ha] at h
      obtain ⟨b, hb, he⟩ := ih h
      exact ⟨b, List.mem_cons_of_mem _ hb, he⟩

lemma check_eq (c : Config) :
    c.check =
      match c.manager.check, firstDuplicate? [] c.ids, c.items.forM (checkItem c.ids), c.cycle? with
      | .error e, _, _, _ => .error e
      | .ok _, some i, _, _ => .error (.duplicate i)
      | .ok _, none, .error e, _ => .error e
      | .ok _, none, .ok _, some p => .error (.cycle p)
      | .ok _, none, .ok _, none => .ok () := by
  unfold check
  cases c.manager.check <;> cases firstDuplicate? [] c.ids <;> cases c.items.forM (checkItem c.ids) <;>
    cases c.cycle? <;> rfl

lemma check_eq_ok_iff {c : Config} :
    c.check = .ok () ↔ c.manager.check = .ok () ∧ c.ids.Nodup ∧
      (∀ x ∈ c.items, x.dependents ⊆ c.ids ∧ x.id ∉ x.dependents) ∧ c.cycle? = none := by
  have distinct : c.ids.Nodup ↔ firstDuplicate? [] c.ids = none := by simp [firstDuplicate?_eq_none_iff]
  simp only [← checkItem_eq_ok_iff, ← forM_eq_ok_iff, distinct, check_eq]
  cases c.manager.check <;> cases firstDuplicate? [] c.ids <;> cases c.items.forM (checkItem c.ids) <;>
    cases c.cycle? <;> simp

lemma of_check_eq_cycle {c : Config} {p : List UInt64} (h : c.check = .error (.cycle p)) :
    c.ids.Nodup ∧ (∀ x ∈ c.items, x.dependents ⊆ c.ids ∧ x.id ∉ x.dependents) ∧ c.cycle? = some p := by
  simp only [← checkItem_eq_ok_iff, ← forM_eq_ok_iff]
  rw [check_eq] at h
  cases hm : c.manager.check with
  | error e =>
    obtain rfl : e = .cycle p := by simpa [hm] using h
    exact absurd hm (c.manager.check_ne_cycle p)
  | ok _ =>
    cases hd : firstDuplicate? [] c.ids with
    | some i => simp [hm, hd] at h
    | none =>
      cases hi : c.items.forM (checkItem c.ids) with
      | error e =>
        obtain rfl : e = .cycle p := by simpa [hm, hd, hi] using h
        obtain ⟨x, -, hx⟩ := exists_of_forM_eq_error hi
        exact absurd hx (checkItem_ne_cycle c.ids x p)
      | ok _ =>
        cases hc : c.cycle? with
        | none => simp [hm, hd, hi, hc] at h
        | some q =>
          obtain rfl : q = p := by simpa [hm, hd, hi, hc] using h
          exact ⟨(firstDuplicate?_eq_none_iff.1 hd).1, rfl, rfl⟩

structure Checked (c : Config) : Prop where
  manager : c.manager.check = .ok ()
  ids : c.ids.Nodup
  known : ∀ x ∈ c.items, x.dependents ⊆ c.ids
  cycle : c.cycle? = none

lemma checked_of_check {c : Config} (h : c.check = .ok ()) : c.Checked :=
  have ⟨manager, ids, items, cycle⟩ := check_eq_ok_iff.1 h
  ⟨manager, ids, fun x hx => (items x hx).1, cycle⟩

section Explore

variable {next : UInt64 → List UInt64}

lemma foldlM_ok {ε α : Type} {P : List α → Prop} {f : List α → α → Except ε (List α)} {l : List α}
    (visit : ∀ i ∈ l, ∀ done done', P done → f done i = .ok done' → P done' ∧ done ⊆ done' ∧ i ∈ done')
    {done done' : List α} (hp : P done) (h : l.foldlM f done = .ok done') :
    P done' ∧ done ⊆ done' ∧ l ⊆ done' := by
  induction l generalizing done with
  | nil =>
    obtain rfl : done = done' := by simpa [pure, Except.pure] using h
    exact ⟨hp, List.Subset.refl _, List.nil_subset _⟩
  | cons i l ih =>
    rw [List.foldlM_cons] at h
    cases hi : f done i with
    | error e => simp [hi, bind, Except.bind] at h
    | ok d =>
      simp only [hi, bind, Except.bind] at h
      obtain ⟨hd, hs, hm⟩ := visit i List.mem_cons_self done d hp hi
      obtain ⟨hp', hs', hl⟩ := ih (fun k hk => visit k (List.mem_cons_of_mem _ hk)) hd h
      exact ⟨hp', List.Subset.trans hs hs', List.cons_subset.2 ⟨hs' hm, hl⟩⟩

lemma explore_ok {ids : List UInt64} (closed : ∀ i ∈ ids, next i ⊆ ids) {depth : Nat}
    {path l done done' : List UInt64} (nodup : path.Nodup) (path_ids : path ⊆ ids)
    (deep : ids.length < path.length + depth) (known : l ⊆ ids)
    (acc : ∀ i ∈ done, Acc (fun d i => d ∈ next i) i) (h : explore next depth path l done = .ok done') :
    (∀ i ∈ done', Acc (fun d i => d ∈ next i) i) ∧ done ⊆ done' ∧ l ⊆ done' := by
  induction depth generalizing path l done done' with
  | zero =>
    -- the path holds no id twice, so it is never as long as the depth allows
    have := (nodup.subperm path_ids).length_le
    omega
  | succ depth ih =>
    refine foldlM_ok (P := fun done => ∀ i ∈ done, Acc (fun d i => d ∈ next i) i) ?_ acc h
    intro i hi done done' acc h
    simp only [List.contains_eq_mem, decide_eq_true_eq] at h
    split at h
    · simp at h
    · rename_i hpath
      split at h
      · rename_i hd
        obtain rfl : done = done' := by simpa using h
        exact ⟨acc, List.Subset.refl _, hd⟩
      · cases he : explore next depth (i :: path) (next i) done with
        | error p => simp [he, Except.map] at h
        | ok d =>
          obtain rfl : i :: d = done' := by simpa [he, Except.map] using h
          obtain ⟨ha, hs, hn⟩ := ih (List.nodup_cons.2 ⟨hpath, nodup⟩)
            (List.cons_subset.2 ⟨known hi, path_ids⟩) (by simp only [List.length_cons]; omega)
            (closed i (known hi)) acc he
          refine ⟨List.forall_mem_cons.2 ⟨⟨i, fun k hk => ha k (hn hk)⟩, ha⟩, ?_, List.mem_cons_self⟩
          exact List.Subset.trans hs (List.subset_cons_self _ _)

end Explore

def Feeds (c : Config) (p i : UInt64) : Prop :=
  i ∈ c.dependents p

lemma dependents_of_unknown {c : Config} {i : UInt64} (hi : i ∉ c.ids) : c.dependents i = [] := by
  have hx : c.item? i = none := List.find?_eq_none.2 fun x hx => by
    simpa using fun he => hi (List.mem_map.2 ⟨x, hx, he⟩)
  simp [dependents, hx]

namespace Checked

variable {c : Config}

lemma dependents_subset (h : c.Checked) (i : UInt64) : c.dependents i ⊆ c.ids := by
  unfold dependents
  cases hx : c.item? i with
  | none => simp
  | some x => exact h.known x (List.mem_of_find?_eq_some hx)

lemma acc_dependents (h : c.Checked) (i : UInt64) : Acc (fun d i => d ∈ c.dependents i) i := by
  by_cases hi : i ∈ c.ids
  · have hc := h.cycle
    unfold cycle? at hc
    split at hc
    · rename_i done he
      have hl : c.ids.length < [].length (α := UInt64) + (c.items.length + 1) := by
        simp [Config.ids]
      obtain ⟨ha, -, hs⟩ := explore_ok (fun i _ => h.dependents_subset i) List.nodup_nil
        (List.nil_subset _) hl (List.Subset.refl _) (by simp) he
      exact ha i (hs hi)
    · simp at hc
  · refine ⟨i, fun d hd => ?_⟩
    simp [dependents_of_unknown hi] at hd

lemma irrefl_feeds (h : c.Checked) (i : UInt64) : ¬ Relation.TransGen c.Feeds i i := by
  have ha := (h.acc_dependents i).transGen
  induction ha with
  | intro x _ ih => exact fun hx => ih x (Relation.transGen_swap.2 hx) hx

lemma wellFounded_feeds (h : c.Checked) : WellFounded c.Feeds := by
  have : Std.Irrefl (Relation.TransGen c.Feeds) := ⟨h.irrefl_feeds⟩
  exact Subrelation.wf Relation.TransGen.single
    (Finite.wellFounded_of_trans_of_irrefl (Relation.TransGen c.Feeds))

end Checked

end Config

end ItemPipeline
