import ItemPipeline.Table
import Mathlib.Data.List.Nodup
import Mathlib.Data.List.Perm.Basic
import Mathlib.Tactic.Lemma

/-!
Tables as finite maps: which keys they have, and that their values are those found under the keys, each
once.
-/

namespace ItemPipeline.Table

variable {κ α : Type} [DecidableEq κ]

lemma contains_eq_true_iff {t : Table κ α} {k : κ} : t.contains k = true ↔ ∃ a, t.get? k = some a := by
  simp [contains, Option.isSome_iff_exists]

lemma contains_eq_false_iff {t : Table κ α} {k : κ} : t.contains k = false ↔ t.get? k = none := by
  simp [contains]

lemma entries_eq_nil {t : Table κ α} (h : ∀ k, t.contains k = false) : t.entries = [] := by
  obtain ⟨l⟩ := t
  cases l with
  | nil => rfl
  | cons e l => simpa [contains, get?, lookIn] using h e.1

lemma mem_entries {t : Table κ α} {k : κ} {a : α} (h : t.get? k = some a) : (k, a) ∈ t.entries := by
  obtain ⟨l⟩ := t
  simp only [get?] at h
  induction l with
  | nil => simp [lookIn] at h
  | cons e r ih =>
    by_cases he : e.1 = k
    · obtain rfl : e.2 = a := by simpa [lookIn, he] using h
      exact List.mem_cons.2 (.inl (by rw [← he]))
    · exact List.mem_cons_of_mem _ (ih (by simpa [lookIn, he] using h))

lemma get?_of_mem {t : Table κ α} (h : t.keys.Nodup) {k : κ} {a : α} (ha : (k, a) ∈ t.entries) :
    t.get? k = some a := by
  obtain ⟨l⟩ := t
  simp only [keys, get?] at h ⊢
  induction l with
  | nil => simp at ha
  | cons e r ih =>
    obtain ⟨first, rest⟩ := List.nodup_cons.1 h
    rcases List.mem_cons.1 ha with rfl | ha
    · rw [lookIn, if_pos rfl]
    · have hk : e.1 ≠ k := by
        rintro rfl
        exact first (List.mem_map.2 ⟨_, ha, rfl⟩)
      rw [lookIn, if_neg hk]
      exact ih rest ha

lemma mem_entries_iff {t : Table κ α} (h : t.keys.Nodup) {k : κ} {a : α} :
    (k, a) ∈ t.entries ↔ t.get? k = some a :=
  ⟨get?_of_mem h, mem_entries⟩

lemma contains_insert (t : Table κ α) (k : κ) (a : α) (j : κ) :
    (t.insert k a).contains j = (decide (k = j) || t.contains j) := by
  by_cases h : k = j <;> simp [contains, get?_insert, h]

lemma contains_erase (t : Table κ α) (k j : κ) :
    (t.erase k).contains j = (!decide (k = j) && t.contains j) := by
  by_cases h : k = j <;> simp [contains, get?_erase, h]

lemma keys_insert (t : Table κ α) (k : κ) (a : α) :
    (t.insert k a).keys = if k ∈ t.keys then t.keys else t.keys ++ [k] := by
  obtain ⟨l⟩ := t
  simp only [insert, keys]
  induction l with
  | nil => simp [insertIn]
  | cons e r ih =>
    by_cases h : e.1 = k
    · simp [insertIn, h]
    · have hk : ¬k = e.1 := fun hk => h hk.symm
      by_cases hr : k ∈ r.map (·.1) <;> simp_all [insertIn]

lemma nodup_insert {t : Table κ α} (h : t.keys.Nodup) (k : κ) (a : α) : (t.insert k a).keys.Nodup := by
  rw [keys_insert]
  split
  · exact h
  · rename_i hk
    exact List.Nodup.append h (List.nodup_singleton k) (by simpa using hk)

lemma nodup_erase {t : Table κ α} (h : t.keys.Nodup) (k : κ) : (t.erase k).keys.Nodup :=
  h.sublist (List.filter_sublist.map _)

lemma values_perm {t : Table κ α} (h : t.keys.Nodup) (k : κ) :
    t.values.Perm ((t.get? k).toList ++ (t.erase k).values) := by
  obtain ⟨l⟩ := t
  simp only [values, get?, erase, keys] at h ⊢
  induction l with
  | nil => simp [lookIn]
  | cons e r ih =>
    simp only [List.map_cons, List.nodup_cons] at h
    by_cases he : e.1 = k
    · have hr : r.filter (fun x => x.1 ≠ k) = r := by
        refine List.filter_eq_self.2 fun x hx => ?_
        simp only [decide_eq_true_eq]
        rintro rfl
        exact h.1 (he ▸ List.mem_map_of_mem hx)
      simp only [lookIn, he, if_true, Option.toList_some, List.filter_cons, ne_eq, not_true_eq_false,
        decide_false, Bool.false_eq_true, if_false, List.map_cons, List.singleton_append]
      rw [hr]
    · simp only [lookIn, he, if_false, List.map_cons, ne_eq, not_false_eq_true, decide_true,
        List.filter_cons_of_pos]
      exact ((ih h.2).cons _).trans List.perm_middle.symm

lemma insert_values_perm {t : Table κ α} (h : t.keys.Nodup) (k : κ) (a : α) :
    (t.insert k a).values.Perm (a :: (t.erase k).values) := by
  have he : (t.insert k a).erase k = t.erase k := by
    obtain ⟨l⟩ := t
    simp only [insert, erase, Table.mk.injEq]
    induction l with
    | nil => simp [insertIn]
    | cons e r ih => by_cases he : e.1 = k <;> simp_all [insertIn, keys]
  simpa [get?_insert, he] using values_perm (nodup_insert h k a) k

section Lists

variable {t : Table κ (List α)}

lemma flatten_perm (h : t.keys.Nodup) (k : κ) :
    t.values.flatten.Perm ((t.get? k).getD [] ++ (t.erase k).values.flatten) := by
  refine (values_perm h k).flatten.trans ?_
  cases t.get? k <;> simp

lemma insert_flatten_perm (h : t.keys.Nodup) (k : κ) (l : List α) :
    (t.insert k l).values.flatten.Perm (l ++ (t.erase k).values.flatten) := by
  simpa using (insert_values_perm h k l).flatten

end Lists

end ItemPipeline.Table
