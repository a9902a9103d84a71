import ItemPipeline.Json.Basic
import Mathlib.Data.List.Basic
import Mathlib.Data.List.Induction
import Mathlib.Data.String.Basic
import Mathlib.Tactic.Lemma

/-!
The members of an object: one for each name, in the order of the names.
-/

namespace ItemPipeline.Json.Members

def Ascending (m : Members) : Prop :=
  m.Pairwise fun a b => a.1 < b.1

variable {name key : String} {v : Json} {m m' : Members} {l : List (String × Json)}

lemma get?_insert : (insert name v m).get? key = if name = key then some v else m.get? key := by
  induction m with
  | nil => rfl
  | cons e m ih =>
    obtain ⟨n, w⟩ := e
    unfold insert
    split
    · rfl
    · split
      · rename_i same
        subst same
        simp only [get?]
        split <;> rfl
      · rename_i other
        simp only [get?, ih]
        split
        · rename_i here
          subst here
          rw [if_neg other]
        · rfl

lemma get?_ofList : (ofList l).get? key = l.reverse.lookup key := by
  have from_any : ∀ m : Members, (l.foldl (fun m e => insert e.1 e.2 m) m).get? key =
      (l.reverse.lookup key).or (m.get? key) := by
    induction l with
    | nil => simp
    | cons e l ih =>
      intro m
      obtain ⟨n, v⟩ := e
      rw [List.foldl_cons, ih, get?_insert, List.reverse_cons, List.lookup_append, Option.or_assoc]
      congr 1
      by_cases same : n = key
      · simp [same]
      · have other : (key == n) = false := by simpa using Ne.symm same
        simp [same, List.lookup_cons, other]
  exact (from_any []).trans (by simp [get?])

lemma eq_or_mem_of_mem_insert {e : String × Json} (h : e ∈ insert name v m) : e = (name, v) ∨ e ∈ m := by
  induction m with
  | nil => simpa [insert] using h
  | cons f m ih =>
    obtain ⟨n, w⟩ := f
    unfold insert at h
    split at h
    · simpa using h
    · split at h
      · obtain rfl | h := List.mem_cons.1 h
        · exact .inl rfl
        · exact .inr (List.mem_cons_of_mem _ h)
      · obtain rfl | h := List.mem_cons.1 h
        · exact .inr List.mem_cons_self
        · exact (ih h).imp_right (List.mem_cons_of_mem _)

lemma ascending_nil : Ascending [] :=
  .nil

lemma Ascending.insert (h : Ascending m) (name : String) (v : Json) : Ascending (insert name v m) := by
  induction m with
  | nil => exact List.pairwise_singleton _ _
  | cons e m ih =>
    obtain ⟨n, w⟩ := e
    obtain ⟨first, rest⟩ := List.pairwise_cons.1 h
    unfold Members.insert
    split
    · rename_i before
      exact List.pairwise_cons.2 ⟨List.forall_mem_cons.2 ⟨before, fun e he => before.trans (first e he)⟩, h⟩
    · split
      · rename_i same
        exact List.pairwise_cons.2 ⟨fun e he => same ▸ first e he, rest⟩
      · rename_i notBefore other
        refine List.pairwise_cons.2 ⟨fun e he => ?_, ih rest⟩
        obtain rfl | he := eq_or_mem_of_mem_insert he
        · exact lt_of_le_of_ne (not_lt.1 notBefore) (Ne.symm other)
        · exact first e he

lemma ascending_foldl {α : Type} (f : α → String) (g : α → Json) (l : List α) (h : Ascending m) :
    Ascending (l.foldl (fun m a => Members.insert (f a) (g a) m) m) := by
  induction l generalizing m with
  | nil => exact h
  | cons a l ih => exact ih (h.insert _ _)

lemma ascending_ofList : Ascending (ofList l) :=
  ascending_foldl Prod.fst Prod.snd l ascending_nil

lemma Ascending.mem_iff (h : Ascending m) : (key, v) ∈ m ↔ m.get? key = some v := by
  induction m with
  | nil => simp [get?]
  | cons e m ih =>
    obtain ⟨n, w⟩ := e
    obtain ⟨first, rest⟩ := List.pairwise_cons.1 h
    by_cases same : n = key
    · subst same
      have only : (n, v) ∉ m := fun he => lt_irrefl n (first _ he)
      simp [get?, only, eq_comm]
    · simp [get?, same, Ne.symm same, ih rest]

lemma Ascending.ext (h : Ascending m) (h' : Ascending m') (same : ∀ key, m.get? key = m'.get? key) : m = m' := by
  refine List.Perm.eq_of_pairwise (fun a b _ _ ab ba => (lt_asymm ab ba).elim) h h' ?_
  have nodup {m : Members} (h : Ascending m) : m.Nodup := h.imp fun lt eq => lt.ne (congrArg Prod.fst eq)
  refine (List.perm_ext_iff_of_nodup (nodup h) (nodup h')).2 fun e => ?_
  rw [h.mem_iff, h'.mem_iff, same]

def sorted (l : List (String × Json)) : Members :=
  l.mergeSort fun a b => a.1 ≤ b.1

lemma mem_sorted {e : String × Json} : e ∈ sorted l ↔ e ∈ l :=
  List.mem_mergeSort

lemma ascending_sorted (distinct : (l.map Prod.fst).Nodup) : Ascending (sorted l) := by
  have le : (sorted l).Pairwise fun a b => a.1 ≤ b.1 := by
    refine (List.pairwise_mergeSort (fun a b c => ?_) (fun a b => ?_) l).imp of_decide_eq_true
    · simpa using le_trans
    · simpa using le_total a.1 b.1
  have ne : (sorted l).Pairwise fun a b => a.1 ≠ b.1 :=
    List.pairwise_map.1 (((List.mergeSort_perm l _).map Prod.fst).nodup_iff.2 distinct)
  exact (le.and ne).imp fun h => lt_of_le_of_ne h.1 h.2

lemma get?_sorted (distinct : (l.map Prod.fst).Nodup) : (sorted l).get? key = some v ↔ (key, v) ∈ l := by
  rw [← (ascending_sorted distinct).mem_iff, mem_sorted]

lemma insert_sorted (distinct : ((l ++ [(name, v)]).map Prod.fst).Nodup) :
    insert name v (sorted l) = sorted (l ++ [(name, v)]) := by
  have both := distinct
  rw [List.map_append, List.nodup_append] at both
  obtain ⟨distinct', -, new⟩ := both
  refine ((ascending_sorted distinct').insert name v).ext (ascending_sorted distinct) fun key => Option.ext fun w => ?_
  rw [get?_sorted distinct, get?_insert, List.mem_append, List.mem_singleton, Prod.mk.injEq, eq_comm (a := key)]
  by_cases here : name = key
  · subst here
    have other : (name, w) ∉ l := fun h => new name (List.mem_map_of_mem h) name (by simp) rfl
    simp [other, eq_comm]
  · simp [here, get?_sorted distinct']

lemma ofList_eq_sorted (distinct : (l.map Prod.fst).Nodup) : ofList l = sorted l := by
  induction l using List.reverseRecOn with
  | nil => exact List.mergeSort_nil.symm
  | append_singleton l e ih =>
    rw [ofList, List.foldl_append, List.foldl_cons, List.foldl_nil]
    exact (congrArg _ (ih (distinct.sublist ((List.sublist_append_left l [e]).map _)))).trans (insert_sorted distinct)

end ItemPipeline.Json.Members
