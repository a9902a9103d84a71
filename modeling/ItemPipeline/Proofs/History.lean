import ItemPipeline.Step.History
import Mathlib.Data.List.Nodup
import Mathlib.Data.List.Perm.Basic
import Mathlib.Tactic.Lemma

/-!
Histories as finite maps from the number of a step to what it remembers. Taking an entry out leaves the
others as they were, though one of them may move.
-/

namespace ItemPipeline

def HistoryEntry.raised (n : Nat) (e : HistoryEntry) : HistoryEntry :=
  ⟨e.index + n, e.memory⟩

namespace History

variable {h h' : History} {i j : Nat} {m : Memory}

def slot (h : History) (i : Nat) : Option Memory :=
  (h.get? i).map (·.memory)

def Distinct (h : History) : Prop :=
  (h.entries.map (·.index)).Nodup

lemma distinct_empty : empty.Distinct :=
  List.nodup_nil

lemma index_of_get? {e : HistoryEntry} (he : h.get? i = some e) : e.index = i := by
  simpa using List.find?_some he

lemma get?_eq (h : History) (i : Nat) : h.get? i = (h.slot i).map (⟨i, ·⟩) := by
  unfold slot
  cases he : h.get? i with
  | none => rfl
  | some e =>
    obtain rfl := index_of_get? he
    rfl

lemma mem_of_slot (hm : h.slot i = some m) : ⟨i, m⟩ ∈ h.entries := by
  obtain ⟨e, he, rfl⟩ := Option.map_eq_some_iff.1 hm
  obtain rfl := index_of_get? he
  exact List.mem_of_find?_eq_some he

lemma slot_add (h : History) (i : Nat) (m : Memory) (j : Nat) :
    (h.add i m).slot j = if i = j then some m else h.slot j := by
  obtain ⟨l⟩ := h
  simp only [add, slot, get?]
  induction l with
  | nil => by_cases hj : i = j <;> simp [addTo, hj]
  | cons e l ih =>
    by_cases hi : e.index = i
    · by_cases hj : i = j <;> simp [addTo, hi, hj]
    · rw [addTo, if_neg hi]
      by_cases hj : e.index = j
      · have hne : ¬i = j := fun h => hi (hj.trans h.symm)
        simp [hj, hne]
      · simpa [hj] using ih

lemma indices_add (h : History) (i : Nat) (m : Memory) :
    (h.add i m).entries.map (·.index) =
      if i ∈ h.entries.map (·.index) then h.entries.map (·.index) else h.entries.map (·.index) ++ [i] := by
  obtain ⟨l⟩ := h
  simp only [add]
  induction l with
  | nil => rfl
  | cons e l ih =>
    by_cases hi : e.index = i
    · simp [addTo, hi]
    · by_cases hl : i ∈ l.map (·.index) <;> simp_all [addTo, Ne.symm hi]

namespace Distinct

lemma eq_of_index (hd : h.Distinct) {e e' : HistoryEntry} (he : e ∈ h.entries) (he' : e' ∈ h.entries)
    (hi : e.index = e'.index) : e = e' :=
  List.inj_on_of_nodup_map hd he he' hi

lemma slot_eq_some_iff (hd : h.Distinct) : h.slot i = some m ↔ ⟨i, m⟩ ∈ h.entries := by
  refine ⟨mem_of_slot, fun hm => ?_⟩
  cases hs : h.slot i with
  | none =>
    have := List.find?_eq_none.1 (Option.map_eq_none_iff.1 hs) _ hm
    simp at this
  | some m' =>
    have := hd.eq_of_index hm (mem_of_slot hs) rfl
    simp_all

lemma slot_ext (hd : h.Distinct) (hd' : h'.Distinct) (hm : ∀ e, e ∈ h.entries ↔ e ∈ h'.entries) :
    h.slot i = h'.slot i := by
  ext m
  simp only [hd.slot_eq_some_iff, hd'.slot_eq_some_iff, hm]

lemma of_perm (hd : h.Distinct) (hp : h'.entries.Perm h.entries) : h'.Distinct :=
  (hp.map _).nodup_iff.2 hd

end Distinct

lemma Distinct.add (hd : h.Distinct) (i : Nat) (m : Memory) : (h.add i m).Distinct := by
  unfold Distinct
  rw [indices_add]
  split
  · exact hd
  · rename_i hi
    exact List.Nodup.append hd (List.nodup_singleton i) (by simpa using hi)

lemma removeFrom_perm {l : List HistoryEntry} {e : HistoryEntry}
    (he : l.find? (fun e => e.index == i) = some e) : l.Perm (e :: removeFrom i l) := by
  induction l with
  | nil => simp at he
  | cons d l ih =>
    by_cases hd : d.index = i
    · obtain rfl : d = e := by simpa [hd] using he
      refine .cons _ ?_
      rw [removeFrom, if_pos hd]
      split
      · rename_i last hl
        have split : l = l.dropLast ++ [last] := (List.dropLast_append_getLast? _ hl).symm
        conv_lhs => rw [split]
        exact List.perm_append_singleton _ _
      · rename_i hl
        rw [List.getLast?_eq_none_iff.1 hl]
    · have he : l.find? (fun e => e.index == i) = some e := by simpa [hd] using he
      rw [removeFrom, if_neg hd]
      exact ((ih he).cons d).trans (.swap _ _ _)

lemma pop_fst : (h.pop i).1 = h.slot i := by
  unfold pop slot
  cases h.get? i <;> rfl

lemma pop_of_slot (hm : h.slot i = some m) : h.entries.Perm (⟨i, m⟩ :: (h.pop i).2.entries) := by
  obtain ⟨e, he, rfl⟩ := Option.map_eq_some_iff.1 hm
  obtain rfl := index_of_get? he
  simpa only [pop, he] using removeFrom_perm he

lemma pop_of_empty (hm : h.slot i = none) : (h.pop i).2 = h := by
  have he : h.get? i = none := Option.map_eq_none_iff.1 hm
  simp only [pop, he]

lemma Distinct.pop (hd : h.Distinct) (i : Nat) : (h.pop i).2.Distinct := by
  cases hm : h.slot i with
  | none => rwa [pop_of_empty hm]
  | some m => exact (List.nodup_cons.1 (((pop_of_slot hm).map _).nodup_iff.1 hd)).2

lemma Distinct.slot_pop_self (hd : h.Distinct) (i : Nat) : (h.pop i).2.slot i = none := by
  cases hm : h.slot i with
  | none => rwa [pop_of_empty hm]
  | some m =>
    have taken := (List.nodup_cons.1 (((pop_of_slot hm).map _).nodup_iff.1 hd)).1
    cases hr : (h.pop i).2.slot i with
    | none => rfl
    | some m' => exact absurd (List.mem_map_of_mem (mem_of_slot hr)) taken

lemma Distinct.slot_pop (hd : h.Distinct) (hj : j ≠ i) : (h.pop i).2.slot j = h.slot j := by
  cases hm : h.slot i with
  | none => rw [pop_of_empty hm]
  | some m =>
    ext m'
    simp only [hd.slot_eq_some_iff, (hd.pop i).slot_eq_some_iff, (pop_of_slot hm).mem_iff, List.mem_cons,
      HistoryEntry.mk.injEq, hj, false_and, false_or]

section Parts

variable (h) (n : Nat)

def below : History :=
  ⟨h.entries.filter fun e => e.index < n⟩

def above : History :=
  ⟨(h.entries.filter fun e => n ≤ e.index).map fun e => ⟨e.index - n, e.memory⟩⟩

def raised : History :=
  ⟨h.entries.map (HistoryEntry.raised n)⟩

variable {h n}

lemma Distinct.below (hd : h.Distinct) (n : Nat) : (h.below n).Distinct :=
  hd.sublist (List.filter_sublist.map _)

lemma Distinct.above (hd : h.Distinct) (n : Nat) : (h.above n).Distinct := by
  unfold Distinct History.above
  rw [List.map_map]
  refine List.Nodup.map_on (fun e he e' he' heq => ?_) (hd.of_map.filter _)
  simp only [List.mem_filter, decide_eq_true_eq] at he he'
  have : e.index - n = e'.index - n := heq
  exact hd.eq_of_index he.1 he'.1 (by omega)

lemma Distinct.slot_below (hd : h.Distinct) (hi : i < n) : (h.below n).slot i = h.slot i := by
  ext m
  rw [(hd.below n).slot_eq_some_iff, hd.slot_eq_some_iff]
  simp [History.below, hi]

lemma Distinct.slot_above (hd : h.Distinct) (n i : Nat) : (h.above n).slot i = h.slot (n + i) := by
  ext m
  rw [(hd.above n).slot_eq_some_iff, hd.slot_eq_some_iff]
  simp only [History.above, List.mem_map, List.mem_filter, decide_eq_true_eq, HistoryEntry.mk.injEq]
  constructor
  · rintro ⟨e, ⟨he, hn⟩, rfl, rfl⟩
    rwa [Nat.add_sub_cancel' hn]
  · exact fun he => ⟨_, ⟨he, by simp⟩, by simp, rfl⟩

end Parts

end History

end ItemPipeline
