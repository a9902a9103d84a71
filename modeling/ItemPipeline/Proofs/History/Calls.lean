import ItemPipeline.Proofs.History
import Mathlib.Data.Finmap

/-!
Histories under any sequence of calls. They answer as finite maps do, and have as many entries as these have
keys.
-/

namespace ItemPipeline.History

inductive Call
  | add (i : ℕ) (m : Memory)
  | pop (i : ℕ)
  | get (i : ℕ)
  | clear

inductive Answer
  | done
  | taken (m : Option Memory)
  | found (e : Option HistoryEntry)

def answer (h : History) : Call → Answer × History
  | .add i m => (.done, h.add i m)
  | .pop i => (.taken (h.pop i).1, (h.pop i).2)
  | .get i => (.found (h.get? i), h)
  | .clear => (.done, empty)

abbrev Map :=
  Finmap fun _ : ℕ => Memory

def Map.answer (f : Map) : Call → Answer × Map
  | .add i m => (.done, f.insert i m)
  | .pop i => (.taken (f.lookup i), f.erase i)
  | .get i => (.found ((f.lookup i).map (⟨i, ·⟩)), f)
  | .clear => (.done, ∅)

def serve {σ : Type} (answer : σ → Call → Answer × σ) (s : σ) : List Call → List Answer × σ
  | [] => ([], s)
  | c :: l => ((answer s c).1 :: (serve answer (answer s c).2 l).1, (serve answer (answer s c).2 l).2)

structure Shows (h : History) (f : Map) : Prop where
  distinct : h.Distinct
  slot : ∀ i, h.slot i = f.lookup i

namespace Shows

variable {h : History} {f : Map}

lemma empty : History.empty.Shows ∅ :=
  ⟨distinct_empty, fun _ => rfl⟩

lemma add (hs : h.Shows f) (i : ℕ) (m : Memory) : (h.add i m).Shows (f.insert i m) := by
  refine ⟨hs.distinct.add i m, fun j => ?_⟩
  rw [slot_add]
  by_cases hj : i = j
  · subst hj
    rw [if_pos rfl, Finmap.lookup_insert]
  · rw [if_neg hj, Finmap.lookup_insert_of_ne f (Ne.symm hj), hs.slot]

lemma pop (hs : h.Shows f) (i : ℕ) : (h.pop i).2.Shows (f.erase i) := by
  refine ⟨hs.distinct.pop i, fun j => ?_⟩
  by_cases hj : j = i
  · subst hj
    rw [hs.distinct.slot_pop_self, Finmap.lookup_erase]
  · rw [hs.distinct.slot_pop hj, Finmap.lookup_erase_ne hj, hs.slot]

lemma answer_snd (hs : h.Shows f) (c : Call) : (h.answer c).2.Shows (f.answer c).2 := by
  cases c with
  | add i m => exact hs.add i m
  | pop i => exact hs.pop i
  | get i => exact hs
  | clear => exact empty

lemma get? (hs : h.Shows f) (i : ℕ) : h.get? i = (f.lookup i).map (⟨i, ·⟩) := by
  rw [get?_eq, hs.slot]

lemma answer_fst (hs : h.Shows f) (c : Call) : (h.answer c).1 = (f.answer c).1 := by
  cases c with
  | add i m => rfl
  | pop i => exact congrArg Answer.taken (pop_fst.trans (hs.slot i))
  | get i => exact congrArg Answer.found (hs.get? i)
  | clear => rfl

lemma serve_eq (hs : h.Shows f) (l : List Call) :
    (serve answer h l).1 = (serve Map.answer f l).1 ∧ (serve answer h l).2.Shows (serve Map.answer f l).2 := by
  induction l generalizing h f with
  | nil => exact ⟨rfl, hs⟩
  | cons c l ih =>
    obtain ⟨answers, after⟩ := ih (hs.answer_snd c)
    exact ⟨congrArg₂ List.cons (hs.answer_fst c) answers, after⟩

lemma mem_keys_iff (hs : h.Shows f) (i : ℕ) : i ∈ f.keys ↔ i ∈ h.entries.map (·.index) := by
  rw [Finmap.mem_keys, Finmap.mem_iff]
  constructor
  · rintro ⟨m, hm⟩
    exact List.mem_map_of_mem (mem_of_slot ((hs.slot i).trans hm))
  · intro hi
    obtain ⟨e, he, rfl⟩ := List.mem_map.1 hi
    exact ⟨e.memory, (hs.slot _).symm.trans (hs.distinct.slot_eq_some_iff.2 he)⟩

lemma size_eq (hs : h.Shows f) : h.size = f.keys.card := by
  have keys : f.keys = (h.entries.map (·.index)).toFinset := by
    ext i
    rw [List.mem_toFinset, hs.mem_keys_iff]
  rw [keys, List.toFinset_card_of_nodup hs.distinct, List.length_map]
  rfl

end Shows

/-- Whatever calls have been made since a history was empty, no two of its entries are for the same step, it has
answered all of them as a finite map would have, it has an entry for each key of this map with what the map has
under it, and no others. -/
theorem calls_as_map (l : List Call) :
    let h := (serve answer empty l).2
    let f := (serve Map.answer ∅ l).2
    (serve answer empty l).1 = (serve Map.answer ∅ l).1 ∧
      (h.entries.map (·.index)).Nodup ∧
      h.size = f.keys.card ∧
      ∀ i m, ⟨i, m⟩ ∈ h.entries ↔ f.lookup i = some m := by
  intro h f
  obtain ⟨answers, shows⟩ := Shows.empty.serve_eq l
  refine ⟨answers, shows.distinct, shows.size_eq, fun i m => ?_⟩
  rw [← shows.slot, shows.distinct.slot_eq_some_iff]

example (m : Memory) :
    (serve answer empty [.add 0 m, .add 1 m, .add 2 m, .pop 0]).2.entries = [⟨2, m⟩, ⟨1, m⟩] := rfl

end ItemPipeline.History
