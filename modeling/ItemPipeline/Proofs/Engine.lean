import ItemPipeline.Proofs.Execution
import ItemPipeline.Proofs.Table

/-!
A script engine over all its calls. What it keeps from one call to the next, compiled scripts and the input of
the last run, shows in no answer, and there is never more of it than the cache has room for.
-/

namespace ItemPipeline.Script

namespace Cache

variable {c : Cache} {source : String}

structure Kept (c : Cache) : Prop where
  sound : c.Sound
  distinct : c.scripts.keys.Nodup
  size_le : c.size ≤ capacity

lemma kept_empty : ({} : Cache).Kept :=
  ⟨sound_empty, List.nodup_nil, Nat.zero_le _⟩

lemma size_eq (c : Cache) : c.size = c.scripts.keys.length :=
  (List.length_map _).symm

lemma size_insert_le (s : Compiled) : (c.insert source s).size ≤ capacity := by
  have grows (t : Table String Compiled) : (t.insert source s).keys.length ≤ t.keys.length + 1 := by
    rw [Table.keys_insert]
    split <;> simp
  rw [size_eq]
  by_cases full : c.size ≥ capacity
  · rw [insert, if_pos full]
    exact Nat.le_trans (grows {}) (by decide)
  · rw [insert, if_neg full]
    rw [size_eq] at full
    exact Nat.le_trans (grows c.scripts) (by omega)

lemma distinct_insert (h : c.scripts.keys.Nodup) (s : Compiled) : (c.insert source s).scripts.keys.Nodup := by
  unfold insert
  split
  · exact Table.nodup_insert (t := {}) List.nodup_nil source s
  · exact Table.nodup_insert h source s

lemma Kept.compile (h : c.Kept) (source : String) : (c.compile source).2.Kept := by
  refine ⟨h.sound.compile_snd, ?_, ?_⟩
  all_goals
    unfold Cache.compile
    split
  · exact h.distinct
  · split
    · exact distinct_insert h.distinct _
    · exact h.distinct
  · exact h.size_le
  · split
    · exact size_insert_le _
    · exact h.size_le

lemma compile_of_error {f : Failure} (failed : (c.compile source).1 = .error f) : (c.compile source).2 = c := by
  unfold compile at failed ⊢
  split
  · rfl
  · rename_i missing
    rw [missing] at failed
    split
    · rename_i s parsed
      simp [parsed] at failed
    · rfl

end Cache

lemma converts_iff (s : Code) :
    s.converts = true ↔ ∃ f ∈ s.functions, f.name = "convert" ∧ f.params.length = 1 := by
  simp [Code.converts]

namespace Engine

inductive Call
  | run (source : String) (v : Value) (i : Input)
  | compile (source : String)
  | validate (source : String)

inductive Response
  | value (r : Except Failure Value)
  | script (r : Except Failure Compiled)
  | verdict (r : Except Failure Unit)

def answer (e : Engine) : Call → Response × Engine
  | .run source v i => (.value (e.run source v i).1, (e.run source v i).2)
  | .compile source => (.script (e.compile source).1, (e.compile source).2)
  | .validate source => (.verdict (validate source), e)

def serve (e : Engine) : List Call → List Response × Engine
  | [] => ([], e)
  | c :: l => ((e.answer c).1 :: ((e.answer c).2.serve l).1, ((e.answer c).2.serve l).2)

variable {e : Engine}

lemma answer_fst (h : e.cache.Sound) (c : Call) : (e.answer c).1 = (({} : Engine).answer c).1 := by
  cases c with
  | run source v i => exact congrArg Response.value (run_fst source v i h)
  | compile source => exact congrArg Response.script h.compile_fst
  | validate source => rfl

lemma answer_kept (h : e.cache.Kept) (c : Call) : (e.answer c).2.cache.Kept := by
  cases c with
  | run source v i =>
    have same : (e.answer (.run source v i)).2.cache = (e.cache.compile source).2 := run_cache source v i
    exact same ▸ h.compile source
  | compile source => exact h.compile source
  | validate source => exact h

lemma serve_fst (h : e.cache.Kept) (l : List Call) :
    (e.serve l).1 = l.map fun c => (({} : Engine).answer c).1 := by
  induction l generalizing e with
  | nil => rfl
  | cons c l ih => rw [serve, List.map_cons, answer_fst h.sound, ih (answer_kept h c)]

lemma serve_kept (h : e.cache.Kept) (l : List Call) : (e.serve l).2.cache.Kept := by
  induction l generalizing e with
  | nil => exact h
  | cons c l ih => exact ih (answer_kept h c)

/-- Whatever an engine has been asked before, it answers as a new one would. It keeps at most so many scripts, each
compiled from its own source, and neither a script that cannot be compiled nor a check of one changes them. -/
theorem calls_transparent (l : List Call) :
    let e := (({} : Engine).serve l).2
    (({} : Engine).serve l).1 = l.map (fun c => (({} : Engine).answer c).1) ∧
      (∀ source s, e.cache.get? source = some s → s.source = source ∧ parse source = .ok s.script ∧
        (s.converts = true ↔ ∃ f ∈ s.script.functions, f.name = "convert" ∧ f.params.length = 1)) ∧
      e.cache.scripts.keys.Nodup ∧ e.cached ≤ 1024 ∧
      (∀ source f, (e.compile source).1 = .error f →
        (e.compile source).2.cache = e.cache ∧ ∀ v i, (e.run source v i).2.cache = e.cache) ∧
      ∀ source, (e.answer (.validate source)).2.cache = e.cache := by
  intro e
  have kept : e.cache.Kept := serve_kept Cache.kept_empty l
  refine ⟨serve_fst Cache.kept_empty l, fun source s found => ?_, kept.distinct, kept.size_le, fun source f failed => ?_,
    fun _ => rfl⟩
  · obtain ⟨p, parsed, rfl⟩ := kept.sound source s found
    exact ⟨rfl, parsed, converts_iff p⟩
  · have same : (e.cache.compile source).2 = e.cache := Cache.compile_of_error failed
    exact ⟨same, fun v i => (run_cache source v i).trans same⟩

end Engine

end ItemPipeline.Script
