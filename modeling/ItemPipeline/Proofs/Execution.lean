import ItemPipeline.Task.Run
import Mathlib.Data.List.Induction
import Mathlib.Tactic.Lemma

/-!
Execution as a function of the value, its time and the history alone. Neither the scripts that a worker
has kept nor a document decoded for several items changes the result, so a rule set gives a list of
values a meaning of its own.
-/

namespace ItemPipeline

namespace Script

def Cache.Sound (c : Cache) : Prop :=
  ∀ source s, c.get? source = some s → ∃ p, parse source = .ok p ∧ s = .of source p

namespace Cache

variable {c : Cache} {source : String}

lemma sound_empty : ({} : Cache).Sound :=
  nofun

lemma get?_insert (s : Compiled) (key : String) : (c.insert source s).get? key =
    if source = key then some s else if c.size ≥ capacity then none else c.get? key := by
  unfold insert get?
  rw [Table.get?_insert]
  split_ifs <;> rfl

lemma Sound.insert (h : c.Sound) {p : Code} (hp : parse source = .ok p) : (c.insert source (.of source p)).Sound := by
  intro key s hs
  rw [get?_insert] at hs
  split_ifs at hs with hk hc
  · subst hk
    exact ⟨p, hp, (Option.some.inj hs).symm⟩
  · exact h key s hs

lemma Sound.compile_fst (h : c.Sound) : (c.compile source).1 = (({} : Cache).compile source).1 := by
  have fresh : ({} : Cache).get? source = none := rfl
  unfold compile
  rw [fresh]
  cases hs : c.get? source with
  | none => dsimp only; split <;> rfl
  | some s =>
    obtain ⟨p, hp, rfl⟩ := h source s hs
    simp [hp]

lemma Sound.compile_snd (h : c.Sound) : (c.compile source).2.Sound := by
  unfold compile
  split
  · exact h
  · split
    · rename_i s hs
      exact h.insert hs
    · exact h

end Cache

namespace Engine

variable {e : Engine} (s : String) (v : Value) (i : Input)

lemma run_eq : (e.run s v i).1 = (e.cache.compile s).1.bind fun p => p.run v i := by
  unfold run compile
  obtain ⟨r, c⟩ := e.cache.compile s
  cases r <;> rfl

lemma run_cache : (e.run s v i).2.cache = (e.cache.compile s).2 := by
  unfold run compile
  obtain ⟨r, c⟩ := e.cache.compile s
  cases r <;> rfl

lemma run_fst (h : e.cache.Sound) : (e.run s v i).1 = (({} : Engine).run s v i).1 := by
  rw [run_eq, run_eq, h.compile_fst]

lemma run_snd (h : e.cache.Sound) : (e.run s v i).2.cache.Sound := by
  rw [run_cache]
  exact h.compile_snd

end Engine

end Script

def Context.Sound (c : Context) : Prop :=
  (c.engine.getD {}).cache.Sound

lemma Context.sound_empty : ({} : Context).Sound :=
  Script.Cache.sound_empty

namespace Step

variable {c : Context} {v : Value} {now : Timestamp} {params : String} {m : Option Memory}

lemma runScript_eq (h : c.Sound) :
    (runScript c now params m v).value = (runScript {} now params m v).value ∧
      (runScript c now params m v).memory = (runScript {} now params m v).memory ∧
      (runScript c now params m v).context.Sound := by
  have hf : ((c.engine.getD {}).run params v (scriptInput now m)).1 =
      ((({} : Context).engine.getD {}).run params v (scriptInput now m)).1 := Script.Engine.run_fst _ _ _ h
  have hs := Script.Engine.run_snd params v (scriptInput now m) h
  unfold runScript
  generalize (c.engine.getD {}).run params v (scriptInput now m) = a at hf hs
  generalize (({} : Context).engine.getD {}).run params v (scriptInput now m) = b at hf
  obtain ⟨r, e⟩ := a
  obtain ⟨r', e'⟩ := b
  obtain rfl : r = r' := hf
  cases r <;> exact ⟨rfl, rfl, hs⟩

lemma run_eq (s : Step) (cache : Option Cache) (t : ValueType) (now : Timestamp) (m : Option Memory)
    (v : Value) (h : c.Sound) :
    (s.run c cache t now m v).value = (s.run {} cache t now m v).value ∧
      (s.run c cache t now m v).memory = (s.run {} cache t now m v).memory ∧
      (s.run c cache t now m v).context.Sound := by
  unfold run
  split
  · exact runScript_eq h
  · split
    · exact ⟨rfl, rfl, h⟩
    · exact ⟨rfl, rfl, h⟩

end Step

lemma runSteps_eq (t : ValueType) (now : Timestamp) (l : List Step) (i : Nat) (c : Context)
    (cache : Option Cache) (h : History) (v : Value) (hc : c.Sound) :
    (runSteps t now i l c cache h v).results = (runSteps t now i l {} cache h v).results ∧
      (runSteps t now i l c cache h v).kept = (runSteps t now i l {} cache h v).kept ∧
      (runSteps t now i l c cache h v).context.Sound := by
  induction l generalizing i c cache h v with
  | nil => exact ⟨rfl, rfl, hc⟩
  | cons s l ih =>
    simp only [runSteps]
    split
    · exact ⟨rfl, rfl, hc⟩
    · obtain ⟨hv, hm, hs⟩ := s.run_eq cache t now (h.pop i).1 v hc
      obtain ⟨-, -, he⟩ := s.run_eq cache t now (h.pop i).1 v Context.sound_empty
      simp only [hv, hm]
      obtain ⟨hr, hk, ht⟩ := ih (i + 1) _ none (h.pop i).2
        (s.resultOf (s.run {} cache t now (h.pop i).1 v).value).value hs
      obtain ⟨hr', hk', -⟩ := ih (i + 1) _ none (h.pop i).2
        (s.resultOf (s.run {} cache t now (h.pop i).1 v).value).value he
      exact ⟨by rw [hr, hr'], by rw [hk, hk'], ht⟩

lemma Value.toText_of_content {v : Value} (hn : v.isNone = false) (he : v.isError = false) :
    ∃ s, v.toText = .ok s := by
  cases v <;> simp_all [isNone, isError, toText]

namespace Cache

variable {k : Cache} {s : String}

lemma json_eq (tag : k.tag = some .jsonpath) (text : k.value.toText = .ok s) :
    k.json = (Json.parse s).mapError .json := by
  unfold json
  rw [data_eq, tag, Decoded.read, text]
  cases h : Json.parse s <;> simp [h, Except.mapError, Except.map, bind, Except.bind]

lemma exposition_eq (tag : k.tag = some .prometheusPattern) (text : k.value.toText = .ok s) :
    k.exposition = (Exposition.parse s).mapError .exposition := by
  unfold exposition
  rw [data_eq, tag, Decoded.read, text]
  cases h : Exposition.parse s <;> simp [h, Except.mapError, Except.map, bind, Except.bind]

end Cache

namespace Step

variable {c : Context} {s : Step} {k : Cache} {t : ValueType} {now : Timestamp} {m : Option Memory}

lemma jsonpath_cached {params text : String} (tag : k.tag = some .jsonpath)
    (h : k.value.toText = .ok text) :
    jsonpath (some k) params k.value = jsonpath none params k.value := by
  simp only [jsonpath, jsonDocument, Cache.json_eq tag h, h]
  rfl

lemma prometheusPattern_cached {params text : String} (tag : k.tag = some .prometheusPattern)
    (h : k.value.toText = .ok text) :
    prometheusPattern (some k) params k.value = prometheusPattern none params k.value := by
  simp only [prometheusPattern, Cache.exposition_eq tag h, h]
  cases patternParams params with
  | error e => rfl
  | ok p =>
    simp only [Except.mapError, bind, Except.bind]
    cases Exposition.parse text <;> rfl

lemma toText_of_stopsAt {v : Value} (h : s.stopsAt v = false) (hk : s.kind ≠ .validateNotSupported) :
    ∃ text, v.toText = .ok text := by
  simp only [stopsAt, Bool.or_eq_false_iff, Bool.and_eq_false_iff, bne_eq_false_iff_eq] at h
  exact Value.toText_of_content h.1 (h.2.resolve_right hk)

lemma apply_cached (h : s.stopsAt k.value = false) :
    s.apply (some k) t k.value = s.apply none t k.value := by
  cases hk : s.kind with
  | jsonpath =>
    obtain ⟨text, ht⟩ := toText_of_stopsAt h (by simp [hk])
    cases hs : k.serves .jsonpath with
    | false => simp [apply, hk, Option.filter, hs]
    | true =>
      have tag : k.tag = some .jsonpath := by simpa [Cache.serves, StepKind.usesCache] using hs
      simpa [apply, hk, Option.filter, hs] using jsonpath_cached tag ht
  | prometheusPattern =>
    obtain ⟨text, ht⟩ := toText_of_stopsAt h (by simp [hk])
    cases hs : k.serves .prometheusPattern with
    | false => simp [apply, hk, Option.filter, hs]
    | true =>
      have tag : k.tag = some .prometheusPattern := by simpa [Cache.serves, StepKind.usesCache] using hs
      simpa [apply, hk, Option.filter, hs] using prometheusPattern_cached tag ht
  | _ => simp [apply, hk]

lemma run_cached (h : s.stopsAt k.value = false) :
    s.run c (some k) t now m k.value = s.run c none t now m k.value := by
  simp only [run, apply_cached h]

lemma run_of_forgetful (hs : s.kind.hasHistory = false) (cache : Option Cache) (v : Value) :
    s.run c cache t now m v = ⟨s.apply cache t v, m, c⟩ := by
  have noScript : s.kind ≠ .script := by
    intro script
    simp [script, StepKind.hasHistory] at hs
  simp [run, noScript, hs]

end Step

namespace RuleSet

variable (r : RuleSet) {c : Context} {input : Value} {now : Timestamp} {h : History}

lemma runSteps_cached (t : ValueType) (i : Nat) (l : List Step) (k : Cache) :
    runSteps t now i l c (some k) h k.value = runSteps t now i l c none h k.value := by
  cases l with
  | nil => rfl
  | cons s l =>
    cases hs : s.stopsAt k.value with
    | true => simp [runSteps, hs]
    | false => simp [runSteps, hs, Step.run_cached hs]

lemma execute_cached (k : Cache) : r.execute c (some k) input now h = r.execute c none k.value now h := by
  simp only [execute, runSteps_cached]

/-- A value that is shared is as good as a copy of one's own: whichever steps its document was meant for,
and whether it has been read by now or not, the rules come to the same value, results, messages and history
and leave the same context. -/
theorem shared_cache_transparent (k : Cache) :
    r.execute c (some k) input now h = r.execute c none k.value now h ∧
      r.execute c (some k.build) input now h = r.execute c none k.value now h ∧
      ∀ (owner : RuleSet) (v : Value),
        r.execute c (some (Cache.ofRules owner v)) input now h = r.execute c none v now h ∧
          r.execute c (some (Cache.ofRules owner v).prepare) input now h = r.execute c none v now h := by
  refine ⟨r.execute_cached k, r.execute_cached k.build, fun owner v => ⟨r.execute_cached _, ?_⟩⟩
  have value : (Cache.ofRules owner v).prepare.value = v := Cache.prepare_value _
  rw [r.execute_cached, value]

lemma execute_eq (input : Value) (now : Timestamp) (h : History) (hc : c.Sound) :
    (r.execute c none input now h).1 = (r.execute {} none input now h).1 ∧
      (r.execute c none input now h).2.1 = (r.execute {} none input now h).2.1 ∧
      (r.execute c none input now h).2.2.Sound := by
  obtain ⟨hr, hk, hs⟩ := runSteps_eq r.valueType now r.steps 0 c none h input hc
  simp only [execute, Trace.outcome, hr, hk]
  split
  · exact ⟨rfl, rfl, hc⟩
  · exact ⟨rfl, rfl, hs⟩

def once (x : Value × Timestamp) (h : History) : Value × History :=
  ((r.execute {} none x.1 x.2 h).1.value, (r.execute {} none x.1 x.2 h).2.1)

def results (h : History) : List (Value × Timestamp) → List Value
  | [] => []
  | x :: l => (r.once x h).1 :: results (r.once x h).2 l

def memory (h : History) (l : List (Value × Timestamp)) : History :=
  l.foldl (fun h x => (r.once x h).2) h

lemma results_append (l l' : List (Value × Timestamp)) :
    r.results h (l ++ l') = r.results h l ++ r.results (r.memory h l) l' := by
  induction l generalizing h with
  | nil => rfl
  | cons y l ih => simp [results, memory, ih]

lemma memory_snoc (l : List (Value × Timestamp)) (x : Value × Timestamp) :
    r.memory h (l ++ [x]) = (r.once x (r.memory h l)).2 := by
  simp [memory]

lemma results_snoc (l : List (Value × Timestamp)) (x : Value × Timestamp) :
    r.results h (l ++ [x]) = r.results h l ++ [(r.once x (r.memory h l)).1] := by
  simp [results_append, results]

lemma length_results (l : List (Value × Timestamp)) : (r.results h l).length = l.length := by
  induction l generalizing h with
  | nil => rfl
  | cons y l ih => simp [results, ih]

lemma forgetful_iff : r.historyCount = 0 ↔ ∀ s ∈ r.steps, s.kind.hasHistory = false := by
  simp [historyCount, List.countP_eq_zero]

def plainResults (t : ValueType) : List Step → Option Cache → Value → List StepResult
  | [], _, _ => []
  | s :: rest, cache, v =>
    if s.stopsAt v then []
    else
      let res := s.resultOf (s.apply cache t v)
      res :: plainResults t rest none res.value

lemma runSteps_of_forgetful {l : List Step} (hl : ∀ s ∈ l, s.kind.hasHistory = false) (t : ValueType) (i : Nat)
    (cache : Option Cache) (v : Value) :
    runSteps t now i l c cache h v = ⟨plainResults t l cache v, [], c⟩ := by
  induction l generalizing i cache h v with
  | nil => rfl
  | cons s l ih =>
    have hs : s.kind.hasHistory = false := hl s List.mem_cons_self
    have rest : ∀ s ∈ l, s.kind.hasHistory = false := fun s hs => hl s (List.mem_cons_of_mem _ hs)
    cases stop : s.stopsAt v with
    | true => simp [runSteps, plainResults, stop]
    | false => simp [runSteps, plainResults, stop, Step.run_of_forgetful hs, ih rest, Step.keep, hs]

lemma execute_of_forgetful (hr : ∀ s ∈ r.steps, s.kind.hasHistory = false) (cache : Option Cache)
    (input : Value) (c c' : Context) (now now' : Timestamp) (h h' : History) :
    (r.execute c cache input now h).1 = (r.execute c' cache input now' h').1 ∧
      (r.execute c cache input now h).2.2 = c := by
  simp only [execute, runSteps_of_forgetful hr]
  split <;> exact ⟨rfl, rfl⟩

lemma once_of_forgetful (hr : r.historyCount = 0) (x : Value × Timestamp) :
    (r.once x .empty).2 = .empty := by
  simp only [once, execute, runSteps_of_forgetful (r.forgetful_iff.1 hr)]
  split
  · rfl
  · split <;> rfl

lemma memory_of_forgetful (hr : r.historyCount = 0) (l : List (Value × Timestamp)) :
    r.memory .empty l = .empty := by
  induction l using List.reverseRecOn with
  | nil => rfl
  | append_singleton l x ih => rw [memory_snoc, ih, r.once_of_forgetful hr]

end RuleSet

end ItemPipeline
