import ItemPipeline.Proofs.Runs

/-!
Throttling over whole runs. What is remembered is always the value that came through last, with the time of its run, so a
value is held back exactly when it repeats that one within the period.
-/

namespace ItemPipeline

lemma Timestamp.elapsedSeconds_lt_iff {now since : Timestamp} {p : Int} (positive : 0 < p) :
    now.elapsedSeconds since < p ↔ now.nanos - since.nanos < p * 1000000000 := by
  have second : (Int.pow 10 9 : Int) = 1000000000 := rfl
  rw [elapsedSeconds, elapsed, second]
  rcases Int.le_total 0 (now.nanos - since.nanos) with h | h
  · rw [Int.tdiv_eq_ediv_of_nonneg h]
    omega
  · -- whole seconds are cut off towards zero, so those before the run are none
    have cut := Int.tdiv_nonneg (a := -(now.nanos - since.nanos)) (b := 1000000000) (by omega) (by decide)
    rw [Int.neg_tdiv] at cut
    omega

inductive Step.Throttles (s : Step) : Option Int → Prop
  | always (kind : s.kind = .throttleValue) : Throttles s none
  | timed {p : Int} (kind : s.kind = .throttleTimedValue) (period : parsePeriod? s.params.toList = some p)
      (positive : 0 < p) : Throttles s (some p)

def Repeats (period : Option Int) (last : Option Memory) (x : Value × Timestamp) : Prop :=
  ∃ m ∈ last, m.value.same x.1 = true ∧ ∀ p ∈ period, x.2.nanos - m.time.nanos < p * 1000000000

instance (period : Option Int) (last : Option Memory) (x : Value × Timestamp) : Decidable (Repeats period last x) :=
  inferInstanceAs (Decidable (∃ m ∈ last, _ ∧ _))

def lastThrough (l : List (Value × Timestamp)) (out : List Value) : Option Memory :=
  ((l.zip out).filterMap fun y => if y.2.isNone then none else some ⟨y.2, y.1.2⟩).getLast?

lemma lastThrough_cons (x : Value × Timestamp) (w : Value) (l : List (Value × Timestamp)) (out : List Value) :
    lastThrough (x :: l) (w :: out) = (lastThrough l out).or (if w.isNone then none else some ⟨w, x.2⟩) := by
  unfold lastThrough
  rw [List.zip_cons_cons, List.filterMap_cons]
  cases w.isNone with
  | true => simp
  | false =>
    simp only [Bool.false_eq_true, if_false, List.getLast?_cons]
    cases List.getLast? _ <;> rfl

namespace Step.Throttles

variable {s : Step} {period : Option Int} {t : ValueType} {now : Timestamp} {m : Option Memory} {v : Value}

lemma hasHistory (h : s.Throttles period) : s.kind.hasHistory = true ∧ s.kind ≠ .script := by
  cases h with
  | always kind => simp [kind, StepKind.hasHistory]
  | timed kind => simp [kind, StepKind.hasHistory]

lemma remember_eq (h : s.Throttles period) :
    s.remember t now m v = if Repeats period m (v, now) then (.ok .none, m) else (.ok v, some ⟨v, now⟩) := by
  cases h with
  | always kind =>
    simp only [remember, kind, throttle]
    congr 1
    simp [Repeats, Option.any_eq_true]
  | @timed p kind parsed positive =>
    simp only [remember, kind, throttleTimed, parsed, Option.filter, positive, decide_true, if_true]
    congr 1
    simp [Repeats, Option.any_eq_true, Timestamp.elapsedSeconds_lt_iff positive]

end Step.Throttles

namespace RuleSet

variable {r : RuleSet} {s : Step} {period : Option Int} {l : List (Value × Timestamp)} {out : List Value}
  {h h' : History} {m : Option Memory}

lemma execute_throttles (single : r.steps = [s]) (throttles : s.Throttles period) (c : Context) {cache : Option Cache}
    {input : Value} (now : Timestamp) (filled : (source cache input).isNone = false)
    (sound : (source cache input).isError = false) :
    (r.execute c cache input now (.alone m)).1.value =
        (if Repeats period m (source cache input, now) then .none else source cache input) ∧
      (r.execute c cache input now (.alone m)).2.1 =
        .alone (if Repeats period m (source cache input, now) then m else some ⟨source cache input, now⟩) := by
  have go : s.stopsAt (source cache input) = false := by simp [Step.stopsAt, filled, sound]
  obtain ⟨bears, noScript⟩ := throttles.hasHistory
  have step : s.remember r.valueType now m (source cache input) = _ := throttles.remember_eq
  split_ifs at step ⊢
  · exact execute_single single bears noScript go step rfl
  · exact execute_single single bears noScript go step sound

lemma Runs.alone_lastThrough (runs : r.Runs h l out h') (single : r.steps = [s]) (throttles : s.Throttles period)
    (content : ∀ x ∈ l, x.1.isNone = false ∧ x.1.isError = false) (start : h = .alone m) :
    h' = .alone ((lastThrough l out).or m) := by
  induction runs generalizing m with
  | done => exact start
  | run c cache input now rest ih =>
    subst start
    rw [List.forall_mem_cons] at content
    obtain ⟨⟨filled, sound⟩, content⟩ := content
    rw [lastThrough_cons, Option.or_assoc]
    obtain ⟨value, left⟩ := execute_throttles single throttles c now (m := m) filled sound
    rw [ih content left, value]
    by_cases repeats : Repeats period m (source cache input, now)
    · rw [if_pos repeats, if_pos repeats]
      rfl
    · rw [if_neg repeats, if_neg repeats, filled]
      rfl

/-- A run comes to nothing exactly if its value repeats the one that came through last, and the period since then is not
over; any other value comes through as it is. What is remembered is the value that came through last, with the time of
that run. -/
theorem runs_throttled (single : r.steps = [s]) (throttles : s.Throttles period) (runs : r.Runs .empty l out h)
    (content : ∀ x ∈ l, x.1.isNone = false ∧ x.1.isError = false) :
    (∀ l₁ x l₂, l = l₁ ++ x :: l₂ → ∃ out₁ w out₂, out = out₁ ++ w :: out₂ ∧ out₁.length = l₁.length ∧
      (w = .none ↔ Repeats period (lastThrough l₁ out₁) x) ∧ (w ≠ .none → w = x.1)) ∧
    h = .alone (lastThrough l out) := by
  constructor
  · rintro l₁ x l₂ rfl
    obtain ⟨out₁, rest, h₁, rfl, before, after⟩ := runs.split
    rw [List.forall_mem_append, List.forall_mem_cons] at content
    obtain ⟨content, ⟨filled, sound⟩, -⟩ := content
    have left : h₁ = .alone (lastThrough l₁ out₁) := by
      simpa using before.alone_lastThrough single throttles content (m := none) rfl
    subst left
    cases after with
    | @run _ _ _ out₂ c cache input now _ =>
      refine ⟨out₁, _, out₂, rfl, before.length_eq, ?_⟩
      obtain ⟨value, -⟩ := execute_throttles single throttles c now filled sound
      split_ifs at value with repeats
      · exact ⟨iff_of_true value repeats, fun some => (some value).elim⟩
      · refine ⟨iff_of_false (fun nothing => ?_) repeats, fun _ => value⟩
        rw [← value, nothing] at filled
        simp [Value.isNone] at filled
  · simpa using runs.alone_lastThrough single throttles content (m := none) rfl

theorem runs_throttled_of_minute :
    ∃ (r : RuleSet) (s : Step) (l : List (Value × Timestamp)) (out : List Value) (h : History),
      r.steps = [s] ∧ s.Throttles (some 60) ∧ r.Runs .empty l out h ∧
      (∀ x ∈ l, x.1.isNone = false ∧ x.1.isError = false) ∧
      l.map (·.2.nanos) = [0, 59999999999, 60000000000, -1000000000, -1000000000] ∧
      out = [.uint64 5, .none, .uint64 5, .none, .text "5"] ∧ h = .alone (lastThrough l out) ∧
      h = .alone (some ⟨.text "5", ⟨-1000000000⟩⟩) := by
  let s : Step := { kind := .throttleTimedValue, params := "1m" }
  let r : RuleSet := { valueType := .str, steps := [s] }
  have throttles : s.Throttles (some 60) := .timed rfl (by decide +kernel) (by decide)
  let l : List (Value × Timestamp) := [(.uint64 5, ⟨0⟩), (.uint64 5, ⟨59999999999⟩), (.uint64 5, ⟨60000000000⟩),
    (.uint64 5, ⟨-1000000000⟩), (.text "5", ⟨-1000000000⟩)]
  have run {m : Option Memory} {v : Value} {now : Timestamp} (filled : v.isNone = false) (sound : v.isError = false) :=
    execute_throttles (r := r) (m := m) rfl throttles {} now (show (source none v).isNone = false from filled) sound
  have runs : r.Runs .empty l [.uint64 5, .none, .uint64 5, .none, .text "5"]
      (.alone (some ⟨.text "5", ⟨-1000000000⟩⟩)) := by
    refine .cons {} (.alone (some ⟨.uint64 5, ⟨0⟩⟩)) (run (m := none) rfl rfl).1 (run (m := none) rfl rfl).2 ?_
    refine .cons {} (.alone (some ⟨.uint64 5, ⟨0⟩⟩)) (run rfl rfl).1 (run rfl rfl).2 ?_
    refine .cons {} (.alone (some ⟨.uint64 5, ⟨60000000000⟩⟩)) (run rfl rfl).1 (run rfl rfl).2 ?_
    refine .cons {} (.alone (some ⟨.uint64 5, ⟨60000000000⟩⟩)) (run rfl rfl).1 (run rfl rfl).2 ?_
    exact .cons {} _ (run rfl rfl).1 (run rfl rfl).2 .done
  have content : ∀ x ∈ l, x.1.isNone = false ∧ x.1.isError = false := by
    simp [l, Value.isNone, Value.isError]
  exact ⟨r, s, l, _, _, rfl, throttles, runs, content, rfl, rfl, (runs_throttled rfl throttles runs content).2, rfl⟩

end RuleSet

end ItemPipeline
