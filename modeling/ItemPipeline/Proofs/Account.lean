import ItemPipeline.Proofs.Composition
import ItemPipeline.Proofs.Execution
import ItemPipeline.Proofs.Success

/-!
What the recorded results of a chain tell. Every executed step has one, in order, and it says whether the
step failed and what became of its value. Only steps that look for an error in a document can make one
without failing, and only steps that compare a value with an earlier one, or scripts, can leave it out.
-/

namespace ItemPipeline

namespace StepKind

def validations : List StepKind :=
  [validateRange, validateRegex, validateNotRegex, validateNotSupported]

def errorFields : List StepKind :=
  [errorFieldJson, errorFieldXml, errorFieldRegex]

def omissions : List StepKind :=
  [deltaValue, deltaSpeed, throttleValue, throttleTimedValue, script]

end StepKind

inductive Step.Tells (s : Step) (v : Value) : Except Step.Fault Value → StepResult → Prop
  | failed {f : Step.Fault} (handler : s.handler = .default) :
      Tells s v (.error f) ⟨.error f.message, some f.message, .default⟩
  | discarded {f : Step.Fault} (handler : s.handler = .discardValue) :
      Tells s v (.error f) ⟨.none, some f.message, .discardValue⟩
  | replaced {f : Step.Fault} (handler : s.handler = .setValue) :
      Tells s v (.error f) ⟨.text s.handlerParams, some f.message, .setValue⟩
  | reworded {f : Step.Fault} (handler : s.handler = .setError) :
      Tells s v (.error f) ⟨.error s.handlerParams, some f.message, .setError⟩
  | succeeded {w : Value} (sound : w.isError = false) (omits : w.isNone = true → s.kind ∈ StepKind.omissions)
      (keeps : s.kind ∈ StepKind.validations ++ StepKind.errorFields → w = v) :
      Tells s v (.ok w) ⟨w, none, .default⟩
  | found {m : String} (field : s.kind ∈ StepKind.errorFields) :
      Tells s v (.ok (.error m)) ⟨.error m, none, .forceError⟩

/-- The results of steps from number `i` on, executed one after the other on `v` up to one that is not executed.
Each takes what the history has for it out, and the next one works in its context on the value of its result. -/
inductive Account (t : ValueType) (now : Timestamp) :
    Nat → List Step → Context → Option Cache → History → Value → List StepResult → Prop
  | complete {i : Nat} {c : Context} {cache : Option Cache} {h : History} {v : Value} : Account t now i [] c cache h v []
  | halted {i : Nat} {s : Step} {l : List Step} {c : Context} {cache : Option Cache} {h : History} {v : Value}
      (stop : v.isNone = true ∨ v.isError = true ∧ s.kind ≠ .validateNotSupported) :
      Account t now i (s :: l) c cache h v []
  | told {i : Nat} {s : Step} {l : List Step} {c : Context} {cache : Option Cache} {h : History} {v : Value}
      {o : Step.Outcome} {res : StepResult} {rs : List StepResult} (run : s.run c cache t now (h.pop i).1 v = o)
      (tells : s.Tells v o.value res) (rest : Account t now (i + 1) l o.context none (h.pop i).2 res.value rs) :
      Account t now i (s :: l) c cache h v (res :: rs)

def Value.hasContent (v : Value) : Bool :=
  !v.isNone && !v.isError

variable {s : Step} {v w : Value} {t : ValueType} {now : Timestamp} {params : String} {cache : Option Cache}
  {m : Option Memory}

lemma hasContent_of_readNumber? {l : List Char} (h : readNumber? l = some w) : w.hasContent = true := by
  unfold readNumber? at h
  split at h
  · obtain rfl := Option.some.inj h
    rfl
  · obtain ⟨x, -, rfl⟩ := Option.map_eq_some_iff.1 h
    rfl

lemma Value.hasContent_of_toNumber (h : v.toNumber t = .ok w) : w.hasContent = true := by
  unfold toNumber at h
  dsimp only at h
  split at h
  · exact nomatch h
  · obtain rfl := Except.ok.inj h
    rfl
  · rename_i hn
    obtain rfl := Except.ok.inj h
    cases v with
    | uint64 n =>
      obtain rfl := Option.some.inj hn
      rfl
    | double x =>
      obtain rfl := Option.some.inj hn
      rfl
    | text s => exact hasContent_of_readNumber? hn
    | none => exact nomatch hn
    | error e => exact nomatch hn

namespace Step

lemma hasContent_product {n : UInt64} {k : Option UInt64} {x : Float} : (product n k x).hasContent = true := by
  unfold product
  split
  · split <;> rfl
  · rfl

lemma hasContent_of_multiply (h : multiply t params v = .ok w) : w.hasContent = true := by
  unfold multiply at h
  dsimp only at h
  split at h
  · exact nomatch h
  split at h
  · exact nomatch h
  rename_i hn
  split at h
  · split at h
    · obtain rfl := Except.ok.inj h
      exact hasContent_product
    · simp at h
  · split at h
    · obtain rfl := Except.ok.inj h
      rfl
    · simp at h
  · split at h
    · obtain rfl := Except.ok.inj h
      exact Value.hasContent_of_toNumber hn
    · simp at h

lemma hasContent_of_trimWith {side : String} {cut : (Char → Bool) → List Char → List Char}
    (h : trimWith side cut params v = .ok w) : w.hasContent = true := by
  unfold trimWith at h
  split at h
  · exact nomatch h
  · obtain rfl := Except.ok.inj h
    rfl

lemma hasContent_of_map_text {ε : Type} {x : Except ε String} (h : x.map Value.text = .ok w) :
    w.hasContent = true := by
  obtain ⟨s, -, rfl⟩ := map_eq_ok_iff.1 h
  rfl

lemma hasContent_of_regsub (h : regsub params v = .ok w) : w.hasContent = true := by
  obtain ⟨s, -, rfl⟩ := map_eq_ok_iff.1 (mapError_eq_ok_iff.1 h)
  rfl

lemma hasContent_of_toDecimal {base : String} {read : List Char → Option UInt64}
    (h : toDecimal base read v = .ok w) : w.hasContent = true := by
  unfold toDecimal at h
  dsimp only at h
  split at h
  · exact nomatch h
  · split at h
    · obtain rfl := Except.ok.inj h
      rfl
    · simp at h

lemma hasContent_of_xpath (h : xpath params v = .ok w) : w.hasContent = true := by
  obtain ⟨s, -, h⟩ := bind_eq_ok_iff.1 h
  exact hasContent_of_map_text (mapError_eq_ok_iff.1 h)

lemma hasContent_of_jsonpath (h : jsonpath cache params v = .ok w) : w.hasContent = true := by
  obtain ⟨d, -, h⟩ := bind_eq_ok_iff.1 (mapError_eq_ok_iff.1 h)
  obtain ⟨s, -, h⟩ := bind_eq_ok_iff.1 h
  cases s with
  | none => exact nomatch h
  | some s =>
    obtain rfl := Except.ok.inj h
    rfl

lemma hasContent_of_prometheusPattern (h : prometheusPattern cache params v = .ok w) :
    w.hasContent = true := by
  obtain ⟨⟨pattern, request, output⟩, -, h⟩ := bind_eq_ok_iff.1 h
  cases cache with
  | some k =>
    obtain ⟨payload, -, h⟩ := bind_eq_ok_iff.1 h
    exact hasContent_of_map_text (mapError_eq_ok_iff.1 h)
  | none =>
    obtain ⟨s, -, h⟩ := bind_eq_ok_iff.1 h
    obtain ⟨payload, -, h⟩ := bind_eq_ok_iff.1 h
    exact hasContent_of_map_text (mapError_eq_ok_iff.1 h)

lemma hasContent_of_prometheusToJson (h : prometheusToJson params v = .ok w) : w.hasContent = true := by
  obtain ⟨s, -, h⟩ := bind_eq_ok_iff.1 h
  obtain ⟨p, -, h⟩ := bind_eq_ok_iff.1 h
  exact hasContent_of_map_text (mapError_eq_ok_iff.1 h)

lemma hasContent_of_csvToJson (h : csvToJson params v = .ok w) : w.hasContent = true := by
  obtain ⟨s, -, h⟩ := bind_eq_ok_iff.1 h
  exact hasContent_of_map_text (mapError_eq_ok_iff.1 h)

lemma hasContent_of_xmlToJson (h : xmlToJson v = .ok w) : w.hasContent = true := by
  obtain ⟨s, -, h⟩ := bind_eq_ok_iff.1 (mapError_eq_ok_iff.1 h)
  obtain ⟨d, -, h⟩ := bind_eq_ok_iff.1 h
  obtain rfl := Except.ok.inj h
  rfl

lemma hasContent_of_replace (h : replace params v = .ok w) : w.hasContent = true := by
  unfold replace at h
  dsimp only at h
  split at h
  · exact nomatch h
  · split at h
    · simp at h
    · obtain rfl := Except.ok.inj h
      rfl

lemma eq_of_validateRange (h : validateRange t params v = .ok w) : w = v := by
  obtain ⟨low, -, h⟩ := bind_eq_ok_iff.1 h
  obtain ⟨high, -, h⟩ := bind_eq_ok_iff.1 h
  obtain ⟨n, -, h⟩ := bind_eq_ok_iff.1 h
  dsimp only at h
  split at h
  · exact nomatch h
  · exact (Except.ok.inj h).symm

lemma eq_of_validateRegex {wanted : Bool} (h : validateRegex wanted params v = .ok w) : w = v := by
  obtain ⟨s, -, h⟩ := bind_eq_ok_iff.1 h
  obtain ⟨p, -, h⟩ := bind_eq_ok_iff.1 h
  split at h
  · exact (Except.ok.inj h).symm
  · exact nomatch h

lemma eq_or_found_of_errorFieldJson (h : errorFieldJson params v = .ok w) : w = v ∨ ∃ m, w = .error m := by
  unfold errorFieldJson at h
  split at h
  · exact .inl (Except.ok.inj h).symm
  split at h
  · exact .inl (Except.ok.inj h).symm
  split at h
  · exact nomatch h
  · exact .inl (Except.ok.inj h).symm
  · obtain rfl := Except.ok.inj h
    split
    · exact .inl rfl
    · exact .inr ⟨_, rfl⟩

lemma eq_or_found_of_errorFieldXml (h : errorFieldXml params v = .ok w) : w = v ∨ ∃ m, w = .error m := by
  unfold errorFieldXml at h
  split at h
  · exact .inl (Except.ok.inj h).symm
  split at h
  · exact .inl (Except.ok.inj h).symm
  · obtain rfl := Except.ok.inj h
    split
    · exact .inl rfl
    · exact .inr ⟨_, rfl⟩

lemma eq_or_found_of_errorFieldRegex (h : errorFieldRegex params v = .ok w) : w = v ∨ ∃ m, w = .error m := by
  obtain ⟨s, -, h⟩ := bind_eq_ok_iff.1 h
  obtain ⟨p, -, h⟩ := bind_eq_ok_iff.1 h
  split at h
  · exact .inr ⟨_, (Except.ok.inj h).symm⟩
  · exact .inl (Except.ok.inj h).symm

inductive Answers (s : Step) (v : Value) : Value → Prop
  | made {w : Value} (plain : s.kind ∉ StepKind.validations ++ StepKind.errorFields)
      (content : w.hasContent = true) : Answers s v w
  | left {w : Value} (omission : s.kind ∈ StepKind.omissions) (sound : w.isError = false) : Answers s v w
  | passed (sound : v.isError = false) : Answers s v v
  | found {m : String} (field : s.kind ∈ StepKind.errorFields) : Answers s v (.error m)

lemma stopsAt_eq_false_iff : s.stopsAt v = false ↔
    v.isNone = false ∧ (v.isError = false ∨ s.kind = .validateNotSupported) := by
  cases he : v.isError <;> simp [stopsAt, he]

lemma Answers.of_field (field : s.kind ∈ StepKind.errorFields) (sound : v.isError = false)
    (h : w = v ∨ ∃ m, w = .error m) : s.Answers v w := by
  obtain rfl | ⟨m, rfl⟩ := h
  · exact .passed sound
  · exact .found field

lemma answers_of_apply (go : s.stopsAt v = false) (forgetful : s.kind.hasHistory = false)
    (h : s.apply cache t v = .ok w) : s.Answers v w := by
  obtain ⟨-, sound⟩ := stopsAt_eq_false_iff.1 go
  have made (hs : w.hasContent = true) (plain : s.kind ∉ StepKind.validations ++ StepKind.errorFields) :
      s.Answers v w := .made plain hs
  cases hk : s.kind <;> simp only [apply, hk, reduceCtorEq, or_false] at h sound made
  case multiplier => exact made (hasContent_of_multiply h) (by decide)
  case rtrim => exact made (hasContent_of_trimWith h) (by decide)
  case ltrim => exact made (hasContent_of_trimWith h) (by decide)
  case trim => exact made (hasContent_of_trimWith h) (by decide)
  case regsub => exact made (hasContent_of_regsub h) (by decide)
  case bool2dec => exact made (hasContent_of_toDecimal h) (by decide)
  case oct2dec => exact made (hasContent_of_toDecimal h) (by decide)
  case hex2dec => exact made (hasContent_of_toDecimal h) (by decide)
  case xpath => exact made (hasContent_of_xpath h) (by decide)
  case jsonpath => exact made (hasContent_of_jsonpath h) (by decide)
  case prometheusPattern => exact made (hasContent_of_prometheusPattern h) (by decide)
  case prometheusToJson => exact made (hasContent_of_prometheusToJson h) (by decide)
  case csvToJson => exact made (hasContent_of_csvToJson h) (by decide)
  case xmlToJson => exact made (hasContent_of_xmlToJson h) (by decide)
  case strReplace => exact made (hasContent_of_replace h) (by decide)
  case validateRange =>
    obtain rfl := eq_of_validateRange h
    exact .passed sound
  case validateRegex =>
    obtain rfl := eq_of_validateRegex h
    exact .passed sound
  case validateNotRegex =>
    obtain rfl := eq_of_validateRegex h
    exact .passed sound
  case validateNotSupported =>
    split at h
    · simp at h
    · rename_i noError
      obtain rfl := Except.ok.inj h
      refine .passed ?_
      cases v with
      | error e => exact (noError e rfl).elim
      | _ => rfl
  case errorFieldJson => exact .of_field (by rw [hk]; decide) sound (eq_or_found_of_errorFieldJson h)
  case errorFieldXml => exact .of_field (by rw [hk]; decide) sound (eq_or_found_of_errorFieldXml h)
  case errorFieldRegex => exact .of_field (by rw [hk]; decide) sound (eq_or_found_of_errorFieldRegex h)
  all_goals exact absurd forgetful (by simp [hk, StepKind.hasHistory])

lemma sound_of_change {speed : Bool} {typeName kind : String}
    (h : change speed t now v typeName kind m = .ok w) : w.isError = false := by
  have difference_sound (a b : Value) : (difference a b).isError = false := by
    unfold difference
    split <;> rfl
  unfold change at h
  split at h
  · obtain rfl := Except.ok.inj h
    rfl
  dsimp only at h
  split at h
  · obtain rfl := Except.ok.inj h
    rfl
  split at h
  · obtain rfl := Except.ok.inj h
    exact difference_sound _ _
  split at h
  · obtain rfl := Except.ok.inj h
    rfl
  split at h
  · exact nomatch h
  · obtain rfl := Except.ok.inj h
    unfold perSecond
    dsimp only
    split <;> rfl

lemma sound_of_delta {speed : Bool} (h : (delta speed t now m v).1 = .ok w) : w.isError = false := by
  unfold delta at h
  dsimp only at h
  split at h
  · exact nomatch h
  · exact sound_of_change h

lemma sound_of_throttle (sound : v.isError = false) (h : (throttle now m v).1 = .ok w) :
    w.isError = false := by
  unfold throttle at h
  split at h <;> obtain rfl := Except.ok.inj h
  · rfl
  · exact sound

lemma sound_of_throttleTimed (sound : v.isError = false) (h : (throttleTimed now params m v).1 = .ok w) :
    w.isError = false := by
  unfold throttleTimed at h
  split at h
  · exact nomatch h
  split at h <;> obtain rfl := Except.ok.inj h
  · rfl
  · exact sound

lemma sound_of_remember (sound : v.isError = false) (h : (s.remember t now m v).1 = .ok w) :
    w.isError = false := by
  unfold remember at h
  split at h
  · exact sound_of_delta h
  · exact sound_of_throttle sound h
  · exact sound_of_throttleTimed sound h
  · exact sound_of_delta h

end Step

lemma Script.sound_of_toValue {d : Script.Datum} (h : Script.toValue d = .ok w) : w.isError = false := by
  unfold Script.toValue at h
  split at h
  case h_4 =>
    split at h
    · obtain rfl := Except.ok.inj h
      rfl
    · simp at h
  case h_3 =>
    obtain rfl := Except.ok.inj h
    split <;> rfl
  all_goals
    obtain rfl := Except.ok.inj h
    rfl

lemma Script.Engine.sound_of_run {e : Script.Engine} {i : Script.Input}
    (h : (e.run params v i).1 = .ok w) : w.isError = false := by
  rw [run_eq] at h
  obtain ⟨p, -, h⟩ := bind_eq_ok_iff.1 h
  unfold Script.Compiled.run at h
  split at h
  · exact Script.sound_of_toValue h
  · exact nomatch h

namespace Step

variable {c : Context}

lemma sound_of_runScript (h : (runScript c now params m v).value = .ok w) : w.isError = false := by
  unfold runScript at h
  split at h
  · rename_i hr
    obtain rfl := Except.ok.inj h
    exact Script.Engine.sound_of_run (congrArg Prod.fst hr)
  · exact nomatch h

lemma answers_of_run (go : s.stopsAt v = false) (h : (s.run c cache t now m v).value = .ok w) :
    s.Answers v w := by
  unfold run at h
  split at h
  · rename_i script
    exact .left (by simp [script, StepKind.omissions]) (sound_of_runScript h)
  split at h
  · rename_i bears
    have omission : s.kind ∈ StepKind.omissions := by
      cases hk : s.kind <;> simp_all [StepKind.hasHistory, StepKind.omissions]
    have sound := (stopsAt_eq_false_iff.1 go).2.resolve_right fun hk => by simp [hk, StepKind.hasHistory] at bears
    exact .left omission (sound_of_remember sound h)
  · rename_i forgets
    exact answers_of_apply go (Bool.eq_false_iff.2 forgets) h

lemma tells_fault (f : Fault) : s.Tells v (.error f) (s.resultOf (.error f)) := by
  unfold resultOf onFail
  cases handler : s.handler with
  | default => exact .failed handler
  | discardValue => exact .discarded handler
  | setValue => exact .replaced handler
  | setError => exact .reworded handler

lemma Answers.tells (go : s.stopsAt v = false) (h : s.Answers v w) : s.Tells v (.ok w) (s.resultOf (.ok w)) := by
  have hn := (stopsAt_eq_false_iff.1 go).1
  have sound_result (sound : w.isError = false) : s.resultOf (.ok w) = ⟨w, none, .default⟩ := by
    simp [resultOf, sound]
  cases h with
  | made plain content =>
    obtain ⟨full, sound⟩ : w.isNone = false ∧ w.isError = false := by simpa [Value.hasContent] using content
    rw [sound_result sound]
    exact .succeeded sound (fun empty => by simp [full] at empty) fun keeps => absurd keeps plain
  | left omission sound =>
    rw [sound_result sound]
    refine .succeeded sound (fun _ => omission) fun keeps => ?_
    cases hk : s.kind <;>
      simp [hk, StepKind.omissions, StepKind.validations, StepKind.errorFields] at omission keeps
  | passed sound =>
    rw [sound_result sound]
    exact .succeeded sound (fun empty => by simp [hn] at empty) fun _ => rfl
  | found field => exact .found field

lemma tells_run (go : s.stopsAt v = false) :
    s.Tells v (s.run c cache t now m v).value (s.resultOf (s.run c cache t now m v).value) := by
  cases h : (s.run c cache t now m v).value with
  | error f => exact tells_fault f
  | ok w => exact (answers_of_run go h).tells go

lemma Tells.default_of_error {o : Except Fault Value} {res : StepResult} (h : s.Tells v o res)
    (failed : res.value.isError = true) :
    res.action = .default ∨ res.action = .setError ∨ res.action = .forceError := by
  cases h with
  | succeeded sound => simp [sound] at failed
  | discarded => exact nomatch failed
  | replaced => exact nomatch failed
  | _ => simp

end Step

variable {i : Nat} {l : List Step} {c : Context} {h : History} {rs : List StepResult}

lemma account_runSteps (t : ValueType) (now : Timestamp) (i : Nat) (l : List Step) (c : Context)
    (cache : Option Cache) (h : History) (v : Value) :
    Account t now i l c cache h v (runSteps t now i l c cache h v).results := by
  induction l generalizing i c cache h v with
  | nil => exact .complete
  | cons s l ih =>
    cases go : s.stopsAt v with
    | true =>
      simp only [runSteps, go, if_true]
      refine .halted ?_
      simpa [Step.stopsAt] using go
    | false =>
      simp only [runSteps, go, Bool.false_eq_true, if_false]
      exact .told rfl (Step.tells_run go) (ih _ _ _ _ _)

lemma Account.forall_actions (ha : Account t now i l c cache h v rs) : ∀ res ∈ rs, res.value.isError = true →
    res.action = .default ∨ res.action = .setError ∨ res.action = .forceError := by
  induction ha with
  | complete => simp
  | halted _ => simp
  | told _ tells _ ih => exact List.forall_mem_cons.2 ⟨tells.default_of_error, ih⟩

lemma Account.outcome_eq {tr : Trace} (ha : Account t now i l c cache h v tr.results) {last : StepResult}
    (hl : last ∈ tr.results.getLast?) :
    tr.outcome v = if last.value.isError = true ∧ last.action = .default then
      .error (failureReport v.preview tr.results) else last.value := by
  have action := ha.forall_actions last (List.mem_of_getLast? hl)
  simp only [Trace.outcome, Option.mem_def.1 hl, Option.map_some, Option.getD_some]
  cases failed : last.value.isError with
  | false => simp
  | true => rcases action failed with action | action | action <;> simp [action]

/-- Every step that a run executes tells what became of its value, and the chain's own value is that of the
last step; only a failure that no handler made on purpose gives way to the report of the whole chain. -/
theorem RuleSet.results_account (r : RuleSet) (c : Context) (cache : Option Cache) (input : Value)
    (now : Timestamp) (h : History) :
    Account r.valueType now 0 r.steps c cache h (source cache input) (r.execute c cache input now h).1.results ∧
      ∀ last ∈ (r.execute c cache input now h).1.results.getLast?,
        (r.execute c cache input now h).1.value =
          if last.value.isError = true ∧ last.action = .default then
            .error (failureReport (source cache input).preview (r.execute c cache input now h).1.results)
          else last.value := by
  by_cases hr : r.steps = []
  · have none : r.execute c cache input now h = (⟨source cache input, []⟩, h, c) := by
      cases cache <;> simp [execute, hr, source]
    rw [none, hr]
    exact ⟨.complete, fun last hl => by simp at hl⟩
  · rw [r.execute_of_steps hr]
    have account := account_runSteps r.valueType now 0 r.steps c cache h (source cache input)
    refine ⟨account, fun last hl => ?_⟩
    exact account.outcome_eq hl

end ItemPipeline
