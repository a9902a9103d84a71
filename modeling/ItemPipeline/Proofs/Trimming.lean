import ItemPipeline.Proofs.Composition
import ItemPipeline.Proofs.Execution
import ItemPipeline.Proofs.Text

/-!
Trimming of texts at one end and at both. What is left when both ends are trimmed is the one part of the text that has
nothing to trim any more, with only such characters around it, so it does not matter which end comes first.
-/

namespace ItemPipeline

namespace Text

/-- The part of a text that stands between characters of the set, and that neither begins nor ends with one. -/
def Trimmed (set s r : List Char) : Prop :=
  ∃ u v, s = u ++ (r ++ v) ∧ (∀ c ∈ u, c ∈ set) ∧ (∀ c ∈ v, c ∈ set) ∧ (∀ c ∈ r.head?, c ∉ set) ∧
    ∀ c ∈ r.getLast?, c ∉ set

lemma trimmed_iff {set s r : List Char} : Trimmed set s r ↔ r = trim (fun c => set.contains c) s := by
  constructor
  · rintro ⟨u, v, rfl, hu, hv, first, last⟩
    exact (trim_around (by simpa using hu) (by simpa using hv) (by simpa using first) (by simpa using last)).symm
  · rintro rfl
    obtain ⟨u, v, split, hu, hv, first, last⟩ := exists_trim (fun c => set.contains c) s
    exact ⟨u, v, split, by simpa using hu, by simpa using hv, by simpa using first, by simpa using last⟩

end Text

def Step.Edits (s : Step) (f : List Char → List Char) : Prop :=
  ∀ (c : Context) (cache : Option Cache) (t : ValueType) (now : Timestamp) (m : Option Memory) (v : Value)
    (text : String), v.toText = .ok text →
      s.run c cache t now m v = ⟨.ok (.text (String.ofList (f text.toList))), m, c⟩

section Chain

variable {s : Step} {l : List Step} {f : List Char → List Char} {fs : List (List Char → List Char)} {v : Value}
  {text : String} {i : ℕ}

lemma lastValue_edit (first : s.Edits f) (isText : v.toText = .ok text) (t : ValueType) (now : Timestamp) (c : Context)
    (cache : Option Cache) (h : History) : lastValue (runSteps t now i (s :: l) c cache h v).results v =
      lastValue (runSteps t now (i + 1) l c none (h.pop i).2 (.text (String.ofList (f text.toList)))).results
        (.text (String.ofList (f text.toList))) := by
  have go : s.stopsAt v = false := by
    cases v with
    | none => simp [Value.toText] at isText
    | error e => simp [Value.toText] at isText
    | _ => simp [Step.stopsAt, Value.isNone, Value.isError]
  exact lastValue_runSteps_cons go (first c cache t now _ v text isText)

lemma lastValue_edits (edits : List.Forall₂ Step.Edits l fs) (t : ValueType) (now : Timestamp) (c : Context)
    (cache : Option Cache) (h : History) (u : List Char) :
    lastValue (runSteps t now i l c cache h (.text (String.ofList u))).results (.text (String.ofList u)) =
      .text (String.ofList (fs.foldl (fun u f => f u) u)) := by
  induction edits generalizing i cache h u with
  | nil => rfl
  | cons first _ ih =>
    rw [lastValue_edit first rfl, String.toList_ofList]
    exact ih none _ _

lemma RuleSet.execute_edits {r : RuleSet} (steps : r.steps = s :: l) (first : s.Edits f)
    (rest : List.Forall₂ Step.Edits l fs) (isText : v.toText = .ok text) (c : Context) (now : Timestamp) (h : History) :
    (r.execute c none v now h).1.value = .text (String.ofList (fs.foldl (fun u f => f u) (f text.toList))) := by
  have last : lastValue (runSteps r.valueType now 0 r.steps c none h v).results v =
      .text (String.ofList (fs.foldl (fun u f => f u) (f text.toList))) := by
    rw [steps, lastValue_edit first isText, lastValue_edits rest]
  rw [r.execute_of_steps (by simp [steps])]
  exact (Trace.outcome_of_sound _ (by rw [source, last]; rfl)).trans last

end Chain

namespace Step

variable {s : Step} {cut : (Char → Bool) → List Char → List Char}

def inTrimSet (params : String) (c : Char) : Bool :=
  (trimSet params).contains c

lemma edits_trimWith (side : String) (forgetful : s.kind.hasHistory = false)
    (cuts : ∀ cache t v, s.apply cache t v = trimWith side cut s.params v) : s.Edits (cut (inTrimSet s.params)) := by
  intro c cache t now m v text isText
  rw [run_of_forgetful forgetful, cuts, trimWith, isText]
  rfl

lemma edits_trim (kind : s.kind = .trim) : s.Edits (Text.trim (inTrimSet s.params)) :=
  edits_trimWith "" (by rw [kind]; rfl) fun _ _ _ => by simp only [apply, kind]

lemma edits_ltrim (kind : s.kind = .ltrim) : s.Edits (Text.trimStart (inTrimSet s.params)) :=
  edits_trimWith "left " (by rw [kind]; rfl) fun _ _ _ => by simp only [apply, kind]

lemma edits_rtrim (kind : s.kind = .rtrim) : s.Edits (Text.trimEnd (inTrimSet s.params)) :=
  edits_trimWith "right " (by rw [kind]; rfl) fun _ _ _ => by simp only [apply, kind]

end Step

end ItemPipeline
