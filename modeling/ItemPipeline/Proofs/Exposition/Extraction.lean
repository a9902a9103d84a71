import ItemPipeline.Exposition.Query
import ItemPipeline.Proofs.Exposition.Selection
import ItemPipeline.Proofs.Members

/-!
What is extracted from a payload by a pattern: all that is made of it is made of the samples that the pattern
holds of, in the order of the payload.
-/

namespace ItemPipeline

namespace Exposition

structure IsRow (s : Sample) (row : Json.Members) : Prop where
  name : row.get? "name" = some (.str s.name)
  value : row.get? "value" = some (.str s.raw)
  line : row.get? "line" = some (.str s.line)
  unlabelled : s.labels = [] → row.get? "labels" = none
  labels : s.labels ≠ [] → ∃ ls : Json.Members, row.get? "labels" = some (.object ls) ∧
    ∀ k, ls.get? k = (s.labels.reverse.lookup k).map .str

variable {payload : Payload} {s : Sample} {l : List Sample} {text : String} {p : Pattern} {f : Fault}

lemma lookup_toList_map {key name : String} (o : Option String) (other : name ≠ key) :
    (o.toList.map fun t => (name, Json.str t)).reverse.lookup key = none := by
  cases o with
  | none => rfl
  | some t =>
    have : (key == name) = false := by simpa using Ne.symm other
    simp [List.lookup_cons, this]

lemma lookup_map_str (k : String) (ls : List (String × String)) :
    (ls.map fun (k, v) => (k, Json.str v)).lookup k = (ls.lookup k).map .str := by
  induction ls with
  | nil => rfl
  | cons e ls ih =>
    obtain ⟨n, v⟩ := e
    simp only [List.map_cons, List.lookup_cons, ih]
    cases k == n <;> rfl

lemma get?_row {base labels : List (String × Json)} {type help : Option String} {key : String}
    (other : "type" ≠ key) (other' : "help" ≠ key) :
    (Json.Members.ofList (base ++ labels ++ (type.toList.map fun t => ("type", Json.str t)) ++
      (help.toList.map fun t => ("help", Json.str t)))).get? key =
      (labels.reverse.lookup key).or (base.reverse.lookup key) := by
  simp only [Json.Members.get?_ofList, List.reverse_append, List.lookup_append, lookup_toList_map _ other,
    lookup_toList_map _ other', Option.none_or]

lemma isRow_sampleJson (payload : Payload) (s : Sample) :
    ∃ row : Json.Members, sampleJson payload s = .object row ∧ IsRow s row := by
  refine ⟨_, rfl, ?_⟩
  cases labelled : s.labels with
  | nil => exact ⟨get?_row (by decide) (by decide), get?_row (by decide) (by decide),
      get?_row (by decide) (by decide), fun _ => get?_row (by decide) (by decide), fun ne => absurd labelled ne⟩
  | cons e ls =>
    refine ⟨get?_row (by decide) (by decide), get?_row (by decide) (by decide), get?_row (by decide) (by decide),
      fun none => ?_, fun _ => ⟨_, get?_row (by decide) (by decide), fun k => ?_⟩⟩
    · simp [labelled] at none
    · rw [Json.Members.get?_ofList, ← List.map_reverse, lookup_map_str, labelled]

lemma forall₂_isRow (payload : Payload) (l : List Sample) :
    ∃ rows, List.Forall₂ IsRow l rows ∧ l.map (sampleJson payload) = rows.map .object := by
  induction l with
  | nil => exact ⟨[], .nil, rfl⟩
  | cons s l ih =>
    obtain ⟨row, object, isRow⟩ := isRow_sampleJson payload s
    obtain ⟨rows, areRows, objects⟩ := ih
    exact ⟨row :: rows, .cons isRow areRows, by rw [List.map_cons, object, objects, List.map_cons]⟩

lemma single_eq_ok_iff : single l = .ok s ↔ l = [s] := by
  unfold single
  split <;> simp_all

lemma map_single_eq_ok_iff {v : String} : (single l).map (·.raw) = .ok v ↔ ∃ s, l = [s] ∧ s.raw = v := by
  simp only [map_eq_ok_iff, single_eq_ok_iff]

lemma label_single_eq_ok_iff {output v : String} :
    (single l >>= fun s => match s.label? output with
      | some v => .ok v
      | none => .error (.noLabel output)) = Except.ok v ↔ ∃ s, l = [s] ∧ s.label? output = some v := by
  refine bind_eq_ok_iff.trans (exists_congr fun s => and_congr single_eq_ok_iff ?_)
  cases s.label? output <;> simp

lemma blank_of_trimBlanks {w : List Char} (h : Text.trimBlanks w = []) : Blank w := by
  simp only [Text.trimBlanks, Text.trim, Text.trimEnd, Text.trimStart, List.reverse_eq_nil_iff,
    List.dropWhile_eq_nil_iff, List.mem_reverse] at h
  intro c hc
  rw [← List.takeWhile_append_dropWhile (p := Text.isBlank) (l := w), List.mem_append] at hc
  exact hc.elim (List.all_eq_true.1 List.all_takeWhile c) (h c)

structure Extracts (payload : Payload) (text : String) (found : List Sample) : Prop where
  rows : ∃ rows, List.Forall₂ IsRow found rows ∧ payload.toJson text = .ok (Json.array (rows.map .object)).render
  count : payload.query text "function" "count" = .ok (toString found.length)
  value : ∀ output v, payload.query text "value" output = .ok v ↔ ∃ s, found = [s] ∧ s.raw = v
  label : ∀ output v, payload.query text "label" output = .ok v ↔ ∃ s, found = [s] ∧ s.label? output = some v

theorem extracts (hp : Pattern.parse text = .ok p) (given : ¬Blank text.toList) :
    Extracts payload text (payload.samples.filter p.holds) := by
  have shown : Text.trimBlanks text.toList ≠ [] := fun none => given (blank_of_trimBlanks none)
  obtain ⟨rows, areRows, objects⟩ := forall₂_isRow payload (payload.samples.filter p.holds)
  refine ⟨⟨rows, areRows, ?_⟩, ?_, fun output v => ?_, fun output v => ?_⟩
  · rw [Payload.toJson, if_neg shown, hp, ← objects]
    rfl
  · rw [Payload.query, hp]
    rfl
  · rw [Payload.query, hp]
    exact map_single_eq_ok_iff
  · rw [Payload.query, hp]
    exact label_single_eq_ok_iff

lemma fails (hp : Pattern.parse text = .error f) (given : ¬Blank text.toList) :
    payload.toJson text = .error (.pattern f) ∧
      ∀ request output, payload.query text request output = .error (.pattern f) := by
  have shown : Text.trimBlanks text.toList ≠ [] := fun none => given (blank_of_trimBlanks none)
  refine ⟨?_, fun request output => ?_⟩
  · rw [Payload.toJson, if_neg shown, hp]
    rfl
  · rw [Payload.query, hp]
    rfl

/-- A written pattern is read if its expressions compile between anchors, and what is extracted by it is made of
the samples that its tokens stand for. An expression is matched against the whole text if it is one on its own;
else the group around it may be closed by the expression itself. -/
theorem patterns_select (payload : Payload) (text : String) :
    (∀ q : Selector, q.Proper → q.Written text.toList →
      ((∃ p, Pattern.parse text = .ok p) ↔ q.Compiles) ∧
        ∀ p, Pattern.parse text = .ok p → ∀ s,
          (p.holds s = true ↔ q.Selects (fun e v => Regex.MatchesPart s!"^(?:{e})$" v.toList) s) ∧
            (q.Balanced → (p.holds s = true ↔ q.Selects (fun e v => Regex.MatchesWhole e v.toList) s))) ∧
      (¬Blank text.toList →
        (∀ f, Pattern.parse text = .error f → payload.toJson text = .error (.pattern f) ∧
          ∀ request output, payload.query text request output = .error (.pattern f)) ∧
        ∀ p, Pattern.parse text = .ok p → Extracts payload text (payload.samples.filter p.holds)) :=
  ⟨fun _ proper written => ⟨Selector.parse_iff proper written, fun _ parsed _ =>
      ⟨Selector.holds_part proper written parsed, Selector.holds_whole proper written parsed⟩⟩,
    fun given => ⟨fun _ failed => fails failed given, fun _ parsed => extracts parsed given⟩⟩

theorem patterns_select_of_alternatives :
    ∃ (q : Selector) (text : String) (payload : Payload) (p : Pattern),
      q = ⟨some "m", [⟨"l", .like, "a|b"⟩, ⟨"k", .notEqual, "x"⟩], some "NaN"⟩ ∧
      text = " m \x7b l =~ \"a|b\",k!=\"x\" \x7d == NaN" ∧
      payload.samples = [⟨"m", [("l", "ab")], 0.0 / 0.0, "NaN", ""⟩, ⟨"m", [("l", "b")], 0.0 / 0.0, "nan", ""⟩] ∧
      q.Proper ∧ q.Written text.toList ∧ q.Compiles ∧ q.Balanced ∧ Pattern.parse text = .ok p ∧
      (∀ s, p.holds s = true ↔ q.Selects (fun e v => Regex.MatchesWhole e v.toList) s) ∧
      Extracts payload text (payload.samples.filter p.holds) ∧ payload.query text "value" "" = .ok "nan" := by
  let tests : List LabelTest := [⟨"l", .like, "a|b"⟩, ⟨"k", .notEqual, "x"⟩]
  let q : Selector := ⟨some "m", tests, some "NaN"⟩
  let text := " m \x7b l =~ \"a|b\",k!=\"x\" \x7d == NaN"
  let payload : Payload :=
    ⟨[⟨"m", [("l", "ab")], 0.0 / 0.0, "NaN", ""⟩, ⟨"m", [("l", "b")], 0.0 / 0.0, "nan", ""⟩], [], []⟩
  have proper : q.Proper :=
    ⟨.inl rfl, by rintro _ ⟨⟩; decide, by decide, by rintro _ ⟨⟩; exact ⟨0.0 / 0.0, rfl⟩⟩
  have spaced : Spaced (Selector.nameTokens (some "m") ++
      ((['\x7b'] :: blockTokens [⟨"l", .like, "a|b"⟩, ⟨"k", .notEqual, "x"⟩]) ++ Selector.valueTokens (some "NaN")))
      " m \x7b l =~ \"a|b\",k!=\"x\" \x7d == NaN".toList :=
    @Spaced.cons [' '] _ _ _ (by decide) (@Spaced.cons [' '] _ _ _ (by decide)
      (@Spaced.cons [' '] _ _ _ (by decide) (@Spaced.cons [' '] _ _ _ (by decide)
      (@Spaced.cons [' '] _ _ _ (by decide) (.cons blank_nil (.cons blank_nil (.cons blank_nil (.cons blank_nil
      (@Spaced.cons [' '] _ _ _ (by decide) (@Spaced.cons [' '] _ _ _ (by decide)
      (@Spaced.cons [' '] _ _ _ (by decide) .nil)))))))))))
  have written : q.Written text.toList := by
    have whole := Selector.Written.text (q := q) (.braces tests) spaced blank_nil
    rwa [List.append_nil] at whole
  have compiled : (anchored "a|b").toOption.any (fun _ => true) = true := by decide +kernel
  obtain ⟨program, compiled, -⟩ := any_toOption_iff.1 compiled
  have compiles : q.Compiles :=
    List.forall_mem_cons.2 ⟨fun _ => ⟨program, compiled⟩, List.forall_mem_singleton.2 (by rintro (⟨⟨⟩⟩ | ⟨⟨⟩⟩))⟩
  have balanced : q.Balanced :=
    List.forall_mem_cons.2 ⟨fun _ => ⟨_, _, rfl⟩, List.forall_mem_singleton.2 (by rintro (⟨⟨⟩⟩ | ⟨⟨⟩⟩))⟩
  obtain ⟨selects, extracted⟩ := patterns_select payload text
  obtain ⟨p, parsed⟩ := (selects q proper written).1.2 compiles
  refine ⟨q, text, payload, p, rfl, rfl, rfl, proper, written, compiles, balanced, parsed, fun s =>
    ((selects q proper written).2 p parsed s).2 balanced, (extracted (by decide)).2 p parsed, ?_⟩
  decide +kernel

/-- The parenthesis of an expression that is none on its own closes the group, and what was to hold of the whole
text is then asked of its beginning alone. -/
theorem patterns_select_parts :
    ∃ (q : Selector) (text : String) (p : Pattern) (s : Sample),
      q = ⟨some "m", [⟨"l", .like, "a)|(?:b"⟩], none⟩ ∧ text = "m\x7bl=~\"a)|(?:b\"\x7d" ∧
      s = ⟨"m", [("l", "ax")], 1, "1", "m\x7bl=\"ax\"\x7d 1"⟩ ∧ q.Proper ∧ q.Written text.toList ∧
      Pattern.parse text = .ok p ∧ p.holds s = true ∧
      ¬q.Selects (fun e v => Regex.MatchesWhole e v.toList) s ∧
      ¬q.Selects (fun e v => Regex.MatchesWhole s!"^(?:{e})$" v.toList) s := by
  let q : Selector := ⟨some "m", [⟨"l", .like, "a)|(?:b"⟩], none⟩
  let s : Sample := ⟨"m", [("l", "ax")], 1, "1", "m\x7bl=\"ax\"\x7d 1"⟩
  have proper : q.Proper := ⟨.inl rfl, by rintro _ ⟨⟩; decide, by decide, by simp [q]⟩
  have spaced : Spaced (Selector.nameTokens (some "m") ++ ((['\x7b'] :: blockTokens [⟨"l", .like, "a)|(?:b"⟩]) ++
      Selector.valueTokens none)) "m\x7bl=~\"a)|(?:b\"\x7d".toList := spaced_flatten _
  have written : q.Written "m\x7bl=~\"a)|(?:b\"\x7d".toList := by
    have whole := Selector.Written.text (q := q) (.braces _) spaced blank_nil
    rwa [List.append_nil] at whole
  have held : (Pattern.parse "m\x7bl=~\"a)|(?:b\"\x7d").toOption.any (·.holds s) = true := by decide +kernel
  obtain ⟨p, parsed, held⟩ := any_toOption_iff.1 held
  have fault : (Regex.parsePattern "a)|(?:b").toOption.isSome = false := by decide +kernel
  have regex : (Regex.parsePattern "^(?:a)|(?:b)$").toOption.any (fun _ => true) = true := by decide +kernel
  obtain ⟨⟨pattern, groups⟩, regex, -⟩ := any_toOption_iff.1 regex
  have misses : (anchored "^(?:a)|(?:b)$").toOption.any (fun x => !x.isMatch "ax".toList) = true := by decide +kernel
  obtain ⟨program, twice, misses⟩ := any_toOption_iff.1 misses
  refine ⟨q, _, p, s, rfl, rfl, rfl, proper, written, parsed, held, fun selects => ?_, fun selects => ?_⟩
  · have whole : Regex.MatchesWhole "a)|(?:b" "ax".toList := selects.tests _ List.mem_cons_self
    obtain ⟨r, ⟨x, groups, f, alone, -⟩, -⟩ := whole
    simp [alone, Except.toOption] at fault
  · have whole : Regex.MatchesWhole "^(?:a)|(?:b)$" "ax".toList := selects.tests _ List.mem_cons_self
    have found := (Regex.isMatch_anchored ⟨pattern, groups, regex⟩ twice).2 whole
    simp only [found, Bool.not_true, Bool.false_eq_true] at misses

end Exposition

end ItemPipeline
