import ItemPipeline.Proofs.Exposition.Lines

/-!
Payloads as a whole. Samples that are printed one to a line are read back as they were, and blanks between
the tokens of a line change nothing but the text kept of it, at all places but two: the reader looks for the
labels right after the metric's name, and for the metric of a comment one blank after its keyword.
-/

namespace ItemPipeline

namespace Exposition

def printLabel (l : String × String) : List Char :=
  l.1.toList ++ '=' :: quoted l.2

def printLabels : List (String × String) → List Char
  | [] => []
  | l :: ls => '{' :: ([','].intercalate ((l :: ls).map printLabel) ++ ['}'])

namespace Sample

def print (s : Sample) : List Char :=
  s.name.toList ++ (printLabels s.labels ++ ' ' :: s.raw.toList)

structure Printable (s : Sample) : Prop where
  name : IsName s.name.toList
  labels : ∀ l ∈ s.labels, IsName l.1.toList
  raw : IsToken s.raw.toList
  value : readValue s.raw.toList = .ok s.value
  line : s.line = String.ofList s.print

def tokens (s : Sample) : SampleLine :=
  ⟨s.name, if s.labels = [] then none else some s.labels, s.raw, none⟩

variable {s : Sample} {l : List Sample}

lemma flatten_blockTokens (l : String × String) (ls : List (String × String)) :
    (blockTokens ((l :: ls).map SampleLine.labelTest)).flatten =
      [','].intercalate ((l :: ls).map printLabel) ++ ['}'] := by
  induction ls generalizing l with
  | nil => simp [blockTokens, LabelTest.tokens, SampleLine.labelTest, LabelOp.sign, printLabel,
      List.intercalate_singleton]
  | cons m ls ih =>
    have := ih m
    simp only [List.map_cons, blockTokens, List.flatten_append, List.flatten_cons, List.intercalate_cons_cons] at this ⊢
    rw [this]
    simp [LabelTest.tokens, SampleLine.labelTest, LabelOp.sign, printLabel]

lemma Printable.proper (h : s.Printable) : s.tokens.Proper where
  name := h.name
  labels ls hls := by
    obtain ⟨-, rfl⟩ : s.labels ≠ [] ∧ s.labels = ls := by simpa [tokens] using hls
    exact h.labels
  raw := h.raw
  time x hx := nomatch hx

lemma tokens_labels (s : Sample) : s.tokens.labels.getD [] = s.labels := by
  by_cases none : s.labels = []
  · simp [tokens, none]
  · simp [tokens, none]

lemma block_printLabels (s : Sample) : SampleLine.Block s.tokens.labels (printLabels s.labels) := by
  obtain ⟨name, labels, value, raw, line⟩ := s
  cases labels with
  | nil => rfl
  | cons l ls =>
    refine ⟨_, rfl, ?_⟩
    rw [← flatten_blockTokens]
    exact spaced_flatten _

lemma not_mem_escapeChar (c : Char) : '\n' ∉ escapeChar c := by
  unfold escapeChar
  split
  · decide
  · decide
  · decide
  · rename_i newline
    simpa using fun h => newline h.symm

lemma not_mem_quoted (v : String) : '\n' ∉ quoted v := by
  have : '\n' ∉ v.toList.flatMap escapeChar := by
    simpa only [List.mem_flatMap, not_exists, not_and] using fun c _ => not_mem_escapeChar c
  simp [quoted, this]

lemma not_mem_printLabel {l : String × String} (h : IsName l.1.toList) : '\n' ∉ printLabel l := by
  have name : '\n' ∉ l.1.toList := fun hm => absurd (solid_of_isName h _ hm) (by decide)
  simp [printLabel, name, not_mem_quoted]

lemma not_mem_printLabels {ls : List (String × String)} (h : ∀ l ∈ ls, IsName l.1.toList) :
    '\n' ∉ printLabels ls := by
  have inner : '\n' ∉ [','].intercalate (ls.map printLabel) := by
    induction ls with
    | nil => simp
    | cons l ls ih =>
      obtain ⟨hl, hls⟩ := List.forall_mem_cons.1 h
      cases ls with
      | nil => simpa [List.intercalate_singleton] using not_mem_printLabel hl
      | cons m ls =>
        have := ih hls
        simp only [List.map_cons, List.intercalate_cons_cons] at this ⊢
        simp [not_mem_printLabel hl, this]
  cases ls with
  | nil => simp [printLabels]
  | cons l ls => simpa [printLabels] using inner

lemma Printable.isLine (h : s.Printable) : Text.IsLine s.print := by
  have blank : ∀ c : Char, Text.isBlank c = true → c ∉ s.raw.toList := by
    intro c hc hm
    simp [h.raw.2 c hm] at hc
  constructor
  · have name : '\n' ∉ s.name.toList := fun hm => absurd (solid_of_isName h.name _ hm) (by decide)
    simp [print, name, not_mem_printLabels h.labels, blank '\n' (by decide)]
  · intro last
    have := last_token h.raw (s.name.toList ++ (printLabels s.labels ++ [' '])) '\r'
    simp only [List.append_assoc, List.singleton_append] at this
    exact absurd (this last) (by decide)

lemma print_eq (s : Sample) : s.print =
    [] ++ ((s.tokens.name.toList ++ (printLabels s.labels ++ ([' '] ++ (s.tokens.raw.toList ++ [])))) ++ []) := by
  simp [print, tokens]

lemma written_print (s : Sample) : s.tokens.Written s.print := by
  have gap : Blank [' '] := by simp [Blank, Text.isBlank]
  rw [print_eq]
  exact .line blank_nil (block_printLabels s) gap (fun _ => List.cons_ne_nil _ _) rfl blank_nil

lemma Printable.trim_print (h : s.Printable) : Text.trimBlanks s.print = s.print := by
  conv_lhs => rw [print_eq, SampleLine.trim_written h.proper blank_nil rfl blank_nil]
  simp [print, tokens]

lemma Printable.parseLine_print (h : s.Printable) : parseLine s.print = .ok { samples := [s] } := by
  rw [SampleLine.parseLine_written h.proper s.written_print, h.trim_print, tokens_labels, ← h.line]
  simp only [tokens, h.value]
  rfl

lemma parseLines_print (h : ∀ s ∈ l, s.Printable) (n : Nat) :
    parseLines n (l.map print) = .ok { samples := l } := by
  induction l generalizing n with
  | nil => rfl
  | cons s l ih =>
    obtain ⟨hs, hl⟩ := List.forall_mem_cons.1 h
    rw [List.map_cons, parseLines, hs.parseLine_print]
    simp only [ih hl, Except.map, Payload.append, List.singleton_append, List.append_nil]

/-- Samples that are printed one to a line, whether a newline ends the last line or not, are read back in order
with their names, labels, values, and the values and lines as they were written. -/
theorem parse_print (h : ∀ s ∈ l, s.Printable) :
    parse (String.ofList (l.flatMap fun s => s.print ++ ['\n'])) = .ok { samples := l } ∧
      parse (String.ofList (['\n'].intercalate (l.map print))) = .ok { samples := l } := by
  have lines : ∀ p ∈ l.map print, Text.IsLine p := List.forall_mem_map.2 fun s hs => (h s hs).isLine
  have ne : ∀ p ∈ l.map print, p ≠ [] := List.forall_mem_map.2 fun s hs => by
    simp [print]
  constructor
  · have terminated := Text.lines_terminated lines
    rw [List.flatMap_map] at terminated
    rw [parse, String.toList_ofList, terminated, parseLines_print h]
  · rw [parse, String.toList_ofList, Text.lines_separated lines ne, parseLines_print h]

theorem parse_print_of_escapes :
    ∃ l : List Sample, (∀ s ∈ l, s.Printable) ∧
      l.map (·.labels) = [[("a", "x\n\"\\n\x7d #"), ("a", "\r,=")], []] ∧
      parse (String.ofList (l.flatMap fun s => s.print ++ ['\n'])) = .ok { samples := l } ∧
      parse (String.ofList (['\n'].intercalate (l.map print))) = .ok { samples := l } := by
  let printed (s : Sample) : Sample := { s with line := String.ofList s.print }
  let first := printed ⟨"m", [("a", "x\n\"\\n\x7d #"), ("a", "\r,=")], 1.0 / 0.0, "+Inf", ""⟩
  let second := printed ⟨"_:n9", [], -(0.0 / 0.0), "-NaN", ""⟩
  have infinite : readValue "+Inf".toList = .ok (1.0 / 0.0) := rfl
  have undefined : readValue "-NaN".toList = .ok (-(0.0 / 0.0)) := rfl
  have hf : first.Printable := ⟨by decide, by decide, by decide, infinite, rfl⟩
  have hs : second.Printable := ⟨by decide, by decide, by decide, undefined, rfl⟩
  have printable : ∀ s ∈ [first, second], s.Printable :=
    List.forall_mem_cons.2 ⟨hf, List.forall_mem_cons.2 ⟨hs, by simp⟩⟩
  exact ⟨[first, second], printable, rfl, parse_print printable⟩

end Sample

inductive Alike : List Char → List Char → Prop
  | same (l : List Char) : Alike l l
  | sample {t : SampleLine} {l l' : List Char} (proper : t.Proper) (left : t.Written l) (right : t.Written l') :
      Alike l l'
  | comment {t : CommentLine} {l l' : List Char} (proper : t.Proper) (left : t.Written l)
      (right : t.Written l') : Alike l l'

def Payload.unlined (p : Payload) : Payload :=
  { p with samples := p.samples.map fun s => { s with line := "" } }

lemma Payload.unlined_append (p q : Payload) : (p.append q).unlined = p.unlined.append q.unlined := by
  simp [unlined, append]

lemma parseLine_alike {l l' : List Char} (h : Alike l l') :
    (parseLine l).map Payload.unlined = (parseLine l').map Payload.unlined := by
  cases h with
  | same => rfl
  | @sample t l l' proper left right =>
    rw [SampleLine.parseLine_written proper left, SampleLine.parseLine_written proper right]
    cases readValue t.raw.toList <;> rfl
  | comment proper left right =>
    rw [CommentLine.parseLine_written proper left, CommentLine.parseLine_written proper right]

lemma parseLines_cons_unlined (l : List Char) (ls : List (List Char)) (n : Nat) :
    (parseLines n (l :: ls)).map Payload.unlined = match (parseLine l).map Payload.unlined with
      | .error f => .error ⟨n, f⟩
      | .ok p => ((parseLines (n + 1) ls).map Payload.unlined).map p.append := by
  rw [parseLines]
  cases parseLine l with
  | error f => rfl
  | ok p =>
    cases parseLines (n + 1) ls with
    | error f => rfl
    | ok q => exact congrArg Except.ok (p.unlined_append q)

lemma parseLines_alike {ls ls' : List (List Char)} (h : List.Forall₂ Alike ls ls') (n : Nat) :
    (parseLines n ls).map Payload.unlined = (parseLines n ls').map Payload.unlined := by
  induction h generalizing n with
  | nil => rfl
  | cons line _ ih => rw [parseLines_cons_unlined, parseLines_cons_unlined, parseLine_alike line, ih]

/-- Lines with the same tokens make the same of a payload, faults and their places included: a sample line is
read as its tokens say, with the value that the reader makes of its word or the fault of that word, and a
comment line as the help or type text of its metric, wherever blanks stand in them. -/
theorem blanks_do_not_matter {text text' : String}
    (alike : List.Forall₂ Alike (Text.lines text.toList) (Text.lines text'.toList)) :
    (parse text).map Payload.unlined = (parse text').map Payload.unlined ∧
      (∀ (t : SampleLine) (l : List Char), t.Proper → t.Written l → l ∈ Text.lines text'.toList →
        parseLine l = (readValue t.raw.toList).map fun x =>
          { samples := [⟨t.name, t.labels.getD [], x, t.raw, String.ofList (Text.trimBlanks l)⟩] }) ∧
      ∀ (t : CommentLine) (l : List Char), t.Proper → t.Written l → l ∈ Text.lines text'.toList →
        parseLine l = .ok t.entry :=
  ⟨parseLines_alike alike 1, fun _ _ proper written _ => SampleLine.parseLine_written proper written,
    fun _ _ proper written _ => CommentLine.parseLine_written proper written⟩

theorem blanks_do_not_matter_of_tabs :
    ∃ (t : SampleLine) (c : CommentLine) (l l' d d' : String),
      t = ⟨"m", some [("a", "\x7d \t")], "Inf", some "7"⟩ ∧ c = ⟨.help, "m", "some text"⟩ ∧
      l = "m\x7ba=\"\x7d \t\"\x7d Inf 7" ∧ l' = "\tm\x7b a\t= \"\x7d \t\" \x7dInf \t7 " ∧ d = "# HELP m some text" ∧
      d' = "#HELP\tm \tsome text " ∧ t.Proper ∧ c.Proper ∧ t.Written l.toList ∧ t.Written l'.toList ∧
      c.Written d.toList ∧ c.Written d'.toList ∧ parseLine d'.toList = .ok c.entry ∧
      (parseLine l'.toList).map (·.samples.map (·.labels)) = .ok [[("a", "\x7d \t")]] ∧
      (parse (d ++ "\n" ++ l)).map Payload.unlined = (parse (d' ++ "\n" ++ l')).map Payload.unlined := by
  let t : SampleLine := ⟨"m", some [("a", "\x7d \t")], "Inf", some "7"⟩
  let c : CommentLine := ⟨.help, "m", "some text"⟩
  have proper : t.Proper := ⟨by decide, by decide, by decide, by decide⟩
  have proper' : c.Proper := ⟨by decide, by simp [c, Text.isBlank], by simp [c, Text.isBlank]⟩
  have tight : Spaced (blockTokens [⟨"a", .equal, "\x7d \t"⟩]) "a=\"\x7d \t\"\x7d".toList :=
    spaced_flatten _
  have loose : Spaced (blockTokens [⟨"a", .equal, "\x7d \t"⟩]) " a\t= \"\x7d \t\" \x7d".toList :=
    @Spaced.cons [' '] _ _ _ (by decide) (@Spaced.cons ['\t'] _ _ _ (by decide)
      (@Spaced.cons [' '] _ _ _ (by decide) (@Spaced.cons [' '] _ _ _ (by decide) .nil)))
  have hl : t.Written "m\x7ba=\"\x7d \t\"\x7d Inf 7".toList := by
    convert @SampleLine.Written.line t [] _ [' '] [' ', '7'] [] (by decide) ⟨_, rfl, tight⟩ (by decide) (by decide)
      ⟨[' '], by decide, by decide, rfl⟩ (by decide) using 1
    decide
  have hl' : t.Written "\tm\x7b a\t= \"\x7d \t\" \x7dInf \t7 ".toList := by
    convert @SampleLine.Written.line t ['\t'] _ [] [' ', '\t', '7'] [' '] (by decide) ⟨_, rfl, loose⟩ (by decide)
      (by decide) ⟨[' ', '\t'], by decide, by decide, rfl⟩ (by decide) using 1
    decide
  have hd : c.Written "# HELP m some text".toList := by
    convert @CommentLine.Written.line c [] [' '] [' '] [] ' ' (by decide) (by decide) rfl (by decide) (by decide)
      (by decide) using 1
    decide
  have hd' : c.Written "#HELP\tm \tsome text ".toList := by
    convert @CommentLine.Written.line c [] [] [' ', '\t'] [' '] '\t' (by decide) (by decide) rfl (by decide)
      (by decide) (by decide) using 1
    decide
  have alike : List.Forall₂ Alike
      (Text.lines ("# HELP m some text" ++ "\n" ++ "m\x7ba=\"\x7d \t\"\x7d Inf 7").toList)
      (Text.lines ("#HELP\tm \tsome text " ++ "\n" ++ "\tm\x7b a\t= \"\x7d \t\" \x7dInf \t7 ").toList) :=
    .cons (.comment proper' hd hd') (.cons (.sample proper hl hl') .nil)
  obtain ⟨payload, sample, comment⟩ := blanks_do_not_matter alike
  have value : readValue "Inf".toList = .ok (1.0 / 0.0) := rfl
  refine ⟨t, c, _, _, _, _, rfl, rfl, rfl, rfl, rfl, rfl, proper, proper', hl, hl', hd, hd',
    comment c _ proper' hd' List.mem_cons_self, ?_, payload⟩
  rw [sample t _ proper hl' (List.mem_cons_of_mem _ List.mem_cons_self), value]
  rfl

/-- A blank before the opening brace, or a second one after the keyword of a comment, makes another line. -/
theorem blanks_that_matter :
    ((parse "m\x7ba=\"b\"\x7d 1").map fun p => p.samples.map fun s => (s.name, s.labels, s.raw)) =
        .ok [("m", [("a", "b")], "1")] ∧
      ((parse "m \x7ba=\"b\"\x7d 1").map fun p => p.samples.map fun s => (s.name, s.labels, s.raw)) =
        .error ⟨1, .badValue "\x7ba=\"b\"\x7d"⟩ ∧
      (parse "# HELP m some text").map (·.help) = .ok [("m", "some text")] ∧
      (parse "# HELP  m some text").map (·.help) = .ok [("", "m some text")] := by
  refine ⟨rfl, rfl, rfl, rfl⟩

end Exposition

end ItemPipeline
