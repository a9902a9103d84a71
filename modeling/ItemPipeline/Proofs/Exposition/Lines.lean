import ItemPipeline.Exposition.Parser
import ItemPipeline.Proofs.Exposition.Tokens
import ItemPipeline.Proofs.Text

/-!
Lines of a payload as they are written: a sample, or a comment with a metric's help or type, and the entry
that a reader makes of it. Of the blanks around and between the tokens nothing is left but in the text that is
kept of a sample's line.
-/

namespace ItemPipeline

namespace Exposition

def IsToken (t : List Char) : Prop :=
  t ≠ [] ∧ ∀ c ∈ t, Text.isBlank c = false

instance : DecidablePred IsToken :=
  fun t => @instDecidableAnd _ _ inferInstance (List.decidableBAll _ t)

lemma skipBlanks_isToken {t : List Char} (h : IsToken t) (s : List Char) : skipBlanks (t ++ s) = t ++ s := by
  obtain ⟨c, r, rfl⟩ := List.exists_cons_of_ne_nil h.1
  exact skipBlanks_cons (h.2 c List.mem_cons_self) _

lemma last_token {x : List Char} (h : IsToken x) (r : List Char) :
    ∀ c ∈ (r ++ x).getLast?, Text.isBlank c = false := by
  intro c hc
  rw [List.getLast?_append_of_ne_nil _ h.1] at hc
  exact h.2 c (List.mem_of_getLast? hc)

structure SampleLine where
  name : String
  labels : Option (List (String × String))
  raw : String
  time : Option String

namespace SampleLine

structure Proper (t : SampleLine) : Prop where
  name : IsName t.name.toList
  labels : ∀ ls ∈ t.labels, ∀ l ∈ ls, IsName l.1.toList
  raw : IsToken t.raw.toList
  time : ∀ x ∈ t.time, IsToken x.toList

def labelTest (l : String × String) : LabelTest :=
  ⟨l.1, .equal, l.2⟩

def Block (labels : Option (List (String × String))) (w : List Char) : Prop :=
  match labels with
  | none => w = []
  | some ls => ∃ b, w = '{' :: b ∧ Spaced (blockTokens (ls.map labelTest)) b

def Tail (time : Option String) (w : List Char) : Prop :=
  match time with
  | none => w = []
  | some x => ∃ g, Blank g ∧ g ≠ [] ∧ w = g ++ x.toList

/-- The tokens of a sample as a line, with blanks wherever they may stand: not before the brace that opens
the labels. -/
inductive Written (t : SampleLine) : List Char → Prop
  | line {lead block gap tail trail : List Char} (hlead : Blank lead) (hblock : Block t.labels block)
      (hgap : Blank gap) (apart : t.labels = none → gap ≠ []) (htail : Tail t.time tail)
      (htrail : Blank trail) :
      Written t (lead ++ ((t.name.toList ++ (block ++ (gap ++ (t.raw.toList ++ tail)))) ++ trail))

variable {t : SampleLine} {block gap tail s : List Char} {ls : List (String × String)}

lemma plainLabels_map (ls : List (String × String)) : plainLabels (ls.map labelTest) = .ok ls := by
  induction ls with
  | nil => rfl
  | cons l ls ih =>
    simp only [List.map_cons, plainLabels, labelTest, if_true]
    rw [show plainLabels (ls.map labelTest) = .ok ls from ih]
    rfl

lemma readBlock_written (h : t.Proper) (hblock : Block t.labels block) (hgap : Blank gap)
    (apart : t.labels = none → gap ≠ []) (s : List Char) :
    readBlock (block ++ (gap ++ s)) = .ok ((t.labels.getD []).map labelTest, gap ++ s) ∧
      ∀ c ∈ (block ++ (gap ++ s)).head?, isNameChar c = false := by
  cases hl : t.labels with
  | none =>
    rw [hl] at hblock
    obtain rfl : block = [] := hblock
    obtain ⟨c, g, rfl⟩ := List.exists_cons_of_ne_nil (apart hl)
    have blank : Text.isBlank c = true := hgap c List.mem_cons_self
    refine ⟨readBlock_of_none ?_, ?_⟩
    · rintro ⟨⟩
      exact absurd blank (by decide)
    · rintro c ⟨⟩
      exact isNameChar_of_isBlank blank
  | some ls =>
    rw [hl] at hblock
    obtain ⟨b, rfl, spaced⟩ := hblock
    have names : ∀ l ∈ ls.map labelTest, IsName l.label.toList :=
      List.forall_mem_map.2 (h.labels ls hl)
    refine ⟨readBlock_spaced names spaced _, ?_⟩
    rintro c ⟨⟩
    rfl

lemma tail_head (htail : Tail t.time tail) : ∀ c ∈ tail.head?, Text.isBlank c = true := by
  cases ht : t.time with
  | none =>
    rw [ht] at htail
    obtain rfl : tail = [] := htail
    simp
  | some x =>
    rw [ht] at htail
    obtain ⟨g, blank, ne, rfl⟩ := htail
    obtain ⟨c, g, rfl⟩ := List.exists_cons_of_ne_nil ne
    rintro c ⟨⟩
    exact blank c List.mem_cons_self

lemma parseSample_written (h : t.Proper) (hblock : Block t.labels block) (hgap : Blank gap)
    (apart : t.labels = none → gap ≠ []) (htail : Tail t.time tail) :
    parseSample (t.name.toList ++ (block ++ (gap ++ (t.raw.toList ++ tail)))) =
      (readValue t.raw.toList).map fun x => ⟨t.name, t.labels.getD [], x, t.raw,
        String.ofList (t.name.toList ++ (block ++ (gap ++ (t.raw.toList ++ tail))))⟩ := by
  obtain ⟨read, stop⟩ := readBlock_written h hblock hgap apart (t.raw.toList ++ tail)
  unfold parseSample
  rw [readName?_append h.name stop]
  simp only [read, plainLabels_map, skipBlanks_append hgap, skipBlanks_isToken h.raw,
    readToken_append h.raw.2 (tail_head htail), String.ofList_toList, bind, Except.bind]
  rfl

lemma head_name (h : IsName s) (r : List Char) : ∀ c ∈ (s ++ r).head?, isNameChar c = true := by
  cases s with
  | nil => exact h.elim
  | cons c s =>
    rintro d ⟨⟩
    simp [isNameChar, isNameFirst_of_isName h]

lemma last_written (h : t.Proper) (htail : Tail t.time tail) (r : List Char) :
    ∀ c ∈ (r ++ (t.raw.toList ++ tail)).getLast?, Text.isBlank c = false := by
  cases ht : t.time with
  | none =>
    rw [ht] at htail
    obtain rfl : tail = [] := htail
    rw [List.append_nil]
    exact last_token h.raw r
  | some x =>
    rw [ht] at htail
    obtain ⟨g, -, -, rfl⟩ := htail
    rw [← List.append_assoc, ← List.append_assoc]
    exact last_token (h.time x ht) _

lemma trim_written {lead trail : List Char} (h : t.Proper) (hlead : Blank lead) (htail : Tail t.time tail)
    (htrail : Blank trail) :
    Text.trimBlanks (lead ++ ((t.name.toList ++ (block ++ (gap ++ (t.raw.toList ++ tail)))) ++ trail)) =
      t.name.toList ++ (block ++ (gap ++ (t.raw.toList ++ tail))) := by
  refine Text.trimBlanks_around hlead htrail (fun c hc => ?_) ?_
  · exact isBlank_of_isNameChar (head_name h.name _ c hc)
  · simpa only [List.append_assoc] using last_written h htail (t.name.toList ++ (block ++ gap))

lemma parseLine_written (h : t.Proper) (hw : t.Written s) :
    parseLine s = (readValue t.raw.toList).map fun x =>
      { samples := [⟨t.name, t.labels.getD [], x, t.raw, String.ofList (Text.trimBlanks s)⟩] } := by
  obtain ⟨hlead, hblock, hgap, apart, htail, htrail⟩ := hw
  rename_i lead block gap tail trail
  have first : ∀ c ∈ (t.name.toList ++ (block ++ (gap ++ (t.raw.toList ++ tail)))).head?, isNameChar c = true :=
    head_name h.name _
  have sample := parseSample_written h hblock hgap apart htail
  rw [parseLine, trim_written h hlead htail htrail]
  split
  · rename_i empty
    exact absurd (List.append_eq_nil_iff.1 empty).1 (ne_nil_of_isName h.name)
  · rename_i hash
    exact absurd (first '#' (by rw [hash]; rfl)) (by decide)
  · rw [sample]
    cases readValue t.raw.toList <;> rfl

end SampleLine

inductive CommentKind
  | help
  | type
deriving DecidableEq

def CommentKind.keyword : CommentKind → String
  | help => "HELP"
  | type => "TYPE"

structure CommentLine where
  kind : CommentKind
  metric : String
  text : String

namespace CommentLine

structure Proper (t : CommentLine) : Prop where
  metric : IsName t.metric.toList
  first : ∀ c ∈ t.text.toList.head?, Text.isBlank c = false
  last : ∀ c ∈ t.text.toList.getLast?, Text.isBlank c = false

/-- The tokens of a comment as a line. One blank and no more stands between the keyword and the metric. -/
inductive Written (t : CommentLine) : List Char → Prop
  | line {lead mark gap trail : List Char} {c : Char} (hlead : Blank lead) (hmark : Blank mark)
      (hc : Text.isBlank c = true) (hgap : Blank gap) (apart : gap = [] ↔ t.text = "") (htrail : Blank trail) :
      Written t (lead ++ (('#' :: (mark ++ (t.kind.keyword.toList ++
        (c :: (t.metric.toList ++ (gap ++ t.text.toList)))))) ++ trail))

def entry (t : CommentLine) : Payload :=
  match t.kind with
  | .help => { help := [(t.metric, t.text)] }
  | .type => { types := [(t.metric, t.text)] }

variable {t : CommentLine} {s gap : List Char}

lemma cutBlank_append {x : List Char} {c : Char} (solid : ∀ c ∈ x, Text.isBlank c = false)
    (hc : Text.isBlank c = true) (r : List Char) : cutBlank (x ++ c :: r) = (x, some r) := by
  have stop : ∀ d ∈ (c :: r).head?, Text.isBlank d = true := by
    rintro d ⟨⟩
    exact hc
  simp only [cutBlank, readToken_append solid stop]

lemma solid_keyword (k : CommentKind) : ∀ c ∈ k.keyword.toList, Text.isBlank c = false := by
  cases k <;> exact solid_of_isName (by decide)

lemma cutBlank_metric (h : t.Proper) (hgap : Blank gap) (apart : gap = [] ↔ t.text = "") :
    (cutBlank (t.metric.toList ++ (gap ++ t.text.toList))).1 = t.metric.toList ∧
      Text.trimBlanks ((cutBlank (t.metric.toList ++ (gap ++ t.text.toList))).2.getD []) = t.text.toList := by
  cases gap with
  | nil =>
    have empty : t.text.toList = [] := by rw [apart.1 rfl]; rfl
    have whole : readToken (t.metric.toList ++ []) = (t.metric.toList, []) :=
      readToken_append (solid_of_isName h.metric) (by simp)
    have cut : cutBlank (t.metric.toList ++ ([] ++ [])) = (t.metric.toList, none) := by
      rw [cutBlank, List.nil_append, whole]
    rw [empty, cut]
    exact ⟨rfl, rfl⟩
  | cons c g =>
    obtain ⟨hc, hg⟩ := List.forall_mem_cons.1 hgap
    rw [List.cons_append, cutBlank_append (solid_of_isName h.metric) hc]
    refine ⟨rfl, ?_⟩
    simpa using Text.trimBlanks_around hg (v := []) (by simp) h.first h.last

lemma parseComment_written (h : t.Proper) {c : Char} (hc : Text.isBlank c = true) (hgap : Blank gap)
    (apart : gap = [] ↔ t.text = "") :
    parseComment (t.kind.keyword.toList ++ (c :: (t.metric.toList ++ (gap ++ t.text.toList)))) = t.entry := by
  obtain ⟨name, text⟩ := cutBlank_metric h hgap apart
  simp only [parseComment, cutBlank_append (solid_keyword t.kind) hc, name, text, String.ofList_toList, entry]
  cases t.kind <;> rfl

lemma last_written (h : t.Proper) (apart : gap = [] ↔ t.text = "") (r : List Char) :
    ∀ c ∈ (r ++ (t.metric.toList ++ (gap ++ t.text.toList))).getLast?, Text.isBlank c = false := by
  by_cases empty : t.text = ""
  · have metric : IsToken t.metric.toList := ⟨ne_nil_of_isName h.metric, solid_of_isName h.metric⟩
    simpa only [apart.2 empty, empty, List.nil_append, String.toList_empty, List.append_nil] using last_token metric r
  · have ne : t.text.toList ≠ [] := by simpa using empty
    rw [← List.append_assoc, ← List.append_assoc, List.getLast?_append_of_ne_nil _ ne]
    exact h.last

lemma parseLine_written (h : t.Proper) (hw : t.Written s) : parseLine s = .ok t.entry := by
  obtain ⟨hlead, hmark, hc, hgap, apart, htrail⟩ := hw
  rename_i lead mark gap trail c
  have last : ∀ d ∈ ('#' :: (mark ++ (t.kind.keyword.toList ++ (c :: (t.metric.toList ++
      (gap ++ t.text.toList)))))).getLast?, Text.isBlank d = false := by
    have := last_written h apart ('#' :: (mark ++ (t.kind.keyword.toList ++ [c])))
    simpa only [List.cons_append, List.append_assoc, List.nil_append] using this
  have core := Text.trimBlanks_around hlead htrail (by rintro d ⟨⟩; rfl) last
  have keyword : ∀ r, skipBlanks (t.kind.keyword.toList ++ r) = t.kind.keyword.toList ++ r := by
    intro r
    cases t.kind <;> rfl
  rw [parseLine, core]
  simp only [skipBlanks_append hmark, keyword, parseComment_written h hc hgap apart]

end CommentLine

end Exposition

end ItemPipeline
