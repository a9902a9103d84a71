import ItemPipeline.Exposition.Pattern
import ItemPipeline.Proofs.Exposition.Lines
import ItemPipeline.Proofs.Regex.Anchored
import ItemPipeline.Proofs.Success
import Mathlib.Data.List.Forall2

/-!
Patterns as they are written, the samples that they stand for, and the reader between the two.
-/

namespace ItemPipeline.Exposition

section Numbers

variable {c : Char} {s : List Char}

lemma solid_of_sign (h : ∀ c ∈ (Decimal.sign s).2, Text.isBlank c = false) : ∀ c ∈ s, Text.isBlank c = false := by
  unfold Decimal.sign at h
  split at h
  · exact List.forall_mem_cons.2 ⟨rfl, h⟩
  · exact List.forall_mem_cons.2 ⟨rfl, h⟩
  · exact h

lemma isBlank_of_isDigit (h : Text.isDigit c = true) : Text.isBlank c = false :=
  isBlank_of_isNameChar (by simp [isNameChar, h])

lemma isDigit_of_digit? {d : Nat} (h : Text.digit? 10 c = some d) : Text.isDigit c = true := by
  simp only [Text.digit?, Option.ite_none_right_eq_some] at h
  have code := h.1
  simp only [Text.isDigit, Bool.and_eq_true, decide_eq_true_eq]
  split at code
  · assumption
  · split at code
    · omega
    · split at code <;> omega

lemma solid_of_digitsFrom? {acc n : Nat} (h : Text.digitsFrom? 10 acc s = some n) :
    ∀ c ∈ s, Text.isBlank c = false := by
  induction s generalizing acc with
  | nil => simp
  | cons c s ih =>
    obtain ⟨d, digit, rest⟩ := Option.bind_eq_some_iff.1 h
    exact List.forall_mem_cons.2 ⟨isBlank_of_isDigit (isDigit_of_digit? digit), ih rest⟩

lemma solid_of_digits? {n : Nat} (h : Text.digits? 10 s = some n) : ∀ c ∈ s, Text.isBlank c = false := by
  unfold Text.digits? at h
  split at h
  · simp at h
  · exact solid_of_digitsFrom? h

lemma solid_of_exponent? {e : Int} (h : Decimal.exponent? s = some e) : ∀ c ∈ s, Text.isBlank c = false := by
  unfold Decimal.exponent? at h
  split at h
  · simp
  · rename_i c r
    split at h
    · rename_i mark
      have first : Text.isBlank c = false := by obtain rfl | rfl := mark <;> rfl
      cases digits : Text.digits? 10 (Decimal.sign r).2 with
      | none => simp [digits] at h
      | some n => exact List.forall_mem_cons.2 ⟨first, solid_of_sign (solid_of_digits? digits)⟩
    · simp at h

lemma solid_of_spanDigits (h : ∀ c ∈ (Decimal.spanDigits s).2, Text.isBlank c = false) :
    ∀ c ∈ s, Text.isBlank c = false := by
  intro c hc
  rw [← List.takeWhile_append_dropWhile (p := Text.isDigit) (l := s), List.mem_append] at hc
  obtain hc | hc := hc
  · exact isBlank_of_isDigit (List.all_eq_true.1 List.all_takeWhile c hc)
  · exact h c hc

lemma solid_of_parse? {d : Decimal} (h : Decimal.parse? s = some d) : ∀ c ∈ s, Text.isBlank c = false := by
  simp only [Decimal.parse?] at h
  obtain ⟨-, h⟩ := Option.ite_none_left_eq_some.1 h
  obtain ⟨n, -, h⟩ := Option.bind_eq_some_iff.1 h
  obtain ⟨e, exponent, -⟩ := Option.bind_eq_some_iff.1 h
  have tail := solid_of_exponent? exponent
  refine solid_of_sign (solid_of_spanDigits ?_)
  split at tail
  · rename_i point
    rw [point]
    exact List.forall_mem_cons.2 ⟨rfl, solid_of_spanDigits tail⟩
  · exact tail

lemma isBlank_toLower (h : Text.isBlank c = true) : Text.isBlank c.toLower = true := by
  have other : ¬(c.val ≥ 'A'.val ∧ c.val ≤ 'Z'.val) := by
    intro upper
    have letter : c.isUpper = true := decide_eq_true upper
    have name : isNameChar c = true := by simp [isNameChar, isNameFirst, isAlpha_eq, letter]
    simp [isBlank_of_isNameChar name] at h
  have same : c.toLower = c := dif_neg other
  rwa [same]

lemma solid_of_lowerAscii (h : ∀ c ∈ lowerAscii s, Text.isBlank c = false) : ∀ c ∈ s, Text.isBlank c = false := by
  intro c hc
  by_contra blank
  have := h _ (List.mem_map_of_mem hc)
  simp [isBlank_toLower (by simpa using blank)] at this

lemma isToken_of_readValue {x : Float} (h : readValue s = .ok x) : IsToken s := by
  refine ⟨?_, ?_⟩
  · rintro rfl
    have none : readValue [] = .error (.badValue "") := rfl
    simp [none] at h
  · unfold readValue at h
    split at h
    · rename_i y read
      simp only [readFloat?] at read
      split at read
      · rename_i name
        refine solid_of_sign (solid_of_lowerAscii ?_)
        obtain name | name := name <;> exact name ▸ solid_of_isName (by decide)
      · split at read
        · rename_i name
          refine solid_of_sign (solid_of_lowerAscii ?_)
          exact name ▸ solid_of_isName (by decide)
        · obtain ⟨d, parsed, -⟩ := Option.map_eq_some_iff.1 read
          exact solid_of_parse? parsed
    · simp at h

end Numbers

lemma beq_of_isNaN {x y : Float} (h : y.isNaN = true) : (x == y) = false := by
  change (x.toModel.unpack.beq y.toModel.unpack) = false
  change y.toModel.unpack.isNaN = true at h
  cases hy : y.toModel.unpack with
  | notANumber => cases x.toModel.unpack <;> rfl
  | _ =>
    rw [hy] at h
    exact absurd h Bool.false_ne_true

structure Selector where
  name : Option String
  tests : List LabelTest
  value : Option String

inductive Braced : List LabelTest → List (List Char) → Prop
  | bare : Braced [] []
  | braces (ls : List LabelTest) : Braced ls (['{'] :: blockTokens ls)

def Sample.labelText (s : Sample) (name : String) : String :=
  if name = nameLabel then s.name
  else match s.labels.find? (·.1 == name) with
    | some l => l.2
    | none => ""

def LabelTest.Meets (R : String → String → Prop) (l : LabelTest) (v : String) : Prop :=
  match l.op with
  | .equal => v = l.value
  | .notEqual => v ≠ l.value
  | .like => R l.value v
  | .unlike => ¬R l.value v

def LabelTest.IsExpression (l : LabelTest) : Prop :=
  l.op = .like ∨ l.op = .unlike

namespace Selector

structure Proper (q : Selector) : Prop where
  some : q.name.isSome ∨ q.tests ≠ []
  name : ∀ n ∈ q.name, IsName n.toList
  tests : ∀ l ∈ q.tests, IsName l.label.toList
  value : ∀ t ∈ q.value, ∃ x, readValue t.toList = .ok x

def nameTokens (name : Option String) : List (List Char) :=
  name.toList.map String.toList

def valueTokens : Option String → List (List Char)
  | none => []
  | some t => [['=', '='], t.toList]

/-- The tokens of a pattern as a text, with blanks wherever two tokens meet and around them. -/
inductive Written (q : Selector) : List Char → Prop
  | text {block : List (List Char)} {w trail : List Char} (hblock : Braced q.tests block)
      (spaced : Spaced (nameTokens q.name ++ (block ++ valueTokens q.value)) w) (htrail : Blank trail) :
      Written q (w ++ trail)

def Compiles (q : Selector) : Prop :=
  ∀ l ∈ q.tests, l.IsExpression → ∃ program, anchored l.value = .ok program

/-- Every expression is one on its own, without the group and the anchors put around it. -/
def Balanced (q : Selector) : Prop :=
  ∀ l ∈ q.tests, l.IsExpression → Regex.IsRegex l.value

structure Selects (R : String → String → Prop) (q : Selector) (s : Sample) : Prop where
  name : ∀ n ∈ q.name, s.name = n
  value : ∀ t ∈ q.value, ∀ x, readValue t.toList = .ok x → s.value == x ∨ s.value.isNaN ∧ x.isNaN
  tests : ∀ l ∈ q.tests, l.Meets R (s.labelText l.label)

def number? (q : Selector) : Option Float :=
  q.value.bind fun t => (readValue t.toList).toOption

variable {q : Selector} {s u w z : List Char} {block : List (List Char)}

lemma readCondition_spaced (h : q.Proper) (hw : Spaced (valueTokens q.value) w) (hz : Blank z) :
    ∃ r, readCondition (skipBlanks (w ++ z)) = .ok (q.number?, r) ∧ skipBlanks r = [] := by
  cases hv : q.value with
  | none =>
    rw [hv] at hw
    obtain ⟨⟩ := hw
    exact ⟨[], by simp [skipBlanks_blank hz, readCondition, number?, hv], rfl⟩
  | some t =>
    rw [hv] at hw
    obtain ⟨x, read⟩ := h.value t hv
    have word := isToken_of_readValue read
    obtain ⟨v, start, rest⟩ := hw.skipBlanks_cons (by decide) z
    obtain - | ⟨blank, ⟨⟩⟩ := rest
    have stop : ∀ c ∈ z.head?, Text.isBlank c = true := fun c hc => hz c (List.mem_of_mem_head? hc)
    refine ⟨z, ?_, skipBlanks_blank hz⟩
    rw [start]
    simp [readCondition, skipBlanks_append blank, skipBlanks_isToken word, readToken_append word.2 stop, read,
      number?, hv, Except.map, Except.toOption]

lemma head_value (hw : Spaced (valueTokens q.value) w) (hz : Blank z) :
    (∀ c ∈ (w ++ z).head?, isNameChar c = false) ∧ (skipBlanks (w ++ z)).head? ≠ some '\x7b' := by
  cases hv : q.value with
  | none =>
    rw [hv] at hw
    obtain ⟨⟩ := hw
    rw [List.nil_append, skipBlanks_blank hz]
    exact ⟨fun c hc => isNameChar_of_isBlank (hz c (List.mem_of_mem_head? hc)), by simp⟩
  | some t =>
    rw [hv] at hw
    obtain ⟨v, start, -⟩ := hw.skipBlanks_cons (by decide) z
    refine ⟨?_, by simp [start]⟩
    obtain - | ⟨blank, -⟩ := hw
    rw [List.append_assoc]
    exact head?_append_of_blank blank (fun _ => isNameChar_of_isBlank) (by rintro c ⟨⟩; rfl)

lemma readBlock_braced (h : q.Proper) (hblock : Braced q.tests block) (hu : Spaced block u)
    (hw : Spaced (valueTokens q.value) w) (hz : Blank z) :
    ∃ r, readBlock (skipBlanks (u ++ (w ++ z))) = .ok (q.tests, r) ∧ skipBlanks r = skipBlanks (w ++ z) := by
  generalize tests : q.tests = ls at hblock
  cases hblock with
  | bare =>
    obtain ⟨⟩ := hu
    exact ⟨_, readBlock_of_none (head_value hw hz).2, skipBlanks_skipBlanks _⟩
  | braces =>
    obtain ⟨v, start, rest⟩ := hu.skipBlanks_cons (by decide) (w ++ z)
    rw [start]
    exact ⟨_, readBlock_spaced (tests ▸ h.tests) rest _, rfl⟩

lemma head_braced {ls : List LabelTest} (hblock : Braced ls block) (hu : Spaced block u)
    (hs : ∀ c ∈ s.head?, isNameChar c = false) : ∀ c ∈ (u ++ s).head?, isNameChar c = false := by
  cases hblock with
  | bare =>
    obtain ⟨⟩ := hu
    exact hs
  | braces =>
    obtain - | ⟨blank, -⟩ := hu
    rw [List.append_assoc]
    exact head?_append_of_blank blank (fun _ => isNameChar_of_isBlank) (by rintro c ⟨⟩; rfl)

lemma readName?_spaced (h : q.Proper) (hblock : Braced q.tests block) (hw : Spaced (nameTokens q.name) w)
    (hu : Spaced block u) (hs : ∀ c ∈ s.head?, isNameChar c = false) :
    readName? (skipBlanks (w ++ (u ++ s))) = q.name.map fun n => (n.toList, u ++ s) := by
  cases hn : q.name with
  | none =>
    rw [hn] at hw
    obtain ⟨⟩ := hw
    obtain named | tested := h.some
    · simp [hn] at named
    · generalize q.tests = ls at hblock tested
      cases hblock with
      | bare => exact absurd rfl tested
      | braces =>
        obtain ⟨v, start, -⟩ := hu.skipBlanks_cons (by decide) s
        rw [List.nil_append, start]
        rfl
  | some n =>
    rw [hn] at hw
    obtain - | ⟨blank, ⟨⟩⟩ := hw
    have name := h.name n hn
    simp only [List.append_assoc, List.nil_append, skipBlanks_append blank, skipBlanks_isName name,
      readName?_append name (head_braced hblock hu hs), Option.map_some]

lemma toMatchers_cons {l : LabelTest} {ls : List LabelTest} {ms : List Matcher} :
    toMatchers (l :: ls) = .ok ms ↔ ∃ m ms', l.toMatcher = .ok m ∧ toMatchers ls = .ok ms' ∧ ms = m :: ms' := by
  simp only [toMatchers, bind_eq_ok_iff, map_eq_ok_iff, exists_and_left, eq_comm (a := ms)]

lemma toMatchers_eq_ok_iff {ls : List LabelTest} {ms : List Matcher} :
    toMatchers ls = .ok ms ↔ List.Forall₂ (fun l m => l.toMatcher = .ok m) ls ms := by
  induction ls generalizing ms with
  | nil =>
    rw [List.forall₂_nil_left_iff]
    exact ⟨fun h => (Except.ok.inj h).symm, fun h => h ▸ rfl⟩
  | cons l ls ih => simp only [toMatchers_cons, List.forall₂_cons_left_iff, ih]

lemma toMatcher_iff {l : LabelTest} :
    (∃ m, l.toMatcher = .ok m) ↔ (l.IsExpression → ∃ program, anchored l.value = .ok program) := by
  unfold LabelTest.toMatcher LabelTest.IsExpression
  cases l.op <;> simp [map_eq_ok_iff]

lemma compiles_iff : (∃ ms, toMatchers q.tests = .ok ms) ↔ q.Compiles := by
  unfold Compiles
  induction q.tests with
  | nil => simp [toMatchers]
  | cons l ls ih =>
    rw [List.forall_mem_cons, ← ih, ← toMatcher_iff]
    simp only [toMatchers_cons]
    constructor
    · rintro ⟨-, m, ms, first, rest, -⟩
      exact ⟨⟨m, first⟩, ms, rest⟩
    · rintro ⟨⟨m, first⟩, ms, rest⟩
      exact ⟨_, m, ms, first, rest, rfl⟩

theorem parse_written {text : String} (h : q.Proper) (hq : q.Written text.toList) :
    Pattern.parse text = (toMatchers q.tests).map fun matchers => ⟨q.name, matchers, q.number?⟩ := by
  generalize written : text.toList = t at hq
  obtain ⟨hblock, spaced, hz⟩ := hq
  rename_i block w z
  obtain ⟨a, w, rfl, hname, spaced⟩ := spaced.of_append
  obtain ⟨b, c, rfl, hb, hvalue⟩ := spaced.of_append
  have name := readName?_spaced h hblock hname hb (head_value hvalue hz).1
  obtain ⟨r, labels, after_block⟩ := readBlock_braced h hblock hb hvalue hz
  obtain ⟨r', condition, none_left⟩ := readCondition_spaced h hvalue hz
  have given (ms : List Matcher) (compiled : toMatchers q.tests = .ok ms) :
      q.name.isSome = true ∨ (!ms.isEmpty) = true := by
    refine h.some.imp_right fun tested => ?_
    obtain ⟨l, ls, tests⟩ := List.exists_cons_of_ne_nil tested
    have tail := toMatchers_eq_ok_iff.1 compiled
    rw [tests, List.forall₂_cons_left_iff] at tail
    obtain ⟨m, ms', -, -, rfl⟩ := tail
    rfl
  simp only [Pattern.parse, written, List.append_assoc, name]
  cases hn : q.name with
  | none =>
    rw [hn] at hname
    obtain ⟨⟩ := hname
    simp only [Option.map_none, List.nil_append, skipBlanks_skipBlanks, labels, after_block, condition,
      none_left, bind, Except.bind]
    cases compiled : toMatchers q.tests with
    | error f => rfl
    | ok ms =>
      have := given ms compiled
      rw [hn] at this
      simp only [this, and_self, if_true, Except.map]
  | some n =>
    simp only [Option.map_some, labels, after_block, condition, none_left, bind, Except.bind]
    cases toMatchers q.tests <;> simp [Except.map, String.ofList_toList]

lemma lookup_eq_find? (name : String) (labels : List (String × String)) :
    labels.lookup name = (labels.find? (·.1 == name)).map (·.2) := by
  induction labels with
  | nil => rfl
  | cons l labels ih =>
    rw [List.lookup_cons, List.find?_cons, Bool.beq_comm, ih]
    cases l.1 == name <;> rfl

lemma getD_label? (s : Sample) (name : String) : (s.label? name).getD "" = s.labelText name := by
  unfold Sample.label? Sample.labelText
  split
  · rfl
  · rw [lookup_eq_find?]
    cases s.labels.find? (·.1 == name) <;> rfl

lemma sameFloat_iff {x y : Float} : sameFloat x y = true ↔ y == x ∨ y.isNaN ∧ x.isNaN := by
  unfold sameFloat
  split
  · rename_i nan
    simp only [beq_of_isNaN nan, nan, and_true, Bool.false_eq_true, false_or]
  · rename_i number
    simp only [number, and_false, or_false, Bool.false_eq_true]

variable {R : String → String → Prop} {l : LabelTest} {m : Matcher} {s : Sample}

lemma holds_toMatcher (h : l.toMatcher = .ok m)
    (means : l.IsExpression → ∀ program, anchored l.value = .ok program →
      ∀ v, program.isMatch v.toList = true ↔ R l.value v) :
    m.holds s = true ↔ l.Meets R (s.labelText l.label) := by
  rw [Matcher.holds, ← getD_label?]
  unfold LabelTest.toMatcher at h
  unfold LabelTest.Meets
  cases op : l.op with
  | equal =>
    rw [op] at h
    obtain rfl := Except.ok.inj h
    simp [Test.holds]
  | notEqual =>
    rw [op] at h
    obtain rfl := Except.ok.inj h
    simp [Test.holds]
  | like =>
    rw [op] at h
    obtain ⟨program, compiled, rfl⟩ := map_eq_ok_iff.1 h
    exact means (.inl op) program compiled _
  | unlike =>
    rw [op] at h
    obtain ⟨program, compiled, rfl⟩ := map_eq_ok_iff.1 h
    have := means (.inr op) program compiled ((s.label? l.label).getD "")
    simp [Test.holds, ← this]

lemma forall_holds_iff {ls : List LabelTest} {ms : List Matcher}
    (h : List.Forall₂ (fun l m => l.toMatcher = .ok m) ls ms)
    (means : ∀ l ∈ ls, l.IsExpression → ∀ program, anchored l.value = .ok program →
      ∀ v, program.isMatch v.toList = true ↔ R l.value v) :
    (∀ m ∈ ms, m.holds s = true) ↔ ∀ l ∈ ls, l.Meets R (s.labelText l.label) := by
  induction h with
  | nil => simp
  | cons first _ ih =>
    obtain ⟨mean, means⟩ := List.forall_mem_cons.1 means
    rw [List.forall_mem_cons, List.forall_mem_cons, holds_toMatcher first mean, ih means]

lemma all_number?_iff {y : Float} : q.number?.all (sameFloat · y) = true ↔
    ∀ t ∈ q.value, ∀ x, readValue t.toList = .ok x → y == x ∨ y.isNaN ∧ x.isNaN := by
  unfold number?
  cases q.value with
  | none => simp
  | some t =>
    cases read : readValue t.toList <;> simp [read, Except.toOption, sameFloat_iff]

theorem holds_iff {ms : List Matcher} (compiled : toMatchers q.tests = .ok ms)
    (means : ∀ l ∈ q.tests, l.IsExpression → ∀ program, anchored l.value = .ok program →
      ∀ v, program.isMatch v.toList = true ↔ R l.value v) :
    (⟨q.name, ms, q.number?⟩ : Pattern).holds s = true ↔ q.Selects R s := by
  have tests := forall_holds_iff (s := s) (toMatchers_eq_ok_iff.1 compiled) means
  have name : q.name.all (s.name == ·) = true ↔ ∀ n ∈ q.name, s.name = n := by
    cases q.name <;> simp
  simp only [Pattern.holds, Bool.and_eq_true, List.all_eq_true, tests, name, all_number?_iff]
  exact ⟨fun ⟨⟨name, value⟩, tests⟩ => ⟨name, value, tests⟩, fun ⟨name, value, tests⟩ => ⟨⟨name, value⟩, tests⟩⟩

theorem parse_iff {text : String} (h : q.Proper) (hq : q.Written text.toList) :
    (∃ p, Pattern.parse text = .ok p) ↔ q.Compiles := by
  rw [parse_written h hq, ← compiles_iff]
  simp only [map_eq_ok_iff]
  exact ⟨fun ⟨_, ms, compiled, _⟩ => ⟨ms, compiled⟩, fun ⟨ms, compiled⟩ => ⟨_, ms, compiled, rfl⟩⟩

theorem holds_part {text : String} {p : Pattern} (h : q.Proper) (hq : q.Written text.toList)
    (hp : Pattern.parse text = .ok p) :
    p.holds s = true ↔ q.Selects (fun e v => Regex.MatchesPart s!"^(?:{e})$" v.toList) s := by
  rw [parse_written h hq] at hp
  obtain ⟨ms, compiled, rfl⟩ := map_eq_ok_iff.1 hp
  exact holds_iff compiled fun l _ _ program built v => Regex.isMatch_build (Regex.build_of_anchored built)

theorem holds_whole {text : String} {p : Pattern} (h : q.Proper) (hq : q.Written text.toList)
    (hp : Pattern.parse text = .ok p) (balanced : q.Balanced) :
    p.holds s = true ↔ q.Selects (fun e v => Regex.MatchesWhole e v.toList) s := by
  rw [parse_written h hq] at hp
  obtain ⟨ms, compiled, rfl⟩ := map_eq_ok_iff.1 hp
  exact holds_iff compiled fun l hl expression program built v =>
    Regex.isMatch_anchored (balanced l hl expression) built

end Selector

end ItemPipeline.Exposition
