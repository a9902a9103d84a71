import ItemPipeline.Exposition.Pattern
import ItemPipeline.Proofs.Regex.Threads
import ItemPipeline.Proofs.Regex.Within.Groups

/-!
A regular expression between anchors matches a text as a whole.
-/

namespace ItemPipeline.Regex

open Reader

variable {p q : Pattern}

section Outside

variable (items : List Pattern) (r : List Char) (place : Place) (n k : Nat) (names : List (String × Span))

lemma readBody_caret : readBody none [] items (n + 1) ⟨'^' :: r, place, k, names, false⟩ =
    readBody none [] (.anchor .lineStart :: items) n ⟨r, place.after '^', k, names, false⟩ :=
  rfl

lemma readBody_group : ∃ sp place', readBody none [] items (n + 1) ⟨'(' :: '?' :: ':' :: r, place, k, names, false⟩ =
    (do
      let q ← readBody (some sp) [] [] n
      setIgnoreSpace false
      readBody none [] (.scoped [] q :: items) n) ⟨r, place', k, names, false⟩ :=
  ⟨_, _, rfl⟩

lemma readBody_dollar : ∃ s', readBody none [] items (n + 2) ⟨['$'], place, k, names, false⟩ =
    .ok (seqOf (.anchor .lineEnd :: items), s') :=
  ⟨_, rfl⟩

end Outside

lemma parsePattern_ok {text : String} {g : Nat} (h : parsePattern text = .ok (p, g)) :
    ∃ s, readBody none [] [] (text.toList.length + 2) { rest := text.toList } = .ok (p, s) ∧ s.captures = g := by
  unfold parsePattern at h
  simp only [Bind.bind, Except.bind, StateT.run] at h
  split at h
  · simp at h
  · rename_i x read
    obtain ⟨rfl, rfl⟩ := Prod.mk.inj (Except.ok.inj h)
    exact ⟨_, read, rfl⟩

lemma toList_anchored (v : String) : (s!"^(?:{v})$").toList = '^' :: '(' :: '?' :: ':' :: (v.toList ++ ending) := by
  simp [toString, String.toList_append, ending]

theorem parsePattern_anchored {v : String} {g g' : Nat} (alone : parsePattern v = .ok (p, g))
    (whole : parsePattern s!"^(?:{v})$" = .ok (q, g')) :
    ∃ p', q = .seq (.anchor .lineStart) (.seq (.scoped [] p') (.anchor .lineEnd)) ∧ p.erase = p'.erase := by
  obtain ⟨s, alone, -⟩ := parsePattern_ok alone
  obtain ⟨s', whole, -⟩ := parsePattern_ok whole
  rw [toList_anchored] at whole
  simp only [List.length_cons] at whole
  rw [readBody_caret] at whole
  obtain ⟨sp, place', group⟩ := readBody_group [.anchor .lineStart] (v.toList ++ ending) (Place.after {} '^')
    ((v.toList ++ ending).length + 4) 0 []
  rw [group] at whole
  have beside : Beside { rest := v.toList } ⟨v.toList ++ ending, place', 0, [], false⟩ := ⟨rfl, rfl, .inl rfl⟩
  cases read : readBody (some sp) [] [] ((v.toList ++ ending).length + 4)
      ⟨v.toList ++ ending, place', 0, [], false⟩ with
  | error e =>
    simp only [Bind.bind, StateT.bind, Except.bind, read] at whole
    exact absurd whole (by simp)
  | ok x =>
    obtain ⟨p', t⟩ := x
    obtain ⟨same, - | ⟨-, left⟩⟩ := agree_readBody beside rfl rfl rfl _ _ _ _ alone read
    rw [run_bind read] at whole
    obtain ⟨u, place, k, names, x⟩ := t
    obtain rfl : u = ['$'] := left
    obtain ⟨s, dollar⟩ := readBody_dollar [.scoped [] p', .anchor .lineStart] place
      ((v.toList ++ ending).length + 2) k names
    have result : q = seqOf [.anchor .lineEnd, .scoped [] p', .anchor .lineStart] := by
      have := whole.symm.trans dollar
      exact (Prod.mk.inj (Except.ok.inj this)).1
    exact ⟨p', result, same⟩

lemma toOption_bind {α β : Type} (x : Except SyntaxError α) (f : α → Except SyntaxError β) :
    (x >>= f).toOption = x.toOption.bind fun a => (f a).toOption := by
  cases x <;> rfl

variable (f : Flags)

lemma toOption_propertySet (n : PropertyName) (a b : Span) :
    (propertySet f n a).toOption = (propertySet f n b).toOption := by
  unfold propertySet
  split
  · split <;> rfl
  · rfl

lemma toOption_checkNegated (negated : Bool) (a b : Span) (c : Unicode.CharSet) :
    (checkNegated f negated a c).toOption = (checkNegated f negated b c).toOption := by
  unfold checkNegated
  split <;> rfl

lemma literalChar_erase (l : Literal) : (literalChar f l.erase).toOption = (literalChar f l).toOption := by
  unfold literalChar Literal.erase
  dsimp only
  split <;> rfl

lemma classCode_erase (l : Literal) : (classCode f l.erase).toOption = (classCode f l).toOption := by
  simp only [classCode, toOption_bind, literalChar_erase]
  refine Option.bind_congr fun c _ => ?_
  split <;> rfl

lemma classSet_erase (e : ClassExpr) : (classSet f e.erase).toOption = (classSet f e).toOption := by
  induction e with
  | empty => rfl
  | literal l => simp only [ClassExpr.erase, classSet, toOption_bind, classCode_erase]
  | range a b => simp only [ClassExpr.erase, classSet, toOption_bind, classCode_erase]
  | ascii k negated span => simp only [ClassExpr.erase, classSet, toOption_checkNegated f negated default span]
  | named k negated span => simp only [ClassExpr.erase, classSet, toOption_checkNegated f negated default span]
  | property n negated span =>
    simp only [ClassExpr.erase, classSet, toOption_bind, toOption_propertySet f n default span]
  | bracket negated e span ih =>
    simp only [ClassExpr.erase, classSet, toOption_bind, ih, toOption_checkNegated f negated default span]
  | union a b iha ihb => simp only [ClassExpr.erase, classSet, toOption_bind, iha, ihb]
  | op k a b iha ihb => simp only [ClassExpr.erase, classSet, toOption_bind, iha, ihb]

lemma resolve_erase (p : Pattern) : (resolve f p.erase).toOption = (resolve f p).toOption := by
  induction p generalizing f with
  | dot span =>
    simp only [Pattern.erase, resolve]
    split <;> rfl
  | literal l => simp only [Pattern.erase, resolve, toOption_bind, literalChar_erase]
  | named k negated span =>
    simp only [Pattern.erase, resolve, toOption_bind, toOption_checkNegated f negated default span]
  | property n negated span =>
    simp only [Pattern.erase, resolve, toOption_bind, toOption_propertySet f n default span]
  | cls e span => simp only [Pattern.erase, resolve, toOption_bind, classSet_erase]
  | repetition a b g p ih => simp only [Pattern.erase, resolve, toOption_bind, ih]
  | capture i p ih => simp only [Pattern.erase, resolve, toOption_bind, ih]
  | «scoped» l p ih => simp only [Pattern.erase, resolve, toOption_bind, ih]
  | seq p q ihp ihq => simp only [Pattern.erase, resolve, toOption_bind, ihp, ihq]
  | alt p q ihp ihq => simp only [Pattern.erase, resolve, toOption_bind, ihp, ihq]
  | _ => rfl

variable {f}

lemma resolve_of_erase {x : Regex × Flags} (same : p.erase = q.erase) (h : resolve f q = .ok x) :
    resolve f p = .ok x := by
  have : (resolve f p).toOption = some x := by
    rw [← resolve_erase f p, same, resolve_erase, h]
    rfl
  cases hp : resolve f p with
  | error e => simp [hp, Except.toOption] at this
  | ok y => simpa [hp, Except.toOption] using this

def IsRegex (text : String) : Prop :=
  ∃ p groups, parsePattern text = .ok (p, groups)

def Denotes (text : String) (r : Regex) : Prop :=
  ∃ p groups f, parsePattern text = .ok (p, groups) ∧ resolve {} p = .ok (r, f)

def MatchesPart (text : String) (w : List Char) : Prop :=
  ∃ r, Denotes text r ∧ ∃ i ≤ w.length, ∃ j, Matches w r i j

def MatchesWhole (text : String) (w : List Char) : Prop :=
  ∃ r, Denotes text r ∧ Matches w r 0 w.length

variable {w : List Char} {r : Regex} {i j : Nat} {program : Program}

lemma Denotes.unique {text : String} {r' : Regex} (h : Denotes text r) (h' : Denotes text r') : r = r' := by
  obtain ⟨p, g, f, parsed, resolved⟩ := h
  obtain ⟨p', g', f', parsed', resolved'⟩ := h'
  obtain ⟨rfl, -⟩ := Prod.mk.inj (Except.ok.inj (parsed.symm.trans parsed'))
  exact (Prod.mk.inj (Except.ok.inj (resolved.symm.trans resolved'))).1

lemma build_ok {text : String} (h : build text = .ok program) :
    ∃ r groups, Denotes text r ∧ program = .ofRegex r groups := by
  unfold build at h
  split at h
  · simp at h
  · rename_i p groups parsed
    split at h
    · simp at h
    · rename_i r f resolved
      split at h
      · simp at h
      · exact ⟨r, groups, ⟨p, groups, f, parsed, resolved⟩, (Except.ok.inj h).symm⟩

theorem isMatch_build {text : String} (h : build text = .ok program) :
    program.isMatch w = true ↔ MatchesPart text w := by
  obtain ⟨r, groups, denotes, rfl⟩ := build_ok h
  rw [isMatch_ofRegex]
  exact ⟨fun found => ⟨r, denotes, found⟩, fun ⟨r', denotes', found⟩ => denotes.unique denotes' ▸ found⟩

lemma Times.length_le {R : Nat → Nat → Prop} {n : Nat} (step : ∀ i j, R i j → i ≤ w.length → j ≤ w.length)
    (h : Times R n i j) (le : i ≤ w.length) : j ≤ w.length := by
  induction h with
  | zero => exact le
  | succ first _ ih => exact ih (step _ _ first le)

lemma Matches.length_le (h : Matches w r i j) (le : i ≤ w.length) : j ≤ w.length := by
  induction r generalizing i j with
  | empty => exact h ▸ le
  | look l => exact h.2 ▸ le
  | chars s =>
    obtain ⟨⟨c, char, -⟩, rfl⟩ := h
    exact (List.getElem?_eq_some_iff.1 char).1
  | capture i r ih => exact ih h le
  | seq r s ihr ihs =>
    obtain ⟨k, first, second⟩ := h
    exact ihs second (ihr first le)
  | alt r s ihr ihs => exact h.elim (ihr · le) (ihs · le)
  | repetition a b g r ih =>
    obtain ⟨n, -, -, times⟩ := h
    exact times.length_le (fun _ _ step le => ih step le) le

lemma textStart_holds (le : i ≤ w.length) : Look.textStart.holds (previous? w i) w[i]? = true ↔ i = 0 := by
  simp only [Look.holds, previous?, Option.isNone_iff_eq_none]
  split
  · simpa using ‹_›
  · rw [List.getElem?_eq_none_iff]
    omega

lemma textEnd_holds (le : i ≤ w.length) :
    Look.textEnd.holds (previous? w i) w[i]? = true ↔ i = w.length := by
  simp only [Look.holds, Option.isNone_iff_eq_none, List.getElem?_eq_none_iff]
  omega

lemma matches_between_anchors :
    (∃ i ≤ w.length, ∃ j, Matches w (.seq (.look .textStart) (.seq r (.look .textEnd))) i j) ↔
      Matches w r 0 w.length := by
  constructor
  · rintro ⟨i, le, j, k, ⟨start, rfl⟩, k, whole, stop, rfl⟩
    obtain rfl := (textStart_holds le).1 start
    exact (textEnd_holds (whole.length_le le)).1 stop ▸ whole
  · intro whole
    have start : Look.textStart.holds (previous? w 0) w[0]? = true := (textStart_holds (Nat.zero_le _)).2 rfl
    have stop : Look.textEnd.holds (previous? w w.length) w[w.length]? = true := (textEnd_holds le_rfl).2 rfl
    exact ⟨0, Nat.zero_le _, w.length, 0, ⟨start, rfl⟩, w.length, whole, stop, rfl⟩

lemma denotes_anchored {v : String} {whole : Regex} (alone : IsRegex v) (h : Denotes s!"^(?:{v})$" whole) :
    ∃ r, Denotes v r ∧ whole = .seq (.look .textStart) (.seq r (.look .textEnd)) := by
  obtain ⟨p, groups, parsed⟩ := alone
  obtain ⟨q, groups', f, parsed', resolved⟩ := h
  obtain ⟨p', rfl, same⟩ := parsePattern_anchored parsed parsed'
  have unset : Flags.apply {} [] = {} := rfl
  cases inner : resolve {} p' with
  | error e =>
    simp only [resolve, unset, inner, bind, Except.bind] at resolved
    exact absurd resolved (by simp)
  | ok x =>
    obtain ⟨r, f'⟩ := x
    simp only [resolve, unset, inner, bind, Except.bind] at resolved
    obtain ⟨rfl, -⟩ := Prod.mk.inj (Except.ok.inj resolved)
    exact ⟨r, ⟨p, groups, f', parsed, resolve_of_erase same inner⟩, rfl⟩

lemma build_of_anchored {v : String} (h : Exposition.anchored v = .ok program) :
    build s!"^(?:{v})$" = .ok program := by
  unfold Exposition.anchored at h
  split at h
  · rename_i built
    obtain rfl := Except.ok.inj h
    exact built
  · simp at h

theorem isMatch_anchored {v : String} (alone : IsRegex v) (h : Exposition.anchored v = .ok program) :
    program.isMatch w = true ↔ MatchesWhole v w := by
  obtain ⟨whole, groups, denotes, rfl⟩ := build_ok (build_of_anchored h)
  obtain ⟨r, denotes', rfl⟩ := denotes_anchored alone denotes
  rw [isMatch_ofRegex, matches_between_anchors]
  exact ⟨fun found => ⟨r, denotes', found⟩, fun ⟨r', denotes, found⟩ => denotes'.unique denotes ▸ found⟩

end ItemPipeline.Regex
