import ItemPipeline.Proofs.Reader
import ItemPipeline.Toml.Document
import Mathlib.Data.List.Basic
import Mathlib.Data.String.Basic

/-!
What the readers of a document's parts make of a text: blanks, line ends, and keys without quotes.
-/

namespace ItemPipeline.Toml

open Reader

variable {α β : Type} {c t : Cursor} {l r : List Char} {w : String}

def Cursor.after (c : Cursor) (n : Nat) : Cursor :=
  ⟨c.rest.drop n, c.location + Text.byteSize (c.rest.take n)⟩

@[simp] lemma rest_after (c : Cursor) (n : Nat) : (c.after n).rest = c.rest.drop n := rfl

@[simp] lemma read_here_bind (f : Nat → Reader β) (c : Cursor) : (here >>= f) c = f c.location c := rfl
@[simp] lemma read_rest (c : Cursor) : rest c = .ok (c.rest, c) := rfl
@[simp] lemma read_rest_bind (f : List Char → Reader β) (c : Cursor) : (rest >>= f) c = f c.rest c := rfl
@[simp] lemma read_skip (n : Nat) (c : Cursor) : skip n c = .ok (⟨⟩, c.after n) := rfl
@[simp] lemma read_skip_bind (n : Nat) (f : Unit → Reader β) (c : Cursor) : (skip n >>= f) c = f ⟨⟩ (c.after n) := rfl
@[simp] lemma read_looking_bind (w : String) (f : Bool → Reader β) (c : Cursor) :
    (looking w >>= f) c = f (w.toList.isPrefixOf c.rest) c := rfl
@[simp] lemma read_check_ok (start : Cursor) (a : α) (c : Cursor) : check start (.ok a) c = .ok (a, c) := rfl
@[simp] lemma read_check_ok_bind (start : Cursor) (a : α) (f : α → Reader β) (c : Cursor) :
    (check start (.ok a) >>= f) c = f a c := rfl

lemma read_eat (w : String) (c : Cursor) :
    eat w c = .ok (w.toList.isPrefixOf c.rest, if w.toList.isPrefixOf c.rest then c.after w.length else c) := by
  simp only [eat, read_looking_bind]
  cases w.toList.isPrefixOf c.rest <;> rfl

lemma read_eat_bind_of_not (h : w.toList.isPrefixOf c.rest = false) (f : Bool → Reader β) :
    (eat w >>= f) c = f false c := by
  change (StateT.bind (eat w) f) c = _
  simp only [StateT.bind, read_eat, h]
  rfl

lemma gives_eat (here : c.rest = w.toList ++ r) : Gives (eat w c) fun a t => a = true ∧ t.rest = r := by
  simp [read_eat, here, ← String.length_toList]

lemma gives_skip {n : Nat} (here : c.rest = l ++ r) (length : l.length = n) :
    Gives (skip n c) fun _ t => t.rest = r := by
  simp [here, ← length]

lemma gives_skipWhile (p : Char → Bool) (c : Cursor) :
    Gives (skipWhile p c) fun _ t => t.rest = c.rest.dropWhile p := by
  simp only [skipWhile, read_rest_bind, read_skip, gives_ok, rest_after]
  have whole := @List.drop_left _ (c.rest.takeWhile p) (c.rest.dropWhile p)
  rwa [List.takeWhile_append_dropWhile] at whole

def Solid (l : List Char) : Prop :=
  ∀ d ∈ l.head?, d ≠ ' ' ∧ d ≠ '\t' ∧ d ≠ '#' ∧ d ≠ '\n' ∧ d ≠ '\r'

lemma Solid.isSpace (h : Solid r) : ∀ d ∈ r.head?, isSpace d = false := by
  intro d hd
  obtain ⟨noSpace, noTab, -⟩ := h d hd
  simp [Reader.isSpace, noSpace, noTab]

lemma solid_cons {d : Char} (h : d ≠ ' ' ∧ d ≠ '\t' ∧ d ≠ '#' ∧ d ≠ '\n' ∧ d ≠ '\r') : Solid (d :: l) := by
  rintro _ ⟨⟩
  exact h

lemma isPrefixOf_of_head? {d : Char} (first : w.toList.head? = some d) (h : ∀ e ∈ l.head?, e ≠ d) :
    w.toList.isPrefixOf l = false := by
  obtain ⟨more, eq⟩ : ∃ more, w.toList = d :: more := List.head?_eq_some_iff.1 first
  cases l with
  | nil => simp [eq]
  | cons e l =>
    have ne : d ≠ e := (h e rfl).symm
    simp [eq, List.isPrefixOf, ne]

lemma gives_space (here : c.rest = l ++ r) (blank : ∀ d ∈ l, isSpace d = true)
    (stop : ∀ d ∈ r.head?, isSpace d = false) : Gives (space c) fun _ t => t.rest = r := by
  refine (gives_skipWhile isSpace c).mono fun _ t rest => ?_
  rw [rest, here, List.dropWhile_append_of_pos blank]
  cases r with
  | nil => rfl
  | cons d r => simp [stop d rfl]

lemma gives_no_space (here : c.rest = r) (stop : ∀ d ∈ r.head?, isSpace d = false) :
    Gives (space c) fun _ t => t.rest = r :=
  gives_space (l := []) here (by simp) stop

lemma gives_no_newline (h : ∀ d ∈ c.rest.head?, d ≠ '\n' ∧ d ≠ '\r') :
    Gives (newline c) fun a t => a = false ∧ t = c := by
  have feed : "\n".toList.isPrefixOf c.rest = false := isPrefixOf_of_head? rfl fun d hd => (h d hd).1
  have both : "\r\n".toList.isPrefixOf c.rest = false := isPrefixOf_of_head? rfl fun d hd => (h d hd).2
  simp only [newline, read_eat_bind_of_not feed, read_eat, both, Bool.false_eq_true, if_false, gives_ok, and_self]

lemma gives_newline (here : c.rest = '\n' :: r) : Gives (newline c) fun a t => a = true ∧ t.rest = r := by
  refine (gives_eat (w := "\n") here).bind ?_
  rintro _ t ⟨rfl, rest⟩
  exact gives_ok.2 ⟨rfl, rest⟩

lemma gives_no_comment (h : ∀ d ∈ c.rest.head?, d ≠ '#') : Gives (comment c) fun _ t => t = c := by
  have none : "#".toList.isPrefixOf c.rest = false := isPrefixOf_of_head? rfl h
  simp [comment, read_eat_bind_of_not none]

lemma gives_lineEnd (what : Option String) (here : c.rest = '\n' :: r) :
    Gives (lineEnd what c) fun _ t => t.rest = r := by
  refine (gives_no_space here (by simp [isSpace])).bind fun _ t rest => ?_
  rw [read_looking_bind]
  refine (gives_no_comment (by simp [rest])).bind ?_
  rintro _ _ rfl
  refine (gives_newline rest).bind ?_
  rintro _ v ⟨rfl, rest⟩
  exact gives_ok.2 rest

lemma gives_gap (fuel : Nat) (here : c.rest = l ++ r) (blank : ∀ d ∈ l, isSpace d = true) (solid : Solid r) :
    Gives (gap (fuel + 1) c) fun _ t => t.rest = r := by
  refine (gives_space here blank solid.isSpace).bind fun _ t rest => ?_
  subst rest
  refine (gives_no_comment fun d hd => (solid d hd).2.2.1).bind ?_
  rintro _ _ rfl
  refine (gives_no_newline fun d hd => (solid d hd).2.2.2).bind ?_
  rintro _ _ ⟨rfl, rfl⟩
  exact gives_ok.2 rfl

lemma gives_gap_newline (fuel : Nat) (here : c.rest = '\n' :: (l ++ r)) (blank : ∀ d ∈ l, isSpace d = true)
    (solid : Solid r) : Gives (gap (fuel + 2) c) fun _ t => t.rest = r := by
  refine (gives_no_space here (by simp [isSpace])).bind fun _ t rest => ?_
  refine (gives_no_comment (by simp [rest])).bind ?_
  rintro _ _ rfl
  refine (gives_newline rest).bind ?_
  rintro _ v ⟨rfl, rest⟩
  exact gives_gap fuel rest blank solid

lemma gives_gaps (here : c.rest = r) (solid : Solid r) : Gives (gaps c) fun _ t => t.rest = r :=
  gives_gap (l := []) c.rest.length here (by simp) solid

lemma gives_gaps_newline (here : c.rest = '\n' :: (l ++ r)) (blank : ∀ d ∈ l, isSpace d = true) (solid : Solid r) :
    Gives (gaps c) fun _ t => t.rest = r := by
  simp only [gaps, read_rest_bind, here, List.length_cons]
  exact gives_gap_newline _ here blank solid

def IsBare (n : String) : Prop :=
  n.toList ≠ [] ∧ n.toList.all isBare = true

instance : DecidablePred IsBare :=
  fun _ => instDecidableAnd

lemma gives_simpleKey {n : String} (bare : IsBare n) (here : c.rest = n.toList ++ r)
    (stop : ∀ d ∈ r.head?, isBare d = false) : Gives (simpleKey c) fun k t => k.name = n ∧ t.rest = r := by
  obtain ⟨filled, chars⟩ := bare
  rw [List.all_eq_true] at chars
  have whole : c.rest.takeWhile isBare = n.toList := by
    rw [here]
    exact takeWhile_append chars stop
  have keeps : Gives (skip n.toList.length c) fun _ t => t.rest = r := gives_skip here rfl
  simp only [simpleKey, read_here_bind, read_rest_bind]
  generalize eq : c.rest = x at whole
  split
  · exact (filled (by simpa [isBare] using whole.symm)).elim
  · exact (filled (by simpa [isBare] using whole.symm)).elim
  · rw [whole, if_neg filled]
    exact keeps.bind fun _ t rest => by simpa [simpleKey.named] using rest

def dotted (n : String) : List String → List Char
  | [] => n.toList
  | m :: l => n.toList ++ '.' :: dotted m l

lemma length_dotted (n : String) (l : List String) : l.length ≤ (dotted n l).length := by
  induction l generalizing n with
  | nil => simp
  | cons m l ih =>
    have := ih m
    simp only [dotted, List.length_append, List.length_cons]
    omega

lemma isSpace_of_isBare {d : Char} (bare : isBare d = true) : isSpace d = false := by
  by_contra space
  have blank : d = ' ' ∨ d = '\t' := by simpa [isSpace, or_iff_not_imp_left] using space
  rcases blank with rfl | rfl
  · simp [isBare] at bare
  · simp [isBare] at bare

lemma IsBare.solid {n : String} (bare : IsBare n) : ∀ d ∈ (n.toList ++ r).head?, isSpace d = false := by
  obtain ⟨filled, chars⟩ := bare
  obtain ⟨e, more, eq⟩ := List.exists_cons_of_ne_nil filled
  rw [eq, List.all_cons, Bool.and_eq_true] at chars
  rw [eq]
  rintro d ⟨⟩
  exact isSpace_of_isBare chars.1

section Parts

variable {n : String} {d : Char} (blank : ∀ e ∈ l, isSpace e = true) (noSpace : isSpace d = false)
  (stop : isBare d = false)

include blank noSpace stop

lemma part_bind {f : Key → Reader β} {Q : β → Cursor → Prop} (bare : IsBare n)
    (here : c.rest = n.toList ++ (l ++ d :: r)) (next : ∀ k t, k.name = n → t.rest = d :: r → Gives (f k t) Q) :
    Gives ((do space; let k ← simpleKey; space; f k) c) Q := by
  refine (gives_no_space here bare.solid).bind fun _ t rest => ?_
  have ends : ∀ e ∈ (l ++ d :: r).head?, isBare e = false := by
    cases l with
    | nil => simpa using stop
    | cons e l =>
      rw [List.forall_mem_cons] at blank
      rintro _ ⟨⟩
      by_contra bare
      simp [isSpace_of_isBare (by simpa using bare)] at blank
  refine (gives_simpleKey bare rest ends).bind ?_
  rintro k u ⟨name, rest⟩
  exact (gives_space rest blank (by simpa using noSpace)).bind fun _ v rest => next k v name rest

lemma gives_dottedKey {names : List String} (bare : ∀ m ∈ n :: names, IsBare m) (noPoint : d ≠ '.') (acc : List Key)
    {fuel : Nat} (enough : names.length < fuel) (here : c.rest = dotted n names ++ (l ++ d :: r)) :
    Gives (dottedKey acc fuel c) fun ks t =>
      Toml.names ks = (Toml.names acc).reverse ++ n :: names ∧ t.rest = d :: r := by
  induction names generalizing n acc fuel c with
  | nil =>
    obtain ⟨fuel, rfl⟩ := Nat.exists_eq_add_one_of_ne_zero (Nat.ne_zero_of_lt enough)
    refine part_bind blank noSpace stop (bare n List.mem_cons_self) here fun k t name rest => ?_
    rw [read_eat_bind_of_not (isPrefixOf_of_head? (d := '.') rfl (by simpa [rest] using noPoint))]
    simp [Toml.names, name, rest]
  | cons m names ih =>
    obtain ⟨fuel, rfl⟩ := Nat.exists_eq_add_one_of_ne_zero (Nat.ne_zero_of_lt enough)
    rw [List.forall_mem_cons] at bare
    rw [dotted, List.append_assoc, List.cons_append] at here
    refine part_bind (l := []) (by simp) (by decide) (by decide) bare.1 here fun k t name rest => ?_
    refine (gives_eat (w := ".") rest).bind ?_
    rintro _ u ⟨rfl, rest⟩
    refine (ih bare.2 (k :: acc) (Nat.lt_of_succ_lt_succ enough) rest).mono fun ks v read => ?_
    simpa [Toml.names, name] using read

lemma gives_key {names : List String} (bare : ∀ m ∈ n :: names, IsBare m) (short : names.length + 1 < depthLimit)
    (noPoint : d ≠ '.') (here : c.rest = dotted n names ++ (l ++ d :: r)) :
    Gives (key c) fun ks t => Toml.names ks = n :: names ∧ t.rest = d :: r := by
  have enough : names.length < c.rest.length + 1 := by
    have := length_dotted n names
    rw [here, List.length_append]
    omega
  rw [key, read_get_bind, read_rest_bind]
  refine (gives_dottedKey blank noSpace stop bare noPoint [] enough here).bind ?_
  rintro ks t ⟨read, rest⟩
  have length : ks.length = names.length + 1 := by simpa [Toml.names] using congrArg List.length read
  rw [length, if_neg (by omega), read_check_ok]
  exact gives_ok.2 ⟨read, rest⟩

end Parts

end ItemPipeline.Toml
