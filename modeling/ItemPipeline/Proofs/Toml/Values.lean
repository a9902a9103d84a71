import ItemPipeline.Config.Writing
import ItemPipeline.Proofs.Digits
import ItemPipeline.Proofs.Toml.Strings

/-!
The values of settings: strings, words, flags, and rows of words. What is written of a value is read as the value.
-/

namespace ItemPipeline.Toml

open Reader

variable {c : Cursor} {d : Char} {ds l r : List Char} {n : Nat}

def Ends (d : Char) : Prop :=
  d = '\n' ∨ d = ',' ∨ d = ']'

instance : DecidablePred Ends :=
  fun _ => instDecidableOr

lemma Ends.ne {x : Char} (ends : Ends d) (other : ¬Ends x) : d ≠ x := by
  rintro rfl
  exact other ends

lemma ne_of_isDigit {x : Char} (digit : Text.isDigit d = true) (other : Text.isDigit x = false) : d ≠ x := by
  rintro rfl
  simp [other] at digit

lemma Ends.isDigit (ends : Ends d) : Text.isDigit d = false := by
  rcases ends with rfl | rfl | rfl <;> decide

section Digits

variable (digits : ∀ e ∈ ds, Text.isDigit e = true) (ends : Ends d)

include digits ends

lemma read_fieldBefore_bind {β : Type} {x : Char} {width : Nat} (noDigit : Text.isDigit x = false) (noEnd : ¬Ends x)
    (here : c.rest = ds ++ d :: r) (f : Bool → Reader β) : (fieldBefore width x >>= f) c = f false c := by
  have none : ((c.rest.take width).length = width && (c.rest.take width).all Text.isDigit && c.rest[width]? == some x) =
      false := by
    rw [← Bool.not_eq_true, Bool.and_eq_true, Bool.and_eq_true, beq_iff_eq]
    rintro ⟨⟨-, all⟩, mark⟩
    rw [here] at all mark
    rcases Nat.lt_trichotomy width ds.length with lt | rfl | gt
    · rw [List.getElem?_append_left lt] at mark
      simp [digits x (List.mem_of_getElem? mark)] at noDigit
    · rw [List.getElem?_append_right (le_refl _), Nat.sub_self] at mark
      exact ends.ne noEnd (by simpa using mark)
    · have mem : d ∈ (ds ++ d :: r).take width := by
        rw [List.take_append, List.mem_append]
        obtain ⟨k, eq⟩ := Nat.exists_eq_add_one_of_ne_zero (Nat.sub_ne_zero_of_lt gt)
        simp [eq]
      simpa [ends.isDigit] using List.all_eq_true.1 all d mem
  rw [← none]
  rfl

lemma grouped_append : grouped Text.isDigit (ds ++ d :: r) = (ds, d :: r, false) := by
  induction ds with
  | nil =>
    have ne : d ≠ '_' := ends.ne (by decide)
    simp [grouped, ends.isDigit, ne]
  | cons e ds ih =>
    rw [List.forall_mem_cons] at digits
    have ne : e ≠ '_' := ne_of_isDigit digits.1 (by decide)
    rw [List.cons_append, grouped, ih digits.2, if_pos digits.1]
    simp [ne]

lemma gives_digits (what : String) (filled : ds ≠ []) (here : c.rest = ds ++ d :: r) :
    Gives (Reader.digits what Text.isDigit c) fun a t => a = ds ∧ t.rest = d :: r := by
  obtain ⟨e, ds, rfl⟩ := List.exists_cons_of_ne_nil filled
  rw [List.forall_mem_cons] at digits
  have skips : Gives (skip (e :: ds).length c) fun _ t => t.rest = d :: r := gives_skip here rfl
  have all : c.rest.length - (d :: r).length = (e :: ds).length := by
    rw [here, List.length_append, Nat.add_sub_cancel]
  rw [Reader.digits, read_rest_bind]
  generalize eq : c.rest = x at all
  rw [here, List.cons_append] at eq
  subst eq
  simp only [digits.1, if_true, grouped_append digits.2 ends]
  have advances : Gives (advanceTo (d :: r) c) fun _ t => t.rest = d :: r := by
    rw [advanceTo, read_rest_bind, here, List.cons_append, all]
    exact skips
  exact advances.bind fun _ t rest => gives_ok.2 ⟨rfl, rest⟩

lemma not_isPrefixOf_mark {x y : Char} (noDigit : Text.isDigit y = false) (noEnd : ¬Ends y) (filled : ds ≠ []) :
    [x, y].isPrefixOf (ds ++ d :: r) = false := by
  obtain ⟨e, ds, rfl⟩ := List.exists_cons_of_ne_nil filled
  cases ds with
  | nil => simp [List.isPrefixOf, (ends.ne noEnd).symm]
  | cons f ds =>
    have ne : f ≠ y := ne_of_isDigit (digits f (by simp)) noDigit
    simp [List.isPrefixOf, ne.symm]

end Digits

lemma gives_wholeDigits (ends : Ends d) (here : c.rest = Nat.toDigits 10 n ++ d :: r) :
    Gives (wholeDigits c) fun a t => a = Nat.toDigits 10 n ∧ t.rest = d :: r := by
  have skips : Gives (digits "integer" Text.isDigit c) fun a t => a = Nat.toDigits 10 n ∧ t.rest = d :: r :=
    gives_digits (Text.isDigit_toDigits n) ends "integer" Nat.toDigits_ne_nil here
  rw [wholeDigits, read_rest_bind]
  generalize eq : c.rest = x
  split
  · rw [here] at eq
    have zero : n = 0 := by
      refine Text.head?_toDigits n ?_
      rw [← List.head?_append_of_ne_nil _ Nat.toDigits_ne_nil, eq]
      rfl
    subst zero
    exact (gives_skip (l := ['0']) here rfl).bind fun _ t rest => gives_ok.2 ⟨rfl, rest⟩
  · exact skips

lemma gives_unsigned (first : ∀ e ∈ c.rest.head?, e ≠ '-' ∧ e ≠ '+') : Gives (sign c) fun a t => a = [] ∧ t = c := by
  have minus : "-".toList.isPrefixOf c.rest = false := isPrefixOf_of_head? rfl fun e he => (first e he).1
  have plus : "+".toList.isPrefixOf c.rest = false := isPrefixOf_of_head? rfl fun e he => (first e he).2
  rw [sign, read_eat_bind_of_not minus, if_neg Bool.false_ne_true, read_eat_bind_of_not plus]
  exact gives_ok.2 ⟨rfl, rfl⟩

lemma gives_no_fraction (first : ∀ e ∈ c.rest.head?, e ≠ '.') : Gives (fraction c) fun a t => a = [] ∧ t = c := by
  rw [fraction, read_eat_bind_of_not (isPrefixOf_of_head? rfl first), if_neg Bool.false_ne_true]
  exact gives_ok.2 ⟨rfl, rfl⟩

lemma gives_no_exponent (first : ∀ e ∈ c.rest.head?, e ≠ 'e' ∧ e ≠ 'E') :
    Gives (exponent c) fun a t => a = [] ∧ t = c := by
  have small : "e".toList.isPrefixOf c.rest = false := isPrefixOf_of_head? rfl fun e he => (first e he).1
  have capital : "E".toList.isPrefixOf c.rest = false := isPrefixOf_of_head? rfl fun e he => (first e he).2
  rw [exponent, read_eat_bind_of_not small, read_eat_bind_of_not capital]
  exact gives_ok.2 ⟨rfl, rfl⟩

lemma fit_of_lt (fits : n < Nat.pow 2 63) : fit (n : Int) = .ok (n : Int) := by
  have natural : Nat.pow 2 63 = 9223372036854775808 := by decide
  have whole : Int.pow 2 63 = 9223372036854775808 := by decide
  rw [fit, if_pos]
  omega

lemma gives_decimal (ends : Ends d) (fits : n < Nat.pow 2 63) (here : c.rest = Nat.toDigits 10 n ++ d :: r) :
    Gives (decimal c) fun a t => a = .inl (n : Int) ∧ t.rest = d :: r := by
  have first {x : Char} (noDigit : Text.isDigit x = false) : ∀ e ∈ c.rest.head?, e ≠ x := by
    rw [here, List.head?_append_of_ne_nil _ Nat.toDigits_ne_nil]
    exact fun e he => ne_of_isDigit (Text.isDigit_toDigits n e (List.mem_of_mem_head? he)) noDigit
  rw [decimal, read_get_bind]
  refine (gives_unsigned fun e he => ⟨first (by decide) e he, first (by decide) e he⟩).bind ?_
  rintro _ _ ⟨rfl, rfl⟩
  rw [read_eat_bind_of_not (isPrefixOf_of_head? rfl (first (x := 'i') (by decide))), if_neg Bool.false_ne_true,
    read_eat_bind_of_not (isPrefixOf_of_head? rfl (first (x := 'n') (by decide))), if_neg Bool.false_ne_true]
  refine (gives_wholeDigits ends here).bind ?_
  rintro _ t ⟨rfl, rest⟩
  have behind {x : Char} (other : ¬Ends x) : ∀ e ∈ t.rest.head?, e ≠ x := by
    rw [rest]
    rintro e ⟨⟩
    exact ends.ne other
  refine (gives_no_fraction (behind (by decide))).bind ?_
  rintro _ _ ⟨rfl, rfl⟩
  refine (gives_no_exponent fun e he => ⟨behind (by decide) e he, behind (by decide) e he⟩).bind ?_
  rintro _ _ ⟨rfl, rfl⟩
  simp only [and_self, if_true, Text.digits?_toDigits, Option.getD_some, fit_of_lt fits, read_check_ok_bind, read_pure,
    gives_ok, true_and]
  exact rest

lemma gives_number (ends : Ends d) (fits : n < Nat.pow 2 63) (here : c.rest = Nat.toDigits 10 n ++ d :: r) :
    Gives (number c) fun v t => (∃ span, v = .integer span n) ∧ t.rest = d :: r := by
  have digits := Text.isDigit_toDigits n
  have noMark {x y : Char} (noDigit : Text.isDigit y = false) (noEnd : ¬Ends y) : [x, y].isPrefixOf c.rest = false := by
    rw [here]
    exact not_isPrefixOf_mark digits ends noDigit noEnd Nat.toDigits_ne_nil
  rw [number, read_here_bind, read_fieldBefore_bind digits ends (by decide) (by decide) here,
    read_fieldBefore_bind digits ends (by decide) (by decide) here, if_neg (by simp), read_looking_bind, if_neg,
    read_looking_bind, if_neg, read_looking_bind, if_neg]
  · refine (gives_decimal ends fits here).bind ?_
    rintro _ t ⟨rfl, rest⟩
    exact gives_ok.2 ⟨⟨_, rfl⟩, rest⟩
  · exact Bool.eq_false_iff.1 (noMark (x := '0') (y := 'b') (by decide) (by decide))
  · exact Bool.eq_false_iff.1 (noMark (x := '0') (y := 'o') (by decide) (by decide))
  · exact Bool.eq_false_iff.1 (noMark (x := '0') (y := 'x') (by decide) (by decide))

lemma head_quoted (text : String) : ∃ w, (quoted text).toList = '"' :: w ∨ (quoted text).toList = '\'' :: w := by
  have basic (several : Bool) (s : List Char) : ∃ w, (surround "\"" several s).toList = '"' :: w := by
    exact ⟨_, toList_surround _ _ _⟩
  have lines (several : Bool) (s : List Char) : ∃ w, (surround "\"\"\"" several s).toList = '"' :: w := by
    exact ⟨_, toList_surround _ _ _⟩
  rw [quoted]
  split_ifs
  · exact (basic _ _).imp fun _ => .inl
  · exact ⟨_, .inr (toList_surround _ _ _)⟩
  · exact (lines _ _).imp fun _ => .inl
  · exact ⟨_, .inr (toList_surround _ _ _)⟩
  · exact (lines _ _).imp fun _ => .inl
  · exact (basic _ _).imp fun _ => .inl

section Values

variable {depth fuel : Nat}

lemma value_text {text : String} (behind : ∀ d ∈ r.head?, d ≠ '"' ∧ d ≠ '\'')
    (here : c.rest = (quoted text).toList ++ r) :
    Gives (value depth (fuel + 1) c) fun v t => (∃ span, v = .text span text) ∧ t.rest = r := by
  have reads : Gives (strings c.location c) fun v t => (∃ span, v = .text span text) ∧ t.rest = r := by
    refine (gives_string behind here).bind ?_
    rintro _ t ⟨rfl, rest⟩
    exact gives_ok.2 ⟨⟨_, rfl⟩, rest⟩
  obtain ⟨w, eq | eq⟩ := head_quoted text
  all_goals
    rw [eq, List.cons_append] at here
    rw [value, read_here_bind, read_rest_bind, here]
    exact reads

lemma value_word (ends : Ends d) (fits : n < Nat.pow 2 63) (here : c.rest = Nat.toDigits 10 n ++ d :: r) :
    Gives (value depth (fuel + 1) c) fun v t => (∃ span, v = .integer span n) ∧ t.rest = d :: r := by
  have reads := gives_number ends fits here
  obtain ⟨e, ds, eq⟩ := List.exists_cons_of_ne_nil (Nat.toDigits_ne_nil (n := n) (b := 10))
  have digit : Text.isDigit e = true := Text.isDigit_toDigits n e (eq ▸ List.mem_cons_self)
  have other {x : Char} {l : List Char} (noDigit : Text.isDigit x = false) (same : c.rest = x :: l) : False := by
    rw [here, eq, List.cons_append] at same
    exact ne_of_isDigit digit noDigit (List.cons.inj same).1
  rw [value, read_here_bind, read_rest_bind]
  generalize first : c.rest = x
  split
  case h_9 =>
    rw [here, eq, List.cons_append] at first
    obtain ⟨rfl, -⟩ := List.cons.inj first
    rw [digit]
    exact reads
  case h_10 => simp [here, eq] at first
  all_goals exact (other (by decide) first).elim

lemma value_flag (b : Bool) (here : c.rest = (toString b).toList ++ r) :
    Gives (value depth (fuel + 1) c) fun v t => (∃ span, v = .boolean span b) ∧ t.rest = r := by
  have reads (w : String) (eq : c.rest = w.toList ++ r) :
      Gives (word w (fun span => .boolean span b) c) fun v t => (∃ span, v = .boolean span b) ∧ t.rest = r := by
    rw [word, read_here_bind]
    refine (gives_eat eq).bind ?_
    rintro _ t ⟨rfl, rest⟩
    exact gives_ok.2 ⟨⟨_, rfl⟩, rest⟩
  cases b with
  | true =>
    replace here : c.rest = 't' :: ('r' :: 'u' :: 'e' :: r) := here
    rw [value, read_here_bind, read_rest_bind, here]
    exact reads "true" here
  | false =>
    replace here : c.rest = 'f' :: ('a' :: 'l' :: 's' :: 'e' :: r) := here
    rw [value, read_here_bind, read_rest_bind, here]
    exact reads "false" here

def entry (n : UInt64) : List Char :=
  [' ', ' ', ' ', ' '] ++ (Nat.toDigits 10 n.toNat ++ [',', '\n'])

def remaining (r : List Char) : List UInt64 → List Char
  | [] => ']' :: r
  | n :: l => Nat.toDigits 10 n.toNat ++ ',' :: '\n' :: (l.flatMap entry ++ ']' :: r)

lemma solid_toDigits (n : Nat) (r : List Char) : Solid (Nat.toDigits 10 n ++ r) := by
  rw [Solid, List.head?_append_of_ne_nil _ Nat.toDigits_ne_nil]
  intro e he
  have digit := Text.isDigit_toDigits n e (List.mem_of_mem_head? he)
  exact ⟨ne_of_isDigit digit (by decide), ne_of_isDigit digit (by decide), ne_of_isDigit digit (by decide),
    ne_of_isDigit digit (by decide), ne_of_isDigit digit (by decide)⟩

lemma not_close (here : c.rest = Nat.toDigits 10 n ++ r) : "]".toList.isPrefixOf c.rest = false := by
  refine isPrefixOf_of_head? (d := ']') rfl ?_
  rw [here, List.head?_append_of_ne_nil _ Nat.toDigits_ne_nil]
  exact fun e he => ne_of_isDigit (Text.isDigit_toDigits _ e (List.mem_of_mem_head? he)) (by decide)

lemma gives_gaps_remaining {l : List UInt64} (here : c.rest = '\n' :: (l.flatMap entry ++ ']' :: r)) :
    Gives (gaps c) fun _ t => t.rest = remaining r l := by
  cases l with
  | nil => exact gives_gaps_newline (l := []) here (by simp) (by simp [Solid, remaining])
  | cons n l =>
    refine gives_gaps_newline (l := [' ', ' ', ' ', ' ']) ?_ (by simp [isSpace]) (solid_toDigits n.toNat _)
    rw [here]
    simp [entry, remaining]

def IsWord (n : UInt64) (v : Toml) : Prop :=
  ∃ span, v = .integer span n.toNat

lemma gives_arrayItems {l : List UInt64} (fits : ∀ n ∈ l, n.toNat < Nat.pow 2 63) (acc : List Toml)
    (enough : l.length < fuel) (here : c.rest = remaining r l) :
    Gives (arrayItems depth acc fuel c) fun vs t =>
      (∃ ws, vs = acc.reverse ++ ws ∧ List.Forall₂ IsWord l ws) ∧ t.rest = r := by
  induction l generalizing acc fuel c with
  | nil =>
    obtain ⟨fuel, rfl⟩ := Nat.exists_eq_add_one_of_ne_zero (Nat.ne_zero_of_lt enough)
    rw [arrayItems]
    refine (gives_eat (w := "]") here).bind ?_
    rintro _ t ⟨rfl, rest⟩
    exact gives_ok.2 ⟨⟨[], (List.append_nil _).symm, .nil⟩, rest⟩
  | cons n l ih =>
    rw [List.forall_mem_cons] at fits
    obtain ⟨fuel, rfl⟩ := Nat.exists_eq_add_one_of_ne_zero (Nat.ne_zero_of_lt enough)
    obtain ⟨more, rfl⟩ := Nat.exists_eq_add_one_of_ne_zero (Nat.ne_zero_of_lt (Nat.lt_of_succ_lt_succ enough))
    rw [arrayItems, read_eat_bind_of_not (not_close here), if_neg Bool.false_ne_true]
    refine (value_word (d := ',') (by decide) fits.1 here).bind fun v t read => ?_
    refine (gives_gaps read.2 (solid_cons (by decide))).bind fun _ t rest => (gives_eat (w := ",") rest).bind ?_
    rintro _ t ⟨rfl, rest⟩
    refine (gives_gaps_remaining rest).bind fun _ t rest => ?_
    refine (ih fits.2 (v :: acc) (Nat.lt_of_succ_lt_succ enough) rest).mono ?_
    rintro vs t ⟨⟨ws, rfl, words⟩, rest⟩
    exact ⟨⟨v :: ws, by simp, .cons read.1 words⟩, rest⟩

lemma length_le_flatMap_entry (l : List UInt64) : l.length ≤ (l.flatMap entry).length := by
  induction l with
  | nil => simp
  | cons n l ih =>
    simp only [List.flatMap_cons, List.length_append, List.length_cons, entry]
    omega

lemma toList_writeArray (n m : UInt64) (l : List UInt64) :
    (writeArray ((n :: m :: l).map fun n => toString n.toNat)).toList =
      '[' :: '\n' :: ((n :: m :: l).flatMap entry ++ [']']) := by
  have line (n : UInt64) : (String.join ["    ", toString n.toNat, ",\n"]).toList = entry n := by
    simp [String.join, entry]
  have lines : (((n :: m :: l).map fun n => toString n.toNat).map fun a => String.join ["    ", a, ",\n"]).flatMap
      String.toList = (n :: m :: l).flatMap entry := by
    simp only [List.map_map, List.flatMap_map, Function.comp_apply, line]
  have several : writeArray ((n :: m :: l).map fun n => toString n.toNat) = String.join (["[\n"] ++
      ((n :: m :: l).map fun n => toString n.toNat).map (fun a => String.join ["    ", a, ",\n"]) ++ ["]"]) := rfl
  rw [several, String.toList_join, List.flatMap_append, List.flatMap_append, lines]
  rfl

lemma value_array {l : List UInt64} (deep : depth ≠ 0) (inner : List Char) (here : c.rest = '[' :: inner)
    (items : ∀ t : Cursor, t.rest = inner → Gives (gaps t) fun _ u =>
      Gives (arrayItems (depth - 1) [] fuel u) fun vs v => List.Forall₂ IsWord l vs ∧ v.rest = r) :
    Gives (value depth (fuel + 1) c) fun v t =>
      (∃ span ws, v = .array span ws ∧ List.Forall₂ IsWord l ws) ∧ t.rest = r := by
  rw [value, read_here_bind, read_rest_bind, here]
  simp only [if_neg deep]
  refine (gives_skip (l := ['[']) here rfl).bind fun _ t rest => (items t rest).bind fun _ u read => ?_
  exact read.bind fun vs v done => gives_ok.2 ⟨⟨_, vs, rfl, done.1⟩, done.2⟩

lemma value_words {l : List UInt64} (deep : depth ≠ 0) (fits : ∀ n ∈ l, n.toNat < Nat.pow 2 63)
    (enough : l.length < fuel) (here : c.rest = (writeArray (l.map fun n => toString n.toNat)).toList ++ r) :
    Gives (value depth (fuel + 1) c) fun v t =>
      (∃ span ws, v = .array span ws ∧ List.Forall₂ IsWord l ws) ∧ t.rest = r := by
  obtain ⟨fuel, rfl⟩ := Nat.exists_eq_add_one_of_ne_zero (Nat.ne_zero_of_lt enough)
  match l with
  | [] =>
    refine value_array deep (remaining r []) here fun t rest => ?_
    refine (gives_gaps rest (by simp [Solid, remaining])).mono fun _ u rest => ?_
    refine (gives_arrayItems fits [] enough rest).mono ?_
    rintro _ v ⟨⟨ws, rfl, words⟩, rest⟩
    exact ⟨words, rest⟩
  | [n] =>
    have text : c.rest = '[' :: (Nat.toDigits 10 n.toNat ++ ']' :: r) := by
      rw [here]
      simp [writeArray, String.join]
    obtain ⟨more, rfl⟩ := Nat.exists_eq_add_one_of_ne_zero (Nat.ne_zero_of_lt (Nat.lt_of_succ_lt_succ enough))
    refine value_array deep _ text fun t rest => ?_
    refine (gives_gaps rest (solid_toDigits _ _)).mono fun _ u rest => ?_
    rw [arrayItems, read_eat_bind_of_not (not_close rest), if_neg Bool.false_ne_true]
    refine (value_word (d := ']') (by decide) (fits n List.mem_cons_self) rest).bind fun v t read => ?_
    refine (gives_gaps read.2 (solid_cons (by decide))).bind fun _ t rest => ?_
    rw [read_eat_bind_of_not (isPrefixOf_of_head? (d := ',') rfl (by simp [rest])), if_neg Bool.false_ne_true]
    refine (gives_eat (w := "]") rest).bind ?_
    rintro _ t ⟨rfl, rest⟩
    exact gives_ok.2 ⟨.cons read.1 .nil, rest⟩
  | n :: m :: l =>
    rw [toList_writeArray] at here
    refine value_array deep ('\n' :: ((n :: m :: l).flatMap entry ++ ']' :: r)) (by simpa using here)
      fun t rest => ?_
    refine (gives_gaps_remaining rest).mono fun _ u rest => ?_
    refine (gives_arrayItems fits [] enough rest).mono ?_
    rintro _ v ⟨⟨ws, rfl, words⟩, rest⟩
    exact ⟨words, rest⟩

lemma length_le_writeArray (l : List UInt64) :
    l.length ≤ (writeArray (l.map fun n => toString n.toNat)).toList.length := by
  match l with
  | [] => exact Nat.zero_le _
  | [n] => simp [writeArray, String.join]
  | n :: m :: l =>
    have := length_le_flatMap_entry (n :: m :: l)
    rw [toList_writeArray]
    simp only [List.length_cons, List.length_append] at this ⊢
    omega

end Values

inductive Setting
  | text (s : String)
  | word (n : UInt64)
  | flag (b : Bool)
  | words (l : List UInt64)

namespace Setting

def write : Setting → String
  | text s => quoted s
  | word n => toString n.toNat
  | flag b => toString b
  | words l => writeArray (l.map fun n => toString n.toNat)

def Fits : Setting → Prop
  | text _ => True
  | word n => n.toNat < Nat.pow 2 63
  | flag _ => True
  | words l => ∀ n ∈ l, n.toNat < Nat.pow 2 63

def Is (v : Toml) : Setting → Prop
  | text s => ∃ span, v = .text span s
  | word n => IsWord n v
  | flag b => ∃ span, v = .boolean span b
  | words l => ∃ span ws, v = .array span ws ∧ List.Forall₂ IsWord l ws

variable {s : Setting}

lemma solid_write (s : Setting) (r : List Char) : Solid (s.write.toList ++ r) := by
  cases s with
  | text s =>
    obtain ⟨w, eq | eq⟩ := head_quoted s <;> simp [write, eq, Solid]
  | word n => simpa [write] using solid_toDigits n.toNat r
  | flag b =>
    cases b with
    | true => exact solid_cons (d := 't') (by decide)
    | false => exact solid_cons (d := 'f') (by decide)
  | words l =>
    match l with
    | [] => exact solid_cons (d := '[') (by decide)
    | [n] => simp [write, writeArray, Solid, String.join]
    | n :: m :: l =>
      rw [write, toList_writeArray]
      exact solid_cons (d := '[') (by decide)

lemma gives_value (fits : s.Fits) {depth fuel : Nat} (deep : depth ≠ 0) (enough : s.write.toList.length < fuel)
    (here : c.rest = s.write.toList ++ '\n' :: r) :
    Gives (value depth (fuel + 1) c) fun v t => s.Is v ∧ t.rest = '\n' :: r := by
  cases s with
  | text s => exact value_text (by simp) here
  | word n => exact value_word (.inl rfl) fits (by simpa [write] using here)
  | flag b => exact value_flag b here
  | words l => exact value_words deep fits ((length_le_writeArray l).trans_lt enough) here

lemma gives_memberValue (fits : s.Fits) (here : c.rest = ' ' :: (s.write.toList ++ '\n' :: r)) :
    Gives (memberValue c) fun v t => s.Is v ∧ t.rest = r := by
  have first : Gives (space c) fun _ t => t.rest = s.write.toList ++ '\n' :: r :=
    gives_space (l := [' ']) here (by simp [isSpace]) (solid_write s _).isSpace
  refine first.bind fun _ t rest => ?_
  have enough : s.write.toList.length < t.rest.length + (4 * depthLimit - 1) := by
    rw [rest, List.length_append, depthLimit]
    omega
  rw [read_rest_bind]
  refine (gives_value fits (show depthLimit.pred ≠ 0 by decide) enough rest).bind fun v u read => ?_
  refine (gives_lineEnd none read.2).bind fun _ x rest => ?_
  exact gives_ok.2 ⟨read.1, rest⟩

end Setting

end ItemPipeline.Toml
