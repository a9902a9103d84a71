import ItemPipeline.Proofs.Toml.Reading
import ItemPipeline.Toml.Quoted
import Mathlib.Data.List.TakeWhile

/-!
A string is read as what it was written from, in each of the forms that it may be written in.
-/

namespace ItemPipeline.Toml

open Reader

variable {c : Cursor} {d q : Char} {acc e r s w : List Char} {fuel : Nat} {Q : String → Cursor → Prop}

def IsEscape (d : Char) (e : List Char) : Prop :=
  (∃ x more, e = x :: more ∧ isSpace x = false ∧ x ≠ '\n' ∧ x ≠ '\r') ∧
    ∀ (c : Cursor) (r : List Char), c.rest = e ++ r → Gives (escape c) fun a t => a = d ∧ t.rest = r

lemma isEscape_letter {x : Char} (mem : (x, d) ∈ escapes) : IsEscape d [x] := by
  have letters : (x ≠ 'u' ∧ x ≠ 'U') ∧ escapes.find? (fun e => decide (e.1 = x)) = some (x, d) ∧
      isSpace x = false ∧ x ≠ '\n' ∧ x ≠ '\r' := by
    simp only [escapes, List.mem_cons, Prod.mk.injEq, List.not_mem_nil, or_false] at mem
    rcases mem with ⟨rfl, rfl⟩ | ⟨rfl, rfl⟩ | ⟨rfl, rfl⟩ | ⟨rfl, rfl⟩ | ⟨rfl, rfl⟩ | ⟨rfl, rfl⟩ | ⟨rfl, rfl⟩
    all_goals decide +kernel
  obtain ⟨⟨noU, noLong⟩, found, visible⟩ := letters
  refine ⟨⟨x, [], rfl, visible⟩, fun c r here => ?_⟩
  have skips : Gives (skip 1 c) fun _ t => t.rest = r := gives_skip here rfl
  rw [escape, read_rest_bind, here]
  simp only [List.cons_append, List.nil_append, found]
  exact skips.bind fun _ t rest => gives_ok.2 ⟨rfl, rest⟩

lemma gives_hexCharacter {l : List Char} {ds : List Nat} (digits : l.mapM (Text.digit? 16) = some ds)
    (length : ds.length = l.length) (value : ds.foldl (fun a d => a * 16 + d) 0 = d.toNat) (here : c.rest = l ++ r) :
    Gives (hexCharacter l.length c) fun a t => a = d ∧ t.rest = r := by
  have valid : d.toNat < 0xD800 ∨ (0xDFFF < d.toNat ∧ d.toNat < 0x110000) := d.valid
  have skips : Gives (skip l.length c) fun _ t => t.rest = r := gives_skip here rfl
  rw [hexCharacter, read_get_bind, read_rest_bind, here, List.take_left' rfl]
  simp only [digits, length, lt_irrefl, if_false, value, if_pos valid]
  exact skips.bind fun _ t rest => gives_ok.2 ⟨Char.ofNat_toNat d, rest⟩

lemma escapeHex_ofNat : ∀ n < 128, (escapeHex (Char.ofNat n)).take 2 = ['\\', 'u'] ∧
    ((escapeHex (Char.ofNat n)).drop 2).length = 4 ∧
    ((((escapeHex (Char.ofNat n)).drop 2).mapM (Text.digit? 16)).map fun ds =>
      (ds.length, ds.foldl (fun a d => a * 16 + d) 0)) = some (4, n) := by
  decide +kernel

lemma isEscape_hex (low : d.toNat < 128) : ∃ e, escapeHex d = '\\' :: e ∧ IsEscape d e := by
  obtain ⟨start, length, read⟩ := escapeHex_ofNat d.toNat low
  rw [Char.ofNat_toNat] at start length read
  have eq := List.take_append_drop 2 (escapeHex d)
  rw [start] at eq
  generalize (escapeHex d).drop 2 = x at eq length read
  obtain ⟨ds, digits, same⟩ := Option.map_eq_some_iff.1 read
  obtain ⟨count, value⟩ := Prod.mk.inj same
  refine ⟨'u' :: x, eq.symm, ⟨'u', x, rfl, by decide, by decide, by decide⟩, fun c r here => ?_⟩
  rw [escape, read_rest_bind, here, List.cons_append]
  refine (gives_skip (l := ['u']) (r := x ++ r) here rfl).bind fun _ t rest => ?_
  rw [← length]
  exact gives_hexCharacter digits (count.trans length.symm) value rest

lemma escapeChar_cases (d : Char) : (escapeChar d = [d] ∧ isPlain d = true ∧ d ≠ '\\') ∨
    ∃ e, escapeChar d = '\\' :: e ∧ IsEscape d e := by
  have letter {x : Char} (mem : (x, d) ∈ escapes) (eq : escapeChar d = ['\\', x]) :
      ∃ e, escapeChar d = '\\' :: e ∧ IsEscape d e :=
    ⟨[x], eq, isEscape_letter mem⟩
  by_cases named : d ∈ ['\x08', '\t', '\n', '\x0c', '\r', '\\']
  · simp only [List.mem_cons, List.not_mem_nil, or_false] at named
    right
    rcases named with rfl | rfl | rfl | rfl | rfl | rfl <;> exact letter (by decide) rfl
  · simp only [List.mem_cons, List.not_mem_nil, or_false, not_or] at named
    have eq : escapeChar d = if d.toNat ≤ 0x1F ∨ d.toNat = 0x7F then escapeHex d else [d] := by
      rw [escapeChar.eq_def]
      split <;> simp_all
    rw [eq]
    split_ifs with control
    · exact .inr (isEscape_hex (by omega))
    · refine .inl ⟨rfl, ?_, named.2.2.2.2.2⟩
      simp only [isPlain, Bool.or_eq_true, Bool.and_eq_true, decide_eq_true_eq]
      omega

lemma basicString_end (here : c.rest = '"' :: r) :
    Gives (basicString acc (fuel + 1) c) fun a t => a = String.ofList acc.reverse ∧ t.rest = r := by
  rw [basicString, read_rest_bind, here]
  exact (gives_skip (l := ['"']) here rfl).bind fun _ t rest => gives_ok.2 ⟨rfl, rest⟩

lemma basicString_escape (escaped : IsEscape d e) (here : c.rest = '\\' :: (e ++ r))
    (next : ∀ t : Cursor, t.rest = r → Gives (basicString (d :: acc) fuel t) Q) :
    Gives (basicString acc (fuel + 1) c) Q := by
  rw [basicString, read_rest_bind, here]
  refine (gives_skip (l := ['\\']) here rfl).bind fun _ t rest => (escaped.2 t r rest).bind ?_
  rintro _ u ⟨rfl, rest⟩
  exact next u rest

lemma basicString_char (plain : isPlain d = true) (noQuote : d ≠ '"') (noEscape : d ≠ '\\') (here : c.rest = d :: r)
    (next : ∀ t : Cursor, t.rest = r → Gives (basicString (d :: acc) fuel t) Q) :
    Gives (basicString acc (fuel + 1) c) Q := by
  have skips : Gives (skip 1 c) fun _ t => t.rest = r := gives_skip (l := [d]) here rfl
  rw [basicString, read_rest_bind, here]
  simp only [plain, if_true]
  exact skips.bind fun _ t rest => next t rest

lemma gives_basicString (run : Nat) (here : c.rest = escapeBasic false 0 run s ++ '"' :: r) (enough : s.length < fuel) :
    Gives (basicString acc fuel c) fun a t => a = String.ofList (acc.reverse ++ s) ∧ t.rest = r := by
  induction s generalizing run acc fuel c with
  | nil =>
    obtain ⟨fuel, rfl⟩ := Nat.exists_eq_add_one_of_ne_zero (Nat.ne_zero_of_lt enough)
    have reads : Gives (basicString acc (fuel + 1) c) _ := basicString_end here
    simpa using reads
  | cons d s ih =>
    obtain ⟨fuel, rfl⟩ := Nat.exists_eq_add_one_of_ne_zero (Nat.ne_zero_of_lt enough)
    have next (t : Cursor) (rest : t.rest = escapeBasic false 0 0 s ++ '"' :: r) :
        Gives (basicString (d :: acc) fuel t) fun a t => a = String.ofList (acc.reverse ++ d :: s) ∧ t.rest = r := by
      have reads : Gives (basicString (d :: acc) fuel t) _ := ih 0 rest (Nat.lt_of_succ_lt_succ enough)
      simpa using reads
    by_cases quote : d = '"'
    · subst quote
      exact basicString_escape (isEscape_letter (x := '"') (by decide)) (by simpa [escapeBasic] using here) next
    · rw [escapeBasic, if_neg quote, if_neg (by simp)] at here
      rcases escapeChar_cases d with ⟨eq, plain, noEscape⟩ | ⟨e, eq, escaped⟩
      · exact basicString_char plain quote noEscape (by simpa [eq] using here) next
      · exact basicString_escape escaped (by simpa [eq] using here) next

lemma gives_literalString (plain : ∀ d ∈ s, isPlain d = true) (noQuote : '\'' ∉ s) (here : c.rest = s ++ '\'' :: r) :
    Gives (literalString c) fun a t => a = String.ofList s ∧ t.rest = r := by
  have whole : c.rest.takeWhile (fun d => isPlain d && d != '\'') = s := by
    rw [here]
    refine takeWhile_append (fun d hd => ?_) (by simp)
    have ne : d ≠ '\'' := fun same => noQuote (same ▸ hd)
    simp [plain d hd, ne]
  rw [literalString, read_rest_bind]
  simp only [whole]
  refine (gives_skip here rfl).bind fun _ t rest => (gives_eat (w := "'") rest).bind ?_
  rintro _ u ⟨rfl, rest⟩
  exact gives_ok.2 ⟨rfl, rest⟩

def Breaks (q : Char) (w : List Char) : Prop :=
  ∀ r, ((w ++ r).takeWhile (· = q)).length ≤ 2

inductive Lined (q : Char) (escaped : Bool) : List Char → List Char → Prop
  | close {j : Nat} (few : j ≤ 2) : Lined q escaped (List.replicate j q) (List.replicate j q)
  | newline {s w : List Char} (rest : Lined q escaped s w) : Lined q escaped ('\n' :: s) ('\n' :: w)
  | char {d : Char} {s w : List Char} (breaks : Breaks q (d :: w)) (plain : isPlain d = true)
      (raw : escaped = true → d ≠ '\\') (rest : Lined q escaped s w) : Lined q escaped (d :: s) (d :: w)
  | escape {d : Char} {e s w : List Char} (escapes : escaped = true) (isEscape : IsEscape d e)
      (rest : Lined q escaped s w) : Lined q escaped (d :: s) ('\\' :: (e ++ w))

lemma breaks_cons (ne : d ≠ q) : Breaks q (d :: w) := by
  intro r
  simp [ne]

section Lines

variable {what : String} {escaped : Bool}

lemma linesString_end {j : Nat} (few : j ≤ 2) (stop : ∀ d ∈ r.head?, d ≠ q)
    (here : c.rest = List.replicate (j + 3) q ++ r) :
    Gives (linesString what q escaped acc (fuel + 1) c) fun a t =>
      a = String.ofList (acc.reverse ++ List.replicate j q) ∧ t.rest = r := by
  have quotes : (c.rest.takeWhile (· = q)).length = j + 3 := by
    rw [here, takeWhile_append (by simp) (by simpa using stop), List.length_replicate]
  have five : j + 3 ≤ 5 := by omega
  simp only [linesString, read_rest_bind, quotes, ge_iff_le, Nat.le_add_left, if_true, min_eq_left five,
    Nat.add_sub_cancel]
  exact (gives_skip here (by simp)).bind fun _ t rest => gives_ok.2 ⟨rfl, rest⟩

section Steps

variable (few : (c.rest.takeWhile (· = q)).length ≤ 2)

include few

lemma linesString_newline (here : c.rest = '\n' :: r)
    (next : ∀ t : Cursor, t.rest = r → Gives (linesString what q escaped ('\n' :: acc) fuel t) Q) :
    Gives (linesString what q escaped acc (fuel + 1) c) Q := by
  simp only [linesString, read_rest_bind, ge_iff_le, if_neg (Nat.not_le.2 (Nat.lt_succ_of_le few))]
  refine (gives_newline here).bind ?_
  rintro _ t ⟨rfl, rest⟩
  exact next t rest

lemma linesString_char (plain : isPlain d = true) (raw : escaped = true → d ≠ '\\') (here : c.rest = d :: r)
    (next : ∀ t : Cursor, t.rest = r → Gives (linesString what q escaped (d :: acc) fuel t) Q) :
    Gives (linesString what q escaped acc (fuel + 1) c) Q := by
  have noEnd : d ≠ '\n' ∧ d ≠ '\r' := by
    constructor <;> rintro rfl <;> simp [isPlain] at plain
  have skips : Gives (skip 1 c) fun _ t => t.rest = r := gives_skip (l := [d]) here rfl
  simp only [linesString, read_rest_bind, ge_iff_le, if_neg (Nat.not_le.2 (Nat.lt_succ_of_le few))]
  have noEscape : ¬(escaped = true ∧ d = '\\') := fun both => raw both.1 both.2
  refine (gives_no_newline (by simpa [here] using noEnd)).bind ?_
  rintro _ _ ⟨rfl, rfl⟩
  simp only [here, if_neg noEscape, plain, if_true, Bool.false_eq_true, if_false]
  exact skips.bind fun _ t rest => next t rest

lemma linesString_escape (escapes : escaped = true) (isEscape : IsEscape d e) (here : c.rest = '\\' :: (e ++ r))
    (next : ∀ t : Cursor, t.rest = r → Gives (linesString what q escaped (d :: acc) fuel t) Q) :
    Gives (linesString what q escaped acc (fuel + 1) c) Q := by
  obtain ⟨⟨x, more, rfl, noSpace, noFeed, noReturn⟩, read⟩ := isEscape
  subst escapes
  simp only [linesString, read_rest_bind, ge_iff_le, if_neg (Nat.not_le.2 (Nat.lt_succ_of_le few))]
  refine (gives_no_newline (by simp [here])).bind ?_
  rintro _ _ ⟨rfl, rfl⟩
  simp only [here, and_self, if_true, Bool.false_eq_true, if_false]
  refine (gives_skip (l := ['\\']) here rfl).bind fun _ t rest => ?_
  have goesOn : Gives (lineContinues t) fun a u => a = false ∧ u = t := by
    rw [lineContinues, read_get_bind]
    refine (gives_no_space rest (by simpa using noSpace)).bind fun _ u here => ?_
    refine (gives_no_newline (by simpa [here] using ⟨noFeed, noReturn⟩)).bind ?_
    rintro _ _ ⟨rfl, rfl⟩
    exact gives_ok.2 ⟨rfl, rfl⟩
  refine goesOn.bind ?_
  rintro _ u ⟨rfl, rfl⟩
  refine (read u r rest).bind ?_
  rintro _ v ⟨rfl, rest⟩
  exact next v rest

end Steps

lemma Lined.gives (lined : Lined q escaped s w) (noEscape : q ≠ '\\') (noNewline : q ≠ '\n')
    (stop : ∀ d ∈ r.head?, d ≠ q) (enough : s.length < fuel) (here : c.rest = w ++ (List.replicate 3 q ++ r)) :
    Gives (linesString what q escaped acc fuel c) fun a t => a = String.ofList (acc.reverse ++ s) ∧ t.rest = r := by
  induction lined generalizing acc fuel c with
  | close few =>
    obtain ⟨fuel, rfl⟩ := Nat.exists_eq_add_one_of_ne_zero (Nat.ne_zero_of_lt enough)
    rw [← List.append_assoc, List.replicate_append_replicate] at here
    exact linesString_end few stop here
  | newline _ ih =>
    obtain ⟨fuel, rfl⟩ := Nat.exists_eq_add_one_of_ne_zero (Nat.ne_zero_of_lt enough)
    have few : (c.rest.takeWhile (· = q)).length ≤ 2 := here ▸ breaks_cons noNewline.symm _
    refine linesString_newline few here fun t rest => ?_
    have reads : Gives (linesString what q escaped ('\n' :: acc) fuel t) _ := ih (Nat.lt_of_succ_lt_succ enough) rest
    simpa using reads
  | @char d _ _ breaks plain raw _ ih =>
    obtain ⟨fuel, rfl⟩ := Nat.exists_eq_add_one_of_ne_zero (Nat.ne_zero_of_lt enough)
    have few : (c.rest.takeWhile (· = q)).length ≤ 2 := here ▸ breaks _
    refine linesString_char few plain raw here fun t rest => ?_
    have reads : Gives (linesString what q escaped (d :: acc) fuel t) _ := ih (Nat.lt_of_succ_lt_succ enough) rest
    simpa using reads
  | @escape d _ _ _ escapes isEscape _ ih =>
    obtain ⟨fuel, rfl⟩ := Nat.exists_eq_add_one_of_ne_zero (Nat.ne_zero_of_lt enough)
    have few : (c.rest.takeWhile (· = q)).length ≤ 2 := here ▸ breaks_cons noEscape.symm _
    rw [List.cons_append, List.append_assoc] at here
    refine linesString_escape few escapes isEscape here fun t rest => ?_
    have reads : Gives (linesString what q escaped (d :: acc) fuel t) _ := ih (Nat.lt_of_succ_lt_succ enough) rest
    simpa using reads

end Lines

lemma escapeBasic_quotes (run : Nat) (few : run ≤ 2) (s : List Char) :
    (∃ j, j + run ≤ 2 ∧ s = List.replicate j '"' ∧ escapeBasic true 2 run s = s) ∨
      ∀ r, ((escapeBasic true 2 run s ++ r).takeWhile (· = '"')).length + run ≤ 2 := by
  induction s generalizing run with
  | nil => exact .inl ⟨0, by omega, rfl, rfl⟩
  | cons d s ih =>
    have stops {x : Char} {l : List Char} (ne : x ≠ '"') (r : List Char) :
        ((x :: l ++ r).takeWhile (· = '"')).length + run ≤ 2 := by
      simpa [ne] using few
    rw [escapeBasic]
    split_ifs with quote more line
    · subst quote
      rcases ih (run + 1) more with ⟨j, le, eq, same⟩ | breaks
      · exact .inl ⟨j + 1, by omega, by rw [eq]; rfl, by rw [same]⟩
      · refine .inr fun r => ?_
        have := breaks r
        simp only [List.cons_append, List.takeWhile_cons, decide_true, if_true, List.length_cons]
        omega
    · exact .inr (stops (by decide))
    · exact .inr (stops (by rw [line.2]; decide))
    · rcases escapeChar_cases d with ⟨eq, -, -⟩ | ⟨e, eq, -⟩
      · exact .inr (by rw [eq]; exact stops quote)
      · exact .inr (by rw [eq]; exact stops (by decide))

lemma lined_escapeBasic (run : Nat) (few : run ≤ 2) (s : List Char) : Lined '"' true s (escapeBasic true 2 run s) := by
  induction s generalizing run with
  | nil => exact .close (j := 0) (by omega)
  | cons d s ih =>
    rcases escapeBasic_quotes run few (d :: s) with ⟨j, le, eq, same⟩ | breaks
    · rw [same, eq]
      exact .close (by omega)
    · replace breaks : Breaks '"' (escapeBasic true 2 run (d :: s)) := fun r => by
        have := breaks r
        omega
      rw [escapeBasic] at breaks ⊢
      split_ifs at breaks ⊢ with quote more line
      · subst quote
        exact .char breaks (by decide) (by decide) (ih (run + 1) more)
      · subst quote
        exact .escape (e := ['"']) rfl (isEscape_letter (by decide)) (ih 0 (by omega))
      · rw [line.2]
        exact .newline (ih 0 (by omega))
      · rcases escapeChar_cases d with ⟨eq, plain, raw⟩ | ⟨e, eq, isEscape⟩
        · rw [eq] at breaks ⊢
          exact .char breaks plain (fun _ => raw) (ih 0 (by omega))
        · rw [eq]
          exact .escape rfl isEscape (ih 0 (by omega))

def longestAfter (q : Char) (best now : Nat) : List Char → Nat
  | [] => best
  | d :: s =>
    let now := if d = q then now + 1 else 0
    longestAfter q (max best now) now s

lemma longestRun_eq (q : Char) (s : List Char) : longestRun q s = longestAfter q 0 0 s := by
  have go (best now : Nat) : (s.foldl (fun (p : Nat × Nat) d =>
      let now := if d = q then p.2 + 1 else 0
      (max p.1 now, now)) (best, now)).1 = longestAfter q best now s := by
    induction s generalizing best now with
    | nil => rfl
    | cons d s ih => exact ih _ _
  exact go 0 0

lemma longestAfter_mono {b b' n n' : Nat} (best : b ≤ b') (now : n ≤ n') (s : List Char) :
    longestAfter q b n s ≤ longestAfter q b' n' s := by
  induction s generalizing b b' n n' with
  | nil => exact best
  | cons d s ih =>
    apply ih <;> split_ifs <;> omega

lemma le_longestAfter {b n : Nat} (le : n ≤ b) (s : List Char) :
    n + (s.takeWhile (· = q)).length ≤ longestAfter q b n s ∧ b ≤ longestAfter q b n s := by
  induction s generalizing b n with
  | nil => simpa [longestAfter] using le
  | cons d s ih =>
    rw [longestAfter]
    by_cases same : d = q
    · have := ih (b := max b (n + 1)) (n := n + 1) (by omega)
      simp only [same, if_true, List.takeWhile_cons, decide_true, List.length_cons]
      omega
    · have := ih (b := max b 0) (n := 0) (by omega)
      simp only [same, if_false, List.takeWhile_cons, decide_false, Bool.false_eq_true, List.length_nil]
      omega

lemma length_takeWhile_le_longestRun (q : Char) (s : List Char) : (s.takeWhile (· = q)).length ≤ longestRun q s := by
  have := (le_longestAfter (q := q) (le_refl 0) s).1
  rw [longestRun_eq]
  omega

lemma longestRun_le_cons (q d : Char) (s : List Char) : longestRun q s ≤ longestRun q (d :: s) := by
  rw [longestRun_eq, longestRun_eq]
  exact longestAfter_mono (Nat.zero_le _) (Nat.zero_le _) s

lemma not_mem_of_longestRun (none : longestRun q s = 0) : q ∉ s := by
  induction s with
  | nil => simp
  | cons d s ih =>
    have first := length_takeWhile_le_longestRun q (d :: s)
    have rest := longestRun_le_cons q d s
    rw [none] at first rest
    rw [List.mem_cons, not_or]
    exact ⟨fun same => by simp [same] at first, ih (Nat.le_zero.1 rest)⟩

lemma lined_self (plain : ∀ d ∈ s, d = '\n' ∨ isPlain d = true) (few : longestRun q s ≤ 2) : Lined q false s s := by
  induction s with
  | nil => exact .close (j := 0) (by omega)
  | cons d s ih =>
    rw [List.forall_mem_cons] at plain
    have rest := ih plain.2 ((longestRun_le_cons q d s).trans few)
    have first := (length_takeWhile_le_longestRun q (d :: s)).trans few
    by_cases all : ((d :: s).takeWhile (· = q)).length = (d :: s).length
    · have same : (d :: s).takeWhile (· = q) = d :: s := (List.takeWhile_prefix _).eq_of_length all
      have eq : d :: s = List.replicate (d :: s).length q :=
        List.eq_replicate_iff.2 ⟨rfl, by simpa using List.takeWhile_eq_self_iff.1 same⟩
      rw [eq]
      exact .close (all ▸ first)
    · rcases plain.1 with rfl | plain
      · exact .newline rest
      · refine .char (fun r => ?_) plain (by simp) rest
        rw [List.takeWhile_append, if_neg all]
        exact first

lemma toList_surround (mark : String) (several : Bool) (s : List Char) :
    (surround mark several s).toList = mark.toList ++ ((if several then ['\n'] else []) ++ (s ++ mark.toList)) := by
  cases several <;> simp [surround, String.join]

lemma gives_skipped {several : Bool} (here : c.rest = (if several then ['\n'] else []) ++ r)
    (visible : several = false → ∀ d ∈ r.head?, d ≠ '\n' ∧ d ≠ '\r') : Gives (newline c) fun _ t => t.rest = r := by
  cases several with
  | true => exact (gives_newline here).mono fun _ t read => read.2
  | false =>
    refine (gives_no_newline (here ▸ visible rfl)).mono ?_
    rintro _ _ ⟨-, rfl⟩
    exact here

lemma length_le_escapeBasic (several : Bool) (allowed run : Nat) (s : List Char) :
    s.length ≤ (escapeBasic several allowed run s).length := by
  induction s generalizing run with
  | nil => exact Nat.zero_le _
  | cons d s ih =>
    have some : 1 ≤ (escapeChar d).length := by
      rcases escapeChar_cases d with ⟨eq, -⟩ | ⟨e, eq, -⟩ <;> simp [eq]
    have at0 := ih 0
    have next := ih (run + 1)
    rw [escapeBasic]
    split_ifs <;> simp only [List.length_cons, List.length_append] <;> omega

lemma escapeBasic_head {several : Bool} {allowed run : Nat} {x : Char} {more : List Char}
    (eq : escapeBasic several allowed run (d :: s) = x :: more) :
    (x = '"' → 0 < allowed) ∧ (x = '\n' → d = '\n') ∧ x ≠ '\r' := by
  rw [escapeBasic] at eq
  split_ifs at eq with quote allows line
  · obtain ⟨rfl, -⟩ := List.cons.inj eq
    simp [quote, Nat.zero_lt_of_lt allows]
  · obtain ⟨rfl, -⟩ := List.cons.inj eq
    simp
  · obtain ⟨rfl, -⟩ := List.cons.inj eq
    simp [line.2]
  · rcases escapeChar_cases d with ⟨same, plain, -⟩ | ⟨e, same, -⟩
    · rw [same] at eq
      obtain ⟨rfl, -⟩ := List.cons.inj eq
      refine ⟨fun same => (quote same).elim, id, ?_⟩
      rintro rfl
      simp [isPlain] at plain
    · rw [same] at eq
      obtain ⟨rfl, -⟩ := List.cons.inj eq
      simp

section Forms

variable {several : Bool} (behind : ∀ d ∈ r.head?, d ≠ '"' ∧ d ≠ '\'')

include behind

lemma gives_basic (here : c.rest = (surround "\"" false (escapeBasic false 0 0 s)).toList ++ r) :
    Gives (string false c) fun a t => a = String.ofList s ∧ t.rest = r := by
  replace here : c.rest = '"' :: (escapeBasic false 0 0 s ++ '"' :: r) := by simpa [toList_surround] using here
  have noLines : "\"\"\"".toList.isPrefixOf c.rest = false := by
    rw [here]
    cases s with
    | nil =>
      have := isPrefixOf_of_head? (w := "\"") rfl fun d hd => (behind d hd).1
      simpa [escapeBasic] using this
    | cons d s =>
      cases eq : escapeBasic false 0 0 (d :: s) with
      | nil => simpa [eq] using length_le_escapeBasic false 0 0 (d :: s)
      | cons x more =>
        have ne : '"' ≠ x := fun same => (escapeBasic_head eq).1 same.symm |>.false
        simp [List.isPrefixOf, ne]
  have noLiteral : "'''".toList.isPrefixOf c.rest = false := isPrefixOf_of_head? (d := '\'') rfl (by simp [here])
  have enough : s.length < c.rest.length + 1 := by
    have := length_le_escapeBasic false 0 0 s
    rw [here, List.length_cons, List.length_append]
    omega
  rw [string, read_rest_bind, read_eat_bind_of_not noLines]
  simp only [Bool.and_false, Bool.false_eq_true, if_false]
  rw [read_eat_bind_of_not noLiteral]
  simp only [Bool.and_false, Bool.false_eq_true, if_false]
  refine (gives_eat (w := "\"") here).bind ?_
  rintro _ t ⟨rfl, rest⟩
  exact gives_basicString 0 rest enough

lemma gives_literal (plain : ∀ d ∈ s, isPlain d = true) (noQuote : '\'' ∉ s)
    (here : c.rest = (surround "'" false s).toList ++ r) :
    Gives (string false c) fun a t => a = String.ofList s ∧ t.rest = r := by
  replace here : c.rest = '\'' :: (s ++ '\'' :: r) := by simpa [toList_surround] using here
  have noLines : "\"\"\"".toList.isPrefixOf c.rest = false := isPrefixOf_of_head? (d := '"') rfl (by simp [here])
  have noBasic : "\"".toList.isPrefixOf c.rest = false := isPrefixOf_of_head? (d := '"') rfl (by simp [here])
  have noLiteral : "'''".toList.isPrefixOf c.rest = false := by
    rw [here]
    cases s with
    | nil => simpa using isPrefixOf_of_head? (w := "'") rfl fun d hd => (behind d hd).2
    | cons d s =>
      have ne : '\'' ≠ d := fun same => noQuote (same ▸ List.mem_cons_self)
      simp [List.isPrefixOf, ne]
  rw [string, read_rest_bind, read_eat_bind_of_not noLines]
  simp only [Bool.and_false, Bool.false_eq_true, if_false]
  rw [read_eat_bind_of_not noLiteral]
  simp only [Bool.and_false, Bool.false_eq_true, if_false]
  rw [read_eat_bind_of_not noBasic]
  simp only [Bool.false_eq_true, if_false]
  exact (gives_skip (l := ['\'']) here rfl).bind fun _ t rest => gives_literalString plain noQuote rest

lemma gives_lines (oneLine : several = false → '\n' ∉ s)
    (here : c.rest = (surround "\"\"\"" several (escapeBasic true 2 0 s)).toList ++ r) :
    Gives (string false c) fun a t => a = String.ofList s ∧ t.rest = r := by
  rw [toList_surround, List.append_assoc, List.append_assoc, List.append_assoc] at here
  have enough : s.length < c.rest.length + 1 := by
    have := length_le_escapeBasic true 2 0 s
    simp only [here, List.length_append]
    omega
  have visible : several = false →
      ∀ d ∈ (escapeBasic true 2 0 s ++ ("\"\"\"".toList ++ r)).head?, d ≠ '\n' ∧ d ≠ '\r' := by
    intro one
    cases s with
    | nil => simp [escapeBasic]
    | cons d s =>
      have ne : d ≠ '\n' := fun same => oneLine one (same ▸ List.mem_cons_self)
      cases eq : escapeBasic true 2 0 (d :: s) with
      | nil => simp
      | cons x more =>
        rintro _ ⟨⟩
        exact ⟨fun same => ne ((escapeBasic_head eq).2.1 same), (escapeBasic_head eq).2.2⟩
  rw [string, read_rest_bind]
  refine (gives_eat here).bind ?_
  rintro _ t ⟨rfl, rest⟩
  simp only [Bool.not_false, Bool.and_true, if_true]
  refine (gives_skipped rest visible).bind fun _ u rest => ?_
  exact (lined_escapeBasic 0 (by omega) s).gives (by decide) (by decide) (fun d hd => (behind d hd).1) enough rest

lemma gives_literalLines (plain : ∀ d ∈ s, d = '\n' ∨ isPlain d = true) (few : longestRun '\'' s ≤ 2)
    (oneLine : several = false → '\n' ∉ s) (here : c.rest = (surround "'''" several s).toList ++ r) :
    Gives (string false c) fun a t => a = String.ofList s ∧ t.rest = r := by
  rw [toList_surround, List.append_assoc, List.append_assoc, List.append_assoc] at here
  have noLines : "\"\"\"".toList.isPrefixOf c.rest = false :=
    isPrefixOf_of_head? (d := '"') rfl (by simp [here])
  have enough : s.length < c.rest.length + 1 := by
    simp only [here, List.length_append]
    omega
  have visible : several = false → ∀ d ∈ (s ++ ("'''".toList ++ r)).head?, d ≠ '\n' ∧ d ≠ '\r' := by
    intro one
    cases s with
    | nil => simp
    | cons d s =>
      rintro _ ⟨⟩
      have ne : d ≠ '\n' := fun same => oneLine one (same ▸ List.mem_cons_self)
      refine ⟨ne, ?_⟩
      rintro rfl
      simp [isPlain] at plain
  rw [string, read_rest_bind, read_eat_bind_of_not noLines]
  simp only [Bool.and_false, Bool.false_eq_true, if_false]
  refine (gives_eat here).bind ?_
  rintro _ t ⟨rfl, rest⟩
  simp only [Bool.not_false, Bool.and_true, if_true]
  refine (gives_skipped rest visible).bind fun _ u rest => ?_
  exact (lined_self plain few).gives (by decide) (by decide) (fun d hd => (behind d hd).2) enough rest

/-- Each form is chosen only for texts that it is read back for. -/
lemma gives_string {text : String} (here : c.rest = (quoted text).toList ++ r) :
    Gives (string false c) fun a t => a = text ∧ t.rest = r := by
  rw [← String.ofList_toList (s := text)]
  rw [quoted] at here
  have plain (noControl : (Shape.of text.toList).control = false) : ∀ d ∈ text.toList, d = '\n' ∨ isPlain d = true := by
    intro d hd
    have := List.any_eq_false.1 noControl d hd
    simp only [isControl, isPlain, ne_eq, decide_not, Bool.and_eq_true, Bool.not_eq_true', decide_eq_false_iff_not,
      Bool.or_eq_true, decide_eq_true_eq, beq_iff_eq] at this ⊢
    by_cases line : d = '\n'
    · exact .inl line
    · by_cases tab : d = '\t'
      · exact .inr (.inl tab)
      · refine .inr (.inr ?_)
        simp only [line, tab, not_false_eq_true, true_and] at this
        omega
  have oneLine (none : (Shape.of text.toList).newline = false) : '\n' ∉ text.toList := by
    simpa [Shape.of] using none
  split_ifs at here with bare literal lines literalLines several
  · exact gives_basic behind here
  · simp only [Bool.and_eq_true, Bool.not_eq_true', decide_eq_true_eq] at literal
    obtain ⟨⟨noControl, noQuote⟩, none⟩ := literal
    refine gives_literal behind (fun d hd => ?_) (not_mem_of_longestRun noQuote) here
    exact (plain noControl d hd).resolve_left fun same => oneLine none (same ▸ hd)
  · exact gives_lines behind oneLine here
  · simp only [Bool.and_eq_true, Bool.not_eq_true', decide_eq_true_eq] at literalLines
    exact gives_literalLines behind (plain literalLines.1) literalLines.2 oneLine here
  · exact gives_lines behind oneLine here
  · exact gives_basic behind here

end Forms

end ItemPipeline.Toml
