import ItemPipeline.Proofs.Exposition.Lines
import ItemPipeline.Step.Run
import Mathlib.Data.List.Forall2
import Mathlib.Data.Nat.Digits.Defs

/-!
Numbers written with digits of any base up to sixteen. A word is read from a text exactly if the text writes one, with
at most a plus sign before its digits; hexadecimal numbers may begin with a mark.
-/

namespace ItemPipeline

namespace Text

/-- The digits from ten on are letters, in either case. -/
def StandsFor (base : ℕ) (c : Char) (d : ℕ) : Prop :=
  d < base ∧ (c = d.digitChar ∨ c = d.digitChar.toUpper)

def Numeral (base : ℕ) (l : List Char) (n : ℕ) : Prop :=
  ∃ ds, ds ≠ [] ∧ List.Forall₂ (StandsFor base) l ds ∧ Nat.ofDigits base ds.reverse = n

def signs : List (List Char) :=
  [[], ['+']]

def hexMarks : List (List Char) :=
  [[], ['0', 'x'], ['0', 'X']]

def Signed (base : ℕ) (s : List Char) (n : ℕ) : Prop :=
  ∃ sign ∈ signs, ∃ l, s = sign ++ l ∧ Numeral base l n

def Hexadecimal (s : List Char) (n : ℕ) : Prop :=
  ∃ mark ∈ hexMarks, ∃ r, s = mark ++ r ∧ Signed 16 r n

variable {base n d a : ℕ} {c : Char} {s l sign mark : List Char}

lemma mem_signs : sign ∈ signs ↔ sign = [] ∨ sign = ['+'] := by
  simp [signs]

lemma mem_hexMarks : mark ∈ hexMarks ↔ mark = [] ∨ mark = ['0', 'x'] ∨ mark = ['0', 'X'] := by
  simp [hexMarks]

lemma toNat_digitChar : ∀ d < 16, d.digitChar.toNat = (if d < 10 then 48 + d else 87 + d) ∧
    d.digitChar.toUpper.toNat = if d < 10 then 48 + d else 55 + d := by
  decide

lemma standsFor_iff (small : base ≤ 16) : StandsFor base c d ↔ d < base ∧
    (c.toNat = 48 + d ∧ d < 10 ∨ c.toNat = 87 + d ∧ 10 ≤ d ∨ c.toNat = 55 + d ∧ 10 ≤ d) := by
  refine and_congr_right fun less => ?_
  obtain ⟨lower, upper⟩ := toNat_digitChar d (by omega)
  rw [← Char.toNat_inj, ← Char.toNat_inj, lower, upper]
  split_ifs <;> omega

lemma digit?_eq_some_iff (small : base ≤ 16) : digit? base c = some d ↔ StandsFor base c d := by
  rw [standsFor_iff small]
  simp only [digit?, Option.ite_none_right_eq_some, Option.some.injEq]
  split_ifs <;> omega

lemma digitsFrom?_eq_some_iff (small : base ≤ 16) : digitsFrom? base a l = some n ↔
    ∃ ds, List.Forall₂ (StandsFor base) l ds ∧ base ^ l.length * a + Nat.ofDigits base ds.reverse = n := by
  induction l generalizing a with
  | nil => simp [digitsFrom?, List.forall₂_nil_left_iff]
  | cons c l ih =>
    have step (d : ℕ) (ds : List ℕ) (same : ds.length = l.length) :
        base ^ (c :: l).length * a + Nat.ofDigits base (d :: ds).reverse =
          base ^ l.length * (a * base + d) + Nat.ofDigits base ds.reverse := by
      rw [Nat.ofDigits_reverse_cons, same, List.length_cons]
      ring
    rw [digitsFrom?, Option.bind_eq_some_iff]
    constructor
    · rintro ⟨d, first, rest⟩
      obtain ⟨ds, digits, value⟩ := ih.1 rest
      exact ⟨d :: ds, .cons ((digit?_eq_some_iff small).1 first) digits, (step d ds digits.length_eq.symm).trans value⟩
    · rintro ⟨_, digits, value⟩
      cases digits with
      | @cons _ d _ ds first digits =>
        rw [step d ds digits.length_eq.symm] at value
        exact ⟨d, (digit?_eq_some_iff small).2 first, ih.2 ⟨ds, digits, value⟩⟩

lemma digits?_eq_some_iff (small : base ≤ 16) : digits? base l = some n ↔ Numeral base l n := by
  have same : digitsFrom? base 0 l = some n ↔
      ∃ ds, List.Forall₂ (StandsFor base) l ds ∧ Nat.ofDigits base ds.reverse = n := by
    simpa using digitsFrom?_eq_some_iff (a := 0) small
  rw [digits?]
  split_ifs with empty
  · constructor
    · intro read
      cases read
    · rintro ⟨ds, ne, digits, -⟩
      rw [empty, List.forall₂_nil_left_iff] at digits
      exact (ne digits).elim
  · rw [same]
    constructor
    · rintro ⟨ds, digits, value⟩
      refine ⟨ds, ?_, digits, value⟩
      rintro rfl
      exact empty (List.forall₂_nil_right_iff.1 digits)
    · rintro ⟨ds, -, numeral⟩
      exact ⟨ds, numeral⟩

lemma Numeral.exists_digit (small : base ≤ 16) (numeral : Numeral base l n) (hc : c ∈ l) :
    ∃ d, digit? base c = some d := by
  obtain ⟨ds, -, digits, -⟩ := numeral
  induction digits with
  | nil => exact absurd hc List.not_mem_nil
  | cons first _ ih =>
    rcases List.mem_cons.1 hc with rfl | hc
    · exact ⟨_, (digit?_eq_some_iff small).2 first⟩
    · exact ih hc

lemma Numeral.isBlank_eq_false (small : base ≤ 16) (numeral : Numeral base l n) (hc : c ∈ l) : isBlank c = false := by
  obtain ⟨d, digit⟩ := numeral.exists_digit small hc
  rw [digit?_eq_some_iff small, standsFor_iff small] at digit
  simp [isBlank]
  omega

section Marks

lemma digit?_plus (base : ℕ) : digit? base '+' = none := by
  simp [digit?]

lemma exists_sign (s : List Char) : ∃ sign ∈ signs, s = sign ++ dropPlus s := by
  unfold dropPlus
  split
  · exact ⟨['+'], mem_signs.2 (.inr rfl), rfl⟩
  · exact ⟨[], mem_signs.2 (.inl rfl), rfl⟩

lemma dropPlus_numeral (small : base ≤ 16) (hs : sign ∈ signs) (numeral : Numeral base l n) :
    dropPlus (sign ++ l) = l := by
  obtain ⟨sign', hs', eq⟩ := exists_sign l
  rcases mem_signs.1 hs with rfl | rfl
  · rcases mem_signs.1 hs' with rfl | rfl
    · exact eq.symm
    · have plus : '+' ∈ l := by rw [eq]; exact List.mem_cons_self
      obtain ⟨d, digit⟩ := numeral.exists_digit small plus
      simp [digit?_plus] at digit
  · rfl

lemma uint64?_eq_some_iff {n : UInt64} (small : base ≤ 16) : uint64? base s = some n ↔ Signed base s n.toNat := by
  have word (k : ℕ) : (if k < UInt64.size then some k.toUInt64 else none) = some n ↔ k = n.toNat := by
    rw [Option.ite_none_right_eq_some, Option.some.injEq]
    constructor
    · rintro ⟨fits, rfl⟩
      exact (UInt64.toNat_ofNat_of_lt' fits).symm
    · rintro rfl
      exact ⟨n.toNat_lt, UInt64.ofNat_toNat⟩
  simp only [uint64?, Option.bind_eq_some_iff, digits?_eq_some_iff small, word]
  constructor
  · rintro ⟨_, numeral, rfl⟩
    obtain ⟨sign, hs, eq⟩ := exists_sign s
    exact ⟨sign, hs, _, eq, numeral⟩
  · rintro ⟨sign, hs, l, rfl, numeral⟩
    rw [dropPlus_numeral small hs numeral]
    exact ⟨_, numeral, rfl⟩

lemma exists_mark (s : List Char) : ∃ mark ∈ hexMarks, s = mark ++ Step.dropHexMark s := by
  unfold Step.dropHexMark
  split
  · exact ⟨['0', 'x'], mem_hexMarks.2 (.inr (.inl rfl)), rfl⟩
  · exact ⟨['0', 'X'], mem_hexMarks.2 (.inr (.inr rfl)), rfl⟩
  · exact ⟨[], mem_hexMarks.2 (.inl rfl), rfl⟩

lemma Signed.not_mem_x (signed : Signed 16 s n) : 'x' ∉ s ∧ 'X' ∉ s := by
  obtain ⟨sign, hs, l, rfl, numeral⟩ := signed
  have no_x (c : Char) (none : digit? 16 c = none) (other : c ≠ '+') : c ∉ sign ++ l := by
    intro hc
    rcases List.mem_append.1 hc with hc | hc
    · rcases mem_signs.1 hs with rfl | rfl
      · exact List.not_mem_nil hc
      · exact other (List.mem_singleton.1 hc)
    · obtain ⟨d, digit⟩ := numeral.exists_digit le_rfl hc
      simp [none] at digit
  exact ⟨no_x 'x' (by decide) (by decide), no_x 'X' (by decide) (by decide)⟩

lemma dropHexMark_signed (hm : mark ∈ hexMarks) (signed : Signed 16 s n) : Step.dropHexMark (mark ++ s) = s := by
  obtain ⟨lower, upper⟩ := signed.not_mem_x
  obtain ⟨mark', hm', eq⟩ := exists_mark s
  rcases mem_hexMarks.1 hm with rfl | rfl | rfl
  · rcases mem_hexMarks.1 hm' with rfl | rfl | rfl
    · exact eq.symm
    · exact absurd (eq ▸ by simp) lower
    · exact absurd (eq ▸ by simp) upper
  · rfl
  · rfl

end Marks

lemma readHex?_eq_some_iff {n : UInt64} :
    Step.readHex? s = some n ↔ Hexadecimal (s.filter fun c => !isBlank c) n.toNat := by
  rw [Step.readHex?, uint64?_eq_some_iff le_rfl]
  constructor
  · intro signed
    obtain ⟨mark, hm, eq⟩ := exists_mark (s.filter fun c => !isBlank c)
    exact ⟨mark, hm, _, eq, signed⟩
  · rintro ⟨mark, hm, r, eq, signed⟩
    rwa [eq, dropHexMark_signed hm signed]

lemma exists_digits (two : 1 < base) (n : ℕ) : ∃ ds, ds ≠ [] ∧ (∀ d ∈ ds, d < base) ∧
    Nat.toDigits base n = ds.map Nat.digitChar ∧ Nat.ofDigits base ds.reverse = n := by
  induction n using Nat.strong_induction_on with
  | _ n ih =>
    rw [Nat.toDigits_eq_if two]
    split_ifs with small
    · exact ⟨[n], List.cons_ne_nil _ _, by simpa using small, rfl, Nat.ofDigits_singleton⟩
    · obtain ⟨ds, ne, digits, written, value⟩ := ih (n / base) (Nat.div_lt_self (by omega) two)
      refine ⟨ds ++ [n % base], by simp, ?_, by simp [written], ?_⟩
      · rw [List.forall_mem_append]
        exact ⟨digits, by simpa using Nat.mod_lt n (by omega)⟩
      · rw [List.reverse_append, List.reverse_singleton, List.singleton_append, Nat.ofDigits_cons, value]
        exact Nat.mod_add_div n base

lemma numeral_toDigits (two : 1 < base)
    (either : List.Forall₂ (fun c x => c = x ∨ c = x.toUpper) l (Nat.toDigits base n)) : Numeral base l n := by
  obtain ⟨ds, ne, digits, written, value⟩ := exists_digits two n
  rw [written, List.forall₂_map_right_iff] at either
  exact ⟨ds, ne, ((List.forall₂_and_left _ _).2 ⟨digits, either.flip⟩).flip, value⟩

end Text

namespace Step

variable {base text : String} {read : List Char → Option UInt64} {n : UInt64}

lemma toDecimal_eq_ok_iff : toDecimal base read (.text text) = .ok (.uint64 n) ↔ read text.toList = some n := by
  unfold toDecimal
  simp only [Value.toText]
  cases read text.toList <;> simp

lemma toDecimal_eq_error (noWord : ∀ n, read text.toList ≠ some n) :
    toDecimal base read (.text text) = .error (.converting text base .badFormat) := by
  have none : read text.toList = none := Option.eq_none_iff_forall_ne_some.2 noWord
  unfold toDecimal
  simp only [Value.toText, none]
  rfl

lemma run_hex {s : Step} (kind : s.kind = .hex2dec) (c : Context) (cache : Option Cache) (t : ValueType) (now : Timestamp)
    (m : Option Memory) (v : Value) : (s.run c cache t now m v).value = toDecimal "hexadecimal" readHex? v := by
  simp [run, kind, StepKind.hasHistory, apply]

lemma run_oct {s : Step} (kind : s.kind = .oct2dec) (c : Context) (cache : Option Cache) (t : ValueType) (now : Timestamp)
    (m : Option Memory) (v : Value) : (s.run c cache t now m v).value = toDecimal "octal" readOctal? v := by
  simp [run, kind, StepKind.hasHistory, apply]

end Step

open Text

/-- A hexadecimal number may have blanks anywhere, an octal one around it. Texts that write a number of 64 bits are
converted to it, and all others fail; so what is written with the digits of a number is converted back to it. -/
theorem Step.run_numeral {hex oct : Step} (isHex : hex.kind = .hex2dec) (isOct : oct.kind = .oct2dec) (c : Context)
    (cache : Option Cache) (t : ValueType) (now : Timestamp) (m : Option Memory) (text : String) :
    (∀ n : UInt64, (hex.run c cache t now m (.text text)).value = .ok (.uint64 n) ↔
      Hexadecimal (text.toList.filter fun x => !isBlank x) n.toNat) ∧
    ((∀ n : UInt64, ¬ Hexadecimal (text.toList.filter fun x => !isBlank x) n.toNat) →
      (hex.run c cache t now m (.text text)).value = .error (.converting text "hexadecimal" .badFormat)) ∧
    (∀ n : UInt64, (oct.run c cache t now m (.text text)).value = .ok (.uint64 n) ↔
      Signed 8 (trimBlanks text.toList) n.toNat) ∧
    ((∀ n : UInt64, ¬ Signed 8 (trimBlanks text.toList) n.toNat) →
      (oct.run c cache t now m (.text text)).value = .error (.converting text "octal" .badFormat)) ∧
    (∀ n : UInt64, ∀ mark ∈ hexMarks, ∀ l,
      List.Forall₂ (fun x digit => x = digit ∨ x = digit.toUpper) l (Nat.toDigits 16 n.toNat) →
      (text.toList.filter fun x => !isBlank x) = mark ++ l →
      (hex.run c cache t now m (.text text)).value = .ok (.uint64 n)) ∧
    ∀ (n : UInt64) (u v : List Char), (∀ x ∈ u, isBlank x = true) → (∀ x ∈ v, isBlank x = true) →
      text.toList = u ++ (Nat.toDigits 8 n.toNat ++ v) →
      (oct.run c cache t now m (.text text)).value = .ok (.uint64 n) := by
  rw [run_hex isHex, run_oct isOct]
  have hexIff (n : UInt64) : toDecimal "hexadecimal" readHex? (.text text) = .ok (.uint64 n) ↔ _ :=
    toDecimal_eq_ok_iff.trans readHex?_eq_some_iff
  have octIff (n : UInt64) : toDecimal "octal" readOctal? (.text text) = .ok (.uint64 n) ↔ _ :=
    toDecimal_eq_ok_iff.trans (uint64?_eq_some_iff (by decide))
  refine ⟨hexIff, fun none => ?_, octIff, fun none => ?_, ?_, ?_⟩
  · exact toDecimal_eq_error fun n read => none n (readHex?_eq_some_iff.1 read)
  · exact toDecimal_eq_error fun n read => none n ((uint64?_eq_some_iff (by decide)).1 read)
  · intro n mark hm l either written
    exact (hexIff n).2 ⟨mark, hm, l, written, [], mem_signs.2 (.inl rfl), l, rfl, numeral_toDigits (by decide) either⟩
  · intro n u v hu hv written
    have numeral : Numeral 8 (Nat.toDigits 8 n.toNat) n.toNat :=
      numeral_toDigits (by decide) (List.forall₂_same.2 fun x _ => .inl rfl)
    have digits : trimBlanks text.toList = Nat.toDigits 8 n.toNat := by
      rw [written]
      exact trimBlanks_around hu hv (fun x hx => numeral.isBlank_eq_false (by decide) (List.mem_of_mem_head? hx))
        fun x hx => numeral.isBlank_eq_false (by decide) (List.mem_of_mem_getLast? hx)
    exact (octIff n).2 ⟨[], mem_signs.2 (.inl rfl), _, digits, numeral⟩

theorem Step.run_numeral_of_greatest :
    ∃ (hex oct : Step) (l : List Char), hex.kind = .hex2dec ∧ oct.kind = .oct2dec ∧
      List.Forall₂ (fun x digit => x = digit ∨ x = digit.toUpper) l (Nat.toDigits 16 18446744073709551615) ∧
      l = "fFFFFFFFFFFFFFFf".toList ∧
      (hex.run {} none .text ⟨0⟩ none (.text "0X fFFF\tFFFFFFFFFFFf ")).value = .ok (.uint64 18446744073709551615) ∧
      (oct.run {} none .text ⟨0⟩ none (.text "\t1777777777777777777777 ")).value = .ok (.uint64 18446744073709551615) ∧
      (hex.run {} none .text ⟨0⟩ none (.text "0x10000000000000000")).value =
        .error (.converting "0x10000000000000000" "hexadecimal" .badFormat) ∧
      (oct.run {} none .text ⟨0⟩ none (.text "1 7")).value = .error (.converting "1 7" "octal" .badFormat) := by
  let hex : Step := { kind := .hex2dec }
  let oct : Step := { kind := .oct2dec }
  have isHex : hex.kind = .hex2dec := rfl
  have isOct : oct.kind = .oct2dec := rfl
  have either : List.Forall₂ (fun x digit => x = digit ∨ x = digit.toUpper) "fFFFFFFFFFFFFFFf".toList
      (Nat.toDigits 16 18446744073709551615) := by decide +kernel
  obtain ⟨-, -, -, -, again, -⟩ := run_numeral isHex isOct {} none .text ⟨0⟩ none "0X fFFF\tFFFFFFFFFFFf "
  obtain ⟨-, -, -, -, -, again'⟩ :=
    run_numeral isHex isOct {} none .text ⟨0⟩ none "\t1777777777777777777777 "
  obtain ⟨large, fails, -⟩ := run_numeral isHex isOct {} none .text ⟨0⟩ none "0x10000000000000000"
  obtain ⟨-, -, inner, fails', -⟩ := run_numeral isHex isOct {} none .text ⟨0⟩ none "1 7"
  refine ⟨hex, oct, _, isHex, isOct, either, rfl, ?_, ?_, fails fun n => ?_, fails' fun n => ?_⟩
  · exact again 18446744073709551615 ['0', 'X'] (by decide) _ either (by decide +kernel)
  · exact again' 18446744073709551615 ['\t'] [' '] (List.forall_mem_singleton.2 rfl) (List.forall_mem_singleton.2 rfl)
      (by decide +kernel)
  · rw [← large n]
    exact nofun
  · rw [← inner n]
    exact nofun

end ItemPipeline
