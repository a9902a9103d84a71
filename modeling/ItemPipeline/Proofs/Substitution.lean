import ItemPipeline.Proofs.Execution
import ItemPipeline.Proofs.Success
import ItemPipeline.Proofs.Text
import Mathlib.Data.List.Chain
import Mathlib.Data.List.Infix

/-!
Templates with references to groups. A template is read piece by piece, literal texts and references, whatever
backslashes the texts have and whatever the groups hold.
-/

namespace ItemPipeline.Step

open Text

def Opens (r : List Char) : Prop :=
  ∀ d, r.head? = some d → isDigit d = false

def IsLiteral (s : List Char) : Prop :=
  ∀ d, isDigit d = true → ¬['\\', d] <:+: s

inductive Piece
  | literal (s : List Char)
  | group (n : Fin 10)

namespace Piece

def written : Piece → List Char
  | literal s => s
  | group n => ['\\', Nat.digitChar n]

def expanded (groups : List (Option (List Char))) : Piece → List Char
  | literal s => s
  | group n =>
    match groups[n.val]? with
    | some (some s) => s
    | _ => []

def Apart : Piece → Piece → Prop
  | literal _, literal _ => False
  | _, _ => True

end Piece

structure IsTemplate (l : List Piece) : Prop where
  literals : ∀ s, .literal s ∈ l → IsLiteral s
  apart : l.IsChain Piece.Apart

variable {groups : List (Option (List Char))} {l : List Piece} {r s : List Char} {c d : Char}

lemma isDigit_digitChar (n : Fin 10) : isDigit (Nat.digitChar n) = true := by
  revert n
  decide

lemma digitChar_toNat (n : Fin 10) : (Nat.digitChar n).toNat - 48 = n := by
  revert n
  decide

lemma exists_digitChar (digit : isDigit d = true) : ∃ n : Fin 10, Nat.digitChar n = d := by
  have bounds : 48 ≤ d.toNat ∧ d.toNat ≤ 57 := by simpa [isDigit] using digit
  refine ⟨⟨d.toNat - 48, by omega⟩, ?_⟩
  rw [← Char.toNat_inj]
  have shifted : ∀ k < 10, (Nat.digitChar k).toNat = k + 48 := by decide
  change (Nat.digitChar (d.toNat - 48)).toNat = d.toNat
  rw [shifted _ (by omega)]
  omega

section Reading

lemma substitute_group (n : Fin 10) (r : List Char) :
    substitute groups ('\\' :: Nat.digitChar n :: r) = (Piece.group n).expanded groups ++ substitute groups r := by
  rw [substitute, if_pos (isDigit_digitChar n), digitChar_toNat, Piece.expanded]
  cases groups[n.val]? with
  | none => rfl
  | some g => cases g <;> rfl

lemma substitute_cons (plain : c = '\\' → Opens r) : substitute groups (c :: r) = c :: substitute groups r := by
  by_cases hc : c = '\\'
  · subst hc
    cases r with
    | nil => rfl
    | cons d r =>
      have hd : isDigit d = false := plain rfl d rfl
      rw [substitute, hd]
      rfl
  · rw [substitute]
    exact fun _ _ h => absurd h hc

lemma Opens.of_append (h : Opens (s ++ r)) : Opens s := by
  intro d hd
  exact h d (by rw [List.head?_append, hd]; rfl)

lemma isLiteral_nil : IsLiteral [] :=
  fun _ _ found => absurd (List.eq_nil_of_infix_nil found) (List.cons_ne_nil _ _)

lemma IsLiteral.cons (h : IsLiteral s) (plain : c = '\\' → Opens s) : IsLiteral (c :: s) := by
  intro d digit found
  rcases List.infix_cons_iff.1 found with ⟨t, ht⟩ | found
  · obtain ⟨rfl, rfl⟩ := List.cons.inj ht
    rw [plain rfl d rfl] at digit
    exact Bool.false_ne_true digit
  · exact h d digit found

lemma IsLiteral.tail (h : IsLiteral (c :: s)) : IsLiteral s :=
  fun d digit found => h d digit (found.trans (List.suffix_cons c s).isInfix)

lemma IsLiteral.opens (h : IsLiteral ('\\' :: s)) (after : Opens r) : Opens (s ++ r) := by
  cases s with
  | nil => exact after
  | cons d s =>
    intro e he
    obtain rfl : d = e := by simpa using he
    rw [← Bool.not_eq_true]
    exact fun digit => h d digit ⟨[], s, rfl⟩

lemma substitute_literal (h : IsLiteral s) (after : Opens r) :
    substitute groups (s ++ r) = s ++ substitute groups r := by
  induction s with
  | nil => rfl
  | cons c s ih =>
    rw [List.cons_append, substitute_cons, ih h.tail, List.cons_append]
    rintro rfl
    exact h.opens after

end Reading

namespace IsTemplate

lemma nil : IsTemplate [] :=
  ⟨by simp, .nil⟩

lemma tail {p : Piece} (h : IsTemplate (p :: l)) : IsTemplate l :=
  ⟨fun s hs => h.literals s (List.mem_cons_of_mem p hs), h.apart.of_cons⟩

lemma opens (h : IsTemplate (.literal s :: l)) : Opens (l.flatMap Piece.written) := by
  cases l with
  | nil => simp [Opens]
  | cons p l =>
    cases p with
    | literal s' => exact absurd (List.isChain_cons_cons.1 h.apart).1 id
    | group n =>
      intro d hd
      obtain rfl : '\\' = d := by simpa [Piece.written] using hd
      decide

lemma substitute (h : IsTemplate l) :
    substitute groups (l.flatMap Piece.written) = l.flatMap (Piece.expanded groups) := by
  induction l with
  | nil => rfl
  | cons p l ih =>
    rw [List.flatMap_cons, List.flatMap_cons, ← ih h.tail]
    cases p with
    | literal s => exact substitute_literal (h.literals s List.mem_cons_self) h.opens
    | group n => exact substitute_group n _

lemma group (h : IsTemplate l) (n : Fin 10) : IsTemplate (.group n :: l) where
  literals s hs := h.literals s (by simpa using hs)
  apart := h.apart.cons fun p _ => trivial

lemma literal (h : IsTemplate l) (plain : IsLiteral s) (first : ∀ s', l.head? ≠ some (.literal s')) :
    IsTemplate (.literal s :: l) where
  literals s' hs := by
    rcases List.mem_cons.1 hs with hs | hs
    · obtain rfl := Piece.literal.inj hs
      exact plain
    · exact h.literals s' hs
  apart := h.apart.cons fun p hp => by
    cases p with
    | literal s' => exact first s' hp
    | group n => trivial

lemma exists_literal (h : IsTemplate l) :
    ∃ s l', IsTemplate (.literal s :: l') ∧ s ++ l'.flatMap Piece.written = l.flatMap Piece.written := by
  cases l with
  | nil => exact ⟨[], [], nil.literal isLiteral_nil nofun, rfl⟩
  | cons p l =>
    cases p with
    | literal s => exact ⟨s, l, h, rfl⟩
    | group n => exact ⟨[], _, h.literal isLiteral_nil nofun, rfl⟩

lemma cons (h : IsTemplate l) (plain : c = '\\' → Opens (l.flatMap Piece.written)) :
    ∃ l', IsTemplate l' ∧ l'.flatMap Piece.written = c :: l.flatMap Piece.written := by
  obtain ⟨s, l', h', same⟩ := h.exists_literal
  rw [← same] at plain ⊢
  refine ⟨.literal (c :: s) :: l', h'.tail.literal ?_ ?_, rfl⟩
  · exact (h'.literals s List.mem_cons_self).cons fun hc => (plain hc).of_append
  · intro s' hs
    exact (List.isChain_cons.1 h'.apart).1 _ hs

lemma exists_written (t : List Char) : ∃ l, IsTemplate l ∧ l.flatMap Piece.written = t := by
  fun_induction Step.substitute [] t with
  | case1 => exact ⟨[], nil, rfl⟩
  | case2 d r digit ih =>
    obtain ⟨l, template, rfl⟩ := ih
    obtain ⟨n, rfl⟩ := exists_digitChar digit
    exact ⟨.group n :: l, template.group n, rfl⟩
  | case3 d r digit ih =>
    obtain ⟨l, template, written⟩ := ih
    rw [← written]
    refine template.cons fun _ => ?_
    rw [written]
    intro e he
    obtain rfl : d = e := by simpa using he
    simpa using digit
  | case4 c r plain ih =>
    obtain ⟨l, template, rfl⟩ := ih
    refine template.cons fun hc d hd => ?_
    obtain ⟨t, ht⟩ := List.head?_eq_some_iff.1 hd
    exact absurd ht (plain d t hc)

end IsTemplate

section Steps

variable {params text : String} {pattern template : List Char} {program : Regex.Program} {v : Value}
  (lines : InTwo params.toList pattern template) (built : Regex.build (String.ofList pattern) = .ok program)
  (isText : v.toText = .ok text) (found : program.captures? text.toList = some groups)
include lines built isText found

lemma regsub_eq : regsub params v = .ok (.text (String.ofList (substitute groups template))) := by
  simp only [regsub, regexParams, lines.twoLines_eq, buildRegex, built, isText, Except.mapError, bind, Except.bind,
    found, Except.map]

lemma errorFieldRegex_eq :
    errorFieldRegex params v = .ok (.error (String.ofList (substitute groups template))) := by
  simp only [errorFieldRegex, regexParams, lines.twoLines_eq, buildRegex, built, isText, Except.mapError, bind,
    Except.bind, found]

end Steps

/-- A template made of literals and references stands for the literals as they are, with the texts of the groups
between them; a group that took no part, or that there is none of, leaves nothing. A digit behind a reference
and a backslash before one belong to the literals, and what a group holds is not read again. Every template is
made in this way. -/
theorem run_references (c : Context) (cache : Option Cache) (t : ValueType) (now : Timestamp) (m : Option Memory) :
    (∀ template, ∃ l, IsTemplate l ∧ l.flatMap Piece.written = template) ∧
    ∀ l, IsTemplate l →
      (∀ groups, substitute groups (l.flatMap Piece.written) = l.flatMap (Piece.expanded groups)) ∧
      ∀ (s : Step) (pattern : List Char) (program : Regex.Program) (text : String)
        (groups : List (Option (List Char))) (v : Value),
        InTwo s.params.toList pattern (l.flatMap Piece.written) →
        Regex.build (String.ofList pattern) = .ok program → v.toText = .ok text →
        program.captures? text.toList = some groups →
        (s.kind = .regsub → s.run c cache t now m v =
          ⟨.ok (.text (String.ofList (l.flatMap (Piece.expanded groups)))), m, c⟩) ∧
        (s.kind = .errorFieldRegex → s.run c cache t now m v =
          ⟨.ok (.error (String.ofList (l.flatMap (Piece.expanded groups)))), m, c⟩) := by
  refine ⟨IsTemplate.exists_written, fun l template => ⟨fun groups => template.substitute, ?_⟩⟩
  intro s pattern program text groups v lines built isText found
  rw [← template.substitute]
  constructor
  · intro kind
    have forgetful : s.kind.hasHistory = false := by rw [kind]; rfl
    simp only [run_of_forgetful forgetful, apply, kind, regsub_eq lines built isText found]
  · intro kind
    have forgetful : s.kind.hasHistory = false := by rw [kind]; rfl
    simp only [run_of_forgetful forgetful, apply, kind, errorFieldRegex_eq lines built isText found]

theorem run_references_of_backslashes :
    ∃ (l : List Piece) (s : Step), IsTemplate l ∧
      l = [.group 1, .literal "1\\".toList, .group 2, .literal "0\\".toList, .group 9] ∧
      s.kind = .regsub ∧ s.params = "(.*)|x(y)\n\\11\\\\20\\\\9" ∧
      InTwo s.params.toList "(.*)|x(y)".toList (l.flatMap Piece.written) ∧
      s.run {} none .text ⟨0⟩ none (.text "\\0\\1") = ⟨.ok (.text "\\0\\11\\0\\"), none, {}⟩ := by
  have literal (d : Char) (plain : d ≠ '\\') : IsLiteral [d, '\\'] :=
    (isLiteral_nil.cons fun _ => nofun).cons fun same => absurd same plain
  have template : IsTemplate [.group 1, .literal "1\\".toList, .group 2, .literal "0\\".toList, .group 9] :=
    ((((IsTemplate.nil.group 9).literal (literal '0' (by decide)) nofun).group 2).literal
      (literal '1' (by decide)) nofun).group 1
  have lines : InTwo "(.*)|x(y)\n\\11\\\\20\\\\9".toList "(.*)|x(y)".toList "\\11\\\\20\\\\9".toList :=
    .two (show '\n' ∉ "(.*)|x(y)".toList by decide)
  have found : (Regex.build "(.*)|x(y)").toOption.any (fun p => p.captures? "\\0\\1".toList ==
      some [some "\\0\\1".toList, some "\\0\\1".toList, none]) = true := by
    decide +kernel
  obtain ⟨program, built, found⟩ := any_toOption_iff.1 found
  obtain ⟨-, expands⟩ := run_references {} none .text ⟨0⟩ none
  have replaced := ((expands _ template).2 { kind := .regsub, params := "(.*)|x(y)\n\\11\\\\20\\\\9" }
    _ program "\\0\\1" _ (.text "\\0\\1") lines built rfl (beq_iff_eq.1 found)).1 rfl
  exact ⟨_, _, template, rfl, rfl, rfl, lines, replaced⟩

end ItemPipeline.Step
