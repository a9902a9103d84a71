import ItemPipeline.Regex.Program
import Mathlib.Logic.Relation
import Mathlib.Order.Lattice
import Mathlib.Order.Nat
import Mathlib.Tactic.Lemma

/-!
What a regular expression matches, and that the code compiled from it accepts just that.
-/

namespace ItemPipeline.Regex

inductive Times (R : Nat → Nat → Prop) : Nat → Nat → Nat → Prop
  | zero {i : Nat} : Times R 0 i i
  | succ {n i j k : Nat} (first : R i j) (rest : Times R n j k) : Times R (n + 1) i k

def previous? (w : List Char) (i : Nat) : Option Char :=
  if i = 0 then none else w[i - 1]?

/-- The characters of `w` from place `i` to place `j` match. An upper bound below the lower one counts as
the lower one. -/
def Matches (w : List Char) : Regex → Nat → Nat → Prop
  | .empty, i, j => i = j
  | .look l, i, j => l.holds (previous? w i) w[i]? = true ∧ i = j
  | .chars s, i, j => (∃ c, w[i]? = some c ∧ s.contains c.toNat = true) ∧ j = i + 1
  | .capture _ r, i, j => Matches w r i j
  | .seq r s, i, j => Relation.Comp (Matches w r) (Matches w s) i j
  | .alt r s, i, j => Matches w r i j ∨ Matches w s i j
  | .repetition a b _ r, i, j => ∃ n, a ≤ n ∧ (∀ m ∈ b, n ≤ max a m) ∧ Times (Matches w r) n i j

inductive Silent (code : Code) (before after : Option Char) : Nat → Nat → Prop
  | look {pc next : Nat} {l : Look} (here : code[pc]? = some (.look l next))
      (holds : l.holds before after = true) : Silent code before after pc next
  | save {pc next k : Nat} (here : code[pc]? = some (.save k next)) : Silent code before after pc next
  | fork {pc next : Nat} {l : List Nat} (here : code[pc]? = some (.fork l)) (way : next ∈ l) :
      Silent code before after pc next

inductive Accepts (code : Code) (w : List Char) : Nat → Nat → Nat → Prop
  | accept {pc i : Nat} (here : code[pc]? = some .accept) : Accepts code w 0 pc i
  | chars {n pc next i : Nat} {s : Unicode.CharSet} {c : Char} (here : code[pc]? = some (.chars s next))
      (char : w[i]? = some c) (holds : s.contains c.toNat = true) (rest : Accepts code w n next (i + 1)) :
      Accepts code w (n + 1) pc i
  | silent {n pc next i : Nat} (step : Silent code (previous? w i) w[i]? pc next)
      (rest : Accepts code w n next i) : Accepts code w (n + 1) pc i

def Holds (C code : Code) (start : Nat) : Prop :=
  ∀ pc, start ≤ pc → pc < code.size → C[pc]? = code[pc]?

/-- The code written by `body` leads from its entry to `next` just along `R`, whatever stands around it. -/
structure Implements (w : List Char) (body : Nat → Code → Nat × Code) (R : Nat → Nat → Prop) : Prop where
  grows (next : Nat) (code : Code) : code.size ≤ (body next code).2.size
  keeps (next : Nat) (code : Code) (pc : Nat) : pc < code.size → (body next code).2[pc]? = code[pc]?
  forks (next : Nat) (code : Code) (pc : Nat) (l : List Nat) : code.size ≤ pc →
    (body next code).2[pc]? = some (.fork l) → l.length ≤ 2
  sound (next : Nat) (code C : Code) (n i : Nat) : Holds C (body next code).2 code.size →
    Accepts C w n (body next code).1 i → ∃ m ≤ n, ∃ j, R i j ∧ Accepts C w m next j
  complete (next : Nat) (code C : Code) (m i j : Nat) : Holds C (body next code).2 code.size → R i j →
    Accepts C w m next j → ∃ n, Accepts C w n (body next code).1 i

variable {w : List Char} {C code : Code} {R S : Nat → Nat → Prop} {b c : Nat → Code → Nat × Code}
  {m n i j k pc next : Nat}

lemma Times.append (h : Times R m i j) (h' : Times R n j k) : Times R (m + n) i k := by
  induction h with
  | zero => simpa using h'
  | succ first _ ih =>
    rw [Nat.succ_add]
    exact .succ first (ih h')

lemma Times.split (h : Times R (m + n) i k) : ∃ j, Times R m i j ∧ Times R n j k := by
  induction m generalizing i with
  | zero => exact ⟨i, .zero, by simpa using h⟩
  | succ m ih =>
    rw [Nat.succ_add] at h
    obtain - | ⟨first, rest⟩ := h
    obtain ⟨j, front, back⟩ := ih rest
    exact ⟨j, .succ first front, back⟩

lemma accepts_iff : Accepts C w n pc i ↔ match C[pc]? with
    | none => False
    | some .accept => n = 0
    | some (.chars s next) => ∃ m, n = m + 1 ∧ (∃ c, w[i]? = some c ∧ s.contains c.toNat = true) ∧
        Accepts C w m next (i + 1)
    | some (.look l next) => ∃ m, n = m + 1 ∧ l.holds (previous? w i) w[i]? = true ∧ Accepts C w m next i
    | some (.save _ next) => ∃ m, n = m + 1 ∧ Accepts C w m next i
    | some (.fork l) => ∃ m, n = m + 1 ∧ ∃ q ∈ l, Accepts C w m q i := by
  constructor
  · rintro (here | ⟨here, char, holds, rest⟩ | ⟨⟨here, holds⟩ | here | ⟨here, way⟩, rest⟩)
    · rw [here]
    · rw [here]
      exact ⟨_, rfl, ⟨_, char, holds⟩, rest⟩
    · rw [here]
      exact ⟨_, rfl, holds, rest⟩
    · rw [here]
      exact ⟨_, rfl, rest⟩
    · rw [here]
      exact ⟨_, rfl, _, way, rest⟩
  · intro h
    split at h
    · exact h.elim
    · rename_i here
      exact h ▸ .accept here
    · rename_i here
      obtain ⟨m, rfl, ⟨c, char, holds⟩, rest⟩ := h
      exact .chars here char holds rest
    · rename_i here
      obtain ⟨m, rfl, holds, rest⟩ := h
      exact .silent (.look here holds) rest
    · rename_i here
      obtain ⟨m, rfl, rest⟩ := h
      exact .silent (.save here) rest
    · rename_i here
      obtain ⟨m, rfl, q, way, rest⟩ := h
      exact .silent (.fork here way) rest

lemma Holds.push {x : Instr} (h : Holds C (code.push x) code.size) : C[code.size]? = some x := by
  rw [h code.size le_rfl (by simp)]
  simp

lemma getElem?_push_of_lt {x : Instr} (h : pc < code.size) : (code.push x)[pc]? = code[pc]? := by
  simp [Array.getElem?_push, h.ne]

lemma Implements.holds_before (h : Implements w b R) {start : Nat}
    (holds : Holds C (b next code).2 start) : Holds C code start := by
  intro pc le lt
  rw [holds pc le (lt.trans_le (h.grows next code)), h.keeps next code pc lt]

lemma Holds.of_le {start start' : Nat} (le : start ≤ start') (h : Holds C code start) : Holds C code start' :=
  fun pc h' => h pc (le.trans h')

lemma Holds.before_push {x : Instr} {start : Nat} (h : Holds C (code.push x) start) : Holds C code start := by
  intro pc le lt
  rw [h pc le (by simp; omega), getElem?_push_of_lt lt]

lemma Implements.skip : Implements w (fun next code => (next, code)) Eq where
  grows _ _ := le_rfl
  keeps _ _ _ _ := rfl
  forks _ code pc l le here := by
    have none : code[pc]? = none := by simp [le]
    simp [none] at here
  sound _ _ _ n i _ accepts := ⟨n, le_rfl, i, rfl, accepts⟩
  complete _ _ _ m _ _ _ eq accepts := ⟨m, eq ▸ accepts⟩

lemma Implements.congr (h : Implements w b R) (iff : ∀ i j, R i j ↔ S i j) : Implements w b S := by
  have : R = S := by
    funext i j
    exact propext (iff i j)
  exact this ▸ h

lemma Implements.emit {instr : Nat → Instr} (single : ∀ next l, instr next ≠ .fork l)
    (sound : ∀ C pc next n i, C[pc]? = some (instr next) → Accepts C w n pc i →
      ∃ m ≤ n, ∃ j, R i j ∧ Accepts C w m next j)
    (complete : ∀ C pc next m i j, C[pc]? = some (instr next) → R i j → Accepts C w m next j →
      ∃ n, Accepts C w n pc i) :
    Implements w (fun next => emit (instr next)) R where
  grows next code := by simp [Regex.emit]
  keeps _ code pc lt := getElem?_push_of_lt lt
  forks next code pc l le here := by
    obtain rfl | lt := le.eq_or_lt
    · simp [Regex.emit, single] at here
    · have none : (code.push (instr next))[pc]? = none := by
        simp
        omega
      simp [Regex.emit, none] at here
  sound next code C n i holds := sound C code.size next n i holds.push
  complete next code C m i j holds := complete C code.size next m i j holds.push

lemma Implements.comp (hb : Implements w b R) (hc : Implements w c S) :
    Implements w (fun next code => b (c next code).1 (c next code).2) (Relation.Comp R S) where
  grows next code := (hc.grows next code).trans (hb.grows _ _)
  keeps next code pc lt := by
    rw [hb.keeps _ _ pc (lt.trans_le (hc.grows next code)), hc.keeps next code pc lt]
  forks next code pc l le here := by
    by_cases later : (c next code).2.size ≤ pc
    · exact hb.forks _ _ pc l later here
    · rw [hb.keeps _ _ pc (by omega)] at here
      exact hc.forks next code pc l le here
  sound next code C n i holds accepts := by
    obtain ⟨m, le, j, first, accepts⟩ := hb.sound _ _ C n i (holds.of_le (hc.grows next code)) accepts
    obtain ⟨m', le', k, second, accepts⟩ := hc.sound next code C m j (hb.holds_before holds) accepts
    exact ⟨m', le'.trans le, k, ⟨j, first, second⟩, accepts⟩
  complete next code C m i k holds related accepts := by
    obtain ⟨j, first, second⟩ := related
    obtain ⟨m, accepts⟩ := hc.complete next code C m j k (hb.holds_before holds) second accepts
    exact hb.complete _ _ C m i j (holds.of_le (hc.grows next code)) first accepts

lemma mem_ways {greedy : Bool} {a b q : Nat} {l : List Nat} (h : ways greedy a b = .fork l) :
    q ∈ l ↔ q = a ∨ q = b := by
  cases greedy <;> cases h <;> simp [or_comm]

lemma length_of_ways {greedy : Bool} {a b : Nat} {l : List Nat} (h : ways greedy a b = .fork l) :
    l.length ≤ 2 := by
  cases greedy <;> cases h <;> simp

lemma Accepts.of_ways {greedy : Bool} {a b : Nat} (here : C[pc]? = some (ways greedy a b))
    (h : Accepts C w n pc i) : ∃ m, n = m + 1 ∧ (Accepts C w m a i ∨ Accepts C w m b i) := by
  rw [accepts_iff, here] at h
  obtain ⟨m, rfl, q, way, rest⟩ := h
  obtain rfl | rfl := (mem_ways rfl).1 way
  · exact ⟨m, rfl, .inl rest⟩
  · exact ⟨m, rfl, .inr rest⟩

lemma Accepts.ways {greedy : Bool} {a b : Nat} (here : C[pc]? = some (ways greedy a b))
    (h : Accepts C w n a i ∨ Accepts C w n b i) : Accepts C w (n + 1) pc i := by
  obtain accepts | accepts := h
  · exact .silent (.fork here ((mem_ways rfl).2 (.inl rfl))) accepts
  · exact .silent (.fork here ((mem_ways rfl).2 (.inr rfl))) accepts

lemma Implements.choice (hb : Implements w b R) (hc : Implements w c S) (greedy : Bool) :
    Implements w (fun next code => Regex.emit (ways greedy (b next code).1 (c next (b next code).2).1)
      (c next (b next code).2).2) (fun i j => R i j ∨ S i j) where
  grows next code := by
    have := hb.grows next code
    have := hc.grows next (b next code).2
    simp [Regex.emit]
    omega
  keeps next code pc lt := by
    have := hb.grows next code
    have := hc.grows next (b next code).2
    simp only [Regex.emit]
    rw [getElem?_push_of_lt (by omega), hc.keeps _ _ pc (by omega), hb.keeps next code pc lt]
  forks next code pc l le here := by
    simp only [Regex.emit] at here
    by_cases last : (c next (b next code).2).2.size ≤ pc
    · obtain rfl | lt := last.eq_or_lt
      · simp only [Array.getElem?_push_size, Option.some.injEq] at here
        exact length_of_ways here
      · rw [Array.getElem?_eq_none (by simp; omega)] at here
        simp at here
    · rw [getElem?_push_of_lt (by omega)] at here
      by_cases later : (b next code).2.size ≤ pc
      · exact hc.forks _ _ pc l later here
      · rw [hc.keeps _ _ pc (by omega)] at here
        exact hb.forks next code pc l le here
  sound next code C n i holds accepts := by
    have grows := (hb.grows next code).trans (hc.grows next _)
    obtain ⟨m, rfl, accepts | accepts⟩ := accepts.of_ways (holds.of_le grows).push
    · obtain ⟨m', le, j, related, accepts⟩ :=
        hb.sound next code C m i (hc.holds_before holds.before_push) accepts
      exact ⟨m', by omega, j, .inl related, accepts⟩
    · obtain ⟨m', le, j, related, accepts⟩ :=
        hc.sound next _ C m i (holds.before_push.of_le (hb.grows next code)) accepts
      exact ⟨m', by omega, j, .inr related, accepts⟩
  complete next code C m i j holds related accepts := by
    have here := (holds.of_le ((hb.grows next code).trans (hc.grows next _))).push
    obtain related | related := related
    · obtain ⟨n, accepts⟩ := hb.complete next code C m i j (hc.holds_before holds.before_push) related accepts
      exact ⟨_, .ways here (.inl accepts)⟩
    · obtain ⟨n, accepts⟩ :=
        hc.complete next _ C m i j (holds.before_push.of_le (hb.grows next code)) related accepts
      exact ⟨_, .ways here (.inr accepts)⟩

lemma Implements.loop_holds (h : Implements w b R) {greedy : Bool}
    (holds : Holds C (emitPlus b greedy next code).2 code.size) :
    C[code.size]? = some (ways greedy (b code.size (code.push (.fork []))).1 next) ∧
      Holds C (b code.size (code.push (.fork []))).2 (code.push (.fork [])).size := by
  have room : code.size < (b code.size (code.push (.fork []))).2.size := by
    have := h.grows code.size (code.push (.fork []))
    simp only [Array.size_push] at this
    omega
  constructor
  · rw [holds code.size le_rfl (by simpa [emitPlus] using room)]
    simp [emitPlus, room]
  · intro pc le lt
    simp only [Array.size_push] at le
    rw [holds pc (by omega) (by simpa [emitPlus] using lt)]
    simp only [emitPlus, Array.getElem?_setIfInBounds]
    rw [if_neg (by omega)]

lemma loop_sound {greedy : Bool} {enter loop : Nat} (here : C[loop]? = some (ways greedy enter next))
    (body : ∀ n i, Accepts C w n enter i → ∃ m ≤ n, ∃ j, R i j ∧ Accepts C w m loop j)
    (accepts : Accepts C w n loop i) : ∃ m ≤ n, ∃ j k, Times R k i j ∧ Accepts C w m next j := by
  -- The body may run without taking a character, so the steps left are what gets less.
  induction n using Nat.strongRecOn generalizing i with
  | ind n ih =>
    obtain ⟨m, rfl, accepts | accepts⟩ := accepts.of_ways here
    · obtain ⟨m', le, j, related, accepts⟩ := body m i accepts
      obtain ⟨m'', le', k, times, rest, accepts⟩ := ih m' (by omega) accepts
      exact ⟨m'', by omega, k, times + 1, .succ related rest, accepts⟩
    · exact ⟨m, by omega, i, 0, .zero, accepts⟩

lemma loop_complete {greedy : Bool} {enter loop : Nat} (here : C[loop]? = some (ways greedy enter next))
    (body : ∀ m i j, R i j → Accepts C w m loop j → ∃ n, Accepts C w n enter i)
    (related : Times R k i j) (accepts : Accepts C w m next j) : ∃ n, Accepts C w n loop i := by
  induction related with
  | zero => exact ⟨_, .ways here (.inr accepts)⟩
  | succ first _ ih =>
    obtain ⟨m, accepts⟩ := ih accepts
    obtain ⟨n, accepts⟩ := body m _ _ first accepts
    exact ⟨_, .ways here (.inl accepts)⟩

lemma Implements.loop_keeps (h : Implements w b R) (greedy : Bool) (lt : pc < code.size) :
    (emitPlus b greedy next code).2[pc]? = code[pc]? := by
  simp only [emitPlus, Array.getElem?_setIfInBounds]
  rw [if_neg (by omega), h.keeps _ _ pc (by simp; omega), getElem?_push_of_lt lt]

lemma Implements.loop_grows (h : Implements w b R) (greedy : Bool) :
    code.size ≤ (emitPlus b greedy next code).2.size := by
  have := h.grows code.size (code.push (.fork []))
  simp only [emitPlus, Array.size_setIfInBounds, Array.size_push] at *
  omega

lemma Implements.loop_forks (h : Implements w b R) {greedy : Bool} {l : List Nat} (le : code.size ≤ pc)
    (here : (emitPlus b greedy next code).2[pc]? = some (.fork l)) : l.length ≤ 2 := by
  simp only [emitPlus, Array.getElem?_setIfInBounds] at here
  split at here
  · split at here
    · simp only [Option.some.injEq] at here
      exact length_of_ways here
    · simp at here
  · exact h.forks _ _ pc l (by simp; omega) here

lemma Implements.plus (h : Implements w b R) (greedy : Bool) :
    Implements w (emitPlus b greedy) fun i j => ∃ n, Times R (n + 1) i j where
  grows _ _ := h.loop_grows greedy
  keeps _ _ _ lt := h.loop_keeps greedy lt
  forks _ _ _ _ le here := h.loop_forks le here
  sound next code C n i holds accepts := by
    obtain ⟨here, inner⟩ := h.loop_holds holds
    have body := fun n i => h.sound code.size _ C n i inner
    obtain ⟨m, le, j, related, accepts⟩ := body n i accepts
    obtain ⟨m', le', k, times, rest, accepts⟩ := loop_sound here body accepts
    exact ⟨m', le'.trans le, k, ⟨times, .succ related rest⟩, accepts⟩
  complete next code C m i k holds related accepts := by
    obtain ⟨here, inner⟩ := h.loop_holds holds
    have body := fun m i j => h.complete code.size _ C m i j inner
    obtain ⟨times, - | ⟨first, rest⟩⟩ := related
    obtain ⟨n, accepts⟩ := loop_complete here body rest accepts
    exact body n i _ first accepts

lemma Implements.star (h : Implements w b R) (nullable greedy : Bool) :
    Implements w (emitStar b nullable greedy) fun i j => ∃ n, Times R n i j := by
  cases nullable with
  | true =>
    have both := ((h.plus greedy).choice .skip greedy).congr (S := fun i j => ∃ n, Times R n i j) fun i j => by
      constructor
      · rintro (⟨n, times⟩ | rfl)
        · exact ⟨n + 1, times⟩
        · exact ⟨0, .zero⟩
      · rintro ⟨- | n, times⟩
        · obtain ⟨⟩ := times
          exact .inr rfl
        · exact .inl ⟨n, times⟩
    exact both
  | false =>
    exact {
      grows := fun _ _ => h.loop_grows greedy
      keeps := fun _ _ _ lt => h.loop_keeps greedy lt
      forks := fun _ _ _ _ le here => h.loop_forks le here
      sound := fun next code C n i holds accepts => by
        obtain ⟨here, inner⟩ := h.loop_holds holds
        obtain ⟨m, le, j, k, times, accepts⟩ :=
          loop_sound here (fun n i => h.sound code.size _ C n i inner) accepts
        exact ⟨m, le, j, ⟨k, times⟩, accepts⟩
      complete := fun next code C m i j holds ⟨_, times⟩ accepts => by
        obtain ⟨here, inner⟩ := h.loop_holds holds
        exact loop_complete here (fun m i j => h.complete code.size _ C m i j inner) times accepts }

lemma Implements.times (h : Implements w b R) (n : Nat) : Implements w (emitTimes b n) (Times R n) := by
  induction n with
  | zero =>
    refine Implements.skip.congr fun i j => ⟨fun eq => eq ▸ .zero, ?_⟩
    rintro ⟨⟩
    rfl
  | succ n ih =>
    refine (h.comp ih).congr fun i j => ⟨fun ⟨_, first, rest⟩ => .succ first rest, ?_⟩
    rintro (- | ⟨first, rest⟩)
    exact ⟨_, first, rest⟩

lemma Implements.upTo (h : Implements w b R) (greedy : Bool) (n : Nat) :
    Implements w (fun next => emitUpTo b greedy next n) fun i j => ∃ k ≤ n, Times R k i j := by
  induction n with
  | zero =>
    refine Implements.skip.congr fun i j => ⟨fun eq => ⟨0, le_rfl, eq ▸ .zero⟩, ?_⟩
    rintro ⟨k, le, times⟩
    obtain rfl : k = 0 := by omega
    obtain ⟨⟩ := times
    rfl
  | succ n ih =>
    refine ((h.comp ih).choice .skip greedy).congr fun i j => ⟨?_, ?_⟩
    · rintro (⟨_, first, k, le, rest⟩ | rfl)
      · exact ⟨k + 1, by omega, .succ first rest⟩
      · exact ⟨0, by omega, .zero⟩
    · rintro ⟨- | k, le, times⟩
      · obtain ⟨⟩ := times
        exact .inr rfl
      · obtain - | ⟨first, rest⟩ := times
        exact .inl ⟨_, first, k, by omega, rest⟩

lemma Implements.look (l : Look) :
    Implements w (fun next => Regex.emit (.look l next))
      fun i j => l.holds (previous? w i) w[i]? = true ∧ i = j := by
  refine .emit (fun _ _ => by simp) ?_ ?_
  · intro C pc next n i here accepts
    rw [accepts_iff, here] at accepts
    obtain ⟨m, rfl, holds, rest⟩ := accepts
    exact ⟨m, by omega, i, ⟨holds, rfl⟩, rest⟩
  · rintro C pc next m i _ here ⟨holds, rfl⟩ accepts
    exact ⟨_, .silent (.look here holds) accepts⟩

lemma Implements.chars (s : Unicode.CharSet) :
    Implements w (fun next => Regex.emit (.chars s next))
      fun i j => (∃ c, w[i]? = some c ∧ s.contains c.toNat = true) ∧ j = i + 1 := by
  refine .emit (fun _ _ => by simp) ?_ ?_
  · intro C pc next n i here accepts
    rw [accepts_iff, here] at accepts
    obtain ⟨m, rfl, char, rest⟩ := accepts
    exact ⟨m, by omega, i + 1, ⟨char, rfl⟩, rest⟩
  · rintro C pc next m i _ here ⟨⟨c, char, holds⟩, rfl⟩ accepts
    exact ⟨_, .chars here char holds accepts⟩

lemma Implements.save (k : Nat) : Implements w (fun next => Regex.emit (.save k next)) Eq := by
  refine .emit (fun _ _ => by simp) ?_ ?_
  · intro C pc next n i here accepts
    rw [accepts_iff, here] at accepts
    obtain ⟨m, rfl, rest⟩ := accepts
    exact ⟨m, by omega, i, rfl, rest⟩
  · rintro C pc next m i _ here rfl accepts
    exact ⟨_, .silent (.save here) accepts⟩

lemma Implements.repetition (h : Implements w b R) (least : Nat) (most : Option Nat) (greedy nullable : Bool) :
    Implements w (fun next code => match most with
      | some most =>
        let (rest, code) := emitUpTo b greedy next (most - least) code
        emitTimes b least rest code
      | none =>
        if least = 0 then emitStar b nullable greedy next code
        else
          let (rest, code) := emitPlus b greedy next code
          emitTimes b (least - 1) rest code)
      fun i j => ∃ n, least ≤ n ∧ (∀ m ∈ most, n ≤ max least m) ∧ Times R n i j := by
  cases most with
  | some most =>
    refine ((h.times least).comp (h.upTo greedy (most - least))).congr fun i j => ⟨?_, ?_⟩
    · rintro ⟨_, front, k, le, back⟩
      exact ⟨least + k, by omega, by simp; omega, front.append back⟩
    · rintro ⟨n, le, bound, times⟩
      obtain ⟨k, rfl⟩ : ∃ k, n = least + k := ⟨n - least, by omega⟩
      obtain ⟨_, front, back⟩ := times.split
      have := bound most rfl
      exact ⟨_, front, k, by omega, back⟩
  | none =>
    by_cases zero : least = 0
    · simp only [zero, if_true]
      exact (h.star nullable greedy).congr fun i j => by simp
    · simp only [zero, if_false]
      refine ((h.times (least - 1)).comp (h.plus greedy)).congr fun i j => ⟨?_, ?_⟩
      · rintro ⟨_, front, k, back⟩
        exact ⟨least - 1 + (k + 1), by omega, by simp, front.append back⟩
      · rintro ⟨n, le, -, times⟩
        obtain ⟨k, rfl⟩ : ∃ k, n = least - 1 + (k + 1) := ⟨n - least, by omega⟩
        obtain ⟨_, front, back⟩ := times.split
        exact ⟨_, front, k, back⟩

theorem implements_compile (w : List Char) (r : Regex) : Implements w (compile r) (Matches w r) := by
  induction r with
  | empty => exact .skip
  | look l => exact .look l
  | chars s => exact .chars s
  | capture i r ih =>
    refine ((Implements.save (2 * i)).comp (ih.comp (.save (2 * i + 1)))).congr fun i j => ⟨?_, ?_⟩
    · rintro ⟨_, rfl, _, inner, rfl⟩
      exact inner
    · exact fun inner => ⟨_, rfl, _, inner, rfl⟩
  | seq r s ihr ihs => exact ihr.comp ihs
  | alt r s ihr ihs => exact ihr.choice ihs true
  | repetition a b greedy r ih => exact ih.repetition a b greedy r.nullable

end ItemPipeline.Regex
