import ItemPipeline.Proofs.Regex.Compile
import Mathlib.Data.List.Basic

/-!
Following all threads at once finds a match just if one thread alone could.
-/

namespace ItemPipeline.Regex

def Threads.Seen (ts : Threads) (pc : Nat) : Prop :=
  ts.seen.getD pc true = true

def Covered (stack : List Thread) (ts : Threads) (pc : Nat) : Prop :=
  ts.Seen pc ∨ ∃ t ∈ stack, t.pc = pc

def Stops (code : Code) (pc : Nat) : Prop :=
  code[pc]? = some .accept ∨ ∃ s next, code[pc]? = some (.chars s next)

/-- The threads at place `i` of `w` while those of the stack have still to be followed: nothing that a
followed thread leads to is forgotten, and if any of them can accept then `G` holds. -/
structure Settled (code : Code) (w : List Char) (G : Prop) (i : Nat) (stack : List Thread) (ts : Threads) :
    Prop where
  size : ts.seen.size = code.size
  closed (pc q : Nat) : ts.Seen pc → Silent code (previous? w i) w[i]? pc q → Covered stack ts q
  listed (pc : Nat) : ts.Seen pc → Stops code pc → ∃ t ∈ ts.list, t.pc = pc
  stops : ∀ t ∈ ts.list, Stops code t.pc
  leads (t : Thread) : t ∈ ts.list ∨ t ∈ stack → ∀ n, Accepts code w n t.pc i → G

def Narrow (code : Code) : Prop :=
  ∀ (pc : Nat) (l : List Nat), code[pc]? = some (.fork l) → l.length ≤ 2

def mark (ts : Threads) (pc : Nat) : Threads :=
  { ts with seen := ts.seen.setIfInBounds pc true }

variable {code : Code} {w : List Char} {G : Prop} {i n pc q : Nat} {t : Thread} {stack ways : List Thread}
  {ts : Threads}

lemma lt_size_of_unseen (h : ¬ts.Seen pc) : pc < ts.seen.size := by
  by_contra ge
  exact h (by simp [Threads.Seen, Array.getD_eq_getD_getElem?, Array.getElem?_eq_none (by omega : ts.seen.size ≤ pc)])

lemma seen_mark (lt : pc < ts.seen.size) : (mark ts pc).Seen q ↔ q = pc ∨ ts.Seen q := by
  simp only [Threads.Seen, mark, Array.getD_eq_getD_getElem?, Array.getElem?_setIfInBounds, if_pos lt]
  by_cases eq : pc = q
  · simp [eq]
  · simp [eq, Ne.symm eq]

lemma count_mark (h : ¬ts.Seen pc) : (mark ts pc).seen.count false + 1 = ts.seen.count false := by
  have lt := lt_size_of_unseen h
  have unseen : ts.seen[pc] = false := by
    simpa [Threads.Seen, Array.getD_eq_getD_getElem?, lt] using h
  have pos : 0 < ts.seen.count false := Array.count_pos_iff.2 (unseen ▸ Array.getElem_mem lt)
  simp only [mark, Array.setIfInBounds, lt, dite_true, Array.count_set, unseen]
  simp
  omega

lemma silent_iff {before after : Option Char} {x : Instr} (here : code[pc]? = some x) :
    Silent code before after pc q ↔ match x with
      | .look l next => l.holds before after = true ∧ q = next
      | .save _ next => q = next
      | .fork l => q ∈ l
      | _ => False := by
  constructor
  · rintro (⟨here', holds⟩ | ⟨here'⟩ | ⟨here', way⟩)
    · obtain rfl := Option.some.inj (here.symm.trans here')
      exact ⟨holds, rfl⟩
    · obtain rfl := Option.some.inj (here.symm.trans here')
      rfl
    · obtain rfl := Option.some.inj (here.symm.trans here')
      exact way
  · intro h
    cases x with
    | look l next => exact h.2 ▸ .look here h.1
    | save k next => exact h ▸ .save here
    | fork l => exact .fork here h
    | accept => exact h.elim
    | chars s next => exact h.elim

lemma Silent.not_stops {before after : Option Char} (h : Silent code before after pc q) : ¬Stops code pc := by
  rintro (here | ⟨s, next, here⟩)
  · simpa using (silent_iff here).1 h
  · simpa using (silent_iff here).1 h

lemma Settled.skip (h : Settled code w G i (t :: stack) ts) (seen : ts.Seen t.pc) :
    Settled code w G i stack ts where
  size := h.size
  closed pc q hpc step := by
    obtain hq | ⟨u, hu, rfl⟩ := h.closed pc q hpc step
    · exact .inl hq
    · obtain rfl | hu := List.mem_cons.1 hu
      · exact .inl seen
      · exact .inr ⟨u, hu, rfl⟩
  listed := h.listed
  stops := h.stops
  leads u hu := h.leads u (hu.imp_right (List.mem_cons_of_mem t))

lemma Settled.pass (h : Settled code w G i (t :: stack) ts) (unseen : ¬ts.Seen t.pc) (moves : ¬Stops code t.pc)
    (all : ∀ q, (∃ u ∈ ways, u.pc = q) ↔ Silent code (previous? w i) w[i]? t.pc q) :
    Settled code w G i (ways ++ stack) (mark ts t.pc) where
  size := by simpa [mark] using h.size
  closed pc q hpc step := by
    have lt := lt_size_of_unseen unseen
    simp only [Covered, seen_mark lt, List.mem_append]
    obtain rfl | hpc := (seen_mark lt).1 hpc
    · obtain ⟨u, hu, rfl⟩ := (all q).2 step
      exact .inr ⟨u, .inl hu, rfl⟩
    · obtain hq | ⟨u, hu, rfl⟩ := h.closed pc q hpc step
      · exact .inl (.inr hq)
      · obtain rfl | hu := List.mem_cons.1 hu
        · exact .inl (.inl rfl)
        · exact .inr ⟨u, .inr hu, rfl⟩
  listed pc hpc stop := by
    obtain rfl | hpc := (seen_mark (lt_size_of_unseen unseen)).1 hpc
    · exact absurd stop moves
    · exact h.listed pc hpc stop
  stops := h.stops
  leads u hu n accepts := by
    simp only [List.mem_append] at hu
    obtain hu | hu | hu := hu
    · exact h.leads u (.inl hu) n accepts
    · exact h.leads t (.inr List.mem_cons_self) (n + 1) (.silent ((all u.pc).1 ⟨u, hu, rfl⟩) accepts)
    · exact h.leads u (.inr (List.mem_cons_of_mem t hu)) n accepts

lemma Settled.wait (h : Settled code w G i (t :: stack) ts) (unseen : ¬ts.Seen t.pc) (stop : Stops code t.pc) :
    Settled code w G i stack { mark ts t.pc with list := ts.list.push t } where
  size := by simpa [mark] using h.size
  closed pc q hpc step := by
    have lt := lt_size_of_unseen unseen
    have covered : Covered stack (mark ts t.pc) q := by
      obtain rfl | hpc := (seen_mark lt).1 hpc
      · exact absurd stop step.not_stops
      · obtain hq | ⟨u, hu, rfl⟩ := h.closed pc q hpc step
        · exact .inl ((seen_mark lt).2 (.inr hq))
        · obtain rfl | hu := List.mem_cons.1 hu
          · exact .inl ((seen_mark lt).2 (.inl rfl))
          · exact .inr ⟨u, hu, rfl⟩
    exact covered
  listed pc hpc stop' := by
    obtain rfl | hpc := (seen_mark (lt_size_of_unseen unseen)).1 hpc
    · exact ⟨t, by simp, rfl⟩
    · obtain ⟨u, hu, rfl⟩ := h.listed pc hpc stop'
      exact ⟨u, by simp [hu], rfl⟩
  stops u hu := by
    obtain hu | rfl := Array.mem_push.1 hu
    · exact h.stops u hu
    · exact stop
  leads u hu := by
    obtain hu | hu := hu
    · obtain hu | rfl := Array.mem_push.1 hu
      · exact h.leads u (.inl hu)
      · exact h.leads u (.inr List.mem_cons_self)
    · exact h.leads u (.inr (List.mem_cons_of_mem t hu))

def Completes (code : Code) (w : List Char) (G : Prop) (i : Nat) (stack : List Thread) (ts ts' : Threads) : Prop :=
  Settled code w G i [] ts' ∧ ∀ pc, Covered stack ts pc → ts'.Seen pc

lemma covered_cons : Covered (t :: stack) ts pc ↔ pc = t.pc ∨ Covered stack ts pc := by
  simp only [Covered, List.mem_cons]
  constructor
  · rintro (seen | ⟨u, rfl | hu, rfl⟩)
    · exact .inr (.inl seen)
    · exact .inl rfl
    · exact .inr (.inr ⟨u, hu, rfl⟩)
  · rintro (rfl | seen | ⟨u, hu, rfl⟩)
    · exact .inr ⟨t, .inl rfl, rfl⟩
    · exact .inl seen
    · exact .inr ⟨u, .inr hu, rfl⟩

lemma Completes.of_mark {stack' : List Thread} {ts' : Threads} {list : Array Thread} (unseen : ¬ts.Seen t.pc)
    (h : Completes code w G i stack' { mark ts t.pc with list := list } ts') (sub : ∀ u ∈ stack, u ∈ stack') :
    Completes code w G i (t :: stack) ts ts' := by
  refine ⟨h.1, fun pc covered => h.2 pc ?_⟩
  obtain rfl | seen | ⟨u, hu, rfl⟩ := covered_cons.1 covered
  · exact .inl ((seen_mark (lt_size_of_unseen unseen)).2 (.inl rfl))
  · exact .inl ((seen_mark (lt_size_of_unseen unseen)).2 (.inr seen))
  · exact .inr ⟨u, sub u hu, rfl⟩

lemma Settled.follow (narrow : Narrow code) (pos : Nat) {fuel : Nat} (h : Settled code w G i stack ts)
    (enough : stack.length + 2 * ts.seen.count false ≤ fuel) :
    Completes code w G i stack ts (follow code pos (previous? w i) w[i]? stack ts fuel) := by
  induction fuel generalizing stack ts with
  | zero =>
    obtain rfl : stack = [] := List.eq_nil_of_length_eq_zero (by omega)
    exact ⟨h, fun pc covered => covered.resolve_right (by simp)⟩
  | succ fuel ih =>
    cases stack with
    | nil => exact ⟨h, fun pc covered => covered.resolve_right (by simp)⟩
    | cons t stack =>
      rw [Regex.follow]
      simp only [List.length_cons] at enough
      by_cases seen : ts.Seen t.pc
      · rw [if_pos (show ts.seen.getD t.pc true = true from seen)]
        obtain ⟨settled, covers⟩ := ih (h.skip seen) (by omega)
        refine ⟨settled, fun pc covered => covers pc ?_⟩
        obtain rfl | covered := covered_cons.1 covered
        · exact .inl seen
        · exact covered
      · rw [if_neg (show ¬ts.seen.getD t.pc true = true from seen)]
        have here : code[t.pc]? = some (code.getD t.pc .accept) := by
          simp [Array.getD_eq_getD_getElem?, h.size ▸ lt_size_of_unseen seen]
        have less := count_mark seen
        have pass (ways : List Thread) (few : ways.length ≤ 2) (moves : ¬Stops code t.pc)
            (all : ∀ q, (∃ u ∈ ways, u.pc = q) ↔ Silent code (previous? w i) w[i]? t.pc q) :
            Completes code w G i (t :: stack) ts
              (Regex.follow code pos (previous? w i) w[i]? (ways ++ stack) (mark ts t.pc) fuel) :=
          (ih (h.pass seen moves all) (by simp; omega)).of_mark seen (by simp +contextual)
        have wait (stop : Stops code t.pc) : Completes code w G i (t :: stack) ts
            (Regex.follow code pos (previous? w i) w[i]? stack { mark ts t.pc with list := ts.list.push t } fuel) :=
          (ih (h.wait seen stop) (by simp only; omega)).of_mark seen fun _ hu => hu
        dsimp only
        generalize code.getD t.pc .accept = x at here
        cases x with
        | accept => exact wait (.inl here)
        | chars s next => exact wait (.inr ⟨s, next, here⟩)
        | look l next =>
          have moves : ¬Stops code t.pc := by simp [Stops, here]
          by_cases holds : l.holds (previous? w i) w[i]? = true
          · simp only [holds, if_true]
            exact pass [⟨next, t.slots⟩] (by simp) moves fun q => by simp [silent_iff here, holds, eq_comm]
          · simp only [holds]
            exact pass [] (by simp) moves fun q => by simp [silent_iff here, holds]
        | save k next =>
          exact pass [⟨next, t.slots.setIfInBounds k (some pos)⟩] (by simp) (by simp [Stops, here])
            fun q => by simp [silent_iff here, eq_comm]
        | fork l =>
          refine pass (l.map (⟨·, t.slots⟩)) ?_ (by simp [Stops, here]) fun q => by simp [silent_iff here]
          simpa using narrow t.pc l here

lemma Settled.accepts (h : Settled code w G i [] ts) (seen : ts.Seen pc) (accepts : Accepts code w n pc i) :
    ∃ t ∈ ts.list, ∃ m, Accepts code w m t.pc i := by
  induction accepts with
  | accept here =>
    obtain ⟨t, ht, rfl⟩ := h.listed _ seen (.inl here)
    exact ⟨t, ht, _, .accept here⟩
  | chars here char holds rest =>
    obtain ⟨t, ht, rfl⟩ := h.listed _ seen (.inr ⟨_, _, here⟩)
    exact ⟨t, ht, _, .chars here char holds rest⟩
  | silent step _ ih => exact ih h ((h.closed _ _ seen step).resolve_right (by simp))

lemma Settled.add (narrow : Narrow code) (pos : Nat) (h : Settled code w G i [] ts)
    (leads : ∀ n, Accepts code w n t.pc i → G) :
    Completes code w G i [t] ts (Regex.follow code pos (previous? w i) w[i]? [t] ts (followFuel code)) := by
  have start : Settled code w G i [t] ts := {
    size := h.size
    closed := fun pc q seen step => .inl ((h.closed pc q seen step).resolve_right (by simp))
    listed := h.listed
    stops := h.stops
    leads := by
      rintro u (hu | hu)
      · exact h.leads u (.inl hu)
      · obtain rfl := List.mem_singleton.1 hu
        exact leads }
  refine start.follow narrow pos ?_
  have : ts.seen.count false ≤ ts.seen.size := Array.count_le_size
  simp only [List.length_singleton, followFuel, ← h.size]
  omega

lemma settled_empty (code : Code) (w : List Char) (G : Prop) (i : Nat) :
    Settled code w G i [] ⟨#[], Array.replicate code.size false⟩ := by
  have outside (pc : Nat) (seen : Threads.Seen ⟨#[], Array.replicate code.size false⟩ pc) : code[pc]? = none := by
    by_contra inside
    have lt : pc < code.size := by simpa using inside
    simp [Threads.Seen, Array.getD_eq_getD_getElem?, lt] at seen
  exact {
    size := by simp
    closed := fun pc q seen step => by cases step <;> simp_all
    listed := fun pc seen stop => by simp [Stops, outside pc seen] at stop
    stops := by simp
    leads := by simp }

structure Advanced (code : Code) (w : List Char) (G : Prop) (i : Nat) (l : List Thread) (next : Threads)
    (result : Threads × Option Slots) : Prop where
  settled : Settled code w G (i + 1) [] result.1
  keeps (pc : Nat) : next.Seen pc → result.1.Seen pc
  hit : result.2.isSome → G
  goes : ∀ t ∈ l, ∀ n, Accepts code w n t.pc i →
    result.2.isSome ∨ ∃ q m, result.1.Seen q ∧ Accepts code w m q (i + 1)

lemma advanced (narrow : Narrow code) {c : Char} (char : w[i]? = some c) {l : List Thread} {next : Threads}
    (stops : ∀ t ∈ l, Stops code t.pc) (leads : ∀ t ∈ l, ∀ n, Accepts code w n t.pc i → G)
    (settled : Settled code w G (i + 1) [] next) :
    Advanced code w G i l next (advance code c i w[i + 1]? l next) := by
  induction l generalizing next with
  | nil => exact ⟨settled, fun _ seen => seen, by simp [advance], by simp⟩
  | cons t l ih =>
    rw [advance]
    have before : previous? w (i + 1) = some c := by simpa [previous?] using char
    obtain here | ⟨s, q, here⟩ := stops t List.mem_cons_self
    · have accept : code.getD t.pc .accept = .accept := by simp [Array.getD_eq_getD_getElem?, here]
      rw [accept]
      exact ⟨settled, fun _ seen => seen, fun _ => leads t List.mem_cons_self 0 (.accept here),
        fun _ _ _ _ => .inl rfl⟩
    · have chars : code.getD t.pc .accept = .chars s q := by simp [Array.getD_eq_getD_getElem?, here]
      rw [chars]
      have stops' := fun u hu => stops u (List.mem_cons_of_mem t hu)
      have leads' := fun u hu => leads u (List.mem_cons_of_mem t hu)
      by_cases holds : s.contains c.toNat = true
      · simp only [holds, if_true]
        obtain ⟨added, covers⟩ := settled.add (t := ⟨q, t.slots⟩) narrow (i + 1) fun n accepts =>
          leads t List.mem_cons_self _ (.chars here char holds accepts)
        rw [before] at added covers
        have rest := ih stops' leads' added
        refine ⟨rest.settled, fun pc seen => rest.keeps pc (covers pc (.inl seen)), rest.hit, ?_⟩
        intro u hu n accepts
        obtain rfl | hu := List.mem_cons.1 hu
        · rw [accepts_iff, here] at accepts
          obtain ⟨m, rfl, -, accepts⟩ := accepts
          exact .inr ⟨q, m, rest.keeps q (covers q (.inr ⟨_, List.mem_singleton_self _, rfl⟩)), accepts⟩
        · exact rest.goes u hu n accepts
      · simp only [holds]
        have rest := ih stops' leads' settled
        refine ⟨rest.settled, rest.keeps, rest.hit, ?_⟩
        intro u hu n accepts
        obtain rfl | hu := List.mem_cons.1 hu
        · rw [accepts_iff, here] at accepts
          obtain ⟨m, rfl, ⟨d, char', holds'⟩, -⟩ := accepts
          obtain rfl := Option.some.inj (char.symm.trans char')
          exact absurd holds' holds
        · exact rest.goes u hu n accepts

variable {p : Program} {best : Option Slots} {rest : List Char}

def Program.Finds (p : Program) (w : List Char) : Prop :=
  ∃ i ≤ w.length, ∃ n, Accepts p.code w n p.start i

lemma Settled.withNewThread (narrow : Narrow p.code) (h : Settled p.code w (p.Finds w) i [] ts)
    (le : i ≤ w.length) (best : Option Slots) :
    let ts' := withNewThread p (previous? w i) i w[i]? best ts
    Settled p.code w (p.Finds w) i [] ts' ∧ (∀ pc, ts.Seen pc → ts'.Seen pc) ∧
      (best = none → ts'.Seen p.start) := by
  unfold Regex.withNewThread
  cases best with
  | some slots => exact ⟨h, fun _ seen => seen, nofun⟩
  | none =>
    obtain ⟨settled, covers⟩ := h.add (t := ⟨p.start, Array.replicate (2 * (p.groups + 1)) none⟩) narrow i
      fun n accepts => ⟨i, le, n, accepts⟩
    exact ⟨settled, fun pc seen => covers pc (.inl seen),
      fun _ => covers p.start (.inr ⟨_, List.mem_singleton_self _, rfl⟩)⟩

/-- There is a match, or a thread that leads to one, or a place not reached yet where one begins. -/
def Hopes (p : Program) (w : List Char) (i : Nat) (ts : Threads) (best : Option Slots) : Prop :=
  best.isSome ∨ (∃ pc n, ts.Seen pc ∧ Accepts p.code w n pc i) ∨
    ∃ j, i ≤ j ∧ j ≤ w.length ∧ ∃ n, Accepts p.code w n p.start j

section Hope

variable {ts' next : Threads} {result : Threads × Option Slots} (hopes : Hopes p w i ts best)
  (settled : Settled p.code w G i [] ts') (keeps : ∀ pc, ts.Seen pc → ts'.Seen pc)
  (starts : best = none → ts'.Seen p.start)

include hopes settled keeps starts

lemma Hopes.step (step : Advanced p.code w G i ts'.list.toList next result) :
    Hopes p w (i + 1) result.1 (result.2 <|> best) := by
  have moves (pc n : Nat) (seen : ts'.Seen pc) (accepts : Accepts p.code w n pc i) :
      Hopes p w (i + 1) result.1 (result.2 <|> best) := by
    obtain ⟨t, ht, m, accepts⟩ := settled.accepts seen accepts
    obtain hit | ⟨q, m, seen, accepts⟩ := step.goes t (by simpa using ht) m accepts
    · exact .inl (by simp [Option.orElse_eq_or, hit])
    · exact .inr (.inl ⟨q, m, seen, accepts⟩)
  obtain hit | ⟨pc, n, seen, accepts⟩ | ⟨j, hij, hj, n, accepts⟩ := hopes
  · exact .inl (by simp [Option.orElse_eq_or, hit])
  · exact moves pc n (keeps pc seen) accepts
  · obtain rfl | later := hij.eq_or_lt
    · by_cases none : best = none
      · exact moves p.start n (starts none) accepts
      · exact .inl (by simp [Option.orElse_eq_or, Option.isSome_iff_ne_none.2 none])
    · exact .inr (.inr ⟨j, later, hj, n, accepts⟩)

lemma Hopes.ended (stop : w[i]? = none) :
    (∃ t ∈ ts'.list, ∃ n, Accepts p.code w n t.pc i) ∨ best.isSome := by
  by_cases none : best = none
  · obtain hit | ⟨pc, n, seen, accepts⟩ | ⟨j, hij, hj, n, accepts⟩ := hopes
    · exact .inr hit
    · exact .inl (settled.accepts (keeps pc seen) accepts)
    · have : w.length ≤ i := by simpa using stop
      obtain rfl : j = i := by omega
      exact .inl (settled.accepts (starts none) accepts)
  · exact .inr (Option.isSome_iff_ne_none.2 none)

end Hope

lemma isSome_accepted (stops : ∀ t ∈ ts.list, Stops code t.pc) (stop : w[i]? = none) :
    (accepted code ts.list).isSome ↔ ∃ t ∈ ts.list, ∃ n, Accepts code w n t.pc i := by
  simp only [accepted, Option.isSome_map, Array.find?_isSome]
  refine exists_congr fun t => and_congr_right fun ht => ?_
  obtain here | ⟨s, next, here⟩ := stops t ht
  · simp only [Array.getD_eq_getD_getElem?, here, Option.getD_some, true_iff]
    exact ⟨0, .accept here⟩
  · simp only [Array.getD_eq_getD_getElem?, here, Option.getD_some, Bool.false_eq_true, false_iff]
    rintro ⟨n, accepts⟩
    rw [accepts_iff, here] at accepts
    obtain ⟨m, rfl, ⟨c, char, -⟩, -⟩ := accepts
    simp [stop] at char

lemma runFrom_spec (narrow : Narrow p.code) (h : Settled p.code w (p.Finds w) i [] ts) (le : i ≤ w.length)
    (left : w.drop i = rest) (found : best.isSome → p.Finds w) :
    ((runFrom p (previous? w i) i ts best rest).isSome → p.Finds w) ∧
      (Hopes p w i ts best → (runFrom p (previous? w i) i ts best rest).isSome) := by
  induction rest generalizing i ts best with
  | nil =>
    have stop : w[i]? = none := by simpa using left
    have now := h.withNewThread narrow le best
    rw [stop] at now
    rw [runFrom]
    dsimp only at now ⊢
    generalize withNewThread p (previous? w i) i none best ts = ts' at now
    obtain ⟨settled, keeps, starts⟩ := now
    have result := isSome_accepted settled.stops stop
    simp only [Option.orElse_eq_orElse, Option.orElse_eq_or, Option.isSome_or, Bool.or_eq_true, result]
    constructor
    · rintro (⟨t, ht, n, accepts⟩ | hit)
      · exact settled.leads t (.inl ht) n accepts
      · exact found hit
    · exact fun hopes => hopes.ended settled keeps starts stop
  | cons c rest ih =>
    have char : w[i]? = some c := by
      rw [← List.head?_drop, left, List.head?_cons]
    have after : w.drop (i + 1) = rest := by
      rw [← List.tail_drop, left, List.tail_cons]
    have head : rest.head? = w[i + 1]? := by
      rw [← after, List.head?_drop]
    have lt : i < w.length := (List.getElem?_eq_some_iff.1 char).1
    have before : previous? w (i + 1) = some c := by simpa [previous?] using char
    have now := h.withNewThread narrow le best
    rw [char] at now
    rw [runFrom]
    dsimp only at now ⊢
    generalize withNewThread p (previous? w i) i (some c) best ts = ts' at now
    obtain ⟨settled, keeps, starts⟩ := now
    split
    · rename_i stays
      exact ⟨fun _ => found stays.2, fun _ => stays.2⟩
    · have step := advanced (l := ts'.list.toList) narrow char (by simpa using settled.stops)
        (fun t ht => settled.leads t (.inl (by simpa using ht))) (settled_empty p.code w (p.Finds w) (i + 1))
      rw [head]
      generalize advance p.code c i w[i + 1]? ts'.list.toList _ = result at step
      have found' : (result.2 <|> best).isSome → p.Finds w := by
        simp only [Option.orElse_eq_orElse, Option.orElse_eq_or, Option.isSome_or, Bool.or_eq_true]
        exact fun hit => hit.elim step.hit found
      obtain ⟨sound, complete⟩ := ih step.settled lt after found'
      rw [before] at sound complete
      exact ⟨sound, fun hopes => complete (hopes.step settled keeps starts step)⟩

theorem Program.isMatch_iff (narrow : Narrow p.code) : p.isMatch w = true ↔ p.Finds w := by
  have nothing : (none : Option Slots).isSome → p.Finds w := by simp
  obtain ⟨sound, complete⟩ := runFrom_spec narrow (settled_empty p.code w (p.Finds w) 0) (Nat.zero_le _)
    List.drop_zero nothing
  exact ⟨sound, fun ⟨j, hj, n, accepts⟩ => complete (.inr (.inr ⟨j, Nat.zero_le j, hj, n, accepts⟩))⟩

lemma keeps_accept (r : Regex) (groups : Nat) : (Program.ofRegex r groups).code[0]? = some .accept :=
  (implements_compile [] (.capture 0 r)).keeps 0 #[.accept] 0 (by simp)

lemma narrow_ofRegex (r : Regex) (groups : Nat) : Narrow (Program.ofRegex r groups).code := by
  intro pc l here
  by_cases first : pc = 0
  · simp [first, keeps_accept] at here
  · exact (implements_compile [] (.capture 0 r)).forks 0 #[.accept] pc l (by simp; omega) here

theorem isMatch_ofRegex (r : Regex) (groups : Nat) :
    (Program.ofRegex r groups).isMatch w = true ↔ ∃ i ≤ w.length, ∃ j, Matches w r i j := by
  rw [Program.isMatch_iff (narrow_ofRegex r groups)]
  have h := implements_compile w (.capture 0 r)
  have itself : Holds (Program.ofRegex r groups).code (compile (.capture 0 r) 0 #[.accept]).2 1 :=
    fun _ _ _ => rfl
  constructor
  · rintro ⟨i, le, n, accepts⟩
    obtain ⟨m, -, j, related, -⟩ := h.sound 0 #[.accept] _ n i itself accepts
    exact ⟨i, le, j, related⟩
  · rintro ⟨i, le, j, related⟩
    obtain ⟨n, accepts⟩ := h.complete 0 #[.accept] _ 0 i j itself related (.accept (keeps_accept r groups))
    exact ⟨i, le, n, accepts⟩

end ItemPipeline.Regex
