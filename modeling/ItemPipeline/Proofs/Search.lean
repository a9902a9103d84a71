import ItemPipeline.Proofs.Reference
import Mathlib.Data.List.Chain
import Mathlib.Data.Prod.Lex
import Mathlib.Data.Set.Card

/-!
The search for cycles as a walk in small steps. On any graph the walk comes to an end, at a closed path
or with everything visited, and what the check of a configuration answers is where it ends.
-/

namespace ItemPipeline

open Relation

/-- A search under way. `path` leads to where it is, newest first, and `ahead` holds what is left to
visit on each level, deepest first, down to the ids that the search began with. -/
structure Search where
  path : List UInt64
  ahead : List (List UInt64)
  done : List UInt64

namespace Search

def start (ids : List UInt64) : Search :=
  ⟨[], [ids], []⟩

inductive Step (next : UInt64 → List UInt64) : Search → Search → Prop
  | pass {path ids done : List UInt64} {ahead : List (List UInt64)} {i : UInt64} (apart : i ∉ path)
      (known : i ∈ done) : Step next ⟨path, (i :: ids) :: ahead, done⟩ ⟨path, ids :: ahead, done⟩
  | enter {path ids done : List UInt64} {ahead : List (List UInt64)} {i : UInt64} (apart : i ∉ path)
      (fresh : i ∉ done) :
      Step next ⟨path, (i :: ids) :: ahead, done⟩ ⟨i :: path, next i :: ids :: ahead, done⟩
  | leave {path done : List UInt64} {ahead : List (List UInt64)} {i : UInt64} :
      Step next ⟨i :: path, [] :: ahead, done⟩ ⟨path, ahead, i :: done⟩

inductive Ends : Search → Option (List UInt64) → Prop
  | explored {done : List UInt64} : Ends ⟨[], [[]], done⟩ none
  | closed {path ids done : List UInt64} {ahead : List (List UInt64)} {i : UInt64} (again : i ∈ path) :
      Ends ⟨path, (i :: ids) :: ahead, done⟩ (some (i :: (path.takeWhile (· ≠ i)).reverse ++ [i]))

variable {next : UInt64 → List UInt64} {s s' : Search}

lemma Step.unique : Relator.RightUnique (Step next) := by
  intro s a b ha hb
  cases ha <;> cases hb <;> trivial

lemma Ends.unique {o o' : Option (List UInt64)} (h : s.Ends o) (h' : s.Ends o') : o = o' := by
  cases h <;> cases h' <;> rfl

lemma Ends.not_step {o : Option (List UInt64)} (h : s.Ends o) : ¬ Step next s s' := by
  intro hs
  cases h <;> cases hs <;> contradiction

section Termination

def unseen (s : Search) : Set UInt64 :=
  {i | i ∉ s.path ∧ i ∉ s.done}

def size (s : Search) : ℕ :=
  (s.ahead.map fun l => l.length + 1).sum

noncomputable def potential (s : Search) : ℕ ×ₗ ℕ :=
  toLex (s.unseen.ncard, s.size)

lemma Step.potential_lt (h : Step next s s') : s'.potential < s.potential := by
  refine Prod.Lex.toLex_lt_toLex.2 ?_
  cases h with
  | pass apart known => exact .inr ⟨rfl, by simp [size]⟩
  | @enter path ids done ahead i apart fresh =>
    refine .inl (Set.ncard_lt_ncard (Set.ssubset_iff_of_subset ?_ |>.2 ⟨i, ⟨apart, fresh⟩, ?_⟩))
    · exact fun j hj => ⟨fun hp => hj.1 (List.mem_cons_of_mem _ hp), hj.2⟩
    · exact fun hi => hi.1 List.mem_cons_self
  | @leave path done ahead i =>
    have same : unseen ⟨path, ahead, i :: done⟩ = unseen ⟨i :: path, [] :: ahead, done⟩ := by
      ext j
      simp only [unseen, Set.mem_ofPred_eq, List.mem_cons, not_or]
      tauto
    exact .inr ⟨congrArg Set.ncard same, by simp [size]⟩

lemma wellFounded_step (next : UInt64 → List UInt64) : WellFounded fun s' s => Step next s s' :=
  (InvImage.wf potential wellFounded_lt).mono fun _ _ h => h.potential_lt

end Termination

def Leads (next : UInt64 → List UInt64) (s : Search) (path : List UInt64) (ahead : List (List UInt64)) :
    Except (List UInt64) (List UInt64) → Prop
  | .ok done => ReflTransGen (Step next) s ⟨path, [] :: ahead, done⟩
  | .error p => ∃ s', ReflTransGen (Step next) s s' ∧ s'.Ends (some p)

lemma Leads.head {path : List UInt64} {ahead : List (List UInt64)} {r : Except (List UInt64) (List UInt64)}
    (hs : ReflTransGen (Step next) s s') (h : Leads next s' path ahead r) : Leads next s path ahead r := by
  cases r with
  | ok done => exact hs.trans h
  | error p =>
    obtain ⟨e, he, ends⟩ := h
    exact ⟨e, hs.trans he, ends⟩

lemma explore_cons (depth : ℕ) (path l done : List UInt64) (i : UInt64) :
    Config.explore next (depth + 1) path (i :: l) done =
      if i ∈ path then .error (i :: (path.takeWhile (· ≠ i)).reverse ++ [i])
      else if i ∈ done then Config.explore next (depth + 1) path l done
      else (Config.explore next depth (i :: path) (next i) done).bind fun d =>
        Config.explore next (depth + 1) path l (i :: d) := by
  simp only [Config.explore, List.foldlM_cons, List.contains_eq_mem, decide_eq_true_eq]
  split
  · rfl
  · split
    · rfl
    · cases Config.explore next depth (i :: path) (next i) done <;> rfl

lemma leads_explore {known : List UInt64} (closed : ∀ i, next i ≠ [] → i ∈ known) {depth : ℕ}
    {path l done : List UInt64} (ahead : List (List UInt64)) (nodup : path.Nodup)
    (room : l ≠ [] → path ⊆ known ∧ known.length < path.length + depth) :
    Leads next ⟨path, l :: ahead, done⟩ path ahead (Config.explore next depth path l done) := by
  induction depth generalizing path l done ahead with
  | zero =>
    -- a path without repetition has no room left once all ids with dependents are on it
    have none : l = [] := by
      by_contra hl
      obtain ⟨within, short⟩ := room hl
      have := (nodup.subperm within).length_le
      omega
    subst none
    exact .refl
  | succ depth deeper =>
    induction l generalizing done with
    | nil => exact .refl
    | cons i l along =>
      obtain ⟨within, short⟩ := room (List.cons_ne_nil _ _)
      have along (done : List UInt64) : Leads next ⟨path, l :: ahead, done⟩ path ahead
          (Config.explore next (depth + 1) path l done) := along fun _ => ⟨within, short⟩
      rw [explore_cons]
      split
      · rename_i again
        exact ⟨_, .refl, .closed again⟩
      · rename_i apart
        split
        · rename_i seen
          exact (along done).head (.single (.pass apart seen))
        · rename_i fresh
          have deeper : Leads next ⟨i :: path, next i :: l :: ahead, done⟩ (i :: path) (l :: ahead)
              (Config.explore next depth (i :: path) (next i) done) :=
            deeper _ (List.nodup_cons.2 ⟨apart, nodup⟩) fun hi =>
              ⟨List.cons_subset.2 ⟨closed i hi, within⟩, by simp only [List.length_cons]; omega⟩
          have enter : ReflTransGen (Step next) ⟨path, (i :: l) :: ahead, done⟩
              ⟨i :: path, next i :: l :: ahead, done⟩ := .single (.enter apart fresh)
          cases he : Config.explore next depth (i :: path) (next i) done with
          | error p => exact (he ▸ deeper).head enter
          | ok d =>
            rw [he] at deeper
            exact (along (i :: d)).head ((enter.trans deeper).tail .leave)

inductive Trail (next : UInt64 → List UInt64) : List UInt64 → List (List UInt64) → Prop
  | start (ids : List UInt64) : Trail next [] [ids]
  | down {path ids l : List UInt64} {ahead : List (List UInt64)} {i : UInt64}
      (above : Trail next path (ids :: ahead)) (apart : i ∉ path) (listed : ∀ p ∈ path.head?, i ∈ next p)
      (within : l ⊆ next i) : Trail next (i :: path) (l :: ids :: ahead)

namespace Trail

variable {path ids : List UInt64} {ahead : List (List UInt64)} {i : UInt64}

lemma nodup (h : Trail next path ahead) : path.Nodup := by
  induction h with
  | start => exact List.nodup_nil
  | down _ apart _ _ ih => exact List.nodup_cons.2 ⟨apart, ih⟩

lemma linked (h : Trail next path ahead) : path.IsChain fun i p => i ∈ next p := by
  induction h with
  | start => exact .nil
  | down _ _ listed _ ih => exact ih.cons listed

lemma listed (h : Trail next path (ids :: ahead)) : ∀ p ∈ path.head?, ids ⊆ next p := by
  cases h with
  | start => simp
  | down _ _ _ within => simpa using within

lemma tail (h : Trail next path ((i :: ids) :: ahead)) : Trail next path (ids :: ahead) := by
  cases h with
  | start => exact .start ids
  | down above apart listed within => exact .down above apart listed (List.subset_of_cons_subset within)

lemma step (h : Trail next s.path s.ahead) (hs : Step next s s') : Trail next s'.path s'.ahead := by
  cases hs with
  | pass _ _ => exact h.tail
  | enter apart _ =>
    exact .down h.tail apart (fun p hp => h.listed p hp List.mem_cons_self) (List.Subset.refl _)
  | leave =>
    cases h with
    | down above _ _ _ => exact above

lemma of_start (h : ReflTransGen (Step next) (Search.start ids) s) : Trail next s.path s.ahead := by
  induction h with
  | refl => exact .start ids
  | tail _ hs ih => exact ih.step hs

lemma progress (h : Trail next s.path s.ahead) : (∃ s', Step next s s') ∨ ∃ o, s.Ends o := by
  obtain ⟨path, ahead, done⟩ := s
  obtain _ | ⟨_ | ⟨i, l⟩, ahead⟩ := ahead
  · cases h
  · cases h with
    | start => exact .inr ⟨_, .explored⟩
    | down _ _ _ _ => exact .inl ⟨_, .leave⟩
  · by_cases again : i ∈ path
    · exact .inr ⟨_, .closed again⟩
    · by_cases known : i ∈ done
      · exact .inl ⟨_, .pass again known⟩
      · exact .inl ⟨_, .enter again known⟩

lemma cycle {p : List UInt64} (h : Trail next s.path s.ahead) (ends : s.Ends (some p)) :
    ∃ v l, p = v :: l ++ [v] ∧ (v :: l).Nodup ∧ p.IsChain fun a b => b ∈ next a := by
  generalize ho : some p = o at ends
  cases ends with
  | explored => cases ho
  | @closed path ids done ahead i again =>
    obtain rfl := Option.some.inj ho
    obtain ⟨l, rest, rfl, hl⟩ := List.eq_append_cons_of_mem again
    have newer : (l ++ i :: rest).takeWhile (· ≠ i) = l := by
      rw [List.takeWhile_append_of_pos (by simpa using fun j hj => ne_of_mem_of_not_mem hj hl)]
      simp
    rw [newer]
    refine ⟨i, l.reverse, rfl, ?_, ?_⟩
    · have := (List.nodup_append.1 h.nodup).1
      simp [hl, this]
    · have round : (i :: (l ++ i :: rest)).IsChain fun j p => j ∈ next p :=
        h.linked.cons fun p hp => h.listed p hp List.mem_cons_self
      have back : (i :: l ++ [i]).IsChain fun j p => j ∈ next p :=
        round.prefix ⟨rest, by simp⟩
      simpa using List.isChain_reverse.2 back

end Trail

def Finds (next : UInt64 → List UInt64) (ids : List UInt64) (o : Option (List UInt64)) : Prop :=
  ∃ s, ReflTransGen (Step next) (start ids) s ∧ s.Ends o

lemma exists_finds (next : UInt64 → List UInt64) (ids : List UInt64) : ∃ o, Finds next ids o := by
  suffices ∀ s, ReflTransGen (Step next) (start ids) s → ∃ o, Finds next ids o from this _ .refl
  intro s
  induction s using (wellFounded_step next).induction with
  | _ s ih =>
    intro h
    obtain ⟨s', hs⟩ | ⟨o, ends⟩ := (Trail.of_start h).progress
    · exact ih s' hs (h.tail hs)
    · exact ⟨o, s, h, ends⟩

lemma Finds.unique {ids : List UInt64} {o o' : Option (List UInt64)} (h : Finds next ids o)
    (h' : Finds next ids o') : o = o' := by
  obtain ⟨s, hs, ends⟩ := h
  obtain ⟨s', hs', ends'⟩ := h'
  have still {s t : Search} {o : Option (List UInt64)} (he : s.Ends o) (hst : ReflTransGen (Step next) s t) :
      s = t := by
    obtain rfl | ⟨u, hu, -⟩ := hst.cases_head
    · rfl
    · exact absurd hu he.not_step
  obtain h | h := hs.total_of_right_unique Step.unique hs'
  · exact (still ends h ▸ ends).unique ends'
  · exact ends.unique (still ends' h ▸ ends')

end Search

namespace Config

variable {c : Config}

def Lists (c : Config) (a b : UInt64) : Prop :=
  ∃ x ∈ c.items, x.id = a ∧ b ∈ x.dependents

lemma Feeds.lists {a b : UInt64} (h : c.Feeds a b) : c.Lists a b :=
  mem_dependents h

lemma Checked.feeds_of_lists (h : c.Checked) {a b : UInt64} (hab : c.Lists a b) : c.Feeds a b := by
  obtain ⟨x, hx, rfl, hb⟩ := hab
  rwa [Feeds, h.dependents_eq hx]

lemma finds_cycle? (c : Config) : Search.Finds c.dependents c.ids c.cycle? := by
  have closed : ∀ i, c.dependents i ≠ [] → i ∈ c.ids := fun i => not_imp_comm.1 dependents_of_unknown
  have room : c.ids.length < [].length (α := UInt64) + (c.items.length + 1) := by simp [Config.ids]
  have leads : Search.Leads c.dependents (Search.start c.ids) [] []
      (explore c.dependents (c.items.length + 1) [] c.ids []) :=
    Search.leads_explore closed [] List.nodup_nil fun _ => ⟨List.nil_subset _, room⟩
  unfold cycle?
  cases he : explore c.dependents (c.items.length + 1) [] c.ids [] with
  | ok done =>
    rw [he] at leads
    exact ⟨_, leads, .explored⟩
  | error p =>
    rw [he] at leads
    exact leads

lemma cycle_of_cycle? {p : List UInt64} (h : c.cycle? = some p) :
    ∃ v l, p = v :: l ++ [v] ∧ (v :: l).Nodup ∧ p.IsChain c.Lists := by
  obtain ⟨s, hs, ends⟩ := h ▸ c.finds_cycle?
  obtain ⟨v, l, hp, nodup, linked⟩ := (Search.Trail.of_start hs).cycle ends
  exact ⟨v, l, hp, nodup, linked.imp fun _ _ => Feeds.lists⟩

lemma transGen_of_isChain {r : UInt64 → UInt64 → Prop} {a b : UInt64} {l : List UInt64}
    (h : (a :: l ++ [b]).IsChain r) : TransGen r a b := by
  induction l generalizing a with
  | nil => exact .single h.rel
  | cons d l ih => exact .head h.rel (ih h.tail)

/-- The check accepts a configuration just when there are workers and room in a batch, ids are not used
twice, dependents are items, and no item leads back to itself. Its search comes to an end on any graph, its
answer is where the walk ends, and a path that is reported goes round a cycle once. -/
theorem check_exact (c : Config) :
    (c.check = .ok () ↔
      1 ≤ c.manager.workers ∧ 1 ≤ c.manager.batchSize ∧ c.ids.Nodup ∧
        (∀ x ∈ c.items, ∀ d ∈ x.dependents, d ∈ c.ids) ∧ ∀ i, ¬ TransGen c.Lists i i) ∧
    (∀ next ids, WellFounded (fun s' s => Search.Step next s s') ∧ ∃ o, Search.Finds next ids o) ∧
    (∀ o, Search.Finds c.dependents c.ids o ↔ o = c.cycle?) ∧
    ∀ p, c.check = .error (.cycle p) →
      ∃ v l, p = v :: l ++ [v] ∧ l ≠ [] ∧ (v :: l).Nodup ∧ p.IsChain c.Lists := by
  refine ⟨?_, fun next ids => ⟨Search.wellFounded_step next, Search.exists_finds next ids⟩, ?_, ?_⟩
  · rw [check_eq_ok_iff, ManagerConfig.check_eq_ok_iff, and_assoc]
    constructor
    · rintro ⟨workers, batch, ids, items, cycle⟩
      have checked : c.Checked :=
        ⟨ManagerConfig.check_eq_ok_iff.2 ⟨workers, batch⟩, ids, fun x hx => (items x hx).1, cycle⟩
      refine ⟨workers, batch, ids, checked.known, fun i hi => checked.irrefl_feeds i ?_⟩
      exact TransGen.mono (fun _ _ => checked.feeds_of_lists) i i hi
    · rintro ⟨workers, batch, ids, known, acyclic⟩
      refine ⟨workers, batch, ids, fun x hx => ⟨known x hx, ?_⟩, ?_⟩
      · exact fun self => acyclic x.id (.single ⟨x, hx, rfl, self⟩)
      · by_contra found
        obtain ⟨p, hp⟩ := Option.ne_none_iff_exists'.1 found
        obtain ⟨v, l, rfl, -, linked⟩ := cycle_of_cycle? hp
        exact acyclic v (transGen_of_isChain linked)
  · exact fun o => ⟨fun h => h.unique c.finds_cycle?, fun h => h ▸ c.finds_cycle?⟩
  · intro p h
    obtain ⟨-, items, found⟩ := of_check_eq_cycle h
    obtain ⟨v, l, rfl, nodup, linked⟩ := cycle_of_cycle? found
    refine ⟨v, l, rfl, ?_, nodup, linked⟩
    rintro rfl
    obtain ⟨x, hx, rfl, self⟩ := linked.rel
    exact (items x hx).2 self

theorem check_exact_of_ring :
    ∃ (c : Config) (p : List UInt64), p = [3, 5, 4, 3] ∧ c.check = .error (.cycle p) ∧
      (∃ v l, p = v :: l ++ [v] ∧ l ≠ [] ∧ (v :: l).Nodup ∧ p.IsChain c.Lists) ∧
      ¬ (c.ids.Nodup ∧ (∀ x ∈ c.items, ∀ d ∈ x.dependents, d ∈ c.ids) ∧ ∀ i, ¬ TransGen c.Lists i i) := by
  let c : Config := { items := [
    { id := 1, dependents := [2, 2, 3] }, { id := 2 }, { id := 3, dependents := [2, 5] },
    { id := 4, dependents := [3] }, { id := 5, dependents := [2, 4] }] }
  have refused : c.check = .error (.cycle [3, 5, 4, 3]) := by rfl
  obtain ⟨accepts, -, -, cycle⟩ := check_exact c
  refine ⟨c, _, rfl, refused, cycle _ refused, fun h => ?_⟩
  have := accepts.2 ⟨by decide, by decide, h⟩
  rw [refused] at this
  cases this

end Config

end ItemPipeline
