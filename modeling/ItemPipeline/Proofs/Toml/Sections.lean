import ItemPipeline.Proofs.Toml.Tables
import ItemPipeline.Proofs.Toml.Values

/-!
A document line by line: members of a table under its header, and one table after the other.
-/

namespace ItemPipeline.Toml

open Reader

variable {d : Draft} {l r : List Char} {n : String} {s : Setting} {P Q : Draft → Prop}

def Draft.Reads (d : Draft) (l : List Char) (Q : Draft → Prop) : Prop :=
  ∀ (c : Cursor) (fuel : Nat), c.rest = l → l.length < fuel → Gives (lines d fuel c) fun d' _ => Q d'

namespace Draft.Reads

lemma mono (reads : d.Reads l P) (le : ∀ d', P d' → Q d') : d.Reads l Q :=
  fun c fuel here enough => (reads c fuel here enough).mono fun d' _ => le d'

lemma nil (h : Q d) : d.Reads [] Q := by
  intro c fuel here enough
  obtain ⟨fuel, rfl⟩ := Nat.exists_eq_add_one_of_ne_zero (Nat.ne_zero_of_lt enough)
  rw [lines]
  refine (gives_no_space here (by simp)).bind fun _ t rest => ?_
  rw [read_rest_bind, rest]
  exact gives_ok.2 h

lemma blank (next : d.Reads r Q) : d.Reads ('\n' :: r) Q := by
  intro c fuel here enough
  obtain ⟨fuel, rfl⟩ := Nat.exists_eq_add_one_of_ne_zero (Nat.ne_zero_of_lt enough)
  rw [lines]
  refine (gives_no_space here (by simp [isSpace])).bind fun _ t rest => ?_
  rw [read_rest_bind, rest]
  exact (gives_skip (l := ['\n']) rest rfl).bind fun _ u rest => next u fuel rest (Nat.lt_of_succ_lt_succ enough)

end Draft.Reads

lemma Draft.add_fresh {k : Key} (v : Toml) (lacks : d.members.Lacks k.name) :
    ∃ span, d.add [] k v = .ok (d.gathered span (d.members ++ [(k, v)])) := by
  refine ⟨⟨d.span.start, (v.span?.map (·.stop)).getD d.span.stop⟩, ?_⟩
  simp [Draft.add, addMember, alter, lacks.get?, Draft.gathered, bind, Except.bind]

lemma gives_equals {c : Cursor} (here : c.rest = '=' :: r) : Gives (equals c) fun _ t => t.rest = r := by
  refine (gives_eat (w := "=") here).bind ?_
  rintro _ t ⟨rfl, rest⟩
  exact gives_ok.2 rest

lemma gives_member {c : Cursor} (bare : IsBare n) (fits : s.Fits) (lacks : d.members.Lacks n)
    (here : c.rest = (member n s.write).toList ++ r) :
    Gives (Reader.member d c) fun d' t =>
      (∃ span k v, k.name = n ∧ s.Is v ∧ d' = d.gathered span (d.members ++ [(k, v)])) ∧ t.rest = r := by
  replace here : c.rest = dotted n [] ++ ([' '] ++ '=' :: (' ' :: (s.write.toList ++ '\n' :: r))) := by
    rw [here]
    simp [member, String.join, dotted]
  rw [Reader.member, read_get_bind]
  have named : Gives (key c) _ := gives_key (by simp [isSpace]) (by decide) (by decide) (by simpa using bare) (by decide)
    (by decide) here
  refine named.bind ?_
  rintro ks t ⟨named, rest⟩
  obtain ⟨k, rfl, name⟩ : ∃ k, ks = [k] ∧ k.name = n := by simpa [Toml.names, List.map_eq_cons_iff] using named
  have path : ofPath c [k] = pure ([], k) := rfl
  rw [path, read_pure_bind]
  refine (gives_equals rest).bind fun _ t rest => (Setting.gives_memberValue fits rest).bind ?_
  rintro v u ⟨is, rest⟩
  obtain ⟨span, added⟩ := Draft.add_fresh (k := k) v (name ▸ lacks)
  simp only [read_get_bind, added, read_check_ok_bind, read_set_bind, read_pure, gives_ok]
  exact ⟨⟨span, k, v, name, is, rfl⟩, rest⟩

def headline (array : Bool) (n : String) (names : List String) : List Char :=
  if array then '[' :: '[' :: (dotted n names ++ [']', ']', '\n']) else '[' :: (dotted n names ++ [']', '\n'])

lemma head_dotted (bare : IsBare n) (names : List String) : ∀ e ∈ (dotted n names ++ l).head?, isBare e = true := by
  obtain ⟨filled, chars⟩ := bare
  obtain ⟨e, more, eq⟩ := List.exists_cons_of_ne_nil filled
  rw [List.all_eq_true] at chars
  have first : (dotted n names ++ l).head? = some e := by
    cases names <;> simp [dotted, eq]
  rw [first]
  rintro _ ⟨⟩
  exact chars e (eq ▸ List.mem_cons_self)

lemma gives_header {c : Cursor} {names : List String} {array : Bool} {R : Toml → Members → Prop}
    (bare : ∀ m ∈ n :: names, IsBare m) (short : names.length + 1 < depthLimit) (opens : d.Opens (n :: names) array R)
    (here : c.rest = headline array n names ++ r) :
    Gives (Reader.header d c) fun d' t => (d'.members = [] ∧ d'.Closes R) ∧ t.rest = r := by
  let mark := if array then "]]" else "]"
  have looks : "[[".toList.isPrefixOf c.rest = array := by
    cases array with
    | true => simp [here, headline]
    | false =>
      have other : ∀ e ∈ (dotted n names ++ ']' :: '\n' :: r).head?, e ≠ '[' := by
        rintro _ first rfl
        simpa [isBare] using head_dotted (bare n List.mem_cons_self) names _ first
      have single := isPrefixOf_of_head? (w := "[") rfl other
      simpa [here, headline] using single
  obtain ⟨opening, more, text, length, closing⟩ :
      ∃ opening more, c.rest = opening ++ (dotted n names ++ ([] ++ ']' :: more)) ∧
        opening.length = mark.length ∧ ']' :: more = mark.toList ++ '\n' :: r := by
    cases array with
    | true => exact ⟨['[', '['], ']' :: '\n' :: r, by simp [here, headline], by simp only [mark]; rfl, by simp [mark]⟩
    | false => exact ⟨['['], '\n' :: r, by simp [here, headline], by simp only [mark]; rfl, by simp [mark]⟩
  rw [Reader.header, read_get_bind, read_looking_bind, looks]
  refine (gives_skip text length).bind fun _ t rest => ?_
  refine (gives_key (by simp) (by decide) (by decide) bare short (by decide) rest).bind ?_
  rintro path t ⟨named, rest⟩
  refine (gives_eat (rest.trans closing)).bind ?_
  rintro _ t ⟨rfl, rest⟩
  simp only [Bool.not_true, Bool.false_eq_true, if_false, read_here_bind]
  refine (gives_lineEnd _ rest).bind fun _ u rest => ?_
  obtain ⟨d', goes, empty, closes⟩ := opens path ⟨c.location, t.location⟩ named
  simp only [read_get_bind, goes, read_check_ok_bind, read_set_bind, read_pure, gives_ok]
  exact ⟨⟨empty, closes⟩, rest⟩

namespace Draft.Reads

lemma member (bare : IsBare n) (fits : s.Fits) (lacks : d.members.Lacks n)
    (next : ∀ span k v, k.name = n → s.Is v → (d.gathered span (d.members ++ [(k, v)])).Reads r Q) :
    d.Reads ((Toml.member n s.write).toList ++ r) Q := by
  intro c fuel here enough
  obtain ⟨fuel, rfl⟩ := Nat.exists_eq_add_one_of_ne_zero (Nat.ne_zero_of_lt enough)
  have text : (Toml.member n s.write).toList ++ r = n.toList ++ ([' ', '=', ' '] ++ (s.write.toList ++ '\n' :: r)) := by
    simp [Toml.member, String.join]
  have first : ∀ e ∈ c.rest.head?, isBare e = true := by
    rw [here, text]
    exact head_dotted bare []
  rw [lines]
  refine (gives_no_space rfl fun e he => isSpace_of_isBare (first e he)).bind fun _ t rest => ?_
  have reads := gives_member bare fits lacks (rest.trans here)
  rw [← rest] at first
  rw [read_rest_bind]
  generalize eq : t.rest = x
  have shorter : r.length < fuel := by
    rw [text] at enough
    simp only [List.length_append, List.length_cons] at enough
    omega
  split
  case h_6 =>
    refine reads.bind ?_
    rintro _ u ⟨⟨span, k, v, name, is, rfl⟩, rest⟩
    exact next span k v name is u fuel rest shorter
  case h_1 =>
    rw [rest, here, text] at eq
    simp at eq
  all_goals
    rw [eq] at first
    simpa [isBare] using first _ rfl

lemma header {names : List String} {array : Bool} {R : Toml → Members → Prop} (bare : ∀ m ∈ n :: names, IsBare m)
    (short : names.length + 1 < depthLimit) (opens : d.Opens (n :: names) array R)
    (next : ∀ d' : Draft, d'.members = [] → d'.Closes R → d'.Reads r Q) : d.Reads (headline array n names ++ r) Q := by
  intro c fuel here enough
  obtain ⟨fuel, rfl⟩ := Nat.exists_eq_add_one_of_ne_zero (Nat.ne_zero_of_lt enough)
  obtain ⟨more, first⟩ : ∃ more, headline array n names ++ r = '[' :: more := by
    cases array <;> exact ⟨_, rfl⟩
  rw [lines]
  refine (gives_no_space here (by simp [first, isSpace])).bind fun _ t rest => ?_
  have reads := gives_header bare short opens rest
  rw [read_rest_bind, rest, first]
  refine reads.bind ?_
  rintro d' u ⟨⟨empty, closes⟩, rest⟩
  refine next d' empty closes u fuel rest ?_
  cases array <;> simp [headline] at enough <;> omega

end Draft.Reads

def writeLines (l : List (String × Setting)) : List Char :=
  l.flatMap fun e => (member e.1 e.2.write).toList

def Shown : List (String × Setting) → Members → Prop :=
  List.Forall₂ fun e m => m.1.name = e.1 ∧ e.2.Is m.2

lemma Shown.lacks {l : List (String × Setting)} {m : Members} (shown : Shown l m) (other : n ∉ l.map (·.1)) :
    m.Lacks n := by
  induction shown with
  | nil => simp [Members.Lacks]
  | cons head _ ih =>
    rw [List.map_cons, List.mem_cons, not_or] at other
    exact List.forall_mem_cons.2 ⟨fun same => other.1 (same.symm.trans head.1), ih other.2⟩

structure Proper (l : List (String × Setting)) : Prop where
  bare : ∀ n ∈ l.map (·.1), IsBare n
  fits : ∀ e ∈ l, e.2.Fits
  distinct : (l.map (·.1)).Nodup

def IsTable (l : List (String × Setting)) (t : Toml) : Prop :=
  ∃ span m, t = .table (some span) .header m ∧ Shown l m

namespace Draft.Reads

lemma members {l : List (String × Setting)} (proper : Proper l) (lacks : ∀ e ∈ l, d.members.Lacks e.1)
    (next : ∀ span m, Shown l m → (d.gathered span (d.members ++ m)).Reads r Q) : d.Reads (writeLines l ++ r) Q := by
  induction l generalizing d with
  | nil => simpa [Draft.gathered, writeLines] using next d.span [] .nil
  | cons e l ih =>
    obtain ⟨bare, fits, distinct⟩ := proper
    rw [List.map_cons, List.forall_mem_cons] at bare
    rw [List.forall_mem_cons] at fits lacks
    rw [List.map_cons, List.nodup_cons] at distinct
    have text : writeLines (e :: l) ++ r = (Toml.member e.1 e.2.write).toList ++ (writeLines l ++ r) := by
      simp [writeLines]
    rw [text]
    refine member bare.1 fits.1 lacks.1 fun span k v name is => ih ⟨bare.2, fits.2, distinct.2⟩ (fun e' he' => ?_) ?_
    · refine (lacks.2 e' he').append (List.forall_mem_singleton.2 fun same => distinct.1 ?_)
      rw [← name, same]
      exact List.mem_map_of_mem he'
    · intro span' m shown
      simpa [Draft.gathered] using next span' ((k, v) :: m) (.cons ⟨name, is⟩ shown)

lemma table {names : List String} {array : Bool} {l : List (String × Setting)} {R : Toml → Members → Prop}
    (bare : ∀ m ∈ n :: names, IsBare m) (short : names.length + 1 < depthLimit) (proper : Proper l)
    (opens : d.Opens (n :: names) array R)
    (next : ∀ (d' : Draft) t root, IsTable l t → R t root → d'.close = .ok root → d'.Reads r Q) :
    d.Reads (headline array n names ++ (writeLines l ++ r)) Q := by
  refine header bare short opens fun d' empty closes => ?_
  refine members proper (by simp [empty, Members.Lacks]) fun span m shown => ?_
  obtain ⟨root, closed, stands⟩ := closes span (d'.members ++ m)
  exact next _ _ root ⟨span, _, rfl, by simpa [empty] using shown⟩ stands closed

end Draft.Reads

lemma parse_of_reads {text : String} {P : Members → Prop} (unmarked : ∀ e ∈ text.toList.head?, e ≠ '\ufeff')
    (reads : ({} : Draft).Reads text.toList fun d => ∃ m, d.close = .ok m ∧ P m) : ∃ m, parse text = .ok m ∧ P m := by
  have goes : Gives (document ⟨text.toList, 0⟩) fun m _ => P m := by
    rw [document, read_eat_bind_of_not (isPrefixOf_of_head? rfl unmarked), read_get_bind, read_rest_bind]
    refine (reads ⟨text.toList, 0⟩ _ rfl (Nat.lt_succ_self _)).bind ?_
    rintro d t ⟨m, closed, holds⟩
    rw [closed, read_check_ok]
    exact gives_ok.2 holds
  obtain ⟨m, t, eq, holds⟩ := goes
  exact ⟨m, by rw [parse, StateT.run, eq]; rfl, holds⟩

end ItemPipeline.Toml
