import ItemPipeline.Proofs.Reader
import ItemPipeline.Xml.Parser
import Mathlib.Data.List.Basic
import Mathlib.Data.List.Sort
import Mathlib.Data.String.Basic

/-!
What reading sees to in a document: its names are names, the attributes of an element stand in their order and
none stands twice, no comment could end early, and there is one element at the top.
-/

namespace ItemPipeline.Xml

open Reader

mutual

def Node.nodes : Node → List Node
  | .element name attributes children => .element name attributes children :: nodesOf children
  | .text s => [.text s]
  | .comment s => [.comment s]
  | .instruction target value => [.instruction target value]

def nodesOf : List Node → List Node
  | [] => []
  | n :: r => n.nodes ++ nodesOf r

end

def Node.isElement : Node → Bool
  | .element _ _ _ => true
  | _ => false

def IsName (s : List Char) : Prop :=
  ∃ c r, s = c :: r ∧ isNameStart c = true ∧ ∀ d ∈ r, isNameChar d = true

def IsComment (s : List Char) : Prop :=
  ∀ r, before? ['-', '-'] (s ++ '-' :: '-' :: r) = some s

def Name.key (n : Name) : Option String × String :=
  (n.qualifier, n.localPart)

def QName.key (q : QName) : Option String × String :=
  (q.qualifier, q.localPart)

def Name.IsOfAttribute (n : Name) : Prop :=
  IsName n.localPart.toList ∧ (n.qualifier = none → n.localPart ≠ "xmlns")

inductive Node.Sound : Node → Prop
  | element {name : Name} {attributes : List Attribute} {children : List Node} (named : IsName name.localPart.toList)
      (attributed : ∀ a ∈ attributes, a.name.IsOfAttribute)
      (ordered : attributes.Pairwise fun a b => a.before b = true)
      (distinct : (attributes.map (·.name.key)).Nodup) :
      Sound (.element name attributes children)
  | text (s : String) : Sound (.text s)
  | comment {s : String} (closed : IsComment s.toList) : Sound (.comment s)
  | instruction (target : String) (value : Option String) : Sound (.instruction target value)

variable {α β : Type} {s t : Cursor} {m n : Node} {l : List Node} {Q : α → Cursor → Prop}

lemma mem_nodesOf : n ∈ nodesOf l ↔ ∃ m ∈ l, n ∈ m.nodes := by
  induction l with
  | nil => simp [nodesOf]
  | cons m l ih => simp [nodesOf, ih]

mutual

lemma nodes_subset : ∀ n : Node, ∀ m ∈ n.nodes, ∀ k ∈ m.nodes, k ∈ n.nodes
  | .element name attributes children, m, hm, k, hk => by
    obtain rfl | hm := List.mem_cons.1 hm
    · exact hk
    · exact List.mem_cons_of_mem _ (nodesOf_subset children m hm k hk)
  | .text _, m, hm, k, hk | .comment _, m, hm, k, hk | .instruction _ _, m, hm, k, hk => by
    obtain rfl := List.mem_singleton.1 hm
    exact hk

lemma nodesOf_subset : ∀ l : List Node, ∀ m ∈ nodesOf l, ∀ k ∈ m.nodes, k ∈ nodesOf l
  | n :: r, m, hm, k, hk => by
    obtain hm | hm := List.mem_append.1 hm
    · exact List.mem_append_left _ (nodes_subset n m hm k hk)
    · exact List.mem_append_right _ (nodesOf_subset r m hm k hk)

end

def Cursor.after (s : Cursor) (n : Nat) : Cursor :=
  ⟨s.rest.drop n, (s.rest.take n).foldl (fun k c => k + c.utf8Size) s.location⟩

@[simp] lemma rest_after (s : Cursor) (n : Nat) : (s.after n).rest = s.rest.drop n := rfl

@[simp] lemma read_failAt (f : Fault) (k : Nat) (s : Cursor) : (failAt f k : Reader α) s = .error ⟨f, k⟩ := rfl
@[simp] lemma read_failAt_bind (f : Fault) (k : Nat) (g : α → Reader β) (s : Cursor) :
    ((failAt f k : Reader α) >>= g) s = .error ⟨f, k⟩ := rfl
@[simp] lemma read_fail (f : Fault) (s : Cursor) : (fail f : Reader α) s = .error ⟨f, s.location⟩ := rfl
@[simp] lemma read_expected (w : List String) (s : Cursor) :
    (expected w : Reader α) s = .error ⟨.expected w, s.location⟩ := rfl
@[simp] lemma read_expected_bind (w : List String) (g : α → Reader β) (s : Cursor) :
    ((expected w : Reader α) >>= g) s = .error ⟨.expected w, s.location⟩ := rfl
@[simp] lemma read_skip (n : Nat) (s : Cursor) : skip n s = .ok (⟨⟩, s.after n) := rfl
@[simp] lemma read_skip_bind (n : Nat) (g : Unit → Reader β) (s : Cursor) : (skip n >>= g) s = g ⟨⟩ (s.after n) := rfl
@[simp] lemma read_takeWhile (p : Char → Bool) (s : Cursor) :
    takeWhile p s = .ok (s.rest.takeWhile p, s.after (s.rest.takeWhile p).length) := rfl
@[simp] lemma read_takeWhile_bind (p : Char → Bool) (g : List Char → Reader β) (s : Cursor) :
    (takeWhile p >>= g) s = g (s.rest.takeWhile p) (s.after (s.rest.takeWhile p).length) := rfl
@[simp] lemma read_space (s : Cursor) : space s = .ok (⟨⟩, s.after (s.rest.takeWhile isSpace).length) := rfl
@[simp] lemma read_space_bind (g : Unit → Reader β) (s : Cursor) :
    (space >>= g) s = g ⟨⟩ (s.after (s.rest.takeWhile isSpace).length) := rfl

@[simp] lemma read_eat (x : String) (s : Cursor) : eat x s =
    .ok (x.toList.isPrefixOf s.rest, if x.toList.isPrefixOf s.rest then s.after x.length else s) := by
  change (if x.toList.isPrefixOf s.rest then (do skip x.length; pure true) else pure false : Reader Bool) s = _
  cases x.toList.isPrefixOf s.rest <;> rfl

@[simp] lemma read_eat_bind (x : String) (g : Bool → Reader β) (s : Cursor) : (eat x >>= g) s =
    g (x.toList.isPrefixOf s.rest) (if x.toList.isPrefixOf s.rest then s.after x.length else s) := by
  simp only [Bind.bind, StateT.bind, Except.bind, read_eat]

lemma isNameChar_of_isNameStart {c : Char} (h : isNameStart c = true) : isNameChar c = true := by
  simp [isNameChar, h]

def signs : List Char :=
  [' ', '\t', '\n', '\r', '!', '"', '#', '&', '/', ':', ';', '<', '=', '>', '?', '@']

lemma not_isNameChar {c : Char} (h : c ∈ signs) : isNameChar c = false := by
  have all : (signs.all fun c => !isNameChar c) = true := by decide +kernel
  simpa using List.all_eq_true.1 all c h

lemma not_isNameStart {c : Char} (h : c ∈ signs) : isNameStart c = false := by
  by_contra start
  rw [Bool.not_eq_false] at start
  exact Bool.false_ne_true ((not_isNameChar h).symm.trans (isNameChar_of_isNameStart start))

lemma ne_of_isNameStart {c d : Char} (sign : d ∈ signs) (start : isNameStart c = true) : d ≠ c := by
  rintro rfl
  exact Bool.false_ne_true ((not_isNameStart sign).symm.trans start)

lemma ensures_readNcName (w : String) (s : Cursor) : Ensures (readNcName w s) fun a _ => IsName a.toList := by
  unfold readNcName
  simp only [read_get_bind]
  cases left : s.rest with
  | nil => simp
  | cons c r =>
    refine ensures_ite (fun first => ?_) fun _ => by simp
    simp only [read_takeWhile_bind, read_pure, ensures_ok, left, String.toList_ofList]
    have char : isNameChar c = true := isNameChar_of_isNameStart first
    rw [List.takeWhile_cons_of_pos char]
    exact ⟨c, _, rfl, first, fun d hd => List.all_eq_true.1 List.all_takeWhile d hd⟩

lemma ensures_readQName (w : String) (s : Cursor) : Ensures (readQName w s) fun q _ => IsName q.localPart.toList := by
  unfold readQName
  simp only [read_get_bind]
  refine (ensures_readNcName w s).bind fun a t named => ?_
  simp only [read_get_bind]
  generalize t.rest = r
  split
  · refine ensures_ite (fun _ => ?_) fun _ => by simpa using named
    simp only [read_skip_bind]
    exact (ensures_readNcName _ _).bind fun b u named => by simpa using named
  · simpa using named

lemma before?_eq_some {x r l : List Char} (h : before? x r = some l) : ∃ t, r = l ++ x ++ t := by
  induction r generalizing l with
  | nil =>
    unfold before? at h
    split at h
    · rename_i here
      obtain ⟨t, eq⟩ := List.isPrefixOf_iff_prefix.1 here
      cases h
      exact ⟨t, by simpa using eq.symm⟩
    · simp at h
  | cons c r ih =>
    unfold before? at h
    split at h
    · rename_i here
      obtain ⟨t, eq⟩ := List.isPrefixOf_iff_prefix.1 here
      cases h
      exact ⟨t, by simpa using eq.symm⟩
    · obtain ⟨l, rest, rfl⟩ := Option.map_eq_some_iff.1 h
      obtain ⟨t, rfl⟩ := ih rest
      exact ⟨t, rfl⟩

lemma isComment_of_before? {l t : List Char} (h : before? ['-', '-'] (l ++ '-' :: '-' :: t) = some l) : IsComment l := by
  intro r
  induction l with
  | nil => rfl
  | cons c l ih =>
    -- Whether dashes stand here is seen from two characters, neither of which lies behind the closing ones.
    have same : ['-', '-'].isPrefixOf (c :: (l ++ '-' :: '-' :: r)) = ['-', '-'].isPrefixOf (c :: (l ++ '-' :: '-' :: t)) := by
      cases l <;> simp [List.isPrefixOf]
    rw [List.cons_append, before?] at h ⊢
    rw [same]
    split
    · rename_i here
      rw [if_pos here] at h
      simp at h
    · rename_i here
      rw [if_neg here] at h
      obtain ⟨l', rest, eq⟩ := Option.map_eq_some_iff.1 h
      obtain rfl : l' = l := by simpa using eq
      rw [ih rest]
      rfl

lemma ensures_readComment (s : Cursor) : Ensures (readComment s) fun n _ => n.Sound ∧ n.isElement = false := by
  unfold readComment takeUntil?
  simp only [bind_assoc, read_get_bind]
  cases here : before? "--".toList s.rest with
  | none => simp
  | some l =>
    simp only [bind_assoc, read_skip_bind, pure_bind]
    refine ensures_true.bind fun _ t _ => ensures_ok.2 ⟨.comment ?_, rfl⟩
    obtain ⟨t, rest⟩ := before?_eq_some here
    rw [rest] at here
    exact isComment_of_before? (by simpa using here)

lemma ensures_readInstruction (s : Cursor) : Ensures (readInstruction s) fun n _ => n.Sound ∧ n.isElement = false := by
  unfold readInstruction
  simp only [read_get_bind]
  refine ensures_true.bind fun target t _ => ?_
  refine ensures_ite (fun _ => by simp) fun _ => ?_
  simp only [read_eat_bind]
  refine ensures_ite (fun _ => ensures_ok.2 ⟨.instruction _ _, rfl⟩) fun _ => ?_
  refine ensures_true.bind fun _ u _ => ensures_true.bind fun value v _ => ?_
  cases value with
  | none => simp
  | some l => exact ensures_ok.2 ⟨.instruction _ _, rfl⟩

lemma ensures_readCData (s : Cursor) : Ensures (readCData s) fun n _ => n.Sound ∧ n.isElement = false := by
  unfold readCData
  refine ensures_true.bind fun value t _ => ?_
  cases value with
  | none => simp
  | some l => exact ensures_ok.2 ⟨.text _, rfl⟩

lemma ensures_readAttributes (acc : List (QName × String)) (fuel : Nat) (s : Cursor)
    (named : ∀ a ∈ acc, IsName a.1.localPart.toList) :
    Ensures (readAttributes acc fuel s) fun a _ => ∀ b ∈ a.1, IsName b.1.localPart.toList := by
  induction fuel generalizing acc s with
  | zero => simp [readAttributes]
  | succ fuel ih =>
    simp only [readAttributes, read_get_bind, read_space_bind, read_eat_bind]
    have done (last : Bool) (t : Cursor) : Ensures ((pure (acc.reverse, last) : Reader _) t) fun a _ =>
        ∀ b ∈ a.1, IsName b.1.localPart.toList := ensures_ok.2 (by simpa using named)
    refine ensures_ite (fun _ => done _ _) fun _ => ?_
    simp only [read_eat_bind]
    refine ensures_ite (fun _ => done _ _) fun _ => ?_
    simp only [read_set_bind]
    refine ensures_true.bind fun _ t _ => ?_
    refine (ensures_readQName _ t).bind fun q u name => ?_
    refine ensures_true.bind fun _ v _ => ensures_true.bind fun _ w _ => ensures_true.bind fun _ x _ => ?_
    refine ensures_true.bind fun quote y _ => ?_
    simp only [read_get_bind]
    refine ensures_true.bind fun value z _ => ?_
    exact ih _ _ (List.forall_mem_cons.2 ⟨name, named⟩)

lemma ensures_checkDuplicates (seen : List QName) (l : List (QName × String)) (s : Cursor) :
    Ensures (checkDuplicates seen l s) fun _ _ =>
      (l.map (·.1.key)).Nodup ∧ ∀ a ∈ l, ∀ p ∈ seen, p.key ≠ a.1.key := by
  induction l generalizing seen s with
  | nil => simp [checkDuplicates]
  | cons a l ih =>
    obtain ⟨q, v⟩ := a
    simp only [checkDuplicates]
    refine ensures_ite (fun _ => by simp) fun new => ?_
    refine (ih (q :: seen) s).mono fun _ _ ⟨nodup, apart⟩ => ⟨?_, ?_⟩
    · rw [List.map_cons, List.nodup_cons]
      refine ⟨fun twice => ?_, nodup⟩
      obtain ⟨b, hb, same⟩ := List.mem_map.1 twice
      exact apart b hb q List.mem_cons_self same.symm
    · refine List.forall_mem_cons.2 ⟨fun p hp same => new ?_, fun b hb p hp => apart b hb p (List.mem_cons_of_mem _ hp)⟩
      obtain ⟨qualifier, localPart⟩ := Prod.mk.inj same
      exact List.any_eq_true.2 ⟨p, hp, decide_eq_true ⟨qualifier, localPart⟩⟩

lemma ensures_resolveElement (scope : Scope) (q : QName) (s : Cursor) :
    Ensures (resolveElement scope q s) fun n _ => n.key = q.key := by
  unfold resolveElement
  generalize qualified : q.qualifier = p
  generalize lookupScope? scope p = found
  split
  · simp
  · exact ensures_ok.2 (by simp [Name.key, QName.key, qualified])

lemma ensures_resolveAttribute (scope : Scope) (q : QName) (s : Cursor) :
    Ensures (resolveAttribute scope q s) fun n _ => n.key = q.key := by
  unfold resolveAttribute
  cases qualified : q.qualifier with
  | none => exact ensures_ok.2 (by simp [Name.key, QName.key, qualified])
  | some p => exact ensures_resolveElement scope q s

lemma before_trans (a b c : Attribute) (ab : a.before b = true) (bc : b.before c = true) : a.before c = true := by
  obtain ⟨⟨p, _, x⟩, _⟩ := a
  obtain ⟨⟨q, _, y⟩, _⟩ := b
  obtain ⟨⟨r, _, z⟩, _⟩ := c
  cases p <;> cases q <;> cases r <;>
    simp only [Attribute.before, Bool.or_eq_true, Bool.and_eq_true, decide_eq_true_eq, beq_iff_eq, reduceCtorEq] at ab bc ⊢
  · exact ab.trans bc
  · obtain lt | ⟨rfl, le⟩ := ab
    · obtain lt' | ⟨rfl, -⟩ := bc
      · exact .inl (lt.trans lt')
      · exact .inl lt
    · exact bc.imp_right fun h => ⟨h.1, le.trans h.2⟩

lemma before_total (a b : Attribute) : a.before b = true ∨ b.before a = true := by
  obtain ⟨⟨p, _, x⟩, _⟩ := a
  obtain ⟨⟨q, _, y⟩, _⟩ := b
  cases p <;> cases q <;>
    simp only [Attribute.before, Bool.or_eq_true, Bool.and_eq_true, decide_eq_true_eq, beq_iff_eq, true_or, or_true]
  · exact le_total x y
  · rename_i p q
    obtain lt | rfl | gt := lt_trichotomy p q
    · exact .inl (.inl lt)
    · exact (le_total x y).imp (fun le => .inr ⟨rfl, le⟩) fun le => .inr ⟨rfl, le⟩
    · exact .inr (.inl gt)

instance : IsTrans Attribute fun a b => a.before b = true := ⟨before_trans⟩

instance : Std.Total fun a b : Attribute => a.before b = true := ⟨before_total⟩

lemma sortAttributes_eq (l : List Attribute) : sortAttributes l = l.insertionSort fun a b => a.before b = true := by
  have insert (a : Attribute) (l : List Attribute) :
      insertAttribute a l = l.orderedInsert (fun a b => a.before b = true) a := by
    induction l with
    | nil => rfl
    | cons b l ih => rw [insertAttribute, List.orderedInsert_cons, ih]
  induction l with
  | nil => rfl
  | cons a l ih => exact (insert a _).trans (congrArg _ ih)

structure OpenElement.Sound (o : OpenElement) : Prop where
  element : (Node.element o.name o.attributes []).Sound
  children : ∀ n ∈ nodesOf o.children, n.Sound

lemma ensures_readTag (scope : Scope) (written : QName) (s : Cursor) (named : IsName written.localPart.toList) :
    Ensures (readTag scope written s) fun a _ => a.1.Sound := by
  unfold readTag
  simp only [read_get_bind]
  refine (ensures_readAttributes [] _ s (by simp)).bind fun a t names => ?_
  obtain ⟨raw, last⟩ := a
  refine (ensures_checkDuplicates [] raw t).bind fun _ u ⟨nodup, _⟩ => ?_
  refine ensures_true.bind fun _ v _ => ?_
  refine (ensures_resolveElement _ written v).bind fun name w key => ?_
  refine Ensures.bind (P := fun l _ => List.Forall₂ (fun p a => a.name.key = p.1.key)
    (raw.filter fun a => !isDeclaration a.1) l) (ensures_mapM (fun p _ s => ?_) w) fun l x resolved => ensures_ok.2 ?_
  · exact (ensures_resolveAttribute _ p.1 s).bind fun n t key => ensures_ok.2 key
  have keys : l.map (·.name.key) = (raw.filter fun a => !isDeclaration a.1).map (·.1.key) := by
    rw [eq_comm, ← List.forall₂_eq_eq_eq, List.forall₂_map_left_iff, List.forall₂_map_right_iff]
    exact resolved.imp fun _ _ => Eq.symm
  refine ⟨.element ?_ (fun a ha => ?_) ?_ ?_, by simp [nodesOf]⟩
  · rwa [show name.localPart = written.localPart from congrArg Prod.snd key]
  · rw [sortAttributes_eq, List.mem_insertionSort] at ha
    obtain ⟨p, hp, same⟩ := List.mem_map.1 (keys ▸ List.mem_map_of_mem ha)
    obtain ⟨hp, other⟩ := List.mem_filter.1 hp
    obtain ⟨qualifier, localPart⟩ := Prod.mk.inj same
    refine ⟨localPart ▸ names p hp, fun none => ?_⟩
    rw [← localPart]
    rintro default
    simp [isDeclaration, isDefault, qualifier.trans none, default] at other
  · rw [sortAttributes_eq]
    exact List.pairwise_insertionSort _ l
  · rw [sortAttributes_eq, ((List.perm_insertionSort _ l).map _).nodup_iff, keys]
    exact nodup.sublist (List.filter_sublist.map _)

lemma OpenElement.Sound.add {o : OpenElement} (h : o.Sound) (sound : ∀ m ∈ n.nodes, m.Sound) :
    OpenElement.Sound { o with children := n :: o.children } :=
  ⟨h.element, fun m hm => (List.mem_append.1 hm).elim (sound m) (h.children m)⟩

lemma OpenElement.Sound.close {o : OpenElement} (h : o.Sound) : ∀ m ∈ o.close.nodes, m.Sound := by
  refine List.forall_mem_cons.2 ⟨?_, fun m hm => ?_⟩
  · obtain ⟨named, attributed, ordered, distinct⟩ := h.element
    exact .element named attributed ordered distinct
  · obtain ⟨n, hn, hm⟩ := mem_nodesOf.1 hm
    exact h.children m (mem_nodesOf.2 ⟨n, List.mem_reverse.1 hn, hm⟩)

lemma nodes_of_not_isElement (h : n.isElement = false) : n.nodes = [n] := by
  cases n with
  | element name attributes children => simp [Node.isElement] at h
  | _ => rfl

lemma sound_of_leaf (h : n.Sound ∧ n.isElement = false) : ∀ m ∈ n.nodes, m.Sound := by
  rw [nodes_of_not_isElement h.2]
  simpa using h.1

lemma ensures_readContent (stack : List OpenElement) (fuel : Nat) (s : Cursor) (sound : ∀ o ∈ stack, o.Sound) :
    Ensures (readContent stack fuel s) fun n _ => n.isElement = true ∧ ∀ m ∈ n.nodes, m.Sound := by
  induction fuel generalizing stack s with
  | zero => simp [readContent]
  | succ fuel ih =>
    cases stack with
    | nil => simp [readContent]
    | cons o outer =>
      rw [List.forall_mem_cons] at sound
      have add {n : Node} (h : ∀ m ∈ n.nodes, m.Sound) (s : Cursor) :=
        ih ({ o with children := n :: o.children } :: outer) s (List.forall_mem_cons.2 ⟨sound.1.add h, sound.2⟩)
      simp only [readContent, read_get_bind]
      generalize s.rest = r
      split
      · simp
      · simp only [read_skip_bind]
        exact ensures_true.bind fun c t _ => add (sound_of_leaf ⟨.text _, rfl⟩) t
      · simp only [read_eat_bind]
        refine ensures_ite (fun _ => ?_) fun _ => ?_
        · refine ensures_true.bind fun q t _ => ?_
          simp only [read_space_bind]
          refine ensures_ite (fun _ => by simp) fun _ => ensures_true.bind fun _ u _ => ?_
          cases outer with
          | nil => exact ensures_ok.2 ⟨rfl, sound.1.close⟩
          | cons p rest =>
            rw [List.forall_mem_cons] at sound
            exact ih _ _ (List.forall_mem_cons.2 ⟨sound.2.1.add sound.1.close, sound.2.2⟩)
        simp only [read_eat_bind]
        refine ensures_ite (fun _ => ?_) fun _ => ?_
        · exact (ensures_readComment _).bind fun n t leaf => add (sound_of_leaf leaf) t
        simp only [read_eat_bind]
        refine ensures_ite (fun _ => ?_) fun _ => ?_
        · exact (ensures_readCData _).bind fun n t leaf => add (sound_of_leaf leaf) t
        simp only [read_eat_bind]
        refine ensures_ite (fun _ => ?_) fun _ => ?_
        · exact (ensures_readInstruction _).bind fun n t leaf => add (sound_of_leaf leaf) t
        simp only [read_skip_bind]
        refine (ensures_readQName _ _).bind fun q t named => ?_
        refine (ensures_readTag o.scope q t named).bind fun tag u inner => ?_
        obtain ⟨inner', last⟩ := tag
        refine ensures_ite (fun _ => add inner.close u) fun _ => ?_
        exact ih _ _ (List.forall_mem_cons.2 ⟨inner, List.forall_mem_cons.2 sound⟩)
      · refine ensures_ite (fun _ => by simp) fun _ => ?_
        simp only [read_skip_bind]
        exact add (sound_of_leaf ⟨.text _, rfl⟩) _

structure Topped (stage : Stage) (acc : List Node) : Prop where
  sound : ∀ n ∈ nodesOf acc, n.Sound
  elements : (acc.filter Node.isElement).length = if stage = .done then 1 else 0

lemma Topped.leaf {stage : Stage} {acc : List Node} (top : Topped stage acc) (h : n.Sound ∧ n.isElement = false) :
    Topped stage (n :: acc) :=
  ⟨fun m hm => (List.mem_append.1 hm).elim (sound_of_leaf h m) (top.sound m), by simpa [h.2] using top.elements⟩

lemma ensures_readTop (stage : Stage) (acc : List Node) (fuel : Nat) (s : Cursor) (top : Topped stage acc) :
    Ensures (readTop stage acc fuel s) fun d _ => Topped .done d.children := by
  induction fuel generalizing stage acc s with
  | zero => simp [readTop]
  | succ fuel ih =>
    have later : Topped (if stage = .beginning then .declared else stage) acc := by
      refine ⟨top.sound, top.elements.trans ?_⟩
      cases stage <;> rfl
    simp only [readTop, read_get_bind]
    generalize s.rest = r
    split
    · refine ensures_ite (fun done => ensures_ok.2 ?_) fun _ => by simp
      subst done
      refine ⟨fun n hn => ?_, by simpa using top.elements⟩
      obtain ⟨m, hm, hn⟩ := mem_nodesOf.1 hn
      exact top.sound n (mem_nodesOf.2 ⟨m, List.mem_reverse.1 hm, hn⟩)
    refine ensures_ite (fun _ => ?_) fun _ => ?_
    · simp only [read_space_bind]
      exact ih _ _ _ later
    simp only [read_eat_bind]
    refine ensures_ite (fun _ => ?_) fun _ => ?_
    · exact (ensures_readComment _).bind fun n t leaf => ih _ _ _ (later.leaf leaf)
    refine ensures_ite (fun start => ?_) fun _ => ?_
    · simp only [read_skip_bind]
      refine ensures_true.bind fun _ t _ => ih _ _ _ ⟨top.sound, top.elements.trans ?_⟩
      simp [start.1]
    simp only [read_eat_bind]
    refine ensures_ite (fun _ => ?_) fun _ => ?_
    · exact (ensures_readInstruction _).bind fun n t leaf => ih _ _ _ (later.leaf leaf)
    refine ensures_ite (fun typed => ?_) fun _ => ?_
    · simp only [read_skip_bind]
      refine ensures_true.bind fun _ t _ => ih _ _ _ ⟨top.sound, top.elements.trans ?_⟩
      simp [typed.1]
    refine ensures_ite (fun first => ?_) fun _ => by simp
    simp only [read_skip_bind]
    refine (ensures_readQName _ _).bind fun q t named => ?_
    refine (ensures_readTag _ q t named).bind fun tag u inner => ?_
    obtain ⟨o, last⟩ := tag
    have next (n : Node) (v : Cursor) (inner : n.isElement = true ∧ ∀ m ∈ n.nodes, m.Sound) :
        Ensures (readTop .done (n :: acc) fuel v) fun d _ => Topped .done d.children := by
      refine ih _ _ _ ⟨fun m hm => (List.mem_append.1 hm).elim (inner.2 m) (top.sound m), ?_⟩
      simpa [inner.1, first.1] using top.elements
    refine ensures_ite (fun _ => next _ _ ⟨rfl, inner.close⟩) fun _ => ?_
    simp only [read_get_bind]
    exact (ensures_readContent _ _ _ (by simpa using inner)).bind fun n v element => next n v element

lemma of_parse {text : String} {d : Document} (h : parse text = .ok d) :
    (∀ n ∈ nodesOf d.children, n.Sound) ∧ ∃ e, d.children.filter Node.isElement = [e] := by
  have top : Ensures (readTop .beginning [] (text.toList.length + 1) { rest := text.toList }) fun d _ =>
      Topped .done d.children := ensures_readTop _ _ _ _ ⟨by simp [nodesOf], rfl⟩
  simp only [parse] at h
  split at h
  · rename_i e t goes
    cases h
    have topped := top _ _ goes
    exact ⟨topped.sound, List.length_eq_one_iff.1 topped.elements⟩
  · simp at h

end ItemPipeline.Xml
