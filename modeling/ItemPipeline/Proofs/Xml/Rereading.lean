import ItemPipeline.Proofs.Success
import ItemPipeline.Proofs.Xml.Tags

/-!
Written as markup and read again, an element is the same but for the division of its text.
-/

namespace ItemPipeline.Xml

open Reader

variable {name : Name} {attributes : List Attribute} {children : List Node} {ps : List Part} {r s : List Char}
  {c : Cursor}

variable {o : OpenElement} {outer : List OpenElement} {fuel : Nat} {Q : Node → Cursor → Prop}

def OpenElement.add (o : OpenElement) (n : Node) : OpenElement :=
  { o with children := n :: o.children }

lemma content_reference {d : Char} (special : d ∈ escaped) (here : c.rest = escapeChar d ++ r)
    (next : ∀ t : Cursor, t.rest = r →
      Gives (readContent (o.add (.text (String.singleton d)) :: outer) fuel t) Q) :
    Gives (readContent (o :: outer) (fuel + 1) c) Q := by
  obtain ⟨n, -, eq, -⟩ := escapeChar_of_mem special
  have first : c.rest = '&' :: (n ++ [';'] ++ r) := by simp [here, eq]
  simp only [readContent, read_get_bind, first, read_skip_bind]
  have here : '&' :: (c.after 1).rest = escapeChar d ++ r := by simp [first, eq]
  refine (gives_readReference special here).bind ?_
  rintro e t ⟨rfl, rest⟩
  exact next t rest

lemma content_comment {k : String} (closed : IsComment k.toList)
    (here : c.rest = "<!--".toList ++ (k.toList ++ ("-->".toList ++ r)))
    (next : ∀ t : Cursor, t.rest = r → Gives (readContent (o.add (.comment k) :: outer) fuel t) Q) :
    Gives (readContent (o :: outer) (fuel + 1) c) Q := by
  have first : c.rest = '<' :: '!' :: '-' :: '-' :: (k.toList ++ ("-->".toList ++ r)) := here
  simp only [readContent, read_get_bind, first]
  rw [read_eat_bind_of_not (by rw [first]; rfl), if_neg Bool.false_ne_true]
  refine (gives_eat here).bind ?_
  rintro _ t ⟨rfl, rest⟩
  refine (gives_readComment closed rest).bind ?_
  rintro _ u ⟨rfl, rest⟩
  exact next u rest

lemma charData_append {run : List Char} (plain : ∀ d ∈ run, d ∉ escaped) (stop : ∀ d ∈ r.head?, d = '<' ∨ d = '&') :
    charData (run ++ r) = run := by
  induction run with
  | nil =>
    cases r with
    | nil => rfl
    | cons d r =>
      rw [List.nil_append, charData, if_pos]
      exact (stop d rfl).imp_right .inl
  | cons d run ih =>
    rw [List.forall_mem_cons] at plain
    rw [List.cons_append, charData, if_neg, ih plain.2]
    rintro (rfl | rfl | ⟨-, bracket⟩)
    · exact plain.1 (by decide)
    · exact plain.1 (by decide)
    · -- Neither a bracket nor an angle stands where the run ends, and the angle is not in it.
      obtain ⟨t, eq⟩ := List.isPrefixOf_iff_prefix.1 bracket
      replace eq : ']' :: '>' :: t = run ++ r := eq
      match run with
      | [] =>
        obtain rfl : ']' :: '>' :: t = r := eq
        simpa using stop ']' rfl
      | [e] =>
        obtain rfl : '>' :: t = r := (List.cons.inj eq).2
        simpa using stop '>' rfl
      | e :: f :: run =>
        obtain rfl : '>' = f := (List.cons.inj (List.cons.inj eq).2).1
        exact plain.2 '>' (by simp) (by decide)

lemma content_run {run : List Char} (filled : run ≠ []) (plain : ∀ d ∈ run, d ∉ escaped)
    (stop : ∀ d ∈ r.head?, d = '<' ∨ d = '&') (here : c.rest = run ++ r)
    (next : ∀ t : Cursor, t.rest = r → Gives (readContent (o.add (.text (String.ofList run)) :: outer) fuel t) Q) :
    Gives (readContent (o :: outer) (fuel + 1) c) Q := by
  have whole : charData c.rest = run := by rw [here, charData_append plain stop]
  obtain ⟨d, more, rfl⟩ := List.exists_cons_of_ne_nil filled
  have ordinary := (List.forall_mem_cons.1 plain).1
  simp only [readContent, read_get_bind]
  generalize eq : c.rest = s at whole
  split
  · simp [charData] at whole
  · simp [charData] at whole
  · simp [charData] at whole
  · rw [whole, if_neg (by simp), read_skip_bind]
    exact next _ (by simp [here])

lemma not_markup {n : List Char} (isName : IsName n) {w : String} {d : Char} {l : List Char} (sign : d ∈ signs)
    (eq : w.toList = '<' :: d :: l) (here : c.rest = '<' :: (n ++ r)) : w.toList.isPrefixOf c.rest = false := by
  obtain ⟨e, more, rfl, start, -⟩ := isName
  simp [eq, here, List.isPrefixOf, ne_of_isNameStart sign start]

lemma exists_sign (attributes : List Attribute) (last : Bool) (r : List Char) :
    ∃ d s, attributesText attributes ++ (tagEnd last ++ r) = d :: s ∧ d ∈ signs ∧ d ≠ ':' := by
  cases attributes with
  | cons a l => exact ⟨' ', _, rfl, by decide, by decide⟩
  | nil =>
    cases last with
    | true => exact ⟨'/', _, rfl, by decide, by decide⟩
    | false => exact ⟨'>', _, rfl, by decide, by decide⟩

def opened (name : Name) (attributes : List Attribute) (scope : Scope) (location : Nat) : OpenElement :=
  ⟨⟨none, name.localPart, location⟩, name, attributes, [], scope⟩

lemma content_tag (last : Bool) (tag : IsTag name attributes) (unbound : o.scope.lookup none = none)
    (here : c.rest = '<' :: (name.localPart.toList ++ (attributesText attributes ++ (tagEnd last ++ r))))
    (next : ∀ (location : Nat) (t : Cursor), t.rest = r →
      Gives (readContent (if last then o.add (opened name attributes o.scope location).close :: outer
        else opened name attributes o.scope location :: o :: outer) fuel t) Q) :
    Gives (readContent (o :: outer) (fuel + 1) c) Q := by
  obtain ⟨sign, s, follows, isSign, colon⟩ := exists_sign attributes last r
  have named := tag.named
  simp only [readContent, read_get_bind, here]
  rw [read_eat_bind_of_not (not_markup named (by decide) rfl here), if_neg Bool.false_ne_true,
    read_eat_bind_of_not (not_markup named (by decide) rfl here), if_neg Bool.false_ne_true,
    read_eat_bind_of_not (not_markup named (by decide) rfl here), if_neg Bool.false_ne_true,
    read_eat_bind_of_not (not_markup named (by decide) rfl here), if_neg Bool.false_ne_true, read_skip_bind]
  have inside : (c.after 1).rest = name.localPart.toList ++ sign :: s := by simp [here, follows]
  refine (gives_readQName _ named isSign colon inside).bind ?_
  rintro _ t ⟨rfl, rest⟩
  rw [String.ofList_toList]
  refine (gives_readTag tag ⟨rfl, rfl⟩ unbound (rest.trans follows.symm)).bind ?_
  rintro _ u ⟨rfl, rest⟩
  cases last with
  | true => exact next _ u rest
  | false => exact next _ u rest

lemma content_close (written : o.written.qualifier = none ∧ o.written.localPart = name.localPart)
    (named : IsName name.localPart.toList) (here : c.rest = "</".toList ++ (name.localPart.toList ++ (">".toList ++ r)))
    (next : ∀ t : Cursor, t.rest = r → Gives ((match outer with
      | [] => pure o.close
      | p :: rest => readContent (p.add o.close :: rest) fuel : Reader Node) t) Q) :
    Gives (readContent (o :: outer) (fuel + 1) c) Q := by
  have first : c.rest = '<' :: '/' :: (name.localPart.toList ++ (">".toList ++ r)) := here
  simp only [readContent, read_get_bind, first]
  refine (gives_eat here).bind ?_
  rintro _ t ⟨rfl, rest⟩
  refine (gives_readQName _ named (by decide) (by decide) rest).bind ?_
  rintro _ u ⟨rfl, rest⟩
  refine (gives_space rest rfl).bind ?_
  rintro _ u rfl
  rw [if_neg (by simp [written])]
  refine (gives_literal (w := ">") rest).bind fun _ v rest => ?_
  cases outer with
  | nil => exact next v rest
  | cons p outer => exact next v rest

def GoesOn (Q : Node → Cursor → Prop) (ps : List Part) (r : List Char) (o : OpenElement) (outer : List OpenElement) : Prop :=
  ∀ (l : List Node) (fuel : Nat) (t : Cursor), partsOf l.reverse = ps → t.rest = r → t.rest.length < fuel →
    Gives (readContent ({ o with children := l ++ o.children } :: outer) fuel t) Q

lemma GoesOn.add {n : Node} (h : GoesOn Q ps r o outer) {ps' : List Part} (parts : n.parts ++ ps' = ps) :
    GoesOn Q ps' r (o.add n) outer := by
  intro l fuel t parts' rest enough
  have := h (l ++ [n]) fuel t (by simpa [partsOf, parts'] using parts) rest enough
  simpa [OpenElement.add] using this

lemma gives_content (h : Written ps s) (closing : ∀ d ∈ r.head?, d = '<') (unbound : o.scope.lookup none = none)
    (here : c.rest = s ++ r) (enough : c.rest.length < fuel) (next : GoesOn Q ps r o outer) :
    Gives (readContent (o :: outer) fuel c) Q := by
  induction h generalizing r o outer fuel c with
  | nil => exact next [] fuel c rfl here enough
  | @reference d ps s special rest ih =>
    obtain ⟨fuel, rfl⟩ := Nat.exists_eq_add_one.2 (Nat.zero_lt_of_lt enough)
    rw [List.append_assoc] at here
    refine content_reference special here fun t left => ih closing unbound left ?_ (next.add (by simp [Node.parts]))
    obtain ⟨n, -, eq, -⟩ := escapeChar_of_mem special
    simp only [here, left, eq, List.length_append, List.length_cons] at enough ⊢
    omega
  | @run t ps s filled plain stop rest ih =>
    obtain ⟨fuel, rfl⟩ := Nat.exists_eq_add_one.2 (Nat.zero_lt_of_lt enough)
    rw [List.append_assoc] at here
    have stop' : ∀ d ∈ (s ++ r).head?, d = '<' ∨ d = '&' := by
      cases s with
      | nil => exact fun d hd => .inl (closing d hd)
      | cons e s => exact stop
    refine content_run filled plain stop' here fun u left => ih closing unbound left ?_ (next.add ?_)
    · have := List.length_pos_iff.2 filled
      simp only [here, left, List.length_append] at enough ⊢
      omega
    · simp [Node.parts]
  | @comment k ps s closed rest ih =>
    obtain ⟨fuel, rfl⟩ := Nat.exists_eq_add_one.2 (Nat.zero_lt_of_lt enough)
    simp only [List.append_assoc] at here
    refine content_comment closed here fun t left => ih closing unbound left ?_ (next.add rfl)
    have opening : "<!--".toList.length = 4 := rfl
    simp only [here, left, List.length_append, opening] at enough ⊢
    omega
  | @empty name attributes ps s tag rest ih =>
    obtain ⟨fuel, rfl⟩ := Nat.exists_eq_add_one.2 (Nat.zero_lt_of_lt enough)
    simp only [List.cons_append, List.append_assoc] at here
    refine content_tag true tag unbound here fun location t left => ih closing unbound left ?_ (next.add rfl)
    simp only [here, left, List.length_append, List.length_cons] at enough ⊢
    omega
  | @element name attributes content ps u s tag inner rest ihInner ih =>
    obtain ⟨fuel, rfl⟩ := Nat.exists_eq_add_one.2 (Nat.zero_lt_of_lt enough)
    simp only [List.cons_append, List.append_assoc] at here
    have closing' : ∀ d ∈ ("</".toList ++ (name.localPart.toList ++ (">".toList ++ (s ++ r)))).head?, d = '<' :=
      fun d hd => (Option.some.inj hd).symm
    refine content_tag false tag unbound here fun location t left => ?_
    refine ihInner closing' unbound left ?_ fun l fuel u parts left enough => ?_
    · simp only [here, left, List.length_append, List.length_cons] at enough ⊢
      omega
    obtain ⟨fuel, rfl⟩ := Nat.exists_eq_add_one.2 (Nat.zero_lt_of_lt enough)
    refine content_close ⟨rfl, rfl⟩ tag.named left fun v left' => ih closing unbound left' ?_ (next.add ?_)
    · have bracket : "</".toList.length = 2 := rfl
      simp only [left, left', List.length_append, bracket] at enough ⊢
      omega
    · simp [Node.parts, OpenElement.close, opened, parts]

lemma read_top_done {e : Node} (here : c.rest = []) : readTop .done [e] (fuel + 1) c = .ok (⟨[e]⟩, c) := by
  simp [readTop, here]

lemma top_tag (last : Bool) {P : Document → Cursor → Prop} (tag : IsTag name attributes)
    (here : c.rest = '<' :: (name.localPart.toList ++ (attributesText attributes ++ (tagEnd last ++ r))))
    (next : ∀ (location : Nat) (t : Cursor), t.rest = r →
      let o := opened name attributes [(some "xml", xmlNamespace)] location
      Gives ((if last then readTop .done [o.close] fuel
        else readContent [o] (t.rest.length + 2) >>= fun e => readTop .done [e] fuel : Reader Document) t) P) :
    Gives (readTop .beginning [] (fuel + 1) c) P := by
  obtain ⟨sign, s, follows, isSign, colon⟩ := exists_sign attributes last r
  have named := tag.named
  have begins : Stage.beginning ≠ .done ∧ True ∧
      (name.localPart.toList ++ (attributesText attributes ++ (tagEnd last ++ r))).head?.any isNameStart = true := by
    obtain ⟨d, more, eq, start, -⟩ := named
    exact ⟨by decide, trivial, by simpa [eq] using start⟩
  have declaration := not_markup named (w := "<?xml") (by decide) rfl here
  rw [here] at declaration
  simp only [readTop, read_get_bind, here]
  rw [if_neg (by decide), read_eat_bind_of_not (not_markup named (by decide) rfl here), if_neg Bool.false_ne_true]
  rw [if_neg fun h => Bool.false_ne_true (declaration.symm.trans h.2.1)]
  rw [read_eat_bind_of_not (not_markup named (by decide) rfl here), if_neg Bool.false_ne_true]
  rw [if_neg (by rintro ⟨h, -⟩; cases h), if_pos begins, read_skip_bind]
  have inside : (c.after 1).rest = name.localPart.toList ++ sign :: s := by simp [here, follows]
  refine (gives_readQName _ named isSign colon inside).bind ?_
  rintro _ t ⟨rfl, rest⟩
  rw [String.ofList_toList]
  refine (gives_readTag tag ⟨rfl, rfl⟩ rfl (rest.trans follows.symm)).bind ?_
  rintro _ u ⟨rfl, rest⟩
  cases last with
  | true => exact next _ u rest
  | false => exact next _ u rest

lemma gives_empty (tag : IsTag name attributes)
    (here : c.rest = '<' :: (name.localPart.toList ++ (attributesText attributes ++ "/>".toList))) :
    Gives (readTop .beginning [] (fuel + 2) c) fun d _ => d = ⟨[.element name attributes []]⟩ := by
  refine top_tag true (r := []) tag (by simpa [tagEnd] using here) fun location t rest => ?_
  change Gives (readTop .done [_] (fuel + 1) t) _
  rw [read_top_done rest, gives_ok]
  rfl

lemma gives_filled (tag : IsTag name attributes) (inner : Written ps s)
    (here : c.rest = '<' :: (name.localPart.toList ++ (attributesText attributes ++ (">".toList ++
      (s ++ ("</".toList ++ (name.localPart.toList ++ ">".toList))))))) :
    Gives (readTop .beginning [] (fuel + 2) c) fun d _ =>
      ∃ children, d = ⟨[.element name attributes children]⟩ ∧ partsOf children = ps := by
  refine top_tag false (r := s ++ ("</".toList ++ (name.localPart.toList ++ (">".toList ++ [])))) tag
    (by simpa [tagEnd] using here) fun location t rest => ?_
  change Gives ((readContent [_] _ >>= fun e => readTop .done [e] (fuel + 1)) t) _
  have element : Gives (readContent [opened name attributes [(some "xml", xmlNamespace)] location] (t.rest.length + 2) t)
      fun e u => (∃ children, e = .element name attributes children ∧ partsOf children = ps) ∧ u.rest = [] := by
    have closing : ∀ d ∈ ("</".toList ++ (name.localPart.toList ++ (">".toList ++ []))).head?, d = '<' :=
      fun d hd => (Option.some.inj hd).symm
    refine gives_content inner closing rfl rest (by omega) fun l fuel u parts rest enough => ?_
    obtain ⟨fuel, rfl⟩ := Nat.exists_eq_add_one.2 (Nat.zero_lt_of_lt enough)
    refine content_close ⟨rfl, rfl⟩ tag.named rest fun v rest => gives_ok.2 ⟨⟨(l ++ []).reverse, rfl, ?_⟩, rest⟩
    rwa [List.append_nil]
  refine element.bind ?_
  rintro _ u ⟨⟨children, rfl, parts⟩, rest⟩
  rw [read_top_done rest, gives_ok]
  exact ⟨children, rfl, parts⟩

/-- Written as markup, an element of a document with plain names is a document again, whose element has the same name and
attributes, and in it the same parts at every depth. -/
theorem parse_render {text : String} {d : Document} (h : parse text = .ok d) (plain : ∀ n ∈ nodesOf d.children, n.Plain)
    (mem : .element name attributes children ∈ nodesOf d.children) :
    ∃ children', parse (Node.element name attributes children).render = .ok ⟨[.element name attributes children']⟩ ∧
      partsOf children' = partsOf children := by
  have inside : ∀ m ∈ (Node.element name attributes children).nodes, m.Sound ∧ m.Plain := fun m hm =>
    have hm := nodesOf_subset _ _ mem m hm
    ⟨(of_parse h).1 m hm, plain m hm⟩
  rw [Node.nodes, List.forall_mem_cons] at inside
  obtain ⟨⟨sound, unqualified⟩, inside⟩ := inside
  have tag := isTag_of_sound sound unqualified
  have text := toList_render name attributes children
  obtain ⟨fuel, enough⟩ : ∃ fuel, (Node.element name attributes children).render.toList.length = fuel + 1 := by
    rw [text]
    exact ⟨_, rfl⟩
  have read : Gives (readTop .beginning [] (fuel + 2) { rest := (Node.element name attributes children).render.toList })
      fun d _ => ∃ children', d = ⟨[.element name attributes children']⟩ ∧ partsOf children' = partsOf children := by
    cases children with
    | nil => exact (gives_empty tag text).mono fun d _ eq => ⟨[], eq, rfl⟩
    | cons n l =>
      have inner := written_nodes (n :: l) inside .nil
      rw [List.append_nil, List.append_nil] at inner
      exact gives_filled tag inner text
  obtain ⟨_, t, eq, children', rfl, parts⟩ := read
  exact ⟨children', by rw [parse, enough, eq], parts⟩

theorem parse_render_of_mixed :
    ∃ d name attributes children,
      parse "<q><r b='\"&lt;' a=''>]]&gt;<!--<-->t<![CDATA[&<]]><?p q?> ]<e/>\n'</r></q>" = .ok d ∧
      (∀ n ∈ nodesOf d.children, n.Plain) ∧ .element name attributes children ∈ nodesOf d.children ∧
      (Node.element name attributes children).render =
        "<r a=\"\" b=\"&quot;&lt;\">]]&gt;<!--<-->t&amp;&lt; ]<e/>\n'</r>" ∧
      ∃ children', parse (Node.element name attributes children).render = .ok ⟨[.element name attributes children']⟩ ∧
        partsOf children' = partsOf children := by
  obtain ⟨d, parsed, h⟩ := any_toOption_iff.1 (show (parse
    "<q><r b='\"&lt;' a=''>]]&gt;<!--<-->t<![CDATA[&<]]><?p q?> ]<e/>\n'</r></q>").toOption.any (fun d =>
      (nodesOf d.children).all (fun n => decide n.Plain) && (nodesOf d.children).any (fun n => n.isElement &&
        n.render == "<r a=\"\" b=\"&quot;&lt;\">]]&gt;<!--<-->t&amp;&lt; ]<e/>\n'</r>")) = true by decide +kernel)
  simp only [Bool.and_eq_true, List.all_eq_true, List.any_eq_true, decide_eq_true_eq, beq_iff_eq] at h
  obtain ⟨plain, e, mem, element, render⟩ := h
  cases e with
  | element name attributes children =>
    exact ⟨d, name, attributes, children, parsed, plain, mem, render, parse_render parsed plain mem⟩
  | _ => cases element

end ItemPipeline.Xml
