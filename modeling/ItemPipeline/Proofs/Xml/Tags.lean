import ItemPipeline.Proofs.Xml.Writing

/-!
What is written of names, values, comments and tags is read as what it was written from.
-/

namespace ItemPipeline.Xml

open Reader

variable {name : Name} {attributes : List Attribute} {r : List Char} {c : Cursor}

lemma gives_eat {w : String} (here : c.rest = w.toList ++ r) : Gives (eat w c) fun a t => a = true ∧ t.rest = r := by
  simp [here, ← String.length_toList]

lemma read_eat_bind_of_not {β : Type} {w : String} (h : w.toList.isPrefixOf c.rest = false) (f : Bool → Reader β) :
    (eat w >>= f) c = f false c := by
  rw [read_eat_bind, h, if_neg Bool.false_ne_true]

lemma gives_literal {w : String} (here : c.rest = w.toList ++ r) : Gives (literal w c) fun _ t => t.rest = r := by
  refine (gives_eat here).bind ?_
  rintro _ t ⟨rfl, rest⟩
  exact gives_ok.2 rest

lemma gives_readNcName {n : List Char} (w : String) (isName : IsName n) {d : Char} (sign : d ∈ signs)
    (here : c.rest = n ++ d :: r) : Gives (readNcName w c) fun a t => a = String.ofList n ∧ t.rest = d :: r := by
  obtain ⟨first, more, rfl, start, chars⟩ := isName
  have whole : (first :: (more ++ d :: r)).takeWhile isNameChar = first :: more := by
    rw [← List.cons_append]
    refine takeWhile_append (List.forall_mem_cons.2 ⟨isNameChar_of_isNameStart start, chars⟩) ?_
    simpa using not_isNameChar sign
  rw [List.cons_append] at here
  simp only [readNcName, read_get_bind, here, if_pos start, read_takeWhile_bind, whole, read_pure, gives_ok]
  simp [here]

lemma gives_readQName {n : List Char} (w : String) (isName : IsName n) {d : Char} (sign : d ∈ signs) (colon : d ≠ ':')
    (here : c.rest = n ++ d :: r) :
    Gives (readQName w c) fun q t => q = ⟨none, String.ofList n, c.location⟩ ∧ t.rest = d :: r := by
  unfold readQName
  rw [read_get_bind]
  refine (gives_readNcName w isName sign here).bind ?_
  rintro _ t ⟨rfl, rest⟩
  rw [read_get_bind]
  generalize eq : t.rest = x
  split
  · exact (colon (List.cons.inj (rest.symm.trans eq)).1).elim
  · exact gives_ok.2 ⟨rfl, rest⟩

lemma gives_readName {n : List Char} (w : String) (isName : IsName n) {d : Char} (sign : d ∈ signs) (colon : d ≠ ':')
    (here : c.rest = n ++ d :: r) : Gives (readName w c) fun a t => a = String.ofList n ∧ t.rest = d :: r := by
  obtain ⟨first, more, rfl, start, chars⟩ := isName
  have whole : (first :: (more ++ d :: r)).takeWhile (fun c => isNameChar c || c == ':') = first :: more := by
    rw [← List.cons_append]
    refine takeWhile_append (List.forall_mem_cons.2 ⟨?_, fun d hd => ?_⟩) ?_
    · simp [isNameChar_of_isNameStart start]
    · simp [chars d hd]
    · simpa [not_isNameChar sign] using colon
  rw [List.cons_append] at here
  simp only [readName, read_get_bind, here, start, Bool.true_or, if_true, read_takeWhile_bind, whole, read_pure, gives_ok]
  simp [here]

lemma isNameStart_of_isLower {d : Char} (h : 97 ≤ d.toNat ∧ d.toNat ≤ 122) : isNameStart d = true := by
  have eq : nameStartSet = (65, 90) :: (95, 95) :: (97, 122) :: nameStartSet.drop 3 := by decide +kernel
  rw [isNameStart, eq]
  simp only [Unicode.CharSet.contains]
  rw [if_neg (by omega), if_neg (by omega), if_neg (by omega), if_neg (by omega), if_neg (by omega), if_pos h.2]

lemma isName_of_isLower {n : List Char} (filled : n ≠ []) (h : ∀ d ∈ n, 97 ≤ d.toNat ∧ d.toNat ≤ 122) : IsName n := by
  obtain ⟨d, n, rfl⟩ := List.exists_cons_of_ne_nil filled
  rw [List.forall_mem_cons] at h
  exact ⟨d, n, rfl, isNameStart_of_isLower h.1, fun e he => isNameChar_of_isNameStart (isNameStart_of_isLower (h.2 e he))⟩

lemma escapeChar_of_mem {d : Char} (h : d ∈ escaped) : ∃ n, IsName n ∧ escapeChar d = '&' :: (n ++ [';']) ∧
    namedReference? (String.ofList n) = some d := by
  simp only [escaped, List.mem_cons, List.not_mem_nil, or_false] at h
  obtain rfl | rfl | rfl | rfl := h
  · exact ⟨['a', 'm', 'p'], isName_of_isLower (by simp) (by simp), rfl, by decide +kernel⟩
  · exact ⟨['l', 't'], isName_of_isLower (by simp) (by simp), rfl, by decide +kernel⟩
  · exact ⟨['g', 't'], isName_of_isLower (by simp) (by simp), rfl, by decide +kernel⟩
  · exact ⟨['q', 'u', 'o', 't'], isName_of_isLower (by simp) (by simp), rfl, by decide +kernel⟩

lemma not_isPrefixOf {n : List Char} (isName : IsName n) {d : Char} (sign : d ∈ signs) {w : String}
    (first : w.toList.head? = some d) : w.toList.isPrefixOf (n ++ r) = false := by
  obtain ⟨c, more, rfl, start, -⟩ := isName
  obtain ⟨l, eq⟩ : ∃ l, w.toList = d :: l := List.head?_eq_some_iff.1 first
  simp [eq, List.isPrefixOf, ne_of_isNameStart sign start]

lemma gives_readReference {d : Char} (h : d ∈ escaped) (here : '&' :: c.rest = escapeChar d ++ r) :
    Gives (readReference c) fun a t => a = d ∧ t.rest = r := by
  obtain ⟨n, isName, eq, named⟩ := escapeChar_of_mem h
  replace here : c.rest = n ++ ';' :: r := by simpa [eq] using here
  have hex : "#x".toList.isPrefixOf c.rest = false := here ▸ not_isPrefixOf isName (by decide) rfl
  have decimal : "#".toList.isPrefixOf c.rest = false := here ▸ not_isPrefixOf isName (by decide) rfl
  simp only [readReference, read_eat_bind, hex, decimal, Bool.false_eq_true, if_false, read_get_bind]
  refine (gives_readName _ isName (by decide) (by decide) here).bind ?_
  rintro _ t ⟨rfl, rest⟩
  refine (gives_literal (w := ";") rest).bind fun _ u rest => ?_
  simp [named, rest]

lemma exists_run (v : List Char) :
    ∃ run v', v = run ++ v' ∧ (∀ d ∈ run, d ∉ escaped) ∧ ∀ d ∈ v'.head?, d ∈ escaped := by
  refine ⟨v.takeWhile (· ∉ escaped), v.dropWhile (· ∉ escaped), List.takeWhile_append_dropWhile.symm, fun d hd => ?_,
    fun d hd => ?_⟩
  · simpa using List.all_eq_true.1 List.all_takeWhile d hd
  · have first := List.head?_dropWhile_not (fun d => decide (d ∉ escaped)) v
    rw [hd] at first
    simpa using first

lemma flatMap_escapeChar_of_not_mem {v : List Char} (plain : ∀ d ∈ v, d ∉ escaped) : v.flatMap escapeChar = v := by
  induction v with
  | nil => rfl
  | cons d v ih =>
    rw [List.forall_mem_cons] at plain
    rw [List.flatMap_cons, escapeChar_of_not_mem plain.1, ih plain.2]
    rfl

lemma head?_flatMap_escapeChar {v : List Char} (stop : ∀ d ∈ v.head?, d ∈ escaped) :
    ∀ e ∈ (v.flatMap escapeChar ++ r).head?, e = '&' ∨ e ∈ r.head? := by
  cases v with
  | nil => exact fun e he => .inr he
  | cons d v =>
    obtain ⟨n, -, eq, -⟩ := escapeChar_of_mem (stop d rfl)
    simp [eq]

lemma value_reference {d : Char} {acc : List Char} {fuel : Nat} {P : String → Cursor → Prop} (special : d ∈ escaped)
    (here : c.rest = escapeChar d ++ r)
    (next : ∀ t : Cursor, t.rest = r → Gives (readAttributeValue '"' (d :: acc) fuel t) P) :
    Gives (readAttributeValue '"' acc (fuel + 1) c) P := by
  obtain ⟨n, -, eq, -⟩ := escapeChar_of_mem special
  have first : c.rest = '&' :: (n ++ [';'] ++ r) := by simp [here, eq]
  have inside : '&' :: (c.after 1).rest = escapeChar d ++ r := by simp [first, eq]
  rw [readAttributeValue, read_get_bind, first]
  simp only [Char.reduceEq, if_false, if_true, read_skip_bind]
  refine (gives_readReference special inside).bind ?_
  rintro _ t ⟨rfl, rest⟩
  exact next t rest

lemma value_run {d : Char} {run acc : List Char} {fuel : Nat} {P : String → Cursor → Prop}
    (plain : ∀ e ∈ d :: run, e ∉ escaped) (stop : ∀ e ∈ r.head?, e = '&' ∨ e = '"') (here : c.rest = d :: run ++ r)
    (next : ∀ t : Cursor, t.rest = r → Gives (readAttributeValue '"' ((d :: run).reverse ++ acc) fuel t) P) :
    Gives (readAttributeValue '"' acc (fuel + 1) c) P := by
  have ordinary (e : Char) (he : e ∈ d :: run) : (e != '"' && e != '<' && e != '&') = true := by
    have := plain e he
    simp_all [escaped]
  have whole : c.rest.takeWhile (fun e => e != '"' && e != '<' && e != '&') = d :: run := by
    rw [here]
    refine takeWhile_append ordinary fun e he => ?_
    obtain rfl | rfl := stop e he <;> rfl
  have first : d ≠ '"' ∧ d ≠ '<' ∧ d ≠ '&' := by simpa [and_assoc] using ordinary d List.mem_cons_self
  rw [List.cons_append] at here
  rw [readAttributeValue, read_get_bind, here]
  simp only [first, if_false, read_takeWhile_bind, whole]
  exact next _ (by simp [here])

lemma gives_readAttributeValue {v acc : List Char} {fuel : Nat} (here : c.rest = v.flatMap escapeChar ++ '"' :: r)
    (enough : c.rest.length ≤ fuel) :
    Gives (readAttributeValue '"' acc fuel c) fun a t => a = String.ofList (acc.reverse ++ v) ∧ t.rest = r := by
  induction fuel generalizing v acc c with
  | zero => simp [here] at enough
  | succ fuel ih =>
    obtain ⟨run, v, rfl, plain, stop⟩ := exists_run v
    rw [List.flatMap_append, flatMap_escapeChar_of_not_mem plain, List.append_assoc] at here
    cases run with
    | nil =>
      cases v with
      | nil =>
        simp only [List.nil_append, List.flatMap_nil] at here
        simp only [readAttributeValue, read_get_bind, here, if_true, read_skip_bind, read_pure, gives_ok]
        simp [here]
      | cons d v =>
        have special := stop d rfl
        rw [List.nil_append, List.flatMap_cons, List.append_assoc] at here
        refine value_reference special here fun t rest => ?_
        have less : t.rest.length ≤ fuel := by
          obtain ⟨n, -, eq, -⟩ := escapeChar_of_mem special
          simp only [here, rest, eq, List.length_append, List.length_cons] at enough ⊢
          omega
        exact (ih rest less).mono fun _ _ h => by simpa using h
    | cons d run =>
      have stop' : ∀ e ∈ (v.flatMap escapeChar ++ '"' :: r).head?, e = '&' ∨ e = '"' := fun e he =>
        (head?_flatMap_escapeChar stop e he).imp_right fun quote => (Option.some.inj quote).symm
      refine value_run plain stop' here fun t rest => ?_
      have less : t.rest.length ≤ fuel := by
        simp only [here, rest, List.length_append, List.length_cons] at enough ⊢
        omega
      exact (ih rest less).mono fun _ _ h => by simpa using h

def Stands (p : QName × String) (a : Attribute) : Prop :=
  p.1.qualifier = none ∧ p.1.localPart = a.name.localPart ∧ p.2 = a.value

lemma after_zero (c : Cursor) : c.after 0 = c := rfl

lemma gives_space {d : Char} (here : c.rest = d :: r) (h : isSpace d = false) : Gives (space c) fun _ t => t = c := by
  simp [here, h, after_zero]

lemma not_isSpace {d : Char} (start : isNameStart d = true) : isSpace d = false := by
  by_contra h
  simp only [isSpace, Bool.not_eq_false, Bool.or_eq_true, beq_iff_eq] at h
  obtain ((rfl | rfl) | rfl) | rfl := h <;> exact ne_of_isNameStart (by decide) start rfl

def tagEnd (last : Bool) : List Char :=
  if last then "/>".toList else ">".toList

lemma gives_tagEnd {acc : List (QName × String)} {fuel : Nat} {last : Bool} (here : c.rest = tagEnd last ++ r) :
    Gives (readAttributes acc (fuel + 1) c) fun a t => a = (acc.reverse, last) ∧ t.rest = r := by
  rw [readAttributes, read_get_bind]
  cases last with
  | false =>
    refine (gives_space here rfl).bind ?_
    rintro _ _ rfl
    refine (gives_eat (w := ">") here).bind ?_
    rintro _ t ⟨rfl, rest⟩
    exact gives_ok.2 ⟨rfl, rest⟩
  | true =>
    refine (gives_space here rfl).bind ?_
    rintro _ s rfl
    rw [read_eat_bind_of_not (by rw [here]; rfl), if_neg Bool.false_ne_true]
    refine (gives_eat (w := "/>") here).bind ?_
    rintro _ t ⟨rfl, rest⟩
    exact gives_ok.2 ⟨rfl, rest⟩

lemma gives_readQuote (here : c.rest = '"' :: r) : Gives (readQuote c) fun q t => q = '"' ∧ t.rest = r := by
  refine (gives_eat (w := "\"") here).bind ?_
  rintro _ t ⟨rfl, rest⟩
  exact gives_ok.2 ⟨rfl, rest⟩

lemma attributes_next {acc : List (QName × String)} {fuel : Nat} {n v : List Char} (named : IsName n)
    {P : List (QName × String) × Bool → Cursor → Prop}
    (here : c.rest = ' ' :: (n ++ '=' :: '"' :: (v.flatMap escapeChar ++ '"' :: r)))
    (next : ∀ (location : Nat) (t : Cursor), t.rest = r →
      Gives (readAttributes ((⟨none, String.ofList n, location⟩, String.ofList v) :: acc) fuel t) P) :
    Gives (readAttributes acc (fuel + 1) c) P := by
  have after : (c.after 1).rest = n ++ '=' :: '"' :: (v.flatMap escapeChar ++ '"' :: r) := by simp [here]
  have blank : c.rest.takeWhile isSpace = [' '] := by
    obtain ⟨first, more, eq, start, -⟩ := named
    simp [here, eq, not_isSpace start, show isSpace ' ' = true from rfl]
  have blanks : Gives (someSpace c) fun _ t => t = c.after 1 := by
    simp [someSpace, blank]
  rw [readAttributes, read_get_bind, read_space_bind, blank, List.length_singleton,
    read_eat_bind_of_not (after ▸ not_isPrefixOf named (by decide) rfl), if_neg Bool.false_ne_true,
    read_eat_bind_of_not (after ▸ not_isPrefixOf named (by decide) rfl), if_neg Bool.false_ne_true, read_set_bind]
  refine blanks.bind ?_
  rintro _ _ rfl
  refine (gives_readQName _ named (by decide) (by decide) after).bind ?_
  rintro _ t ⟨rfl, rest⟩
  refine (gives_space rest rfl).bind ?_
  rintro _ _ rfl
  refine (gives_literal (w := "=") rest).bind fun _ u rest => (gives_space rest rfl).bind ?_
  rintro _ u rfl
  refine (gives_readQuote rest).bind ?_
  rintro _ u ⟨rfl, rest⟩
  rw [read_get_bind]
  refine (gives_readAttributeValue rest le_rfl).bind ?_
  rintro _ t ⟨rfl, rest⟩
  exact next _ t rest

lemma gives_readAttributes {acc : List (QName × String)} {fuel : Nat} (named : ∀ a ∈ attributes, IsName a.name.localPart.toList)
    {last : Bool} (here : c.rest = attributesText attributes ++ (tagEnd last ++ r)) (enough : attributes.length < fuel) :
    Gives (readAttributes acc fuel c) fun a t => (∃ raw, a = (acc.reverse ++ raw, last) ∧ List.Forall₂ Stands raw attributes) ∧
      t.rest = r := by
  obtain ⟨fuel, rfl⟩ := Nat.exists_eq_add_one.2 (Nat.zero_lt_of_lt enough)
  induction attributes generalizing acc fuel c with
  | nil =>
    refine (gives_tagEnd here).mono ?_
    rintro _ t ⟨rfl, rest⟩
    exact ⟨⟨[], by simp, .nil⟩, rest⟩
  | cons a l ih =>
    rw [List.forall_mem_cons] at named
    have shorter : l.length < fuel := Nat.lt_of_succ_lt_succ enough
    obtain ⟨fuel, rfl⟩ := Nat.exists_eq_add_one.2 (Nat.zero_lt_of_lt shorter)
    have first : c.rest = ' ' :: (a.name.localPart.toList ++ '=' :: '"' :: (a.value.toList.flatMap escapeChar ++
        '"' :: (attributesText l ++ (tagEnd last ++ r)))) := by
      simp [here, attributesText]
    refine attributes_next named.1 first fun location t rest => (ih named.2 rest fuel shorter).mono ?_
    rintro _ u ⟨⟨raw, rfl, stand⟩, rest⟩
    rw [String.ofList_toList, String.ofList_toList]
    refine ⟨⟨(⟨none, a.name.localPart, location⟩, a.value) :: raw, ?_, .cons ⟨rfl, rfl, rfl⟩ stand⟩, rest⟩
    simp

lemma gives_checkDuplicates {seen : List QName} {raw : List (QName × String)} (distinct : (raw.map (·.1.key)).Nodup)
    (apart : ∀ p ∈ raw, ∀ q ∈ seen, q.key ≠ p.1.key) : Gives (checkDuplicates seen raw c) fun _ t => t = c := by
  induction raw generalizing seen with
  | nil => exact gives_ok.2 rfl
  | cons p raw ih =>
    obtain ⟨q, v⟩ := p
    rw [List.forall_mem_cons] at apart
    rw [List.map_cons, List.nodup_cons] at distinct
    have new : (seen.any fun p => p.qualifier = q.qualifier ∧ p.localPart = q.localPart) = false := by
      refine List.any_eq_false.2 fun p hp same => apart.1 p hp ?_
      obtain ⟨qualifier, localPart⟩ := of_decide_eq_true same
      exact Prod.ext qualifier localPart
    rw [checkDuplicates, if_neg (by rw [new]; exact Bool.false_ne_true)]
    refine ih distinct.2 fun p hp => List.forall_mem_cons.2 ⟨fun same => distinct.1 ?_, apart.2 p hp⟩
    exact List.mem_map.2 ⟨p, hp, same.symm⟩

lemma gives_resolveAttributes {scope : Scope} {raw : List (QName × String)} (stand : List.Forall₂ Stands raw attributes)
    (plain : ∀ a ∈ attributes, a.name.Plain) :
    Gives ((raw.mapM (fun (q, v) => do pure (Attribute.mk (← resolveAttribute scope q) v)) : Reader (List Attribute)) c)
      fun l t => l = attributes ∧ t = c := by
  induction stand with
  | nil => exact gives_ok.2 ⟨rfl, rfl⟩
  | @cons p a raw l stand _ ih =>
    obtain ⟨q, v⟩ := p
    obtain ⟨⟨p, uri, n⟩, value⟩ := a
    rw [List.forall_mem_cons] at plain
    obtain ⟨⟨rfl, rfl⟩, plain⟩ := plain
    obtain ⟨unqualified, rfl, rfl⟩ := stand
    have first : resolveAttribute scope q = pure ⟨none, none, q.localPart⟩ := by rw [resolveAttribute, unqualified]
    rw [List.mapM_cons]
    simp only [first, pure_bind]
    refine (ih plain).bind ?_
    rintro _ t ⟨rfl, rfl⟩
    exact gives_ok.2 ⟨rfl, rfl⟩

lemma keys_of_stands {raw : List (QName × String)} (stand : List.Forall₂ Stands raw attributes)
    (plain : ∀ a ∈ attributes, a.name.Plain) : raw.map (·.1.key) = attributes.map (·.name.key) := by
  induction stand with
  | nil => rfl
  | cons stand _ ih =>
    rw [List.forall_mem_cons] at plain
    exact congrArg₂ _ (Prod.ext (stand.1.trans plain.1.1.symm) stand.2.1) (ih plain.2)

lemma length_le_attributesText (l : List Attribute) : l.length ≤ (attributesText l).length := by
  induction l with
  | nil => rfl
  | cons a l ih =>
    simp only [attributesText, List.flatMap_cons, List.length_append, List.length_cons] at ih ⊢
    omega

lemma gives_readTag {scope : Scope} {written : QName} {last : Bool} (tag : IsTag name attributes)
    (same : written.qualifier = none ∧ written.localPart = name.localPart) (unbound : scope.lookup none = none)
    (here : c.rest = attributesText attributes ++ (tagEnd last ++ r)) :
    Gives (readTag scope written c) fun a t => a = (⟨written, name, attributes, [], scope⟩, last) ∧ t.rest = r := by
  obtain ⟨⟨named, attributed, ordered, distinct⟩, plain⟩ := tag
  have enough : attributes.length < c.rest.length + 1 := by
    have := length_le_attributesText attributes
    rw [here, List.length_append]
    omega
  rw [readTag, read_get_bind]
  refine (gives_readAttributes (fun a ha => (attributed a ha).1) here enough).bind ?_
  rintro _ t ⟨⟨raw, rfl, stand⟩, rest⟩
  have keys := keys_of_stands stand plain.2
  have other : ∀ p ∈ raw, isDeclaration p.1 = false := by
    intro p hp
    obtain ⟨a, ha, key⟩ := List.mem_map.1 (keys ▸ List.mem_map_of_mem hp)
    obtain ⟨qualifier, localPart⟩ := Prod.mk.inj key
    have unqualified := (plain.2 a ha).1
    have notDefault := (attributed a ha).2 unqualified
    simp [isDeclaration, isDefault, ← qualifier, ← localPart, unqualified, notDefault]
  have undeclared : raw.filter (fun a => isDeclaration a.1) = [] := List.filter_eq_nil_iff.2 fun p hp => by simp [other p hp]
  have all : raw.filter (fun a => !isDeclaration a.1) = raw := List.filter_eq_self.2 fun p hp => by simp [other p hp]
  simp only [List.reverse_nil, List.nil_append, undeclared, all, List.foldl_nil, List.forIn_nil]
  refine (gives_checkDuplicates (keys ▸ distinct) (by simp)).bind ?_
  rintro _ t rfl
  have resolved : Gives (resolveElement scope written t) fun n u => n = name ∧ u = t := by
    obtain ⟨p, uri, n⟩ := name
    obtain ⟨⟨rfl, rfl⟩, -⟩ := plain
    simp [resolveElement, lookupScope?, same.1, same.2, unbound]
  rw [read_pure_bind]
  refine resolved.bind ?_
  rintro _ _ ⟨rfl, rfl⟩
  refine (gives_resolveAttributes stand plain.2).bind ?_
  rintro _ _ ⟨rfl, rfl⟩
  refine gives_ok.2 ⟨?_, rest⟩
  rw [sortAttributes_eq, ordered.insertionSort_eq]

lemma gives_readComment {k : String} (closed : IsComment k.toList) (here : c.rest = k.toList ++ ("-->".toList ++ r)) :
    Gives (readComment c) fun n t => n = .comment k ∧ t.rest = r := by
  have found : before? "--".toList c.rest = some k.toList := by
    rw [here]
    exact closed ('>' :: r)
  have rest : (c.after k.toList.length).rest = "-->".toList ++ r := by simp [here]
  simp only [readComment, takeUntil?, bind_assoc, read_get_bind, found, read_skip_bind, pure_bind]
  refine (gives_literal rest).bind fun _ t rest => ?_
  simp [rest]

end ItemPipeline.Xml
