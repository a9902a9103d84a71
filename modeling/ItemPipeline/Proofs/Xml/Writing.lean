import ItemPipeline.Proofs.Xml.Reading

/-!
Nodes as they are written: the parts of which markup tells, and the markup for them.
-/

namespace ItemPipeline.Xml

/-- What is in an element, with the characters of its text one by one. How they are spread over text nodes is not
told, and neither are instructions. -/
inductive Part
  | char (c : Char)
  | comment (s : String)
  | element (name : Name) (attributes : List Attribute) (content : List Part)

mutual

def Node.parts : Node → List Part
  | .element name attributes children => [.element name attributes (partsOf children)]
  | .text s => s.toList.map .char
  | .comment s => [.comment s]
  | .instruction _ _ => []

/-- The parts of nodes in a row. Two rows have the same parts if they are the same once instructions are gone and
texts next to each other are one, an empty text being no part of any. -/
def partsOf : List Node → List Part
  | [] => []
  | n :: r => n.parts ++ partsOf r

end

def Name.Plain (n : Name) : Prop :=
  n.qualifier = none ∧ n.namespaceUri = none

def Node.Plain : Node → Prop
  | .element name attributes _ => name.Plain ∧ ∀ a ∈ attributes, a.name.Plain
  | _ => True

instance (n : Name) : Decidable n.Plain :=
  inferInstanceAs (Decidable (_ ∧ _))

instance : DecidablePred Node.Plain
  | .element name attributes _ => inferInstanceAs (Decidable (name.Plain ∧ ∀ a ∈ attributes, a.name.Plain))
  | .text _ | .comment _ | .instruction _ _ => .isTrue trivial

def attributesText (l : List Attribute) : List Char :=
  l.flatMap fun a => ' ' :: (a.name.localPart.toList ++ '=' :: '"' :: (a.value.toList.flatMap escapeChar ++ ['"']))

def IsTag (name : Name) (attributes : List Attribute) : Prop :=
  (Node.element name attributes []).Sound ∧ (Node.element name attributes []).Plain

lemma isTag_of_sound {name : Name} {attributes : List Attribute} {children : List Node}
    (sound : (Node.element name attributes children).Sound) (plain : (Node.element name attributes children).Plain) :
    IsTag name attributes := by
  obtain ⟨named, attributed, ordered, distinct⟩ := sound
  exact ⟨.element named attributed ordered distinct, plain⟩

lemma IsTag.named {name : Name} {attributes : List Attribute} (h : IsTag name attributes) :
    IsName name.localPart.toList := by
  obtain ⟨⟨named⟩, -⟩ := h
  exact named

def escaped : List Char :=
  ['&', '<', '>', '"']

lemma escapeChar_of_not_mem {d : Char} (h : d ∉ escaped) : escapeChar d = [d] := by
  simp only [escaped, List.mem_cons, List.not_mem_nil, or_false, not_or] at h
  obtain ⟨amp, lt, gt, quot⟩ := h
  unfold escapeChar
  split <;> first | contradiction | rfl

/-- The characters that are markup for parts. Characters that are not escaped are taken together, as far as they go. -/
inductive Written : List Part → List Char → Prop
  | nil : Written [] []
  | reference {d : Char} {ps : List Part} {s : List Char} (special : d ∈ escaped) (rest : Written ps s) :
      Written (.char d :: ps) (escapeChar d ++ s)
  | run {t : List Char} {ps : List Part} {s : List Char} (filled : t ≠ []) (plain : ∀ d ∈ t, d ∉ escaped)
      (stop : ∀ d ∈ s.head?, d = '<' ∨ d = '&') (rest : Written ps s) :
      Written (t.map .char ++ ps) (t ++ s)
  | comment {k : String} {ps : List Part} {s : List Char} (closed : IsComment k.toList) (rest : Written ps s) :
      Written (.comment k :: ps) ("<!--".toList ++ (k.toList ++ ("-->".toList ++ s)))
  | empty {name : Name} {attributes : List Attribute} {ps : List Part} {s : List Char} (tag : IsTag name attributes)
      (rest : Written ps s) :
      Written (.element name attributes [] :: ps)
        ('<' :: (name.localPart.toList ++ (attributesText attributes ++ ("/>".toList ++ s))))
  | element {name : Name} {attributes : List Attribute} {content ps : List Part} {t s : List Char}
      (tag : IsTag name attributes) (inner : Written content t) (rest : Written ps s) :
      Written (.element name attributes content :: ps)
        ('<' :: (name.localPart.toList ++ (attributesText attributes ++ (">".toList ++
          (t ++ ("</".toList ++ (name.localPart.toList ++ (">".toList ++ s))))))))

variable {ps : List Part} {s : List Char}

lemma head?_escapeChar {d : Char} (h : d ∈ escaped) (s : List Char) : (escapeChar d ++ s).head? = some '&' := by
  simp only [escaped, List.mem_cons, List.not_mem_nil, or_false] at h
  obtain rfl | rfl | rfl | rfl := h <;> rfl

lemma Written.char (c : Char) (h : Written ps s) : Written (.char c :: ps) (escapeChar c ++ s) := by
  by_cases special : c ∈ escaped
  · exact .reference special h
  have alone : ∀ d ∈ [c], d ∉ escaped := by simpa using special
  rw [escapeChar_of_not_mem special]
  cases h with
  | nil => exact .run (t := [c]) (by simp) alone (by simp) .nil
  | run filled plain stop rest =>
    exact .run (t := c :: _) (by simp) (List.forall_mem_cons.2 ⟨special, plain⟩) stop rest
  | reference h rest => exact .run (t := [c]) (by simp) alone (by simp [head?_escapeChar h]) (.reference h rest)
  | comment closed rest =>
    exact .run (t := [c]) (by simp) alone (fun d hd => .inl (Option.some.inj hd).symm) (.comment closed rest)
  | empty tag rest => exact .run (t := [c]) (by simp) alone (by simp) (.empty tag rest)
  | element tag inner rest => exact .run (t := [c]) (by simp) alone (by simp) (.element tag inner rest)

lemma Written.text (t : List Char) (h : Written ps s) : Written (t.map .char ++ ps) (t.flatMap escapeChar ++ s) := by
  induction t with
  | nil => exact h
  | cons c t ih =>
    rw [List.flatMap_cons, List.append_assoc]
    exact .char c ih

lemma flatMap_render (l : List Attribute) : (l.map Attribute.render).flatMap String.toList = attributesText l := by
  rw [List.flatMap_map]
  refine List.flatMap_congr fun a _ => ?_
  have eq : a.render = " " ++ a.name.localPart ++ "=\"" ++ escape a.value ++ "\"" := rfl
  simp [eq, escape]

lemma toList_render (name : Name) (attributes : List Attribute) (children : List Node) :
    (Node.element name attributes children).render.toList = '<' :: (name.localPart.toList ++ (attributesText attributes ++
      if children = [] then "/>".toList
      else ">".toList ++ ((renderList children).toList ++ ("</".toList ++ (name.localPart.toList ++ ">".toList))))) := by
  cases children with
  | nil => simp [Node.render, flatMap_render]
  | cons n l =>
    have eq : (Node.element name attributes (n :: l)).render = "<" ++ name.localPart ++
      String.join (attributes.map Attribute.render) ++ ">" ++ renderList (n :: l) ++ ("</" ++ name.localPart ++ ">") := by
      rw [Node.render]
      · rfl
      · simp
    simp [eq, flatMap_render]

mutual

lemma written_node : ∀ (n : Node) {ps : List Part} {s : List Char}, (∀ m ∈ n.nodes, m.Sound ∧ m.Plain) → Written ps s →
    Written (n.parts ++ ps) (n.render.toList ++ s)
  | .element name attributes [], _, _, h, rest => by
    simpa [toList_render, Node.parts, partsOf] using Written.empty (h _ List.mem_cons_self) rest
  | .element name attributes (n :: r), _, _, h, rest => by
    rw [Node.nodes, List.forall_mem_cons] at h
    have inner := written_nodes (n :: r) h.2 .nil
    rw [List.append_nil, List.append_nil] at inner
    have tag := isTag_of_sound h.1.1 h.1.2
    simpa [toList_render, Node.parts] using Written.element tag inner rest
  | .text t, _, _, _, rest => by
    simpa [Node.render, Node.parts, escape] using rest.text t.toList
  | .comment k, _, _, h, rest => by
    have eq : (Node.comment k).render = "<!--" ++ k ++ "-->" := by
      rw [Node.render]
      rfl
    cases (h _ List.mem_cons_self).1 with
    | comment closed => simpa [eq, Node.parts] using Written.comment closed rest
  | .instruction _ _, _, _, _, rest => by
    simpa [Node.render, Node.parts] using rest

lemma written_nodes : ∀ (l : List Node) {ps : List Part} {s : List Char}, (∀ m ∈ nodesOf l, m.Sound ∧ m.Plain) →
    Written ps s → Written (partsOf l ++ ps) ((renderList l).toList ++ s)
  | [], _, _, _, rest => by simpa [renderList, partsOf] using rest
  | n :: r, _, _, h, rest => by
    rw [nodesOf, List.forall_mem_append] at h
    simpa [renderList, partsOf] using written_node n h.1 (written_nodes r h.2 rest)

end

end ItemPipeline.Xml
