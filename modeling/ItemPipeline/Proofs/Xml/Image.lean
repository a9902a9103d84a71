import ItemPipeline.Proofs.Members
import ItemPipeline.Proofs.Success
import ItemPipeline.Proofs.Xml.Reading
import Mathlib.Data.List.Dedup

/-!
The image of a document as JSON, told from the whole of each element: its attributes, its children grouped by name,
and its text. It is the one that is built child by child.
-/

namespace ItemPipeline.Xml

open Json (Members)
open Json.Members

def collected : List Json → Json
  | [v] => v
  | l => .array l

def imagesFor (name : String) (l : List (String × Json)) : List Json :=
  (l.filter fun e => e.1 = name).map Prod.snd

def attributeImages (attributes : List Attribute) : List (String × Json) :=
  attributes.map fun a => ("@" ++ a.name.localPart, .str a.value)

def childImages (inner : List (String × Json)) : List (String × Json) :=
  (inner.map Prod.fst).dedup.map fun name => (name, collected (imagesFor name inner))

def textImages (text : String) : List (String × Json) :=
  if text = "" then [] else [("#text", .str text)]

mutual

/-- An element as JSON, told from what is in it: its text if that is all, and otherwise an object. -/
def Node.image : Node → Json
  | .element _ attributes children =>
    if attributes = [] ∧ imagesOf children = [] then .str (ownText children)
    else .object (sorted (attributeImages attributes ++ childImages (imagesOf children) ++ textImages (ownText children)))
  | _ => .null

def imagesOf : List Node → List (String × Json)
  | [] => []
  | .element name attributes children :: r =>
    (name.localPart, Node.image (.element name attributes children)) :: imagesOf r
  | _ :: r => imagesOf r

end

def Node.attributes : Node → List Attribute
  | .element _ attributes _ => attributes
  | _ => []

def Node.Apart (n : Node) : Prop :=
  (n.attributes.map (·.name.localPart)).Nodup

instance (n : Node) : Decidable n.Apart :=
  inferInstanceAs (Decidable (List.Nodup _))

variable {name key text : String} {attributes : List Attribute} {inner : List (String × Json)} {m : Members} {v : Json}

lemma imagesFor_append {l l' : List (String × Json)} :
    imagesFor name (l ++ l') = imagesFor name l ++ imagesFor name l' := by
  simp [imagesFor]

lemma imagesFor_eq_nil : imagesFor name inner = [] ↔ name ∉ inner.map Prod.fst := by
  simp only [imagesFor, List.map_eq_nil_iff, List.filter_eq_nil_iff, decide_eq_true_eq, List.mem_map]
  exact ⟨fun h ⟨e, he, eq⟩ => h e he eq, fun h e he eq => h ⟨e, he, eq⟩⟩

lemma mem_childImages : (key, v) ∈ childImages inner ↔ key ∈ inner.map Prod.fst ∧ collected (imagesFor key inner) = v := by
  simp only [childImages, List.mem_map, List.mem_dedup, Prod.mk.injEq]
  constructor
  · rintro ⟨_, mem, rfl, rfl⟩
    exact ⟨mem, rfl⟩
  · rintro ⟨mem, rfl⟩
    exact ⟨_, mem, rfl, rfl⟩

lemma not_array_of_mem_imagesOf {l : List Node} {e : String × Json} (h : e ∈ imagesOf l) (items : List Json) :
    e.2 ≠ .array items := by
  induction l with
  | nil => simp [imagesOf] at h
  | cons n l ih =>
    cases n with
    | element name attributes children =>
      obtain rfl | h := List.mem_cons.1 h
      · simp only [Node.image]
        split <;> simp
      · exact ih h
    | _ => exact ih h

def joined (v : Json) : Option Json → Json
  | some (.array l) => .array (l ++ [v])
  | some w => .array [w, v]
  | none => v

lemma addMember_eq : addMember m name v = insert name (joined v (m.get? name)) m := by
  unfold addMember
  cases m.get? name with
  | none => rfl
  | some w => cases w <;> rfl

lemma joined_collected {l : List Json} (filled : l ≠ []) (flat : ∀ w ∈ l, ∀ items, w ≠ .array items) :
    joined v (some (collected l)) = collected (l ++ [v]) := by
  match l with
  | [w] =>
    have plain := flat w List.mem_cons_self
    cases w with
    | array items => exact (plain items rfl).elim
    | _ => rfl
  | _ :: _ :: _ => rfl

lemma ascending_foldl_addMember (h : Ascending m) :
    Ascending (inner.foldl (fun m e => addMember m e.1 e.2) m) := by
  induction inner generalizing m with
  | nil => exact h
  | cons e l ih =>
    refine ih ?_
    simp only [addMember_eq]
    exact h.insert _ _

lemma get?_foldl_addMember (new : ∀ e ∈ inner, m.get? e.1 = none) (flat : ∀ e ∈ inner, ∀ l, e.2 ≠ .array l) :
    (inner.foldl (fun m e => addMember m e.1 e.2) m).get? key =
      if key ∈ inner.map Prod.fst then some (collected (imagesFor key inner)) else m.get? key := by
  induction inner using List.reverseRecOn with
  | nil => simp
  | append_singleton l e ih =>
    obtain ⟨name, v⟩ := e
    simp only [List.mem_append, List.mem_singleton, or_imp, forall_and, forall_eq] at new flat
    rw [List.foldl_append, List.foldl_cons, List.foldl_nil, addMember_eq, get?_insert, imagesFor_append]
    dsimp only
    by_cases here : name = key
    · subst here
      have last : imagesFor name [(name, v)] = [v] := by simp [imagesFor]
      rw [if_pos rfl, if_pos (by simp), last, ih new.1 flat.1]
      by_cases before : name ∈ l.map Prod.fst
      · rw [if_pos before, joined_collected (mt imagesFor_eq_nil.1 (not_not.2 before))]
        intro w hw
        obtain ⟨e, he, rfl⟩ := List.mem_map.1 hw
        exact flat.1 e (List.mem_of_mem_filter he)
      · rw [if_neg before, new.2, imagesFor_eq_nil.2 before]
        rfl
    · have last : imagesFor key [(name, v)] = [] := by simp [imagesFor, here]
      rw [if_neg here, last, List.append_nil, ih new.1 flat.1]
      simp only [List.map_append, List.map_cons, List.map_nil, List.mem_append, List.mem_singleton, Ne.symm here, or_false]

lemma ne_of_isName (h : IsName name.toList) : (∀ s, name ≠ "@" ++ s) ∧ name ≠ "#text" := by
  obtain ⟨c, r, eq, start, -⟩ := h
  constructor
  · rintro s rfl
    exact ne_of_isNameStart (d := '@') (by decide) start (List.cons.inj (String.toList_append.symm.trans eq)).1
  · rintro rfl
    exact ne_of_isNameStart (d := '#') (by decide) start (List.cons.inj eq).1

lemma nodup_attributeImages (apart : (attributes.map (·.name.localPart)).Nodup) :
    ((attributeImages attributes).map Prod.fst).Nodup := by
  rw [attributeImages, List.map_map]
  refine List.pairwise_map.2 ((List.pairwise_map.1 apart).imp fun ne eq => ne ?_)
  exact String.append_right_inj _ |>.1 eq

lemma map_fst_childImages : (childImages inner).map Prod.fst = (inner.map Prod.fst).dedup := by
  simp [childImages, Function.comp_def]

lemma attributeMembers_eq (apart : (attributes.map (·.name.localPart)).Nodup) :
    attributeMembers attributes = sorted (attributeImages attributes) := by
  rw [← ofList_eq_sorted (nodup_attributeImages apart), ofList, attributeImages, List.foldl_map]
  rfl

lemma nodup_attributes_children (apart : (attributes.map (·.name.localPart)).Nodup)
    (named : ∀ e ∈ inner, IsName e.1.toList) :
    ((attributeImages attributes ++ childImages inner).map Prod.fst).Nodup := by
  rw [List.map_append, map_fst_childImages]
  refine (nodup_attributeImages apart).append (List.nodup_dedup _) fun key hkey hkey' => ?_
  obtain ⟨e, he, rfl⟩ := List.mem_map.1 (List.mem_dedup.1 hkey')
  obtain ⟨_, ha, eq⟩ := List.mem_map.1 hkey
  obtain ⟨a, _, rfl⟩ := List.mem_map.1 ha
  exact (ne_of_isName (named e he)).1 _ eq.symm

lemma foldl_addMember_eq (apart : (attributes.map (·.name.localPart)).Nodup) (named : ∀ e ∈ inner, IsName e.1.toList)
    (flat : ∀ e ∈ inner, ∀ l, e.2 ≠ .array l) :
    inner.foldl (fun m e => addMember m e.1 e.2) (attributeMembers attributes) =
      sorted (attributeImages attributes ++ childImages inner) := by
  have distinct := nodup_attributes_children apart named
  have distinct' := nodup_attributeImages apart
  rw [attributeMembers_eq apart]
  have not_attribute (e) (he : e ∈ inner) (v : Json) : (e.1, v) ∉ attributeImages attributes := by
    intro mem
    obtain ⟨a, _, eq⟩ := List.mem_map.1 mem
    exact (ne_of_isName (named e he)).1 _ (congrArg Prod.fst eq).symm
  have new : ∀ e ∈ inner, (sorted (attributeImages attributes)).get? e.1 = none := by
    refine fun e he => Option.eq_none_iff_forall_ne_some.2 fun v found => not_attribute e he v ?_
    exact (get?_sorted distinct').1 found
  refine (ascending_foldl_addMember (ascending_sorted distinct')).ext (ascending_sorted distinct) fun key =>
    Option.ext fun v => ?_
  rw [get?_foldl_addMember new flat, get?_sorted distinct, List.mem_append, mem_childImages]
  by_cases child : key ∈ inner.map Prod.fst
  · obtain ⟨e, he, rfl⟩ := List.mem_map.1 child
    rw [if_pos child, Option.some_inj]
    simp [not_attribute e he, child]
  · rw [if_neg child, get?_sorted distinct']
    simp [child]

lemma elementJson_eq (apart : (attributes.map (·.name.localPart)).Nodup) (named : ∀ e ∈ inner, IsName e.1.toList) :
    elementJson (sorted (attributeImages attributes ++ childImages inner)) text =
      if attributes = [] ∧ inner = [] then .str text
      else .object (sorted (attributeImages attributes ++ childImages inner ++ textImages text)) := by
  have bare : (sorted (attributeImages attributes ++ childImages inner)).isEmpty ↔ attributes = [] ∧ inner = [] := by
    rw [List.isEmpty_iff, ← List.length_eq_zero_iff, sorted, List.length_mergeSort]
    simp [attributeImages, childImages]
  rw [elementJson]
  refine if_ctx_congr bare (fun _ => rfl) fun _ => ?_
  by_cases blank : text = ""
  · rw [if_pos blank, textImages, if_pos blank, List.append_nil]
  · rw [if_neg blank, textImages, if_neg blank, insert_sorted]
    rw [List.map_append]
    refine (nodup_attributes_children apart named).append (List.nodup_singleton _) fun key hkey hkey' => ?_
    obtain rfl : key = "#text" := by simpa using hkey'
    rw [List.map_append, map_fst_childImages, List.mem_append, List.mem_dedup] at hkey
    obtain given | child := hkey
    · obtain ⟨_, ha, eq⟩ := List.mem_map.1 given
      obtain ⟨a, _, rfl⟩ := List.mem_map.1 ha
      have first := congrArg (fun s => s.toList.head?) eq
      simp at first
    · obtain ⟨e, he, eq⟩ := List.mem_map.1 child
      exact (ne_of_isName (named e he)).2 eq

lemma isName_of_mem_imagesOf {l : List Node} (sound : ∀ n ∈ nodesOf l, n.Sound) : ∀ e ∈ imagesOf l, IsName e.1.toList := by
  induction l with
  | nil => simp [imagesOf]
  | cons n l ih =>
    rw [nodesOf, List.forall_mem_append] at sound
    cases n with
    | element name attributes children =>
      rw [Node.nodes, List.forall_mem_cons] at sound
      obtain ⟨named⟩ := sound.1.1
      exact List.forall_mem_cons.2 ⟨named, ih sound.2⟩
    | _ => exact ih sound.2

mutual

lemma toJson_eq_image : ∀ n : Node, (∀ m ∈ n.nodes, m.Sound ∧ m.Apart) → n.toJson = n.image
  | .element name attributes children, h => by
    rw [Node.nodes, List.forall_mem_cons] at h
    have named := isName_of_mem_imagesOf fun n hn => (h.2 n hn).1
    have apart : (attributes.map (·.name.localPart)).Nodup := h.1.2
    rw [Node.toJson, Node.image, addChildren_eq children _ h.2,
      foldl_addMember_eq apart named fun e he => not_array_of_mem_imagesOf he, elementJson_eq apart named]
  | .text _, _ => rfl
  | .comment _, _ => rfl
  | .instruction _ _, _ => rfl

lemma addChildren_eq : ∀ (l : List Node) (m : Members), (∀ n ∈ nodesOf l, n.Sound ∧ n.Apart) →
    addChildren m l = (imagesOf l).foldl (fun m e => addMember m e.1 e.2) m
  | [], _, _ => rfl
  | .element name attributes children :: r, m, h => by
    rw [nodesOf, List.forall_mem_append] at h
    rw [addChildren, imagesOf, List.foldl_cons, toJson_eq_image _ h.1]
    exact addChildren_eq r _ h.2
  | .text _ :: r, m, h => addChildren_eq r m (List.forall_mem_append.1 h).2
  | .comment _ :: r, m, h => addChildren_eq r m (List.forall_mem_append.1 h).2
  | .instruction _ _ :: r, m, h => addChildren_eq r m (List.forall_mem_append.1 h).2

end

lemma imagesOf_filter : ∀ l : List Node, imagesOf (l.filter Node.isElement) = imagesOf l
  | [] => rfl
  | .element name attributes children :: r =>
    congrArg (List.cons (name.localPart, Node.image (.element name attributes children))) (imagesOf_filter r)
  | .text _ :: r | .comment _ :: r | .instruction _ _ :: r => imagesOf_filter r

/-- No attribute, child or text is lost on the way to JSON, and nothing else is there: a document becomes an object
of one member, which is the image of its element. -/
theorem image_of_document {text : String} {d : Document} (h : parse text = .ok d)
    (apart : ∀ n ∈ nodesOf d.children, n.Apart) :
    ∃ name attributes children, d.children.filter Node.isElement = [.element name attributes children] ∧
      d.toJson = .object [(name.localPart, (Node.element name attributes children).image)] := by
  obtain ⟨sound, e, only⟩ := of_parse h
  have element : e.isElement = true := List.of_mem_filter (p := Node.isElement) (only ▸ List.mem_cons_self)
  cases e with
  | element name attributes children =>
    refine ⟨name, attributes, children, only, ?_⟩
    rw [Document.toJson, addChildren_eq _ _ fun n hn => ⟨sound n hn, apart n hn⟩, ← imagesOf_filter, only]
    rfl
  | _ => cases element

theorem image_of_document_of_mixed :
    ∃ d, parse "<r a='1'><x>1</x> &lt;<y><x/><x k=\"\">u</x></y><x><x>2</x></x>]]</r>" = .ok d ∧
      (∀ n ∈ nodesOf d.children, n.Apart) ∧
      d.toJson.render = "\x7b\"r\":\x7b\"#text\":\"<]]\",\"@a\":\"1\",\"x\":[\"1\",\x7b\"x\":\"2\"\x7d]," ++
        "\"y\":\x7b\"x\":[\"\",\x7b\"#text\":\"u\",\"@k\":\"\"\x7d]\x7d\x7d\x7d" ∧
      ∃ name attributes children, d.children.filter Node.isElement = [.element name attributes children] ∧
        d.toJson = .object [(name.localPart, (Node.element name attributes children).image)] := by
  obtain ⟨d, parsed, h⟩ := any_toOption_iff.1 (show (parse
    "<r a='1'><x>1</x> &lt;<y><x/><x k=\"\">u</x></y><x><x>2</x></x>]]</r>").toOption.any (fun d =>
      (nodesOf d.children).all (fun n => decide n.Apart) && d.toJson.render ==
        "\x7b\"r\":\x7b\"#text\":\"<]]\",\"@a\":\"1\",\"x\":[\"1\",\x7b\"x\":\"2\"\x7d]," ++
        "\"y\":\x7b\"x\":[\"\",\x7b\"#text\":\"u\",\"@k\":\"\"\x7d]\x7d\x7d\x7d") = true by decide +kernel)
  rw [Bool.and_eq_true, List.all_eq_true, beq_iff_eq] at h
  have apart : ∀ n ∈ nodesOf d.children, n.Apart := fun n hn => of_decide_eq_true (h.1 n hn)
  exact ⟨d, parsed, apart, h.2, image_of_document parsed apart⟩

end ItemPipeline.Xml
