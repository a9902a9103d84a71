import ItemPipeline.Proofs.Success
import ItemPipeline.Proofs.Toml.Sections
import ItemPipeline.Toml.Schema

/-!
What decoders make of the values that settings are read as, and of all settings of a table.
-/

namespace ItemPipeline.Toml

variable {σ α : Type} {v : Toml} {n : UInt64} {s : String}

lemma toUInt64_of_isWord (wanted : String) (word : IsWord n v) : toUInt64 wanted v = .ok n := by
  obtain ⟨span, rfl⟩ := word
  have natural : ¬(n.toNat : Int) < 0 := by omega
  rw [toUInt64, if_neg natural, Int.toNat_natCast]
  exact congrArg Except.ok (UInt64.ofNat_toNat)

lemma toList_of_forall₂ {item : Decoder α} {R : α → Toml → Prop} {l : List α} {vs : List Toml}
    (each : ∀ a ∈ l, ∀ v, R a v → item v = .ok a) (items : v.items? = some vs) (all : List.Forall₂ R l vs) :
    toList item v = .ok l := by
  rw [toList, items]
  refine mapM_eq_ok_iff.2 ?_
  clear items
  induction all with
  | nil => exact .nil
  | cons head _ ih =>
    rw [List.forall_mem_cons] at each
    exact .cons (mapError_eq_ok_iff.2 (each.1 _ head)) (ih each.2)

lemma toCase_text (choices : List String) {ofName? : String → Option α} {a : α} (known : ofName? s = some a)
    (is : (Setting.text s).Is v) : toCase choices ofName? v = .ok a := by
  obtain ⟨span, rfl⟩ := is
  rw [toCase, known]

lemma toText_text (wanted : String) (is : (Setting.text s).Is v) : toText wanted v = .ok s := by
  obtain ⟨span, rfl⟩ := is
  rfl

lemma toBool_flag {b : Bool} (is : (Setting.flag b).Is v) : toBool v = .ok b := by
  obtain ⟨span, rfl⟩ := is
  rfl

lemma toList_words {l : List UInt64} (wanted : String) (is : (Setting.words l).Is v) :
    toList (toUInt64 wanted) v = .ok l := by
  obtain ⟨span, ws, rfl, words⟩ := is
  exact toList_of_forall₂ (fun n _ v word => toUInt64_of_isWord wanted word) rfl words

section Fields

variable {fields : List (Field σ)}

def Puts (fields : List (Field σ)) (e : String × Setting) (put : σ → σ) : Prop :=
  ∃ f, fields.find? (fun f => f.name == e.1) = some f ∧ ∀ v, e.2.Is v → ∀ r, f.set v r = .ok (put r)

lemma puts_of {e : String × Setting} {name : String} {decode : Decoder α} {put : α → σ → σ} {a : α} {put' : σ → σ}
    (found : fields.find? (fun f => f.name == e.1) = some (.of name decode put))
    (decodes : ∀ v, e.2.Is v → decode v = .ok a) (same : put a = put') : Puts fields e put' := by
  subst same
  refine ⟨_, found, fun v is r => ?_⟩
  simp only [Field.of, decodes v is]
  rfl

lemma fill_append (what : String) (span : Option Span) (kind : TableKind) (m m' : Members) (r : σ) :
    fill what fields (.table span kind (m ++ m')) r =
      fill what fields (.table span kind m) r >>= fill what fields (.table span kind m') :=
  List.foldlM_append

lemma fill_single {f : Field σ} {k : Key} {r r' : σ} (found : fields.find? (fun f => f.name == k.name) = some f)
    (set : f.set v r = .ok r') (what : String) (span : Option Span) (kind : TableKind) :
    fill what fields (.table span kind [(k, v)]) r = .ok r' := by
  simp only [fill, List.foldlM_cons, List.foldlM_nil, found, set]
  rfl

lemma fill_shown {l : List (String × Setting)} {puts : List (σ → σ)} {m : Members}
    (all : List.Forall₂ (Puts fields) l puts) (shown : Shown l m) (what : String) (span : Option Span)
    (kind : TableKind) (r : σ) :
    fill what fields (.table span kind m) r = .ok (puts.foldl (fun r put => put r) r) := by
  induction all generalizing m r with
  | nil =>
    obtain rfl := List.forall₂_nil_left_iff.1 shown
    rfl
  | cons head _ ih =>
    obtain ⟨⟨k, v⟩, m, ⟨name, is⟩, rest, rfl⟩ := List.forall₂_cons_left_iff.1 shown
    obtain ⟨f, found, set⟩ := head
    rw [← List.singleton_append, fill_append, fill_single (name ▸ found) (set v is r)]
    exact ih rest _

end Fields

end ItemPipeline.Toml
