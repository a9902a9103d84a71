import ItemPipeline.Proofs.Config
import ItemPipeline.Proofs.Execution
import Mathlib.Data.List.Pairwise

/-!
What a pipeline means. An item that no item feeds receives the values fed to it, any other one those
that the item which feeds it passes on; each turns what it receives into flushes by its rules alone,
value after value.
-/

namespace ItemPipeline

structure Input where
  value : Value
  time : Timestamp
  options : ValueOptions := {}

def Input.timed (u : Input) : Value × Timestamp :=
  (u.value, u.time)

namespace ItemConfig

variable (x : ItemConfig)

def flushed (u : Input) (v : Value) : FlushedValue where
  item := x.id
  host := x.host
  valueType := x.valueType
  discovery := x.discovery
  value := v
  time := u.time
  options := u.options

def flushes (l : List Input) : List FlushedValue :=
  List.zipWith x.flushed l (x.rules.results .empty (l.map Input.timed))

lemma flushes_append (l l' : List Input) : ∃ r, x.flushes (l ++ l') = x.flushes l ++ r := by
  simp only [flushes, List.map_append, RuleSet.results_append]
  rw [List.zipWith_append (by rw [RuleSet.length_results, List.length_map])]
  exact ⟨_, rfl⟩

lemma flushes_prefix {l l' : List Input} (h : l <+: l') : x.flushes l <+: x.flushes l' := by
  obtain ⟨r, rfl⟩ := h
  obtain ⟨s, hs⟩ := x.flushes_append l r
  exact ⟨s, hs.symm⟩

end ItemConfig

def passedOn (l : List FlushedValue) : List Input :=
  l.filterMap fun f => if f.value.isNone || f.value.isError then none else some ⟨f.value, f.time, {}⟩

namespace Config

/-- What an item receives if these values are fed. -/
inductive Receives (c : Config) (fed : UInt64 → List Input) : UInt64 → List Input → Prop
  | source {i : UInt64} (free : ∀ p ∈ c.items, i ∉ p.dependents) : Receives c fed i (fed i)
  | dependent {p : ItemConfig} {i : UInt64} {l : List Input} (mem : p ∈ c.items)
      (listed : i ∈ p.dependents) (received : Receives c fed p.id l) :
      Receives c fed i (passedOn (p.flushes l))

variable {c : Config} {fed : UInt64 → List Input} {i : UInt64}

def Single (c : Config) : Prop :=
  (c.items.flatMap (·.dependents)).Nodup

lemma mem_dependents {d : UInt64} (h : d ∈ c.dependents i) :
    ∃ p ∈ c.items, p.id = i ∧ d ∈ p.dependents := by
  unfold dependents at h
  cases hp : c.item? i with
  | none => simp [hp] at h
  | some p =>
    have id : p.id = i := by simpa using List.find?_some hp
    exact ⟨p, List.mem_of_find?_eq_some hp, id, by simpa [hp] using h⟩

lemma Single.unique (h : c.Single) {p p' : ItemConfig} (hp : p ∈ c.items) (hp' : p' ∈ c.items)
    (hi : i ∈ p.dependents) (hi' : i ∈ p'.dependents) : p = p' := by
  by_contra hne
  have : Std.Symm (Function.onFun List.Disjoint ItemConfig.dependents) := ⟨fun _ _ h => h.symm⟩
  exact (List.nodup_flatMap.1 h).2.forall hp hp' hne hi hi'

lemma Single.nodup (h : c.Single) {p : ItemConfig} (hp : p ∈ c.items) : p.dependents.Nodup :=
  (List.nodup_flatMap.1 h).1 p hp

lemma Receives.unique (h : c.Single) {l l' : List Input} (hl : Receives c fed i l)
    (hl' : Receives c fed i l') : l = l' := by
  induction hl generalizing l' with
  | source free =>
    cases hl' with
    | source _ => rfl
    | dependent mem listed _ => exact absurd listed (free _ mem)
  | dependent mem listed _ ih =>
    cases hl' with
    | source free => exact absurd listed (free _ mem)
    | dependent mem' listed' received' =>
      obtain rfl := h.unique mem mem' listed listed'
      rw [ih received']

namespace Checked

lemma eq_of_id (h : c.Checked) {x y : ItemConfig} (hx : x ∈ c.items) (hy : y ∈ c.items)
    (hi : x.id = y.id) : x = y :=
  List.inj_on_of_nodup_map h.ids hx hy hi

lemma dependents_eq (h : c.Checked) {x : ItemConfig} (hx : x ∈ c.items) :
    c.dependents x.id = x.dependents := by
  cases hf : c.item? x.id with
  | none => simpa using List.find?_eq_none.1 hf x hx
  | some y =>
    obtain rfl := h.eq_of_id (List.mem_of_find?_eq_some hf) hx (by simpa using List.find?_some hf)
    simp [dependents, hf]

lemma exists_receives (h : c.Checked) (fed : UInt64 → List Input) (i : UInt64) :
    ∃ l, Receives c fed i l := by
  induction i using h.wellFounded_feeds.induction with
  | _ i ih =>
    by_cases hp : ∃ p ∈ c.items, i ∈ p.dependents
    · obtain ⟨p, mem, listed⟩ := hp
      obtain ⟨l, hl⟩ := ih p.id (by rwa [Feeds, h.dependents_eq mem])
      exact ⟨_, .dependent mem listed hl⟩
    · exact ⟨_, .source fun p mem listed => hp ⟨p, mem, listed⟩⟩

end Checked

end Config

end ItemPipeline
