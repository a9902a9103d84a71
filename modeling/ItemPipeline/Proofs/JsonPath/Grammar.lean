import ItemPipeline.JsonPath.Extract
import ItemPipeline.Proofs.Reader
import ItemPipeline.Proofs.Success
import ItemPipeline.Proofs.Text
import Mathlib.Data.List.Basic
import Mathlib.Order.Nat

/-!
Where the selectors of a path stand (RFC 9535). What a name or a number is, and all that comes behind the sign
of a filter, a slice or a descendant, is left open here; what the reader accepts is such a path.
-/

namespace ItemPipeline.JsonPath

open Reader

inductive Quoted (q : Char) : List Char → List Char → Prop
  | close {t : List Char} : Quoted q (q :: t) t
  | char {c : Char} {s t : List Char} (other : c ≠ q) (plain : c ≠ '\\') (rest : Quoted q s t) : Quoted q (c :: s) t
  | escape {c : Char} {s t : List Char} (rest : Quoted q s t) : Quoted q ('\\' :: c :: s) t

inductive Selects : List Char → Selector → List Char → Prop
  | name {q : Char} {n : String} {s t : List Char} (quote : q = '\'' ∨ q = '"') (text : Quoted q s t) :
      Selects (q :: s) (.name n) t
  | index {w t : List Char} {i : Int} (number : ∀ c ∈ w, c = '-' ∨ Text.isDigit c = true) :
      Selects (w ++ t) (.index i) t
  | slice {w s t : List Char} {first last step : Option Int}
      (number : ∀ c ∈ w, c = '-' ∨ Text.isDigit c = true ∨ isSpace c = true) :
      Selects (w ++ ':' :: s) (.slice first last step) t
  | wildcard {t : List Char} : Selects ('*' :: t) .wildcard t
  | filter {s t : List Char} {f : Test} : Selects ('?' :: s) (.filter f) t

inductive Listed : List Char → List Selector → List Char → Prop
  | last {s u t : List Char} {a : Selector} (one : Selects (s.dropWhile isSpace) a u)
      (close : u.dropWhile isSpace = ']' :: t) : Listed s [a] t
  | more {s u v t : List Char} {a : Selector} {l : List Selector} (one : Selects (s.dropWhile isSpace) a u)
      (comma : u.dropWhile isSpace = ',' :: v) (rest : Listed v l t) : Listed s (a :: l) t

inductive Steps : List Char → Segment → List Char → Prop
  | bracket {s t : List Char} {l : List Selector} (inside : Listed s l t) : Steps ('[' :: s) (.child l) t
  | wildcard {t : List Char} : Steps ('.' :: '*' :: t) (.child [.wildcard]) t
  | name {c : Char} {n : String} {w t : List Char} (first : isNameFirst c = true)
      (more : ∀ d ∈ w, isNameChar d = true) : Steps ('.' :: c :: (w ++ t)) (.child [.name n]) t
  | descendant {s t : List Char} {l : List Selector} : Steps ('.' :: '.' :: s) (.descendant l) t

inductive Follows : List Char → List Segment → List Char → Prop
  | nil {t : List Char} : Follows t [] t
  | cons {s u t : List Char} {g : Segment} {l : List Segment} (one : Steps (s.dropWhile isSpace) g u)
      (rest : Follows u l t) : Follows s (g :: l) t

def IsPath (s : List Char) (q : Query) : Prop :=
  ∃ r l, s = '$' :: r ∧ Follows r l [] ∧ q = .root l

variable {c q : Char} {s t w : List Char} {fuel : Nat}

@[simp] lemma read_fail {α : Type} (f : Fault) (s : List Char) : (fail f : Reader α) s = .error (f, s) := rfl
@[simp] lemma read_fail_bind {α β : Type} (f : Fault) (g : α → Reader β) (s : List Char) :
    ((fail f : Reader α) >>= g) s = .error (f, s) := rfl
@[simp] lemma read_peek {α : Type} (f : Option Char → Reader α) (s : List Char) :
    (peek >>= f) s = f s.head? s := rfl

lemma ensures_eat (x : String) (s : List Char) :
    Ensures (eat x s) fun a t => if a then s = x.toList ++ t else t = s := by
  unfold eat
  simp only [read_get_bind]
  cases here : Text.dropPrefix? x.toList s with
  | some r => simpa using Text.dropPrefix?_eq_some_iff.1 here
  | none => simp

lemma ensures_ifEat {α : Type} {x : String} {f g : Reader α} {Q : α → List Char → Prop}
    (eaten : ∀ t, s = x.toList ++ t → Ensures (f t) Q) (other : Ensures (g s) Q) :
    Ensures ((do if ← eat x then f else g : Reader α) s) Q := by
  refine (ensures_eat x s).bind fun a t h => ?_
  cases a with
  | true => exact eaten t h
  | false =>
    obtain rfl : t = s := h
    exact other

lemma ensures_expect (x : String) (s : List Char) : Ensures (expect x s) fun _ t => s = x.toList ++ t := by
  unfold expect
  refine (ensures_eat x s).bind fun a t h => ?_
  cases a with
  | true => simpa using h
  | false => simp [fail]

lemma ensures_attempt {α : Type} {p : Reader α} {Q : α → List Char → Prop} (h : Ensures (p s) Q) :
    Ensures (attempt p s) fun a t => match a with
      | some a => Q a t
      | none => t = s := by
  unfold attempt
  simp only [read_get_bind]
  cases goes : p s with
  | ok r => simpa using h _ _ goes
  | error e => simp

lemma ensures_skipSpace (s : List Char) : Ensures (skipSpace s) fun _ t => t = s.dropWhile isSpace := by
  unfold skipSpace
  simp

lemma exists_takeWhile (p : Char → Bool) (s : List Char) :
    ∃ w, (∀ c ∈ w, p c = true) ∧ s = w ++ s.dropWhile p :=
  ⟨s.takeWhile p, fun c hc => List.all_eq_true.1 List.all_takeWhile c hc, List.takeWhile_append_dropWhile.symm⟩

lemma ensures_readName (s : List Char) : Ensures (readName s) fun _ t =>
    ∃ c w, isNameFirst c = true ∧ (∀ d ∈ w, isNameChar d = true) ∧ s = c :: (w ++ t) := by
  unfold readName
  simp only [read_peek]
  cases s with
  | nil => simp
  | cons c s =>
    simp only [List.head?_cons]
    refine ensures_ite (fun first => ?_) fun _ => by simp
    have char : isNameChar c = true := by simp [isNameChar, first]
    simp only [takeWhile, bind_assoc, read_get_bind, read_set_bind, pure_bind, read_pure, ensures_ok]
    obtain ⟨w, more, split⟩ := exists_takeWhile isNameChar s
    exact ⟨c, w, first, more, by rw [List.dropWhile_cons_of_pos char, ← split]⟩

section Quotes

lemma Quoted.within (h : Quoted q s t) (plain : ∀ c ∈ w, c ≠ q ∧ c ≠ '\\') : Quoted q (w ++ s) t := by
  induction w with
  | nil => exact h
  | cons c w ih =>
    rw [List.forall_mem_cons] at plain
    exact .char plain.1.1 plain.1.2 (ih plain.2)

lemma isSome_of_mapM {α β : Type} {f : α → Option β} {l : List α} {r : List β} (h : l.mapM f = some r) :
    ∀ a ∈ l, (f a).isSome = true := by
  induction l generalizing r with
  | nil => simp
  | cons a l ih =>
    rw [List.mapM_cons] at h
    obtain ⟨b, first, h⟩ := Option.bind_eq_some_iff.1 h
    obtain ⟨bs, rest, -⟩ := Option.bind_eq_some_iff.1 h
    exact List.forall_mem_cons.2 ⟨by simp [first], ih rest⟩

lemma ne_of_digit (h : q = '\'' ∨ q = '"') (digit : (Text.digit? 16 c).isSome = true) : c ≠ q ∧ c ≠ '\\' := by
  constructor
  · rintro rfl
    obtain rfl | rfl := h <;> exact absurd digit (by decide)
  · rintro rfl
    exact absurd digit (by decide)

variable (h : q = '\'' ∨ q = '"')
include h

lemma ensures_readHex (s : List Char) : Ensures (readHex s) fun _ t => ∀ u, Quoted q t u → Quoted q s u := by
  unfold readHex
  simp only [read_get_bind]
  generalize digits : (s.take 4).mapM (Text.digit? 16) = x
  split
  · simp only [read_set_bind, read_pure, ensures_ok]
    intro u rest
    rw [← List.take_append_drop 4 s]
    exact rest.within fun c hc => ne_of_digit h (isSome_of_mapM digits c hc)
  · simp

lemma ensures_readPlane (s : List Char) :
    Ensures (readPlane s) fun _ t => ∀ u, Quoted q t u → Quoted q s u := by
  unfold readPlane
  refine (ensures_readHex h s).bind fun n t goes => ?_
  exact ensures_ite (fun _ => ensures_ok.2 goes) fun _ => by simp

lemma ensures_readSurrogate (kinds : List Char) (s : List Char) :
    Ensures (readSurrogate kinds s) fun _ t => ∀ u, Quoted q t u → Quoted q s u := by
  unfold readSurrogate
  simp only [read_get_bind]
  generalize s.take 2 = marks
  split
  · exact ensures_ite (fun _ => ensures_readHex h s) fun _ => by simp
  · simp

lemma ensures_readUnicode (s : List Char) :
    Ensures (readUnicode s) fun _ t => ∀ u, Quoted q t u → Quoted q s u := by
  unfold readUnicode
  refine (ensures_attempt (ensures_readPlane h s)).bind fun a t plane => ?_
  cases a with
  | some c => exact ensures_ok.2 plane
  | none =>
    obtain rfl : t = s := plane
    refine (ensures_readSurrogate h _ t).bind fun high u first => ?_
    refine (ensures_expect "\\u" u).bind fun _ v mark => ?_
    obtain rfl : u = '\\' :: 'u' :: v := mark
    refine (ensures_readSurrogate h _ v).bind fun low w second => ensures_ok.2 fun x rest => ?_
    exact first x (.escape (second x rest))

lemma ensures_readEscape (s : List Char) :
    Ensures (readEscape q s) fun _ t => ∀ u, Quoted q t u → Quoted q s u := by
  unfold readEscape
  simp only [read_get_bind]
  split
  · simp only [read_set_bind]
    split
    case h_8 => exact (ensures_readUnicode h _).mono fun _ t goes u rest => .escape (goes u rest)
    case h_9 => exact ensures_ite (fun _ => ensures_ok.2 fun u rest => .escape rest) fun _ => by simp
    all_goals exact ensures_ok.2 fun u rest => .escape rest
  · simp

lemma ensures_readQuoted (acc : List Char) (fuel : Nat) (s : List Char) :
    Ensures (readQuoted q acc fuel s) fun _ t => Quoted q s t := by
  induction fuel generalizing acc s with
  | zero => simp [readQuoted]
  | succ fuel ih =>
    simp only [readQuoted, read_peek]
    cases s with
    | nil => simp
    | cons c s =>
      simp only [List.head?_cons]
      refine ensures_ite (fun close => ?_) fun other => ensures_ite (fun _ => ?_) fun plain => ?_
      · obtain rfl := close
        exact ensures_ok.2 .close
      · refine (ensures_attempt (ensures_readEscape h (c :: s))).bind fun a t skip => ?_
        cases a with
        | none => simp
        | some e => exact (ih _ t).mono fun _ u rest => skip u rest
      · refine ensures_ite (fun _ => by simp) fun _ => ?_
        simp only [read_modify_bind, List.tail_cons]
        exact (ih _ s).mono fun _ t rest => .char other plain rest

end Quotes

lemma ensures_readString (s : List Char) :
    Ensures (readString s) fun _ t => ∃ q r, (q = '\'' ∨ q = '"') ∧ s = q :: r ∧ Quoted q r t := by
  unfold readString
  simp only [read_get_bind]
  split
  · exact (ensures_readQuoted (.inl rfl) _ _ _).mono fun _ t text => ⟨_, _, .inl rfl, rfl, text⟩
  · exact (ensures_readQuoted (.inr rfl) _ _ _).mono fun _ t text => ⟨_, _, .inr rfl, rfl, text⟩
  · simp

lemma ensures_readDigits (s : List Char) :
    Ensures (readDigits s) fun _ t => ∃ w, (∀ c ∈ w, Text.isDigit c = true) ∧ s = w ++ t := by
  unfold readDigits
  simp only [read_peek]
  generalize head : s.head? = first
  split
  · obtain ⟨r, rfl⟩ := List.head?_eq_some_iff.1 head
    exact ensures_ok.2 ⟨['0'], List.forall_mem_singleton.2 rfl, rfl⟩
  · simp only [takeWhile, bind_assoc, read_get_bind, read_set_bind, pure_bind]
    exact ensures_ite (fun _ => by simp) fun _ => ensures_ok.2 (exists_takeWhile _ s)

lemma ensures_readInt (s : List Char) :
    Ensures (readInt s) fun _ t => ∃ w, (∀ c ∈ w, c = '-' ∨ Text.isDigit c = true) ∧ s = w ++ t := by
  unfold readInt
  refine (ensures_eat "-" s).bind fun negative t sign => ?_
  refine (ensures_readDigits t).bind fun ds u ⟨w, digits, split⟩ => ?_
  refine ensures_ite (fun _ => by simp) fun _ => ensures_ok.2 ?_
  have number : ∀ c ∈ w, c = '-' ∨ Text.isDigit c = true := fun c hc => .inr (digits c hc)
  cases negative with
  | true => exact ⟨'-' :: w, by simpa using number, by rw [sign, split]; rfl⟩
  | false => exact ⟨w, number, by rw [← split]; exact sign.symm⟩

lemma ensures_readIndex (s : List Char) : Ensures (readIndex s) fun a t => Selects s a t := by
  unfold readIndex
  refine (ensures_attempt (ensures_readInt s)).bind fun first t taken => ?_
  obtain ⟨w, number, rfl⟩ : ∃ w, (∀ c ∈ w, c = '-' ∨ Text.isDigit c = true) ∧ s = w ++ t := by
    cases first with
    | some i => exact taken
    | none => exact ⟨[], by simp, taken.symm⟩
  simp only [read_get_bind]
  refine (ensures_skipSpace t).bind fun _ u space => ?_
  refine ensures_ifEat (fun v sign => ?_) ?_
  · obtain ⟨b, blanks, split⟩ := exists_takeWhile isSpace t
    have written : w ++ t = (w ++ b) ++ ':' :: v := by
      rw [split, ← space, List.append_assoc, sign]
      rfl
    have signs : ∀ c ∈ w ++ b, c = '-' ∨ Text.isDigit c = true ∨ isSpace c = true := by
      intro c hc
      rcases List.mem_append.1 hc with hc | hc
      · exact (number c hc).imp_right .inl
      · exact .inr (.inr (blanks c hc))
    suffices Ensures _ fun (a : Selector) _ => ∃ first last step, a = .slice first last step by
      refine this.mono ?_
      rintro _ x ⟨first, last, step, rfl⟩
      rw [written]
      exact .slice signs
    refine ensures_true.bind fun _ x _ => ensures_true.bind fun last y _ => ?_
    simp only [read_get_bind]
    refine ensures_true.bind fun _ z _ => ensures_ifEat (fun a _ => ?_) ?_
    · simp only [read_get_bind]
      refine ensures_true.bind fun _ b _ => ensures_true.bind fun step d _ => ?_
      cases step with
      | some i => exact ensures_ok.2 ⟨_, _, _, rfl⟩
      | none => exact ensures_ok.2 ⟨_, _, _, rfl⟩
    · exact ensures_ok.2 ⟨_, _, _, rfl⟩
  · simp only [read_set_bind]
    cases first with
    | none => simp
    | some i => exact ensures_ok.2 (.index number)

lemma ensures_readSelector (fuel : Nat) (s : List Char) :
    Ensures (readSelector fuel s) fun a t => Selects s a t := by
  cases fuel with
  | zero => simp [readSelector]
  | succ fuel =>
    simp only [readSelector, read_peek]
    have name : Ensures ((do pure (Selector.name (← readString)) : Reader Selector) s) fun a t => Selects s a t := by
      refine (ensures_readString s).bind fun n t ⟨q, r, quote, split, text⟩ => ensures_ok.2 ?_
      rw [split]
      exact .name quote text
    generalize s.head? = first
    split
    · exact name
    · exact name
    · refine (ensures_expect "*" s).bind fun _ t sign => ensures_ok.2 ?_
      rw [sign]
      exact .wildcard
    · refine (ensures_expect "?" s).bind fun _ t sign => ?_
      refine ensures_true.bind fun _ u _ => ensures_true.bind fun f v _ => ensures_ok.2 ?_
      rw [sign]
      exact .filter
    · exact ensures_readIndex s

lemma ensures_readSelectors (acc : List Selector) (fuel : Nat) (s : List Char) :
    Ensures (readSelectors acc fuel s) fun l t => ∃ more, l = acc.reverse ++ more ∧ Listed s more t := by
  induction fuel generalizing acc s with
  | zero => simp [readSelectors]
  | succ fuel ih =>
    simp only [readSelectors]
    refine (ensures_skipSpace s).bind fun _ t before => ?_
    refine (ensures_readSelector fuel t).bind fun a u one => ?_
    refine (ensures_skipSpace u).bind fun _ v after => ?_
    rw [before] at one
    refine ensures_ifEat (fun w comma => ?_) (ensures_ifEat (fun w close => ensures_ok.2 ?_) (by simp))
    · refine (ih (a :: acc) w).mono fun l x ⟨more, eq, rest⟩ => ⟨a :: more, ?_, .more one (after ▸ comma) rest⟩
      simpa using eq
    · exact ⟨[a], by simp, .last one (after ▸ close)⟩

lemma ensures_readSegment? (fuel : Nat) (s : List Char) :
    Ensures (readSegment? fuel s) fun g t => ∀ x, g = some x → Steps s x t := by
  cases fuel with
  | zero => simp [readSegment?]
  | succ fuel =>
    simp only [readSegment?]
    refine ensures_ifEat (fun t dots => ?_) (ensures_ifEat (fun t dot => ?_)
      (ensures_ifEat (fun t bracket => ?_) (by simp)))
    · suffices Ensures _ fun g _ => ∃ l, g = some (Segment.descendant l) by
        refine this.mono ?_
        rintro _ u ⟨l, rfl⟩ _ ⟨⟩
        rw [dots]
        exact .descendant
      refine ensures_ifEat (fun u _ => ?_) (ensures_ifEat (fun u _ => ensures_ok.2 ⟨_, rfl⟩) ?_)
      · exact ensures_true.bind fun l v _ => ensures_ok.2 ⟨l, rfl⟩
      · exact ensures_true.bind fun n v _ => ensures_ok.2 ⟨_, rfl⟩
    · rw [dot]
      refine ensures_ifEat (fun u star => ensures_ok.2 ?_) ?_
      · rintro _ ⟨⟩
        rw [star]
        exact .wildcard
      · refine (ensures_readName t).bind fun n u ⟨c, w, first, more, split⟩ => ensures_ok.2 ?_
        rintro _ ⟨⟩
        rw [split]
        exact .name first more
    · refine (ensures_readSelectors [] fuel t).bind ?_
      rintro _ u ⟨l, rfl, inside⟩
      refine ensures_ok.2 ?_
      rintro _ ⟨⟩
      rw [bracket]
      exact .bracket inside

lemma ensures_readSegments (acc : List Segment) (fuel : Nat) (s : List Char) :
    Ensures (readSegments acc fuel s) fun l t => ∃ more, l = acc.reverse ++ more ∧ Follows s more t := by
  induction fuel generalizing acc s with
  | zero => simp [readSegments]
  | succ fuel ih =>
    simp only [readSegments, read_get_bind]
    refine (ensures_skipSpace s).bind fun _ t space => ?_
    refine (ensures_readSegment? fuel t).bind fun g u one => ?_
    cases g with
    | none => exact ensures_ok.2 ⟨[], by simp, .nil⟩
    | some g =>
      refine (ih (g :: acc) u).mono ?_
      rintro l v ⟨more, rfl, rest⟩
      exact ⟨g :: more, by simp, .cons (space ▸ one g rfl) rest⟩

lemma ensures_readQuery (fuel : Nat) (r : List Char) : Ensures (readQuery fuel ('$' :: r)) fun q t =>
    ∃ l, q = .root l ∧ Follows r l t := by
  cases fuel with
  | zero => simp [readQuery]
  | succ fuel =>
    simp only [readQuery]
    refine ensures_ifEat (fun t root => ?_) (ensures_ifEat (fun t current => ?_) (by simp))
    · obtain rfl : r = t := List.tail_eq_of_cons_eq root
      refine (ensures_readSegments [] fuel r).bind fun l u ⟨_, eq, follows⟩ => ensures_ok.2 ⟨l, rfl, ?_⟩
      rwa [eq]
    · simp at current

lemma isPath_of_parse {path : String} {q : Query} (h : parse path = .ok q) : IsPath path.toList q := by
  have root : Ensures (readRoot (16 * path.toList.length + 16) path.toList) fun q _ => IsPath path.toList q := by
    unfold readRoot
    simp only [read_peek]
    refine ensures_ite (fun _ => by simp) fun first => ?_
    obtain ⟨r, start⟩ := List.head?_eq_some_iff.1 (not_not.1 first)
    rw [start]
    refine (ensures_readQuery _ r).bind fun q t ⟨l, eq, follows⟩ => ?_
    simp only [read_get_bind]
    refine ensures_ite (fun nil => ensures_ok.2 ⟨r, l, rfl, ?_, eq⟩) fun _ => by simp
    rwa [List.isEmpty_iff.1 nil] at follows
  simp only [parse] at h
  split at h
  · rename_i p t goes
    cases h
    exact root _ _ goes
  · simp at h

end ItemPipeline.JsonPath
