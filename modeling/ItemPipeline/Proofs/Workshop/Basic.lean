import ItemPipeline.Manager.Drain
import Mathlib.Data.List.Induction
import Mathlib.Tactic.Lemma

/-!
A manager and its workers as one system that moves in small steps. A worker takes up a job, runs it
and puts it back, each in a step of its own, and may do so between any two steps of a drain; the
calls that only read or write the table, and those that send a task on its way, are one step each.
-/

namespace ItemPipeline

inductive Hand
  | free
  | ready (j : Job)
  | done (j : Job)

namespace Hand

def ofPop : Option Job → Hand
  | none => free
  | some j => ready j

def toRun : Hand → List Job
  | ready j => [j]
  | _ => []

def toPut : Hand → List Job
  | done j => [j]
  | _ => []

@[simp] lemma toRun_free : free.toRun = [] := rfl

@[simp] lemma toRun_ready (j : Job) : (ready j).toRun = [j] := rfl

@[simp] lemma toRun_done (j : Job) : (done j).toRun = [] := rfl

@[simp] lemma toPut_free : free.toPut = [] := rfl

@[simp] lemma toPut_ready (j : Job) : (ready j).toPut = [] := rfl

@[simp] lemma toPut_done (j : Job) : (done j).toPut = [j] := rfl

@[simp] lemma toRun_ofPop (o : Option Job) : (ofPop o).toRun = o.toList := by
  cases o <;> rfl

@[simp] lemma toPut_ofPop (o : Option Job) : (ofPop o).toPut = [] := by
  cases o <;> rfl

end Hand

structure Worker where
  context : Context := {}
  hand : Hand := .free

/-- What the manager is at: nothing, a drain that may go on to `left` more jobs, the job it has taken
out, or a sequence whose task it has just handled. -/
inductive Duty
  | idle
  | draining (left : Nat)
  | settling (left : Nat) (j : Job)
  | advancing (left : Nat) (i : UInt64)

namespace Duty

def jobs : Duty → List Job
  | settling _ j => [j]
  | _ => []

def sequences : Duty → List UInt64
  | advancing _ i => [i]
  | _ => []

def after (left : Nat) : Job → Duty
  | .single _ => draining left
  | .sequence i _ => advancing left i

@[simp] lemma jobs_idle : idle.jobs = [] := rfl

@[simp] lemma jobs_draining (n : Nat) : (draining n).jobs = [] := rfl

@[simp] lemma jobs_settling (n : Nat) (j : Job) : (settling n j).jobs = [j] := rfl

@[simp] lemma jobs_advancing (n : Nat) (i : UInt64) : (advancing n i).jobs = [] := rfl

@[simp] lemma sequences_idle : idle.sequences = [] := rfl

@[simp] lemma sequences_draining (n : Nat) : (draining n).sequences = [] := rfl

@[simp] lemma sequences_settling (n : Nat) (j : Job) : (settling n j).sequences = [] := rfl

@[simp] lemma sequences_advancing (n : Nat) (i : UInt64) : (advancing n i).sequences = [i] := rfl

@[simp] lemma jobs_after (n : Nat) (j : Job) : (after n j).jobs = [] := by
  cases j <;> rfl

end Duty

inductive Act
  | add (i host : UInt64) (r : RuleSet)
  | restore (x : Item)
  | update (i : UInt64) (r : RuleSet)
  | remove (i : UInt64)
  | feed (i : UInt64) (v : Value) (t : Timestamp) (o : ValueOptions)
  | tryItem (i : UInt64) (v : Value) (now : Timestamp)
  | trySteps (s : List Step) (t : ValueType) (v : Value) (now : Timestamp) (h : History)
  | drain (limit : Nat)
  | stop
  | take
  | settle
  | advance
  | pop
  | run
  | put

/-- What happens to tasks in a step: one is made for a fed value, a trial or a value passed on, one
is executed, or one is handled. Tasks of items are noted with the item as it stands in the table. -/
inductive Event
  | fed (x : Item) (t : Task)
  | tried (t : Task)
  | bred (x : Item) (t : Task)
  | ran (t done : Task)
  | settled (t : Task) (o : List Output)

namespace Event

def made? : Event → Option Task
  | fed _ t => some t
  | tried t => some t
  | bred _ t => some t
  | _ => none

def fed? : Event → Option Task
  | fed _ t => some t
  | _ => none

def bred? : Event → Option Task
  | bred _ t => some t
  | _ => none

def ran? : Event → Option (Task × Task)
  | ran t d => some (t, d)
  | _ => none

def settled? : Event → Option Task
  | settled t _ => some t
  | _ => none

def outputs : Event → List Output
  | settled _ o => o
  | _ => []

end Event

def Manager.bred (m : Manager) : Task → List (Item × Task)
  | .dependent ⟨p, _, some c⟩ => (m.fed p.rules).map fun x => (x, m.taskOf (.ofCache x c p.time {}))
  | _ => []

structure Workshop where
  manager : Manager
  duty : Duty := .idle
  workers : List Worker := []
  issued : List (UInt64 × Edition) := []

namespace Workshop

def opening (m : Manager) (n : Nat) : Workshop where
  manager := m
  workers := List.replicate n {}

/-- One step. An item may be restored with any edition that was issued, be it for another item. -/
inductive Turn : Workshop → Act → List Event → Workshop → Prop
  | add {w : Workshop} (i host : UInt64) (r : RuleSet) (idle : w.duty = .idle) :
      Turn w (.add i host r) []
        { w with
          manager := (w.manager.addItem i host r).2
          issued := (i, ⟨w.manager.editions, r⟩) :: w.issued }
  | restore {w : Workshop} (x : Item) (idle : w.duty = .idle) (known : ∃ k, (k, x.edition) ∈ w.issued) :
      Turn w (.restore x) [] { w with manager := (w.manager.register x).2 }
  | update {w : Workshop} (i : UInt64) (r : RuleSet) (idle : w.duty = .idle) :
      Turn w (.update i r) []
        { w with
          manager := (w.manager.updateItem i r).2
          issued :=
            if (w.manager.updateItem i r).1 then (i, ⟨w.manager.editions, r⟩) :: w.issued else w.issued }
  | remove {w : Workshop} (i : UInt64) (idle : w.duty = .idle) :
      Turn w (.remove i) [] { w with manager := (w.manager.removeItem i).2 }
  | feed {w : Workshop} (i : UInt64) (v : Value) (t : Timestamp) (o : ValueOptions)
      (idle : w.duty = .idle) :
      Turn w (.feed i v t o)
        ((w.manager.items.get? i).toList.map fun x => .fed x (w.manager.taskOf (.ofItem x v t o)))
        { w with manager := (w.manager.enqueue i v t o).2 }
  | tryItem {w : Workshop} (i : UInt64) (v : Value) (now : Timestamp) (idle : w.duty = .idle) :
      Turn w (.tryItem i v now)
        ((w.manager.items.get? i).toList.map fun x => .tried (w.manager.trial i x.rules v now .empty))
        { w with manager := (w.manager.test i v now).2 }
  | trySteps {w : Workshop} (s : List Step) (t : ValueType) (v : Value) (now : Timestamp)
      (h : History) (idle : w.duty = .idle) :
      Turn w (.trySteps s t v now h)
        [.tried (w.manager.trial 0 { valueType := t, steps := s } v now h)]
        { w with manager := (w.manager.testSteps s t v now h).2 }
  | drain {w : Workshop} (limit : Nat) (idle : w.duty = .idle) :
      Turn w (.drain limit) [] { w with duty := .draining limit }
  | stop {w : Workshop} {left : Nat} (duty : w.duty = .draining left)
      (ended : left = 0 ∨ w.manager.queue.finished = []) :
      Turn w .stop [] { w with duty := .idle }
  | take {w : Workshop} {left : Nat} {j : Job} {q : Queue} (duty : w.duty = .draining (left + 1))
      (found : w.manager.queue.popFinished = (some j, q)) :
      Turn w .take [] { w with manager := { w.manager with queue := q }, duty := .settling left j }
  | settle {w : Workshop} {left : Nat} {j : Job} (duty : w.duty = .settling left j) :
      Turn w .settle
        (.settled j.task (w.manager.settleTask j.task).1 ::
          (w.manager.bred j.task).map fun b => .bred b.1 b.2)
        { w with manager := (w.manager.settleTask j.task).2, duty := .after left j }
  | advance {w : Workshop} {left : Nat} {i : UInt64} (duty : w.duty = .advancing left i) :
      Turn w .advance [] { w with manager := w.manager.advance i, duty := .draining left }
  | pop {w : Workshop} {l r : List Worker} {v : Worker} (split : w.workers = l ++ v :: r)
      (hand : v.hand = .free) :
      Turn w .pop []
        { w with
          manager := { w.manager with queue := w.manager.queue.pop.2 }
          workers := l ++ { v with hand := .ofPop w.manager.queue.pop.1 } :: r }
  | run {w : Workshop} {l r : List Worker} {v : Worker} {j done : Job} {b : Bench}
      (split : w.workers = l ++ v :: r) (hand : v.hand = .ready j)
      (result : j.run ⟨v.context, w.manager.histories⟩ = (done, b)) :
      Turn w .run [.ran j.task done.task]
        { w with
          manager := { w.manager with histories := b.histories }
          workers := l ++ ⟨b.context, .done done⟩ :: r }
  | put {w : Workshop} {l r : List Worker} {v : Worker} {j : Job} (split : w.workers = l ++ v :: r)
      (hand : v.hand = .done j) :
      Turn w .put []
        { w with
          manager := { w.manager with queue := w.manager.queue.pushFinished j }
          workers := l ++ { v with hand := .free } :: r }

inductive Course (start : Workshop) : List Act → List Event → Workshop → Prop
  | nil : Course start [] [] start
  | snoc {as : List Act} {es es' : List Event} {w w' : Workshop} {a : Act} :
      Course start as es w → Turn w a es' w' → Course start (as ++ [a]) (es ++ es') w'

variable {start w w' : Workshop} {as bs : List Act} {a : Act} {es es' : List Event}

lemma Course.of_snoc (h : Course start (as ++ [a]) es w) :
    ∃ es₁ e w₁, es = es₁ ++ e ∧ Course start as es₁ w₁ ∧ Turn w₁ a e w := by
  generalize hs : as ++ [a] = l at h
  cases h with
  | nil => simp at hs
  | snoc hc ht =>
    obtain ⟨rfl, ha⟩ := List.append_inj' hs rfl
    obtain rfl := List.singleton_inj.1 ha
    exact ⟨_, _, _, rfl, hc, ht⟩

lemma Course.append (h : Course start as es w) (h' : Course w bs es' w') :
    Course start (as ++ bs) (es ++ es') w' := by
  induction h' with
  | nil => simpa using h
  | snoc _ ht ih =>
    rw [← List.append_assoc, ← List.append_assoc]
    exact ih.snoc ht

lemma Course.of_append (h : Course start (as ++ bs) es w) :
    ∃ es₁ es₂ w₁, es = es₁ ++ es₂ ∧ Course start as es₁ w₁ ∧ Course w₁ bs es₂ w := by
  induction bs using List.reverseRecOn generalizing es w with
  | nil => exact ⟨es, [], w, by simp, by simpa using h, .nil⟩
  | append_singleton bs b ih =>
    rw [← List.append_assoc] at h
    obtain ⟨es', e, w', rfl, hc, ht⟩ := h.of_snoc
    obtain ⟨es₁, es₂, w₁, rfl, h₁, h₂⟩ := ih hc
    exact ⟨es₁, es₂ ++ e, w₁, by simp, h₁, h₂.snoc ht⟩

def Through (start : Workshop) (as : List Act) (es : List Event) (w v : Workshop) (a : Act) (e : List Event)
    (v' : Workshop) : Prop :=
  ∃ as₁ as₂ es₁ es₂, as = as₁ ++ a :: as₂ ∧ es = es₁ ++ (e ++ es₂) ∧
    Course start as₁ es₁ v ∧ Turn v a e v' ∧ Course v' as₂ es₂ w

lemma Course.through (h : Course start as es w) {x : Event} (hx : x ∈ es) :
    ∃ v a e v', x ∈ e ∧ Through start as es w v a e v' := by
  induction h with
  | nil => simp at hx
  | @snoc as es e w w' a hc ht ih =>
    rcases List.mem_append.1 hx with hx | hx
    · obtain ⟨v, b, e₁, v', hv, as₁, as₂, es₁, es₂, rfl, rfl, h₁, hb, h₂⟩ := ih hx
      exact ⟨v, b, e₁, v', hv, as₁, as₂ ++ [a], es₁, es₂ ++ e, by simp, by simp, h₁, hb, h₂.snoc ht⟩
    · exact ⟨w, a, e, w', hx, as, [], es, [], rfl, by simp, hc, ht, .nil⟩

end Workshop

end ItemPipeline
