import ItemPipeline.Manager.Session
import ItemPipeline.Proofs.Workshop.Basic

/-!
A drain, the work of an idle worker and a session as courses of single steps: what holds along every
course holds of the running program.
-/

namespace ItemPipeline

def Act.isInner : Act → Bool
  | drain _ | stop | take | settle | advance | pop | run | put => true
  | _ => false

namespace Workshop

variable {w w' w'' : Workshop} {o o' : List Output} {a : Act} {es : List Event}

def Goes (w : Workshop) (o : List Output) (w' : Workshop) : Prop :=
  ∃ as es, (∀ a ∈ as, a.isInner = true) ∧ es.flatMap Event.outputs = o ∧ Course w as es w'

namespace Goes

lemma refl : Goes w [] w :=
  ⟨[], [], by simp, rfl, .nil⟩

lemma trans (h : Goes w o w') (h' : Goes w' o' w'') : Goes w (o ++ o') w'' := by
  obtain ⟨as, es, inner, rfl, hc⟩ := h
  obtain ⟨bs, es', inner', rfl, hc'⟩ := h'
  refine ⟨as ++ bs, es ++ es', ?_, List.flatMap_append, hc.append hc'⟩
  intro a ha
  exact (List.mem_append.1 ha).elim (inner a) (inner' a)

lemma trans_nil (h : Goes w o w') (h' : Goes w' [] w'') : Goes w o w'' := by
  simpa using h.trans h'

lemma of_turn (h : Turn w a es w') (inner : a.isInner = true) : Goes w (es.flatMap Event.outputs) w' :=
  ⟨[a], es, by simpa using inner, rfl, Course.nil.snoc h⟩

end Goes

lemma goes_settle {left : Nat} {j : Job} (hd : w.duty = .settling left j) :
    Goes w (w.manager.settle j).1 { w with manager := (w.manager.settle j).2, duty := .draining left } := by
  have handled := Goes.of_turn (.settle hd) rfl
  have outputs : (w.manager.settleTask j.task).1 ++
      ((w.manager.bred j.task).map fun b => Event.bred b.1 b.2).flatMap Event.outputs =
        (w.manager.settleTask j.task).1 := by
    simp [Event.outputs, List.flatMap_map]
  rw [List.flatMap_cons, Event.outputs, outputs] at handled
  cases j with
  | single t => exact handled
  | sequence i t => exact handled.trans_nil (.of_turn (.advance rfl) rfl)

lemma goes_draining (left : Nat) (w : Workshop) (hd : w.duty = .draining left) :
    Goes w (w.manager.drain left).outputs
      { w with manager := (w.manager.drain left).manager, duty := .idle } := by
  induction left generalizing w with
  | zero => exact .of_turn (.stop hd (.inl rfl)) rfl
  | succ left ih =>
    cases hf : w.manager.queue.finished with
    | nil =>
      simp only [Manager.drain, Queue.popFinished, hf]
      exact .of_turn (.stop hd (.inr hf)) rfl
    | cons j r =>
      simp only [Manager.drain, Queue.popFinished, hf]
      have found : w.manager.queue.popFinished = (some j, { w.manager.queue with finished := r }) := by
        simp only [Queue.popFinished, hf]
      have taken := Goes.of_turn (.take hd found) rfl
      exact (taken.trans (goes_settle rfl)).trans (ih _ rfl)

lemma goes_drain (w : Workshop) (idle : w.duty = .idle) (limit : Nat) :
    Goes w (w.manager.drain limit).outputs { w with manager := (w.manager.drain limit).manager } := by
  have started := Goes.of_turn (.drain limit idle) rfl
  simpa [idle] using started.trans (goes_draining limit _ rfl)

def atBench (w : Workshop) (l r : List Worker) (q : Queue) (b : Bench) (h : Hand) : Workshop :=
  { w with
    manager := { w.manager with queue := q, histories := b.histories }
    workers := l ++ ⟨b.context, h⟩ :: r }

section Bench

variable {l r : List Worker} {q q' : Queue} {b b' : Bench} {j j' : Job}

lemma goes_pop {f : Option Job} (h : q.pop = (f, q')) :
    Goes (w.atBench l r q b .free) [] (w.atBench l r q' b (.ofPop f)) := by
  have popped := Goes.of_turn (Turn.pop (w := w.atBench l r q b .free) rfl rfl) rfl
  simpa [atBench, h] using popped

lemma goes_run (h : j.run b = (j', b')) :
    Goes (w.atBench l r q b (.ready j)) [] (w.atBench l r q b' (.done j')) :=
  .of_turn (Turn.run (w := w.atBench l r q b (.ready j)) rfl rfl h) rfl

lemma goes_put : Goes (w.atBench l r q b (.done j)) [] (w.atBench l r (q.pushFinished j) b .free) :=
  .of_turn (Turn.put (w := w.atBench l r q b (.done j)) rfl rfl) rfl

end Bench

lemma goes_work (w : Workshop) (l r : List Worker) (q : Queue) (b : Bench) :
    Goes (w.atBench l r q b .free) [] (w.atBench l r (q.work b).2.1 (q.work b).2.2 .free) := by
  fun_induction Queue.work q b with
  | case1 q b q' hp => exact goes_pop hp
  | case2 q b j q' hp j' b' hr n q'' b'' hw ih =>
    rw [hw] at ih
    exact (((goes_pop hp).trans (goes_run hr)).trans goes_put).trans ih

end Workshop

namespace Session

open Workshop

def workshop (s : Session) (issued : List (UInt64 × Edition)) : Workshop where
  manager := s.manager
  workers := [{ context := s.context }]
  issued := issued

lemma workshop_start {c : ManagerConfig} {s : Session} (h : Session.start c = .ok s) :
    Manager.start c = .ok s.manager ∧ s.workshop [] = opening s.manager 1 := by
  unfold Session.start at h
  cases hm : Manager.start c with
  | error e => simp [hm, Except.map] at h
  | ok m =>
    obtain rfl : _ = s := by simpa [hm, Except.map] using h
    exact ⟨rfl, rfl⟩

variable (s : Session) (issued : List (UInt64 × Edition))

lemma goes_settle : Goes (s.workshop issued) [] (s.settle.workshop issued) := by
  unfold settle
  split
  · exact .refl
  · exact goes_work (s.workshop issued) [] [] s.manager.queue ⟨s.context, s.manager.histories⟩

lemma goes_drain (limit : Nat) :
    Goes (s.workshop issued) (s.drain limit).1.2 ((s.drain limit).2.workshop issued) := by
  have drained := Workshop.goes_drain (s.workshop issued) rfl limit
  exact drained.trans_nil (goes_settle { s with manager := (s.manager.drain limit).manager } issued)

end Session

end ItemPipeline
