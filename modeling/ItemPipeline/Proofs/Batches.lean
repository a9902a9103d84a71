import ItemPipeline.Proofs.Workshop.Floor
import Mathlib.Algebra.GroupWithZero.Nat

/-!
Drains in batches. A drain handles the finished jobs from the front of their lane and nothing that it does gets there, so
it makes no difference how many of them are handled at a time.
-/

namespace ItemPipeline

namespace Manager

section Lane

variable (m : Manager)

lemma foldl_pushFed_finished (l : List (Item × Task)) (q : Queue) :
    (l.foldl (fun q b => pushFed q b.2) q).finished = q.finished := by
  induction l generalizing q with
  | nil => rfl
  | cons b l ih => exact (ih _).trans (q.pushFed_sends b.1 b.2).finished_eq

lemma settleTask_finished (t : Task) : (m.settleTask t).2.queue.finished = m.queue.finished := by
  rw [m.settleTask_eq]
  exact foldl_pushFed_finished _ _

lemma advance_finished (i : UInt64) : (m.advance i).queue.finished = m.queue.finished := by
  cases chain : (m.queue.sequences.get? i).getD [] with
  | nil => rw [m.advance_of_empty chain, Queue.removeSequence]
  | cons t r =>
    obtain ⟨l, found, rfl⟩ : ∃ l, m.queue.sequences.get? i = some l ∧ l = t :: r := by
      cases found : m.queue.sequences.get? i with
      | none => simp [found] at chain
      | some l => exact ⟨l, rfl, by simpa [found] using chain⟩
    rw [m.advance_of_waiting found]

lemma settle_finished (j : Job) : (m.settle j).2.queue.finished = m.queue.finished := by
  cases j with
  | single t => exact m.settleTask_finished t
  | sequence i t => exact ((m.settleTask t).2.advance_finished i).trans (m.settleTask_finished t)

end Lane

def Drained.followedBy (d e : Drained) : Drained :=
  ⟨d.count + e.count, d.outputs ++ e.outputs, e.manager⟩

def handle (m : Manager) (j : Job) (r : List Job) : Drained :=
  let s := { m with queue := { m.queue with finished := r } }.settle j
  ⟨1, s.1, s.2⟩

def drains (m : Manager) : List ℕ → Drained
  | [] => ⟨0, [], m⟩
  | limit :: limits => (m.drain limit).followedBy ((m.drain limit).manager.drains limits)

variable {m : Manager} {j : Job} {r : List Job}

namespace Drained

lemma followedBy_assoc (d e f : Drained) : (d.followedBy e).followedBy f = d.followedBy (e.followedBy f) := by
  simp [followedBy, Nat.add_assoc]

lemma nothing_followedBy (m : Manager) (d : Drained) : followedBy ⟨0, [], m⟩ d = d := by
  simp [followedBy]

end Drained

lemma handle_finished (m : Manager) (j : Job) (r : List Job) : (m.handle j r).manager.queue.finished = r :=
  settle_finished _ j

lemma drain_of_empty (empty : m.queue.finished = []) (limit : ℕ) : m.drain limit = ⟨0, [], m⟩ := by
  cases limit with
  | zero => rfl
  | succ limit => rw [drain, Queue.popFinished, empty]

lemma drain_of_cons (found : m.queue.finished = j :: r) (limit : ℕ) :
    m.drain (limit + 1) = (m.handle j r).followedBy ((m.handle j r).manager.drain limit) := by
  rw [drain, Queue.popFinished, found, Drained.followedBy, Nat.add_comm]
  rfl

lemma drain_add (m : Manager) (a b : ℕ) : m.drain (a + b) = (m.drain a).followedBy ((m.drain a).manager.drain b) := by
  induction a generalizing m with
  | zero => rw [Nat.zero_add, drain, Drained.nothing_followedBy]
  | succ a ih =>
    cases lane : m.queue.finished with
    | nil => simp only [drain_of_empty lane, Drained.nothing_followedBy]
    | cons j r =>
      rw [Nat.add_right_comm, drain_of_cons lane, ih, drain_of_cons lane, Drained.followedBy_assoc]
      rfl

lemma drains_eq (m : Manager) (limits : List ℕ) : m.drains limits = m.drain limits.sum := by
  induction limits generalizing m with
  | nil => rfl
  | cons limit limits ih => rw [drains, ih, List.sum_cons, drain_add]

lemma drain_lane (m : Manager) (limit : ℕ) : (m.drain limit).count = min limit m.queue.finished.length ∧
    (m.drain limit).manager.queue.finished = m.queue.finished.drop limit := by
  induction limit generalizing m with
  | zero => simp [drain]
  | succ limit ih =>
    cases lane : m.queue.finished with
    | nil => simp [drain_of_empty lane, lane]
    | cons j r =>
      obtain ⟨count, rest⟩ := ih (m.handle j r).manager
      rw [handle_finished] at count rest
      rw [drain_of_cons lane]
      constructor
      · calc ((m.handle j r).followedBy ((m.handle j r).manager.drain limit)).count
          _ = 1 + min limit r.length := congrArg (1 + ·) count
          _ = min (limit + 1) (j :: r).length := by rw [List.length_cons, Nat.add_min_add_right, Nat.add_comm]
      · exact rest

/-- Handled in two batches, or in any number of them, the finished jobs lead to the same manager and the same outputs in
the same order as at once, and each batch has as many of them as its limit and the lane allow. -/
theorem drain_batches (m : Manager) (a b : ℕ) :
    (m.drain (a + b)).manager = ((m.drain a).manager.drain b).manager ∧
    (m.drain (a + b)).outputs = (m.drain a).outputs ++ ((m.drain a).manager.drain b).outputs ∧
    (m.drain (a + b)).count = (m.drain a).count + ((m.drain a).manager.drain b).count ∧
    (m.drain a).count = min a m.queue.finished.length ∧
    ((m.drain a).manager.drain b).count = min b (m.queue.finished.length - a) ∧
    ∀ limits, m.drains limits = m.drain limits.sum := by
  obtain ⟨first, left⟩ := m.drain_lane a
  obtain ⟨second, -⟩ := (m.drain a).manager.drain_lane b
  rw [left, List.length_drop] at second
  rw [m.drain_add a b]
  exact ⟨rfl, rfl, rfl, first, second, m.drains_eq⟩

end Manager

end ItemPipeline
