import ItemPipeline.Queue
import ItemPipeline.Task.Run

/-!
A worker executes ready jobs one after another and puts them among the finished ones.
-/

namespace ItemPipeline

def Queue.work (q : Queue) (b : Bench) : Nat × Queue × Bench :=
  match _h : q.pop with
  | (none, r) => (0, r, b)
  | (some j, r) =>
    let (done, b) := j.run b
    let (n, r, b) := work (r.pushFinished done) b
    (n + 1, r, b)
termination_by q.ready
decreasing_by
  change r.ready < q.ready
  exact pop_ready _h

end ItemPipeline
