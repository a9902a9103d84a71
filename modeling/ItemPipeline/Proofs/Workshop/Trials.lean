import ItemPipeline.Proofs.Workshop.Erasure

/-!
Trials on the side. A course goes on without its trials as it does with them, and the answer to a trial is
what its rules make of its value alone.
-/

namespace ItemPipeline

def RuleSet.reply (r : RuleSet) (i : UInt64) (v : Value) (now : Timestamp) (h : History) : TestReply where
  item := i
  value := (r.execute {} none v now h).1.value
  results := (r.execute {} none v now h).1.results
  history := (r.execute {} none v now h).2.1

lemma TestTask.run_reply (t : TestTask) (b : Bench) (hb : b.context.Sound) :
    (t.run b).1.reply = t.rules.reply t.item t.value t.time t.history := by
  have h := t.rules.execute_eq t.value t.time t.history hb
  simp only [run, reply, RuleSet.reply, h.1, h.2.1]

lemma Task.run_reply {t : Task} {b : Bench} (hb : b.context.Sound) {k : Nat} {r : TestReply}
    (h : (t.run b).1.answer = .reply k r) :
    ∃ d, t = .test d ∧ d.ticket = k ∧ r = d.rules.reply d.item d.value d.time d.history := by
  cases t with
  | test d =>
    obtain ⟨rfl, rfl⟩ := Output.reply.inj h
    exact ⟨d, rfl, rfl, d.run_reply b hb⟩
  | _ => exact Output.noConfusion h

namespace Event

lemma flushes_of_isTest {e : Event} (h : e.Proper) (ht : e.isTest = true) :
    e.outputs.filterMap Output.toFlushed = [] := by
  cases e with
  | settled t o =>
    obtain rfl : o = [t.answer] := h
    have hv : t.valueTask? = none := by
      simpa [isTest, Task.isTest_eq_isNone] using ht
    simp [outputs, t.answer_toFlushed, Task.flushed?, hv]
  | _ => rfl

lemma flushes_withoutTests {es : List Event} (h : ∀ e ∈ es, e.Proper) :
    ((es.filter fun e => !e.isTest).flatMap outputs).filterMap Output.toFlushed =
      (es.flatMap outputs).filterMap Output.toFlushed := by
  induction es with
  | nil => rfl
  | cons e es ih =>
    obtain ⟨he, hes⟩ := List.forall_mem_cons.1 h
    cases ht : e.isTest with
    | true => simp [ht, ih hes, flushes_of_isTest he ht]
    | false => simp [ht, ih hes]

end Event

namespace Workshop

variable {c : ManagerConfig} {m : Manager} {n k : Nat} {start w w' w₀ w₀' : Workshop} {as as₀ : List Act}
  {a a₀ : Act} {es es₀ e : List Event}

/-- A course and beside it one without its trials: each step either leaves the second course where it is or
is taken by it as well, and each time it is the first without trials. -/
inductive Beside (start : Workshop) :
    List Act → List Event → Workshop → List Act → List Event → Workshop → Prop
  | nil : Beside start [] [] start [] [] start
  | skip {as as₀ : List Act} {es e es₀ : List Event} {w w' w₀ : Workshop} {a : Act} {k : Nat}
      (beside : Beside start as es w as₀ es₀ w₀) (turn : Turn w a e w') (tests : ∀ x ∈ e, x.isTest = true)
      (after : w'.Cleared k w₀) : Beside start (as ++ [a]) (es ++ e) w' as₀ es₀ w₀
  | keep {as as₀ : List Act} {es e es₀ : List Event} {w w' w₀ w₀' : Workshop} {a a₀ : Act} {k : Nat}
      (beside : Beside start as es w as₀ es₀ w₀) (turn : Turn w a e w')
      (others : ∀ x ∈ e, x.isTest = false) (untried : a₀.isTrial = false) (within : a₀.Within a)
      (turn₀ : Turn w₀ a₀ e w₀') (after : w'.Cleared k w₀') :
      Beside start (as ++ [a]) (es ++ e) w' (as₀ ++ [a₀]) (es₀ ++ e) w₀'

lemma Beside.course (h : Beside start as es w as₀ es₀ w₀) : Course start as₀ es₀ w₀ := by
  induction h with
  | nil => exact .nil
  | skip _ _ _ _ ih => exact ih
  | keep _ _ _ _ _ ht _ ih => exact ih.snoc ht

lemma Beside.events (h : Beside start as es w as₀ es₀ w₀) : es₀ = es.filter fun x => !x.isTest := by
  induction h with
  | nil => rfl
  | @skip _ _ _ e _ _ _ _ _ _ _ _ tests _ ih =>
    have he : e.filter (fun x => !x.isTest) = [] := List.filter_eq_nil_iff.2 fun x hx => by simp [tests x hx]
    rw [List.filter_append, he, List.append_nil, ih]
  | @keep _ _ _ e _ _ _ _ _ _ _ _ _ _ others _ _ _ _ ih =>
    have he : e.filter (fun x => !x.isTest) = e := List.filter_eq_self.2 fun x hx => by simp [others x hx]
    rw [List.filter_append, he, ih]

lemma Beside.untried (h : Beside start as es w as₀ es₀ w₀) : ∀ a ∈ as₀, a.isTrial = false := by
  induction h with
  | nil => simp
  | skip _ _ _ _ ih => exact ih
  | keep _ _ _ untried _ _ _ ih => exact List.forall_mem_append.2 ⟨ih, List.forall_mem_singleton.2 untried⟩

lemma opening_cleared (hm : Manager.start c = .ok m) : (opening m n).Cleared k (opening m n) := by
  obtain rfl := Manager.start_eq hm
  refine ⟨⟨0, 0, rfl⟩, rfl, List.forall₂_same.2 fun v hv => ?_, rfl⟩
  rw [List.eq_of_mem_replicate hv]
  exact ⟨rfl, Context.sound_empty, Context.sound_empty⟩

lemma Course.beside (hm : Manager.start c = .ok m) (h : Course (opening m n) as es w) :
    ∀ k ≤ w.duty.left, ∃ as₀ es₀ w₀, Beside (opening m n) as es w as₀ es₀ w₀ ∧ w.Cleared k w₀ := by
  -- how many trials a drain will come upon is not known when it begins, hence all numbers at once
  induction h with
  | nil => exact fun k _ => ⟨[], [], _, .nil, opening_cleared hm⟩
  | @snoc as es e w w' a hc ht ih =>
    intro k hk
    obtain ⟨k₀, hk₀, follows⟩ := ht.follows (hc.orderly hm) hk
    obtain ⟨as₀, es₀, w₀, beside, cleared⟩ := ih k₀ hk₀
    cases follows w₀ cleared with
    | skip tests after => exact ⟨as₀, es₀, w₀, beside.skip ht tests after, after⟩
    | keep others untried within turn after =>
      exact ⟨_, _, _, beside.keep ht others untried within turn after, after⟩

lemma Course.ran_sound (hm : Manager.start c = .ok m) (h : Course (opening m n) as es w) :
    ∀ p ∈ es.filterMap Event.ran?, ∃ b : Bench, b.context.Sound ∧ p.2 = (p.1.run b).1 := by
  induction h with
  | nil => simp
  | @snoc as es e w w' a hc ht ih =>
    rw [List.filterMap_append, List.forall_mem_append]
    refine ⟨ih, ?_⟩
    by_cases ha : a = .run
    · subst ha
      cases ht with
      | @run l r v j done b split hand result =>
        have sound := (hc.recalled hm).contexts v (by simp [split])
        refine List.forall_mem_singleton.2 ⟨⟨v.context, w.manager.histories⟩, sound, ?_⟩
        rw [← j.run_task, result]
    · simp [(ht.still ha).1]

lemma Turn.tried (h : Turn w a e w') {t : TestTask} (ht : .test t ∈ e.filterMap Event.made?) :
    (∃ i v now x, a = .tryItem i v now ∧ w.manager.items.get? i = some x ∧
      .test t = w.manager.trial i x.rules v now .empty) ∨
    ∃ s vt v now hist, a = .trySteps s vt v now hist ∧
      .test t = w.manager.trial 0 { valueType := vt, steps := s } v now hist := by
  cases h with
  | feed i v now o idle =>
    simp only [List.filterMap_map, List.mem_filterMap, Option.mem_toList] at ht
    obtain ⟨x, -, hx⟩ := ht
    have := w.manager.taskOf_isTest (.ofItem x v now o)
    rw [Option.some.inj hx] at this
    simp [Task.isTest] at this
  | tryItem i v now idle =>
    simp only [List.filterMap_map, List.mem_filterMap, Option.mem_toList] at ht
    obtain ⟨x, hx, ht⟩ := ht
    exact .inl ⟨i, v, now, x, rfl, hx, (Option.some.inj ht).symm⟩
  | trySteps s vt v now hist idle =>
    exact .inr ⟨s, vt, v, now, hist, rfl, by simpa [Event.made?] using ht⟩
  | @settle left j duty =>
    simp only [List.filterMap_cons, Event.made?, List.filterMap_map, List.mem_filterMap] at ht
    obtain ⟨b, hb, hbt⟩ := ht
    have := w.manager.bred_isTest j.task b hb
    rw [Option.some.inj hbt] at this
    simp [Task.isTest] at this
  | run split hand result => simp [List.filterMap_cons, Event.made?] at ht
  | _ => simp at ht

/-- Without its trials every course is a course of the same workshop, in which whatever is not about a trial
happens as before, in the same order, and each step leaves the same table and the same histories; so the
flushes are the same. The answer to a trial is what the rules that its item had at the time, or the given
steps, make of its value, time and history, whatever else has been run in between. -/
theorem trials_do_not_interfere (hm : Manager.start c = .ok m) (h : Course (opening m n) as es w) :
    (∃ as₀ w₀, Beside (opening m n) as es w as₀ (es.filter fun x => !x.isTest) w₀ ∧
      Course (opening m n) as₀ (es.filter fun x => !x.isTest) w₀ ∧ (∀ a ∈ as₀, a.isTrial = false) ∧
      w₀.manager.items = w.manager.items ∧ w₀.manager.histories = w.manager.histories ∧
      ((es.filter fun x => !x.isTest).flatMap Event.outputs).filterMap Output.toFlushed =
        (es.flatMap Event.outputs).filterMap Output.toFlushed) ∧
    ∀ k r, .reply k r ∈ es.flatMap Event.outputs →
      ∃ v a e v', Through (opening m n) as es w v a e v' ∧ v.manager.tickets = k ∧
        ((∃ i u now x, a = .tryItem i u now ∧ v.manager.items.get? i = some x ∧
          r = x.rules.reply i u now .empty) ∨
        ∃ s vt u now hist, a = .trySteps s vt u now hist ∧
          r = RuleSet.reply { valueType := vt, steps := s } 0 u now hist) := by
  constructor
  · obtain ⟨as₀, es₀, w₀, beside, cleared⟩ := h.beside hm 0 (Nat.zero_le _)
    obtain rfl := beside.events
    obtain ⟨t, f, manager⟩ := cleared.manager
    exact ⟨as₀, w₀, beside, beside.course, beside.untried, by rw [manager]; rfl, by rw [manager]; rfl,
      Event.flushes_withoutTests h.proper⟩
  · intro k r hr
    rw [Event.outputs_eq h.proper] at hr
    obtain ⟨d, hd, answer⟩ := List.mem_map.1 hr
    obtain ⟨p, hp, rfl⟩ := h.settled_ran hm d hd
    obtain ⟨b, sound, ran⟩ := h.ran_sound hm p hp
    rw [ran] at answer
    obtain ⟨t, ht, rfl, rfl⟩ := Task.run_reply sound answer
    obtain ⟨x, hx, made⟩ := List.mem_filterMap.1 (h.ran_made hm p hp)
    obtain ⟨v, a, e, v', he, through⟩ := h.through hx
    have turn : Turn v a e v' := by
      obtain ⟨-, -, -, -, -, -, -, turn, -⟩ := through
      exact turn
    refine ⟨v, a, e, v', through, ?_⟩
    rcases turn.tried (List.mem_filterMap.2 ⟨x, he, made.trans (congrArg some ht)⟩) with
      ⟨i, u, now, y, rfl, hy, ⟨⟩⟩ | ⟨s, vt, u, now, hist, rfl, ⟨⟩⟩
    · exact ⟨rfl, .inl ⟨i, u, now, y, rfl, hy, rfl⟩⟩
    · exact ⟨rfl, .inr ⟨s, vt, u, now, hist, rfl, rfl⟩⟩

theorem trials_do_not_interfere_of_delta :
    ∃ as es w r, Course (opening { batchSize := 256, queue := { workers := 3 } } 1) as es w ∧
      (es.filter Event.isTest).length = 3 ∧ .reply 0 r ∈ es.flatMap Event.outputs ∧
      (∃ as₀ w₀, Course (opening { batchSize := 256, queue := { workers := 3 } } 1) as₀
          (es.filter fun x => !x.isTest) w₀ ∧ (∀ a ∈ as₀, a.isTrial = false) ∧
        w₀.manager.histories = w.manager.histories) ∧
      ∃ rules i u now hist, r = RuleSet.reply rules i u now hist := by
  have h := (Course.nil : Course (opening { batchSize := 256, queue := { workers := 3 } } 1) [] [] _)
    |>.snoc (.add 7 1 { valueType := .uint64, steps := [{ kind := .deltaValue }] } rfl)
    |>.snoc (.feed 7 (.uint64 3) ⟨1⟩ {} rfl)
    |>.snoc (.tryItem 7 (.uint64 9) ⟨2⟩ rfl)
    |>.snoc (.pop (l := []) (r := []) (v := {}) rfl rfl)
    |>.snoc (.run (l := []) (r := []) rfl rfl rfl)
    |>.snoc (.put (l := []) (r := []) rfl rfl)
    |>.snoc (.pop (l := []) (r := []) rfl rfl)
    |>.snoc (.run (l := []) (r := []) rfl rfl rfl)
    |>.snoc (.put (l := []) (r := []) rfl rfl)
    |>.snoc (.drain 2 rfl)
    |>.snoc (.take rfl rfl)
    |>.snoc (.settle rfl)
    |>.snoc (.advance rfl)
    |>.snoc (.take rfl rfl)
    |>.snoc (.settle rfl)
    |>.snoc (.stop rfl (.inl rfl))
  obtain ⟨⟨as₀, w₀, -, erased, untried, -, histories, -⟩, replies⟩ := trials_do_not_interfere (c := {}) rfl h
  obtain ⟨v, a, e, v', -, -, reply⟩ := replies 0 _ (List.mem_cons_of_mem _ (List.mem_singleton_self _))
  refine ⟨_, _, _, _, h, rfl, List.mem_cons_of_mem _ (List.mem_singleton_self _),
    ⟨as₀, w₀, erased, untried, histories⟩, ?_⟩
  rcases reply with ⟨i, u, now, x, -, -, hr⟩ | ⟨s, vt, u, now, hist, -, hr⟩
  · exact ⟨_, _, _, _, _, hr⟩
  · exact ⟨_, _, _, _, _, hr⟩

end Workshop

end ItemPipeline
