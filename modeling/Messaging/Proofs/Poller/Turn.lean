import Messaging.Proofs.System.Step

/-!
# Turns of a poller

Whenever a poller takes a step, it does one of four things: it breaks for want of a schedule, it
finds that it was told to stop, it begins a poll cycle, or it goes on with the cycle that it is in.
What it does is told in its diary, and a poller that comes to its end does nothing else.
-/

namespace Messaging

/-- What is written into the diary of a task when its poll cycle has come so far. -/
inductive Consumer.Marks (c : Consumer) (task : TaskId) : Cycle → List Event → Prop
  /-- The next receive call was made. -/
  | called (count : Nat) :
      Marks c task (.going count) [.called c.input task c.settings.receiveTimeout]
  /-- There is no queue on which receive could be called. -/
  | stuck (count : Nat) : Marks c task (.going count) []
  /-- The cycle has ended. -/
  | ended (count : Nat) : Marks c task (.complete count) [.ended task count]

/-- The entries of events that happen at one instant. -/
def Event.entries (instant : Nat) (events : List Event) : List Entry :=
  events.map (Entry.mk instant)

@[simp] theorem Event.entries_nil (instant : Nat) : Event.entries instant [] = [] := rfl

@[simp] theorem Event.entries_cons (instant : Nat) (e : Event) (events : List Event) :
    Event.entries instant (e :: events) = ⟨instant, e⟩ :: Event.entries instant events := rfl

@[simp] theorem Event.entries_append (instant : Nat) (events events' : List Event) :
    Event.entries instant (events ++ events') =
      Event.entries instant events ++ Event.entries instant events' :=
  List.map_append

theorem Consumer.proceed_marks (c : Consumer) (task : TaskId) (count : Nat) (b : Broker) :
    ∃ marks, c.Marks task (c.proceed task count b).1 marks ∧
      (c.proceed task count b).2.diary task = Event.entries b.clock marks ++ b.diary task := by
  unfold proceed
  split
  · exact ⟨_, .ended count, b.diary_record_of_eq rfl⟩
  · cases hq : b.queues[c.input]? with
    | none =>
      refine ⟨[], .stuck count, ?_⟩
      show (b.enter c.input task _).diary task = _
      rw [Broker.enter, hq]
      rfl
    | some q =>
      refine ⟨_, .called count, ?_⟩
      show (b.enter c.input task _).diary task = _
      rw [Broker.enter_eq hq, Broker.diary_record_of_eq _ rfl]
      rfl

theorem Consumer.resume_marks (c : Consumer) (task : TaskId) (count : Nat) (got : Option Message)
    (b : Broker) :
    ∃ marks, c.Marks task (c.resume task count got b).1 marks ∧
      (c.resume task count got b).2.diary task = Event.entries b.clock marks ++ b.diary task := by
  cases got with
  | none => exact ⟨_, .ended count, b.diary_record_of_eq rfl⟩
  | some m =>
    have hsends := c.process_sends m b
    obtain ⟨marks, hmarks, hdiary⟩ := c.proceed_marks task (count + 1) (c.process m b)
    rw [hsends.diary_eq, hsends.clock_eq] at hdiary
    exact ⟨marks, hmarks, hdiary⟩

namespace Poller

/-- What a poller does when it takes a step, with the events that its diary tells of, the latest
first, and the poller afterwards. -/
inductive Turn (task : TaskId) (now : Nat) (p : Poller) : List Event → Poller → Prop
  /-- It breaks, because it has no schedule. -/
  | broken {due : Nat} (hp : p.phase = .waiting due) (hdue : due ≤ now)
      (hrate : p.consumer.settings.fixedRate = true) (hzero : p.consumer.settings.interval = 0) :
      Turn task now p [] { p with phase := .broken }
  /-- It finds that it was told to stop. -/
  | finished {due : Nat} (hp : p.phase = .waiting due) (hdue : due ≤ now)
      (hstop : p.stopping = true) : Turn task now p [] { p with phase := .finished }
  /-- It begins a cycle. -/
  | begun {due : Nat} {cycle : Cycle} {marks : List Event} (hp : p.phase = .waiting due)
      (hdue : due ≤ now) (hstop : p.stopping = false) (hmarks : p.consumer.Marks task cycle marks) :
      Turn task now p (marks ++ [.began task]) (p.during due cycle now)
  /-- Its cycle goes on after a receive call. -/
  | resumed {due count since : Nat} {got : Option Message} {cycle : Cycle} {marks : List Event}
      (hp : p.phase = .polling due count) (hmarks : p.consumer.Marks task cycle marks) :
      Turn task now p (marks ++ [.received p.consumer.input task since got])
        (p.during due cycle now)

@[simp] theorem during_consumer (p : Poller) (due : Nat) (cycle : Cycle) (now : Nat) :
    (p.during due cycle now).consumer = p.consumer := by
  cases cycle <;> rfl

@[simp] theorem during_stopping (p : Poller) (due : Nat) (cycle : Cycle) (now : Nat) :
    (p.during due cycle now).stopping = p.stopping := by
  cases cycle <;> rfl

@[simp] theorem during_during (p : Poller) (due count now : Nat) (cycle : Cycle) (now' : Nat) :
    (p.during due (.going count) now).during due cycle now' = p.during due cycle now' := by
  cases cycle <;> rfl

theorem during_isOver (p : Poller) (due : Nat) (cycle : Cycle) (now : Nat) :
    (p.during due cycle now).isOver = false := by
  cases cycle <;> rfl

theorem Turn.consumer_eq {task : TaskId} {now : Nat} {p p' : Poller} {events : List Event}
    (h : p.Turn task now events p') : p'.consumer = p.consumer := by
  cases h with
  | broken => rfl
  | finished => rfl
  | begun => exact p.during_consumer _ _ _
  | resumed => exact p.during_consumer _ _ _

theorem Turn.stopping_eq {task : TaskId} {now : Nat} {p p' : Poller} {events : List Event}
    (h : p.Turn task now events p') : p'.stopping = p.stopping := by
  cases h with
  | broken => rfl
  | finished => rfl
  | begun => exact p.during_stopping _ _ _
  | resumed => exact p.during_stopping _ _ _

/-- A poller that wakes up takes a turn, and if it comes to its end then it does nothing to the
broker. -/
theorem turn_of_wake (p : Poller) (task : TaskId) {due : Nat} {b : Broker}
    (hp : p.phase = .waiting due) (hdue : due ≤ b.clock) :
    ∃ events, p.Turn task b.clock events (p.wake task due b).1 ∧
      (p.wake task due b).2.diary task = Event.entries b.clock events ++ b.diary task ∧
      ((p.wake task due b).1.isOver = true → (p.wake task due b).2 = b) := by
  unfold wake
  split
  · rename_i hnone
    exact ⟨[], .broken hp hdue hnone.1 hnone.2, rfl, fun _ ↦ rfl⟩
  · split
    · rename_i hstop
      exact ⟨[], .finished hp hdue hstop, rfl, fun _ ↦ rfl⟩
    · rename_i hstop
      have hclock : (p.consumer.start task b).2.clock = b.clock :=
        p.consumer.clock_proceed task 0 _
      obtain ⟨marks, hmarks, hdiary⟩ := p.consumer.proceed_marks task 0 (b.record (.began task))
      refine ⟨marks ++ [.began task], ?_, ?_, ?_⟩
      · show p.Turn task b.clock _ (p.during _ _ (p.consumer.start task b).2.clock)
        rw [hclock]
        exact .begun hp hdue (Bool.not_eq_true _ ▸ hstop) hmarks
      · refine hdiary.trans ?_
        rw [Broker.diary_record_of_eq _ rfl, Event.entries_append, List.append_assoc]
        rfl
      · intro hover
        rw [during_isOver] at hover
        cases hover

/-- A poller whose receive call has ended takes a turn. -/
theorem turn_of_serve {p : Poller} {task : TaskId} {due count : Nat} {got : Option Message}
    {b b₁ : Broker} (hp : p.phase = .polling due count)
    (hs : b.serve p.consumer.input task = some (got, b₁)) :
    ∃ events, p.Turn task b.clock events (p.resume task due count got b₁).1 ∧
      (p.resume task due count got b₁).2.diary task =
        Event.entries b.clock events ++ b.diary task := by
  obtain ⟨since, hdiary₁⟩ := Broker.diary_serve hs
  have hclock₁ : b₁.clock = b.clock := Broker.clock_serve hs
  have hclock := (p.consumer.clock_resume task count got b₁).trans hclock₁
  obtain ⟨marks, hmarks, hdiary⟩ := p.consumer.resume_marks task count got b₁
  rw [hclock₁] at hdiary
  refine ⟨marks ++ [.received p.consumer.input task since got], ?_, ?_⟩
  · show p.Turn task b.clock _ (p.during due _ (p.consumer.resume task count got b₁).2.clock)
    rw [hclock]
    exact .resumed hp hmarks
  · refine hdiary.trans ?_
    rw [hdiary₁, Event.entries_append, List.append_assoc]
    rfl

/-- A poller takes a turn with each of its steps, and when it comes to its end then the step does
nothing to the broker. -/
theorem turn_of_advance {task : TaskId} {b b' : Broker} {p : Poller} {k' : Task}
    (h : Task.Advance task b (.poller p) k' b') :
    ∃ p' events, k' = .poller p' ∧ p.Turn task b.clock events p' ∧
      b'.diary task = Event.entries b.clock events ++ b.diary task ∧
      (p'.isOver = true → b' = b) := by
  cases h with
  | @woken _ due hp hdue =>
    obtain ⟨events, hturn, hdiary, hover⟩ := p.turn_of_wake task hp hdue
    exact ⟨_, events, rfl, hturn, hdiary, hover⟩
  | @resumed _ due count got b₁ hp hs =>
    obtain ⟨events, hturn, hdiary⟩ := turn_of_serve hp hs
    refine ⟨_, events, rfl, hturn, hdiary, fun hover ↦ ?_⟩
    cases (p.during_isOver _ _ _).symm.trans hover

end Poller

namespace System

/-- The next cycle of a poller is due later than any instant at which no task can take a step. -/
theorem Settled.lt_due {s : System} {task : TaskId} {p : Poller} {due : Nat} (h : s.Settled)
    (hp : s.tasks[task]? = some (.poller p)) (hwait : p.phase = .waiting due) : s.clock < due := by
  refine Nat.lt_of_not_le fun hdue ↦ ?_
  have hadv : Task.Advance task s.broker (.poller p) _ _ := .woken hwait hdue
  have hstep := step?_eq_some_iff.mpr ⟨_, _, _, hp, Task.step_eq_some_iff.mpr hadv, rfl⟩
  cases (h task).symm.trans hstep

theorem mem_dues_of_waiting {s : System} {task : TaskId} {p : Poller} {due : Nat}
    (hp : s.tasks[task]? = some (.poller p)) (hwait : p.phase = .waiting due) : due ∈ s.dues := by
  have hdue : (Task.poller p).due? = some due := by simp [Task.due?, hwait]
  exact List.mem_append_right _ (List.mem_filterMap.mpr ⟨_, List.mem_of_getElem? hp, hdue⟩)

/-- A step of a poller is a turn, and one with which it comes to its end does nothing else. -/
theorem turn_of_step {s t : System} {task : TaskId} {p : Poller} (h : s.step? task = some t)
    (hp : s.tasks[task]? = some (.poller p)) :
    ∃ p' events, t.tasks[task]? = some (.poller p') ∧ p.Turn task s.clock events p' ∧
      t.broker.diary task = Event.entries s.clock events ++ s.broker.diary task ∧
      t.clock = s.clock ∧ (p'.isOver = true → t.broker = s.broker) := by
  obtain ⟨k, k', b, hk, hs, rfl⟩ := step?_eq_some_iff.mp h
  obtain rfl := Option.some.inj (hk.symm.trans hp)
  have hadv := Task.step_eq_some_iff.mp hs
  obtain ⟨p', events, rfl, hturn, hdiary, hover⟩ := Poller.turn_of_advance hadv
  have hlt := (List.getElem?_eq_some_iff.mp hp).1
  exact ⟨p', events, List.getElem?_set_self hlt, hturn, hdiary, hadv.clock_eq, hover⟩

/-- A poller sees a move as a turn of its own, or as time that passes, or as something that happens
at the same instant and concerns the poller only if it is told to stop. -/
theorem Move.cases_at_poller {s t : System} {task : TaskId} {p : Poller} (h : Move s t)
    (hp : s.tasks[task]? = some (.poller p)) :
    (∃ p' events, t.tasks[task]? = some (.poller p') ∧ p.Turn task s.clock events p' ∧
        t.broker.diary task = Event.entries s.clock events ++ s.broker.diary task ∧
        t.clock = s.clock ∧ (p'.isOver = true → t.broker = s.broker)) ∨
      (∃ instant, s.Settled ∧ s.clock < instant ∧
        (∀ due ∈ s.dues, s.clock < due → instant ≤ due) ∧ t = s.atInstant instant) ∨
      (t.clock = s.clock ∧ t.broker.diary task = s.broker.diary task ∧
        ∃ p', t.tasks[task]? = some (.poller p') ∧
          (p' = p ∨ p' = { p with stopping := true })) := by
  rcases h.cases_at hp with hstep | hwait | ⟨hclock, hdiary, hk⟩
  · exact .inl (turn_of_step hstep hp)
  · exact .inr (.inl hwait)
  · refine .inr (.inr ⟨hclock, hdiary, ?_⟩)
    rcases hk with hk | hk
    · exact ⟨p, hk, .inl rfl⟩
    · exact ⟨_, hk, .inr rfl⟩

end System

end Messaging
