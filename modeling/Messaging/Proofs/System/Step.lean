import Messaging.Proofs.System.Run

/-!
# A task among others

Each task is at its own place in a run.  Here is what a move of the system can mean to one task: the
task takes a step itself, or time passes, or something else happens at the same instant, which
leaves the task as it is, unless it is told to stop, and leaves its diary alone.
-/

namespace Messaging

/-! ## What a task can do next -/

namespace Task

/-- What a task can do next, and the broker afterwards. -/
inductive Advance (task : TaskId) (b : Broker) : Task → Task → Broker → Prop
  /-- A receive call ends. -/
  | received {id : QueueId} {got : Option Message} {b' : Broker}
      (hs : b.serve id task = some (got, b')) :
      Advance task b (receive id none) (receive id (some (got, b'.clock))) b'
  /-- The receive call of a poll cycle ends, and the cycle goes on. -/
  | polled {c : Consumer} {count : Nat} {got : Option Message} {b' : Broker}
      (hs : b.serve c.input task = some (got, b')) :
      Advance task b (poll c (.going count)) (poll c (c.resume task count got b').1)
        (c.resume task count got b').2
  /-- The receive call of a poller's cycle ends, and the cycle goes on. -/
  | resumed {p : Poller} {due count : Nat} {got : Option Message} {b' : Broker}
      (hp : p.phase = .polling due count) (hs : b.serve p.consumer.input task = some (got, b')) :
      Advance task b (poller p) (poller (p.resume task due count got b').1)
        (p.resume task due count got b').2
  /-- A poller wakes up because its next cycle is due. -/
  | woken {p : Poller} {due : Nat} (hp : p.phase = .waiting due) (hdue : due ≤ b.clock) :
      Advance task b (poller p) (poller (p.wake task due b).1) (p.wake task due b).2

theorem step_eq_some_iff {task : TaskId} {b b' : Broker} {k k' : Task} :
    k.step task b = some (k', b') ↔ Advance task b k k' b' := by
  constructor
  · intro h
    cases k with
    | receive id result =>
      cases result with
      | none =>
        obtain ⟨⟨got, b₁⟩, hs, he⟩ := Option.map_eq_some_iff.mp h
        cases he
        exact .received hs
      | some _ => cases h
    | poll c cycle =>
      cases cycle with
      | going count =>
        obtain ⟨⟨got, b₁⟩, hs, he⟩ := Option.map_eq_some_iff.mp h
        cases he
        exact .polled hs
      | complete count => cases h
    | poller p =>
      cases hp : p.phase with
      | polling due count =>
        obtain ⟨got, b₁, hs, he⟩ := (step_eq_some_iff_serve (awaits?_of_polling hp)).mp h
        rw [resume_of_polling hp] at he
        cases he
        exact .resumed hp hs
      | waiting due =>
        rw [step_of_awaits_none (by rw [awaits?, hp]), wake?_of_waiting hp] at h
        split at h
        · cases h
          exact .woken hp ‹_›
        · cases h
      | finished | broken =>
        rw [step_of_awaits_none (by rw [awaits?, hp]), wake?, hp] at h
        cases h
  · intro h
    cases h with
    | received hs => exact (step_eq_some_iff_serve rfl).mpr ⟨_, _, hs, rfl⟩
    | polled hs => exact (step_eq_some_iff_serve rfl).mpr ⟨_, _, hs, rfl⟩
    | resumed hp hs =>
      exact (step_eq_some_iff_serve (awaits?_of_polling hp)).mpr ⟨_, _, hs, resume_of_polling hp⟩
    | woken hp hdue =>
      rw [step_of_awaits_none (by rw [awaits?, hp]), wake?_of_waiting hp, if_pos hdue]

end Task

/-! ## Who writes into a diary -/

section

variable {task other : TaskId} (hne : other ≠ task)

include hne

theorem Consumer.diary_proceed_of_ne (c : Consumer) (count : Nat) (b : Broker) :
    (c.proceed other count b).2.diary task = b.diary task := by
  have hended : (Event.ended other count).task? ≠ some task := fun he ↦ hne (Option.some.inj he)
  unfold proceed
  split
  · exact b.diary_record_of_ne hended
  · exact b.diary_enter_of_ne hne _ _

theorem Consumer.diary_start_of_ne (c : Consumer) (b : Broker) :
    (c.start other b).2.diary task = b.diary task := by
  have hbegan : (Event.began other).task? ≠ some task := fun he ↦ hne (Option.some.inj he)
  exact (c.diary_proceed_of_ne hne 0 _).trans (b.diary_record_of_ne hbegan)

theorem Consumer.diary_resume_of_ne (c : Consumer) (count : Nat) (got : Option Message)
    (b : Broker) : (c.resume other count got b).2.diary task = b.diary task := by
  cases got with
  | none =>
    have hended : (Event.ended other count).task? ≠ some task := fun he ↦ hne (Option.some.inj he)
    exact b.diary_record_of_ne hended
  | some m => exact (c.diary_proceed_of_ne hne _ _).trans ((c.process_sends m b).diary_eq task)

theorem Poller.diary_wake_of_ne (p : Poller) (due : Nat) (b : Broker) :
    (p.wake other due b).2.diary task = b.diary task := by
  unfold wake
  split
  · rfl
  · split
    · rfl
    · exact p.consumer.diary_start_of_ne hne b

/-- A step of one task leaves the diaries of the others alone. -/
theorem Task.Advance.diary_of_ne {b b' : Broker} {k k' : Task} (h : Advance other b k k' b') :
    b'.diary task = b.diary task := by
  cases h with
  | received hs => exact Broker.diary_serve_of_ne hne hs
  | polled hs =>
    exact (Consumer.diary_resume_of_ne hne _ _ _ _).trans (Broker.diary_serve_of_ne hne hs)
  | resumed _ hs =>
    exact (Consumer.diary_resume_of_ne hne _ _ _ _).trans (Broker.diary_serve_of_ne hne hs)
  | woken => exact Poller.diary_wake_of_ne hne _ _ _

end

/-! ## Steps take no time -/

theorem Broker.clock_enter (b : Broker) (id : QueueId) (task : TaskId) (timeout : Nat) :
    (b.enter id task timeout).clock = b.clock := by
  unfold enter
  split <;> rfl

theorem Broker.clock_close (b : Broker) (id : QueueId) : (b.close id).clock = b.clock := by
  unfold close
  split <;> rfl

theorem Broker.clock_serve {b b' : Broker} {id : QueueId} {task : TaskId} {got : Option Message}
    (h : b.serve id task = some (got, b')) : b'.clock = b.clock := by
  obtain ⟨q, w, q', -, -, -, rfl⟩ := serve_eq_some_iff.mp h
  rfl

theorem Consumer.clock_proceed (c : Consumer) (task : TaskId) (count : Nat) (b : Broker) :
    (c.proceed task count b).2.clock = b.clock := by
  unfold proceed
  split
  · rfl
  · exact b.clock_enter _ _ _

theorem Consumer.clock_resume (c : Consumer) (task : TaskId) (count : Nat) (got : Option Message)
    (b : Broker) : (c.resume task count got b).2.clock = b.clock := by
  cases got with
  | none => rfl
  | some m => exact (c.clock_proceed task _ _).trans (c.process_sends m b).clock_eq

theorem Poller.clock_wake (p : Poller) (task : TaskId) (due : Nat) (b : Broker) :
    (p.wake task due b).2.clock = b.clock := by
  unfold wake
  split
  · rfl
  · split
    · rfl
    · exact p.consumer.clock_proceed task 0 _

theorem Task.Advance.clock_eq {task : TaskId} {b b' : Broker} {k k' : Task}
    (h : Advance task b k k' b') : b'.clock = b.clock := by
  cases h with
  | received hs => exact Broker.clock_serve hs
  | polled hs => exact (Consumer.clock_resume _ _ _ _ _).trans (Broker.clock_serve hs)
  | resumed _ hs => exact (Consumer.clock_resume _ _ _ _ _).trans (Broker.clock_serve hs)
  | woken => exact Poller.clock_wake _ _ _ _

namespace System

/-! ## A move as one task sees it -/

variable {s t : System} {task : TaskId} {k : Task}

theorem getElem?_append_of_some {ks : List Task} (h : ks[task]? = some k) (k' : Task) :
    (ks ++ [k'])[task]? = some k := by
  rw [List.getElem?_append_left (List.getElem?_eq_some_iff.mp h).1, h]

theorem ne_nextTask (h : s.tasks[task]? = some k) : s.nextTask ≠ task :=
  Nat.ne_of_gt (List.getElem?_eq_some_iff.mp h).1

/-- A task sees a move as a step of its own, or as time that passes, or as something that happens at
the same instant and of which its diary does not tell; it may be told to stop then. -/
theorem Move.cases_at (h : Move s t) (hk : s.tasks[task]? = some k) :
    s.step? task = some t ∨
      (∃ instant, s.Settled ∧ s.clock < instant ∧
        (∀ due ∈ s.dues, s.clock < due → instant ≤ due) ∧ t = s.atInstant instant) ∨
      (t.clock = s.clock ∧ t.broker.diary task = s.broker.diary task ∧
        (t.tasks[task]? = some k ∨ t.tasks[task]? = some k.stop)) := by
  cases h with
  | step other h =>
    by_cases hne : other = task
    · exact .inl (hne ▸ h)
    · obtain ⟨_, k', b, -, hs, rfl⟩ := step?_eq_some_iff.mp h
      have hadv := Task.step_eq_some_iff.mp hs
      exact .inr (.inr ⟨hadv.clock_eq, hadv.diary_of_ne hne,
        .inl ((List.getElem?_set_ne hne).trans hk)⟩)
  | wait settled later notPast => exact .inr (.inl ⟨_, settled, later, notPast, rfl⟩)
  | create _ => exact .inr (.inr ⟨rfl, rfl, .inl hk⟩)
  | close id => exact .inr (.inr ⟨s.broker.clock_close id, s.broker.diary_close id, .inl hk⟩)
  | issue => exact .inr (.inr ⟨rfl, rfl, .inl hk⟩)
  | send channel m =>
    have hsends := channel.send_sends m s.broker
    exact .inr (.inr ⟨hsends.clock_eq, hsends.diary_eq task, .inl hk⟩)
  | handle e m =>
    have hsends := e.handle_sends m s.broker
    exact .inr (.inr ⟨hsends.clock_eq, hsends.diary_eq task, .inl hk⟩)
  | receive id timeout =>
    exact .inr (.inr ⟨s.broker.clock_enter _ _ _, s.broker.diary_enter_of_ne (ne_nextTask hk) _ _,
      .inl (getElem?_append_of_some hk _)⟩)
  | poll c =>
    exact .inr (.inr ⟨c.clock_proceed _ _ _, c.diary_start_of_ne (ne_nextTask hk) _,
      .inl (getElem?_append_of_some hk _)⟩)
  | spawn c stopping => exact .inr (.inr ⟨rfl, rfl, .inl (getElem?_append_of_some hk _)⟩)
  | stop other =>
    unfold System.stop
    split
    · rename_i k' hk'
      refine .inr (.inr ⟨rfl, rfl, ?_⟩)
      by_cases hne : other = task
      · subst hne
        obtain rfl := Option.some.inj (hk'.symm.trans hk)
        exact .inr (List.getElem?_set_self (List.getElem?_eq_some_iff.mp hk).1)
      · exact .inl ((List.getElem?_set_ne hne).trans hk)
    · exact .inr (.inr ⟨rfl, rfl, .inl hk⟩)

/-- Time passes only where no task can take a step, and not beyond what is due; nothing else happens
then. -/
theorem Move.clock_eq_or_wait (h : Move s t) :
    t.clock = s.clock ∨ ∃ instant, s.Settled ∧ s.clock < instant ∧
      (∀ due ∈ s.dues, s.clock < due → instant ≤ due) ∧ t = s.atInstant instant := by
  cases h with
  | step other h =>
    obtain ⟨_, k', b, -, hs, rfl⟩ := step?_eq_some_iff.mp h
    exact .inl (Task.step_eq_some_iff.mp hs).clock_eq
  | wait settled later notPast => exact .inr ⟨_, settled, later, notPast, rfl⟩
  | close id => exact .inl (s.broker.clock_close id)
  | send channel m => exact .inl (channel.send_sends m s.broker).clock_eq
  | handle e m => exact .inl (e.handle_sends m s.broker).clock_eq
  | receive id timeout => exact .inl (s.broker.clock_enter _ _ _)
  | poll c => exact .inl (c.clock_proceed _ _ _)
  | create | issue | spawn => exact .inl rfl
  | stop other =>
    unfold System.stop
    split <;> exact .inl rfl

theorem Move.length_tasks_le (h : Move s t) : s.tasks.length ≤ t.tasks.length := by
  cases h with
  | step other h =>
    obtain ⟨_, k', b, -, -, rfl⟩ := step?_eq_some_iff.mp h
    exact Nat.le_of_eq List.length_set.symm
  | receive => simp [startReceive]
  | poll => simp [startPoll]
  | spawn => simp [System.spawn]
  | stop other =>
    unfold System.stop
    split
    · exact Nat.le_of_eq List.length_set.symm
    · exact Nat.le_refl _
  | wait | create | close | issue | send | handle => exact Nat.le_refl _

/-- Nothing is told of a task that does not exist yet. -/
theorem Move.diary_of_length_le (h : Move s t) (htask : t.tasks.length ≤ task) :
    t.broker.diary task = s.broker.diary task := by
  have hnext : t.tasks.length = s.tasks.length + 1 → s.nextTask ≠ task := by
    intro hlen
    show s.tasks.length ≠ task
    omega
  cases h with
  | step other h =>
    obtain ⟨_, k', b, hk, hs, rfl⟩ := step?_eq_some_iff.mp h
    have hlt : other < s.tasks.length := (List.getElem?_eq_some_iff.mp hk).1
    have hle : s.tasks.length ≤ task := by rwa [List.length_set] at htask
    exact (Task.step_eq_some_iff.mp hs).diary_of_ne (Nat.ne_of_lt (Nat.lt_of_lt_of_le hlt hle))
  | close id => exact s.broker.diary_close id
  | send channel m => exact (channel.send_sends m s.broker).diary_eq task
  | handle e m => exact (e.handle_sends m s.broker).diary_eq task
  | receive id timeout =>
    exact s.broker.diary_enter_of_ne (hnext (by simp [startReceive])) id timeout
  | poll c => exact c.diary_start_of_ne (hnext (by simp [startPoll])) s.broker
  | stop other =>
    unfold System.stop
    split <;> rfl
  | wait | create | issue | spawn => rfl

theorem Reachable.diary_eq_nil (h : s.Reachable) (htask : s.tasks.length ≤ task) :
    s.broker.diary task = [] := by
  unfold Reachable Reaches at h
  induction h with
  | refl => rfl
  | tail _ move ih =>
    rw [move.diary_of_length_le htask, ih (Nat.le_trans move.length_tasks_le htask)]

end System

end Messaging
