import Messaging.Proofs.Broker.Sending
import Messaging.System

/-!
# Runs of systems

A system moves when one of its tasks takes a step, when time passes, and when whoever drives it does
something: creates or closes a queue, sends a message, has an endpoint handle one, calls receive,
polls, starts a poller or stops it.  Nothing is said about the order: tasks of one instant run in
any order, and the driver acts in between.  Time passes only while no task can run, and never beyond
the next instant at which something is due.

A move is a sequence of operations on the broker, so a run of a system is a run of its broker.
-/

namespace Messaging

/-! ## Moves -/

namespace System

/-- One move of a system. -/
inductive Move : System → System → Prop
  /-- A task takes a step. -/
  | step {s t : System} (task : TaskId) (h : s.step? task = some t) : Move s t
  /-- Time passes. -/
  | wait {s : System} {instant : Nat} (settled : s.Settled) (later : s.clock < instant)
      (notPast : ∀ due ∈ s.dues, s.clock < due → instant ≤ due) : Move s (s.atInstant instant)
  /-- The driver creates a queue. -/
  | create (s : System) {name : String} {capacity : Nat} {q : Queue}
      (h : Queue.create name capacity = .ok q) : Move s (s.withBroker (s.broker.addQueue q))
  /-- The driver closes a queue. -/
  | close (s : System) (id : QueueId) : Move s (s.withBroker (s.broker.close id))
  /-- The driver builds a message. -/
  | issue (s : System) : Move s (s.withBroker s.broker.issue)
  /-- The driver sends a message to a channel. -/
  | send (s : System) (channel : Channel) (m : Message) :
      Move s (s.withBroker (channel.send m s.broker).2)
  /-- The driver has an endpoint handle a message. -/
  | handle (s : System) (e : Endpoint) (m : Message) :
      Move s (s.withBroker (e.handle m s.broker).2)
  /-- The driver calls receive. -/
  | receive (s : System) (id : QueueId) (timeout : Nat) : Move s (s.startReceive id timeout)
  /-- The driver starts a poll cycle. -/
  | poll (s : System) (c : Consumer) : Move s (s.startPoll c)
  /-- The driver starts a poller. -/
  | spawn (s : System) (c : Consumer) (stopping : Bool) : Move s (s.spawn c stopping)
  /-- The driver tells a task to stop. -/
  | stop (s : System) (task : TaskId) : Move s (s.stop task)

/-- One system becomes another by any number of moves. -/
def Reaches : System → System → Prop := Relation.ReflTransGen Move

/-- The systems that occur in a run, which begins without queues and tasks. -/
def Reachable (s : System) : Prop := Reaches {} s

end System

/-! ## Poll cycles as runs -/

namespace Consumer

theorem proceed_reaches (c : Consumer) (task : TaskId) (count : Nat) (b : Broker) :
    b.Reaches (c.proceed task count b).2 := by
  unfold proceed
  split
  · exact (Broker.Step.note b rfl).reaches
  · exact (Broker.Step.enter b c.input task c.settings.receiveTimeout).reaches

theorem start_reaches (c : Consumer) (task : TaskId) (b : Broker) :
    b.Reaches (c.start task b).2 :=
  (Broker.Step.note b rfl).reaches.trans (c.proceed_reaches task 0 _)

theorem resume_reaches (c : Consumer) (task : TaskId) (count : Nat) (got : Option Message)
    (b : Broker) : b.Reaches (c.resume task count got b).2 := by
  unfold resume
  cases got with
  | none => exact (Broker.Step.note b rfl).reaches
  | some m => exact (c.process_sends m b).reaches.trans (c.proceed_reaches task (count + 1) _)

end Consumer

namespace Poller

theorem wake_reaches (p : Poller) (task : TaskId) (due : Nat) (b : Broker) :
    b.Reaches (p.wake task due b).2 := by
  unfold wake
  split
  · exact .refl b
  · split
    · exact .refl b
    · exact p.consumer.start_reaches task b

end Poller

/-! ## Systems as runs -/

theorem Task.resume_reaches (k : Task) (task : TaskId) (got : Option Message) (b : Broker) :
    b.Reaches (k.resume task got b).2 := by
  cases hk : k.awaits? with
  | none =>
    rw [resume_of_awaits_none hk]
    exact .refl b
  | some id =>
    cases k with
    | receive queue result => cases result <;> exact .refl b
    | poll c cycle =>
      cases cycle with
      | going count => exact c.resume_reaches task count got b
      | complete count => exact .refl b
    | poller p =>
      cases hp : p.phase with
      | polling due count =>
        rw [resume_of_polling hp]
        exact p.consumer.resume_reaches task count got b
      | waiting | finished | broken => simp [awaits?, hp] at hk

theorem Task.wake?_reaches {task : TaskId} {k k' : Task} {b b' : Broker}
    (h : k.wake? task b = some (k', b')) : b.Reaches b' := by
  unfold wake? at h
  split at h
  · split at h
    · split at h
      · cases h
        exact Poller.wake_reaches _ _ _ _
      · cases h
    all_goals cases h
  all_goals cases h

/-- Whatever a task does next is a run of the broker. -/
theorem Task.step_reaches {task : TaskId} {k k' : Task} {b b' : Broker}
    (h : k.step task b = some (k', b')) : b.Reaches b' := by
  cases hk : k.awaits? with
  | some id =>
    obtain ⟨got, b₁, hs, he⟩ := (step_eq_some_iff_serve hk).mp h
    have hresume := k.resume_reaches task got b₁
    rw [he] at hresume
    exact (Broker.Step.serve hs).reaches.trans hresume
  | none => exact wake?_reaches ((step_of_awaits_none hk).symm.trans h)

namespace System

theorem step?_eq_some_iff {s t : System} {task : TaskId} :
    s.step? task = some t ↔ ∃ k k' b, s.tasks[task]? = some k ∧
      k.step task s.broker = some (k', b) ∧ t = ⟨b, s.tasks.set task k'⟩ := by
  unfold step?
  cases hk : s.tasks[task]? with
  | none => simp
  | some k =>
    constructor
    · intro h
      obtain ⟨⟨k', b⟩, hs, ht⟩ := Option.map_eq_some_iff.mp h
      exact ⟨k, k', b, rfl, hs, ht.symm⟩
    · rintro ⟨_, k', b, hk', hs, rfl⟩
      cases hk'
      exact Option.map_eq_some_iff.mpr ⟨(k', b), hs, rfl⟩

/-- No task can take a step if and only if none is found to be ready. -/
theorem settled_iff_ready? {s : System} : s.Settled ↔ s.ready? = none := by
  constructor
  · intro h
    refine List.find?_eq_none.mpr fun task _ ↦ ?_
    rw [h task]
    exact Bool.false_ne_true
  · intro h task
    rcases Nat.lt_or_ge task s.tasks.length with hlt | hge
    · have hnot := List.find?_eq_none.mp h task (List.mem_range.mpr hlt)
      simpa using hnot
    · rw [step?, List.getElem?_eq_none hge]

/-- Each move of a system is a run of its broker. -/
theorem Move.reaches {s t : System} (h : Move s t) : s.broker.Reaches t.broker := by
  cases h with
  | step task h =>
    obtain ⟨k, k', b, -, hs, rfl⟩ := step?_eq_some_iff.mp h
    exact Task.step_reaches hs
  | wait _ later _ => exact (Broker.Step.wait s.broker (Nat.le_of_lt later)).reaches
  | create h => exact (Broker.Step.create s.broker h).reaches
  | close id => exact (Broker.Step.close s.broker id).reaches
  | issue => exact (Broker.Step.issue s.broker).reaches
  | send channel m => exact (channel.send_sends m s.broker).reaches
  | handle e m => exact (e.handle_sends m s.broker).reaches
  | receive id timeout => exact (Broker.Step.enter s.broker id s.nextTask timeout).reaches
  | poll c => exact c.start_reaches s.nextTask s.broker
  | spawn => exact .refl _
  | stop task =>
    unfold System.stop
    split <;> exact .refl _

/-- A run of a system is a run of its broker. -/
theorem Reaches.broker {s t : System} (h : s.Reaches t) : s.broker.Reaches t.broker := by
  unfold Reaches at h
  induction h with
  | refl => exact .refl _
  | tail _ move ih => exact ih.trans move.reaches

/-- In every run of a system the broker is at a point of one of its runs. -/
theorem Reachable.broker {s : System} (h : s.Reachable) : s.broker.Reachable := Reaches.broker h

end System

end Messaging
