import Messaging.Consumer

/-!
# Tasks

What runs in a messaging system beside whoever drives it: single receive calls, single poll cycles,
and pollers, which repeat poll cycles on a schedule until they are stopped.

A poll cycle takes messages one after the other until it is at its limit or a receive call ends
without a message.  With a fixed delay the next cycle begins an interval after the end of this one;
at a fixed rate it is due an interval after this one was due, and begins then or as soon as this one
has ended.  A poller looks whether it is stopped only when a cycle would begin.  There is no fixed
rate with an interval of zero: such a poller breaks before its first cycle.
-/

namespace Messaging

/-! ### Poll cycles -/

/-- A poll cycle after some messages. -/
inductive Cycle where
  /-- It waits for the next message. -/
  | going (count : Nat)
  /-- It is at its end. -/
  | complete (count : Nat)
  deriving DecidableEq, Repr

namespace Cycle

/-- How many messages the cycle has taken. -/
def count : Cycle → Nat
  | going n => n
  | complete n => n

/-- Whether the cycle is over. -/
def isOver : Cycle → Bool
  | going _ => false
  | complete _ => true

end Cycle

namespace Consumer

/-- A poll cycle goes on after some messages: it calls receive unless it is at its limit. -/
def proceed (c : Consumer) (task : TaskId) (count : Nat) (b : Broker) : Cycle × Broker :=
  if c.atLimit count then (.complete count, b.record (.ended task count))
  else (.going count, b.enter c.input task c.settings.receiveTimeout)

/-- A poll cycle begins. -/
def start (c : Consumer) (task : TaskId) (b : Broker) : Cycle × Broker :=
  c.proceed task 0 (b.record (.began task))

/-- A poll cycle goes on after its receive call ended. -/
def resume (c : Consumer) (task : TaskId) (count : Nat) (got : Option Message) (b : Broker) :
    Cycle × Broker :=
  match got with
  | none => (.complete count, b.record (.ended task count))
  | some m => c.proceed task (count + 1) (c.process m b)

end Consumer

/-! ### Pollers -/

/-- Where a poller is on its schedule. -/
inductive Phase where
  /-- It waits until the next cycle is due. -/
  | waiting (due : Nat)
  /-- It runs a cycle that was due at `due` and has taken some messages. -/
  | polling (due count : Nat)
  /-- It found that it was stopped, and is at its end. -/
  | finished
  /-- It has no schedule. -/
  | broken
  deriving DecidableEq, Repr

/-- The instant at which the next cycle is due after one that was due at `due` and ended now. -/
def PollerSettings.nextDue (s : PollerSettings) (due now : Nat) : Nat :=
  if s.fixedRate then due + s.interval else now + s.interval

/-- A consumer that is polled on its schedule. -/
structure Poller where
  consumer : Consumer
  /-- Whether it was told to stop. -/
  stopping : Bool
  phase : Phase

namespace Poller

/-- Whether the poller has come to its end. -/
def isOver (p : Poller) : Bool := p.phase = .finished || p.phase = .broken

/-- The poller when a cycle that was due at `due` has come so far. -/
def during (p : Poller) (due : Nat) (cycle : Cycle) (now : Nat) : Poller :=
  match cycle with
  | .going count => { p with phase := .polling due count }
  | .complete _ => { p with phase := .waiting (p.consumer.settings.nextDue due now) }

/-- What a poller does when its next cycle is due. -/
def wake (p : Poller) (task : TaskId) (due : Nat) (b : Broker) : Poller × Broker :=
  if p.consumer.settings.fixedRate ∧ p.consumer.settings.interval = 0 then
    ({ p with phase := .broken }, b)
  else if p.stopping then ({ p with phase := .finished }, b)
  else
    let (cycle, b) := p.consumer.start task b
    (p.during due cycle b.clock, b)

/-- What a poller does when the receive call of its cycle ended. -/
def resume (p : Poller) (task : TaskId) (due count : Nat) (got : Option Message) (b : Broker) :
    Poller × Broker :=
  let (cycle, b) := p.consumer.resume task count got b
  (p.during due cycle b.clock, b)

end Poller

/-! ### Tasks -/

/-- What runs in a system. -/
inductive Task where
  /-- A receive call on a queue, and once it has ended what it received and when. -/
  | receive (queue : QueueId) (result : Option (Option Message × Nat))
  /-- One poll cycle. -/
  | poll (consumer : Consumer) (cycle : Cycle)
  /-- Poll cycles on a schedule. -/
  | poller (poller : Poller)

/-- The queue for which a poll cycle waits. -/
def Consumer.awaited (c : Consumer) : Cycle → Option QueueId
  | .going _ => some c.input
  | .complete _ => none

/-- The receive call that the next message of a poll cycle takes: the queue and the timeout. -/
def Consumer.call? (c : Consumer) : Cycle → Option (QueueId × Nat)
  | .going _ => some (c.input, c.settings.receiveTimeout)
  | .complete _ => none

namespace Task

/-- The queue on which the task has called receive, if the call has not ended. -/
def awaits? : Task → Option QueueId
  | receive id none => some id
  | receive _ (some _) => none
  | poll c cycle => c.awaited cycle
  | poller p =>
    match p.phase with
    | .polling .. => some p.consumer.input
    | .waiting _ | .finished | .broken => none

/-- The receive call that a task has just made after it went on. -/
def call? : Task → Option (QueueId × Nat)
  | receive .. => none
  | poll c cycle => c.call? cycle
  | poller p =>
    match p.phase with
    | .polling .. => some (p.consumer.input, p.consumer.settings.receiveTimeout)
    | .waiting _ | .finished | .broken => none

/-- The task after its receive call ended, with the broker afterwards. -/
def resume (task : TaskId) (got : Option Message) (b : Broker) : Task → Task × Broker
  | receive id none => (receive id (some (got, b.clock)), b)
  | poll c (.going count) =>
    let (cycle, b) := c.resume task count got b
    (poll c cycle, b)
  | poller p =>
    match p.phase with
    | .polling due count =>
      let (p, b) := p.resume task due count got b
      (poller p, b)
    | .waiting _ | .finished | .broken => (poller p, b)
  | k => (k, b)

/-- The task after it woke up by itself, with the broker afterwards: only a poller does, when its
next cycle is due. -/
def wake? (task : TaskId) (b : Broker) : Task → Option (Task × Broker)
  | poller p =>
    match p.phase with
    | .waiting due =>
      if due ≤ b.clock then
        let (p, b) := p.wake task due b
        some (poller p, b)
      else none
    | .polling .. | .finished | .broken => none
  | receive .. | poll .. => none

/-- What a task does next: how it goes on, with the broker afterwards, or nothing as long as it has
to wait. -/
def step (task : TaskId) (b : Broker) (k : Task) : Option (Task × Broker) :=
  match k.awaits? with
  | some id => (b.serve id task).map fun (got, b) ↦ k.resume task got b
  | none => k.wake? task b

/-- A task that has called receive goes on when its call ends. -/
theorem step_eq_some_iff_serve {task : TaskId} {b : Broker} {k : Task} {id : QueueId}
    (h : k.awaits? = some id) {after : Task × Broker} :
    k.step task b = some after ↔
      ∃ got b', b.serve id task = some (got, b') ∧ k.resume task got b' = after := by
  rw [step, h]
  simp only [Option.map_eq_some_iff, Prod.exists]

theorem step_of_awaits_none {task : TaskId} {b : Broker} {k : Task} (h : k.awaits? = none) :
    k.step task b = k.wake? task b := by
  rw [step, h]

theorem step_poll_going (task : TaskId) (b : Broker) (c : Consumer) (count : Nat) :
    (poll c (.going count)).step task b = (b.serve c.input task).map fun (got, b) ↦
      (poll c (c.resume task count got b).1, (c.resume task count got b).2) := rfl

theorem step_poll_complete (task : TaskId) (b : Broker) (c : Consumer) (count : Nat) :
    (poll c (.complete count)).step task b = none := rfl

theorem awaits?_of_polling {p : Poller} {due count : Nat} (h : p.phase = .polling due count) :
    (poller p).awaits? = some p.consumer.input := by
  rw [awaits?, h]

theorem resume_of_polling {task : TaskId} {got : Option Message} {b : Broker} {p : Poller}
    {due count : Nat} (h : p.phase = .polling due count) :
    (poller p).resume task got b =
      (poller (p.resume task due count got b).1, (p.resume task due count got b).2) := by
  rw [resume, h]

/-- There is nothing to resume in a task that has not called receive. -/
theorem resume_of_awaits_none {task : TaskId} {got : Option Message} {b : Broker} {k : Task}
    (h : k.awaits? = none) : k.resume task got b = (k, b) := by
  cases k with
  | receive id result =>
    cases result with
    | none => cases h
    | some _ => rfl
  | poll c cycle =>
    cases cycle with
    | going count => cases h
    | complete count => rfl
  | poller p =>
    cases hp : p.phase with
    | polling due count => cases (awaits?_of_polling hp).symm.trans h
    | waiting | finished | broken => rw [resume, hp]

theorem wake?_of_waiting {task : TaskId} {b : Broker} {p : Poller} {due : Nat}
    (h : p.phase = .waiting due) :
    (poller p).wake? task b =
      if due ≤ b.clock then some (poller (p.wake task due b).1, (p.wake task due b).2)
      else none := by
  rw [wake?, h]

/-- The instant at which a task goes on of its own accord. -/
def due? : Task → Option Nat
  | poller p =>
    match p.phase with
    | .waiting due => some due
    | _ => none
  | _ => none

/-- Whether the task has come to its end. -/
def isOver : Task → Bool
  | receive _ result => result.isSome
  | poll _ cycle => cycle.isOver
  | poller p => p.isOver

/-- The task after it was told to stop, which only concerns pollers. -/
def stop : Task → Task
  | poller p => poller { p with stopping := true }
  | task => task

end Task

end Messaging
