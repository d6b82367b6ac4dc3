import Messaging.Task

/-!
# Systems

A system is a broker with the tasks that run on it.  At each instant every task runs as long as it
can; then the clock moves on to the next instant at which something is due.  The order in which the
tasks of one instant run is not part of the rules: any task that can take a step may be the next.
`settle` follows one of the orders, in which a task that has begun to run goes on until it has to
wait.

Nothing bounds the number of steps of an instant in general, for a consumer may feed its own queue.
So the functions that run a system take a budget: the largest number of steps at one instant, and of
instants within one wait.
-/

namespace Messaging

/-- A broker and the tasks that run on it. -/
structure System where
  broker : Broker := {}
  tasks : List Task := []

namespace System

/-- The present instant. -/
def clock (s : System) : Nat := s.broker.clock

/-- The system after its broker changed. -/
def withBroker (s : System) (b : Broker) : System := { s with broker := b }

/-! ### Steps -/

/-- The system after the next step of a task, if it can take one by now. -/
def step? (s : System) (task : TaskId) : Option System :=
  match s.tasks[task]? with
  | none => none
  | some t => (t.step task s.broker).map fun (t, b) ↦ ⟨b, s.tasks.set task t⟩

/-- No task can take a step at the present instant. -/
def Settled (s : System) : Prop := ∀ task, s.step? task = none

/-- The first task that can take a step. -/
def ready? (s : System) : Option TaskId :=
  (List.range s.tasks.length).find? fun task ↦ (s.step? task).isSome

/-- Runs the tasks of the present instant, beginning with `task`: each goes on until it has to wait,
and then the first one that can run follows. -/
def settleFrom : Nat → TaskId → System → System
  | 0, _, s => s
  | budget + 1, task, s =>
    match s.step? task with
    | some t => settleFrom budget task t
    | none =>
      match s.ready? with
      | some task => settleFrom budget task s
      | none => s

/-- Runs the tasks of the present instant. -/
def settle (budget : Nat) (s : System) : System := settleFrom budget 0 s

/-! ### Time -/

/-- The instants at which something is due. -/
def dues (s : System) : List Nat :=
  s.broker.queues.filterMap Queue.deadline? ++ s.tasks.filterMap Task.due?

/-- The next instant at which something is due. -/
def nextDue? (s : System) : Option Nat := (s.dues.filter fun t ↦ s.clock < t).min?

/-- The next instant to which the clock moves; it does not move beyond a limit. -/
def nextInstant? (s : System) : Option Nat → Option Nat
  | none => s.nextDue?
  | some limit =>
    if s.clock < limit then some (min limit (s.nextDue?.getD limit)) else none

/-- The system at another instant, before anything runs at it. -/
def atInstant (s : System) (instant : Nat) : System :=
  { s with broker := { s.broker with clock := instant } }

/-- Moves the clock from instant to instant until a condition holds or the limit is reached. -/
def waitFor (budget : Nat) (limit : Option Nat) (done : System → Bool) : Nat → System → System
  | 0, s => s
  | rounds + 1, s =>
    if done s then s
    else
      match s.nextInstant? limit with
      | some instant =>
        waitFor budget limit done rounds ((s.atInstant instant).settle budget)
      | none => s

/-- Waits until a condition holds, or for so many milliseconds. -/
def waitWithin (budget ms : Nat) (done : System → Bool) (s : System) : System :=
  waitFor budget (some (s.clock + ms)) done (ms + 1) s

/-- Waits until a condition holds. -/
def wait (budget : Nat) (done : System → Bool) (s : System) : System :=
  waitFor budget none done budget s

/-- Lets so many milliseconds pass. -/
def advance (budget ms : Nat) (s : System) : System := s.waitWithin budget ms fun _ ↦ false

/-! ### Tasks -/

/-- The number of the next task. -/
def nextTask (s : System) : TaskId := s.tasks.length

/-- Whether a task has come to its end. -/
def isOver (s : System) (task : TaskId) : Bool :=
  match s.tasks[task]? with
  | some t => t.isOver
  | none => true

/-- Calls receive on a queue as a task of its own. -/
def startReceive (s : System) (id : QueueId) (timeout : Nat) : System :=
  ⟨s.broker.enter id s.nextTask timeout, s.tasks ++ [.receive id none]⟩

/-- Starts one poll cycle as a task of its own. -/
def startPoll (s : System) (c : Consumer) : System :=
  let (cycle, b) := c.start s.nextTask s.broker
  ⟨b, s.tasks ++ [.poll c cycle]⟩

/-- Starts a poller, perhaps one that has already been told to stop. -/
def spawn (s : System) (c : Consumer) (stopping : Bool) : System :=
  { s with
    tasks := s.tasks ++ [.poller ⟨c, stopping, .waiting (s.clock + c.settings.initialDelay)⟩] }

/-- Tells a task to stop. -/
def stop (s : System) (task : TaskId) : System :=
  match s.tasks[task]? with
  | some t => { s with tasks := s.tasks.set task t.stop }
  | none => s

/-! ### Waiting for tasks -/

/-- What a receive call has received so far. -/
def received (s : System) (task : TaskId) : Option Message :=
  match s.tasks[task]? with
  | some (.receive _ (some (got, _))) => got
  | _ => none

/-- Receives a message from a queue. -/
def receive (budget : Nat) (id : QueueId) (timeout : Nat) (s : System) :
    Option Message × System :=
  let task := s.nextTask
  let s := ((s.startReceive id timeout).settle budget).wait budget fun s ↦ s.isOver task
  (s.received task, s)

/-- Receives up to `count` messages without waiting. -/
def receiveMany (budget : Nat) (id : QueueId) : Nat → System → List Message × System
  | 0, s => ([], s)
  | count + 1, s =>
    match s.receive budget id 0 with
    | (some m, s) =>
      let (rest, s) := receiveMany budget id count s
      (m :: rest, s)
    | (none, s) => ([], s)

/-- Receives all messages that a queue holds. -/
def drain (budget : Nat) (id : QueueId) (s : System) : List Message × System :=
  s.receiveMany budget id (s.broker.items id).length

/-- How many messages the poll cycle of a task has taken. -/
def polled (s : System) (task : TaskId) : Nat :=
  match s.tasks[task]? with
  | some (.poll _ cycle) => cycle.count
  | _ => 0

/-- Runs one poll cycle and gives the number of messages that it took. -/
def poll (budget : Nat) (c : Consumer) (s : System) : Nat × System :=
  let task := s.nextTask
  let s := ((s.startPoll c).settle budget).wait budget fun s ↦ s.isOver task
  (s.polled task, s)

/-- Waits for the end of a task, but not longer than so many milliseconds. -/
def join (budget : Nat) (task : TaskId) (within : Nat) (s : System) : System :=
  s.waitWithin budget within fun s ↦ s.isOver task

end System

end Messaging
