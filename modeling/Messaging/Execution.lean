import Messaging.Reception
import Messaging.System

/-!
# Executions

An execution is a system whose receive calls are taken apart: it runs the same tasks on the same
broker, but a task that has called receive takes many small steps, as the reception of its queue has
it, until its call ends.  What the task does then is what it does in a system.

A task goes on only if it can.  One that has called receive has to hold the lock of the queue and to
be awake; so nothing happens to a call whose task is never woken, whatever its queue holds.

The lines and turns that the queues of the broker keep are written here, as in every system, but
nothing is decided by them: who may go on is decided by the receptions.
-/

namespace Messaging

/-- Whether a queue was closed. -/
def Broker.isClosed (b : Broker) (id : QueueId) : Bool := b.queues[id]?.any Queue.closed

/-- The broker after a receive call ended and left these messages behind. -/
def Broker.finish (b : Broker) (id : QueueId) (w : Waiter) (got : Option Message)
    (rest : List Message) : Broker :=
  match b.queues[id]? with
  | some q =>
    (b.setQueue id { q.passTurn b.clock with items := rest }).record
      (.received id w.task w.called got)
  | none => b

/-- A system with the receptions of its queues. -/
structure Execution where
  system : System := {}
  /-- The reception of each queue, in the order of the queues. -/
  receptions : List Reception := []

namespace Execution

/-- The present instant. -/
def clock (x : Execution) : Nat := x.system.clock

/-- The call that holds the lock of a queue. -/
def holder? (x : Execution) (id : QueueId) : Option Holder :=
  x.receptions[id]?.bind Reception.holder

/-! ### Steps -/

/-- The receptions after the broker became another: each message that was accepted has woken the
call that waits for it. -/
def awakened (b b' : Broker) (rs : List Reception) : List Reception :=
  rs.mapIdx fun id r ↦ if (b.items id).length < (b'.items id).length then r.wake else r

/-- The receptions after a task went on, and the broker became another. -/
def followed (task : TaskId) (k : Task) (b b' : Broker) (rs : List Reception) : List Reception :=
  match k.call? with
  | some (id, timeout) => (awakened b b' rs).modify id fun r ↦ r.call ⟨task, timeout, b'.clock⟩
  | none => awakened b b' rs

/-- The execution after the call that holds the lock of a queue has not ended. -/
def setHolder (x : Execution) (id : QueueId) (h : Holder) : Execution :=
  { x with receptions := x.receptions.modify id fun r ↦ { r with holder := some h } }

/-- The execution after the receive call of a task ended: the lock is handed on, and the task goes
on. -/
def finish (x : Execution) (task : TaskId) (k : Task) (id : QueueId) (w : Waiter)
    (got : Option Message) (rest : List Message) : Execution :=
  let b := x.system.broker.finish id w got rest
  let (k', b') := k.resume task got b
  { system := ⟨b', x.system.tasks.set task k'⟩
    receptions := followed task k' b b' (x.receptions.modify id Reception.release) }

/-- The execution after the next step of a task, if it can take one by now. -/
def step? (x : Execution) (first : Branch) (task : TaskId) : Option Execution :=
  let b := x.system.broker
  match x.system.tasks[task]? with
  | none => none
  | some k =>
    match k.awaits? with
    | none =>
      (k.wake? task b).map fun (k', b') ↦
        { system := ⟨b', x.system.tasks.set task k'⟩
          receptions := followed task k' b b' x.receptions }
    | some id =>
      match x.holder? id with
      | none => none
      | some h =>
        if h.waiter.task = task ∧ h.isReady x.clock = true then
          match h.next first (b.items id) (b.isClosed id) x.clock with
          | .goes h' => some (x.setHolder id h')
          | .ends got rest => some (x.finish task k id h.waiter got rest)
        else none

/-- No task can take a step at the present instant, and no closing has yet to give its signal. -/
def Settled (x : Execution) : Prop :=
  (∀ first task, x.step? first task = none) ∧ ∀ r ∈ x.receptions, r.signals = 0

/-- The instants at which something is due. -/
def dues (x : Execution) : List Nat :=
  x.receptions.filterMap (fun r ↦ r.holder.bind Holder.deadline?) ++
    x.system.tasks.filterMap Task.due?

/-! ### What the driver does -/

/-- The execution after nothing but its broker changed. -/
def withBroker (x : Execution) (b : Broker) : Execution :=
  { system := x.system.withBroker b
    receptions := awakened x.system.broker b x.receptions }

/-- Adds a queue. -/
def addQueue (x : Execution) (q : Queue) : Execution :=
  { system := x.system.withBroker (x.system.broker.addQueue q)
    receptions := x.receptions ++ [{}] }

/-- Marks a queue as closed; the signal is yet to be given. -/
def close (x : Execution) (id : QueueId) : Execution :=
  { system := x.system.withBroker (x.system.broker.close id)
    receptions := x.receptions.modify id Reception.close }

/-- A closing of a queue gives its signal. -/
def signal (x : Execution) (id : QueueId) : Execution :=
  { x with receptions := x.receptions.modify id Reception.signal }

/-- Calls receive on a queue as a task of its own. -/
def startReceive (x : Execution) (id : QueueId) (timeout : Nat) : Execution :=
  { system := x.system.startReceive id timeout
    receptions :=
      x.receptions.modify id fun r ↦ r.call ⟨x.system.nextTask, timeout, x.clock⟩ }

/-- Starts one poll cycle as a task of its own. -/
def startPoll (x : Execution) (c : Consumer) : Execution :=
  let (cycle, b) := c.start x.system.nextTask x.system.broker
  { system := x.system.startPoll c
    receptions := followed x.system.nextTask (.poll c cycle) x.system.broker b x.receptions }

/-- Starts a poller. -/
def spawn (x : Execution) (c : Consumer) (stopping : Bool) : Execution :=
  { x with system := x.system.spawn c stopping }

/-- Tells a task to stop. -/
def stop (x : Execution) (task : TaskId) : Execution := { x with system := x.system.stop task }

/-- The execution at another instant. -/
def atInstant (x : Execution) (instant : Nat) : Execution :=
  { x with system := x.system.atInstant instant }

end Execution

end Messaging
