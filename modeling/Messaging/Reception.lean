import Messaging.Queue

/-!
# Receptions

A receive call is not one step.  It takes the lock of its queue, behind all calls that asked for the
lock before; it looks for a message; it registers for the signal of a closing; it checks whether the
queue is closed; and then it waits, for a message, for the signal, or for its time to be over.  It
keeps the lock until it ends, and so the reception of a queue is the course of the one call that
holds the lock, together with the calls in line behind it.

A closing is not one step either: first the queue is marked as closed, and the signal is given after
that.  The signal reaches a call only if it has registered by then, and it is not repeated.  That is
why a call registers first and checks afterwards.

## Who is asleep

Whoever cannot go on sleeps, and does not look at the queue again until it is woken.  The call that
waits is woken by a message that is accepted, by the signal if it has registered for it, and by its
deadline; the calls in line sleep until the lock is handed to them.  Nothing else wakes anybody.
-/

namespace Messaging

/-- How far the call that holds the lock has come. -/
inductive Stage where
  /-- It is about to look for a message. -/
  | looking
  /-- It has found none and is about to register for the signal. -/
  | registering
  /-- It is registered and about to check whether the queue is closed. -/
  | checking
  /-- It waits, at most until the deadline. -/
  | waiting (deadline : Nat)
  deriving DecidableEq, Repr

/-- The call that holds the lock of a queue. -/
structure Holder where
  waiter : Waiter
  stage : Stage := .looking
  /-- Whether the signal of a closing has reached it. -/
  signalled : Bool := false
  /-- Whether it has been woken since it could not go on. -/
  awake : Bool := true
  deriving DecidableEq, Repr

/-- What a call that waits is waiting for. -/
inductive Branch where
  /-- For a message, or for its time to be over. -/
  | message
  /-- For the signal of a closing. -/
  | signal
  deriving DecidableEq, Repr

/-- The branch that is not this one. -/
def Branch.other : Branch → Branch
  | message => signal
  | signal => message

namespace Holder

/-- What a call that holds the lock comes to next. -/
inductive Next where
  /-- It has not ended. -/
  | goes (h : Holder)
  /-- It ends with a message or without one, and leaves the rest of the messages behind. -/
  | ends (got : Option Message) (rest : List Message)

/-- Whether the call has registered for the signal. -/
def isRegistered (h : Holder) : Bool :=
  match h.stage with
  | .looking | .registering => false
  | .checking | .waiting _ => true

/-- Whether the call has found no message, and does not wait yet. -/
def isMidway (h : Holder) : Bool := h.stage = .registering || h.stage = .checking

/-- The instant at which the call is woken if nothing else wakes it. -/
def deadline? (h : Holder) : Option Nat :=
  match h.stage with
  | .waiting deadline => some deadline
  | .looking | .registering | .checking => none

/-- Whether the call can go on by now. -/
def isReady (h : Holder) (now : Nat) : Bool := h.awake || h.deadline?.any (· ≤ now)

/-- Ends the wait by one of its branches, if that is possible by now: what the call has received,
and the rest of the messages. -/
def poll (h : Holder) (items : List Message) (deadline now : Nat) :
    Branch → Option (Option Message × List Message)
  | .message =>
    match items with
    | m :: rest => some (some m, rest)
    | [] => if deadline ≤ now then some (none, []) else none
  | .signal => if h.signalled then some (items.head?, items.tail) else none

/-- What the call does next, where the queue holds these messages; a call that waits tries the
branch `first` before the other one. -/
def next (first : Branch) (h : Holder) (items : List Message) (closed : Bool) (now : Nat) :
    Next :=
  match h.stage with
  | .looking =>
    match items with
    | m :: rest => .ends (some m) rest
    | [] => .goes { h with stage := .registering }
  | .registering => .goes { h with stage := .checking }
  | .checking =>
    if closed then .ends none items
    else .goes { h with stage := .waiting (now + h.waiter.timeout) }
  | .waiting deadline =>
    match (h.poll items deadline now first).or (h.poll items deadline now first.other) with
    | some (got, rest) => .ends got rest
    | none => .goes { h with awake := false }

/-- The call after a signal was given. -/
def signal (h : Holder) : Holder :=
  if h.isRegistered then { h with signalled := true, awake := true } else h

end Holder

/-- The receive calls of a queue that have not ended. -/
structure Reception where
  /-- The call that holds the lock. -/
  holder : Option Holder := none
  /-- The calls in line for the lock. -/
  line : List Waiter := []
  /-- How many closings have yet to give their signal. -/
  signals : Nat := 0

namespace Reception

/-- Calls receive: the call takes the lock, or stands in line for it. -/
def call (r : Reception) (w : Waiter) : Reception :=
  match r.holder with
  | none => { r with holder := some { waiter := w } }
  | some _ => { r with line := r.line ++ [w] }

/-- Hands the lock to the first call in line. -/
def release (r : Reception) : Reception :=
  { r with holder := r.line.head?.map fun w ↦ { waiter := w }, line := r.line.tail }

/-- The reception after a message was accepted. -/
def wake (r : Reception) : Reception :=
  { r with holder := r.holder.map fun h ↦ { h with awake := true } }

/-- The reception after the queue was marked as closed. -/
def close (r : Reception) : Reception := { r with signals := r.signals + 1 }

/-- The reception after a closing gave its signal. -/
def signal (r : Reception) : Reception :=
  { r with holder := r.holder.map Holder.signal, signals := r.signals - 1 }

/-- All calls that have not ended, beginning with the one that holds the lock. -/
def calls (r : Reception) : List Waiter := (r.holder.map Holder.waiter).toList ++ r.line

end Reception

end Messaging
