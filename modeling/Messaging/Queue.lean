import Messaging.Attempt
import Messaging.Message
import Messaging.Outcome

/-!
# Queues

A queue holds a bounded number of messages, first in, first out.  Whoever sends never waits: the
queue answers at once.  Whoever receives waits in line, and only the first of the line has the turn.
The turn ends with the oldest message of the queue, or without one, if the queue is empty and closed
or the time that the receiver waits is over; that time runs from the beginning of its turn.

Here a turn is one thing.  What a receive call does during its turn, step by step, is told by the
reception of the queue.
-/

namespace Messaging

/-- Why a queue is not created. -/
inductive ChannelError where
  /-- The queue could hold no message at all. -/
  | zeroCapacity (name : String)
  deriving DecidableEq, Repr

/-- The wording of a channel error. -/
def ChannelError.message : ChannelError → String
  | .zeroCapacity name => "Channel " ++ name ++ " capacity must be greater than zero"

/-- The largest capacity of a queue. -/
def largestCapacity : Nat := 0x1fffffffffffffff

/-- The message with which the program breaks off when it asks for a larger capacity. -/
def excessMessage : String :=
  "a semaphore may not have more than MAX_PERMITS permits (" ++ toString largestCapacity ++ ")"

/-- A receive call that waits in line. -/
structure Waiter where
  /-- The task that called. -/
  task : Nat
  /-- How long it waits from the beginning of its turn, in milliseconds. -/
  timeout : Nat
  /-- The instant of the call. -/
  called : Nat
  deriving DecidableEq, Repr

/-- A bounded queue of messages. -/
structure Queue where
  name : String
  capacity : Nat
  /-- Whether the queue was closed. -/
  closed : Bool := false
  /-- The messages, the oldest first. -/
  items : List Message := []
  /-- The receive calls that have not ended, in the order in which they were made. -/
  line : List Waiter := []
  /-- The instant at which the turn of the first of the line began. -/
  turn : Nat := 0

namespace Queue

/-- A new, empty queue.  Only a capacity of zero is refused; the program does not survive one that
is too large. -/
def create (name : String) (capacity : Nat) : Attempt ChannelError Queue :=
  if capacity = 0 then .error (.zeroCapacity name)
  else if largestCapacity < capacity then .abort excessMessage
  else .ok { name, capacity }

/-- The answer of the queue to a message. -/
def answer (q : Queue) : Outcome :=
  if q.closed then .closed else if q.items.length < q.capacity then .sent else .full

/-- The queue after a message was offered to it. -/
def offer (q : Queue) (m : Message) : Queue :=
  if q.answer = .sent then { q with items := q.items ++ [m] } else q

/-- The queue after it was closed: what it holds can still be received. -/
def close (q : Queue) : Queue := { q with closed := true }

/-- The queue after a receive call at an instant. -/
def enter (q : Queue) (w : Waiter) : Queue :=
  { q with
    line := q.line ++ [w]
    turn := if q.line.isEmpty then w.called else q.turn }

/-- The queue after the turn of the first of the line ended and the next one's began. -/
def passTurn (q : Queue) (now : Nat) : Queue := { q with line := q.line.tail, turn := now }

/-- Ends the turn of the first of the line if it can end by now: who that is, what it received, and
the queue afterwards. -/
def serve (q : Queue) (now : Nat) : Option (Waiter × Option Message × Queue) :=
  match q.line with
  | [] => none
  | w :: _ =>
    match q.items with
    | m :: rest => some (w, some m, { q.passTurn now with items := rest })
    | [] =>
      if q.closed ∨ q.turn + w.timeout ≤ now then some (w, none, q.passTurn now) else none

/-- The instant at which the turn of the first of the line ends for want of a message. -/
def deadline? (q : Queue) : Option Nat := q.line.head?.map fun w ↦ q.turn + w.timeout

/-! ### What a new queue is like -/

theorem create_eq_ok_iff {name : String} {capacity : Nat} {q : Queue} :
    create name capacity = .ok q ↔
      0 < capacity ∧ capacity ≤ largestCapacity ∧ q = { name, capacity } := by
  unfold create
  split
  · simp [*]
  · rename_i hpos
    split
    · rename_i hlarge
      simp [Nat.not_le_of_lt hlarge]
    · rename_i hlarge
      simp [Nat.pos_of_ne_zero hpos, Nat.le_of_not_lt hlarge, eq_comm]

theorem create_eq_abort_iff {name message : String} {capacity : Nat} :
    create name capacity = .abort message ↔
      largestCapacity < capacity ∧ message = excessMessage := by
  unfold create
  split
  · simp [*]
  · split
    · simp [*, eq_comm]
    · simp [*]

/-! ### What a queue answers -/

theorem answer_eq_closed_iff {q : Queue} : q.answer = .closed ↔ q.closed = true := by
  unfold answer
  split
  · simp [*]
  · split <;> simp [*]

theorem answer_eq_sent_iff {q : Queue} :
    q.answer = .sent ↔ q.closed = false ∧ q.items.length < q.capacity := by
  unfold answer
  split
  · simp [*]
  · split <;> simp [*]

theorem answer_eq_full_iff {q : Queue} :
    q.answer = .full ↔ q.closed = false ∧ q.capacity ≤ q.items.length := by
  unfold answer
  split
  · simp [*]
  · split
    · simp only [false_iff, reduceCtorEq]
      omega
    · simp_all

/-! ### What ends a turn -/

/-- A turn ends with the oldest message, or without one where there is none and none is waited for
any longer. -/
theorem serve_eq_some_iff {q q' : Queue} {now : Nat} {w : Waiter} {got : Option Message} :
    q.serve now = some (w, got, q') ↔ q.line.head? = some w ∧
      ((∃ m rest, q.items = m :: rest ∧ got = some m ∧
          q' = { q.passTurn now with items := rest }) ∨
        (q.items = [] ∧ (q.closed = true ∨ q.turn + w.timeout ≤ now) ∧ got = none ∧
          q' = q.passTurn now)) := by
  unfold serve
  cases hl : q.line with
  | nil => simp
  | cons v line =>
    cases hi : q.items with
    | nil =>
      by_cases hd : q.closed = true ∨ q.turn + v.timeout ≤ now
      · simp only [if_pos hd, Option.some.injEq, Prod.mk.injEq, List.head?_cons]
        constructor
        · rintro ⟨rfl, rfl, rfl⟩
          exact ⟨rfl, .inr ⟨trivial, hd, rfl, rfl⟩⟩
        · rintro ⟨rfl, ⟨_, _, h, _⟩ | ⟨_, _, rfl, rfl⟩⟩
          · cases h
          · exact ⟨rfl, rfl, rfl⟩
      · simp only [if_neg hd, List.head?_cons]
        constructor
        · intro h
          cases h
        · rintro ⟨h, ⟨_, _, h', _⟩ | ⟨_, h', _⟩⟩
          · cases h'
          · exact (hd (Option.some.inj h ▸ h')).elim
    | cons m rest =>
      simp only [Option.some.injEq, Prod.mk.injEq, List.head?_cons]
      constructor
      · rintro ⟨rfl, rfl, rfl⟩
        exact ⟨rfl, .inl ⟨m, rest, rfl, rfl, rfl⟩⟩
      · rintro ⟨rfl, ⟨_, _, h, rfl, rfl⟩ | ⟨h, _⟩⟩
        · cases h
          exact ⟨rfl, rfl, rfl⟩
        · cases h

end Queue

end Messaging
