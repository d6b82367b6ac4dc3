import Messaging.Binder.Slot
import Messaging.Queue

/-!
# Brokers

A broker holds what all parts of a messaging system share: the clock, the queues, the number of
identities that were given to new messages, and a journal of what happened.
-/

namespace Messaging

/-- The number of a queue in its broker. -/
abbrev QueueId := Nat

/-- The number of a task in its system. -/
abbrev TaskId := Nat

/-- What a journal tells of. -/
inductive Event where
  /-- A message was offered to a queue. -/
  | offered (queue : QueueId) (message : Message) (outcome : Outcome)
  /-- A queue was closed. -/
  | closed (queue : QueueId)
  /-- A receive call was made. -/
  | called (queue : QueueId) (task : TaskId) (timeout : Nat)
  /-- A receive call that was made at the instant `since` ended. -/
  | received (queue : QueueId) (task : TaskId) (since : Nat) (got : Option Message)
  /-- The handler of the endpoint with this label was invoked. -/
  | invoked (endpoint : String) (arguments : List Argument)
  /-- A poll cycle began. -/
  | began (task : TaskId)
  /-- A poll cycle ended after so many messages. -/
  | ended (task : TaskId) (count : Nat)

/-- An event with its instant. -/
structure Entry where
  instant : Nat
  event : Event

/-- What the parts of a messaging system share. -/
structure Broker where
  /-- The present instant, in milliseconds. -/
  clock : Nat := 0
  /-- How many new messages were stamped. -/
  issued : Nat := 0
  queues : List Queue := []
  /-- What happened so far, the latest entry first. -/
  journal : List Entry := []

namespace Broker

/-- Writes an event into the journal. -/
def record (b : Broker) (event : Event) : Broker :=
  { b with journal := ⟨b.clock, event⟩ :: b.journal }

/-- The stamp of the new message after `n` others. -/
def stampOf (b : Broker) (n : Nat) : Stamp := ⟨Uuid.issued n, Timestamp.ofMillis b.clock⟩

/-- The stamp of the next new message. -/
def stamp (b : Broker) : Stamp := b.stampOf b.issued

/-- The broker after the next new message was stamped. -/
def issue (b : Broker) : Broker := { b with issued := b.issued + 1 }

/-- Adds a queue, whose number is how many there were before. -/
def addQueue (b : Broker) (q : Queue) : Broker := { b with queues := b.queues ++ [q] }

/-- Replaces a queue. -/
def setQueue (b : Broker) (id : QueueId) (q : Queue) : Broker :=
  { b with queues := b.queues.set id q }

/-- Offers a message to a queue.  A queue that does not exist answers like a closed one. -/
def offer (b : Broker) (id : QueueId) (m : Message) : Outcome × Broker :=
  match b.queues[id]? with
  | some q => (q.answer, (b.setQueue id (q.offer m)).record (.offered id m q.answer))
  | none => (.closed, b)

/-- Closes a queue. -/
def close (b : Broker) (id : QueueId) : Broker :=
  match b.queues[id]? with
  | some q => (b.setQueue id q.close).record (.closed id)
  | none => b

/-- Calls receive on a queue for a task. -/
def enter (b : Broker) (id : QueueId) (task : TaskId) (timeout : Nat) : Broker :=
  match b.queues[id]? with
  | some q =>
    (b.setQueue id (q.enter ⟨task, timeout, b.clock⟩)).record (.called id task timeout)
  | none => b

/-- Ends the receive call of a task on a queue, if the task has the turn and it can end by now. -/
def serve (b : Broker) (id : QueueId) (task : TaskId) : Option (Option Message × Broker) :=
  match b.queues[id]? with
  | some q =>
    match q.serve b.clock with
    | some (w, got, q) =>
      if w.task = task then
        some (got, (b.setQueue id q).record (.received id task w.called got))
      else none
    | none => none
  | none => none

/-! ### What the operations leave as it is -/

@[simp] theorem clock_record (b : Broker) (e : Event) : (b.record e).clock = b.clock := rfl

@[simp] theorem queues_record (b : Broker) (e : Event) : (b.record e).queues = b.queues := rfl

@[simp] theorem issued_record (b : Broker) (e : Event) : (b.record e).issued = b.issued := rfl

@[simp] theorem clock_issue (b : Broker) : b.issue.clock = b.clock := rfl

@[simp] theorem queues_issue (b : Broker) : b.issue.queues = b.queues := rfl

@[simp] theorem clock_setQueue (b : Broker) (id : QueueId) (q : Queue) :
    (b.setQueue id q).clock = b.clock := rfl

@[simp] theorem issued_setQueue (b : Broker) (id : QueueId) (q : Queue) :
    (b.setQueue id q).issued = b.issued := rfl

theorem getElem?_setQueue_self {b : Broker} {id : QueueId} {q : Queue} (q' : Queue)
    (h : b.queues[id]? = some q) : (b.setQueue id q').queues[id]? = some q' := by
  have hlt : id < b.queues.length := (List.getElem?_eq_some_iff.mp h).1
  simp [setQueue, hlt]

theorem getElem?_setQueue_of_ne (b : Broker) {id i : QueueId} (q : Queue) (h : id ≠ i) :
    (b.setQueue id q).queues[i]? = b.queues[i]? := by
  simp [setQueue, List.getElem?_set_ne h]

theorem setQueue_self {b : Broker} {id : QueueId} {q : Queue} (h : b.queues[id]? = some q) :
    b.setQueue id q = b := by
  obtain ⟨hlt, rfl⟩ := List.getElem?_eq_some_iff.mp h
  rw [setQueue, List.set_getElem_self]

@[simp] theorem clock_offer (b : Broker) (id : QueueId) (m : Message) :
    (b.offer id m).2.clock = b.clock := by
  unfold offer
  split <;> rfl

@[simp] theorem issued_offer (b : Broker) (id : QueueId) (m : Message) :
    (b.offer id m).2.issued = b.issued := by
  unfold offer
  split <;> rfl

theorem getElem?_offer_of_ne (b : Broker) {id i : QueueId} (m : Message) (h : id ≠ i) :
    (b.offer id m).2.queues[i]? = b.queues[i]? := by
  unfold offer
  split
  · exact getElem?_setQueue_of_ne b _ h
  · rfl

/-- An offer does not change who waits in line. -/
theorem map_line_offer (b : Broker) (id i : QueueId) (m : Message) :
    ((b.offer id m).2.queues[i]?).map Queue.line = (b.queues[i]?).map Queue.line := by
  by_cases hi : id = i
  · subst hi
    unfold offer
    cases hq : b.queues[id]? with
    | none => exact congrArg _ hq
    | some q =>
      show ((b.setQueue id (q.offer m)).queues[id]?).map Queue.line = _
      rw [getElem?_setQueue_self _ hq, Option.map_some, Option.map_some, Queue.offer]
      split <;> rfl
  · rw [getElem?_offer_of_ne b m hi]

theorem offer_eq {b : Broker} {id : QueueId} {q : Queue} (m : Message)
    (hq : b.queues[id]? = some q) :
    b.offer id m = (q.answer, (b.setQueue id (q.offer m)).record (.offered id m q.answer)) := by
  simp [offer, hq]

theorem enter_eq {b : Broker} {id : QueueId} {q : Queue} (h : b.queues[id]? = some q)
    (task : TaskId) (timeout : Nat) :
    b.enter id task timeout =
      (b.setQueue id (q.enter ⟨task, timeout, b.clock⟩)).record (.called id task timeout) := by
  rw [enter, h]

theorem getElem?_enter_of_ne (b : Broker) {id i : QueueId} (task : TaskId) (timeout : Nat)
    (h : id ≠ i) : (b.enter id task timeout).queues[i]? = b.queues[i]? := by
  unfold enter
  split
  · exact getElem?_setQueue_of_ne b _ h
  · rfl

theorem getElem?_close_of_ne (b : Broker) {id i : QueueId} (h : id ≠ i) :
    (b.close id).queues[i]? = b.queues[i]? := by
  unfold close
  split
  · exact getElem?_setQueue_of_ne b _ h
  · rfl

/-- The receive call of a task ends exactly where the task has the turn and its turn can end. -/
theorem serve_eq_some_iff {b b' : Broker} {id : QueueId} {task : TaskId} {got : Option Message} :
    b.serve id task = some (got, b') ↔ ∃ q w q', b.queues[id]? = some q ∧
      q.serve b.clock = some (w, got, q') ∧ w.task = task ∧
      b' = (b.setQueue id q').record (.received id task w.called got) := by
  constructor
  · intro h
    unfold serve at h
    split at h
    · rename_i q hq
      split at h
      · rename_i w got' q' hs
        split at h
        · rename_i ht
          cases h
          exact ⟨q, w, q', hq, hs, ht, rfl⟩
        · cases h
      · cases h
    · cases h
  · rintro ⟨q, w, q', hq, hs, ht, rfl⟩
    simp [serve, hq, hs, ht]

theorem getElem?_serve_of_ne {b b' : Broker} {id i : QueueId} {task : TaskId}
    {got : Option Message} (hs : b.serve id task = some (got, b')) (h : id ≠ i) :
    b'.queues[i]? = b.queues[i]? := by
  obtain ⟨q, w, q', -, -, -, rfl⟩ := serve_eq_some_iff.mp hs
  exact getElem?_setQueue_of_ne b q' h

theorem exists_serve {b : Broker} {id : QueueId} {q q' : Queue} {w : Waiter}
    {got : Option Message} (hq : b.queues[id]? = some q)
    (hs : q.serve b.clock = some (w, got, q')) : ∃ b', b.serve id w.task = some (got, b') :=
  ⟨_, serve_eq_some_iff.mpr ⟨q, w, q', hq, hs, rfl, rfl⟩⟩

/-- The messages of a queue, the oldest first. -/
def items (b : Broker) (id : QueueId) : List Message :=
  match b.queues[id]? with
  | some q => q.items
  | none => []

theorem items_eq {b : Broker} {id : QueueId} {q : Queue} (h : b.queues[id]? = some q) :
    b.items id = q.items := by
  rw [items, h]

end Broker

end Messaging
