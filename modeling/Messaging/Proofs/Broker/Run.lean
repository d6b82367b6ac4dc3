import Mathlib.Logic.Relation
import Messaging.Broker

/-!
# Runs of brokers

Whatever runs on a broker acts on it through a few operations: queues are created, messages are
offered to them, they are closed, receive calls are made and end, new messages are stamped, things
that concern no queue are noted, and time passes.  A run is any sequence of these operations, in any
order, so what holds at every point of every run holds however senders, receivers, timeouts and
closes interleave.

An operation acts on one queue at most.  So a run can be told queue by queue: the `Chronicle` of a
queue is the part of the journal that is about it, together with what each entry did to the queue.
Everything about a single queue is an induction on its chronicle.
-/

namespace Messaging

/-! ## Operations -/

/-- The queue that an event is about. -/
def Event.queue? : Event → Option QueueId
  | .offered id .. | .closed id | .called id .. | .received id .. => some id
  | .invoked .. | .began _ | .ended .. => none

namespace Broker

/-- One operation on a broker. -/
inductive Step : Broker → Broker → Prop
  /-- A queue is added. -/
  | create {name : String} {capacity : Nat} {q : Queue} (b : Broker)
      (h : Queue.create name capacity = .ok q) : Step b (b.addQueue q)
  /-- A message is offered to a queue. -/
  | offer (b : Broker) (id : QueueId) (m : Message) : Step b (b.offer id m).2
  /-- A queue is closed. -/
  | close (b : Broker) (id : QueueId) : Step b (b.close id)
  /-- A receive call is made. -/
  | enter (b : Broker) (id : QueueId) (task : TaskId) (timeout : Nat) :
      Step b (b.enter id task timeout)
  /-- A receive call ends. -/
  | serve {b b' : Broker} {id : QueueId} {task : TaskId} {got : Option Message}
      (h : b.serve id task = some (got, b')) : Step b b'
  /-- A new message is stamped. -/
  | issue (b : Broker) : Step b b.issue
  /-- Something that concerns no queue is noted. -/
  | note (b : Broker) {event : Event} (h : event.queue? = none) : Step b (b.record event)
  /-- Time passes. -/
  | wait (b : Broker) {instant : Nat} (h : b.clock ≤ instant) : Step b { b with clock := instant }

/-- One broker becomes another by any number of operations. -/
def Reaches : Broker → Broker → Prop := Relation.ReflTransGen Step

/-- The brokers that occur in a run, which begins without queues and with an empty journal. -/
def Reachable (b : Broker) : Prop := Reaches {} b

theorem Reaches.refl (b : Broker) : Reaches b b := Relation.ReflTransGen.refl

theorem Reaches.trans {a b c : Broker} (h : Reaches a b) (h' : Reaches b c) : Reaches a c :=
  Relation.ReflTransGen.trans h h'

theorem Step.reaches {b b' : Broker} (h : Step b b') : Reaches b b' :=
  Relation.ReflTransGen.single h

theorem Reachable.reaches {b b' : Broker} (h : Reachable b) (h' : Reaches b b') : Reachable b' :=
  Reaches.trans h h'

/-- The entries of the journal that are about a queue, the latest first. -/
def history (b : Broker) (id : QueueId) : List Entry :=
  b.journal.filter fun e ↦ e.event.queue? = some id

theorem mem_history_iff {b : Broker} {id : QueueId} {e : Entry} :
    e ∈ b.history id ↔ e ∈ b.journal ∧ e.event.queue? = some id := by
  simp [history]

@[simp] theorem history_issue (b : Broker) (id : QueueId) : b.issue.history id = b.history id := rfl

@[simp] theorem history_setQueue (b : Broker) (id i : QueueId) (q : Queue) :
    (b.setQueue id q).history i = b.history i := rfl

theorem history_record_of_eq (b : Broker) {e : Event} {id : QueueId} (h : e.queue? = some id) :
    (b.record e).history id = ⟨b.clock, e⟩ :: b.history id := by
  simp [history, record, h]

theorem history_record_of_ne (b : Broker) {e : Event} {id : QueueId} (h : e.queue? ≠ some id) :
    (b.record e).history id = b.history id := by
  simp [history, record, h]

end Broker

/-! ## Chronicles -/

namespace Queue

/-- What the operation behind an entry of the journal does to the queue that the entry is about. -/
inductive Change (id : QueueId) (now : Nat) : Queue → Event → Queue → Prop
  /-- A message was offered. -/
  | offered (q : Queue) (m : Message) : Change id now q (.offered id m q.answer) (q.offer m)
  /-- The queue was closed. -/
  | closed (q : Queue) : Change id now q (.closed id) q.close
  /-- A receive call was made. -/
  | called (q : Queue) (task : TaskId) (timeout : Nat) :
      Change id now q (.called id task timeout) (q.enter ⟨task, timeout, now⟩)
  /-- The receive call that had the turn ended. -/
  | received {q q' : Queue} {w : Waiter} {got : Option Message}
      (h : q.serve now = some (w, got, q')) :
      Change id now q (.received id w.task w.called got) q'

theorem Change.queue?_eq {id : QueueId} {now : Nat} {q q' : Queue} {e : Event}
    (h : Change id now q e q') : e.queue? = some id := by
  cases h <;> rfl

/-- A queue keeps its name and its capacity. -/
theorem Change.keeps {id : QueueId} {now : Nat} {q q' : Queue} {e : Event}
    (h : Change id now q e q') : q'.name = q.name ∧ q'.capacity = q.capacity := by
  cases h with
  | offered m =>
    rw [offer]
    split <;> exact ⟨rfl, rfl⟩
  | closed => exact ⟨rfl, rfl⟩
  | called => exact ⟨rfl, rfl⟩
  | received h =>
    obtain ⟨-, ⟨_, _, -, -, rfl⟩ | ⟨-, -, -, rfl⟩⟩ := serve_eq_some_iff.mp h
    · exact ⟨rfl, rfl⟩
    · exact ⟨rfl, rfl⟩

/-- A queue at an instant, with everything that has happened to it, the latest first. -/
inductive Chronicle (id : QueueId) : Nat → Queue → List Entry → Prop
  /-- A queue that was just created. -/
  | created {name : String} {capacity : Nat} {q : Queue} (now : Nat)
      (h : Queue.create name capacity = .ok q) : Chronicle id now q []
  /-- Time has passed. -/
  | later {t now : Nat} {q : Queue} {log : List Entry} :
      Chronicle id t q log → t ≤ now → Chronicle id now q log
  /-- Something has happened. -/
  | changed {now : Nat} {q q' : Queue} {log : List Entry} {e : Event} :
      Chronicle id now q log → Change id now q e q' → Chronicle id now q' (⟨now, e⟩ :: log)

end Queue

namespace Broker

/-- Every queue has its chronicle, and the journal tells of no others. -/
structure Chronicled (b : Broker) : Prop where
  chronicle : ∀ {id : QueueId} {q : Queue}, b.queues[id]? = some q →
    Queue.Chronicle id b.clock q (b.history id)
  silent : ∀ {id : QueueId}, b.queues[id]? = none → b.history id = []

namespace Chronicled

variable {b : Broker}

/-- Queues without an entry of their own in the journal keep their chronicles. -/
theorem of_same {b' : Broker} (hb : b.Chronicled) (hq : b'.queues = b.queues)
    (hh : ∀ id, b'.history id = b.history id) (hc : b.clock ≤ b'.clock) : b'.Chronicled where
  chronicle := by
    intro id q h
    rw [hq] at h
    rw [hh]
    exact (hb.chronicle h).later hc
  silent := by
    intro id h
    rw [hq] at h
    rw [hh]
    exact hb.silent h

/-- An operation on one queue, with its entry in the journal, extends the chronicle of that queue
and leaves all others alone. -/
theorem update (hb : b.Chronicled) {id : QueueId} {q q' : Queue} {e : Event}
    (hq : b.queues[id]? = some q) (h : Queue.Change id b.clock q e q') :
    ((b.setQueue id q').record e).Chronicled where
  chronicle := by
    intro i r hr
    by_cases hi : id = i
    · subst hi
      have hr' : q' = r := by
        rw [queues_record, getElem?_setQueue_self q' hq] at hr
        exact Option.some.inj hr
      rw [history_record_of_eq _ h.queue?_eq, ← hr']
      exact (hb.chronicle hq).changed h
    · rw [queues_record, getElem?_setQueue_of_ne b q' hi] at hr
      have hne : e.queue? ≠ some i := by simpa [h.queue?_eq] using hi
      rw [history_record_of_ne _ hne]
      exact hb.chronicle hr
  silent := by
    intro i hr
    by_cases hi : id = i
    · subst hi
      rw [queues_record, getElem?_setQueue_self q' hq] at hr
      cases hr
    · rw [queues_record, getElem?_setQueue_of_ne b q' hi] at hr
      have hne : e.queue? ≠ some i := by simpa [h.queue?_eq] using hi
      rw [history_record_of_ne _ hne]
      exact hb.silent hr

/-- A new queue begins its chronicle. -/
theorem addQueue (hb : b.Chronicled) {name : String} {capacity : Nat} {q : Queue}
    (h : Queue.create name capacity = .ok q) : (b.addQueue q).Chronicled where
  chronicle := by
    intro i r hr
    rcases Nat.lt_trichotomy i b.queues.length with hlt | heq | hgt
    · have hr' : b.queues[i]? = some r := by
        simpa [Broker.addQueue, List.getElem?_append_left hlt] using hr
      exact hb.chronicle hr'
    · subst heq
      have hr' : q = r := by simpa [Broker.addQueue] using hr
      have hnone : b.history b.queues.length = [] := hb.silent (by simp)
      have hhist : (b.addQueue q).history b.queues.length = [] := hnone
      rw [hhist, ← hr']
      exact .created _ h
    · have hlen : (b.queues ++ [q]).length ≤ i := by simp; omega
      simp [Broker.addQueue, List.getElem?_eq_none hlen] at hr
  silent := by
    intro i hr
    have hlen : (b.queues ++ [q]).length ≤ i := List.getElem?_eq_none_iff.mp hr
    have hlen' : b.queues.length ≤ i := by simp at hlen; omega
    exact hb.silent (List.getElem?_eq_none hlen')

end Chronicled

/-- Every operation leaves all queues and what the journal tells of them alone, adds a queue, or
changes one queue and tells of it. -/
theorem Step.effect {b b' : Broker} (h : Step b b') :
    (b'.queues = b.queues ∧ (∀ id, b'.history id = b.history id) ∧ b.clock ≤ b'.clock) ∨
      (∃ name capacity q, Queue.create name capacity = .ok q ∧ b' = b.addQueue q) ∨
      ∃ id q e q', b.queues[id]? = some q ∧ Queue.Change id b.clock q e q' ∧
        b' = (b.setQueue id q').record e := by
  have same : b.queues = b.queues ∧ (∀ id, b.history id = b.history id) ∧ b.clock ≤ b.clock :=
    ⟨rfl, fun _ ↦ rfl, Nat.le_refl _⟩
  cases h with
  | create _ hq => exact .inr (.inl ⟨_, _, _, hq, rfl⟩)
  | offer _ id m =>
    unfold Broker.offer
    cases hq : b.queues[id]? with
    | none => exact .inl same
    | some q => exact .inr (.inr ⟨id, q, _, _, hq, .offered q m, rfl⟩)
  | close _ id =>
    unfold Broker.close
    cases hq : b.queues[id]? with
    | none => exact .inl same
    | some q => exact .inr (.inr ⟨id, q, _, _, hq, .closed q, rfl⟩)
  | enter _ id task timeout =>
    unfold Broker.enter
    cases hq : b.queues[id]? with
    | none => exact .inl same
    | some q => exact .inr (.inr ⟨id, q, _, _, hq, .called q task timeout, rfl⟩)
  | serve h =>
    obtain ⟨q, w, q', hq, hw, rfl, rfl⟩ := serve_eq_some_iff.mp h
    exact .inr (.inr ⟨_, q, _, q', hq, .received hw, rfl⟩)
  | issue => exact .inl same
  | note _ he =>
    refine .inl ⟨rfl, fun id ↦ history_record_of_ne _ ?_, Nat.le_refl _⟩
    rw [he]
    exact (Option.some_ne_none id).symm
  | wait _ hle => exact .inl ⟨rfl, fun _ ↦ rfl, hle⟩

/-- Every operation keeps the chronicles. -/
theorem Step.chronicled {b b' : Broker} (h : Step b b') (hb : b.Chronicled) : b'.Chronicled := by
  rcases h.effect with ⟨hq, hh, hc⟩ | ⟨name, capacity, q, hq, rfl⟩ | ⟨id, q, e, q', hq, he, rfl⟩
  · exact hb.of_same hq hh hc
  · exact hb.addQueue hq
  · exact hb.update hq he

/-- An operation leaves a queue and what the journal tells of it alone, or changes the queue and
tells of it. -/
theorem Step.effect_at {b b' : Broker} (h : Step b b') {id : QueueId} {q : Queue}
    (hq : b.queues[id]? = some q) :
    ∃ q', b'.queues[id]? = some q' ∧
      (q' = q ∧ b'.history id = b.history id ∨
        ∃ e, Queue.Change id b.clock q e q' ∧ b'.history id = ⟨b.clock, e⟩ :: b.history id ∧
          b'.clock = b.clock) := by
  rcases h.effect with ⟨hs, hh, -⟩ | ⟨_, _, r, -, rfl⟩ | ⟨i, r, e, r', hr, he, rfl⟩
  · exact ⟨q, by rw [hs, hq], .inl ⟨rfl, hh id⟩⟩
  · have hlt : id < b.queues.length := (List.getElem?_eq_some_iff.mp hq).1
    exact ⟨q, by rw [addQueue, List.getElem?_append_left hlt, hq], .inl ⟨rfl, rfl⟩⟩
  · by_cases hi : i = id
    · subst hi
      obtain rfl : r = q := by rwa [hr, Option.some.injEq] at hq
      exact ⟨r', getElem?_setQueue_self r' hr,
        .inr ⟨e, he, history_record_of_eq _ he.queue?_eq, rfl⟩⟩
    · have hne : e.queue? ≠ some id := by simpa [he.queue?_eq] using hi
      exact ⟨q, by rw [queues_record, getElem?_setQueue_of_ne b r' hi, hq],
        .inl ⟨rfl, history_record_of_ne _ hne⟩⟩

/-- No operation removes a queue, renames it or changes its capacity. -/
theorem Step.keeps {b b' : Broker} (h : Step b b') {id : QueueId} {q : Queue}
    (hq : b.queues[id]? = some q) :
    ∃ q', b'.queues[id]? = some q' ∧ q'.name = q.name ∧ q'.capacity = q.capacity := by
  obtain ⟨q', hq', ⟨rfl, -⟩ | ⟨e, he, -, -⟩⟩ := h.effect_at hq
  · exact ⟨q', hq', rfl, rfl⟩
  · exact ⟨q', hq', he.keeps⟩

theorem Reaches.keeps {b b' : Broker} (h : Reaches b b') {id : QueueId} {q : Queue}
    (hq : b.queues[id]? = some q) :
    ∃ q', b'.queues[id]? = some q' ∧ q'.name = q.name ∧ q'.capacity = q.capacity := by
  unfold Reaches at h
  induction h with
  | refl => exact ⟨q, hq, rfl, rfl⟩
  | tail _ step ih =>
    obtain ⟨q₁, hq₁, hn₁, hc₁⟩ := ih
    obtain ⟨q₂, hq₂, hn₂, hc₂⟩ := step.keeps hq₁
    exact ⟨q₂, hq₂, hn₂.trans hn₁, hc₂.trans hc₁⟩

/-- Neither the clock nor the number of stamped messages ever goes back. -/
theorem Step.later {b b' : Broker} (h : Step b b') :
    b.clock ≤ b'.clock ∧ b.issued ≤ b'.issued := by
  have same : b.clock ≤ b.clock ∧ b.issued ≤ b.issued := ⟨Nat.le_refl _, Nat.le_refl _⟩
  cases h with
  | create => exact same
  | offer _ id m =>
    rw [clock_offer, issued_offer]
    exact same
  | close =>
    unfold Broker.close
    split <;> exact same
  | enter =>
    unfold Broker.enter
    split <;> exact same
  | serve h =>
    obtain ⟨q, w, q', -, -, -, rfl⟩ := serve_eq_some_iff.mp h
    exact same
  | issue => exact ⟨Nat.le_refl _, Nat.le_succ _⟩
  | note => exact same
  | wait _ hle => exact ⟨hle, Nat.le_refl _⟩

theorem Reaches.later {b b' : Broker} (h : Reaches b b') :
    b.clock ≤ b'.clock ∧ b.issued ≤ b'.issued := by
  unfold Reaches at h
  induction h with
  | refl => exact ⟨Nat.le_refl _, Nat.le_refl _⟩
  | tail _ step ih => exact ⟨Nat.le_trans ih.1 step.later.1, Nat.le_trans ih.2 step.later.2⟩

theorem Reachable.chronicled {b : Broker} (h : Reachable b) : b.Chronicled := by
  unfold Reachable Reaches at h
  induction h with
  | refl => exact ⟨fun h ↦ by simp at h, fun _ ↦ rfl⟩
  | tail _ step ih => exact step.chronicled ih

/-- At every point of a run every queue has its chronicle, which is what the journal tells of it. -/
theorem Reachable.chronicle {b : Broker} (h : Reachable b) {id : QueueId} {q : Queue}
    (hq : b.queues[id]? = some q) : Queue.Chronicle id b.clock q (b.history id) :=
  h.chronicled.chronicle hq

end Broker

end Messaging
