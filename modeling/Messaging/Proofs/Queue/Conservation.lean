import Messaging.Proofs.System.Run

/-!
# Queues neither lose nor repeat messages

What a queue has accepted is, at every point of every run, what was received from it so far followed
by what it still holds, in one and the same order.  A queue accepts a message exactly if it was not
closed before and holds fewer messages than its capacity, and a message that it does not accept
changes nothing.

The proof is an induction on the chronicle of the queue.  The invariant, `Queue.Accounted`, balances
the queue against its log; it holds of a new queue and every change keeps it.
-/

namespace Messaging

/-! ## What the journal tells -/

/-- The message that was accepted, if the entry tells of one. -/
def Entry.accepted? (e : Entry) : Option Message :=
  match e.event with
  | .offered _ m .sent => some m
  | _ => none

/-- The message with which a receive call ended, if the entry tells of one. -/
def Entry.delivered? (e : Entry) : Option Message :=
  match e.event with
  | .received _ _ _ got => got
  | _ => none

namespace Broker

/-- The messages that were offered to a queue and accepted, in the order in which they were
offered. -/
def accepted (b : Broker) (id : QueueId) : List Message :=
  (b.history id).reverse.filterMap Entry.accepted?

/-- The messages with which receive calls on a queue ended, in the order in which they ended. -/
def delivered (b : Broker) (id : QueueId) : List Message :=
  (b.history id).reverse.filterMap Entry.delivered?

/-- The queue was closed at some time. -/
def WasClosed (b : Broker) (id : QueueId) : Prop := ∃ e ∈ b.journal, e.event = .closed id

end Broker

/-! ## The invariant -/

namespace Queue

/-- A queue agrees with the log of what happened to it. -/
structure Accounted (id : QueueId) (q : Queue) (log : List Entry) : Prop where
  /-- What was accepted was delivered or is still held, in the order of acceptance. -/
  balance : log.reverse.filterMap Entry.accepted? =
    log.reverse.filterMap Entry.delivered? ++ q.items
  /-- The queue can hold something. -/
  capacity_pos : 0 < q.capacity
  /-- It never holds more than that. -/
  length_le : q.items.length ≤ q.capacity
  /-- It is closed if and only if that happened to it. -/
  closed_iff : q.closed = true ↔ ∃ e ∈ log, e.event = .closed id

theorem accounted_of_create {id : QueueId} {name : String} {capacity : Nat} {q : Queue}
    (h : Queue.create name capacity = .ok q) : q.Accounted id [] := by
  obtain ⟨hpos, -, rfl⟩ := create_eq_ok_iff.mp h
  exact ⟨rfl, hpos, Nat.zero_le _, by simp⟩

theorem filterMap_reverse_cons {α β : Type} (f : α → Option β) (e : α) (log : List α) :
    (e :: log).reverse.filterMap f = log.reverse.filterMap f ++ (f e).toList := by
  rw [List.reverse_cons, List.filterMap_append]
  cases h : f e <;> simp [h]

/-- Every change of a queue keeps it in agreement with its log. -/
theorem Accounted.change {id : QueueId} {now : Nat} {q q' : Queue} {log : List Entry} {e : Event}
    (ha : q.Accounted id log) (h : Change id now q e q') : q'.Accounted id (⟨now, e⟩ :: log) := by
  have closed_iff : e ≠ .closed id → q'.closed = q.closed →
      (q'.closed = true ↔ ∃ x ∈ (⟨now, e⟩ :: log : List Entry), x.event = .closed id) := by
    intro hne heq
    rw [heq, ha.closed_iff]
    simp [hne]
  cases h with
  | offered m =>
    by_cases hs : q.answer = .sent
    · obtain ⟨-, hlt⟩ := answer_eq_sent_iff.mp hs
      have hq : q.offer m = { q with items := q.items ++ [m] } := by simp [offer, hs]
      refine ⟨?_, ?_, ?_, closed_iff (by simp) (by rw [hq])⟩
      · rw [filterMap_reverse_cons, filterMap_reverse_cons, ha.balance, hq]
        simp [Entry.accepted?, Entry.delivered?, hs]
      · rw [hq]
        exact ha.capacity_pos
      · rw [hq, List.length_append, List.length_singleton]
        exact hlt
    · have hq : q.offer m = q := by simp [offer, hs]
      rw [hq] at closed_iff ⊢
      have hnone : Entry.accepted? ⟨now, .offered id m q.answer⟩ = none := by
        cases ho : q.answer <;> simp_all [Entry.accepted?]
      refine ⟨?_, ha.capacity_pos, ha.length_le, closed_iff (by simp) rfl⟩
      rw [filterMap_reverse_cons, filterMap_reverse_cons, ha.balance, hnone]
      simp [Entry.delivered?]
  | closed =>
    refine ⟨?_, ha.capacity_pos, ha.length_le, by simp [close]⟩
    rw [filterMap_reverse_cons, filterMap_reverse_cons, ha.balance]
    simp [Entry.accepted?, Entry.delivered?, close]
  | called task timeout =>
    refine ⟨?_, ha.capacity_pos, ha.length_le, closed_iff (by simp) rfl⟩
    rw [filterMap_reverse_cons, filterMap_reverse_cons, ha.balance]
    simp [Entry.accepted?, Entry.delivered?, enter]
  | received h =>
    obtain ⟨-, ⟨m, rest, hi, rfl, rfl⟩ | ⟨-, -, rfl, rfl⟩⟩ := serve_eq_some_iff.mp h
    · have hlen : rest.length + 1 ≤ q.capacity := by
        have := ha.length_le
        rwa [hi, List.length_cons] at this
      refine ⟨?_, ha.capacity_pos, Nat.le_of_succ_le hlen, closed_iff (by simp) rfl⟩
      rw [filterMap_reverse_cons, filterMap_reverse_cons, ha.balance, hi]
      simp [Entry.accepted?, Entry.delivered?]
    · refine ⟨?_, ha.capacity_pos, ha.length_le, closed_iff (by simp) rfl⟩
      rw [filterMap_reverse_cons, filterMap_reverse_cons, ha.balance]
      simp [Entry.accepted?, Entry.delivered?, passTurn]

/-- A queue agrees with its chronicle. -/
theorem Chronicle.accounted {id : QueueId} {now : Nat} {q : Queue} {log : List Entry}
    (h : Chronicle id now q log) : q.Accounted id log := by
  induction h with
  | created _ h => exact accounted_of_create h
  | later _ _ ih => exact ih
  | changed _ h ih => exact ih.change h

end Queue

namespace Broker

theorem wasClosed_iff {b : Broker} {id : QueueId} :
    b.WasClosed id ↔ ∃ e ∈ b.history id, e.event = .closed id := by
  constructor
  · rintro ⟨e, he, hc⟩
    exact ⟨e, mem_history_iff.mpr ⟨he, by rw [hc]; rfl⟩, hc⟩
  · rintro ⟨e, he, hc⟩
    exact ⟨e, (mem_history_iff.mp he).1, hc⟩

/-- Only an accepted message changes more than the journal. -/
theorem offer_of_ne_sent {b : Broker} {id : QueueId} {q : Queue} (m : Message)
    (hq : b.queues[id]? = some q) (h : q.answer ≠ .sent) :
    b.offer id m = (q.answer, b.record (.offered id m q.answer)) := by
  rw [offer_eq m hq, Queue.offer, if_neg h, setQueue_self hq]

end Broker

/-! ## Conservation -/

/-- The moves of a system are operations on its broker.  From the creation of a queue on, whatever
operations follow in whatever order, at every point the messages that the queue accepted are those
that were received from it and then those that it holds, it holds no more of them than its capacity,
it rejects a message as closed exactly if it was closed before and as full exactly if it was not and
is full, and a rejected message changes nothing but the journal. -/
theorem Broker.queue_conserves_messages :
    (∀ s t : System, s.Move t → s.broker.Reaches t.broker) ∧
      ∀ (b₀ b : Broker) (name : String) (c : Nat) (q₀ : Queue), b₀.Reachable →
        Queue.create name c = .ok q₀ → (b₀.addQueue q₀).Reaches b →
        let id := b₀.queues.length
        ∃ q, b.queues[id]? = some q ∧ q.capacity = c ∧
          b.accepted id = b.delivered id ++ q.items ∧ q.items.length ≤ c ∧
          ∀ m : Message,
            ((b.offer id m).1 = .closed ↔ b.WasClosed id) ∧
            ((b.offer id m).1 = .full ↔ ¬b.WasClosed id ∧ q.items.length = c) ∧
            ((b.offer id m).1 = .sent ↔ ¬b.WasClosed id ∧ q.items.length < c) ∧
            ((b.offer id m).1 ≠ .sent →
              (b.offer id m).2 = b.record (.offered id m (b.offer id m).1)) := by
  refine ⟨fun s t h ↦ h.reaches, ?_⟩
  intro b₀ b name c q₀ hb₀ hq₀ run id
  have hcap : q₀.capacity = c := by
    obtain ⟨-, -, rfl⟩ := Queue.create_eq_ok_iff.mp hq₀
    rfl
  have hfirst : (b₀.addQueue q₀).queues[id]? = some q₀ := by simp [addQueue, id]
  obtain ⟨q, hq, -, hqc⟩ := run.keeps hfirst
  have hb : b.Reachable := (hb₀.reaches (Step.create b₀ hq₀).reaches).reaches run
  have ha : q.Accounted id (b.history id) := (hb.chronicle hq).accounted
  have hc : q.capacity = c := hqc.trans hcap
  have hlen : q.items.length ≤ c := hc ▸ ha.length_le
  have hclosed : q.closed = true ↔ b.WasClosed id := ha.closed_iff.trans wasClosed_iff.symm
  have hopen : q.closed = false ↔ ¬b.WasClosed id := by
    rw [← hclosed, Bool.not_eq_true]
  refine ⟨q, hq, hc, ha.balance, hlen, fun m ↦ ⟨?_, ?_, ?_, ?_⟩⟩
  · rw [offer_eq m hq, Queue.answer_eq_closed_iff, hclosed]
  · rw [offer_eq m hq, Queue.answer_eq_full_iff, hopen, hc]
    exact and_congr_right fun _ ↦ ⟨fun h ↦ Nat.le_antisymm hlen h, fun h ↦ Nat.le_of_eq h.symm⟩
  · rw [offer_eq m hq, Queue.answer_eq_sent_iff, hopen, hc]
  · intro h
    have hne : q.answer ≠ .sent := by rwa [offer_eq m hq] at h
    rw [offer_of_ne_sent m hq hne]

/-- A queue for one message, to which one was offered before a receive call took it. -/
theorem Broker.queue_conserves_messages_of_one_received :
    let q₀ : Queue := { name := "orders", capacity := 1 }
    let m : Message := ⟨Uuid.issued 0, Timestamp.epoch, .string "order-42", Dictionary.empty⟩
    let b₁ := ((({} : Broker).addQueue q₀).offer 0 m).2.enter 0 7 100
    ({} : Broker).Reachable ∧ Queue.create "orders" 1 = .ok q₀ ∧
      ∃ b, b₁.serve 0 7 = some (some m, b) ∧ (({} : Broker).addQueue q₀).Reaches b ∧
        b.accepted 0 = [m] ∧ b.delivered 0 = [m] ∧
        ∃ q, b.queues[0]? = some q ∧ q.capacity = 1 ∧
          b.accepted 0 = b.delivered 0 ++ q.items ∧ q.items.length ≤ 1 ∧
          ((b.offer 0 m).1 = .sent ↔ ¬b.WasClosed 0 ∧ q.items.length < 1) := by
  intro q₀ m b₁
  refine ⟨.refl _, rfl, _, rfl, ?_⟩
  have run : (({} : Broker).addQueue q₀).Reaches _ :=
    ((Step.offer _ 0 m).reaches.trans (Step.enter _ 0 7 100).reaches).trans
      (@Step.serve _ _ 0 7 (some m) rfl).reaches
  obtain ⟨q, hq, hc, hbal, hlen, hans⟩ :=
    queue_conserves_messages.2 {} _ "orders" 1 q₀ (.refl _) rfl run
  exact ⟨run, rfl, rfl, q, hq, hc, hbal, hlen, (hans m).2.2.1⟩

end Messaging
