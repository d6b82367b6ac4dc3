import Messaging.Proofs.Demo.Orders
import Messaging.Proofs.Poller.Closing

/-!
# The orders that are submitted

Three orders are submitted before the poller starts, one after the other.  The queue of orders takes
as many of them as it can hold, the first ones first, and loses the others; nothing else happens.
-/

namespace Messaging.Demo

/-- The messages of drafts that are built at the first instant, after `n` others. -/
def messages (n : Nat) : List Draft → List Message
  | [] => []
  | d :: ds => ⟨Uuid.issued n, Timestamp.ofMillis 0, d.payload, d.headers⟩ :: messages (n + 1) ds

/-- The messages that are submitted. -/
def submitted : List Message := messages 0 orders

/-- The queues of the demonstration, which are new. -/
def queues (capacity : Nat) : List Queue := queueNames.map fun name ↦ { name, capacity }

theorem isNull_of_mem_orders : ∀ d ∈ orders, d.payload.isNull = false := by decide

theorem isNull_of_mem_submitted : ∀ m ∈ submitted, m.payload.isNull = false := by decide

/-! ## Submitting drafts -/

variable {b : Broker} {d : Draft} {ds : List Draft}

theorem submit_eq (hpayload : d.payload.isNull = false) :
    submit b d = (b.issue.offer 0 ⟨b.stamp.id, b.stamp.time, d.payload, d.headers⟩).2 := by
  rw [submit, Draft.build_of_isNull_eq_false hpayload]

/-- What is submitted is offered to the queue of orders. -/
theorem submit_sends (b : Broker) (d : Draft) : b.Sends [0] (submit b d) := by
  unfold submit
  split
  · exact Broker.Sends.refl.issue.offer _ (List.mem_singleton.mpr rfl)
  · exact Broker.Sends.refl.issue

theorem foldl_submit_sends (b : Broker) (ds : List Draft) : b.Sends [0] (ds.foldl submit b) := by
  induction ds generalizing b with
  | nil => exact .refl
  | cons d ds ih => exact (submit_sends b d).trans (ih (submit b d))

/-- An open queue takes as many of the messages as it can hold. -/
theorem getElem?_foldl_submit (hds : ∀ d ∈ ds, d.payload.isNull = false) (hclock : b.clock = 0)
    {q : Queue} (hq : b.queues[0]? = some q) (hopen : q.closed = false)
    (hlen : q.items.length ≤ q.capacity) :
    (ds.foldl submit b).queues[0]? =
      some { q with items := (q.items ++ messages b.issued ds).take q.capacity } := by
  induction ds generalizing b q with
  | nil =>
    rw [List.foldl_nil, hq, messages, List.append_nil, List.take_of_length_le hlen]
  | cons d ds ih =>
    obtain ⟨hd, hds⟩ := List.forall_mem_cons.mp hds
    let m : Message := ⟨Uuid.issued b.issued, Timestamp.ofMillis 0, d.payload, d.headers⟩
    have hsubmit : submit b d = (b.issue.offer 0 m).2 := by
      rw [submit_eq hd, Broker.stamp, Broker.stampOf, hclock]
    have hclock' : (submit b d).clock = 0 := (submit_sends b d).clock_eq.trans hclock
    have hissued : (submit b d).issued = b.issued + 1 := by
      rw [hsubmit, Broker.issued_offer]
      rfl
    have hq' : (submit b d).queues[0]? = some (q.offer m) := by
      rw [hsubmit, Broker.offer_eq m (show b.issue.queues[0]? = some q from hq)]
      exact Broker.getElem?_setQueue_self _ hq
    rw [List.foldl_cons]
    by_cases hroom : q.items.length < q.capacity
    · have hoffer : q.offer m = { q with items := q.items ++ [m] } := by
        rw [Queue.offer, if_pos (Queue.answer_eq_sent_iff.mpr ⟨hopen, hroom⟩)]
      rw [hoffer] at hq'
      have hlen' : (q.items ++ [m]).length ≤ q.capacity := by
        rw [List.length_append]
        exact hroom
      rw [ih hds hclock' hq' hopen hlen', hissued, List.append_assoc]
      rfl
    · -- The queue is full, and stays as it is.
      have hoffer : q.offer m = q := by
        rw [Queue.offer, if_neg fun hsent ↦ hroom (Queue.answer_eq_sent_iff.mp hsent).2]
      rw [hoffer] at hq'
      rw [ih hds hclock' hq' hopen hlen, hissued,
        List.take_append_of_le_length (Nat.not_lt.mp hroom),
        List.take_append_of_le_length (Nat.not_lt.mp hroom)]

/-! ## When the poller starts -/

variable {capacity : Nat} {settings : PollerSettings}

/-- The queues can be created. -/
theorem mapM_create (hpos : 0 < capacity) (hle : capacity ≤ largestCapacity) :
    queueNames.mapM (Queue.create · capacity) = .ok (queues capacity) := by
  have hcreate (name : String) : Queue.create name capacity = .ok { name, capacity } :=
    Queue.create_eq_ok_iff.mpr ⟨hpos, hle, rfl⟩
  simp only [queueNames, hcreate]
  rfl

/-- The program does not survive queues that are too large. -/
theorem mapM_create_of_excess (hlarge : largestCapacity < capacity) :
    queueNames.mapM (Queue.create · capacity) = .abort excessMessage := by
  have hcreate (name : String) : Queue.create name capacity = .abort excessMessage :=
    Queue.create_eq_abort_iff.mpr ⟨hlarge, rfl⟩
  simp only [queueNames, hcreate]
  rfl

/-- The system when the poller starts. -/
def started (capacity : Nat) (settings : PollerSettings) : System :=
  start (queues capacity) binder settings

theorem started_sends (capacity : Nat) (settings : PollerSettings) :
    ({ queues := queues capacity } : Broker).Sends [0] (started capacity settings).broker :=
  foldl_submit_sends _ orders

theorem getElem?_started (capacity : Nat) (settings : PollerSettings) :
    (started capacity settings).broker.queues[0]? =
      some { name := "orders", capacity, items := submitted.take capacity } := by
  have hq : ({ queues := queues capacity } : Broker).queues[0]? =
      some { name := "orders", capacity } := rfl
  exact getElem?_foldl_submit isNull_of_mem_orders rfl hq rfl (Nat.zero_le capacity)

theorem getElem?_started_of_ne {id : QueueId} (hid : id ≠ 0) :
    (started capacity settings).broker.queues[id]? = (queues capacity)[id]? :=
  (started_sends capacity settings).getElem?_of_notMem (by simpa using hid)

/-- No order was handled. -/
theorem started_filled (capacity : Nat) (settings : PollerSettings) :
    Filled capacity [] (started capacity settings).broker where
  audit := ⟨_, getElem?_started_of_ne (by decide), rfl, rfl, rfl⟩
  fulfillment := ⟨_, getElem?_started_of_ne (by decide), rfl, rfl, rfl⟩
  errors := ⟨_, getElem?_started_of_ne (by decide), rfl, rfl, rfl⟩
  accepted := by
    intro id outcome hmem hid
    rcases (started_sends capacity settings).mem_of_mem_answers hmem with hmem | hmem
    · cases hmem
    · exact (hid (List.mem_singleton.mp hmem)).elim

/-- Nobody waits. -/
theorem started_sole (capacity : Nat) (settings : PollerSettings) :
    System.Sole (consumer binder settings) (started capacity settings) where
  poller := ⟨_, rfl, rfl⟩
  inLine := by
    have hpending : (started capacity settings).broker.pending 0 = [] :=
      (started_sends capacity settings).pending_eq 0
    refine ⟨⟨_, getElem?_started capacity settings, hpending.symm⟩, ?_⟩
    have hawaits (task : TaskId) : (started capacity settings).awaits task = none := by
      cases task <;> rfl
    show Queue.Lined 0 _ ((started capacity settings).broker.pending 0) _
    rw [hpending]
    exact ⟨List.nodup_nil, by simp [hawaits], False.elim⟩
  alone := by
    constructor
    · intro i k hi hk
      cases i with
      | zero => exact (hi rfl).elim
      | succ i => cases hk
    · intro i q hi hq
      rw [getElem?_started_of_ne hi] at hq
      obtain ⟨name, -, rfl⟩ := List.mem_map.mp (List.mem_of_getElem? hq)
      rfl

end Messaging.Demo
