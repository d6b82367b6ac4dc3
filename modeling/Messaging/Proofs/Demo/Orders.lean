import Messaging.Demo
import Messaging.Proofs.Poller.Taking

/-!
# What becomes of an order

The endpoint of the demonstration enriches an order that names a customer, and its reply goes to two
queues; of an order without a customer it makes an error message.  A queue with room accepts what is
offered to it.  An order makes each queue longer by one message at most, so where the capacity of
the queues is larger than the number of orders before, they have room for all that comes of the next
one: no reply is partly delivered, and no reply that was not delivered makes an error message.
-/

namespace Messaging

/-! ## Queues with room -/

/-- The queue is open, of this capacity, and holds messages with these payloads. -/
def Broker.Holds (b : Broker) (id : QueueId) (capacity : Nat) (payloads : List Value) : Prop :=
  ∃ q, b.queues[id]? = some q ∧ q.closed = false ∧ q.capacity = capacity ∧
    q.items.map Message.payload = payloads

namespace Broker.Holds

variable {b b' : Broker} {id : QueueId} {capacity : Nat} {payloads : List Value}

theorem of_getElem?_eq (h : b.Holds id capacity payloads)
    (hq : b'.queues[id]? = b.queues[id]?) : b'.Holds id capacity payloads := by
  obtain ⟨q, hfound, hrest⟩ := h
  exact ⟨q, hq.trans hfound, hrest⟩

theorem map_items (h : b.Holds id capacity payloads) :
    (b.items id).map Message.payload = payloads := by
  obtain ⟨q, hq, -, -, hpayloads⟩ := h
  rw [items_eq hq, hpayloads]

/-- A queue with room accepts a message. -/
theorem offer (h : b.Holds id capacity payloads) (hroom : payloads.length < capacity)
    (m : Message) :
    ∃ b', b.offer id m = (.sent, b') ∧ b'.Holds id capacity (payloads ++ [m.payload]) ∧
      (∀ i, id ≠ i → b'.queues[i]? = b.queues[i]?) ∧
      b'.answers = (id, .sent) :: b.answers := by
  obtain ⟨q, hq, hopen, rfl, rfl⟩ := h
  have hanswer : q.answer = .sent :=
    Queue.answer_eq_sent_iff.mpr ⟨hopen, by simpa using hroom⟩
  have hoffer := offer_eq m hq
  rw [hanswer] at hoffer
  refine ⟨_, hoffer, ⟨q.offer m, getElem?_setQueue_self _ hq, ?_⟩,
    fun i hi ↦ getElem?_setQueue_of_ne b _ hi, rfl⟩
  rw [Queue.offer, if_pos hanswer]
  exact ⟨hopen, rfl, List.map_append⟩

end Broker.Holds

namespace Demo

/-! ## The endpoint -/

/-- The binder of the handler's signature. -/
def binder : Binder where
  handler := "enrichOrder"
  descriptors := [⟨0, .map, some "headers", none, false, false⟩,
    ⟨1, .value, some "order", none, false, false⟩,
    ⟨2, .value, some "customer", some ("customer", true), false, false⟩,
    ⟨3, .value, some "priority", some ("priority", false), false, false⟩]
  slots := [.headers false, .payload, .header "customer" true, .header "priority" false]
  payloadSlot := some 1
  bulkSlot := some 0
  envelopeSlot := none

theorem ofSignature_signature : Binder.ofSignature signature = .ok binder := rfl

/-- What the handler makes of an order. -/
def enriched (m : Message) : Value :=
  .record [("order", m.payload), ("customer", (m.bound? "customer").getD .null),
    ("priority", (m.bound? "priority").getD (.string "normal")),
    ("header_count", .int m.headers.size)]

/-- The payload of the error message about an order without a customer. -/
def complaint : Value :=
  .record [("error", .string
      "Binding failed for handler enrichOrder: Required header 'customer' not available"),
    ("handler", .string "enrichOrder")]

/-- Whether an order names a customer. -/
def named (m : Message) : Bool := (m.bound? "customer").isSome

/-- The arguments for an order that names a customer. -/
def arguments (m : Message) : List Argument :=
  [.headers m.headers, .payload m.payload, .header (m.bound? "customer"),
    .header (m.bound? "priority")]

variable {m : Message}

theorem arguments_of_named (hpayload : m.payload.isNull = false) (hnamed : named m = true) :
    binder.arguments m = .ok (arguments m) := by
  obtain ⟨customer, hcustomer⟩ := Option.isSome_iff_exists.mp hnamed
  cases hpriority : m.bound? "priority" <;>
    simp [arguments, Binder.arguments, binder, Slot.arguments, Slot.argument, hpayload, hcustomer,
      hpriority]

theorem arguments_of_not_named (hpayload : m.payload.isNull = false) (hnot : named m = false) :
    binder.arguments m = .error (.missingHeader "customer") := by
  have hcustomer : m.bound? "customer" = none :=
    Option.isNone_iff_eq_none.mp (Option.isSome_eq_false_iff.mp hnot)
  simp [Binder.arguments, binder, Slot.arguments, Slot.argument, hpayload, hcustomer]

/-- The reply to an order that names a customer is sent to the router. -/
theorem handle_of_named (hpayload : m.payload.isNull = false) (hnamed : named m = true)
    (b : Broker) :
    ∃ reply, reply.payload = enriched m ∧ (endpoint binder).handle m b =
      (endpoint binder).sendReply reply
        (b.record (.invoked "enrichOrder" (arguments m))).issue.issue := by
  have hargs : (endpoint binder).binder.arguments m = .ok (arguments m) :=
    arguments_of_named hpayload hnamed
  let b' := (b.record (.invoked "enrichOrder" (arguments m))).issue
  refine ⟨⟨b'.stamp.id, b'.stamp.time, enriched m,
    ((Draft.ofPayload (enriched m)).copy m.headers.entries).headers⟩, rfl, ?_⟩
  rw [Endpoint.handle, hargs]
  rfl

theorem handle_of_not_named (hpayload : m.payload.isNull = false) (hnot : named m = false)
    (b : Broker) :
    (endpoint binder).handle m b =
      (.error (.binding "enrichOrder" (.missingHeader "customer")), b) := by
  have hargs : (endpoint binder).binder.arguments m = .error (.missingHeader "customer") :=
    arguments_of_not_named hpayload hnot
  rw [Endpoint.handle, hargs]
  rfl

/-! ## The queues behind it -/

/-- The replies to orders, as far as there are any. -/
def replies (ms : List Message) : List Value := (ms.filter named).map enriched

/-- The error messages about orders, as far as there are any. -/
def complaints (ms : List Message) : List Value :=
  (ms.filter fun m ↦ !named m).map fun _ ↦ complaint

theorem length_replies_le (ms : List Message) : (replies ms).length ≤ ms.length := by
  rw [replies, List.length_map]
  exact List.length_filter_le _ _

theorem length_complaints_le (ms : List Message) : (complaints ms).length ≤ ms.length := by
  rw [complaints, List.length_map]
  exact List.length_filter_le _ _

/-- The queues behind the endpoint hold what was made of these orders, and all that was offered to
them was accepted. -/
structure Filled (capacity : Nat) (ms : List Message) (b : Broker) : Prop where
  audit : b.Holds 1 capacity (replies ms)
  fulfillment : b.Holds 2 capacity (replies ms)
  errors : b.Holds 3 capacity (complaints ms)
  accepted : ∀ id outcome, (id, outcome) ∈ b.answers → id ≠ 0 → outcome = .sent

namespace Filled

variable {capacity : Nat} {ms : List Message} {b b' : Broker}

theorem congr (h : Filled capacity ms b)
    (hqueues : ∀ id, id ≠ 0 → b'.queues[id]? = b.queues[id]?) (hanswers : b'.answers = b.answers) :
    Filled capacity ms b' where
  audit := h.audit.of_getElem?_eq (hqueues 1 (by decide))
  fulfillment := h.fulfillment.of_getElem?_eq (hqueues 2 (by decide))
  errors := h.errors.of_getElem?_eq (hqueues 3 (by decide))
  accepted := hanswers ▸ h.accepted

theorem rests (h : Filled capacity ms b) (hrests : b.Rests 0 b') : Filled capacity ms b' :=
  h.congr (fun _ hid ↦ hrests.getElem?_of_ne (Ne.symm hid)) hrests.answers_eq

theorem serve {task : TaskId} {got : Option Message} (h : Filled capacity ms b)
    (hserve : b.serve 0 task = some (got, b')) : Filled capacity ms b' := by
  have hanswers : b'.answers = b.answers := by
    obtain ⟨q, w, q', -, -, -, rfl⟩ := Broker.serve_eq_some_iff.mp hserve
    rfl
  exact h.congr (fun _ hid ↦ Broker.getElem?_serve_of_ne hserve (Ne.symm hid)) hanswers

/-- The router passes a reply on to both queues, and both accept it. -/
theorem sendReply (h : Filled capacity ms b) (hroom : ms.length < capacity)
    (hnamed : named m = true) {reply : Message} (hreply : reply.payload = enriched m) :
    ∃ b', (endpoint binder).sendReply reply b = (.ok (some reply), b') ∧
      Filled capacity (ms ++ [m]) b' := by
  have hlen := Nat.lt_of_le_of_lt (length_replies_le ms) hroom
  obtain ⟨b₁, hoffer₁, haudit, hother₁, hanswers₁⟩ := h.audit.offer hlen reply
  obtain ⟨b₂, hoffer₂, hfulfillment, hother₂, hanswers₂⟩ :=
    (h.fulfillment.of_getElem?_eq (hother₁ 2 (by decide))).offer hlen reply
  have hsend : router.send reply b = (.sent, b₂) := by
    simp [router, Channel.send, Channel.sendAll, hoffer₁, hoffer₂, RouterError.outcome]
  have hreplies : replies (ms ++ [m]) = replies ms ++ [reply.payload] := by
    rw [replies, List.filter_append, List.filter_cons_of_pos hnamed, List.map_append, hreply]
    rfl
  have hcomplaints : complaints (ms ++ [m]) = complaints ms := by
    rw [complaints, List.filter_append, List.filter_cons_of_neg (by simp [hnamed])]
    exact congrArg _ (List.append_nil _)
  refine ⟨b₂, ?_, ?_, ?_, ?_, ?_⟩
  · rw [Endpoint.sendReply, show (endpoint binder).output = some router from rfl]
    simp only [hsend]
    rfl
  · rw [hreplies]
    exact haudit.of_getElem?_eq (hother₂ 1 (by decide))
  · rw [hreplies]
    exact hfulfillment
  · rw [hcomplaints]
    exact h.errors.of_getElem?_eq ((hother₂ 3 (by decide)).trans (hother₁ 3 (by decide)))
  · intro id outcome hmem hid
    rw [hanswers₂, hanswers₁] at hmem
    rcases List.mem_cons.mp hmem with hmem | hmem
    · cases hmem
      rfl
    · rcases List.mem_cons.mp hmem with hmem | hmem
      · cases hmem
        rfl
      · exact h.accepted id outcome hmem hid

/-- One error message is made of an order without a customer, and the queue of errors accepts it. -/
theorem forwardError (h : Filled capacity ms b) (hroom : ms.length < capacity)
    (hnot : named m = false) (settings : PollerSettings) :
    Filled capacity (ms ++ [m]) ((consumer binder settings).forwardError m
      (.binding "enrichOrder" (.missingHeader "customer")) b) := by
  have hlen := Nat.lt_of_le_of_lt (length_complaints_le ms) hroom
  obtain ⟨report, hreport⟩ := (consumer binder settings).build_errorDraft m
    (.binding "enrichOrder" (.missingHeader "customer")) b.stamp
  have hpayload : report.payload = complaint := by
    rw [Draft.build_of_isNull_eq_false rfl] at hreport
    cases hreport
    rfl
  have hissue : b.issue.Holds 3 capacity (complaints ms) := h.errors.of_getElem?_eq rfl
  obtain ⟨b', hoffer, herrors, hother, hanswers⟩ := hissue.offer hlen report
  have heq : (consumer binder settings).forwardError m
      (.binding "enrichOrder" (.missingHeader "customer")) b = b' := by
    rw [Consumer.forwardError, show (consumer binder settings).errors = some (.queue 3) from rfl]
    simp only [hreport, Channel.send, hoffer]
  have hreplies : replies (ms ++ [m]) = replies ms := by
    rw [replies, List.filter_append, List.filter_cons_of_neg (by simp [hnot])]
    exact congrArg _ (List.append_nil _)
  have hcomplaints : complaints (ms ++ [m]) = complaints ms ++ [report.payload] := by
    rw [complaints, List.filter_append, List.filter_cons_of_pos (by simp [hnot]), List.map_append,
      hpayload]
    rfl
  rw [heq]
  refine ⟨?_, ?_, ?_, ?_⟩
  · rw [hreplies]
    exact h.audit.of_getElem?_eq (hother 1 (by decide))
  · rw [hreplies]
    exact h.fulfillment.of_getElem?_eq (hother 2 (by decide))
  · rw [hcomplaints]
    exact herrors
  · intro id outcome hmem hid
    rw [hanswers] at hmem
    rcases List.mem_cons.mp hmem with hmem | hmem
    · cases hmem
      rfl
    · exact h.accepted id outcome hmem hid

/-- As long as there were fewer orders than a queue can hold, all that comes of one more order is
accepted. -/
theorem process (h : Filled capacity ms b) (hroom : ms.length < capacity)
    (hpayload : m.payload.isNull = false) (settings : PollerSettings) :
    Filled capacity (ms ++ [m]) ((consumer binder settings).process m b) := by
  have hendpoint : (consumer binder settings).endpoint = endpoint binder := rfl
  cases hnamed : named m with
  | true =>
    obtain ⟨reply, hreply, hhandle⟩ := handle_of_named hpayload hnamed b
    have hready : Filled capacity ms
        (b.record (.invoked "enrichOrder" (arguments m))).issue.issue :=
      h.congr (fun _ _ ↦ rfl) rfl
    obtain ⟨b', hsent, hfilled⟩ := hready.sendReply hroom hnamed hreply
    rw [Consumer.process, hendpoint, hhandle, hsent]
    exact hfilled
  | false =>
    rw [Consumer.process, hendpoint, handle_of_not_named hpayload hnamed]
    exact h.forwardError hroom hnamed settings

end Filled

end Demo

end Messaging
