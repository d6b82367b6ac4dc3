import Messaging.Proofs.Queue.Conservation
import Messaging.Proofs.Trail.Headers

/-!
# Replies of endpoints

An endpoint binds a message, invokes its handler, makes a reply of what the handler returned, and
offers the reply to its output.  Each of these steps can fail, and then no later one happens: the
handler is not invoked where the message cannot be bound, and nothing is sent unless there is a
reply.  A reply is offered once, and what the endpoint gives back is the very message that it
offered.
-/

namespace Messaging

/-! ## Replies -/

namespace Returned

/-- The payload that the handler returned. -/
def value : Returned → Value
  | payload value => value
  | message m => m.payload

/-- The value that the handler itself gave to a header. -/
def header? (k : String) : Returned → Option Value
  | payload _ => none
  | message m => m.header? k

theorem payload_draft (returned : Returned) (request : Message) :
    (returned.draft request).payload = returned.value := by
  cases returned <;> rfl

theorem header?_draft (returned : Returned) (request : Message) (k : String) :
    (returned.draft request).headers.get? k = (returned.header? k).or (request.header? k) := by
  rw [get?_draft]
  cases returned <;> rfl

end Returned

namespace Message

/-- The message has the payload that the handler returned, and the headers that the handler set; all
others it has from the request. -/
structure Answers (request : Message) (returned : Returned) (r : Message) : Prop where
  payload : r.payload = returned.value
  header : ∀ k, r.header? k = (returned.header? k).or (request.header? k)

variable {returned : Returned}

theorem reply_of_null (request : Message) (h : returned.value.isNull = true) (stamp : Stamp) :
    request.reply (some returned) stamp = .error .missingPayloadForOutbound := by
  rw [reply, Draft.build, returned.payload_draft, if_pos h]
  rfl

/-- There is a reply wherever the payload is not null. -/
theorem exists_reply (request : Message) (h : returned.value.isNull = false) (stamp : Stamp) :
    ∃ r, request.reply (some returned) stamp = .ok r ∧ r.id = stamp.id ∧
      request.Answers returned r := by
  refine ⟨⟨stamp.id, stamp.time, returned.value, (returned.draft request).headers⟩, ?_, rfl, rfl,
    returned.header?_draft request⟩
  rw [reply, Draft.build, returned.payload_draft, h]
  rfl

end Message

/-! ## What happened to the broker -/

namespace Broker

/-- Nothing happened but that the handler with this label was invoked. -/
structure Invoked (label : String) (args : List Argument) (b b' : Broker) : Prop where
  clock : b'.clock = b.clock
  queues : b'.queues = b.queues
  journal : b'.journal = ⟨b.clock, .invoked label args⟩ :: b.journal

/-- The identity was given to a new message between the two brokers. -/
def Gives (b b' : Broker) (id : Uuid) : Prop :=
  ∃ n, b.issued ≤ n ∧ n < b'.issued ∧ id = Uuid.issued n

theorem Invoked.issue {label : String} {args : List Argument} {b b' : Broker}
    (h : b.Invoked label args b') : b.Invoked label args b'.issue :=
  ⟨h.clock, h.queues, h.journal⟩

theorem invoked_record (b : Broker) (label : String) (args : List Argument) :
    b.Invoked label args (b.record (.invoked label args)) :=
  ⟨rfl, rfl, rfl⟩

/-- An offer does not rename a queue. -/
theorem map_name_offer (b : Broker) (id i : QueueId) (m : Message) :
    ((b.offer id m).2.queues[i]?).map Queue.name = (b.queues[i]?).map Queue.name := by
  cases hq : b.queues[id]? with
  | none =>
    rw [offer, hq]
  | some q =>
    rw [offer_eq m hq, queues_record]
    by_cases hi : id = i
    · subst hi
      rw [getElem?_setQueue_self _ hq, hq, Option.map_some, Option.map_some, Queue.offer]
      split <;> rfl
    · rw [getElem?_setQueue_of_ne b _ hi]

theorem Offers.map_name_eq {ids : List QueueId} {m : Message} {a b : Broker} (h : Offers ids m a b)
    (i : QueueId) : (b.queues[i]?).map Queue.name = (a.queues[i]?).map Queue.name := by
  induction h with
  | refl => rfl
  | offer _ _ ih => rw [map_name_offer, ih]

/-- A queue that accepts a message has it as its last one, and a queue that rejects it stays as it
is. -/
theorem queues_offer {b : Broker} {id : QueueId} {q : Queue} (m : Message)
    (hq : b.queues[id]? = some q) :
    (b.offer id m).2.queues =
      if q.answer = .sent then b.queues.set id { q with items := q.items ++ [m] }
      else b.queues := by
  by_cases h : q.answer = .sent
  · rw [if_pos h, offer_eq m hq, Queue.offer, if_pos h]
    rfl
  · rw [if_neg h, offer_of_ne_sent m hq h]
    rfl

end Broker

/-- The name of a channel stays what it is when a message is offered. -/
theorem Channel.name_of_offers {ids : List QueueId} {m : Message} {a b : Broker}
    (h : Broker.Offers ids m a b) (channel : Channel) : channel.name b = channel.name a := by
  have hname : ∀ (c : Broker) (id : QueueId),
      (Channel.queue id).name c = ((c.queues[id]?).map Queue.name).getD "" := by
    intro c id
    rw [Channel.name]
    cases c.queues[id]? <;> rfl
  cases channel with
  | queue id => rw [hname, hname, h.map_name_eq]
  | router => rfl

theorem Channel.name_of_queues_eq {a b : Broker} (h : b.queues = a.queues) (channel : Channel) :
    channel.name b = channel.name a := by
  cases channel with
  | queue id => rw [Channel.name, Channel.name, h]
  | router => rfl

/-! ## The steps of an endpoint -/

namespace Endpoint

variable {e : Endpoint} {m : Message} {b : Broker} {args : List Argument} {returned : Returned}

theorem handle_of_unbound {fault : BindingError} (h : e.binder.arguments m = .error fault) :
    e.handle m b = (.error (.binding e.name fault), b) := by
  rw [handle, h]

theorem handle_of_bound (h : e.binder.arguments m = .ok args) :
    e.handle m b =
      match e.handler args b.stamp with
      | .error failure =>
        (.error (.handler e.name failure.text), (b.record (.invoked e.label args)).issue)
      | .ok none => (.ok none, (b.record (.invoked e.label args)).issue)
      | .ok (some returned) => e.reply m returned (b.record (.invoked e.label args)).issue := by
  rw [handle, h]
  rfl

theorem reply_of_null (h : returned.value.isNull = true) :
    e.reply m returned b = (.error (.binding e.name .missingPayloadForOutbound), b.issue) := by
  rw [reply, Message.reply_of_null m h]

theorem sendReply_of_no_output (h : e.output = none) (r : Message) (b : Broker) :
    e.sendReply r b = (.ok (some r), b) := by
  rw [sendReply, h]

theorem sendReply_of_output {channel : Channel} (h : e.output = some channel) (r : Message)
    (b : Broker) :
    e.sendReply r b =
      (if (channel.send r b).1 = .sent then .ok (some r)
        else .error (.replyNotSent e.name (channel.name b) (channel.send r b).1),
        (channel.send r b).2) := by
  rw [sendReply, h, ← channel.name_of_offers (channel.send_offers r b)]
  by_cases hsent : (channel.send r b).1 = .sent
  · simp only [if_pos hsent]
  · simp only [if_neg hsent]

theorem issued_sendReply (e : Endpoint) (r : Message) (b : Broker) :
    (e.sendReply r b).2.issued = b.issued := by
  cases h : e.output with
  | none => rw [sendReply_of_no_output h]
  | some channel => rw [sendReply_of_output h, (channel.send_offers r b).issued_eq]

/-- Where the handler returned something that is not null, a reply is made of it, with the second
identity that is given while the message is handled, and is sent on. -/
theorem handle_of_returned (hargs : e.binder.arguments m = .ok args)
    (hreturned : e.handler args b.stamp = .ok (some returned))
    (hnull : returned.value.isNull = false) :
    ∃ r b₁, b.Invoked e.label args b₁ ∧ b₁.issued = b.issued + 2 ∧
      r.id = Uuid.issued (b.issued + 1) ∧ m.Answers returned r ∧
      e.handle m b = e.sendReply r b₁ := by
  let invoked := b.record (.invoked e.label args)
  obtain ⟨r, hreply, hid, hanswers⟩ := m.exists_reply hnull invoked.issue.stamp
  refine ⟨r, invoked.issue.issue, (b.invoked_record e.label args).issue.issue, rfl, hid, hanswers,
    ?_⟩
  rw [handle_of_bound hargs, hreturned]
  simp only [reply]
  rw [hreply]

end Endpoint

theorem Uuid.issued_succ_ne (n : Nat) : issued (n + 1) ≠ issued n := by
  intro h
  have hbits : first + BitVec.ofNat 128 (n + 1) = first + BitVec.ofNat 128 n := congrArg Uuid.bits h
  have hnat := congrArg BitVec.toNat (BitVec.add_right_inj first |>.mp hbits)
  rw [BitVec.toNat_ofNat, BitVec.toNat_ofNat] at hnat
  omega

/-- An endpoint whose message cannot be bound fails with that fault, and nothing happens.  Otherwise
its handler is invoked.  If the handler fails, so does the endpoint; if it returns nothing, there is
no reply; if it returns null, none can be made; and in these cases nothing is sent.  In all others
there is one reply, which has the payload that the handler returned, the headers that the handler
set and, for the rest, those of the request, and an identity that neither the request nor the
message that the handler returned can have, unless identities are given twice.  This reply is
offered once to the output, if there is one, and is given back if and only if it is not rejected; a
rejection is reported with the name and the answer of the output.  A queue that accepts the reply
holds it as its last message, and one that rejects it stays as it was. -/
theorem Endpoint.handle_offers_reply_once (e : Endpoint) (m : Message) (b : Broker) :
    (∀ fault, e.binder.arguments m = .error fault →
      e.handle m b = (.error (.binding e.name fault), b)) ∧
    ∀ args, e.binder.arguments m = .ok args →
      (∀ failure, e.handler args b.stamp = .error failure → ∃ b', b.Invoked e.label args b' ∧
        e.handle m b = (.error (.handler e.name failure.text), b')) ∧
      (e.handler args b.stamp = .ok none → ∃ b', b.Invoked e.label args b' ∧
        e.handle m b = (.ok none, b')) ∧
      ∀ returned, e.handler args b.stamp = .ok (some returned) →
        (returned.value.isNull = true → ∃ b', b.Invoked e.label args b' ∧
          e.handle m b = (.error (.binding e.name .missingPayloadForOutbound), b')) ∧
        (returned.value.isNull = false → ∃ r b₁, b.Invoked e.label args b₁ ∧
          m.Answers returned r ∧
          (∀ x : Message, x = m ∨ returned = .message x →
            x.id = b.stamp.id ∨ ¬b.Gives (e.handle m b).2 x.id → r.id ≠ x.id) ∧
          (e.output = none → e.handle m b = (.ok (some r), b₁)) ∧
          ∀ channel, e.output = some channel →
            (e.handle m b).2 = (channel.send r b₁).2 ∧
            ((channel.send r b₁).1 = .sent → (e.handle m b).1 = .ok (some r)) ∧
            ((channel.send r b₁).1 ≠ .sent → (e.handle m b).1 =
              .error (.replyNotSent e.name (channel.name b) (channel.send r b₁).1)) ∧
            ∀ id q, channel = .queue id → b.queues[id]? = some q →
              (channel.send r b₁).1 = q.answer ∧
              (e.handle m b).2.journal = ⟨b.clock, .offered id r q.answer⟩ ::
                ⟨b.clock, .invoked e.label args⟩ :: b.journal ∧
              (e.handle m b).2.queues =
                if q.answer = .sent then b.queues.set id { q with items := q.items ++ [r] }
                else b.queues) := by
  refine ⟨fun fault hfault ↦ handle_of_unbound hfault, fun args hargs ↦ ?_⟩
  have hinvoked := (b.invoked_record e.label args).issue
  refine ⟨fun failure hfailure ↦ ⟨_, hinvoked, ?_⟩, fun hnothing ↦ ⟨_, hinvoked, ?_⟩,
    fun returned hreturned ↦ ⟨fun hnull ↦ ⟨_, hinvoked.issue, ?_⟩, fun hnull ↦ ?_⟩⟩
  · rw [handle_of_bound hargs, hfailure]
  · rw [handle_of_bound hargs, hnothing]
  · rw [handle_of_bound hargs, hreturned]
    exact reply_of_null hnull
  · obtain ⟨r, b₁, hb₁, hissued, hid, hanswers, hhandle⟩ := handle_of_returned hargs hreturned hnull
    refine ⟨r, b₁, hb₁, hanswers, ?_, fun hout ↦ ?_, fun channel hout ↦ ?_⟩
    · rintro x - hx heq
      rcases hx with hown | hfresh
      · exact Uuid.issued_succ_ne b.issued (hid.symm.trans (heq.trans hown))
      · refine hfresh ⟨b.issued + 1, Nat.le_succ _, ?_, heq.symm.trans hid⟩
        rw [hhandle, issued_sendReply, hissued]
        exact Nat.lt_succ_self _
    · rw [hhandle, sendReply_of_no_output hout]
    · rw [hhandle, sendReply_of_output hout, channel.name_of_queues_eq hb₁.queues]
      refine ⟨rfl, fun hsent ↦ if_pos hsent, fun hrejected ↦ if_neg hrejected, ?_⟩
      rintro id q rfl hq
      have hq₁ : b₁.queues[id]? = some q := hb₁.queues ▸ hq
      rw [Channel.send, Broker.queues_offer r hq₁, Broker.offer_eq r hq₁, hb₁.queues]
      refine ⟨rfl, ?_, rfl⟩
      show ⟨b₁.clock, _⟩ :: b₁.journal = _
      rw [hb₁.clock, hb₁.journal]

/-- The handler returns a message on which it set the tenant to null.  The reply keeps that,
although the request has a tenant, and takes the trace from the request; the queue of the output
holds it and nothing else, under an identity that the request does not have. -/
theorem Endpoint.handle_offers_reply_once_of_null_header :
    let binder : Binder :=
      ⟨"ship", [⟨0, .value, none, none, false, false⟩], [.payload], some 0, none, none⟩
    let headers := Dictionary.ofList [("tenant", .string "acme"), ("trace", .string "t-1")]
    let m : Message := ⟨Uuid.issued 0, Timestamp.epoch, .string "order-1", headers⟩
    let returned : Returned := .message
      ⟨Uuid.issued 1, Timestamp.epoch, .string "shipped", Dictionary.empty.insert "tenant" .null⟩
    let args : List Argument := [.payload (.string "order-1")]
    let e : Endpoint :=
      { label := "ship", binder := binder, handler := fun _ _ ↦ .ok (some returned)
        output := some (.queue 0) }
    let q : Queue := { name := "parcels", capacity := 1 }
    let b : Broker := { issued := 1, queues := [q] }
    e.binder.arguments m = .ok args ∧ e.handler args b.stamp = .ok (some returned) ∧
      returned.value.isNull = false ∧
      ∃ r, (e.handle m b).1 = .ok (some r) ∧ (e.handle m b).2.queues = [{ q with items := [r] }] ∧
        r.payload = .string "shipped" ∧ r.header? "tenant" = some .null ∧
        r.header? "trace" = some (.string "t-1") ∧ r.id ≠ m.id := by
  intro binder headers m returned args e q b
  have hargs : e.binder.arguments m = .ok args := rfl
  have hreturned : e.handler args b.stamp = .ok (some returned) := rfl
  have hnull : returned.value.isNull = false := rfl
  have hsent : q.answer = .sent := by decide
  obtain ⟨-, -, hreply⟩ := (handle_offers_reply_once e m b).2 args hargs
  obtain ⟨r, b₁, -, hanswers, hids, -, hout⟩ := (hreply returned hreturned).2 hnull
  obtain ⟨-, hok, -, hqueue⟩ := hout (.queue 0) rfl
  obtain ⟨hanswer, -, hqueues⟩ := hqueue 0 q rfl rfl
  refine ⟨hargs, hreturned, hnull, r, hok (hanswer.trans hsent), ?_, hanswers.payload, ?_, ?_, ?_⟩
  · rw [hqueues, if_pos hsent]
    rfl
  · rw [hanswers.header]
    rfl
  · rw [hanswers.header]
    rfl
  · apply hids m (.inl rfl)
    refine .inr ?_
    rintro ⟨n, hle, hlt, heq⟩
    have hunique : n < Nat.pow 2 128 := Nat.lt_of_lt_of_le hlt (show 3 ≤ Nat.pow 2 128 by decide)
    have hzero : 0 = n := Uuid.issued_injective (by decide) hunique heq
    subst hzero
    exact absurd hle (by decide)

end Messaging
