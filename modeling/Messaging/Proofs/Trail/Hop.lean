import Messaging.Proofs.Broker.Sending

/-!
# Hops

One message follows from another in three ways: an endpoint replies to it, a router passes it on, or
a consumer reports that it failed.  Each of these hops takes over the headers of the message, except
those to which it gives a value itself.  A reply keeps what the handler set on a message that it
returned; a report says which message failed, whatever that message said before.

A router passes on the message itself.  The other two hops stamp a new message, whose identity is
the next one that the broker gives.
-/

namespace Messaging

/-- How one message follows from another. -/
inductive Hop where
  /-- An endpoint replied with what its handler returned. -/
  | replied (returned : Returned)
  /-- A router passed the message on. -/
  | routed
  /-- A consumer reported that the message failed. -/
  | reported

namespace Hop

/-- A hop leads from one message to another, while the broker changes. -/
inductive Leads : Hop → Broker → Message → Broker → Message → Prop
  /-- The endpoint handled the message and gave a reply. -/
  | replied {e : Endpoint} {b b' : Broker} {m r : Message} {args : List Argument}
      {returned : Returned} (hargs : e.binder.arguments m = .ok args)
      (hreturned : e.handler args b.stamp = .ok (some returned))
      (h : e.handle m b = (.ok (some r), b')) : Leads (.replied returned) b m b' r
  /-- A message was offered to some queue while the router passed this one on. -/
  | routed {r : Router} {b : Broker} {m m' : Message} (h : b.Presents (r.route m b).2 m') :
      Leads .routed b m (r.route m b).2 m'
  /-- The endpoint of the consumer failed, and a message was offered to some queue while the
  consumer forwarded the error. -/
  | reported {c : Consumer} {e : EndpointError} {b b₁ : Broker} {m m' : Message}
      (h : c.endpoint.handle m b = (.error e, b₁))
      (hm : b₁.Presents (c.forwardError m e b₁) m') :
      Leads .reported b m (c.forwardError m e b₁) m'

/-- The value that a hop from a message itself gives to a header. -/
def given? (request : Message) (k : String) : Hop → Option Value
  | replied (.payload _) => none
  | replied (.message m) => m.header? k
  | routed => none
  | reported =>
    if k = Consumer.failedMessageId then some (.string request.id.text) else none

end Hop

/-! ## Replies -/

/-- The draft of a reply has the headers that the handler set, and else those of the request. -/
theorem Returned.get?_draft (returned : Returned) (request : Message) (k : String) :
    (returned.draft request).headers.get? k =
      ((Hop.replied returned).given? request k).or (request.header? k) := by
  cases returned with
  | payload value =>
    show (Dictionary.empty.insertAll request.headers.entries).get? k = _
    rw [Dictionary.get?_insertAll, Dictionary.get?_empty, Option.or_none]
    rfl
  | message m => exact Dictionary.get?_insertAllIfAbsent _ _ _

namespace Endpoint

variable {e : Endpoint} {m r : Message} {b b' : Broker}

theorem sendReply_eq_ok {reply : Option Message} (h : e.sendReply r b = (.ok reply, b')) :
    reply = some r ∧ b.issued ≤ b'.issued := by
  have hlater := (e.sendReply_sends r b).reaches.later.2
  rw [h] at hlater
  refine ⟨?_, hlater⟩
  unfold sendReply at h
  split at h
  · cases h
    rfl
  · simp only at h
    split at h
    · cases h
      rfl
    · cases h

/-- A reply is the draft of what the handler returned, under the second stamp that is taken while
the message is handled: the first one was for the handler. -/
theorem reply_of_handle {args : List Argument} {returned : Returned}
    (hargs : e.binder.arguments m = .ok args)
    (hreturned : e.handler args b.stamp = .ok (some returned))
    (h : e.handle m b = (.ok (some r), b')) :
    m.reply (some returned) (b.stampOf (b.issued + 1)) = .ok r ∧ b.issued + 1 < b'.issued := by
  have hreturned : e.handler args (b.record (.invoked e.label args)).stamp = .ok (some returned) :=
    hreturned
  unfold handle at h
  rw [hargs] at h
  simp only [hreturned] at h
  unfold Endpoint.reply at h
  split at h
  · cases h
  · rename_i reply hreply
    obtain ⟨hr, hissued⟩ := sendReply_eq_ok h
    cases hr
    exact ⟨hreply, hissued⟩

end Endpoint

/-! ## Reports -/

namespace Consumer

variable {c : Consumer} {e : EndpointError} {m m' : Message} {b : Broker}

/-- The draft of a report has the headers of the message that failed, and says which one that is. -/
theorem get?_errorDraft (c : Consumer) (m : Message) (e : EndpointError) (k : String) :
    (c.errorDraft m e).headers.get? k = (Hop.reported.given? m k).or (m.header? k) := by
  unfold errorDraft
  show ((Dictionary.empty.insertAll m.headers.entries).insert failedMessageId _).get? k = _
  rw [Dictionary.get?_insert, Dictionary.get?_insertAll, Dictionary.get?_empty, Option.or_none,
    Hop.given?]
  by_cases hk : failedMessageId = k
  · rw [if_pos hk, if_pos hk.symm, Option.some_or]
  · rw [if_neg hk, if_neg (Ne.symm hk), Option.none_or]
    rfl

/-- What is offered while an error is forwarded is the report, under the next stamp. -/
theorem build_of_presents (h : b.Presents (c.forwardError m e b) m') :
    (c.errorDraft m e).build b.stamp = .ok m' ∧ (c.forwardError m e b).issued = b.issued + 1 := by
  unfold forwardError at h ⊢
  split at h
  · exact (h.journal_ne rfl).elim
  · rename_i channel _
    split at h
    · exact (h.journal_ne rfl).elim
    · rename_i report hreport
      have hoffers := channel.send_offers report b.issue
      obtain rfl := hoffers.eq_of_presents h
      exact ⟨hreport, hoffers.issued_eq⟩

end Consumer

/-! ## Headers and identities after a hop -/

namespace Hop.Leads

variable {hop : Hop} {b b' : Broker} {m m' : Message}

theorem reaches (h : hop.Leads b m b' m') : b.Reaches b' := by
  cases h with
  | @replied e _ _ _ _ _ _ _ _ h =>
    have hsends := e.handle_sends m b
    rw [h] at hsends
    exact hsends.reaches
  | @routed r => exact (Channel.sendAll_offers m r.ignoring r.recipients 0 b).sends.reaches
  | @reported c e _ b₁ _ _ h =>
    have hsends := c.endpoint.handle_sends m b
    rw [h] at hsends
    exact hsends.reaches.trans (c.forwardError_sends m e b₁).reaches

/-- A router passes on the message itself. -/
theorem eq_of_routed (h : Hop.routed.Leads b m b' m') : m' = m := by
  cases h with
  | @routed r _ _ _ hm =>
    exact (Channel.sendAll_offers m r.ignoring r.recipients 0 b).eq_of_presents hm

/-- A reply or a report is built from a draft, under a stamp that is taken during the hop. -/
theorem eq_or_built (h : hop.Leads b m b' m') :
    hop = .routed ∧ m' = m ∨ ∃ (d : Draft) (n : Nat), b.issued ≤ n ∧ n < b'.issued ∧
      m'.id = Uuid.issued n ∧ m'.headers = d.headers ∧
      ∀ k, d.headers.get? k = (hop.given? m k).or (m.header? k) := by
  cases h with
  | @replied e _ _ _ _ args returned hargs hreturned h =>
    obtain ⟨hreply, hissued⟩ := Endpoint.reply_of_handle hargs hreturned h
    obtain ⟨-, rfl⟩ := Draft.mapError_build_eq_ok_iff.mp hreply
    exact .inr ⟨returned.draft m, b.issued + 1, Nat.le_succ _, hissued, rfl, rfl,
      returned.get?_draft m⟩
  | @routed r _ _ _ hm => exact .inl ⟨rfl, eq_of_routed (.routed hm)⟩
  | @reported c e _ b₁ _ _ h hm =>
    obtain ⟨hbuild, hissued⟩ := Consumer.build_of_presents hm
    have hlater := (c.endpoint.handle_sends m b).reaches.later.2
    rw [h] at hlater
    rw [Draft.build_of_isNull_eq_false rfl] at hbuild
    cases hbuild
    exact .inr ⟨c.errorDraft m e, b₁.issued, hlater, by omega, rfl, rfl, c.get?_errorDraft m e⟩

/-- After a hop a header has the value that the hop gives to it, and otherwise the one that it had
before. -/
theorem header?_eq (h : hop.Leads b m b' m') (k : String) :
    m'.header? k = (hop.given? m k).or (m.header? k) := by
  obtain ⟨rfl, rfl⟩ | ⟨d, _, -, -, -, hheaders, hd⟩ := h.eq_or_built
  · rfl
  · rw [Message.header?, hheaders, hd]

/-- A hop other than a router's gives a message an identity that the broker stamps during the
hop. -/
theorem id_eq (h : hop.Leads b m b' m') (hne : hop ≠ .routed) :
    ∃ n, b.issued ≤ n ∧ n < b'.issued ∧ m'.id = Uuid.issued n := by
  obtain ⟨rfl, -⟩ | ⟨_, n, hle, hlt, hid, -⟩ := h.eq_or_built
  · exact (hne rfl).elim
  · exact ⟨n, hle, hlt, hid⟩

end Hop.Leads

end Messaging
