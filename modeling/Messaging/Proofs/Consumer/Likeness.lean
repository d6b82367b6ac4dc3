import Messaging.Proofs.Broker.Likeness
import Messaging.Proofs.Consumer.Handling

/-!
# What consumers make of alike brokers

A handler is steady if what it gives back depends on its arguments only, up to the stamp of a
message that it builds.  A consumer with a steady handler carries nothing over from one message to
the next but what its channels hold: it takes alike brokers to alike brokers.

So whatever else happens while it handles messages one after the other, as long as its channels stay
as they are, they end up as if it had handled the same messages at once.
-/

namespace Messaging

/-- Results with the same image are the same error, or values with the same image. -/
theorem error_or_ok_of_map_eq_map {ε α β : Type} {f : α → β} {x y : Except ε α}
    (h : x.map f = y.map f) :
    (∃ e, x = .error e ∧ y = .error e) ∨ ∃ a a', x = .ok a ∧ y = .ok a' ∧ f a = f a' := by
  cases x with
  | error e =>
    cases y with
    | error e' =>
      cases h
      exact .inl ⟨e, rfl, rfl⟩
    | ok a' => cases h
  | ok a =>
    cases y with
    | error e' => cases h
    | ok a' => exact .inr ⟨a, a', rfl, rfl, Except.ok.inj h⟩

/-! ## Replies -/

/-- What of a handler's result does not depend on a stamp: a payload, or a message's content. -/
def Returned.content : Returned → Value × Option Headers
  | .payload value => (value, none)
  | .message m => (m.payload, some m.headers)

/-- What the handler gives back depends on its arguments only, up to the stamp of a message. -/
def Handler.Steady (handler : Handler) : Prop :=
  ∀ (args : List Argument) (stamp stamp' : Stamp),
    (handler args stamp).map (Option.map Returned.content) =
      (handler args stamp').map (Option.map Returned.content)

/-- A reply is drafted from the content of what the handler returned. -/
theorem Returned.draft_eq_of_content_eq {returned returned' : Returned}
    (h : returned.content = returned'.content) (request : Message) :
    returned.draft request = returned'.draft request := by
  have hdraft : ∀ r : Returned, r.draft request = match r.content with
      | (value, none) => (Draft.ofPayload value).copy request.headers.entries
      | (value, some headers) => (Draft.mk value headers).copyIfAbsent request.headers.entries := by
    intro r
    cases r with
    | payload value => rfl
    | message m => rfl
  rw [hdraft, hdraft, h]

/-- The same request has the same reply, or none, up to its stamp. -/
theorem Message.map_content_reply (request : Message) {returned returned' : Returned}
    (h : returned.content = returned'.content) (stamp stamp' : Stamp) :
    (request.reply (some returned) stamp).map content =
      (request.reply (some returned') stamp').map content := by
  rw [reply, reply, Returned.draft_eq_of_content_eq h, Draft.build, Draft.build]
  split <;> rfl

/-! ## Endpoints -/

namespace Endpoint

variable {e : Endpoint} {first b b' : Broker} {ids : List QueueId}

theorem sendReply_alike (hids : ∀ id ∈ e.targets, id ∈ ids) {reply reply' : Message}
    (hreply : reply.content = reply'.content) (h : Broker.Alike first ids b b') :
    (e.sendReply reply b).1.map (Option.map Message.content) =
        (e.sendReply reply' b').1.map (Option.map Message.content) ∧
      Broker.Alike first ids (e.sendReply reply b).2 (e.sendReply reply' b').2 := by
  have hok : (.ok (some reply) : Except EndpointError _).map (Option.map Message.content) =
      (Except.ok (some reply')).map (Option.map Message.content) :=
    congrArg (fun content ↦ Except.ok (some content)) hreply
  unfold targets at hids
  unfold sendReply
  cases houtput : e.output with
  | none => exact ⟨hok, h⟩
  | some channel =>
    rw [houtput] at hids
    obtain ⟨houtcome, hafter⟩ := channel.send_alike hreply b b' hids h
    have hname := hafter.name_eq hids
    simp only
    rw [houtcome, hname]
    by_cases hsent : (channel.send reply' b').1 = .sent
    · rw [if_pos hsent, if_pos hsent]
      exact ⟨hok, hafter⟩
    · rw [if_neg hsent, if_neg hsent]
      exact ⟨rfl, hafter⟩

theorem reply_alike (hids : ∀ id ∈ e.targets, id ∈ ids) (request : Message)
    {returned returned' : Returned} (hreturned : returned.content = returned'.content)
    (h : Broker.Alike first ids b b') :
    (e.reply request returned b).1.map (Option.map Message.content) =
        (e.reply request returned' b').1.map (Option.map Message.content) ∧
      Broker.Alike first ids (e.reply request returned b).2 (e.reply request returned' b').2 := by
  have hreply := request.map_content_reply hreturned b.stamp b'.stamp
  unfold reply
  obtain ⟨fault, hr, hr'⟩ | ⟨reply, reply', hr, hr', hcontent⟩ := error_or_ok_of_map_eq_map hreply
  · rw [hr, hr']
    exact ⟨rfl, h⟩
  · rw [hr, hr']
    exact sendReply_alike hids hcontent h

/-- The same request has the same result, up to the stamp of the reply. -/
theorem handle_alike (hsteady : e.handler.Steady) (hids : ∀ id ∈ e.targets, id ∈ ids)
    (request : Message) (h : Broker.Alike first ids b b') :
    (e.handle request b).1.map (Option.map Message.content) =
        (e.handle request b').1.map (Option.map Message.content) ∧
      Broker.Alike first ids (e.handle request b).2 (e.handle request b').2 := by
  unfold handle
  cases e.binder.arguments request with
  | error fault => exact ⟨rfl, h⟩
  | ok args =>
    have hresult := hsteady args b.stamp b'.stamp
    have hstamp : (b.record (.invoked e.label args)).stamp = b.stamp := rfl
    have hstamp' : (b'.record (.invoked e.label args)).stamp = b'.stamp := rfl
    simp only [hstamp, hstamp']
    obtain ⟨failure, hr, hr'⟩ | ⟨returned, returned', hr, hr', hcontent⟩ :=
      error_or_ok_of_map_eq_map hresult
    · rw [hr, hr']
      exact ⟨rfl, h⟩
    · rw [hr, hr']
      cases returned with
      | none =>
        cases returned' with
        | none => exact ⟨rfl, h⟩
        | some returned' => cases hcontent
      | some returned =>
        cases returned' with
        | none => cases hcontent
        | some returned' => exact reply_alike hids request (Option.some.inj hcontent) h

end Endpoint

/-! ## Consumers -/

namespace Consumer

variable {c : Consumer} {first b b' : Broker}

theorem forwardError_alike (m : Message) (e : EndpointError)
    (h : Broker.Alike first c.targets b b') :
    Broker.Alike first c.targets (c.forwardError m e b) (c.forwardError m e b') := by
  unfold forwardError
  cases hc : c.errors with
  | none => exact h
  | some channel =>
    have hbuild : ∀ stamp : Stamp, (c.errorDraft m e).build stamp = .ok ⟨stamp.id, stamp.time,
        (c.errorDraft m e).payload, (c.errorDraft m e).headers⟩ :=
      Draft.build_of_isNull_eq_false rfl
    simp only [hbuild]
    refine (Channel.send_alike ?_ channel b.issue b'.issue ?_ h).2
    · rfl
    · unfold targets
      rw [hc]
      exact fun id hid ↦ List.mem_append_right _ hid

/-- A consumer with a steady handler takes alike brokers to alike brokers. -/
theorem process_alike (hsteady : c.endpoint.handler.Steady) (m : Message)
    (h : Broker.Alike first c.targets b b') :
    Broker.Alike first c.targets (c.process m b) (c.process m b') := by
  obtain ⟨hresult, hafter⟩ := Endpoint.handle_alike hsteady
    (fun id hid ↦ List.mem_append_left _ hid : ∀ id ∈ c.endpoint.targets, id ∈ c.targets) m h
  unfold process
  generalize c.endpoint.handle m b = p, c.endpoint.handle m b' = p' at *
  obtain ⟨result, b₁⟩ := p
  obtain ⟨result', b₁'⟩ := p'
  obtain ⟨e, rfl, rfl⟩ | ⟨reply, reply', rfl, rfl, -⟩ := error_or_ok_of_map_eq_map hresult
  · exact forwardError_alike m e hafter
  · exact hafter

/-! ## Several messages -/

/-- Handles messages at once, one after the other. -/
def processAll (c : Consumer) (ms : List Message) (b : Broker) : Broker :=
  ms.foldl (fun b m ↦ c.process m b) b

/-- What handling a message comes to is what the consumer makes of it. -/
theorem settles_iff {m : Message} : c.Settles m b b' ↔ b' = c.process m b := by
  constructor
  · intro h
    unfold process
    cases h with
    | handled h => rw [h]
    | dropped h hc => simp only [h, forwardError, hc]
    | reported h hc hr => simp only [h, forwardError, hc, hr]
  · rintro rfl
    exact c.process_settles m b

/-- However messages are handled one after the other, the channels end up as if they had been
handled at once. -/
theorem Handles.alike (hsteady : c.endpoint.handler.Steady) {ms : List Message}
    (h : c.Handles ms b b') : Broker.Alike b c.targets (c.processAll ms b) b' := by
  induction h with
  | pause h => exact (Broker.Alike.refl _ _).of_queues_eq h.queues
  | @next ms m b b₁ b₂ b' _ hm h' ih =>
    obtain rfl := settles_iff.mp hm
    have hlast : c.processAll (ms ++ [m]) b = c.process m (c.processAll ms b) := by
      rw [processAll, List.foldl_append]
      rfl
    rw [hlast]
    exact (process_alike hsteady m ih).of_queues_eq h'.queues

end Consumer

end Messaging
