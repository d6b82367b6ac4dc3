import Messaging.Proofs.Broker.Sending

/-!
# Handling messages one after the other

A consumer gives a message to its endpoint.  That succeeds or fails; only a failure leads to an
error message, which is sent once, and whatever becomes of it the message is done with.  Between two
messages other things may happen to the broker, as long as the channels of the consumer stay as they
are.
-/

namespace Messaging

/-- The second broker comes after the first one, and these queues are as they were. -/
structure Broker.Passes (ids : List QueueId) (b b' : Broker) : Prop where
  queues : ∀ id ∈ ids, b'.queues[id]? = b.queues[id]?
  clock : b.clock ≤ b'.clock
  issued : b.issued ≤ b'.issued

namespace Broker.Passes

variable {ids : List QueueId} {a b c : Broker}

theorem refl (ids : List QueueId) (b : Broker) : Passes ids b b :=
  ⟨fun _ _ ↦ rfl, Nat.le_refl _, Nat.le_refl _⟩

theorem trans (h : Passes ids a b) (h' : Passes ids b c) : Passes ids a c :=
  ⟨fun id hid ↦ (h'.queues id hid).trans (h.queues id hid), Nat.le_trans h.clock h'.clock,
    Nat.le_trans h.issued h'.issued⟩

theorem setQueue {id : QueueId} (hid : id ∉ ids) (b : Broker) (q : Queue) :
    Passes ids b (b.setQueue id q) := by
  refine ⟨fun i hi ↦ getElem?_setQueue_of_ne b q ?_, Nat.le_refl _, Nat.le_refl _⟩
  rintro rfl
  exact hid hi

theorem record (h : Passes ids a b) (e : Event) : Passes ids a (b.record e) :=
  ⟨h.queues, h.clock, h.issued⟩

/-- A turn that ends changes its own queue only. -/
theorem serve {id : QueueId} (hid : id ∉ ids) {task : TaskId} {got : Option Message}
    (hs : b.serve id task = some (got, c)) : Passes ids b c := by
  obtain ⟨q, w, q', -, -, -, rfl⟩ := serve_eq_some_iff.mp hs
  exact (setQueue hid b q').record _

end Broker.Passes

namespace Consumer

/-! ## One message -/

/-- A message is handled: it succeeds, and there is no error message; or it fails, and one error
message is sent to the error channel, if there is one. -/
inductive Settles (c : Consumer) (m : Message) (b : Broker) : Broker → Prop
  /-- The endpoint handled the message. -/
  | handled {reply : Option Message} {b' : Broker} (h : c.endpoint.handle m b = (.ok reply, b')) :
      Settles c m b b'
  /-- The endpoint failed, and no one is told. -/
  | dropped {e : EndpointError} {b' : Broker} (h : c.endpoint.handle m b = (.error e, b'))
      (hc : c.errors = none) : Settles c m b b'
  /-- The endpoint failed, and an error message is sent, whatever the answer. -/
  | reported {e : EndpointError} {b' : Broker} {channel : Channel} {report : Message}
      (h : c.endpoint.handle m b = (.error e, b')) (hc : c.errors = some channel)
      (hr : (c.errorDraft m e).build b'.stamp = .ok report) :
      Settles c m b (channel.send report b'.issue).2

/-- An error message can always be built. -/
theorem build_errorDraft (c : Consumer) (m : Message) (e : EndpointError) (stamp : Stamp) :
    ∃ report, (c.errorDraft m e).build stamp = .ok report :=
  ⟨_, Draft.build_of_isNull_eq_false rfl stamp⟩

theorem process_settles (c : Consumer) (m : Message) (b : Broker) :
    c.Settles m b (c.process m b) := by
  unfold process
  split
  · rename_i reply b' h
    exact .handled h
  · rename_i e b' h
    unfold forwardError
    cases hc : c.errors with
    | none => exact .dropped h hc
    | some channel =>
      obtain ⟨report, hr⟩ := c.build_errorDraft m e b'.stamp
      simp only [hr]
      exact .reported h hc hr

/-! ## Several messages -/

/-- Messages are handled one after the other, each of them once. -/
inductive Handles (c : Consumer) : List Message → Broker → Broker → Prop
  /-- No message is handled, and the channels stay as they are. -/
  | pause {b b' : Broker} (h : b.Passes c.targets b') : Handles c [] b b'
  /-- One more message is handled, and then the channels stay as they are. -/
  | next {ms : List Message} {m : Message} {b b₁ b₂ b' : Broker} (h : Handles c ms b b₁)
      (hm : c.Settles m b₁ b₂) (h' : b₂.Passes c.targets b') : Handles c (ms ++ [m]) b b'

theorem Handles.pass {c : Consumer} {ms : List Message} {b b₁ b' : Broker} (h : c.Handles ms b b₁)
    (h' : b₁.Passes c.targets b') : c.Handles ms b b' := by
  cases h with
  | pause h => exact .pause (h.trans h')
  | next h hm hp => exact .next h hm (hp.trans h')

end Consumer

end Messaging
