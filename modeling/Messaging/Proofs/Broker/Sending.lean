import Messaging.Consumer
import Messaging.Proofs.Broker.Offering
import Messaging.Proofs.Broker.Diary
import Messaging.Proofs.Broker.Run

/-!
# Sending

Channels, endpoints and consumers change a broker in three ways only: they stamp new messages, they
offer messages to queues, and an endpoint notes that it invokes its handler.  `Broker.Sends ids` is
what can come of that if the messages are offered to the queues in `ids`; a channel offers to the
queues at its ends, an endpoint to those of its output, and a consumer also to those of its error
channel.
-/

namespace Messaging

namespace Broker

/-- The broker after some new messages were stamped, some messages were offered to these queues, and
some things were noted that concern neither a queue nor a task. -/
inductive Sends (ids : List QueueId) (b : Broker) : Broker → Prop
  /-- Nothing happened. -/
  | refl : Sends ids b b
  /-- A message was offered to one of the queues. -/
  | offer {b' : Broker} {id : QueueId} (m : Message) :
      Sends ids b b' → id ∈ ids → Sends ids b (b'.offer id m).2
  /-- A new message was stamped. -/
  | issue {b' : Broker} : Sends ids b b' → Sends ids b b'.issue
  /-- Something was noted. -/
  | note {b' : Broker} {event : Event} :
      Sends ids b b' → event.queue? = none → event.task? = none → Sends ids b (b'.record event)

namespace Sends

variable {ids : List QueueId} {a b c : Broker}

theorem trans (h : Sends ids a b) (h' : Sends ids b c) : Sends ids a c := by
  induction h' with
  | refl => exact h
  | offer m _ hid ih => exact ih.offer m hid
  | issue _ ih => exact ih.issue
  | note _ he ht ih => exact ih.note he ht

theorem mono {ids' : List QueueId} (h : Sends ids a b) (hsub : ∀ id ∈ ids, id ∈ ids') :
    Sends ids' a b := by
  induction h with
  | refl => exact .refl
  | offer m _ hid ih => exact ih.offer m (hsub _ hid)
  | issue _ ih => exact ih.issue
  | note _ he ht ih => exact ih.note he ht

theorem reaches (h : Sends ids a b) : Reaches a b := by
  induction h with
  | refl => exact .refl a
  | offer m _ _ ih => exact ih.trans (Step.offer _ _ m).reaches
  | issue _ ih => exact ih.trans (Step.issue _).reaches
  | note _ he _ ih => exact ih.trans (Step.note _ he).reaches

/-- Nothing that is sent takes time. -/
theorem clock_eq (h : Sends ids a b) : b.clock = a.clock := by
  induction h with
  | refl => rfl
  | offer m _ _ ih => rw [clock_offer, ih]
  | issue _ ih => exact ih
  | note _ _ _ ih => exact ih

/-- Queues to which nothing is sent stay as they are. -/
theorem getElem?_of_notMem (h : Sends ids a b) {id : QueueId} (hid : id ∉ ids) :
    b.queues[id]? = a.queues[id]? := by
  induction h with
  | refl => rfl
  | offer m _ hmem ih =>
    have hne : _ ≠ id := fun he ↦ hid (he ▸ hmem)
    rw [getElem?_offer_of_ne _ _ hne, ih]
  | issue _ ih => exact ih
  | note _ _ _ ih => exact ih

/-- A queue to which something is sent has some more messages at its end, or none, and is otherwise
as it was. -/
theorem exists_getElem?_eq (h : Sends ids a b) (id : QueueId) :
    ∃ ms, b.queues[id]? = (a.queues[id]?).map fun q ↦ { q with items := q.items ++ ms } := by
  induction h with
  | refl => exact ⟨[], by simp⟩
  | @offer b' i m _ _ ih =>
    obtain ⟨ms, hms⟩ := ih
    by_cases hne : i = id
    · subst hne
      cases hq : a.queues[i]? with
      | none =>
        rw [hq, Option.map_none] at hms
        exact ⟨[], by rw [Broker.offer, hms]; exact hms⟩
      | some q =>
        rw [hq, Option.map_some] at hms
        let q' : Queue := { q with items := q.items ++ ms }
        refine ⟨if q'.answer = .sent then ms ++ [m] else ms, ?_⟩
        rw [offer_eq m hms]
        refine (getElem?_setQueue_self _ hms).trans (congrArg some ?_)
        rw [Queue.offer]
        split <;> simp
    · exact ⟨ms, (getElem?_offer_of_ne b' m hne).trans hms⟩
  | issue _ ih => exact ih
  | note _ _ _ ih => exact ih

/-- Nothing that is sent changes who waits in line. -/
theorem map_line_eq (h : Sends ids a b) (id : QueueId) :
    (b.queues[id]?).map Queue.line = (a.queues[id]?).map Queue.line := by
  induction h with
  | refl => rfl
  | offer m _ _ ih => rw [map_line_offer, ih]
  | issue _ ih => exact ih
  | note _ _ _ ih => exact ih

/-- Nothing that is sent is told of in the diary of a task. -/
theorem diary_eq (h : Sends ids a b) (task : TaskId) : b.diary task = a.diary task := by
  induction h with
  | refl => rfl
  | offer m _ _ ih => rw [diary_offer, ih]
  | issue _ ih => exact ih
  | note _ _ ht ih =>
    rw [diary_record_of_ne _ (by rw [ht]; rintro ⟨⟩), ih]

end Sends

end Broker

/-! ## Channels -/

theorem Broker.Offers.sends {ids : List QueueId} {m : Message} {a b : Broker}
    (h : Broker.Offers ids m a b) : Broker.Sends ids a b := by
  induction h with
  | refl => exact .refl
  | offer _ hid ih => exact ih.offer m hid

/-- A channel offers to the queues at its ends. -/
theorem Channel.send_sends (m : Message) (channel : Channel) (b : Broker) :
    Broker.Sends channel.queueIds b (channel.send m b).2 := (channel.send_offers m b).sends

/-! ## Endpoints -/

namespace Endpoint

/-- The queues to which an endpoint sends its replies. -/
def targets (e : Endpoint) : List QueueId :=
  match e.output with
  | none => []
  | some channel => channel.queueIds

theorem sendReply_sends (e : Endpoint) (reply : Message) (b : Broker) :
    Broker.Sends e.targets b (e.sendReply reply b).2 := by
  unfold sendReply targets
  cases e.output with
  | none => exact .refl
  | some channel =>
    have h := channel.send_sends reply b
    by_cases hs : (channel.send reply b).1 = .sent
    · simpa [hs] using h
    · simpa [hs] using h

theorem reply_sends (e : Endpoint) (request : Message) (returned : Returned) (b : Broker) :
    Broker.Sends e.targets b (e.reply request returned b).2 := by
  unfold reply
  split
  · exact Broker.Sends.refl.issue
  · exact Broker.Sends.refl.issue.trans (e.sendReply_sends _ _)

/-- An endpoint offers its reply to the queues of its output channel, and nothing else to any
queue. -/
theorem handle_sends (e : Endpoint) (request : Message) (b : Broker) :
    Broker.Sends e.targets b (e.handle request b).2 := by
  unfold handle
  split
  · exact .refl
  · rename_i arguments _
    have h : Broker.Sends e.targets b (b.record (.invoked e.label arguments)).issue :=
      (Broker.Sends.refl.note rfl rfl).issue
    simp only
    split
    · exact h
    · exact h
    · exact h.trans (e.reply_sends _ _ _)

end Endpoint

/-! ## Consumers -/

namespace Consumer

/-- The queues to which a consumer sends replies and error messages. -/
def targets (c : Consumer) : List QueueId :=
  c.endpoint.targets ++
    match c.errors with
    | none => []
    | some channel => channel.queueIds

theorem forwardError_sends (c : Consumer) (failed : Message) (error : EndpointError) (b : Broker) :
    Broker.Sends c.targets b (c.forwardError failed error b) := by
  unfold forwardError targets
  cases c.errors with
  | none => exact .refl
  | some channel =>
    simp only
    split
    · exact Broker.Sends.refl.issue
    · rename_i m _
      refine Broker.Sends.refl.issue.trans ((channel.send_sends m _).mono fun id hid ↦ ?_)
      exact List.mem_append_right _ hid

/-- A consumer that handles a message offers messages to the queues of its output and its error
channel only. -/
theorem process_sends (c : Consumer) (m : Message) (b : Broker) :
    Broker.Sends c.targets b (c.process m b) := by
  have h : Broker.Sends c.targets b (c.endpoint.handle m b).2 :=
    (c.endpoint.handle_sends m b).mono fun id hid ↦ List.mem_append_left _ hid
  unfold process
  split
  · rename_i b' hs
    rwa [hs] at h
  · rename_i e b' hs
    rw [hs] at h
    exact h.trans (c.forwardError_sends m e b')

end Consumer

end Messaging
