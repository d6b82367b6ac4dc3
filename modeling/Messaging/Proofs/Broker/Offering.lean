import Messaging.Channel

/-!
# Offers

What a channel sends arrives unchanged.  A router passes a message on and makes no new one, so a
channel offers the message that it was given to the queues at its ends, and nothing else happens.
The journal tells of every offer, and of its answer.
-/

namespace Messaging

namespace Broker

/-- Between the two brokers the message was offered to some queue, whatever the answer. -/
def Presents (b b' : Broker) (m : Message) : Prop :=
  ∃ later id instant outcome, b'.journal = later ++ b.journal ∧
    ⟨instant, .offered id m outcome⟩ ∈ later

theorem Presents.journal_ne {b b' : Broker} {m : Message} (h : b.Presents b' m) :
    b'.journal ≠ b.journal := by
  obtain ⟨later, id, instant, outcome, hlater, hmem⟩ := h
  intro heq
  rw [List.self_eq_append_left.mp (heq.symm.trans hlater)] at hmem
  cases hmem

/-- The broker after a message was offered to some of these queues, and nothing else happened. -/
inductive Offers (ids : List QueueId) (m : Message) (b : Broker) : Broker → Prop
  /-- Nothing happened. -/
  | refl : Offers ids m b b
  /-- The message was offered to one of the queues. -/
  | offer {b' : Broker} {id : QueueId} :
      Offers ids m b b' → id ∈ ids → Offers ids m b (b'.offer id m).2

namespace Offers

variable {ids : List QueueId} {m : Message} {a b c : Broker}

theorem trans (h : Offers ids m a b) (h' : Offers ids m b c) : Offers ids m a c := by
  induction h' with
  | refl => exact h
  | offer _ hid ih => exact ih.offer hid

theorem mono {ids' : List QueueId} (h : Offers ids m a b) (hsub : ∀ id ∈ ids, id ∈ ids') :
    Offers ids' m a b := by
  induction h with
  | refl => exact .refl
  | offer _ hid ih => exact ih.offer (hsub _ hid)

theorem issued_eq (h : Offers ids m a b) : b.issued = a.issued := by
  induction h with
  | refl => rfl
  | offer _ _ ih => rw [issued_offer, ih]

/-- The journal tells of offers of the message only. -/
theorem journal_eq (h : Offers ids m a b) :
    ∃ later, b.journal = later ++ a.journal ∧
      ∀ e ∈ later, ∃ id outcome, e.event = .offered id m outcome := by
  induction h with
  | refl => exact ⟨[], rfl, fun e he ↦ by cases he⟩
  | @offer b id _ _ ih =>
    obtain ⟨later, hlater, hall⟩ := ih
    unfold Broker.offer
    cases hq : b.queues[id]? with
    | none => exact ⟨later, hlater, hall⟩
    | some q =>
      refine ⟨⟨b.clock, .offered id m q.answer⟩ :: later, congrArg (List.cons _) hlater, ?_⟩
      intro e he
      rcases List.mem_cons.mp he with rfl | he
      · exact ⟨id, q.answer, rfl⟩
      · exact hall e he

theorem eq_of_presents (h : Offers ids m a b) {m' : Message} (hm : a.Presents b m') : m' = m := by
  obtain ⟨later, hlater, hall⟩ := h.journal_eq
  obtain ⟨later', id, instant, outcome, hlater', hmem⟩ := hm
  obtain rfl : later = later' := List.append_cancel_right (hlater.symm.trans hlater')
  obtain ⟨id', outcome', he⟩ := hall _ hmem
  cases he
  rfl

end Offers

end Broker

mutual

/-- A channel offers the message to the queues at its ends. -/
theorem Channel.send_offers (m : Message) :
    ∀ (channel : Channel) (b : Broker), Broker.Offers channel.queueIds m b (channel.send m b).2
  | .queue id, b => by
    rw [Channel.send]
    exact Broker.Offers.refl.offer (by simp [Channel.queueIds])
  | .router _ ignoring recipients, b => by
    rw [Channel.send]
    exact Channel.sendAll_offers m ignoring recipients 0 b

/-- Sending to channels in order offers the message to the queues at their ends. -/
theorem Channel.sendAll_offers (m : Message) (ignoring : Bool) :
    ∀ (channels : List Channel) (delivered : Nat) (b : Broker),
      Broker.Offers (Channel.allQueueIds channels) m b
        (Channel.sendAll m ignoring delivered channels b).2
  | [], delivered, b => by
    rw [Channel.sendAll]
    exact .refl
  | channel :: rest, delivered, b => by
    have hfirst : Broker.Offers (Channel.allQueueIds (channel :: rest)) m b (channel.send m b).2 :=
      (Channel.send_offers m channel b).mono fun id hid ↦ by
        rw [Channel.allQueueIds]
        exact List.mem_append_left _ hid
    have hrest : ∀ n b', Broker.Offers (Channel.allQueueIds (channel :: rest)) m b'
        (Channel.sendAll m ignoring n rest b').2 := fun n b' ↦
      (Channel.sendAll_offers m ignoring rest n b').mono fun id hid ↦ by
        rw [Channel.allQueueIds]
        exact List.mem_append_right _ hid
    rw [Channel.sendAll]
    split
    · rename_i b' hs
      rw [hs] at hfirst
      exact hfirst.trans (hrest _ b')
    · rename_i outcome b' _ hs
      rw [hs] at hfirst
      split
      · exact hfirst.trans (hrest _ b')
      · exact hfirst

end

end Messaging
