import Messaging.Proofs.Broker.Sending

/-!
# Likeness

Two runs that do the same stamp their new messages differently.  What they have in common of a
message is its content: the payload and the headers.  Two brokers are alike if their queues hold
the same old messages and behind them new ones of the same content, and answer alike.

What is sent does not tell alike brokers apart: messages of the same content get the same answer
from a channel, and the brokers stay alike.
-/

namespace Messaging

/-! ## The content of messages -/

/-- What of a message does not depend on its stamp. -/
def Message.content (m : Message) : Value × Headers := (m.payload, m.headers)

/-! ## Queues -/

/-- Two queues of the same kind hold what a third one held at first, and behind that messages of the
same content. -/
structure Queue.Alike (first q q' : Queue) : Prop where
  name : q.name = q'.name
  capacity : q.capacity = q'.capacity
  closed : q.closed = q'.closed
  items : ∃ l l', q.items = first.items ++ l ∧ q'.items = first.items ++ l' ∧
    l.map Message.content = l'.map Message.content

namespace Queue.Alike

variable {first q q' q'' : Queue}

theorem refl (q : Queue) : Alike q q q :=
  ⟨rfl, rfl, rfl, [], [], (List.append_nil _).symm, (List.append_nil _).symm, rfl⟩

theorem symm (h : Alike first q q') : Alike first q' q := by
  obtain ⟨l, l', hl, hl', hcontent⟩ := h.items
  exact ⟨h.name.symm, h.capacity.symm, h.closed.symm, l', l, hl', hl, hcontent.symm⟩

theorem trans (h : Alike first q q') (h' : Alike first q' q'') : Alike first q q'' := by
  obtain ⟨l₁, l₂, hl₁, hl₂, h₁₂⟩ := h.items
  obtain ⟨l, l₃, hl, hl₃, h₂₃⟩ := h'.items
  obtain rfl : l₂ = l := List.append_cancel_left (hl₂.symm.trans hl)
  exact ⟨h.name.trans h'.name, h.capacity.trans h'.capacity, h.closed.trans h'.closed,
    l₁, l₃, hl₁, hl₃, h₁₂.trans h₂₃⟩

theorem length_eq (h : Alike first q q') : q.items.length = q'.items.length := by
  obtain ⟨l, l', hl, hl', hcontent⟩ := h.items
  have hlength := congrArg List.length hcontent
  rw [List.length_map, List.length_map] at hlength
  rw [hl, hl', List.length_append, List.length_append, hlength]

theorem answer_eq (h : Alike first q q') : q.answer = q'.answer := by
  unfold answer
  rw [h.closed, h.capacity, h.length_eq]

theorem offer (h : Alike first q q') {m m' : Message} (hm : m.content = m'.content) :
    Alike first (q.offer m) (q'.offer m') := by
  unfold Queue.offer
  rw [h.answer_eq]
  by_cases hsent : q'.answer = .sent
  · rw [if_pos hsent, if_pos hsent]
    obtain ⟨l, l', hl, hl', hcontent⟩ := h.items
    refine ⟨h.name, h.capacity, h.closed, l ++ [m], l' ++ [m'], ?_, ?_, ?_⟩
    · rw [hl, List.append_assoc]
    · rw [hl', List.append_assoc]
    · rw [List.map_append, List.map_append, hcontent, List.map_singleton, List.map_singleton, hm]
  · rw [if_neg hsent, if_neg hsent]
    exact h

end Queue.Alike

/-! ## Brokers -/

/-- Two brokers have those of these queues that a third one had at first, and each of them holds
what it held at first and behind that messages of the same content. -/
def Broker.Alike (first : Broker) (ids : List QueueId) (b b' : Broker) : Prop :=
  ∀ id ∈ ids,
    first.queues[id]? = none ∧ b.queues[id]? = none ∧ b'.queues[id]? = none ∨
      ∃ q₀ q q', first.queues[id]? = some q₀ ∧ b.queues[id]? = some q ∧ b'.queues[id]? = some q' ∧
        q₀.Alike q q'

namespace Broker.Alike

variable {first b b' b'' : Broker} {ids : List QueueId}

theorem refl (b : Broker) (ids : List QueueId) : Alike b ids b b := by
  intro id _
  cases b.queues[id]? with
  | none => exact .inl ⟨rfl, rfl, rfl⟩
  | some q => exact .inr ⟨q, q, q, rfl, rfl, rfl, .refl q⟩

theorem symm (h : Alike first ids b b') : Alike first ids b' b := by
  intro id hid
  obtain ⟨hfirst, hq, hq'⟩ | ⟨q₀, q, q', hfirst, hq, hq', halike⟩ := h id hid
  · exact .inl ⟨hfirst, hq', hq⟩
  · exact .inr ⟨q₀, q', q, hfirst, hq', hq, halike.symm⟩

theorem trans (h : Alike first ids b b') (h' : Alike first ids b' b'') :
    Alike first ids b b'' := by
  intro id hid
  obtain ⟨hfirst, hq, -⟩ | ⟨q₀, q, q', hfirst, hq, hq', halike⟩ := h id hid
  · obtain ⟨-, -, hq''⟩ | ⟨_, _, _, hfirst', -⟩ := h' id hid
    · exact .inl ⟨hfirst, hq, hq''⟩
    · cases hfirst.symm.trans hfirst'
  · obtain ⟨hfirst', -⟩ | ⟨q₁, q₂, q₃, hfirst', hq₂, hq₃, halike'⟩ := h' id hid
    · cases hfirst.symm.trans hfirst'
    · obtain rfl := Option.some.inj (hfirst.symm.trans hfirst')
      obtain rfl := Option.some.inj (hq'.symm.trans hq₂)
      exact .inr ⟨q₀, q, q₃, hfirst, hq, hq₃, halike.trans halike'⟩

/-- Only the queues matter. -/
theorem of_queues_eq (h : Alike first ids b b')
    (hqueues : ∀ id ∈ ids, b''.queues[id]? = b'.queues[id]?) : Alike first ids b b'' := by
  intro id hid
  rw [hqueues id hid]
  exact h id hid

/-- A channel has the same name in both brokers. -/
theorem name_eq (h : Alike first ids b b') {channel : Channel}
    (hids : ∀ id ∈ channel.queueIds, id ∈ ids) : channel.name b = channel.name b' := by
  cases channel with
  | router => rfl
  | queue id =>
    rw [Channel.name, Channel.name]
    have hid : id ∈ ids := hids id (by simp [Channel.queueIds])
    obtain ⟨-, hq, hq'⟩ | ⟨q₀, q, q', -, hq, hq', halike⟩ := h id hid
    · rw [hq, hq']
    · rw [hq, hq']
      exact halike.name

/-- Messages of the same content that are offered to a queue get the same answer. -/
theorem offer (h : Alike first ids b b') {id : QueueId} (hid : id ∈ ids) {m m' : Message}
    (hm : m.content = m'.content) :
    (b.offer id m).1 = (b'.offer id m').1 ∧
      Alike first ids (b.offer id m).2 (b'.offer id m').2 := by
  unfold Broker.offer
  obtain ⟨-, hq, hq'⟩ | ⟨q₀, q, q', hfirst, hq, hq', halike⟩ := h id hid
  · rw [hq, hq']
    exact ⟨rfl, h⟩
  · rw [hq, hq']
    refine ⟨halike.answer_eq, fun i hi ↦ ?_⟩
    rw [queues_record, queues_record]
    by_cases heq : id = i
    · subst heq
      rw [getElem?_setQueue_self _ hq, getElem?_setQueue_self _ hq']
      exact .inr ⟨q₀, _, _, hfirst, rfl, rfl, halike.offer hm⟩
    · rw [getElem?_setQueue_of_ne _ _ heq, getElem?_setQueue_of_ne _ _ heq]
      exact h i hi

end Broker.Alike

/-! ## Channels -/

section

variable {first : Broker} {ids : List QueueId} {m m' : Message}

mutual

/-- Messages of the same content get the same answer from a channel. -/
theorem Channel.send_alike (hm : m.content = m'.content) :
    ∀ (channel : Channel) (b b' : Broker), (∀ id ∈ channel.queueIds, id ∈ ids) →
      Broker.Alike first ids b b' →
      (channel.send m b).1 = (channel.send m' b').1 ∧
        Broker.Alike first ids (channel.send m b).2 (channel.send m' b').2
  | .queue id, b, b', hids, h => by
    rw [Channel.send, Channel.send]
    exact h.offer (hids id (by simp [Channel.queueIds])) hm
  | .router _ ignoring recipients, b, b', hids, h => by
    rw [Channel.send, Channel.send]
    obtain ⟨hresult, hafter⟩ := Channel.sendAll_alike hm ignoring recipients 0 b b' hids h
    exact ⟨congrArg RouterError.outcome hresult, hafter⟩

/-- Messages of the same content that are sent to channels in order are accepted by the same ones,
and the first one that rejects them is the same. -/
theorem Channel.sendAll_alike (hm : m.content = m'.content) (ignoring : Bool) :
    ∀ (channels : List Channel) (delivered : Nat) (b b' : Broker),
      (∀ id ∈ Channel.allQueueIds channels, id ∈ ids) → Broker.Alike first ids b b' →
      (Channel.sendAll m ignoring delivered channels b).1 =
          (Channel.sendAll m' ignoring delivered channels b').1 ∧
        Broker.Alike first ids (Channel.sendAll m ignoring delivered channels b).2
          (Channel.sendAll m' ignoring delivered channels b').2
  | [], delivered, b, b', hids, h => by
    rw [Channel.sendAll, Channel.sendAll]
    exact ⟨rfl, h⟩
  | channel :: rest, delivered, b, b', hids, h => by
    rw [Channel.allQueueIds] at hids
    have hchannel : ∀ id ∈ channel.queueIds, id ∈ ids :=
      fun id hid ↦ hids id (List.mem_append_left _ hid)
    obtain ⟨houtcome, hafter⟩ := Channel.send_alike hm channel b b' hchannel h
    have hrest := fun n ↦ Channel.sendAll_alike hm ignoring rest n _ _
      (fun id hid ↦ hids id (List.mem_append_right _ hid)) hafter
    have hname := hafter.name_eq hchannel
    rw [Channel.sendAll, Channel.sendAll]
    generalize channel.send m b = p, channel.send m' b' = p' at *
    obtain ⟨outcome, b₁⟩ := p
    obtain ⟨outcome', b₁'⟩ := p'
    obtain rfl : outcome = outcome' := houtcome
    have hname : channel.name b₁ = channel.name b₁' := hname
    have hfailed : ∀ outcome, (.error (.sendFailed (channel.name b₁) outcome) :
        Except RouterError Nat) = .error (.sendFailed (channel.name b₁') outcome) := by
      intro outcome
      rw [hname]
    cases outcome with
    | sent => exact hrest (delivered + 1)
    | full | closed =>
      cases ignoring with
      | true => exact hrest delivered
      | false => exact ⟨hfailed _, hafter⟩

end

end

end Messaging
