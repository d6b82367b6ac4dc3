import Messaging.Proofs.Router.Route

/-!
# Routers over routers

The recipients of a router may be routers themselves, so that the whole is a tree with queues at its
ends.  Where all routers of the tree treat rejections alike, the tree does with a message what a
single router over its queues does, from left to right.  If rejections are ignored, every queue is
tried, and each router on the way reports that the message was sent.  If they are not, the answer of
the first queue that rejects the message goes up through all routers above it, and nothing to the
right of it is tried.

Routers count what they deliver, and a tree counts other things than a single router over its
queues.  The count is lost when a router answers, so the proof compares the answers for any two
counts.
-/

namespace Messaging

namespace Channel

mutual

/-- All routers of the channel ignore rejections, or none of them does, as `ignoring` says. -/
def Uniform (ignoring : Bool) : Channel → Prop
  | .queue _ => True
  | .router _ own recipients => own = ignoring ∧ AllUniform ignoring recipients

/-- All routers of the channels ignore rejections, or none of them does, as `ignoring` says. -/
def AllUniform (ignoring : Bool) : List Channel → Prop
  | [] => True
  | channel :: rest => channel.Uniform ignoring ∧ AllUniform ignoring rest

end

/-- What sending to channels in order comes to, where the count does not matter. -/
def answerAll (m : Message) (ignoring : Bool) (n : Nat) (channels : List Channel) (b : Broker) :
    Outcome × Broker :=
  (RouterError.outcome (sendAll m ignoring n channels b).1, (sendAll m ignoring n channels b).2)

theorem send_router (m : Message) (name : String) (ignoring : Bool) (recipients : List Channel)
    (b : Broker) :
    (router name ignoring recipients).send m b = answerAll m ignoring 0 recipients b := by
  rw [send, answerAll]

theorem answerAll_cons (m : Message) (ignoring : Bool) (n : Nat) (channel : Channel)
    (rest : List Channel) (b : Broker) :
    answerAll m ignoring n (channel :: rest) b =
      if (channel.send m b).1 = .sent then answerAll m ignoring (n + 1) rest (channel.send m b).2
      else if ignoring then answerAll m ignoring n rest (channel.send m b).2
      else channel.send m b := by
  rw [answerAll, sendAll_cons]
  split
  · rfl
  · cases ignoring <;> rfl

theorem answerAll_append (m : Message) (ignoring : Bool) (n : Nat)
    (channels channels' : List Channel) (b : Broker) :
    answerAll m ignoring n (channels ++ channels') b =
      match sendAll m ignoring n channels b with
      | (.ok k, b') => answerAll m ignoring k channels' b'
      | (.error e, b') => (RouterError.outcome (.error e), b') := by
  rw [answerAll, sendAll_append]
  rcases sendAll m ignoring n channels b with ⟨_ | k, b'⟩ <;> rfl

/-- Sending to channels fails only where rejections count, and with the answer of a channel that
rejected the message. -/
theorem outcome_of_sendAll_eq_error {m : Message} {ignoring : Bool} {n : Nat}
    {channels : List Channel} {b : Broker} {e : RouterError}
    (h : (sendAll m ignoring n channels b).1 = .error e) :
    ignoring = false ∧ RouterError.outcome (.error e) ≠ .sent := by
  induction channels generalizing n b with
  | nil =>
    rw [sendAll] at h
    cases h
  | cons channel rest ih =>
    rw [sendAll_cons] at h
    split at h
    · exact ih h
    · rename_i hrejected
      cases ignoring with
      | true => exact ih h
      | false =>
        cases h
        exact ⟨rfl, hrejected⟩

/-- Trees answer like their queues, and leave them in the same state. -/
theorem answerAll_flat (m : Message) {ignoring : Bool} : ∀ {channels : List Channel},
    AllUniform ignoring channels → ∀ (n k : Nat) (b : Broker),
      answerAll m ignoring n channels b =
        answerAll m ignoring k ((allQueueIds channels).map .queue) b
  | [], _, n, k, b => by
    rw [allQueueIds, List.map_nil, answerAll, answerAll, sendAll, sendAll]
    rfl
  | .queue id :: rest, h, n, k, b => by
    have hflat : (allQueueIds (.queue id :: rest)).map queue =
        .queue id :: (allQueueIds rest).map queue := by
      rw [allQueueIds, queueIds]
      rfl
    rw [hflat, answerAll_cons, answerAll_cons, answerAll_flat m h.2 (n + 1) (k + 1),
      answerAll_flat m h.2 n k]
  | .router name own recipients :: rest, h, n, k, b => by
    obtain ⟨⟨rfl, hrecipients⟩, hrest⟩ := h
    have hflat : (allQueueIds (.router name own recipients :: rest)).map queue =
        (allQueueIds recipients).map queue ++ (allQueueIds rest).map queue := by
      rw [allQueueIds, queueIds, List.map_append]
    -- On the left the inner router starts to count anew, on the right its queues go on with `k`.
    rw [hflat, answerAll_append, answerAll_cons, send_router, answerAll_flat m hrecipients 0 k b,
      answerAll]
    rcases hsendAll : sendAll m own k ((allQueueIds recipients).map queue) b with ⟨_ | j, b'⟩
    · obtain ⟨rfl, hrejected⟩ := outcome_of_sendAll_eq_error (congrArg Prod.fst hsendAll)
      rw [if_neg hrejected, if_neg Bool.false_ne_true]
    · rw [if_pos (by rfl)]
      exact answerAll_flat m hrest (n + 1) j b'

end Channel

namespace Router

/-- A router that is used as a channel forgets how many recipients accepted the message. -/
theorem send_channel (r : Router) (m : Message) (b : Broker) :
    r.channel.send m b = (RouterError.outcome (r.route m b).1, (r.route m b).2) := by
  rw [channel, Channel.send, route]

/-- A router that does not report the message as sent reports the answer of the first of its queues
that rejects it, and the queues before that one have their copies. -/
theorem rejection_of_outcome_ne_sent {r : Router} {ids : List QueueId}
    (hr : r.recipients = ids.map .queue) {m : Message} {b : Broker}
    (hb : ∀ id ∈ ids, ∃ q, b.queues[id]? = some q) (hsent : (r.channel.send m b).1 ≠ .sent) :
    ∃ before id after, ids = before ++ id :: after ∧
      b.Answers m (before.map (·, .sent) ++ [(id, (r.channel.send m b).1)]) ∧
      (r.channel.send m b).2 =
        b.afterOffers m (before.map (·, .sent) ++ [(id, (r.channel.send m b).1)]) := by
  obtain ⟨offers, rfl, h⟩ := Broker.exists_answers m hb
  obtain ⟨-, hroute⟩ | ⟨before, id, a, after, q, rfl, hbefore, -, hroute⟩ := route_cases hr h
  · rw [send_channel, hroute] at hsent
    exact (hsent rfl).elim
  have hanswers : b.Answers m (before ++ [(id, a)]) := by
    rw [List.append_cons] at h
    exact (Broker.answers_append_iff.mp h).1
  have hmap : (before.map Prod.fst).map (·, .sent) = before := by
    rw [List.map_map]
    refine (List.map_congr_left fun o ho ↦ ?_).trans before.map_id
    exact Prod.ext rfl (hbefore o ho).symm
  have houtcome : (r.channel.send m b).1 = a := by
    rw [send_channel, hroute]
    rfl
  refine ⟨before.map Prod.fst, id, after.map Prod.fst, by rw [List.map_append, List.map_cons], ?_⟩
  rw [houtcome, hmap]
  exact ⟨hanswers, by rw [send_channel, hroute]⟩

/-- Nesting routers is flattening.  A router over a tree of routers that all treat rejections as it
does answers as a single router over the queues of the tree from left to right would, and leaves
the same state.  In particular, if it does not report the message as sent, then it reports the
answer of the first queue that rejects the message, however deep that one is, and the queues before
it have their copies. -/
theorem send_nested (r : Router) (hr : Channel.AllUniform r.ignoring r.recipients) (name : String)
    (m : Message) (b : Broker) :
    r.channel.send m b =
      (channel ⟨name, r.channel.queueIds.map .queue, r.ignoring⟩).send m b ∧
    ((∀ id ∈ r.channel.queueIds, ∃ q, b.queues[id]? = some q) →
      (r.channel.send m b).1 ≠ .sent →
      ∃ before id after, r.channel.queueIds = before ++ id :: after ∧
        b.Answers m (before.map (·, .sent) ++ [(id, (r.channel.send m b).1)]) ∧
        (r.channel.send m b).2 =
          b.afterOffers m (before.map (·, .sent) ++ [(id, (r.channel.send m b).1)])) := by
  have hflat : r.channel.send m b =
      (channel ⟨name, r.channel.queueIds.map .queue, r.ignoring⟩).send m b := by
    rw [channel, channel, Channel.queueIds, Channel.send_router, Channel.send_router,
      Channel.answerAll_flat m hr 0 0 b]
  refine ⟨hflat, fun hb hsent ↦ ?_⟩
  rw [hflat] at hsent ⊢
  exact rejection_of_outcome_ne_sent rfl hb hsent

/-- A queue that is full ends everything two levels below: it comes before it as well, where it had
room, and the last queue of the tree is not tried. -/
theorem send_nested_of_full_queue :
    let m : Message := ⟨Uuid.issued 1, Timestamp.epoch, .string "order-2", Dictionary.empty⟩
    let narrow : Queue := { name := "narrow", capacity := 1 }
    let wide : Queue := { name := "wide", capacity := 8 }
    let b : Broker := { queues := [narrow, wide, wide] }
    let inner : Channel := .router "inner" false [.queue 1, .router "innermost" false [.queue 0]]
    let r : Router := { name := "outer", recipients := [.queue 0, inner, .queue 2] }
    Channel.AllUniform r.ignoring r.recipients ∧
      (∀ id ∈ r.channel.queueIds, ∃ q, b.queues[id]? = some q) ∧
      (r.channel.send m b).1 = .full ∧
      (r.channel.send m b).2.queues =
        [{ narrow with items := [m] }, { wide with items := [m] }, wide] ∧
      ∃ before id after, [0, 1, 0, 2] = before ++ id :: after ∧
        b.Answers m (before.map (·, .sent) ++ [(id, .full)]) := by
  intro m narrow wide b inner r
  have hr : Channel.AllUniform r.ignoring r.recipients :=
    ⟨trivial, ⟨rfl, trivial, ⟨rfl, trivial, trivial⟩, trivial⟩, trivial, trivial⟩
  have hb : ∀ id ∈ r.channel.queueIds, ∃ q, b.queues[id]? = some q := by
    rintro id (_ | ⟨_, _ | ⟨_, _ | ⟨_, _ | ⟨_, ⟨⟩⟩⟩⟩⟩) <;> exact ⟨_, rfl⟩
  obtain ⟨hflat, hfirst⟩ := send_nested r hr "flat" m b
  have hfull : (r.channel.send m b).1 = .full := by
    rw [hflat]
    rfl
  have hsent : (r.channel.send m b).1 ≠ .sent := by
    rw [hfull]
    exact nofun
  obtain ⟨before, id, after, hids, hanswers, -⟩ := hfirst hb hsent
  refine ⟨hr, hb, hfull, ?_, before, id, after, hids, hfull ▸ hanswers⟩
  rw [hflat]
  rfl

end Router

end Messaging
