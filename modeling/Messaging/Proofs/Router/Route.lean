import Messaging.Channel
import Messaging.Proofs.Broker.Copies

/-!
# What a router delivers

A router tries its recipients in order.  Where all of them are queues, each one answers in the state
in which the deliveries before it have left it, which matters when a queue comes twice or is nearly
full.  A router that ignores rejections tries all of them and counts those that accept.  Any other
router stops at the first one that rejects the message: the recipients before it keep their copies,
and those after it get none.
-/

namespace Messaging

/-! ## Sending to channels in order -/

namespace Channel

theorem sendAll_cons (m : Message) (ignoring : Bool) (n : Nat) (channel : Channel)
    (rest : List Channel) (b : Broker) :
    sendAll m ignoring n (channel :: rest) b =
      if (channel.send m b).1 = .sent then sendAll m ignoring (n + 1) rest (channel.send m b).2
      else if ignoring then sendAll m ignoring n rest (channel.send m b).2
      else (.error (.sendFailed (channel.name (channel.send m b).2) (channel.send m b).1),
        (channel.send m b).2) := by
  rw [sendAll]
  rcases channel.send m b with ⟨outcome, b'⟩
  cases outcome <;> rfl

/-- Later channels are tried if and only if the earlier ones let the message pass. -/
theorem sendAll_append (m : Message) (ignoring : Bool) (n : Nat) (channels channels' : List Channel)
    (b : Broker) :
    sendAll m ignoring n (channels ++ channels') b =
      match sendAll m ignoring n channels b with
      | (.ok k, b') => sendAll m ignoring k channels' b'
      | (.error e, b') => (.error e, b') := by
  induction channels generalizing n b with
  | nil => rw [List.nil_append, sendAll]
  | cons channel rest ih =>
    rw [List.cons_append, sendAll_cons, sendAll_cons, ih, ih]
    split
    · rfl
    · cases ignoring <;> rfl

/-! ## Sending to queues -/

variable {b : Broker} {m : Message} {offers : List (QueueId × Outcome)}

theorem send_queue_of_answers {id : QueueId} {a : Outcome} (h : b.Answers m ((id, a) :: offers)) :
    (queue id).send m b = (a, b.afterOffers m [(id, a)]) := by
  rw [send, h.offer_eq]

/-- Where rejections are ignored or there are none, all queues are tried, and those that accept are
counted. -/
theorem sendAll_of_answers (h : b.Answers m offers) {ignoring : Bool}
    (hpass : ignoring = true ∨ ∀ o ∈ offers, o.2 = .sent) (n : Nat) :
    sendAll m ignoring n (offers.map fun o ↦ queue o.1) b =
      (.ok (n + offers.countP fun o ↦ o.2 = .sent), b.afterOffers m offers) := by
  induction offers generalizing b n with
  | nil => rw [List.map_nil, sendAll, b.afterOffers_nil, List.countP_nil, Nat.add_zero]
  | cons o offers ih =>
    obtain ⟨id, a⟩ := o
    have hrest := (Broker.answers_cons_iff.mp h).2
    have hpassed : ignoring = true ∨ ∀ o ∈ offers, o.2 = .sent :=
      hpass.imp_right fun hall o ho ↦ hall o (List.mem_cons_of_mem _ ho)
    rw [List.map_cons, sendAll_cons, send_queue_of_answers h, b.afterOffers_cons m (id, a) offers,
      ih hrest hpassed, ih hrest hpassed]
    by_cases ha : a = .sent
    · rw [if_pos ha, List.countP_cons_of_pos (by simpa using ha), Nat.add_right_comm, Nat.add_assoc]
    · have hignoring : ignoring = true :=
        hpass.resolve_right fun hall ↦ ha (hall _ List.mem_cons_self)
      rw [if_neg ha, if_pos hignoring, List.countP_cons_of_neg (by simpa using ha)]

/-- Where rejections count, the first one ends it. -/
theorem sendAll_of_rejection {id : QueueId} {a : Outcome} {after : List (QueueId × Outcome)}
    (h : b.Answers m (offers ++ (id, a) :: after)) (hbefore : ∀ o ∈ offers, o.2 = .sent)
    (ha : a ≠ .sent) (n : Nat) :
    ∃ q, b.queues[id]? = some q ∧
      sendAll m false n ((offers ++ (id, a) :: after).map fun o ↦ queue o.1) b =
        (.error (.sendFailed q.name a), b.afterOffers m (offers ++ [(id, a)])) := by
  obtain ⟨hanswers, hnext⟩ := Broker.answers_append_iff.mp h
  obtain ⟨⟨q', hq', -⟩, -⟩ := Broker.answers_cons_iff.mp hnext
  rw [Broker.getElem?_afterOffers] at hq'
  obtain ⟨q, hq, -⟩ := Option.map_eq_some_iff.mp hq'
  -- The name is looked up after the offers, which leave names as they are.
  have hname : (queue id).name (b.afterOffers m (offers ++ [(id, a)])) = q.name := by
    rw [name, Broker.getElem?_afterOffers, hq]
    rfl
  refine ⟨q, hq, ?_⟩
  rw [List.map_append, sendAll_append, sendAll_of_answers hanswers (.inr hbefore)]
  show sendAll m false _ (queue id :: _) _ = _
  rw [sendAll_cons, send_queue_of_answers hnext, if_neg ha, if_neg Bool.false_ne_true,
    ← Broker.afterOffers_append, hname]

/-- Offers are all accepted, or one of them is the first that is not. -/
theorem accepted_or_rejected (offers : List (QueueId × Outcome)) :
    (∀ o ∈ offers, o.2 = .sent) ∨ ∃ before id a after, offers = before ++ (id, a) :: after ∧
      (∀ o ∈ before, o.2 = .sent) ∧ a ≠ .sent := by
  induction offers with
  | nil => exact .inl fun o ho ↦ by cases ho
  | cons o offers ih =>
    obtain ⟨id, a⟩ := o
    by_cases ha : a = .sent
    · rcases ih with hall | ⟨before, id', a', after, rfl, hbefore, ha'⟩
      · exact .inl (List.forall_mem_cons.mpr ⟨ha, hall⟩)
      · exact .inr ⟨(id, a) :: before, id', a', after, rfl,
          List.forall_mem_cons.mpr ⟨ha, hbefore⟩, ha'⟩
    · exact .inr ⟨[], id, a, offers, rfl, nofun, ha⟩

end Channel

/-! ## Routers over queues -/

/-- What a queue accepted of offers that were all accepted but the last one: a copy for each time
that it comes among them. -/
theorem Broker.count_of_accepted {before : List (QueueId × Outcome)} {id : QueueId} {a : Outcome}
    (hbefore : ∀ o ∈ before, o.2 = .sent) (ha : a ≠ .sent) (i : QueueId) :
    (before ++ [(id, a)]).count (i, .sent) = (before.map Prod.fst).count i := by
  rw [List.count_append, List.count_singleton, if_neg (by simp [ha]), Nat.add_zero]
  induction before with
  | nil => rfl
  | cons o before ih =>
    obtain ⟨hsent, hrest⟩ := List.forall_mem_cons.mp hbefore
    obtain ⟨i', a'⟩ := o
    obtain rfl : a' = .sent := hsent
    rw [List.map_cons, List.count_cons, List.count_cons, ih hrest]
    simp

namespace Router

variable {r : Router} {b : Broker} {m : Message} {offers : List (QueueId × Outcome)}

theorem route_of_answers (hr : r.recipients = (offers.map Prod.fst).map .queue)
    (h : b.Answers m offers) (hpass : r.ignoring = true ∨ ∀ o ∈ offers, o.2 = .sent) :
    r.route m b = (.ok (offers.countP fun o ↦ o.2 = .sent), b.afterOffers m offers) := by
  rw [route, hr, List.map_map]
  exact (Channel.sendAll_of_answers h hpass 0).trans (by rw [Nat.zero_add])

theorem route_of_rejection {id : QueueId} {a : Outcome} {after : List (QueueId × Outcome)}
    (hr : r.recipients = ((offers ++ (id, a) :: after).map Prod.fst).map .queue)
    (h : b.Answers m (offers ++ (id, a) :: after)) (hstrict : r.ignoring = false)
    (hbefore : ∀ o ∈ offers, o.2 = .sent) (ha : a ≠ .sent) :
    ∃ q, b.queues[id]? = some q ∧
      r.route m b = (.error (.sendFailed q.name a), b.afterOffers m (offers ++ [(id, a)])) := by
  rw [route, hr, List.map_map, hstrict]
  exact Channel.sendAll_of_rejection h hbefore ha 0

/-- A router over queues tries all of them or stops at the first one that rejects the message. -/
theorem route_cases (hr : r.recipients = (offers.map Prod.fst).map .queue)
    (h : b.Answers m offers) :
    ((r.ignoring = true ∨ ∀ o ∈ offers, o.2 = .sent) ∧
      r.route m b = (.ok (offers.countP fun o ↦ o.2 = .sent), b.afterOffers m offers)) ∨
    ∃ before id a after q, offers = before ++ (id, a) :: after ∧ (∀ o ∈ before, o.2 = .sent) ∧
      a ≠ .sent ∧
      r.route m b = (.error (.sendFailed q a), b.afterOffers m (before ++ [(id, a)])) := by
  by_cases hpass : r.ignoring = true ∨ ∀ o ∈ offers, o.2 = .sent
  · exact .inl ⟨hpass, route_of_answers hr h hpass⟩
  · obtain ⟨hstrict, hall⟩ := not_or.mp hpass
    obtain ⟨before, id, a, after, rfl, hbefore, ha⟩ :=
      (Channel.accepted_or_rejected offers).resolve_left hall
    obtain ⟨q, -, hroute⟩ := route_of_rejection hr h (Bool.eq_false_iff.mpr hstrict) hbefore ha
    exact .inr ⟨before, id, a, after, q.name, rfl, hbefore, ha, hroute⟩

/-- Whatever a router over queues does, it offers the message to the first few of them. -/
theorem exists_tried (hr : r.recipients = (offers.map Prod.fst).map .queue)
    (h : b.Answers m offers) :
    ∃ tried, tried <+: offers ∧ (r.route m b).2 = b.afterOffers m tried := by
  rcases route_cases hr h with ⟨-, hroute⟩ | ⟨before, id, a, after, q, rfl, -, -, hroute⟩
  · exact ⟨offers, List.prefix_rfl, by rw [hroute]⟩
  · exact ⟨before ++ [(id, a)], ⟨after, List.append_assoc _ _ _⟩, by rw [hroute]⟩

/-- A router whose recipients are queues tries them in order, and each one answers in the state in
which those before it have left it.  If rejections are ignored, all are tried, and those that accept
are counted.  Otherwise all are tried if all accept, and then all are counted; if one rejects the
message, the first one that does is reported by its name and its answer, those before it have one
copy for each time that they come before it, and no other queue has any.  Whatever the router does,
the copies stand behind what the queues held, and together the queues hold as many messages more as
recipients accepted. -/
theorem route_in_order (r : Router) {ids : List QueueId} (hr : r.recipients = ids.map .queue)
    (m : Message) {b : Broker} (hb : ∀ id ∈ ids, ∃ q, b.queues[id]? = some q) :
    ∃ offers, offers.map Prod.fst = ids ∧ b.Answers m offers ∧
      (r.ignoring = true →
        r.route m b = (.ok (offers.countP fun o ↦ o.2 = .sent), b.afterOffers m offers)) ∧
      (r.ignoring = false →
        ((r.route m b).1 = .ok ids.length ↔ ∀ o ∈ offers, o.2 = .sent) ∧
        ((∀ o ∈ offers, o.2 = .sent) → (r.route m b).2 = b.afterOffers m offers) ∧
        ∀ before id a after, offers = before ++ (id, a) :: after →
          (∀ o ∈ before, o.2 = .sent) → a ≠ .sent → ∃ q, b.queues[id]? = some q ∧
            r.route m b = (.error (.sendFailed q.name a), b.afterOffers m (before ++ [(id, a)])) ∧
            ∀ i, (r.route m b).2.queues[i]? = (b.queues[i]?).map fun q' : Queue ↦
              q'.withCopies m ((before.map Prod.fst).count i)) ∧
      ∃ tried, tried <+: offers ∧ (r.route m b).2 = b.afterOffers m tried ∧
        (r.route m b).2.load ids.toFinset =
          b.load ids.toFinset + tried.countP fun o ↦ o.2 = .sent := by
  obtain ⟨offers, rfl, h⟩ := Broker.exists_answers m hb
  refine ⟨offers, rfl, h, fun hignoring ↦ route_of_answers hr h (.inl hignoring),
    fun hstrict ↦ ⟨⟨fun hok ↦ ?_, fun hall ↦ ?_⟩, fun hall ↦ ?_, ?_⟩, ?_⟩
  · rcases route_cases hr h with ⟨hpass, -⟩ | ⟨before, id, a, after, q, -, -, -, hroute⟩
    · exact hpass.resolve_left (Bool.eq_false_iff.mp hstrict)
    · rw [hroute] at hok
      cases hok
  · rw [route_of_answers hr h (.inr hall), List.length_map]
    exact congrArg Except.ok (List.countP_eq_length.mpr (by simpa using hall))
  · rw [route_of_answers hr h (.inr hall)]
  · rintro before id a after rfl hbefore ha
    obtain ⟨q, hq, hroute⟩ := route_of_rejection hr h hstrict hbefore ha
    refine ⟨q, hq, hroute, fun i ↦ ?_⟩
    rw [hroute, Broker.getElem?_afterOffers, Broker.count_of_accepted hbefore ha]
  · obtain ⟨tried, htried, hroute⟩ := exists_tried hr h
    refine ⟨tried, htried, hroute, ?_⟩
    rw [hroute]
    refine Broker.load_afterOffers (fun id hid ↦ hb id (List.mem_toFinset.mp hid)) fun o ho ↦ ?_
    exact List.mem_toFinset.mpr (List.mem_map_of_mem (htried.subset ho))

/-- A queue with room for one more message comes twice.  The second time it is full, which ends it:
it has one copy, as has the queue between, and the last queue has none. -/
theorem route_in_order_of_repeated_queue :
    let m : Message := ⟨Uuid.issued 1, Timestamp.epoch, .string "order-2", Dictionary.empty⟩
    let old : Message := ⟨Uuid.issued 0, Timestamp.epoch, .string "order-1", Dictionary.empty⟩
    let narrow : Queue := { name := "narrow", capacity := 2, items := [old] }
    let wide : Queue := { name := "wide", capacity := 8 }
    let b : Broker := { queues := [narrow, wide, wide] }
    let r : Router := { name := "all", recipients := [.queue 0, .queue 1, .queue 0, .queue 2] }
    r.recipients = [0, 1, 0, 2].map .queue ∧ (∀ id ∈ [0, 1, 0, 2], ∃ q, b.queues[id]? = some q) ∧
      (r.route m b).1 = .error (.sendFailed "narrow" .full) ∧
      (r.route m b).2.queues[0]? = some { narrow with items := [old, m] } ∧
      (r.route m b).2.queues[1]? = some { wide with items := [m] } ∧
      (r.route m b).2.queues[2]? = some wide := by
  intro m old narrow wide b r
  have hb : ∀ id ∈ [0, 1, 0, 2], ∃ q, b.queues[id]? = some q := by
    rintro id (_ | ⟨_, _ | ⟨_, _ | ⟨_, _ | ⟨_, ⟨⟩⟩⟩⟩⟩) <;> exact ⟨_, rfl⟩
  obtain ⟨offers, hids, hanswers, -, hstrict, -⟩ := @route_in_order r [0, 1, 0, 2] rfl m b hb
  obtain ⟨a₀, a₁, a₂, a₃, rfl⟩ :
      ∃ a₀ a₁ a₂ a₃, offers = [(0, a₀), (1, a₁), (0, a₂), (2, a₃)] := by
    match offers, hids with
    | [(_, a₀), (_, a₁), (_, a₂), (_, a₃)], rfl => exact ⟨a₀, a₁, a₂, a₃, rfl⟩
  -- The answers follow from what the queues hold when their turn comes.
  have answer : ∀ i id a q, [(0, a₀), (1, a₁), (0, a₂), (2, a₃)][i]? = some (id, a) →
      (b.afterOffers m ([(0, a₀), (1, a₁), (0, a₂), (2, a₃)].take i)).queues[id]? = some q →
      q.answer = a := by
    intro i id a q hi hq
    obtain ⟨q', hq', ha⟩ := hanswers i id a hi
    rwa [Option.some.inj (hq.symm.trans hq')]
  obtain rfl : .sent = a₀ := answer 0 0 a₀ narrow rfl rfl
  obtain rfl : .sent = a₁ := answer 1 1 a₁ wide rfl rfl
  obtain rfl : .full = a₂ := answer 2 0 a₂ { narrow with items := [old, m] } rfl rfl
  obtain ⟨q, hq, hroute, hqueues⟩ :=
    (hstrict rfl).2.2 [(0, .sent), (1, .sent)] 0 .full [(2, a₃)] rfl (by decide) (by decide)
  cases hq
  exact ⟨rfl, hb, congrArg Prod.fst hroute, hqueues 0, hqueues 1, hqueues 2⟩

end Router

end Messaging
