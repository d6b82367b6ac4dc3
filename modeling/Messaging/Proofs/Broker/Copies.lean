import Mathlib.Algebra.BigOperators.Group.Finset.Piecewise
import Messaging.Broker

/-!
# Copies of one message

One message is offered to several queues in order, and to a queue perhaps more than once.  What is
left of that can be told from the answers alone: each queue has as many copies behind what it held
as it accepted, and is otherwise the same.  In turn, the answers are determined by what is left of
the offers before them, since a copy that was accepted takes room from the next one.
-/

namespace Messaging

/-! ## Queues -/

namespace Queue

/-- The queue with so many copies of a message behind what it holds. -/
def withCopies (q : Queue) (m : Message) (n : Nat) : Queue :=
  { q with items := q.items ++ List.replicate n m }

@[simp] theorem withCopies_zero (q : Queue) (m : Message) : q.withCopies m 0 = q := by
  rw [withCopies, List.replicate_zero, List.append_nil]

@[simp] theorem withCopies_withCopies (q : Queue) (m : Message) (n k : Nat) :
    (q.withCopies m n).withCopies m k = q.withCopies m (n + k) := by
  simp only [withCopies, List.append_assoc, List.replicate_append_replicate]

theorem offer_eq_withCopies (q : Queue) (m : Message) :
    q.offer m = q.withCopies m (if q.answer = .sent then 1 else 0) := by
  by_cases h : q.answer = .sent
  · rw [offer, if_pos h, if_pos h]
    rfl
  · rw [offer, if_neg h, if_neg h, withCopies_zero]

end Queue

/-! ## Brokers -/

namespace Broker

/-- The broker after the message was offered to queues in order and got these answers.  Each queue
has one copy for each time that it accepted, and the journal tells of every offer. -/
def afterOffers (b : Broker) (m : Message) (offers : List (QueueId × Outcome)) : Broker :=
  { b with
    queues := b.queues.mapIdx fun id q ↦ q.withCopies m (offers.count (id, .sent))
    journal := (offers.map fun o ↦ ⟨b.clock, .offered o.1 m o.2⟩).reverse ++ b.journal }

variable {b : Broker} {m : Message} {offers : List (QueueId × Outcome)}

theorem getElem?_afterOffers (b : Broker) (m : Message) (offers : List (QueueId × Outcome))
    (id : QueueId) :
    (b.afterOffers m offers).queues[id]? =
      (b.queues[id]?).map fun q ↦ q.withCopies m (offers.count (id, .sent)) :=
  List.getElem?_mapIdx

@[simp] theorem afterOffers_nil (b : Broker) (m : Message) : b.afterOffers m [] = b := by
  have hqueues : (b.afterOffers m []).queues = b.queues := by
    apply List.ext_getElem?
    intro id
    rw [getElem?_afterOffers]
    simp
  exact congrArg (fun queues ↦ { b with queues := queues }) hqueues

theorem afterOffers_append (b : Broker) (m : Message) (offers offers' : List (QueueId × Outcome)) :
    b.afterOffers m (offers ++ offers') = (b.afterOffers m offers).afterOffers m offers' := by
  have hqueues : (b.afterOffers m (offers ++ offers')).queues =
      ((b.afterOffers m offers).afterOffers m offers').queues := by
    apply List.ext_getElem?
    intro id
    simp only [getElem?_afterOffers, Option.map_map, List.count_append]
    congr 1
    funext q
    exact (q.withCopies_withCopies m _ _).symm
  have hjournal : (b.afterOffers m (offers ++ offers')).journal =
      ((b.afterOffers m offers).afterOffers m offers').journal := by
    simp [afterOffers]
  show Broker.mk b.clock b.issued _ _ = Broker.mk b.clock b.issued _ _
  rw [Broker.mk.injEq]
  exact ⟨rfl, rfl, hqueues, hjournal⟩

theorem afterOffers_cons (b : Broker) (m : Message) (o : QueueId × Outcome)
    (offers : List (QueueId × Outcome)) :
    b.afterOffers m (o :: offers) = (b.afterOffers m [o]).afterOffers m offers :=
  b.afterOffers_append m [o] offers

/-- A single offer. -/
theorem offer_eq_afterOffers {id : QueueId} {q : Queue} (m : Message)
    (hq : b.queues[id]? = some q) :
    b.offer id m = (q.answer, b.afterOffers m [(id, q.answer)]) := by
  have hqueues : b.queues.set id (q.offer m) =
      (b.afterOffers m [(id, q.answer)]).queues := by
    apply List.ext_getElem?
    intro i
    rw [getElem?_afterOffers, List.getElem?_set]
    by_cases hi : id = i
    · subst hi
      have hlt : id < b.queues.length := (List.getElem?_eq_some_iff.mp hq).1
      rw [if_pos rfl, if_pos hlt, hq, q.offer_eq_withCopies]
      simp [List.count_singleton, beq_iff_eq]
    · rw [if_neg hi]
      simp [hi]
  rw [offer, hq]
  exact congrArg (fun queues ↦ (q.answer, { b with
    queues := queues, journal := ⟨b.clock, .offered id m q.answer⟩ :: b.journal })) hqueues

/-! ## Answers -/

/-- Queues to which the message is offered in order answer like this, each in the state in which the
offers before it have left it. -/
def Answers (b : Broker) (m : Message) (offers : List (QueueId × Outcome)) : Prop :=
  ∀ i id a, offers[i]? = some (id, a) →
    ∃ q, (b.afterOffers m (offers.take i)).queues[id]? = some q ∧ q.answer = a

theorem answers_nil (b : Broker) (m : Message) : b.Answers m [] := by
  rintro i id a ⟨⟩

theorem answers_cons_iff {id : QueueId} {a : Outcome} :
    b.Answers m ((id, a) :: offers) ↔
      (∃ q, b.queues[id]? = some q ∧ q.answer = a) ∧
        (b.afterOffers m [(id, a)]).Answers m offers := by
  constructor
  · intro h
    constructor
    · simpa using h 0 id a rfl
    · intro i id' a' hi
      rw [← afterOffers_cons]
      exact h (i + 1) id' a' hi
  · rintro ⟨hfirst, hrest⟩ i id' a' hi
    cases i with
    | zero =>
      cases hi
      simpa using hfirst
    | succ i =>
      rw [List.take_succ_cons, afterOffers_cons]
      exact hrest i id' a' hi

/-- An offer that gets the answer of its queue. -/
theorem Answers.offer_eq {id : QueueId} {a : Outcome} (h : b.Answers m ((id, a) :: offers)) :
    b.offer id m = (a, b.afterOffers m [(id, a)]) := by
  obtain ⟨⟨q, hq, rfl⟩, -⟩ := answers_cons_iff.mp h
  exact offer_eq_afterOffers m hq

/-- Offers after others. -/
theorem answers_append_iff {offers' : List (QueueId × Outcome)} :
    b.Answers m (offers ++ offers') ↔
      b.Answers m offers ∧ (b.afterOffers m offers).Answers m offers' := by
  induction offers generalizing b with
  | nil => simp [answers_nil]
  | cons o offers ih =>
    obtain ⟨id, a⟩ := o
    rw [List.cons_append, answers_cons_iff, ih, answers_cons_iff, and_assoc,
      b.afterOffers_cons m (id, a) offers]

/-- Queues that exist answer, each in its turn. -/
theorem exists_answers (m : Message) {ids : List QueueId}
    (h : ∀ id ∈ ids, ∃ q, b.queues[id]? = some q) :
    ∃ offers, offers.map Prod.fst = ids ∧ b.Answers m offers := by
  induction ids generalizing b with
  | nil => exact ⟨[], rfl, b.answers_nil m⟩
  | cons id ids ih =>
    obtain ⟨⟨q, hq⟩, hrest⟩ := List.forall_mem_cons.mp h
    -- An offer takes no queue away, so the other queues can still answer.
    have hafter : ∀ i ∈ ids, ∃ q', (b.afterOffers m [(id, q.answer)]).queues[i]? = some q' := by
      intro i hi
      obtain ⟨q', hq'⟩ := hrest i hi
      rw [getElem?_afterOffers, hq']
      exact ⟨_, rfl⟩
    obtain ⟨offers, rfl, hoffers⟩ := ih hafter
    exact ⟨(id, q.answer) :: offers, rfl, answers_cons_iff.mpr ⟨⟨q, hq, rfl⟩, hoffers⟩⟩

/-! ## How many messages queues hold -/

/-- The number of messages that some queues hold together. -/
def load (b : Broker) (ids : Finset QueueId) : Nat := ∑ id ∈ ids, (b.items id).length

theorem sum_count_sent {ids : Finset QueueId} (h : ∀ o ∈ offers, o.1 ∈ ids) :
    ∑ id ∈ ids, offers.count (id, Outcome.sent) = offers.countP fun o ↦ o.2 = .sent := by
  induction offers with
  | nil => simp
  | cons o offers ih =>
    obtain ⟨id, a⟩ := o
    obtain ⟨hid, hrest⟩ := List.forall_mem_cons.mp h
    simp only [List.count_cons, Finset.sum_add_distrib, ih hrest, List.countP_cons]
    congr 1
    by_cases ha : a = .sent
    · simp [ha, hid]
    · simp [ha]

/-- Together queues hold as many messages more as they accepted. -/
theorem load_afterOffers {ids : Finset QueueId} (hids : ∀ id ∈ ids, ∃ q, b.queues[id]? = some q)
    (hoffers : ∀ o ∈ offers, o.1 ∈ ids) :
    (b.afterOffers m offers).load ids = b.load ids + offers.countP fun o ↦ o.2 = .sent := by
  rw [load, load, ← sum_count_sent hoffers, ← Finset.sum_add_distrib]
  refine Finset.sum_congr rfl fun id hid ↦ ?_
  obtain ⟨q, hq⟩ := hids id hid
  have hafter := getElem?_afterOffers b m offers id
  rw [hq] at hafter
  rw [items_eq hq, items_eq hafter]
  simp [Queue.withCopies]

end Broker

end Messaging
