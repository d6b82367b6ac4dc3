import Messaging.Proofs.Queue.Turns
import Messaging.Proofs.System.Wakeup

/-!
# Receivers take turns

Whoever calls receive, single receive calls, single poll cycles and pollers alike, the calls on one
queue end in the order in which they were made.  A call that ends without a message had to: the
queue was closed and drained, or the call has waited for exactly as long as it was to, from when its
turn came.  It is not cut short, and it is not late either: when the turn can end, its task can take
a step, so no time passes before it does.
-/

namespace Messaging

/-- A turn that cannot end yet ends later. -/
theorem Queue.lt_deadline_of_serve_eq_none {q : Queue} {now deadline : Nat}
    (h : q.serve now = none) (hdeadline : q.deadline? = some deadline) : now < deadline := by
  obtain ⟨w, hw, rfl⟩ := Option.map_eq_some_iff.mp hdeadline
  by_contra hnot
  have hover : q.turn + w.timeout ≤ now := Nat.le_of_not_lt hnot
  cases hi : q.items with
  | nil => cases h.symm.trans (serve_eq_some_iff.mpr ⟨hw, .inr ⟨hi, .inr hover, rfl, rfl⟩⟩)
  | cons m rest => cases h.symm.trans (serve_eq_some_iff.mpr ⟨hw, .inl ⟨m, rest, hi, rfl, rfl⟩⟩)

namespace System

theorem mem_dues_of_deadline? {s : System} {id : QueueId} {q : Queue} {deadline : Nat}
    (hq : s.broker.queues[id]? = some q) (h : q.deadline? = some deadline) :
    deadline ∈ s.dues :=
  List.mem_append_left _ (List.mem_filterMap.mpr ⟨q, List.mem_of_getElem? hq, h⟩)

/-- What holds of a new queue, and is kept by every change of a queue and by time that passes while
its turn does not end, holds of a queue at every point of every run from its creation on. -/
theorem Reaches.queue_induction {s t : System} {name : String} {capacity : Nat} {q₀ : Queue}
    {P : Nat → Queue → List Entry → Prop} (hs : s.Reachable)
    (hq₀ : Queue.create name capacity = .ok q₀)
    (run : (s.withBroker (s.broker.addQueue q₀)).Reaches t) (created : P s.clock q₀ [])
    (changed : ∀ {now : Nat} {q q' : Queue} {log : List Entry} {e : Event}, P now q log →
      Queue.Change s.broker.queues.length now q e q' → P now q' (⟨now, e⟩ :: log))
    (waited : ∀ {now later : Nat} {q : Queue} {log : List Entry}, P now q log → now ≤ later →
      (∀ deadline, q.deadline? = some deadline → later ≤ deadline) → P later q log) :
    let id := s.broker.queues.length
    ∃ q, t.broker.queues[id]? = some q ∧ P t.clock q (t.broker.history id) := by
  intro id
  unfold Reaches at run
  induction run with
  | refl =>
    have hsilent : s.broker.history id = [] := hs.broker.chronicled.silent (by simp [id])
    refine ⟨q₀, by simp [withBroker, Broker.addQueue, id], ?_⟩
    show P s.clock q₀ (s.broker.history id)
    rw [hsilent]
    exact created
  | @tail t u run move ih =>
    obtain ⟨q, hq, hP⟩ := ih
    rcases move.clock_eq_or_wait with hclock | ⟨instant, hsettled, hlater, hnotPast, rfl⟩
    · exact hclock ▸ move.reaches.kept hclock changed hq hP
    · have hserve := hsettled.serve_eq_none (Reaches.tended hs hq₀ run).inLine hq
      refine ⟨q, hq, waited hP (Nat.le_of_lt hlater) fun deadline hdeadline ↦ ?_⟩
      exact hnotPast deadline (mem_dues_of_deadline? hq hdeadline)
        (Queue.lt_deadline_of_serve_eq_none hserve hdeadline)

/-- From its creation on, a queue agrees with its log about whose turn it is and since when. -/
theorem Reaches.inTurn {s t : System} {name : String} {capacity : Nat} {q₀ : Queue}
    (hs : s.Reachable) (hq₀ : Queue.create name capacity = .ok q₀)
    (run : (s.withBroker (s.broker.addQueue q₀)).Reaches t) :
    let id := s.broker.queues.length
    ∃ q, t.broker.queues[id]? = some q ∧ q.InTurn id t.clock (t.broker.history id) :=
  run.queue_induction hs hq₀ (Queue.inTurn_of_create s.clock hq₀) (fun h hc ↦ h.change hc)
    fun h hle hdue ↦ h.wait hle hdue

/-- At every point of every run from the creation of a queue on: the receive calls on the queue end
in the order in which they were made, and the messages with which they end are the first ones that
the queue accepted, in that order.  A call that ends without a message had the turn, and either the
queue had been closed and drained, or it ends exactly as long after its turn came as it was to wait,
and at no point since then was a message there.  And while a call has the turn, no more time has
passed since then. -/
theorem receivers_take_turns {s₀ s : System} {name : String} {capacity : Nat} {q₀ : Queue}
    (hs₀ : s₀.Reachable) (hq₀ : Queue.create name capacity = .ok q₀)
    (run : (s₀.withBroker (s₀.broker.addQueue q₀)).Reaches s) :
    let id := s₀.broker.queues.length
    let log := s.broker.history id
    (∀ (k : Nat) (n : Ending), (Queue.endings log)[k]? = some n →
      ∃ w, (Queue.calls log)[k]? = some w ∧ w.task = n.task ∧ w.called = n.since) ∧
      (Queue.endings log).filterMap Ending.got <+: s.broker.accepted id ∧
      (∀ later before x task since, log = later ++ x :: before →
        x.event = .received id task since none →
        ∃ w, (Queue.calls before)[(Queue.endings before).length]? = some w ∧
          w.task = task ∧ w.called = since ∧
          ((∃ y ∈ before, y.event = .closed id) ∧ Queue.Drained before ∨
            ∃ turn, Queue.turn? before (Queue.endings before).length = some turn ∧
              x.instant = turn + w.timeout ∧
              ∀ recent older, before = recent ++ older →
                Queue.HasTurn older (Queue.endings before).length → Queue.Drained older)) ∧
      ∀ (w : Waiter) (turn : Nat), (Queue.calls log)[(Queue.endings log).length]? = some w →
        Queue.turn? log (Queue.endings log).length = some turn → s.clock ≤ turn + w.timeout := by
  intro id log
  obtain ⟨q, hq, h⟩ := run.inTurn hs₀ hq₀
  obtain ⟨served, hcalls, hends⟩ := h.line
  refine ⟨?_, ?_, ?_, ?_⟩
  · intro k n hn
    obtain ⟨hk, rfl⟩ := List.getElem?_eq_some_iff.mp hn
    have hk' : k < served.length := hends.length_eq ▸ hk
    have hend : Queue.Ends served[k] (Queue.endings log)[k] := hends.get hk' hk
    refine ⟨served[k], ?_, hend⟩
    rw [hcalls, List.getElem?_append_left hk', List.getElem?_eq_getElem hk']
  · rw [Queue.delivered_eq, Broker.accepted, h.accounted.balance]
    exact List.prefix_append _ _
  · intro later before x task since hlog hx
    obtain ⟨w, hw, ⟨htask, hcalled⟩, hgiven⟩ := h.ended later before x task since hlog hx
    exact ⟨w, hw, htask, hcalled, hgiven⟩
  · intro w turn hw hturn
    have hhead : q.line.head? = some w := by
      rw [List.head?_eq_getElem?]
      exact (h.getElem?_calls 0).symm.trans hw
    have hne : q.line ≠ [] := by
      rintro hnil
      rw [hnil] at hhead
      cases hhead
    obtain rfl := Option.some.inj ((h.turn hne).symm.trans hturn)
    exact h.due w hhead

/-- Two receive calls are made on an empty queue at one instant.  The second one is to wait for a
shorter time, but its turn comes when the first one ends. -/
theorem receivers_take_turns_of_timeouts :
    let q : Queue := { name := "orders", capacity := 1 }
    let s₀ : System := {}
    let before : List Entry := [⟨10, .received 0 0 0 none⟩, ⟨0, .called 0 1 5⟩, ⟨0, .called 0 0 10⟩]
    s₀.Reachable ∧ Queue.create "orders" 1 = .ok q ∧
      ∃ s, (s₀.withBroker (s₀.broker.addQueue q)).Reaches s ∧
        s.broker.history 0 = ⟨15, .received 0 1 0 none⟩ :: before ∧
        ∃ w, (Queue.calls before)[1]? = some w ∧ w.task = 1 ∧ w.called = 0 ∧
          ∃ turn, Queue.turn? before 1 = some turn ∧ 15 = turn + w.timeout ∧
            ∀ recent older, before = recent ++ older → Queue.HasTurn older 1 →
              Queue.Drained older := by
  intro q s₀ before
  have hq : Queue.create "orders" 1 = .ok q := rfl
  have called : (s₀.withBroker (s₀.broker.addQueue q)).Reaches _ :=
    (Relation.ReflTransGen.single (.receive _ 0 10)).tail (.receive _ 0 5)
  have first := (called.tail (.wait (settled_iff_ready?.mpr rfl) (show 0 < 10 by decide)
    (by decide))).tail (.step 0 rfl)
  have second := (first.tail (.wait (settled_iff_ready?.mpr rfl) (show 10 < 15 by decide)
    (by decide))).tail (.step 1 rfl)
  refine ⟨.refl, hq, _, second, rfl, ?_⟩
  obtain ⟨-, -, hended, -⟩ := receivers_take_turns (.refl : s₀.Reachable) hq second
  obtain ⟨w, hw, htask, hcalled, ⟨⟨y, hy, hclosed⟩, -⟩ | hover⟩ :=
    hended [] before ⟨15, .received 0 1 0 none⟩ 1 0 rfl rfl
  · have hopen : ∀ y ∈ before, y.event ≠ .closed 0 := by simp [before]
    exact (hopen y hy hclosed).elim
  · exact ⟨w, hw, htask, hcalled, hover⟩

end System

end Messaging
