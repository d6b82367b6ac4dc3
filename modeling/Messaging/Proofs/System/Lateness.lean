import Messaging.Proofs.System.Turns

/-!
# How late a receive call ends

A receive call is to wait up to its timeout.  But the timeout begins to run when the turn of the
call comes, and that is when the call before it ends, if that is later than the call.  So a call
keeps its timeout if its turn has come when it is made; one that stands behind others waits for
their turns, too.  With any number of calls the timeouts add up, from one idle time of the queue to
the next, and where nothing arrives, no call ends before the sum is over.
-/

namespace Messaging

namespace Queue

/-- The instant at which the last of some calls ends if nothing arrives: each has its turn when it
is made, or when the one before it ends, and then waits for as long as it was to wait. -/
def latest (calls : List Waiter) : Nat :=
  calls.foldl (fun instant w ↦ max w.called instant + w.timeout) 0

/-- The call at a position has ended by an instant. -/
def EndedBy (log : List Entry) (k instant : Nat) : Prop :=
  ∃ n, (endings log)[k]? = some n ∧ n.instant ≤ instant

/-- What an end has to do with the call and its turn: it is not late, and where it is early, there
was a message, or the queue was closed. -/
structure Punctual (id : QueueId) (log : List Entry) (w : Waiter) (turn : Nat) (n : Ending) :
    Prop where
  notLate : n.instant ≤ turn + w.timeout
  early : n.instant < turn + w.timeout → n.got ≠ none ∨ ∃ x ∈ log, x.event = .closed id

/-- A queue agrees with its log about turns, and each call that ended did so in its time. -/
structure Timely (id : QueueId) (now : Nat) (q : Queue) (log : List Entry) : Prop
    extends q.InTurn id now log where
  punctual : ∀ (k : Nat) (n : Ending), (endings log)[k]? = some n →
    ∃ w turn, (calls log)[k]? = some w ∧ turn? log k = some turn ∧ Punctual id log w turn n

variable {id : QueueId} {now : Nat} {q q' : Queue} {log : List Entry} {e : Event}

/-! ## The latest instant -/

theorem latest_take_succ {calls : List Waiter} {k : Nat} {w : Waiter} (h : calls[k]? = some w) :
    latest (calls.take (k + 1)) = max w.called (latest (calls.take k)) + w.timeout := by
  rw [latest, List.take_add_one, h, List.foldl_append]
  rfl

theorem latest_take_mono (calls : List Waiter) {j k : Nat} (h : j ≤ k) :
    latest (calls.take j) ≤ latest (calls.take k) := by
  induction h with
  | refl => exact Nat.le_refl _
  | @step k _ ih =>
    apply Nat.le_trans ih
    cases hk : calls[k]? with
    | none =>
      have hsame : calls.take (k + 1) = calls.take k := by
        rw [List.take_add_one, hk, Option.toList_none, List.append_nil]
      exact Nat.le_of_eq (congrArg latest hsame.symm)
    | some w =>
      rw [latest_take_succ hk]
      exact Nat.le_trans (Nat.le_max_right _ _) (Nat.le_add_right _ _)

/-! ## The invariant -/

theorem Punctual.cons {w : Waiter} {turn : Nat} {n : Ending} (h : Punctual id log w turn n)
    (x : Entry) : Punctual id (x :: log) w turn n where
  notLate := h.notLate
  early := fun hlt ↦ (h.early hlt).imp_right fun ⟨y, hy, hclosed⟩ ↦
    ⟨y, List.mem_cons_of_mem x hy, hclosed⟩

/-- The end that a change means for the call that has the turn is punctual. -/
theorem InTurn.punctual_received (h : q.InTurn id now log) {w : Waiter} {rest : List Waiter}
    {got : Option Message} (hline : q.line = w :: rest)
    (hnone : got = none → q.items = [] ∧ (q.closed = true ∨ q.turn + w.timeout ≤ now)) :
    Punctual id log w q.turn ⟨w.task, w.called, now, got⟩ where
  notLate := h.due w (by rw [hline, List.head?_cons])
  early := by
    intro hlt
    rw [← h.accounted.closed_iff]
    by_cases hgot : got = none
    · exact .inr ((hnone hgot).2.resolve_right (Nat.not_le_of_lt hlt))
    · exact .inl hgot

theorem Timely.change (h : q.Timely id now log) (hc : Change id now q e q') :
    q'.Timely id now (⟨now, e⟩ :: log) where
  toInTurn := h.toInTurn.change hc
  punctual := by
    intro k n hn
    -- What an older end was, it still is.
    have hold : (endings log)[k]? = some n → ∃ w turn,
        (calls (⟨now, e⟩ :: log))[k]? = some w ∧ turn? (⟨now, e⟩ :: log) k = some turn ∧
          Punctual id (⟨now, e⟩ :: log) w turn n := by
      intro hn
      obtain ⟨w, turn, hw, hturn, hpunctual⟩ := h.punctual k n hn
      refine ⟨w, turn, ?_, turn?_cons hturn _, hpunctual.cons _⟩
      rw [calls_cons, List.getElem?_append_left (List.getElem?_eq_some_iff.mp hw).1, hw]
    rcases hc.line_cases with ⟨-, hending, -⟩ | ⟨task, timeout, rfl, -⟩ |
        ⟨w, rest, got, hline, rfl, -, -, hnone⟩
    · rw [endings_cons, hending] at hn
      exact hold ((List.append_nil (endings log)).symm ▸ hn)
    · rw [endings_called] at hn
      exact hold hn
    · rw [endings_received] at hn
      by_cases hk : k < (endings log).length
      · exact hold (List.getElem?_append_left hk ▸ hn)
      · obtain ⟨rfl, rfl⟩ : k = (endings log).length ∧ n = ⟨w.task, w.called, now, got⟩ := by
          rw [List.getElem?_append_right (Nat.le_of_not_lt hk)] at hn
          obtain ⟨hlt, rfl⟩ := List.getElem?_eq_some_iff.mp hn
          rw [List.length_singleton] at hlt
          exact ⟨by omega, List.getElem_singleton _⟩
        have hcall : (calls log)[(endings log).length]? = some w := by
          rw [← Nat.add_zero (endings log).length, h.getElem?_calls, hline]
          rfl
        have hturn : turn? log (endings log).length = some q.turn := h.turn (by simp [hline])
        refine ⟨w, q.turn, ?_, turn?_cons hturn _, (h.punctual_received hline hnone).cons _⟩
        rw [calls_received, hcall]

theorem Timely.wait {later : Nat} (h : q.Timely id now log) (hle : now ≤ later)
    (hdue : ∀ deadline, q.deadline? = some deadline → later ≤ deadline) :
    q.Timely id later log where
  toInTurn := h.toInTurn.wait hle hdue
  punctual := h.punctual

theorem timely_of_create {name : String} {capacity : Nat} (now : Nat)
    (h : Queue.create name capacity = .ok q) : q.Timely id now [] where
  toInTurn := inTurn_of_create now h
  punctual := fun _ _ hn ↦ absurd hn (by simp [endings])

/-! ## When turns come and end -/

/-- No call has ended with a message, and the queue was not closed. -/
structure Vain (id : QueueId) (log : List Entry) : Prop where
  got : ∀ n ∈ endings log, n.got = none
  notClosed : ¬∃ x ∈ log, x.event = .closed id

theorem InTurn.vain (h : q.InTurn id now log)
    (hnothing : log.reverse.filterMap Entry.accepted? = [])
    (hopen : ¬∃ x ∈ log, x.event = .closed id) : Vain id log where
  got := by
    rw [h.accounted.balance] at hnothing
    apply List.filterMap_eq_nil_iff.mp
    exact (delivered_eq log).trans (List.append_eq_nil_iff.mp hnothing).1
  notClosed := hopen

/-- What has not come cannot end a call early. -/
theorem Punctual.eq_of_vain {w : Waiter} {turn k : Nat} {n : Ending}
    (h : Punctual id log w turn n) (hvain : Vain id log) (hn : (endings log)[k]? = some n) :
    n.instant = turn + w.timeout := by
  apply Nat.le_antisymm h.notLate
  by_contra hlt
  rcases h.early (Nat.lt_of_not_le hlt) with hgot | hclosed
  · exact hgot (hvain.got n (List.mem_of_getElem? hn))
  · exact hvain.notClosed hclosed

namespace Timely

variable {k turn : Nat} {w : Waiter} {n : Ending}

/-- The turn of a call comes at the call or at the latest instant of the calls before it, whichever
is later.  It can come earlier, but only if there was a message or the queue was closed. -/
theorem turn_latest (h : q.Timely id now log) (hw : (calls log)[k]? = some w)
    (hturn : turn? log k = some turn) :
    turn ≤ max w.called (latest ((calls log).take k)) ∧
      (Vain id log → turn = max w.called (latest ((calls log).take k))) := by
  induction k generalizing turn w with
  | zero =>
    obtain rfl := Option.some.inj ((turn?_zero hw).symm.trans hturn)
    exact ⟨Nat.le_max_left _ _, fun _ ↦ (Nat.max_zero _).symm⟩
  | succ k ih =>
    cases hn : (endings log)[k]? with
    | none =>
      rw [turn?, hw, hn] at hturn
      cases hturn
    | some n =>
      -- The call before this one had its turn, to which the hypothesis applies, and ended.
      obtain rfl := Option.some.inj ((turn?_succ hw hn).symm.trans hturn)
      obtain ⟨v, earlier, hv, hearlier, hpunctual⟩ := h.punctual k n hn
      obtain ⟨hle, heq⟩ := ih hv hearlier
      rw [latest_take_succ hv]
      constructor
      · have hend : n.instant ≤ max v.called (latest ((calls log).take k)) + v.timeout :=
          Nat.le_trans hpunctual.notLate (Nat.add_le_add_right hle _)
        omega
      · intro hvain
        rw [hpunctual.eq_of_vain hvain hn, heq hvain]

/-- The time of a call is over by its latest instant, and exactly then if no call ended early. -/
theorem deadline_latest (h : q.Timely id now log) (hw : (calls log)[k]? = some w)
    (hturn : turn? log k = some turn) :
    turn + w.timeout ≤ latest ((calls log).take (k + 1)) ∧
      (Vain id log → turn + w.timeout = latest ((calls log).take (k + 1))) := by
  obtain ⟨hle, heq⟩ := h.turn_latest hw hturn
  rw [latest_take_succ hw]
  exact ⟨Nat.add_le_add_right hle _, fun hvain ↦ congrArg (· + w.timeout) (heq hvain)⟩

/-- A call that has ended had its turn, and ended in its time. -/
theorem punctual_of_ended (h : q.Timely id now log) (hw : (calls log)[k]? = some w)
    (hn : (endings log)[k]? = some n) :
    ∃ turn, turn? log k = some turn ∧ Punctual id log w turn n := by
  obtain ⟨v, turn, hv, hturn, hpunctual⟩ := h.punctual k n hn
  obtain rfl := Option.some.inj (hv.symm.trans hw)
  exact ⟨turn, hturn, hpunctual⟩

/-- Where a call has not ended, some call has the turn, either this one or one before it. -/
theorem exists_waiting (h : q.Timely id now log) (hw : (calls log)[k]? = some w)
    (hn : (endings log)[k]? = none) :
    ∃ v, (calls log)[(endings log).length]? = some v ∧
      turn? log (endings log).length = some q.turn ∧ q.deadline? = some (q.turn + v.timeout) := by
  have hle : (endings log).length ≤ k := List.getElem?_eq_none_iff.mp hn
  have hmem : q.line[k - (endings log).length]? = some w := by
    rw [← h.getElem?_calls, Nat.add_sub_cancel' hle, hw]
  obtain ⟨v, rest, hline⟩ :=
    List.exists_cons_of_ne_nil (List.ne_nil_of_mem (List.mem_of_getElem? hmem))
  refine ⟨v, ?_, h.turn (by simp [hline]), by rw [deadline?, hline]; rfl⟩
  rw [← Nat.add_zero (endings log).length, h.getElem?_calls, hline]
  rfl

end Timely

/-- Turns come in the order of the calls. -/
theorem le_length_of_turn? {k turn : Nat} (h : turn? log k = some turn) :
    k ≤ (endings log).length := by
  cases k with
  | zero => exact Nat.zero_le _
  | succ k =>
    obtain ⟨w, -, h⟩ := Option.bind_eq_some_iff.mp h
    obtain ⟨n, hn, -⟩ := Option.bind_eq_some_iff.mp h
    exact (List.getElem?_eq_some_iff.mp hn).1

end Queue

namespace System

/-- The instant is over: time has passed since, or nothing more happens by itself at it. -/
def Past (s : System) (instant : Nat) : Prop :=
  instant < s.clock ∨ instant = s.clock ∧ s.Settled

theorem Past.mono {s : System} {i j : Nat} (h : s.Past i) (hle : j ≤ i) : s.Past j := by
  rcases h with hlt | ⟨rfl, hsettled⟩
  · exact .inl (Nat.lt_of_le_of_lt hle hlt)
  · exact (Nat.lt_or_eq_of_le hle).imp_right fun heq ↦ ⟨heq, hsettled⟩

section

variable {s₀ s : System} {name : String} {capacity : Nat} {q₀ : Queue}

theorem Reaches.timely (hs₀ : s₀.Reachable) (hq₀ : Queue.create name capacity = .ok q₀)
    (run : (s₀.withBroker (s₀.broker.addQueue q₀)).Reaches s) :
    let id := s₀.broker.queues.length
    ∃ q, s.broker.queues[id]? = some q ∧ q.Timely id s.clock (s.broker.history id) :=
  run.queue_induction hs₀ hq₀ (Queue.timely_of_create s₀.clock hq₀) (fun h hc ↦ h.change hc)
    fun h hle hdue ↦ h.wait hle hdue

/-- While a call has the turn, the instant up to which it waits is not over. -/
theorem Reaches.not_past_deadline (hs₀ : s₀.Reachable)
    (hq₀ : Queue.create name capacity = .ok q₀)
    (run : (s₀.withBroker (s₀.broker.addQueue q₀)).Reaches s) {q : Queue} {deadline : Nat}
    (hq : s.broker.queues[s₀.broker.queues.length]? = some q)
    (hdeadline : q.deadline? = some deadline) : ¬s.Past deadline := by
  rintro (hlt | ⟨heq, hsettled⟩)
  · obtain ⟨q', hq', h⟩ := run.inTurn hs₀ hq₀
    obtain rfl := Option.some.inj (hq'.symm.trans hq)
    obtain ⟨w, hw, rfl⟩ := Option.map_eq_some_iff.mp hdeadline
    exact Nat.not_lt_of_le (h.due w hw) hlt
  · have hserve := hsettled.serve_eq_none (run.tended hs₀ hq₀).inLine hq
    exact Nat.ne_of_gt (Queue.lt_deadline_of_serve_eq_none hserve hdeadline) heq

/-- At every point of every run from the creation of a queue on: a receive call on the queue has
ended by the time that its timeout is over, if that runs from when its turn came.  Where the turn
came with the call itself, this is what the caller asked for.  But the turn comes only when the call
before has ended, so all that is known at the time of the call is the latest instant, to which the
timeouts of the calls before it add up.  By then the call has ended; and if no message arrives and
the queue is not closed, it does not end before. -/
theorem timeouts_add_up (hs₀ : s₀.Reachable) (hq₀ : Queue.create name capacity = .ok q₀)
    (run : (s₀.withBroker (s₀.broker.addQueue q₀)).Reaches s) :
    let id := s₀.broker.queues.length
    let log := s.broker.history id
    ∀ (k : Nat) (w : Waiter), (Queue.calls log)[k]? = some w →
      let latest := Queue.latest ((Queue.calls log).take (k + 1))
      (∀ turn, Queue.turn? log k = some turn → s.Past (turn + w.timeout) →
        Queue.EndedBy log k (turn + w.timeout)) ∧
      (s.Past latest → Queue.EndedBy log k latest) ∧
      (s.broker.accepted id = [] → ¬s.broker.WasClosed id →
        ∀ n, (Queue.endings log)[k]? = some n → n.instant = latest) := by
  intro id log k w hw latest
  obtain ⟨q, hq, h⟩ := run.timely hs₀ hq₀
  cases hn : (Queue.endings log)[k]? with
  | some n =>
    obtain ⟨turn, hturn, hpunctual⟩ := h.punctual_of_ended hw hn
    obtain ⟨hle, heq⟩ := h.deadline_latest hw hturn
    refine ⟨?_, fun _ ↦ ⟨n, hn, Nat.le_trans hpunctual.notLate hle⟩, ?_⟩
    · intro turn' hturn' _
      obtain rfl := Option.some.inj (hturn'.symm.trans hturn)
      exact ⟨n, hn, hpunctual.notLate⟩
    · rintro hnothing hopen n' ⟨⟩
      have hvain : Queue.Vain id log :=
        h.vain hnothing fun hclosed ↦ hopen (Broker.wasClosed_iff.mpr hclosed)
      rw [hpunctual.eq_of_vain hvain hn, heq hvain]
  | none =>
    obtain ⟨v, hv, hturn, hdeadline⟩ := h.exists_waiting hw hn
    have hpast := run.not_past_deadline hs₀ hq₀ hq hdeadline
    have hlen : (Queue.endings log).length ≤ k := List.getElem?_eq_none_iff.mp hn
    refine ⟨?_, ?_, fun _ _ _ hended ↦ nomatch hended⟩
    · intro turn hturn' hover
      obtain rfl : k = (Queue.endings log).length :=
        Nat.le_antisymm (Queue.le_length_of_turn? hturn') hlen
      obtain rfl := Option.some.inj (hv.symm.trans hw)
      obtain rfl := Option.some.inj (hturn.symm.trans hturn')
      exact (hpast hover).elim
    · intro hover
      have hle := Nat.le_trans (h.deadline_latest hv hturn).1
        (Queue.latest_take_mono (Queue.calls log) (Nat.succ_le_succ hlen))
      exact (hpast (hover.mono hle)).elim

end

/-- Two receive calls are made on an empty queue at one instant, and nothing arrives.  The first is
to wait for 10 milliseconds and the second for 5. -/
theorem reaches_of_two_calls :
    let q : Queue := { name := "orders", capacity := 1 }
    ∃ s, (withBroker {} (Broker.addQueue {} q)).Reaches s ∧ s.clock = 15 ∧
      s.broker.history 0 = [⟨15, .received 0 1 0 none⟩, ⟨10, .received 0 0 0 none⟩,
        ⟨0, .called 0 1 5⟩, ⟨0, .called 0 0 10⟩] := by
  intro q
  have called : (withBroker {} (Broker.addQueue {} q)).Reaches _ :=
    (Relation.ReflTransGen.single (.receive _ 0 10)).tail (.receive _ 0 5)
  have first := (called.tail (.wait (settled_iff_ready?.mpr rfl) (show 0 < 10 by decide)
    (by decide))).tail (.step 0 rfl)
  have second := (first.tail (.wait (settled_iff_ready?.mpr rfl) (show 10 < 15 by decide)
    (by decide))).tail (.step 1 rfl)
  exact ⟨_, second, rfl, rfl⟩

/-- The second of two calls has ended when both timeouts are over, and not before. -/
theorem timeouts_add_up_of_two_calls :
    let q : Queue := { name := "orders", capacity := 1 }
    let s₀ : System := {}
    s₀.Reachable ∧ Queue.create "orders" 1 = .ok q ∧
      ∃ s, (s₀.withBroker (s₀.broker.addQueue q)).Reaches s ∧ s.clock = 15 ∧
        (Queue.calls (s.broker.history 0))[1]? = some ⟨1, 5, 0⟩ ∧
        Queue.turn? (s.broker.history 0) 1 = some 10 ∧
        Queue.latest ((Queue.calls (s.broker.history 0)).take 2) = 15 ∧
        s.broker.accepted 0 = [] ∧ ¬s.broker.WasClosed 0 ∧
        ∃ n, (Queue.endings (s.broker.history 0))[1]? = some n ∧ n.instant = 15 := by
  intro q s₀
  obtain ⟨s, run, hclock, hlog⟩ := reaches_of_two_calls
  have hcall : (Queue.calls (s.broker.history 0))[1]? = some ⟨1, 5, 0⟩ := by rw [hlog]; rfl
  have hlatest : Queue.latest ((Queue.calls (s.broker.history 0)).take 2) = 15 := by
    rw [hlog]
    rfl
  have hnothing : s.broker.accepted 0 = [] := by
    rw [Broker.accepted, hlog]
    rfl
  have hopen : ¬s.broker.WasClosed 0 := by
    rw [Broker.wasClosed_iff, hlog]
    simp
  have hq : Queue.create "orders" 1 = .ok q := rfl
  obtain ⟨-, -, hexact⟩ := timeouts_add_up (.refl : s₀.Reachable) hq run 1 ⟨1, 5, 0⟩ hcall
  refine ⟨.refl, hq, s, run, hclock, hcall, by rw [hlog]; rfl, hlatest, hnothing, hopen, ?_⟩
  obtain ⟨n, hn⟩ : ∃ n, (Queue.endings (s.broker.history 0))[1]? = some n := by
    rw [hlog]
    exact ⟨_, rfl⟩
  exact ⟨n, hn, (hexact hnothing hopen n hn).trans hlatest⟩

/-- The timeout of a receive call may be over before the call has ended, although it runs from the
instant of the call: the second of two calls, which is to wait for 5 milliseconds, waits for 15. -/
theorem receive_ends_late :
    ¬∀ (s₀ s : System) (name : String) (capacity : Nat) (q₀ : Queue), s₀.Reachable →
      Queue.create name capacity = .ok q₀ →
      (s₀.withBroker (s₀.broker.addQueue q₀)).Reaches s →
      let log := s.broker.history s₀.broker.queues.length
      ∀ (k : Nat) (w : Waiter), (Queue.calls log)[k]? = some w → s.Past (w.called + w.timeout) →
        Queue.EndedBy log k (w.called + w.timeout) := by
  intro h
  obtain ⟨s, run, hclock, hlog⟩ := reaches_of_two_calls
  have hcall : (Queue.calls (s.broker.history 0))[1]? = some ⟨1, 5, 0⟩ := by rw [hlog]; rfl
  have hpast : s.Past 5 := .inl (hclock ▸ (by decide : 5 < 15))
  have hended : Queue.EndedBy (s.broker.history 0) 1 5 :=
    h {} s "orders" 1 _ .refl rfl run 1 ⟨1, 5, 0⟩ hcall hpast
  rw [hlog] at hended
  obtain ⟨n, hn, hle⟩ := hended
  obtain rfl : ⟨1, 0, 15, none⟩ = n := Option.some.inj hn
  exact absurd hle (by decide)

end System

end Messaging
