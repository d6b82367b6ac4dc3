import Messaging.Proofs.Execution.Run

/-!
# No receive call is passed over

A receive call that sleeps goes on only if it is woken.  What could go wrong is that a message is
accepted, or the queue is closed, at a moment when the call is past looking and not yet asleep, or
that the lock is handed on to a call that does not look any more.  Neither happens: as long as a
call holds the lock and sleeps, its queue holds no message, and if the queue is closed, then the
signal is still to come.

So once no task can take a step, every queue on which a call is pending is empty and open.  For the
calls that are pending are those of the reception, and its lock is never free as long as there are
any.  Time passes only then, and what a message or a closing has ended by the time it does is the
same as in the system.
-/

namespace Messaging

namespace Execution

variable {x y : Execution} {id : QueueId}

/-- A call that holds the lock and cannot go on misses nothing: its queue is empty, and open unless
the signal is still to come. -/
theorem Valid.misses_nothing (hx : x.Valid) {r : Reception} {h : Holder}
    (hr : x.receptions[id]? = some r) (hh : r.holder = some h)
    (hready : h.isReady x.clock = false) :
    x.system.broker.items id = [] ∧ (x.system.broker.isClosed id = true → 0 < r.signals) := by
  obtain ⟨q, hq, hfits⟩ := hx.agrees.exists_queue hr
  obtain ⟨hitems, -, hsignal⟩ := (hfits.sound h hh).idle hready
  rw [Broker.items_eq hq, Broker.isClosed_eq hq]
  exact ⟨hitems, hsignal⟩

/-- The calls of a reception are those that are pending, in the same order. -/
theorem Valid.calls_eq (hx : x.Valid) {r : Reception} (hr : x.receptions[id]? = some r) :
    r.calls.map Waiter.task = x.system.broker.pending id := by
  obtain ⟨q, hq, hfits⟩ := hx.agrees.exists_queue hr
  obtain ⟨early, hline⟩ := hx.reachable.exists_inLine hq
  rw [hfits.calls_eq]
  exact hline.line_eq hq

/-- To find out whether an execution is settled it is enough to try every task. -/
theorem settled_iff : x.Settled ↔
    (∀ task < x.system.tasks.length, ∀ first ∈ [Branch.message, Branch.signal],
      (x.step? first task).isNone = true) ∧ ∀ r ∈ x.receptions, r.signals = 0 := by
  refine and_congr_left fun _ ↦ ⟨fun h task _ first _ ↦ ?_, fun h first task ↦ ?_⟩
  · rw [h first task]
    rfl
  · by_cases hlt : task < x.system.tasks.length
    · refine Option.isNone_iff_eq_none.mp (h task hlt first ?_)
      cases first <;> simp
    · have hnone := List.getElem?_eq_none (Nat.not_lt.mp hlt)
      simp [step?, hnone]

instance : Decidable x.Settled := decidable_of_iff _ settled_iff.symm

/-- At every point of every run from the creation of a queue on: the calls that are pending on the
queue, by what the journal tells, are those of the tasks that wait for it, if they did not wait
before the queue was there; and they are the one that holds the lock and those in line for it.  When
no task can take a step, a queue with pending calls is empty and open.  By the end of the instant at
which the queue accepted a message, the first call that was pending then has ended with a message;
by the end of the instant at which the queue was closed, all calls that were pending then have
ended.  And nothing is ever queued after a close that meets pending calls when no task can take a
step. -/
theorem no_lost_wakeup {x₀ : Execution} {name : String} {capacity : Nat} {q₀ : Queue}
    (hx₀ : x₀.Reachable) (hq₀ : Queue.create name capacity = .ok q₀)
    (run : (x₀.addQueue q₀).Reaches x) :
    let id := x₀.system.broker.queues.length
    let b := x.system.broker
    (∀ task, task ∈ b.pending id ↔
        x.system.awaits task = some id ∧ x₀.system.awaits task ≠ some id) ∧
      (∃ r, x.receptions[id]? = some r ∧ r.calls.map Waiter.task = b.pending id) ∧
      (x.Settled → b.pending id ≠ [] →
        ∃ q, b.queues[id]? = some q ∧ q.items = [] ∧ q.closed = false) ∧
      (∀ later before instant m task,
        b.journal = later ++ ⟨instant, .offered id m .sent⟩ :: before →
        (Queue.pending id before).head? = some task → x.Settled ∨ instant < x.clock →
        ∃ since got, ⟨instant, .received id task since (some got)⟩ ∈ later) ∧
      (∀ later before instant task,
        b.journal = later ++ ⟨instant, .closed id⟩ :: before →
        task ∈ Queue.pending id before → x.Settled ∨ instant < x.clock →
        ∃ since got, ⟨instant, .received id task since got⟩ ∈ later) ∧
      (x.Settled → b.pending id ≠ [] →
        ∀ y, (x.close id).Reaches y → y.system.broker.items id = []) := by
  intro id b
  obtain ⟨hrun, hx⟩ := Reaches.system (hx₀.valid.move (.create x₀ hq₀)) run
  have htended := hrun.tended hx₀.valid.reachable hq₀
  have hsettled : x.Settled → x.system.Settled := hx.agrees.settled
  refine ⟨fun task ↦ htended.lined.mem_iff, ?_, fun h ↦ htended.exists_empty (hsettled h),
    ?_, ?_, ?_⟩
  · obtain ⟨q, hq, -⟩ := htended.prompt
    obtain ⟨r, hr, -⟩ := hx.agrees.exists_reception hq
    exact ⟨r, hr, hx.calls_eq hr⟩
  · intro later before instant m task hjournal hfirst hpast
    exact htended.ends_of_sent hjournal hfirst (hpast.imp_left hsettled)
  · intro later before instant task hjournal hmem hpast
    exact htended.ends_of_closed hjournal hmem (hpast.imp_left hsettled)
  · intro h hpending y hy
    obtain ⟨hrun', -⟩ := Reaches.system (hx.move (.close x id)) hy
    exact htended.items_of_close (hsettled h) hpending hrun'

/-- Two receive calls are pending on a queue when it is closed.  The first one sleeps and is woken
by the signal, and the second one finds the queue closed when it has the lock; so both end at that
instant. -/
theorem no_lost_wakeup_of_close :
    let q : Queue := { name := "orders", capacity := 1 }
    let x₀ : Execution := {}
    x₀.Reachable ∧ Queue.create "orders" 1 = .ok q ∧
      ∃ x later before, (x₀.addQueue q).Reaches x ∧ x.Settled ∧
        x.system.broker.journal = later ++ ⟨0, .closed 0⟩ :: before ∧
        Queue.pending 0 before = [0, 1] ∧
        ∀ task ∈ [0, 1], ∃ since got, ⟨0, .received 0 task since got⟩ ∈ later := by
  intro q x₀
  have hq : Queue.create "orders" 1 = .ok q := rfl
  have same {x y : Execution} (h : ∀ id, y.system.broker.items id = x.system.broker.items id) :=
    spares_of_items_eq h x.receptions
  have called : (x₀.addQueue q).Reaches _ :=
    (Relation.ReflTransGen.single (.receive _ 0 100)).tail (.receive _ 0 50)
  -- The first call looks, registers, checks and falls asleep.
  have asleep := (((called.tail (.step .message 0 rfl (same fun _ ↦ rfl))).tail
    (.step .message 0 rfl (same fun _ ↦ rfl))).tail
    (.step .message 0 rfl (same fun _ ↦ rfl))).tail
    (.step .message 0 rfl (same fun _ ↦ rfl))
  have woken := (asleep.tail (.close _ 0)).tail (@Move.signal _ 0 _ rfl Nat.one_pos)
  have handed := woken.tail (.step .message 0 rfl (same fun id ↦ by cases id <;> rfl))
  -- The second call looks, registers and finds the queue closed.
  have run := ((handed.tail (.step .message 1 rfl (same fun _ ↦ rfl))).tail
    (.step .message 1 rfl (same fun _ ↦ rfl))).tail
    (.step .message 1 rfl (same fun id ↦ by cases id <;> rfl))
  refine ⟨.refl, hq, _, [⟨0, .received 0 1 0 none⟩, ⟨0, .received 0 0 0 none⟩],
    [⟨0, .called 0 1 50⟩, ⟨0, .called 0 0 100⟩], run, by decide, rfl, rfl, ?_⟩
  intro task htask
  obtain ⟨-, -, -, -, hclosed, -⟩ := no_lost_wakeup .refl hq run
  exact hclosed _ _ 0 task rfl htask (.inl (by decide))

end Execution

end Messaging
