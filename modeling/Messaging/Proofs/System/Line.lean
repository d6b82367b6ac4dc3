import Mathlib.Data.List.Nodup
import Mathlib.Logic.Function.Basic
import Messaging.Proofs.Queue.Pending
import Messaging.Proofs.System.Step

/-!
# Who waits in line

The journal tells which receive calls are pending on a queue, and the tasks of a system tell which
queue they wait for.  The two agree, whatever happens: the calls that are pending are those of the
tasks that wait.  The only exception are tasks that called receive before there was such a queue;
nobody knows of their calls, and they wait forever.

A move either leaves the pending calls and what the tasks wait for alone, or one task leaves the
line or joins it, or both.  So the invariant, `Queue.Lined`, is about the two views alone, with a
lemma for leaving and one for joining.
-/

namespace Messaging

/-! ## What tasks wait for -/

theorem Poller.awaits?_during (p : Poller) (due : Nat) (cycle : Cycle) (now : Nat) :
    (Task.poller (p.during due cycle now)).awaits? = p.consumer.awaited cycle := by
  cases cycle <;> rfl

theorem Task.awaits?_stop (k : Task) : k.stop.awaits? = k.awaits? := by
  cases k <;> rfl

namespace System

/-- The queue for which a task waits. -/
def awaits (s : System) (task : TaskId) : Option QueueId := s.tasks[task]?.bind Task.awaits?

variable {s : System} {task : TaskId} {k : Task}

theorem awaits_eq (h : s.tasks[task]? = some k) : s.awaits task = k.awaits? := by
  rw [awaits, h]
  rfl

theorem awaits_nextTask (s : System) : s.awaits s.nextTask = none := by
  rw [awaits, nextTask, List.getElem?_eq_none (Nat.le_refl _)]
  rfl

theorem awaits_set (h : s.tasks[task]? = some k) (k' : Task) (b : Broker) :
    (System.mk b (s.tasks.set task k')).awaits = Function.update s.awaits task k'.awaits? := by
  funext other
  by_cases hne : other = task
  · subst hne
    rw [Function.update_self]
    exact awaits_eq (List.getElem?_set_self (List.getElem?_eq_some_iff.mp h).1)
  · rw [Function.update_of_ne hne, awaits, awaits, List.getElem?_set_ne (Ne.symm hne)]

theorem awaits_append (k : Task) (b : Broker) :
    (System.mk b (s.tasks ++ [k])).awaits = Function.update s.awaits s.nextTask k.awaits? := by
  funext other
  rw [nextTask]
  rcases Nat.lt_trichotomy other s.tasks.length with hlt | rfl | hgt
  · rw [Function.update_of_ne (Nat.ne_of_lt hlt), awaits, awaits, List.getElem?_append_left hlt]
  · rw [Function.update_self]
    exact awaits_eq List.getElem?_concat_length
  · have hle : (s.tasks ++ [k]).length ≤ other := by
      rw [List.length_append, List.length_singleton]
      exact hgt
    rw [Function.update_of_ne (Nat.ne_of_gt hgt), awaits, awaits, List.getElem?_eq_none hle,
      List.getElem?_eq_none (Nat.le_of_lt hgt)]

end System

/-! ## Pending calls and what is done -/

namespace Broker

variable {b b' : Broker} {id : QueueId}

theorem pending_record_of_ne {e : Event} (h : e.queue? ≠ some id) :
    (b.record e).pending id = b.pending id :=
  Queue.pending_of_queue?_ne b.journal h

@[simp] theorem pending_offer (b : Broker) (id queue : QueueId) (m : Message) :
    (b.offer queue m).2.pending id = b.pending id := by
  unfold offer
  split <;> rfl

@[simp] theorem pending_close (b : Broker) (id queue : QueueId) :
    (b.close queue).pending id = b.pending id := by
  unfold close
  split <;> rfl

theorem Sends.pending_eq {ids : List QueueId} (h : Sends ids b b') (id : QueueId) :
    b'.pending id = b.pending id := by
  induction h with
  | refl => rfl
  | offer m _ _ ih => rw [pending_offer, ih]
  | issue _ ih => exact ih
  | note _ he _ ih =>
    rw [pending_record_of_ne (by rw [he]; exact (Option.some_ne_none id).symm), ih]

theorem pending_enter_self {q : Queue} (hq : b.queues[id]? = some q) (task : TaskId)
    (timeout : Nat) : (b.enter id task timeout).pending id = b.pending id ++ [task] := by
  rw [enter_eq hq]
  exact Queue.pending_called b.journal task timeout

theorem pending_enter_of_ne {queue : QueueId} (hne : queue ≠ id) (task : TaskId) (timeout : Nat) :
    (b.enter queue task timeout).pending id = b.pending id := by
  have hqueue : (Event.called queue task timeout).queue? ≠ some id :=
    fun he ↦ hne (Option.some.inj he)
  unfold enter
  split
  · exact pending_record_of_ne hqueue
  · rfl

theorem pending_serve_self {task : TaskId} {got : Option Message}
    (hs : b.serve id task = some (got, b')) : b'.pending id = (b.pending id).erase task := by
  obtain ⟨q, w, q', -, -, rfl, rfl⟩ := serve_eq_some_iff.mp hs
  exact Queue.pending_received b.journal w.task w.called got

theorem pending_serve_of_ne {queue : QueueId} (hne : queue ≠ id) {task : TaskId}
    {got : Option Message} (hs : b.serve queue task = some (got, b')) :
    b'.pending id = b.pending id := by
  obtain ⟨q, w, q', -, -, rfl, rfl⟩ := serve_eq_some_iff.mp hs
  exact pending_record_of_ne fun he ↦ hne (Option.some.inj he)

end Broker

/-! ## The invariant -/

/-- The calls that are pending on a queue are those of the tasks that wait for it, apart from some
early ones, which wait forever. -/
structure Queue.Lined (id : QueueId) (early : TaskId → Prop) (pending : List TaskId)
    (awaits : TaskId → Option QueueId) : Prop where
  nodup : pending.Nodup
  mem_iff : ∀ {task : TaskId}, task ∈ pending ↔ awaits task = some id ∧ ¬early task
  awaits_of_early : ∀ {task : TaskId}, early task → awaits task = some id

namespace Queue.Lined

variable {id : QueueId} {early : TaskId → Prop} {pending : List TaskId}
  {awaits : TaskId → Option QueueId} {task : TaskId}

/-- A task whose call was pending does not wait any more. -/
theorem leave (h : Lined id early pending awaits) (hmem : task ∈ pending) :
    Lined id early (pending.erase task) (Function.update awaits task none) where
  nodup := h.nodup.erase task
  mem_iff := by
    intro other
    rw [h.nodup.mem_erase_iff]
    by_cases hne : other = task
    · subst hne
      simp
    · rw [Function.update_of_ne hne, h.mem_iff]
      simp [hne]
  awaits_of_early := by
    intro other hearly
    -- An early task is not in line, so it is not the one that leaves.
    have hne : other ≠ task := by
      rintro rfl
      exact (h.mem_iff.mp hmem).2 hearly
    rw [Function.update_of_ne hne]
    exact h.awaits_of_early hearly

/-- A task that waited for something else, or for nothing, calls receive. -/
theorem join (h : Lined id early pending awaits) (hnot : awaits task ≠ some id) :
    Lined id early (pending ++ [task]) (Function.update awaits task (some id)) where
  nodup := by
    have hmem : task ∉ pending := fun hmem ↦ hnot (h.mem_iff.mp hmem).1
    exact List.nodup_append_comm.mpr (List.nodup_cons.mpr ⟨hmem, h.nodup⟩)
  mem_iff := by
    intro other
    by_cases hne : other = task
    · subst hne
      simpa using fun hearly ↦ hnot (h.awaits_of_early hearly)
    · rw [Function.update_of_ne hne, List.mem_append, h.mem_iff]
      simp [hne]
  awaits_of_early := by
    intro other hearly
    by_cases hne : other = task
    · subst hne
      exact Function.update_self ..
    · rw [Function.update_of_ne hne]
      exact h.awaits_of_early hearly

/-- A task neither waited for the queue before nor does it now. -/
theorem aside (h : Lined id early pending awaits) (hnot : awaits task ≠ some id)
    {other : Option QueueId} (hother : other ≠ some id) :
    Lined id early pending (Function.update awaits task other) where
  nodup := h.nodup
  mem_iff := by
    intro x
    rw [h.mem_iff]
    by_cases hne : x = task
    · subst hne
      simp [hnot, hother]
    · rw [Function.update_of_ne hne]
  awaits_of_early := by
    intro x hearly
    have hne : x ≠ task := by
      rintro rfl
      exact hnot (h.awaits_of_early hearly)
    rw [Function.update_of_ne hne]
    exact h.awaits_of_early hearly

/-! ### Steps of tasks -/

variable {b b' : Broker} {q : Queue}

/-- The task whose receive call ends leaves the line. -/
theorem serve {queue : QueueId} {got : Option Message} (h : Lined id early (b.pending id) awaits)
    (hq : b.queues[id]? = some q) (hline : q.line.map Waiter.task = b.pending id)
    (hs : b.serve queue task = some (got, b')) (hwaits : awaits task = some queue) :
    Lined id early (b'.pending id) (Function.update awaits task none) := by
  by_cases hne : queue = id
  · subst hne
    obtain ⟨q₁, w, _, hq₁, hserve, rfl, -⟩ := Broker.serve_eq_some_iff.mp hs
    obtain rfl := Option.some.inj (hq₁.symm.trans hq)
    have hhead := List.mem_of_head? (Queue.serve_eq_some_iff.mp hserve).1
    rw [Broker.pending_serve_self hs]
    exact h.leave (hline ▸ List.mem_map_of_mem hhead)
  · rw [Broker.pending_serve_of_ne hne hs]
    exact h.aside (by rw [hwaits]; exact fun he ↦ hne (Option.some.inj he)) (by simp)

/-- A task that calls receive joins the line. -/
theorem enter (h : Lined id early (b.pending id) awaits) (hq : b.queues[id]? = some q)
    (hnone : awaits task = none) (queue : QueueId) (timeout : Nat) :
    Lined id early ((b.enter queue task timeout).pending id)
      (Function.update awaits task (some queue)) := by
  have hnot : awaits task ≠ some id := by simp [hnone]
  by_cases hne : queue = id
  · subst hne
    rw [Broker.pending_enter_self hq]
    exact h.join hnot
  · rw [Broker.pending_enter_of_ne hne]
    exact h.aside hnot fun he ↦ hne (Option.some.inj he)

/-- A poll cycle that goes on joins the line unless it is at its limit. -/
theorem proceed (h : Lined id early (b.pending id) awaits) (hq : b.queues[id]? = some q)
    (hnone : awaits task = none) (c : Consumer) (count : Nat) :
    Lined id early ((c.proceed task count b).2.pending id)
      (Function.update awaits task (c.awaited (c.proceed task count b).1)) := by
  unfold Consumer.proceed
  split
  · exact h.aside (by simp [hnone]) (by simp [Consumer.awaited])
  · exact h.enter hq hnone c.input c.settings.receiveTimeout

theorem start (h : Lined id early (b.pending id) awaits) (hq : b.queues[id]? = some q)
    (hnone : awaits task = none) (c : Consumer) :
    Lined id early ((c.start task b).2.pending id)
      (Function.update awaits task (c.awaited (c.start task b).1)) := by
  have hbegan : Lined id early ((b.record (.began task)).pending id) awaits := h
  exact hbegan.proceed hq hnone c 0

theorem resume (h : Lined id early (b.pending id) awaits) (hq : b.queues[id]? = some q)
    (hnone : awaits task = none) (c : Consumer) (count : Nat) (got : Option Message) :
    Lined id early ((c.resume task count got b).2.pending id)
      (Function.update awaits task (c.awaited (c.resume task count got b).1)) := by
  cases got with
  | none => exact h.aside (by simp [hnone]) (by simp [Consumer.resume, Consumer.awaited])
  | some m =>
    have hsends := c.process_sends m b
    obtain ⟨q', hq', -⟩ := hsends.reaches.keeps hq
    exact proceed (by rwa [hsends.pending_eq]) hq' hnone c (count + 1)

end Queue.Lined

section

variable {id : QueueId} {early : TaskId → Prop} {q : Queue}

/-- A step of a task keeps the invariant. -/
theorem Task.Advance.lined {task : TaskId} {b b' : Broker} {k k' : Task}
    {awaits : TaskId → Option QueueId} (h : Advance task b k k' b')
    (hl : Queue.Lined id early (b.pending id) awaits) (hwaits : awaits task = k.awaits?)
    (hq : b.queues[id]? = some q) (hline : q.line.map Waiter.task = b.pending id) :
    Queue.Lined id early (b'.pending id) (Function.update awaits task k'.awaits?) := by
  cases h with
  | received hs => exact hl.serve hq hline hs hwaits
  | @polled c count got b₁ hs =>
    obtain ⟨q₁, hq₁, -⟩ := (Broker.Step.serve hs).keeps hq
    have h := (hl.serve hq hline hs hwaits).resume hq₁ (Function.update_self ..) c count got
    rwa [Function.update_idem] at h
  | @resumed p due count got b₁ hp hs =>
    have hinput : (Task.poller p).awaits? = some p.consumer.input := by simp [Task.awaits?, hp]
    obtain ⟨q₁, hq₁, -⟩ := (Broker.Step.serve hs).keeps hq
    have h := (hl.serve hq hline hs (hwaits.trans hinput)).resume hq₁ (Function.update_self ..)
      p.consumer count got
    rw [Function.update_idem] at h
    rwa [Poller.resume, Poller.awaits?_during]
  | @woken p due hp hdue =>
    have hnone : awaits task = none := by simp [hwaits, Task.awaits?, hp]
    unfold Poller.wake
    split
    · exact hl.aside (by simp [hnone]) (by simp [Task.awaits?])
    · split
      · exact hl.aside (by simp [hnone]) (by simp [Task.awaits?])
      · rw [Poller.awaits?_during]
        exact hl.start hq hnone p.consumer

/-- A move of the system keeps the invariant. -/
theorem System.Move.lined {s t : System} (h : Move s t)
    (hl : Queue.Lined id early (s.broker.pending id) s.awaits)
    (hq : s.broker.queues[id]? = some q) (hline : q.line.map Waiter.task = s.broker.pending id) :
    Queue.Lined id early (t.broker.pending id) t.awaits := by
  have hnext := s.awaits_nextTask
  cases h with
  | step task h =>
    obtain ⟨k, k', b, hk, hs, rfl⟩ := step?_eq_some_iff.mp h
    rw [awaits_set hk]
    exact (Task.step_eq_some_iff.mp hs).lined hl (awaits_eq hk) hq hline
  | wait => exact hl
  | create h => exact hl
  | close queue =>
    show Queue.Lined id early ((s.broker.close queue).pending id) s.awaits
    rwa [Broker.pending_close]
  | issue => exact hl
  | send channel m =>
    show Queue.Lined id early ((channel.send m s.broker).2.pending id) s.awaits
    rwa [(channel.send_sends m s.broker).pending_eq]
  | handle e m =>
    show Queue.Lined id early ((e.handle m s.broker).2.pending id) s.awaits
    rwa [(e.handle_sends m s.broker).pending_eq]
  | receive queue timeout =>
    rw [startReceive, awaits_append]
    exact hl.enter hq hnext queue timeout
  | poll c =>
    rw [startPoll, awaits_append]
    exact hl.start hq hnext c
  | spawn c stopping =>
    rw [System.spawn, awaits_append]
    exact hl.aside (by simp [hnext]) (by simp [Task.awaits?])
  | stop task =>
    unfold System.stop
    split
    · rename_i k hk
      rwa [awaits_set hk, Task.awaits?_stop, ← awaits_eq hk, Function.update_eq_self]
    · exact hl

namespace System

/-- A queue whose line is what the journal tells of pending calls, and their tasks wait for it. -/
structure InLine (id : QueueId) (early : TaskId → Prop) (s : System) : Prop where
  line : ∃ q, s.broker.queues[id]? = some q ∧ q.line.map Waiter.task = s.broker.pending id
  lined : Queue.Lined id early (s.broker.pending id) s.awaits

variable {s t : System}

theorem InLine.line_eq (h : InLine id early s) (hq : s.broker.queues[id]? = some q) :
    q.line.map Waiter.task = s.broker.pending id := by
  obtain ⟨q', hq', hline⟩ := h.line
  obtain rfl := Option.some.inj (hq'.symm.trans hq)
  exact hline

theorem InLine.move (h : InLine id early s) (move : Move s t) : InLine id early t := by
  obtain ⟨q, hq, hline⟩ := h.line
  refine ⟨?_, move.lined h.lined hq hline⟩
  rcases move.clock_eq_or_wait with hclock | ⟨instant, -, -, -, rfl⟩
  · rw [← s.broker.pending_history] at hline
    rw [← t.broker.pending_history]
    exact move.reaches.kept (P := fun q log ↦ q.line.map Waiter.task = Queue.pending id log) hclock
      (fun hl hc ↦ hc.line_eq hl) hq hline
  · exact ⟨q, hq, hline⟩

end System

end

end Messaging
