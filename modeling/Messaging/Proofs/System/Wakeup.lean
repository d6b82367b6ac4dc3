import Messaging.Proofs.System.Creation
import Messaging.Proofs.System.Line

/-!
# What an instant settles

When no task can take a step any more, every queue on which a receive call is pending is empty and
open.  For the first of its line would otherwise have its call ended: its task waits for just that,
so it could take a step.

Time passes only then.  So what a queue owes pending calls is settled before the instant is over: a
message that was accepted has ended the first pending call, and a queue that was closed has ended
all of them.
-/

namespace Messaging

/-- The turn of the first of the line can end unless the queue is empty and open. -/
theorem Queue.exists_serve {q : Queue} {w : Waiter} (hw : q.line.head? = some w)
    (h : ¬(q.items = [] ∧ q.closed = false)) (now : Nat) :
    ∃ got q', q.serve now = some (w, got, q') := by
  cases hi : q.items with
  | nil =>
    have hclosed : q.closed = true := Bool.not_eq_false _ ▸ fun hopen ↦ h ⟨hi, hopen⟩
    exact ⟨none, _, serve_eq_some_iff.mpr ⟨hw, .inr ⟨hi, .inl hclosed, rfl, rfl⟩⟩⟩
  | cons m rest => exact ⟨some m, _, serve_eq_some_iff.mpr ⟨hw, .inl ⟨m, rest, hi, rfl, rfl⟩⟩⟩

/-- A task can take a step when the receive call can end for which it waits. -/
theorem Task.exists_advance {task : TaskId} {k : Task} {id : QueueId} {b b' : Broker}
    {got : Option Message} (hk : k.awaits? = some id) (hs : b.serve id task = some (got, b')) :
    ∃ k' b'', Advance task b k k' b'' := by
  cases k with
  | receive queue result =>
    cases result with
    | none =>
      cases hk
      exact ⟨_, _, .received hs⟩
    | some _ => cases hk
  | poll c cycle =>
    cases cycle with
    | going count =>
      cases hk
      exact ⟨_, _, .polled hs⟩
    | complete count => cases hk
  | poller p =>
    cases hp : p.phase with
    | polling due count =>
      rw [awaits?, hp] at hk
      cases hk
      exact ⟨_, _, .resumed hp hs⟩
    | waiting | finished | broken =>
      rw [awaits?, hp] at hk
      cases hk

/-- Where the journal is cut at an entry about a queue, so is the history of that queue. -/
theorem Broker.history_of_journal {b : Broker} {id : QueueId} {later before : List Entry}
    {e : Entry} (h : b.journal = later ++ e :: before) (he : e.event.queue? = some id) :
    b.history id = later.filter (fun x ↦ x.event.queue? = some id) ++
      e :: before.filter (fun x ↦ x.event.queue? = some id) := by
  rw [history, h, List.filter_append, List.filter_cons_of_pos (by simpa using he)]

namespace System

variable {s t : System} {id : QueueId} {early : TaskId → Prop}

/-- When no task can take a step, no turn can end: the task of the call that has the turn could take
a step. -/
theorem Settled.serve_eq_none {q : Queue} (h : s.Settled) (hl : InLine id early s)
    (hq : s.broker.queues[id]? = some q) : q.serve s.clock = none := by
  by_contra hnot
  obtain ⟨⟨w, got, q'⟩, hserve⟩ := Option.ne_none_iff_exists'.mp hnot
  have hhead := (Queue.serve_eq_some_iff.mp hserve).1
  have hmem : w.task ∈ s.broker.pending id :=
    hl.line_eq hq ▸ List.mem_map_of_mem (List.mem_of_head? hhead)
  obtain ⟨k, hk, hwaits⟩ := Option.bind_eq_some_iff.mp (hl.lined.mem_iff.mp hmem).1
  obtain ⟨b', hs⟩ := Broker.exists_serve hq hserve
  obtain ⟨k', b'', hadv⟩ := Task.exists_advance hwaits hs
  have hstep := step?_eq_some_iff.mpr ⟨k, k', b'', hk, Task.step_eq_some_iff.mpr hadv, rfl⟩
  cases (h w.task).symm.trans hstep

/-- When no task can take a step, a queue is quiet. -/
theorem Settled.quiet {q : Queue} (h : s.Settled) (hl : InLine id early s)
    (hq : s.broker.queues[id]? = some q) : q.Quiet := by
  intro hne
  by_contra hnot
  obtain ⟨w, rest, hcons⟩ := List.exists_cons_of_ne_nil hne
  obtain ⟨got, q', hserve⟩ :=
    Queue.exists_serve (by rw [hcons, List.head?_cons]) hnot s.clock
  cases (h.serve_eq_none hl hq).symm.trans hserve

/-- What holds of a queue from its creation on: it owes nothing from earlier instants, and the tasks
of its pending calls wait for it. -/
structure Tended (id : QueueId) (early : TaskId → Prop) (s : System) : Prop where
  prompt : ∃ q, s.broker.queues[id]? = some q ∧ q.Prompt id s.clock (s.broker.history id)
  lined : Queue.Lined id early (s.broker.pending id) s.awaits

theorem Tended.inLine (h : Tended id early s) : InLine id early s := by
  obtain ⟨q, hq, hprompt⟩ := h.prompt
  exact ⟨⟨q, hq, hprompt.line.trans (s.broker.pending_history id)⟩, h.lined⟩

theorem Tended.quiet {q : Queue} (h : Tended id early s) (hsettled : s.Settled)
    (hq : s.broker.queues[id]? = some q) : q.Quiet :=
  hsettled.quiet h.inLine hq

theorem Tended.move (h : Tended id early s) (move : Move s t) : Tended id early t := by
  obtain ⟨q, hq, hprompt⟩ := h.prompt
  refine ⟨?_, (h.inLine.move move).lined⟩
  rcases move.clock_eq_or_wait with hclock | ⟨instant, hsettled, -, -, rfl⟩
  · have hkept := move.reaches.kept hclock (fun h hc ↦ h.change hc) hq hprompt
    exact hclock ▸ hkept
  · exact ⟨q, hq, hprompt.wait (h.quiet hsettled hq)⟩

theorem Reaches.tended {name : String} {capacity : Nat} {q : Queue} (hs : s.Reachable)
    (hq : Queue.create name capacity = .ok q)
    (run : (s.withBroker (s.broker.addQueue q)).Reaches t) :
    Tended s.broker.queues.length (fun task ↦ s.awaits task = some s.broker.queues.length) t := by
  unfold Reaches at run
  induction run with
  | refl =>
    have hsilent : s.broker.history s.broker.queues.length = [] :=
      hs.broker.chronicled.silent (by simp)
    have hpending : s.broker.pending s.broker.queues.length = [] := by
      rw [← s.broker.pending_history, hsilent]
      rfl
    refine ⟨⟨q, by simp [withBroker, Broker.addQueue], ?_⟩, ?_⟩
    · show q.Prompt _ s.clock (s.broker.history s.broker.queues.length)
      rw [hsilent]
      exact Queue.prompt_of_create s.clock hq
    · show Queue.Lined _ _ (s.broker.pending s.broker.queues.length) s.awaits
      rw [hpending]
      exact ⟨List.nodup_nil, by simp, fun h ↦ h⟩
  | tail _ move ih => exact ih.move move

/-- The tasks of the calls in line on a queue wait for it. -/
theorem Reachable.exists_inLine {q : Queue} (hs : s.Reachable)
    (hq : s.broker.queues[id]? = some q) : ∃ early, InLine id early s := by
  have hid : id < s.broker.queues.length := (List.getElem?_eq_some_iff.mp hq).1
  obtain ⟨s₀, name, capacity, q₀, hs₀, hq₀, rfl, run⟩ := hs.exists_create hid
  exact ⟨_, (run.tended hs₀ hq₀).inLine⟩

namespace Tended

theorem line_eq (h : Tended id early s) {q : Queue} (hq : s.broker.queues[id]? = some q) :
    q.line.map Waiter.task = s.broker.pending id := h.inLine.line_eq hq

/-- When no task can take a step, a queue with pending calls is empty and open. -/
theorem exists_empty (h : Tended id early s) (hsettled : s.Settled)
    (hpending : s.broker.pending id ≠ []) :
    ∃ q, s.broker.queues[id]? = some q ∧ q.items = [] ∧ q.closed = false := by
  obtain ⟨q, hq, -⟩ := h.prompt
  refine ⟨q, hq, h.quiet hsettled hq fun hnil ↦ hpending ?_⟩
  rw [← h.line_eq hq, hnil]
  rfl

/-- A message that was accepted has ended the first pending call by the end of the instant. -/
theorem ends_of_sent (h : Tended id early s) {later before : List Entry} {instant : Nat}
    {m : Message} {task : TaskId}
    (hjournal : s.broker.journal = later ++ ⟨instant, .offered id m .sent⟩ :: before)
    (hfirst : (Queue.pending id before).head? = some task)
    (hpast : s.Settled ∨ instant < s.clock) :
    ∃ since got, ⟨instant, .received id task since (some got)⟩ ∈ later := by
  obtain ⟨q, hq, hprompt⟩ := h.prompt
  have hlog : s.broker.history id = _ := Broker.history_of_journal hjournal rfl
  rw [← Queue.pending_filter] at hfirst
  rcases hprompt.sent hlog hfirst with ⟨since, got, hmem⟩ | ⟨heq, hfirst, hitems⟩
  · exact ⟨since, got, List.mem_of_mem_filter hmem⟩
  · rcases hpast with hsettled | hlt
    · have hne := Queue.line_ne_nil_of_mem_pending hprompt.line (List.mem_of_head? hfirst)
      exact (hitems (h.quiet hsettled hq hne).1).elim
    · exact (Nat.ne_of_lt hlt heq).elim

/-- A closing has ended all pending calls by the end of the instant. -/
theorem ends_of_closed (h : Tended id early s) {later before : List Entry} {instant : Nat}
    {task : TaskId} (hjournal : s.broker.journal = later ++ ⟨instant, .closed id⟩ :: before)
    (hmem : task ∈ Queue.pending id before) (hpast : s.Settled ∨ instant < s.clock) :
    ∃ since got, ⟨instant, .received id task since got⟩ ∈ later := by
  obtain ⟨q, hq, hprompt⟩ := h.prompt
  have hlog : s.broker.history id = _ := Broker.history_of_journal hjournal rfl
  rw [← Queue.pending_filter] at hmem
  rcases hprompt.closed hlog hmem with ⟨since, got, hentry⟩ | ⟨heq, hmem, hclosed⟩
  · exact ⟨since, got, List.mem_of_mem_filter hentry⟩
  · rcases hpast with hsettled | hlt
    · have hne := Queue.line_ne_nil_of_mem_pending hprompt.line hmem
      cases hclosed.symm.trans (h.quiet hsettled hq hne).2
    · exact (Nat.ne_of_lt hlt heq).elim

/-- Nothing is ever queued after a closing that meets pending calls when no task can take a step. -/
theorem items_of_close (h : Tended id early s) (hsettled : s.Settled)
    (hpending : s.broker.pending id ≠ [])
    (run : (s.withBroker (s.broker.close id)).Reaches t) : t.broker.items id = [] := by
  obtain ⟨q, hq, hempty, -⟩ := h.exists_empty hsettled hpending
  have hclose : (s.broker.close id).queues[id]? = some q.close := by
    rw [Broker.close, hq]
    exact Broker.getElem?_setQueue_self q.close hq
  obtain ⟨q', hq', -, hitems⟩ := run.broker.stays_finished hclose rfl hempty
  rw [Broker.items_eq hq', hitems]

end Tended

end System

end Messaging
