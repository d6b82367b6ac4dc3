import Messaging.Proofs.Broker.Run

/-!
# Pending receive calls

A receive call on a queue is pending from when it is made until it ends.  The journal alone tells
which calls are pending, and the line of the queue agrees with it.

No pending call is passed over.  A message that the queue accepts is there for the first pending
call, which ends with a message at that very instant; a queue that closes ends all of them.  The
invariant, `Queue.Prompt`, says what has happened already and what is still owed, and to whom.  It
survives the end of an instant only if nothing is owed then, so the proof needs that time passes
only while the queue is `Queue.Quiet`.
-/

namespace Messaging

/-! ## What the journal tells -/

namespace Queue

/-- The tasks whose receive calls on a queue were made and have not ended, in the order of the
calls, according to a journal with the latest entry first. -/
def pending (id : QueueId) : List Entry → List TaskId
  | [] => []
  | e :: log =>
    match e.event with
    | .called queue task _ => if queue = id then pending id log ++ [task] else pending id log
    | .received queue task _ _ => if queue = id then (pending id log).erase task else pending id log
    | _ => pending id log

variable {id : QueueId} {now : Nat}

theorem pending_called (log : List Entry) (task : TaskId) (timeout : Nat) :
    pending id (⟨now, .called id task timeout⟩ :: log) = pending id log ++ [task] :=
  if_pos rfl

theorem pending_received (log : List Entry) (task : TaskId) (since : Nat) (got : Option Message) :
    pending id (⟨now, .received id task since got⟩ :: log) = (pending id log).erase task :=
  if_pos rfl

theorem pending_of_queue?_ne {e : Entry} (log : List Entry) (h : e.event.queue? ≠ some id) :
    pending id (e :: log) = pending id log := by
  obtain ⟨now, event⟩ := e
  cases event with
  | called queue task timeout => exact if_neg fun he ↦ h (congrArg some he)
  | received queue task since got => exact if_neg fun he ↦ h (congrArg some he)
  | offered | closed | invoked | began | ended => rfl

/-- Only what is told of the queue matters. -/
theorem pending_filter (log : List Entry) :
    pending id (log.filter fun e ↦ e.event.queue? = some id) = pending id log := by
  induction log with
  | nil => rfl
  | cons e log ih =>
    by_cases h : e.event.queue? = some id
    · rw [List.filter_cons_of_pos (by simpa using h)]
      simp only [pending, ih]
    · rw [List.filter_cons_of_neg (by simpa using h), pending_of_queue?_ne log h, ih]

end Queue

/-- The tasks whose receive calls on a queue have not ended, in the order of the calls. -/
def Broker.pending (b : Broker) (id : QueueId) : List TaskId := Queue.pending id b.journal

theorem Broker.pending_history (b : Broker) (id : QueueId) :
    Queue.pending id (b.history id) = b.pending id :=
  Queue.pending_filter b.journal

namespace Queue

variable {id : QueueId} {now : Nat} {q q' : Queue} {log : List Entry} {e : Event} {task : TaskId}

/-! ## What a change does to pending calls -/

/-- The line of a queue stays what the journal tells of pending calls. -/
theorem Change.line_eq (h : Change id now q e q')
    (hline : q.line.map Waiter.task = pending id log) :
    q'.line.map Waiter.task = pending id (⟨now, e⟩ :: log) := by
  cases h with
  | offered m =>
    rw [← show pending id log = pending id (⟨now, .offered id m q.answer⟩ :: log) from rfl, ← hline,
      offer]
    split <;> rfl
  | closed => exact hline
  | called task timeout =>
    rw [pending_called, ← hline, enter, List.map_append]
    rfl
  | @received _ w got h =>
    rw [pending_received, ← hline]
    obtain ⟨hw, hq'⟩ := serve_eq_some_iff.mp h
    have htail : q'.line = q.line.tail := by
      rcases hq' with ⟨_, _, -, -, rfl⟩ | ⟨-, -, -, rfl⟩ <;> rfl
    obtain ⟨rest, hrest⟩ := List.head?_eq_some_iff.mp hw
    rw [htail, hrest, List.map_cons, List.erase_cons_head, List.tail_cons]

/-- The first pending call stays the first until it ends, and if the queue holds a message then it
ends with one. -/
theorem Change.first_pending (h : Change id now q e q')
    (hline : q.line.map Waiter.task = pending id log)
    (hfirst : (pending id log).head? = some task) (hitems : q.items ≠ []) :
    (∃ since m, e = .received id task since (some m)) ∨
      (pending id (⟨now, e⟩ :: log)).head? = some task ∧ q'.items ≠ [] := by
  cases h with
  | offered m =>
    refine .inr ⟨hfirst, ?_⟩
    rw [offer]
    split
    · simp
    · exact hitems
  | closed => exact .inr ⟨hfirst, hitems⟩
  | called other timeout =>
    refine .inr ⟨?_, hitems⟩
    rw [pending_called, List.head?_append, hfirst]
    rfl
  | @received _ w got h =>
    obtain ⟨hw, ⟨m, _, -, rfl, -⟩ | ⟨hempty, -⟩⟩ := serve_eq_some_iff.mp h
    · rw [← hline, List.head?_map, hw] at hfirst
      obtain rfl := Option.some.inj hfirst
      exact .inl ⟨w.called, m, rfl⟩
    · exact (hitems hempty).elim

/-- Pending calls on a closed queue stay pending until they end. -/
theorem Change.all_pending (h : Change id now q e q') (hmem : task ∈ pending id log)
    (hclosed : q.closed = true) :
    (∃ since got, e = .received id task since got) ∨
      task ∈ pending id (⟨now, e⟩ :: log) ∧ q'.closed = true := by
  cases h with
  | offered m =>
    refine .inr ⟨hmem, ?_⟩
    rw [offer]
    split <;> exact hclosed
  | closed => exact .inr ⟨hmem, rfl⟩
  | called other timeout =>
    refine .inr ⟨?_, hclosed⟩
    rw [pending_called]
    exact List.mem_append_left _ hmem
  | @received _ w got h =>
    obtain ⟨-, hq'⟩ := serve_eq_some_iff.mp h
    by_cases hne : task = w.task
    · exact .inl ⟨w.called, got, by rw [hne]⟩
    · refine .inr ⟨?_, ?_⟩
      · rw [pending_received]
        exact (List.mem_erase_of_ne hne).mpr hmem
      · rcases hq' with ⟨_, _, -, -, rfl⟩ | ⟨-, -, -, rfl⟩ <;> exact hclosed

theorem Change.items_ne_nil {m : Message} (h : Change id now q (.offered id m .sent) q') :
    q'.items ≠ [] := by
  generalize he : Event.offered id m .sent = e at h
  cases h with
  | offered m' =>
    obtain ⟨-, -, hsent⟩ := Event.offered.inj he
    rw [offer, if_pos hsent.symm]
    simp
  | closed | called | received => cases he

theorem Change.closed_eq_true (h : Change id now q (.closed id) q') : q'.closed = true := by
  cases h with
  | closed => rfl

/-- A queue that is closed and empty stays so. -/
theorem Change.stays_finished (h : Change id now q e q') (hclosed : q.closed = true)
    (hitems : q.items = []) : q'.closed = true ∧ q'.items = [] := by
  cases h with
  | offered m =>
    rw [offer, answer_eq_closed_iff.mpr hclosed]
    exact ⟨hclosed, hitems⟩
  | closed => exact ⟨rfl, hitems⟩
  | called => exact ⟨hclosed, hitems⟩
  | received h =>
    obtain ⟨-, ⟨m, rest, hcons, -⟩ | ⟨-, -, -, rfl⟩⟩ := serve_eq_some_iff.mp h
    · cases hitems.symm.trans hcons
    · exact ⟨hclosed, hitems⟩

/-! ## The invariant -/

/-- Nobody waits for a queue that could end the wait. -/
def Quiet (q : Queue) : Prop := q.line ≠ [] → q.items = [] ∧ q.closed = false

/-- A queue owes pending calls nothing from earlier instants. -/
structure Prompt (id : QueueId) (now : Nat) (q : Queue) (log : List Entry) : Prop where
  line : q.line.map Waiter.task = pending id log
  /-- When a message was accepted, the first pending call ended with a message at that instant; or
  the instant is not over, and there is a message for it. -/
  sent : ∀ {later before : List Entry} {instant : Nat} {m : Message} {task : TaskId},
    log = later ++ ⟨instant, .offered id m .sent⟩ :: before →
    (pending id before).head? = some task →
    (∃ since got, ⟨instant, .received id task since (some got)⟩ ∈ later) ∨
      instant = now ∧ (pending id log).head? = some task ∧ q.items ≠ []
  /-- When the queue was closed, all pending calls ended at that instant; or the instant is not
  over. -/
  closed : ∀ {later before : List Entry} {instant : Nat} {task : TaskId},
    log = later ++ ⟨instant, .closed id⟩ :: before → task ∈ pending id before →
    (∃ since got, ⟨instant, .received id task since got⟩ ∈ later) ∨
      instant = now ∧ task ∈ pending id log ∧ q.closed = true

theorem prompt_of_create {name : String} {capacity : Nat} (now : Nat)
    (h : Queue.create name capacity = .ok q) : q.Prompt id now [] := by
  obtain ⟨-, -, rfl⟩ := create_eq_ok_iff.mp h
  exact ⟨rfl, fun h ↦ by simp at h, fun h ↦ by simp at h⟩

/-- Every change of a queue keeps the invariant. -/
theorem Prompt.change (h : q.Prompt id now log) (hc : Change id now q e q') :
    q'.Prompt id now (⟨now, e⟩ :: log) where
  line := hc.line_eq h.line
  sent := by
    intro later before instant m task hlog hfirst
    rcases List.cons_eq_append_iff.mp hlog with ⟨rfl, hnew⟩ | ⟨later, rfl, hold⟩
    · obtain ⟨hentry, rfl⟩ := List.cons.inj hnew
      obtain ⟨rfl, rfl⟩ := Entry.mk.inj hentry
      exact .inr ⟨rfl, hfirst, hc.items_ne_nil⟩
    -- What an older entry owes is paid by this change, or is still there to be paid.
    · rcases h.sent hold hfirst with ⟨since, got, hmem⟩ | ⟨rfl, hfirst, hitems⟩
      · exact .inl ⟨since, got, List.mem_cons_of_mem _ hmem⟩
      · rcases hc.first_pending h.line hfirst hitems with ⟨since, got, rfl⟩ | hstays
        · exact .inl ⟨since, got, List.mem_cons_self⟩
        · exact .inr ⟨rfl, hstays⟩
  closed := by
    intro later before instant task hlog hmem
    rcases List.cons_eq_append_iff.mp hlog with ⟨rfl, hnew⟩ | ⟨later, rfl, hold⟩
    · obtain ⟨hentry, rfl⟩ := List.cons.inj hnew
      obtain ⟨rfl, rfl⟩ := Entry.mk.inj hentry
      exact .inr ⟨rfl, hmem, hc.closed_eq_true⟩
    · rcases h.closed hold hmem with ⟨since, got, hentry⟩ | ⟨rfl, hmem, hclosed⟩
      · exact .inl ⟨since, got, List.mem_cons_of_mem _ hentry⟩
      · rcases hc.all_pending hmem hclosed with ⟨since, got, rfl⟩ | hstays
        · exact .inl ⟨since, got, List.mem_cons_self⟩
        · exact .inr ⟨rfl, hstays⟩

theorem line_ne_nil_of_mem_pending (hline : q.line.map Waiter.task = pending id log)
    (hmem : task ∈ pending id log) : q.line ≠ [] := by
  rintro hnil
  rw [← hline, hnil] at hmem
  cases hmem

/-- While a queue is quiet, nothing is owed, so the invariant is kept when time passes. -/
theorem Prompt.wait {later : Nat} (h : q.Prompt id now log) (hquiet : q.Quiet) :
    q.Prompt id later log where
  line := h.line
  sent := by
    intro after before instant m task hlog hfirst
    rcases h.sent hlog hfirst with hended | ⟨-, hfirst, hitems⟩
    · exact .inl hended
    · have hline := line_ne_nil_of_mem_pending h.line (List.mem_of_head? hfirst)
      exact (hitems (hquiet hline).1).elim
  closed := by
    intro after before instant task hlog hmem
    rcases h.closed hlog hmem with hended | ⟨-, hmem, hclosed⟩
    · exact .inl hended
    · have hline := line_ne_nil_of_mem_pending h.line hmem
      cases hclosed.symm.trans (hquiet hline).2

end Queue

namespace Broker

variable {b b' : Broker} {id : QueueId} {q : Queue}

/-- Operations at one instant keep what every change at that instant keeps. -/
theorem Reaches.kept {P : Queue → List Entry → Prop} (h : Reaches b b')
    (hclock : b'.clock = b.clock)
    (keeps : ∀ {q q' : Queue} {log : List Entry} {e : Event}, P q log →
      Queue.Change id b.clock q e q' → P q' (⟨b.clock, e⟩ :: log))
    (hq : b.queues[id]? = some q) (hP : P q (b.history id)) :
    ∃ q', b'.queues[id]? = some q' ∧ P q' (b'.history id) := by
  unfold Reaches at h
  induction h with
  | refl => exact ⟨q, hq, hP⟩
  | @tail b₁ b₂ run step ih =>
    have hle := (Reaches.later run).1
    have hle' := step.later.1
    have hclock₁ : b₁.clock = b.clock := by omega
    obtain ⟨q₁, hq₁, h₁⟩ := ih hclock₁
    obtain ⟨q₂, hq₂, ⟨rfl, hhist⟩ | ⟨e, he, hhist, -⟩⟩ := step.effect_at hq₁
    · exact ⟨q₂, hq₂, hhist ▸ h₁⟩
    · refine ⟨q₂, hq₂, ?_⟩
      rw [hclock₁] at he hhist
      rw [hhist]
      exact keeps h₁ he

/-- Nothing is ever queued again in a queue that was closed when it was empty. -/
theorem Reaches.stays_finished (h : Reaches b b') (hq : b.queues[id]? = some q)
    (hclosed : q.closed = true) (hitems : q.items = []) :
    ∃ q', b'.queues[id]? = some q' ∧ q'.closed = true ∧ q'.items = [] := by
  unfold Reaches at h
  induction h with
  | refl => exact ⟨q, hq, hclosed, hitems⟩
  | tail _ step ih =>
    obtain ⟨q₁, hq₁, hclosed₁, hitems₁⟩ := ih
    obtain ⟨q₂, hq₂, ⟨rfl, -⟩ | ⟨e, he, -, -⟩⟩ := step.effect_at hq₁
    · exact ⟨q₂, hq₂, hclosed₁, hitems₁⟩
    · exact ⟨q₂, hq₂, he.stays_finished hclosed₁ hitems₁⟩

end Broker

end Messaging
