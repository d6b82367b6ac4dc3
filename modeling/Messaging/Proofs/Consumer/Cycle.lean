import Messaging.Proofs.Consumer.Handling
import Messaging.Proofs.System.Run

/-!
# Poll cycles

A poll cycle whose consumer does not feed its own input takes messages from the front of its input
queue, one with each step, and handles each of them before it takes the next one.  It ends when it
is at its limit or has taken all messages, and not before.  How a message is handled does not matter
for that.

Other things may happen during the cycle, as long as they leave the channels of the consumer alone.
They can only delay the cycle: each of its steps is possible at once or as soon as the time is over
that it waits for a message.
-/

namespace Messaging

namespace Consumer

/-! ## How far a cycle comes -/

/-- How many of so many messages a poll cycle takes. -/
def quota (c : Consumer) (available : Nat) : Nat :=
  match c.settings.limit with
  | some limit => min limit available
  | none => available

/-- A cycle takes another message as long as it is not at its limit and there is one. -/
theorem lt_quota_iff {c : Consumer} {count available : Nat} :
    count < c.quota available ↔ c.atLimit count = false ∧ count < available := by
  unfold quota atLimit
  cases c.settings.limit with
  | none => simp
  | some limit =>
    show count < min limit available ↔ decide (limit ≤ count) = false ∧ count < available
    rw [Nat.lt_min, decide_eq_false_iff_not, Nat.not_le]

theorem eq_quota {c : Consumer} {count available : Nat} (hle : count ≤ c.quota available)
    (hend : c.atLimit count = true ∨ available ≤ count) : count = c.quota available := by
  refine Nat.le_antisymm hle (Nat.not_lt.mp fun hlt ↦ ?_)
  obtain ⟨hlimit, hlen⟩ := lt_quota_iff.mp hlt
  rcases hend with hend | hend
  · rw [hlimit] at hend
    cases hend
  · exact Nat.not_le.mpr hlen hend

/-- How a poll cycle of a consumer stands: it has taken the first messages of `q` and left the
others.  While it goes on, its receive call stands alone in line. -/
inductive Stands (c : Consumer) (task : TaskId) (q : Queue) (b : Broker) : Cycle → Prop
  /-- It waits for the next message. -/
  | going {count called turn : Nat} (hle : count ≤ c.quota q.items.length)
      (hlimit : c.atLimit count = false)
      (hq : b.queues[c.input]? = some { q with
        items := q.items.drop count
        line := [⟨task, c.settings.receiveTimeout, called⟩]
        turn := turn }) : Stands c task q b (.going count)
  /-- It has taken all the messages that it takes. -/
  | complete {count turn : Nat} (hcount : count = c.quota q.items.length)
      (hq : b.queues[c.input]? = some { q with
        items := q.items.drop count
        line := []
        turn := turn }) : Stands c task q b (.complete count)

variable {c : Consumer} {task : TaskId} {q : Queue} {b : Broker}

theorem Stands.count_le {cycle : Cycle} (h : c.Stands task q b cycle) :
    cycle.count ≤ c.quota q.items.length := by
  cases h with
  | going hle => exact hle
  | complete hcount => exact Nat.le_of_eq hcount

theorem Stands.of_queue_eq {cycle : Cycle} {b' : Broker} (h : c.Stands task q b cycle)
    (hq : b'.queues[c.input]? = b.queues[c.input]?) : c.Stands task q b' cycle := by
  cases h with
  | going hle hlimit hb => exact .going hle hlimit (hq.trans hb)
  | complete hcount hb => exact .complete hcount (hq.trans hb)

/-- How many steps a cycle can still take: one for each message, and one for its end. -/
def stepsLeft (c : Consumer) (available : Nat) : Cycle → Nat
  | .going count => c.quota available - count + 1
  | .complete _ => 0

theorem stepsLeft_le (c : Consumer) (available : Nat) (cycle : Cycle) :
    c.stepsLeft available cycle ≤ c.quota available + 1 := by
  cases cycle with
  | going count => exact Nat.succ_le_succ (Nat.sub_le _ _)
  | complete count => exact Nat.zero_le _

/-! ## Steps of a cycle -/

/-- After some messages the cycle ends at its limit or calls receive. -/
theorem proceed_stands (task : TaskId) (hfree : c.input ∉ c.targets) {count turn : Nat}
    (hle : count ≤ c.quota q.items.length)
    (hq : b.queues[c.input]? = some { q with
      items := q.items.drop count
      line := []
      turn := turn }) :
    c.Stands task q (c.proceed task count b).2 (c.proceed task count b).1 ∧
      b.Passes c.targets (c.proceed task count b).2 ∧
      (c.proceed task count b).1.count = count := by
  unfold proceed
  cases hlimit : c.atLimit count with
  | true =>
    rw [if_pos rfl]
    exact ⟨.complete (eq_quota hle (.inl hlimit)) hq, (Broker.Passes.refl _ _).record _, rfl⟩
  | false =>
    rw [if_neg Bool.false_ne_true, Broker.enter_eq hq]
    exact ⟨.going hle hlimit (Broker.getElem?_setQueue_self _ hq),
      (Broker.Passes.setQueue hfree _ _).record _, rfl⟩

/-- A cycle begins. -/
theorem start_stands (task : TaskId) (hfree : c.input ∉ c.targets)
    (hq : b.queues[c.input]? = some q) (hline : q.line = []) :
    c.Stands task q (c.start task b).2 (c.start task b).1 ∧
      b.Passes c.targets (c.start task b).2 ∧ (c.start task b).1.count = 0 := by
  have hq : (b.record (.began task)).queues[c.input]? = some { q with
      items := q.items.drop 0
      line := []
      turn := q.turn } := by
    rw [← hline]
    exact hq
  obtain ⟨hstands, hpass, hcount⟩ := proceed_stands task hfree (Nat.zero_le _) hq
  exact ⟨hstands, ((Broker.Passes.refl _ _).record _).trans hpass, hcount⟩

/-- When its receive call ends, the cycle has come to its end, or it handles one more message, which
is the next one of the queue. -/
theorem Stands.resume (hfree : c.input ∉ c.targets) {count : Nat} {got : Option Message}
    {b₁ : Broker} (h : c.Stands task q b (.going count))
    (hs : b.serve c.input task = some (got, b₁)) :
    c.Stands task q (c.resume task count got b₁).2 (c.resume task count got b₁).1 ∧
      ((c.resume task count got b₁).1 = .complete count ∧
          b.Passes c.targets (c.resume task count got b₁).2 ∨
        (c.resume task count got b₁).1.count = count + 1 ∧
          ∃ m b₂, q.items[count]? = some m ∧ b.Passes c.targets b₁ ∧ c.Settles m b₁ b₂ ∧
            b₂.Passes c.targets (c.resume task count got b₁).2) := by
  obtain ⟨hle, hlimit, hq⟩ := h
  obtain ⟨q₁, w, q₂, hq₁, hserve, -, rfl⟩ := Broker.serve_eq_some_iff.mp hs
  obtain rfl := Option.some.inj (hq.symm.trans hq₁)
  obtain ⟨-, ⟨m, rest, hitems, rfl, rfl⟩ | ⟨hitems, -, rfl, rfl⟩⟩ :=
    Queue.serve_eq_some_iff.mp hserve
  · have hitems : q.items.drop count = m :: rest := hitems
    have hm : q.items[count]? = some m := by
      have h := congrArg List.head? hitems
      rwa [List.head?_drop] at h
    have hrest : rest = q.items.drop (count + 1) := by
      rw [← List.tail_drop, hitems, List.tail_cons]
    have hlt : count < c.quota q.items.length :=
      lt_quota_iff.mpr ⟨hlimit, (List.getElem?_eq_some_iff.mp hm).1⟩
    generalize hb₁ : (b.setQueue c.input _).record _ = b₁ at hserve
    have hpass : b.Passes c.targets b₁ := hb₁ ▸ (Broker.Passes.setQueue hfree b _).record _
    have hq₁ : b₁.queues[c.input]? = some { q with
        items := q.items.drop (count + 1)
        line := []
        turn := b.clock } := by
      rw [← hb₁, Broker.queues_record, Broker.getElem?_setQueue_self _ hq, hrest]
      rfl
    rw [← (c.process_sends m b₁).getElem?_of_notMem hfree] at hq₁
    obtain ⟨hstands, hpass', hcount⟩ := proceed_stands task hfree hlt hq₁
    exact ⟨hstands, .inr ⟨hcount, m, _, hm, hpass, c.process_settles m b₁, hpass'⟩⟩
  · have hcount : count = c.quota q.items.length :=
      eq_quota hle (.inr (List.drop_eq_nil_iff.mp hitems))
    refine ⟨.complete hcount (Broker.getElem?_setQueue_self _ hq), .inl ⟨rfl, ?_⟩⟩
    exact ((Broker.Passes.setQueue hfree b _).record _).record _

/-- A cycle that goes on can take a step now, or as soon as the time is over that it waits. -/
theorem Stands.serve_isSome {count : Nat} (h : c.Stands task q b (.going count)) :
    (∃ got b₁, b.serve c.input task = some (got, b₁)) ∨
      ∃ q' due, b.queues[c.input]? = some q' ∧ q'.deadline? = some due ∧ b.clock < due ∧
        ∀ b' : Broker, b'.queues[c.input]? = b.queues[c.input]? → due ≤ b'.clock →
          ∃ got b₁, b'.serve c.input task = some (got, b₁) := by
  obtain @⟨_, called, turn, hle, hlimit, hq⟩ := h
  let w : Waiter := ⟨task, c.settings.receiveTimeout, called⟩
  cases hitems : q.items.drop count with
  | cons m rest =>
    exact .inl ⟨some m, Broker.exists_serve (w := w) hq
      (Queue.serve_eq_some_iff.mpr ⟨rfl, .inl ⟨m, rest, hitems, rfl, rfl⟩⟩)⟩
  | nil =>
    by_cases hend : q.closed = true ∨ turn + c.settings.receiveTimeout ≤ b.clock
    · exact .inl ⟨none, Broker.exists_serve (w := w) hq
        (Queue.serve_eq_some_iff.mpr ⟨rfl, .inr ⟨hitems, hend, rfl, rfl⟩⟩)⟩
    · refine .inr ⟨_, turn + c.settings.receiveTimeout, hq, rfl, by omega, fun b' hb' hdue ↦ ?_⟩
      exact ⟨none, Broker.exists_serve (w := w) (hb'.trans hq)
        (Queue.serve_eq_some_iff.mpr ⟨rfl, .inr ⟨hitems, .inr hdue, rfl, rfl⟩⟩)⟩

end Consumer

/-! ## Runs with a cycle -/

namespace System

theorem step?_poll_iff {s u : System} {task : TaskId} {c : Consumer} {count : Nat}
    (h : s.tasks[task]? = some (.poll c (.going count))) :
    s.step? task = some u ↔ ∃ got b, s.broker.serve c.input task = some (got, b) ∧
      u = ⟨(c.resume task count got b).2,
        s.tasks.set task (.poll c (c.resume task count got b).1)⟩ := by
  unfold step?
  rw [h]
  simp only [Task.step_poll_going, Option.map_map, Option.map_eq_some_iff, Prod.exists]
  refine exists_congr fun got ↦ exists_congr fun b ↦ and_congr_right fun _ ↦ ?_
  exact eq_comm

/-- A run in which a task takes `n` steps, and whatever else moves leaves the task and these queues
alone. -/
inductive Course (task : TaskId) (ids : List QueueId) (s : System) : Nat → System → Prop
  /-- Nothing has happened yet. -/
  | start : Course task ids s 0 s
  /-- The task takes a step. -/
  | own {n : Nat} {t u : System} (h : Course task ids s n t) (hstep : t.step? task = some u) :
      Course task ids s (n + 1) u
  /-- Something else moves. -/
  | aside {n : Nat} {t u : System} (h : Course task ids s n t) (move : Move t u)
      (htask : u.tasks[task]? = t.tasks[task]?)
      (hqueues : ∀ id ∈ ids, u.broker.queues[id]? = t.broker.queues[id]?) : Course task ids s n u

/-- A move that leaves the channels of a consumer as they are. -/
theorem Move.passes {c : Consumer} {t u : System} (move : Move t u)
    (hqueues : ∀ id ∈ c.input :: c.targets, u.broker.queues[id]? = t.broker.queues[id]?) :
    t.broker.Passes c.targets u.broker := by
  obtain ⟨hclock, hissued⟩ := move.reaches.later
  exact ⟨fun id hid ↦ hqueues id (List.mem_cons_of_mem _ hid), hclock, hissued⟩

/-- A task is in a poll cycle, which has taken the first messages of `q` and handled them one after
the other, beginning with the broker `b`. -/
structure Polls (c : Consumer) (task : TaskId) (q : Queue) (b : Broker) (cycle : Cycle)
    (t : System) : Prop where
  found : t.tasks[task]? = some (.poll c cycle)
  stands : c.Stands task q t.broker cycle
  handles : c.Handles (q.items.take cycle.count) b t.broker

namespace Polls

variable {c : Consumer} {task : TaskId} {q : Queue} {b : Broker} {cycle : Cycle} {t u : System}

theorem aside (h : Polls c task q b cycle t) (move : Move t u)
    (htask : u.tasks[task]? = t.tasks[task]?)
    (hqueues : ∀ id ∈ c.input :: c.targets, u.broker.queues[id]? = t.broker.queues[id]?) :
    Polls c task q b cycle u :=
  ⟨htask.trans h.found, h.stands.of_queue_eq (hqueues _ List.mem_cons_self),
    h.handles.pass (move.passes hqueues)⟩

/-- With each step of its task the cycle comes to its end or handles one more message. -/
theorem own (hfree : c.input ∉ c.targets) (h : Polls c task q b cycle t)
    (hstep : t.step? task = some u) :
    ∃ cycle', Polls c task q b cycle' u ∧
      c.stepsLeft q.items.length cycle' < c.stepsLeft q.items.length cycle := by
  cases cycle with
  | complete count =>
    simp [step?, h.found, Task.step_poll_complete] at hstep
  | going count =>
    obtain ⟨got, b₁, hserve, rfl⟩ := (step?_poll_iff h.found).mp hstep
    obtain ⟨hstands, hcases⟩ := h.stands.resume hfree hserve
    have hlt := (List.getElem?_eq_some_iff.mp h.found).1
    refine ⟨_, ⟨List.getElem?_set_self hlt, hstands, ?_⟩, ?_⟩
    · rcases hcases with ⟨hend, hpass⟩ | ⟨hcount, m, b₂, hm, hpass, hsettles, hpass'⟩
      · rw [hend]
        exact h.handles.pass hpass
      · rw [hcount, List.take_add_one, hm]
        exact .next (h.handles.pass hpass) hsettles hpass'
    · have hle := hstands.count_le
      rcases hcases with ⟨hend, -⟩ | ⟨hcount, -⟩
      · rw [hend]
        exact Nat.succ_pos _
      · rw [hcount] at hle
        cases hcycle : (c.resume task count got b₁).1 with
        | complete _ => exact Nat.succ_pos _
        | going count' =>
          rw [hcycle] at hcount
          obtain rfl : count' = count + 1 := hcount
          show c.quota q.items.length - (count + 1) + 1 < c.quota q.items.length - count + 1
          omega

/-- A cycle that is not over goes on at once, or when a time is over after which nothing else can
keep it from going on. -/
theorem goes_on (h : Polls c task q b cycle t) (hover : cycle.isOver = false) :
    (∃ u, t.step? task = some u) ∨
      ∃ due ∈ t.dues, t.clock < due ∧
        ∀ u : System, u.tasks[task]? = t.tasks[task]? →
          u.broker.queues[c.input]? = t.broker.queues[c.input]? → due ≤ u.clock →
          ∃ v, u.step? task = some v := by
  have step : ∀ {count : Nat} {u : System} {got : Option Message} {b₁ : Broker},
      u.tasks[task]? = some (.poll c (.going count)) →
      u.broker.serve c.input task = some (got, b₁) → ∃ v, u.step? task = some v := by
    intro count u got b₁ hu hserve
    exact ⟨_, (step?_poll_iff hu).mpr ⟨got, b₁, hserve, rfl⟩⟩
  cases cycle with
  | complete count => cases hover
  | going count =>
    rcases h.stands.serve_isSome with ⟨got, b₁, hserve⟩ | ⟨q', due, hq', hdue, hlt, hlater⟩
    · exact .inl (step h.found hserve)
    · refine .inr ⟨due, ?_, hlt, fun u htask hqueue hle ↦ ?_⟩
      · exact List.mem_append_left _ (List.mem_filterMap.mpr ⟨q', List.mem_of_getElem? hq', hdue⟩)
      · obtain ⟨got, b₁, hserve⟩ := hlater u.broker hqueue hle
        exact step (htask.trans h.found) hserve

end Polls

namespace Course

variable {task : TaskId} {ids : List QueueId} {s t : System} {n : Nat}

theorem trans {u : System} {m : Nat} (h : Course task ids s n t) (h' : Course task ids t m u) :
    Course task ids s (n + m) u := by
  induction h' with
  | start => exact h
  | own _ hstep ih => exact ih.own hstep
  | aside _ move htask hqueues ih => exact ih.aside move htask hqueues

theorem clock_le (h : Course task ids s n t) : s.clock ≤ t.clock := by
  induction h with
  | start => exact Nat.le_refl _
  | own _ hstep ih => exact Nat.le_trans ih (Move.step task hstep).reaches.later.1
  | aside _ move _ _ ih => exact Nat.le_trans ih move.reaches.later.1

/-- As long as its task takes no step, nothing changes for it. -/
theorem unchanged (h : Course task ids s 0 t) :
    t.tasks[task]? = s.tasks[task]? ∧ ∀ id ∈ ids, t.broker.queues[id]? = s.broker.queues[id]? := by
  generalize hn : 0 = n at h
  induction h with
  | start => exact ⟨rfl, fun _ _ ↦ rfl⟩
  | own => cases hn
  | aside _ _ htask hqueues ih =>
    obtain ⟨ht, hq⟩ := ih hn
    exact ⟨htask.trans ht, fun id hid ↦ (hqueues id hid).trans (hq id hid)⟩

/-- In every run with a cycle that leaves its channels alone, the cycle handles the messages of its
queue one after the other. -/
theorem polls {c : Consumer} {q : Queue} {b : Broker} {cycle : Cycle} (hfree : c.input ∉ c.targets)
    (h : Course task (c.input :: c.targets) s n t) (hs : Polls c task q b cycle s) :
    ∃ cycle', Polls c task q b cycle' t ∧
      n + c.stepsLeft q.items.length cycle' ≤ c.stepsLeft q.items.length cycle := by
  induction h with
  | start => exact ⟨cycle, hs, by omega⟩
  | own _ hstep ih =>
    obtain ⟨cycle₁, h₁, hn⟩ := ih
    obtain ⟨cycle₂, h₂, hlt⟩ := h₁.own hfree hstep
    exact ⟨cycle₂, h₂, by omega⟩
  | aside _ move htask hqueues ih =>
    obtain ⟨cycle₁, h₁, hn⟩ := ih
    exact ⟨cycle₁, h₁.aside move htask hqueues, hn⟩

end Course

/-- A poll cycle begins with no message taken. -/
theorem startPoll_polls {c : Consumer} {q : Queue} {s : System} (hfree : c.input ∉ c.targets)
    (hq : s.broker.queues[c.input]? = some q) (hline : q.line = []) :
    ∃ cycle, Polls c s.nextTask q s.broker cycle (s.startPoll c) := by
  obtain ⟨hstands, hpass, hcount⟩ :=
    Consumer.start_stands s.nextTask hfree hq hline
  refine ⟨(c.start s.nextTask s.broker).1, ?_, hstands, ?_⟩
  · simp [startPoll, nextTask]
  · rw [hcount]
    exact .pause hpass

end System

end Messaging
