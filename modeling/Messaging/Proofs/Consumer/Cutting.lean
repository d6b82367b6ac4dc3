import Mathlib.Algebra.GroupWithZero.Nat
import Messaging.Proofs.Consumer.Likeness
import Messaging.Proofs.Consumer.Poll

/-!
# Cutting a queue into poll cycles

A queue is polled in several cycles, each with a limit of its own.  A cycle carries nothing over to
the next one: each takes the messages that the ones before it left, and handles them one after the
other.  So several cycles handle the messages of the queue as one cycle would, wherever they are
cut, and whatever happens between them, as long as the channels stay as they are.

Two ways to cut a queue therefore differ in the stamps of the new messages only, provided that the
handler is steady.
-/

namespace Messaging

namespace Consumer

variable {c : Consumer} {b b₁ b' : Broker} {ms ms' : List Message} {limit : Option Nat}

/-- The consumer with another limit for its cycles. -/
def withLimit (c : Consumer) (limit : Option Nat) : Consumer :=
  { c with settings := { c.settings with limit } }

theorem quota_le (c : Consumer) (available : Nat) : c.quota available ≤ available := by
  unfold quota
  cases c.settings.limit with
  | none => exact Nat.le_refl _
  | some limit => exact Nat.min_le_right _ _

/-- A cycle that may take a message takes one if there is one. -/
theorem quota_withLimit_pos {available : Nat} (hlimit : limit ≠ some 0) (h : 0 < available) :
    0 < (c.withLimit limit).quota available := by
  unfold quota withLimit
  cases limit with
  | none => exact h
  | some n => exact Nat.lt_min.mpr ⟨Nat.pos_of_ne_zero fun hn ↦ hlimit (congrArg some hn), h⟩

/-- The limit of a cycle does not matter for how a message is handled. -/
theorem Handles.of_withLimit (h : (c.withLimit limit).Handles ms b b') : c.Handles ms b b' := by
  induction h with
  | pause h => exact .pause h
  | next _ hm h' ih =>
    have hm := (settles_iff (c := c.withLimit limit)).mp hm
    exact .next ih (settles_iff.mpr hm) h'

theorem Handles.append (h : c.Handles ms b b₁) (h' : c.Handles ms' b₁ b') :
    c.Handles (ms ++ ms') b b' := by
  induction h' with
  | pause hp =>
    rw [List.append_nil]
    exact h.pass hp
  | next _ hm hp ih =>
    rw [← List.append_assoc]
    exact .next (ih h) hm hp

end Consumer

namespace System

/-! ## Several cycles -/

/-- A run in which a consumer polls its queue in several cycles, one after the other, with these
limits.  The cycles take so many messages each.  Whatever else moves leaves the channels of the
consumer alone. -/
inductive Cycles (c : Consumer) (s : System) : List (Option Nat) → List Nat → System → Prop
  /-- Nothing has happened yet. -/
  | start : Cycles c s [] [] s
  /-- Something else moves. -/
  | aside {limits : List (Option Nat)} {counts : List Nat} {t u : System}
      (h : Cycles c s limits counts t) (move : Move t u)
      (hqueues : ∀ id ∈ c.input :: c.targets, u.broker.queues[id]? = t.broker.queues[id]?) :
      Cycles c s limits counts u
  /-- One more cycle is started and comes to its end. -/
  | cycle {limits : List (Option Nat)} {counts : List Nat} {t u : System} {limit : Option Nat}
      {n count : Nat} (h : Cycles c s limits counts t)
      (hcourse : Course t.nextTask (c.input :: c.targets) (t.startPoll (c.withLimit limit)) n u)
      (hend : u.tasks[t.nextTask]? = some (.poll (c.withLimit limit) (.complete count))) :
      Cycles c s (limits ++ [limit]) (counts ++ [count]) u

/-- The first messages of `q` were taken and handled one after the other, beginning with the broker
`b`, and the others are left. -/
structure Took (c : Consumer) (q : Queue) (b : Broker) (count : Nat) (t : System) : Prop where
  count_le : count ≤ q.items.length
  left : ∃ turn, t.broker.queues[c.input]? = some { q with
    items := q.items.drop count
    line := []
    turn := turn }
  handles : c.Handles (q.items.take count) b t.broker

variable {c : Consumer} {q : Queue} {b : Broker} {s t u : System}
  {limits limits' : List (Option Nat)} {counts counts' : List Nat} {limit : Option Nat}
  {count n k : Nat}

namespace Took

theorem none (hq : s.broker.queues[c.input]? = some q) (hline : q.line = []) :
    Took c q s.broker 0 s := by
  refine ⟨Nat.zero_le _, ⟨q.turn, ?_⟩, .pause (.refl _ _)⟩
  rw [List.drop_zero, ← hline]
  exact hq

theorem aside (h : Took c q b k t) (move : Move t u)
    (hqueues : ∀ id ∈ c.input :: c.targets, u.broker.queues[id]? = t.broker.queues[id]?) :
    Took c q b k u := by
  obtain ⟨turn, hq⟩ := h.left
  exact ⟨h.count_le, ⟨turn, (hqueues _ List.mem_cons_self).trans hq⟩,
    h.handles.pass (move.passes hqueues)⟩

/-- A cycle takes and handles the next messages, as many as it may take and there are. -/
theorem cycle (hfree : c.input ∉ c.targets) (h : Took c q b k t)
    (hcourse : Course t.nextTask (c.input :: c.targets) (t.startPoll (c.withLimit limit)) n u)
    (hend : u.tasks[t.nextTask]? = some (.poll (c.withLimit limit) (.complete count))) :
    Took c q b (k + count) u ∧ count = (c.withLimit limit).quota (q.items.length - k) := by
  obtain ⟨turn, hq⟩ := h.left
  obtain ⟨cycle, hstart⟩ := startPoll_polls (c := c.withLimit limit) hfree hq rfl
  obtain ⟨cycle', hpolls, -⟩ := hcourse.polls (c := c.withLimit limit) hfree hstart
  obtain rfl : cycle' = .complete count := by
    have hsame := hpolls.found.symm.trans hend
    cases hsame
    rfl
  obtain ⟨-, -, -⟩ | ⟨hcount, hleft⟩ := hpolls.stands
  rw [List.length_drop] at hcount
  have hle := (c.withLimit limit).quota_le (q.items.length - k)
  have hk := h.count_le
  refine ⟨⟨by omega, ?_, ?_⟩, hcount⟩
  · rw [← List.drop_drop]
    exact ⟨_, hleft⟩
  · rw [List.take_add]
    exact h.handles.append hpolls.handles.of_withLimit

/-- Where nothing is left, everything was taken. -/
theorem eq_length (h : Took c q b k t) (hempty : t.broker.items c.input = []) :
    k = q.items.length := by
  obtain ⟨turn, hq⟩ := h.left
  rw [Broker.items_eq hq] at hempty
  exact Nat.le_antisymm h.count_le (List.drop_eq_nil_iff.mp hempty)

end Took

namespace Cycles

theorem trans (h : Cycles c s limits counts t) (h' : Cycles c t limits' counts' u) :
    Cycles c s (limits ++ limits') (counts ++ counts') u := by
  induction h' with
  | start =>
    rw [List.append_nil, List.append_nil]
    exact h
  | aside _ move hqueues ih => exact ih.aside move hqueues
  | cycle _ hcourse hend ih =>
    rw [← List.append_assoc, ← List.append_assoc]
    exact ih.cycle hcourse hend

/-- Several cycles take and handle the messages of the queue as one cycle would. -/
theorem took (hfree : c.input ∉ c.targets) (h : Cycles c s limits counts t)
    (hs : Took c q b k s) : Took c q b (k + counts.sum) t := by
  induction h with
  | start => exact hs
  | aside _ move hqueues ih => exact ih.aside move hqueues
  | cycle _ hcourse hend ih =>
    rw [List.sum_append, List.sum_singleton, ← Nat.add_assoc]
    exact (ih.cycle hfree hcourse hend).1

/-- As many cycles as there are messages empty the queue, if each of them may take a message. -/
theorem drained (hfree : c.input ∉ c.targets) (hq : s.broker.queues[c.input]? = some q)
    (hline : q.line = []) (h : Cycles c s limits counts t)
    (hlimits : ∀ limit ∈ limits, limit ≠ some 0)
    (hlength : q.items.length ≤ limits.length) : t.broker.items c.input = [] := by
  have hsum : min limits.length q.items.length ≤ counts.sum := by
    clear hlength
    induction h with
    | start => exact Nat.min_le_left _ _
    | aside _ move hqueues ih => exact ih hlimits
    | @cycle limits counts t u limit n count h hcourse hend ih =>
      have hbefore := ih fun l hl ↦ hlimits l (List.mem_append_left _ hl)
      have htook := h.took hfree (.none hq hline)
      obtain ⟨-, hcount⟩ := htook.cycle hfree hcourse hend
      have hpos : 0 < q.items.length - (0 + counts.sum) → 0 < count := by
        rw [hcount]
        exact Consumer.quota_withLimit_pos
          (hlimits limit (List.mem_append_right _ List.mem_cons_self))
      rw [List.sum_append, List.sum_singleton, List.length_append, List.length_singleton]
      omega
  have htook := h.took hfree (.none hq hline)
  obtain ⟨turn, hleft⟩ := htook.left
  rw [Broker.items_eq hleft]
  exact List.drop_eq_nil_iff.mpr (by omega)

/-- Cycles that empty the queue take all its messages, and the channels end up as if these had been
handled at once. -/
theorem at_once (hsteady : c.endpoint.handler.Steady) (hfree : c.input ∉ c.targets)
    (hq : s.broker.queues[c.input]? = some q) (hline : q.line = [])
    (h : Cycles c s limits counts t) (hempty : t.broker.items c.input = []) :
    counts.sum = q.items.length ∧
      Broker.Alike s.broker c.targets (c.processAll q.items s.broker) t.broker := by
  have htook := h.took hfree (.none hq hline)
  rw [Nat.zero_add] at htook
  have hsum := htook.eq_length hempty
  have halike := htook.handles.alike hsteady
  rw [hsum, List.take_length] at halike
  exact ⟨hsum, halike⟩

theorem alike_of_empty (hsteady : c.endpoint.handler.Steady) (hfree : c.input ∉ c.targets)
    (hq : s.broker.queues[c.input]? = some q) (hline : q.line = [])
    (h : Cycles c s limits counts t) (hempty : t.broker.items c.input = [])
    (h' : Cycles c s limits' counts' u) (hempty' : u.broker.items c.input = []) :
    counts.sum = counts'.sum ∧ counts.sum = q.items.length ∧
      Broker.Alike s.broker c.targets t.broker u.broker := by
  obtain ⟨hsum, halike⟩ := h.at_once hsteady hfree hq hline hempty
  obtain ⟨hsum', halike'⟩ := h'.at_once hsteady hfree hq hline hempty'
  exact ⟨hsum.trans hsum'.symm, hsum, halike.symm.trans halike'⟩

end Cycles

/-! ## Polling again and again -/

/-- Every task is over, and no receive call waits. -/
structure AtRest (s : System) : Prop where
  ended : ∀ k ∈ s.tasks, k.isOver = true
  lines : ∀ q ∈ s.broker.queues, q.line = []

/-- Runs one poll cycle after the other, with these limits, and gives the number of messages that
each of them took. -/
def pollEach (budget : Nat) (c : Consumer) : List (Option Nat) → System → List Nat × System
  | [], s => ([], s)
  | limit :: limits, s =>
    let (count, s) := s.poll budget (c.withLimit limit)
    let (counts, s) := pollEach budget c limits s
    (count :: counts, s)

theorem Polls.atRest {task : TaskId} {cycle : Cycle} (h : Polls c task q b cycle t)
    (hover : cycle.isOver = true) (halone : t.Alone task c.input) : t.AtRest := by
  constructor
  · intro k hk
    obtain ⟨i, hi⟩ := List.getElem?_of_mem hk
    by_cases hne : i = task
    · rw [hne, h.found] at hi
      cases hi
      exact hover
    · exact halone.ended i k hne hi
  · intro q' hq'
    obtain ⟨i, hi⟩ := List.getElem?_of_mem hq'
    by_cases hne : i = c.input
    · obtain ⟨_, _, _⟩ | ⟨_, hleft⟩ := h.stands
      · cases hover
      · rw [hne, hleft] at hi
        cases hi
        rfl
    · exact halone.lines i q' hne hi

/-- Where nothing else runs, a poll cycle comes to its end, and then nothing runs any more. -/
theorem poll_ends (hfree : c.input ∉ c.targets) (hrest : s.AtRest)
    (hq : s.broker.queues[c.input]? = some q) {budget : Nat}
    (hbudget : q.items.length + 2 < budget) :
    (∃ n, Course s.nextTask (c.input :: c.targets) (s.startPoll c) n (s.poll budget c).2) ∧
      (s.poll budget c).2.tasks[s.nextTask]? = some (.poll c (.complete (s.poll budget c).1)) ∧
      (s.poll budget c).2.AtRest := by
  obtain ⟨cycle, hstart⟩ := startPoll_polls hfree hq (hrest.lines q (List.mem_of_getElem? hq))
  have hleft := c.stepsLeft_le q.items.length cycle
  have hquota := c.quota_le q.items.length
  obtain ⟨⟨n, hn⟩, halone₁, hstep⟩ := hstart.settle hfree
    (startPoll_alone c hrest.ended hrest.lines)
    (show c.stepsLeft q.items.length cycle + 1 < budget by omega)
  obtain ⟨cycle₁, h₁, hn₁⟩ := hn.polls hfree hstart
  obtain ⟨m, cycle₂, hm, h₂, hover, halone₂⟩ :=
    h₁.waitFor_alone hfree halone₁ hstep
      (show c.stepsLeft q.items.length cycle₁ + 1 < budget by omega)
      (show c.stepsLeft q.items.length cycle₁ < budget by omega)
  refine ⟨⟨n + m, hn.trans hm⟩, ?_, h₂.atRest hover halone₂⟩
  have hcount : (s.poll budget c).1 = cycle₂.count := h₂.polled_eq
  rw [hcount]
  cases cycle₂ with
  | going count => cases hover
  | complete count => exact h₂.found

/-- Where nothing else runs, polling again and again is a run with several cycles. -/
theorem pollEach_cycles (hfree : c.input ∉ c.targets) (hrest : s.AtRest)
    (hq : s.broker.queues[c.input]? = some q) {budget : Nat}
    (hbudget : q.items.length + 2 < budget) (limits : List (Option Nat)) :
    Cycles c s limits (s.pollEach budget c limits).1 (s.pollEach budget c limits).2 := by
  induction limits generalizing s q with
  | nil => exact .start
  | cons limit limits ih =>
    obtain ⟨⟨n, hcourse⟩, hend, hrest'⟩ :=
      poll_ends (c := c.withLimit limit) hfree hrest hq hbudget
    have hcycle : Cycles c s [limit] [(s.poll budget (c.withLimit limit)).1]
        (s.poll budget (c.withLimit limit)).2 := Cycles.start.cycle hcourse hend
    have htook := hcycle.took hfree (.none hq (hrest.lines q (List.mem_of_getElem? hq)))
    obtain ⟨turn, hq'⟩ := htook.left
    have hlength : (q.items.drop (0 + [(s.poll budget (c.withLimit limit)).1].sum)).length ≤
        q.items.length := by
      rw [List.length_drop]
      exact Nat.sub_le _ _
    exact hcycle.trans (ih hrest' hq' (Nat.lt_of_le_of_lt (Nat.add_le_add_right hlength 2) hbudget))

/-- Two runs of cycles that empty a queue take the same number of messages, all that there were, and
leave the same messages in the channels, up to the stamps of the new ones, wherever the queue is cut
into cycles.  In particular it does not matter with which limits a consumer polls again and
again. -/
theorem cycles_alike_of_drained (hsteady : c.endpoint.handler.Steady)
    (hfree : c.input ∉ c.targets) (hq : s.broker.queues[c.input]? = some q)
    (hline : q.line = []) :
    (∀ limits counts t limits' counts' t',
      Cycles c s limits counts t → t.broker.items c.input = [] →
      Cycles c s limits' counts' t' → t'.broker.items c.input = [] →
      counts.sum = counts'.sum ∧ counts.sum = q.items.length ∧
        Broker.Alike s.broker c.targets t.broker t'.broker) ∧
    (s.AtRest → ∀ budget, q.items.length + 2 < budget → ∀ limits limits',
      (s.pollEach budget c limits).2.broker.items c.input = [] →
      (s.pollEach budget c limits').2.broker.items c.input = [] →
      (s.pollEach budget c limits).1.sum = (s.pollEach budget c limits').1.sum ∧
        (s.pollEach budget c limits).1.sum = q.items.length ∧
        Broker.Alike s.broker c.targets (s.pollEach budget c limits).2.broker
          (s.pollEach budget c limits').2.broker) := by
  constructor
  · intro limits counts t limits' counts' t' h hempty h' hempty'
    exact h.alike_of_empty hsteady hfree hq hline hempty h' hempty'
  · intro hrest budget hbudget limits limits' hempty hempty'
    have hcycles := pollEach_cycles hfree hrest hq hbudget
    exact (hcycles limits).alike_of_empty hsteady hfree hq hline hempty (hcycles limits') hempty'

/-- Three messages are polled in a cycle of two and one of one, or in one cycle.  The second message
fails because its payload is null, and the third one because there was room for the first reply
only. -/
theorem cycles_alike_of_drained_of_failures :
    let binder : Binder :=
      ⟨"ship", [⟨0, .value, none, none, false, false⟩], [.payload], some 0, none, none⟩
    let c : Consumer :=
      { input := 0
        endpoint :=
          { label := "ship"
            binder := binder
            handler := fun _ stamp ↦
              .ok (some (.message ⟨stamp.id, stamp.time, .string "shipped", Dictionary.empty⟩))
            output := some (.queue 1) }
        settings := {}
        errors := some (.queue 2) }
    let message := fun (n : Nat) (payload : Value) ↦
      (⟨Uuid.issued n, Timestamp.epoch, payload, Dictionary.empty⟩ : Message)
    let items := [message 0 (.string "order-1"), message 1 .null, message 2 (.string "order-3")]
    let q : Queue := { name := "orders", capacity := 8, items := items }
    let s : System := ⟨{ issued := 3, queues := [q, { name := "replies", capacity := 1 },
      { name := "failures", capacity := 8 }] }, []⟩
    let t := s.pollEach 6 c [some 2, some 1, some 1]
    let t' := s.pollEach 6 c [none, none, none]
    (t.1 = [2, 1, 0] ∧ t'.1 = [3, 0, 0] ∧ (t.2.broker.items 1).length = 1 ∧
      (t.2.broker.items 2).length = 2) ∧
      Broker.Alike s.broker c.targets t.2.broker t'.2.broker := by
  intro binder c message items q s t t'
  have hsteady : c.endpoint.handler.Steady := fun _ _ _ ↦ rfl
  have hfree : c.input ∉ c.targets := by decide
  have hq : s.broker.queues[c.input]? = some q := rfl
  have hrest : s.AtRest := by
    refine ⟨List.forall_mem_nil _, List.forall_mem_cons.mpr ⟨rfl, List.forall_mem_cons.mpr
      ⟨rfl, List.forall_mem_cons.mpr ⟨rfl, List.forall_mem_nil _⟩⟩⟩⟩
  have hdrained : ∀ limits : List (Option Nat), (∀ limit ∈ limits, limit ≠ some 0) →
      3 ≤ limits.length → (s.pollEach 6 c limits).2.broker.items c.input = [] :=
    fun limits hlimits hlength ↦
      (pollEach_cycles hfree hrest hq (by decide) limits).drained hfree hq rfl hlimits hlength
  obtain ⟨-, -, halike⟩ := (cycles_alike_of_drained hsteady hfree hq rfl).2 hrest 6 (by decide)
    [some 2, some 1, some 1] [none, none, none]
    (hdrained _ (by decide) (by decide)) (hdrained _ (by decide) (by decide))
  refine ⟨?_, halike⟩
  simp only [t, t', s, q, items, message, c, binder]
  decide +kernel

end System

end Messaging
