import Messaging.Proofs.Consumer.Cycle

/-!
# Poll cycles to their end

Where nothing else runs, a system that polls runs its cycle to the end: it takes the steps that the
cycle can take, waits until the cycle can go on, and so on.  With every step fewer steps are left,
so a budget of a few steps more than there are messages suffices.
-/

namespace Messaging

/-! ## Tasks that are over -/

theorem Task.step_eq_none {k : Task} (h : k.isOver = true) (task : TaskId) (b : Broker) :
    k.step task b = none := by
  cases k with
  | receive id result =>
    cases result with
    | none => cases h
    | some result => rfl
  | poll c cycle =>
    cases cycle with
    | going count => cases h
    | complete count => rfl
  | poller p =>
    cases hp : p.phase with
    | waiting due => simp [isOver, Poller.isOver, hp] at h
    | polling due count => simp [isOver, Poller.isOver, hp] at h
    | finished => simp [step, awaits?, wake?, hp]
    | broken => simp [step, awaits?, wake?, hp]

theorem Task.due?_eq_none {k : Task} (h : k.isOver = true) : k.due? = none := by
  cases k with
  | receive id result => rfl
  | poll c cycle => rfl
  | poller p =>
    cases hp : p.phase with
    | waiting due => simp [isOver, Poller.isOver, hp] at h
    | polling due count => simp [due?, hp]
    | finished => simp [due?, hp]
    | broken => simp [due?, hp]

namespace Consumer

theorem getElem?_proceed_of_ne (c : Consumer) (task : TaskId) (count : Nat) (b : Broker)
    {i : QueueId} (hi : c.input ≠ i) :
    (c.proceed task count b).2.queues[i]? = b.queues[i]? := by
  unfold proceed
  split
  · rfl
  · exact b.getElem?_enter_of_ne _ _ hi

/-- A cycle that goes on changes who waits at its input queue only. -/
theorem map_line_resume (c : Consumer) (task : TaskId) (count : Nat) (got : Option Message)
    (b : Broker) {i : QueueId} (hi : c.input ≠ i) :
    ((c.resume task count got b).2.queues[i]?).map Queue.line = (b.queues[i]?).map Queue.line := by
  cases got with
  | none => rfl
  | some m =>
    show ((c.proceed task (count + 1) (c.process m b)).2.queues[i]?).map Queue.line = _
    rw [c.getElem?_proceed_of_ne task _ _ hi, (c.process_sends m b).map_line_eq]

end Consumer

namespace System

/-! ## One task alone -/

/-- All tasks but one are over, and receive calls wait at one queue at most. -/
structure Alone (task : TaskId) (id : QueueId) (s : System) : Prop where
  ended : ∀ (i : TaskId) (k : Task), i ≠ task → s.tasks[i]? = some k → k.isOver = true
  lines : ∀ (i : QueueId) (q : Queue), i ≠ id → s.broker.queues[i]? = some q → q.line = []

namespace Alone

variable {task : TaskId} {id : QueueId} {s : System}

theorem step?_eq_none (h : s.Alone task id) {i : TaskId} (hi : i ≠ task) : s.step? i = none := by
  unfold step?
  cases hk : s.tasks[i]? with
  | none => rfl
  | some k => simp [Task.step_eq_none (h.ended i k hi hk)]

theorem settled (h : s.Alone task id) (hs : s.step? task = none) : s.Settled := by
  intro i
  by_cases hi : i = task
  · rw [hi, hs]
  · exact h.step?_eq_none hi

theorem eq_of_ready? (h : s.Alone task id) {i : TaskId} (hi : s.ready? = some i) : i = task := by
  have hsome := List.find?_some hi
  by_cases hne : i = task
  · exact hne
  · rw [h.step?_eq_none hne] at hsome
    cases hsome

end Alone

namespace Polls

variable {c : Consumer} {task : TaskId} {q : Queue} {b : Broker} {cycle : Cycle} {t u : System}

theorem map_line_eq (h : Polls c task q b cycle t) (hstep : t.step? task = some u) {i : QueueId}
    (hi : c.input ≠ i) :
    (u.broker.queues[i]?).map Queue.line = (t.broker.queues[i]?).map Queue.line := by
  cases cycle with
  | complete count => simp [step?, h.found, Task.step_poll_complete] at hstep
  | going count =>
    obtain ⟨got, b₁, hserve, rfl⟩ := (step?_poll_iff h.found).mp hstep
    rw [c.map_line_resume task count got _ hi, Broker.getElem?_serve_of_ne hserve hi]

theorem alone (h : Polls c task q b cycle t) (hstep : t.step? task = some u)
    (halone : t.Alone task c.input) : u.Alone task c.input := by
  constructor
  · intro i k hi hk
    obtain ⟨_, k', b', -, -, rfl⟩ := step?_eq_some_iff.mp hstep
    refine halone.ended i k hi ?_
    rwa [List.getElem?_set_ne (Ne.symm hi)] at hk
  · intro i q' hi hq'
    have hline := h.map_line_eq hstep (Ne.symm hi)
    rw [hq', Option.map_some] at hline
    obtain ⟨q₁, hq₁, hl⟩ := Option.map_eq_some_iff.mp hline.symm
    rw [← hl, halone.lines i q₁ hi hq₁]

/-! ## Settling -/

/-- A cycle that runs alone takes all the steps that it can take at the present instant. -/
theorem settleFrom (hfree : c.input ∉ c.targets) {budget : Nat} (h : Polls c task q b cycle t)
    (halone : t.Alone task c.input) (hbudget : c.stepsLeft q.items.length cycle < budget) :
    (∃ n, Course task (c.input :: c.targets) t n (t.settleFrom budget task)) ∧
      (t.settleFrom budget task).Alone task c.input ∧
      (t.settleFrom budget task).step? task = none := by
  induction budget generalizing t cycle with
  | zero => exact (Nat.not_lt_zero _ hbudget).elim
  | succ budget ih =>
    rw [System.settleFrom]
    cases hstep : t.step? task with
    | some u =>
      obtain ⟨cycle', hu, hlt⟩ := h.own hfree hstep
      obtain ⟨⟨n, hn⟩, hrest⟩ := ih hu (h.alone hstep halone) (by omega)
      exact ⟨⟨_, (Course.start.own hstep).trans hn⟩, hrest⟩
    | none =>
      have hready : t.ready? = none := by
        cases hr : t.ready? with
        | none => rfl
        | some i =>
          have hsome := List.find?_some hr
          rw [halone.eq_of_ready? hr, hstep] at hsome
          cases hsome
      simp only [hready]
      exact ⟨⟨0, .start⟩, halone, hstep⟩

/-- The same holds if the tasks of the present instant run in their order. -/
theorem settle (hfree : c.input ∉ c.targets) {budget : Nat} (h : Polls c task q b cycle t)
    (halone : t.Alone task c.input) (hbudget : c.stepsLeft q.items.length cycle + 1 < budget) :
    (∃ n, Course task (c.input :: c.targets) t n (t.settle budget)) ∧
      (t.settle budget).Alone task c.input ∧ (t.settle budget).step? task = none := by
  unfold System.settle
  by_cases htask : task = 0
  · rw [← htask]
    exact h.settleFrom hfree halone (by omega)
  · obtain ⟨budget, rfl⟩ := Nat.exists_eq_succ_of_ne_zero (Nat.ne_zero_of_lt hbudget)
    rw [System.settleFrom, halone.step?_eq_none (Ne.symm htask)]
    cases hr : t.ready? with
    | some i =>
      obtain rfl := halone.eq_of_ready? hr
      exact h.settleFrom hfree halone (by omega)
    | none =>
      refine ⟨⟨0, .start⟩, halone, ?_⟩
      have hlt := (List.getElem?_eq_some_iff.mp h.found).1
      simpa using List.find?_eq_none.mp hr task (List.mem_range.mpr hlt)

/-! ## Waiting -/

theorem isOver_eq (h : Polls c task q b cycle t) : t.isOver task = cycle.isOver := by
  unfold System.isOver
  rw [h.found]
  rfl

theorem polled_eq (h : Polls c task q b cycle t) : t.polled task = cycle.count := by
  unfold System.polled
  rw [h.found]

/-- Where nothing else runs, only the receive call of the cycle is waited for. -/
theorem eq_of_mem_dues (h : Polls c task q b cycle t) (halone : t.Alone task c.input) {due : Nat}
    (hdue : due ∈ t.dues) :
    ∃ q', t.broker.queues[c.input]? = some q' ∧ q'.deadline? = some due := by
  rcases List.mem_append.mp hdue with hdue | hdue
  · obtain ⟨q', hmem, hq'⟩ := List.mem_filterMap.mp hdue
    obtain ⟨i, hi⟩ := List.getElem?_of_mem hmem
    by_cases hne : i = c.input
    · exact ⟨q', hne ▸ hi, hq'⟩
    · rw [Queue.deadline?, halone.lines i q' hne hi] at hq'
      cases hq'
  · obtain ⟨k, hmem, hk⟩ := List.mem_filterMap.mp hdue
    obtain ⟨i, hi⟩ := List.getElem?_of_mem hmem
    by_cases hne : i = task
    · rw [hne, h.found] at hi
      obtain rfl := Option.some.inj hi
      cases hk
    · rw [Task.due?_eq_none (halone.ended i k hne hi)] at hk
      cases hk

theorem nextDue?_eq (h : Polls c task q b cycle t) (halone : t.Alone task c.input) {due : Nat}
    (hdue : due ∈ t.dues) (hlt : t.clock < due) : t.nextDue? = some due := by
  obtain ⟨q₁, hq₁, hd₁⟩ := h.eq_of_mem_dues halone hdue
  refine List.min?_eq_some_iff.mpr ⟨List.mem_filter.mpr ⟨hdue, decide_eq_true hlt⟩, ?_⟩
  intro due' hmem
  obtain ⟨q₂, hq₂, hd₂⟩ := h.eq_of_mem_dues halone (List.mem_filter.mp hmem).1
  obtain rfl := Option.some.inj (hq₁.symm.trans hq₂)
  exact Nat.le_of_eq (Option.some.inj (hd₁.symm.trans hd₂))

/-- A cycle that runs alone comes to its end: whenever it has to wait, it can go on afterwards.  It
still is alone then. -/
theorem waitFor_alone (hfree : c.input ∉ c.targets) {budget rounds : Nat}
    (h : Polls c task q b cycle t) (halone : t.Alone task c.input)
    (hstep : t.step? task = none) (hbudget : c.stepsLeft q.items.length cycle + 1 < budget)
    (hrounds : c.stepsLeft q.items.length cycle < rounds) :
    ∃ n cycle', Course task (c.input :: c.targets) t n
        (System.waitFor budget none (fun s ↦ s.isOver task) rounds t) ∧
      Polls c task q b cycle' (System.waitFor budget none (fun s ↦ s.isOver task) rounds t) ∧
      cycle'.isOver = true ∧
      (System.waitFor budget none (fun s ↦ s.isOver task) rounds t).Alone task c.input := by
  induction rounds generalizing t cycle with
  | zero => exact (Nat.not_lt_zero _ hrounds).elim
  | succ rounds ih =>
    rw [System.waitFor, h.isOver_eq]
    cases hover : cycle.isOver with
    | true => exact ⟨0, cycle, .start, h, hover, halone⟩
    | false =>
      obtain ⟨u, hu⟩ | ⟨due, hdue, hlt, hgoes⟩ := h.goes_on hover
      · rw [hstep] at hu
        cases hu
      have hnext : t.nextInstant? none = some due := h.nextDue?_eq halone hdue hlt
      simp only [hnext, Bool.false_eq_true, if_false]
      have hmove : Move t (t.atInstant due) := by
        refine .wait (halone.settled hstep) hlt fun due' hdue' hlt' ↦ ?_
        have hsame := (h.nextDue?_eq halone hdue' hlt').symm.trans hnext
        exact Nat.le_of_eq (Option.some.inj hsame).symm
      have hlater := h.aside hmove rfl fun _ _ ↦ rfl
      obtain ⟨⟨n, hn⟩, halone', hstep'⟩ :=
        hlater.settle hfree ⟨halone.ended, halone.lines⟩ hbudget
      obtain ⟨cycle', h', hleft⟩ := hn.polls hfree hlater
      have hpos : n ≠ 0 := by
        rintro rfl
        obtain ⟨htask, hqueues⟩ := hn.unchanged
        obtain ⟨v, hv⟩ := hgoes _ htask (hqueues _ List.mem_cons_self) hn.clock_le
        rw [hstep'] at hv
        cases hv
      obtain ⟨m, cycle'', hm, h'', hend⟩ := ih h' halone' hstep' (by omega) (by omega)
      have hwait : Course task (c.input :: c.targets) t 0 (t.atInstant due) :=
        .aside .start hmove rfl fun _ _ ↦ rfl
      exact ⟨_, cycle'', (hwait.trans hn).trans hm, h'', hend⟩

theorem waitFor (hfree : c.input ∉ c.targets) {budget rounds : Nat}
    (h : Polls c task q b cycle t) (halone : t.Alone task c.input)
    (hstep : t.step? task = none) (hbudget : c.stepsLeft q.items.length cycle + 1 < budget)
    (hrounds : c.stepsLeft q.items.length cycle < rounds) :
    ∃ n cycle', Course task (c.input :: c.targets) t n
        (System.waitFor budget none (fun s ↦ s.isOver task) rounds t) ∧
      Polls c task q b cycle' (System.waitFor budget none (fun s ↦ s.isOver task) rounds t) ∧
      cycle'.isOver = true := by
  obtain ⟨n, cycle', hn, h', hover, -⟩ := h.waitFor_alone hfree halone hstep hbudget hrounds
  exact ⟨n, cycle', hn, h', hover⟩

theorem left_in_queue (h : Polls c task q b cycle t) :
    ∃ q', t.broker.queues[c.input]? = some q' ∧ q'.items = q.items.drop cycle.count := by
  obtain ⟨_, _, hq⟩ | ⟨_, hq⟩ := h.stands
  · exact ⟨_, hq, rfl⟩
  · exact ⟨_, hq, rfl⟩

theorem count_eq (h : Polls c task q b cycle t) (hover : cycle.isOver = true) :
    cycle.count = c.quota q.items.length := by
  obtain ⟨_, _, _⟩ | ⟨hcount, _⟩ := h.stands
  · cases hover
  · exact hcount

end Polls

/-- A poll cycle that is started where everything is over runs alone. -/
theorem startPoll_alone {s : System} (c : Consumer) (hover : ∀ k ∈ s.tasks, k.isOver = true)
    (hlines : ∀ q ∈ s.broker.queues, q.line = []) : (s.startPoll c).Alone s.nextTask c.input := by
  constructor
  · intro i k hi hk
    have hk : (s.tasks ++ [.poll c (c.start s.nextTask s.broker).1])[i]? = some k := hk
    rcases Nat.lt_trichotomy i s.tasks.length with hlt | rfl | hlt
    · rw [List.getElem?_append_left hlt] at hk
      exact hover k (List.mem_of_getElem? hk)
    · exact (hi rfl).elim
    · rw [List.getElem?_eq_none (by simpa using Nat.succ_le_of_lt hlt)] at hk
      cases hk
  · intro i q hi hq
    have hsame : (c.start s.nextTask s.broker).2.queues[i]? = s.broker.queues[i]? :=
      c.getElem?_proceed_of_ne s.nextTask 0 (s.broker.record (.began s.nextTask)) (Ne.symm hi)
    exact hlines q (List.mem_of_getElem? (hsame.symm.trans hq))

/-- A poll cycle that is started where no receive call waits at its input handles the messages of
its queue one after the other, as many as it may take and there are; it takes them from the front
and leaves the rest, whatever comes of handling them.  It does so in every run that leaves its
channels alone; there it takes at most one step for each message and one more, and it can always go
on, at once or after a time that it waits.  Where nothing else runs, it comes to its end. -/
theorem poll_handles_in_order {c : Consumer} {s : System} {q : Queue}
    (hfree : c.input ∉ c.targets) (hq : s.broker.queues[c.input]? = some q)
    (hline : q.line = []) :
    (∀ n t, Course s.nextTask (c.input :: c.targets) (s.startPoll c) n t →
      n ≤ c.quota q.items.length + 1 ∧
      ∃ cycle q', t.tasks[s.nextTask]? = some (.poll c cycle) ∧
        cycle.count ≤ c.quota q.items.length ∧
        c.Handles (q.items.take cycle.count) s.broker t.broker ∧
        t.broker.queues[c.input]? = some q' ∧ q'.items = q.items.drop cycle.count ∧
        (cycle.isOver = true → cycle.count = c.quota q.items.length) ∧
        (cycle.isOver = false → (∃ u, t.step? s.nextTask = some u) ∨
          ∃ due ∈ t.dues, t.clock < due ∧
            ∀ u, Course s.nextTask (c.input :: c.targets) t 0 u → due ≤ u.clock →
              ∃ v, u.step? s.nextTask = some v)) ∧
    ((∀ k ∈ s.tasks, k.isOver = true) → (∀ q' ∈ s.broker.queues, q'.line = []) →
      ∀ budget, c.quota q.items.length + 2 < budget →
        (s.poll budget c).1 = c.quota q.items.length ∧
        (s.poll budget c).2.isOver s.nextTask = true ∧
        (s.poll budget c).2.broker.items c.input = q.items.drop (c.quota q.items.length) ∧
        c.Handles (q.items.take (c.quota q.items.length)) s.broker (s.poll budget c).2.broker ∧
        ∃ n, Course s.nextTask (c.input :: c.targets) (s.startPoll c) n (s.poll budget c).2) := by
  obtain ⟨cycle, hstart⟩ := startPoll_polls hfree hq hline
  have hleft := c.stepsLeft_le q.items.length cycle
  constructor
  · intro n t ht
    obtain ⟨cycle', h, hn⟩ := ht.polls hfree hstart
    obtain ⟨q', hq', hitems⟩ := h.left_in_queue
    refine ⟨by omega, cycle', q', h.found, h.stands.count_le, h.handles, hq', hitems,
      h.count_eq, ?_⟩
    intro hover
    obtain hstep | ⟨due, hdue, hlt, hgoes⟩ := h.goes_on hover
    · exact .inl hstep
    · refine .inr ⟨due, hdue, hlt, fun u hu hle ↦ ?_⟩
      obtain ⟨htask, hqueues⟩ := hu.unchanged
      exact hgoes u htask (hqueues _ List.mem_cons_self) hle
  · intro hover hlines budget hbudget
    have halone := startPoll_alone c hover hlines
    obtain ⟨⟨n, hn⟩, halone₁, hstep⟩ := hstart.settle hfree halone
      (show c.stepsLeft q.items.length cycle + 1 < budget by omega)
    obtain ⟨cycle₁, h₁, hn₁⟩ := hn.polls hfree hstart
    obtain ⟨m, cycle₂, hm, h₂, hover₂⟩ :=
      h₁.waitFor hfree halone₁ hstep
        (show c.stepsLeft q.items.length cycle₁ + 1 < budget by omega)
        (show c.stepsLeft q.items.length cycle₁ < budget by omega)
    have hcount := h₂.count_eq hover₂
    obtain ⟨q', hq', hitems⟩ := h₂.left_in_queue
    have hhandles := h₂.handles
    rw [hcount] at hitems hhandles
    exact ⟨h₂.polled_eq.trans hcount, h₂.isOver_eq.trans hover₂,
      (Broker.items_eq hq').trans hitems, hhandles, n + m, hn.trans hm⟩

/-- Two of three messages are taken under a limit of two.  Both fail, one of them because its
payload is null; there is room for the first error message only, and the third message stays. -/
theorem poll_handles_in_order_of_failures :
    let binder : Binder :=
      ⟨"ship", [⟨0, .value, none, none, false, false⟩], [.payload], some 0, none, none⟩
    let c : Consumer :=
      { input := 0
        endpoint :=
          { label := "ship", binder := binder, handler := fun _ _ ↦ .error ⟨["no stock"]⟩ }
        settings := { limit := some 2 }
        errors := some (.queue 1) }
    let message := fun (n : Nat) (payload : Value) ↦
      (⟨Uuid.issued n, Timestamp.epoch, payload, Dictionary.empty⟩ : Message)
    let items := [message 0 (.string "order-1"), message 1 .null, message 2 (.string "order-3")]
    let q : Queue := { name := "orders", capacity := 8, items := items }
    let s : System := ⟨{ issued := 3, queues := [q, { name := "failures", capacity := 1 }] }, []⟩
    (s.poll 5 c).1 = 2 ∧ (s.poll 5 c).2.broker.items 0 = [message 2 (.string "order-3")] ∧
      ((s.poll 5 c).2.broker.items 1).length = 1 ∧
      c.Handles (items.take 2) s.broker (s.poll 5 c).2.broker ∧
      ∃ n ≤ 3, Course s.nextTask (c.input :: c.targets) (s.startPoll c) n (s.poll 5 c).2 := by
  intro binder c message items q s
  have hfree : c.input ∉ c.targets := by decide
  have hq : s.broker.queues[c.input]? = some q := rfl
  have hlines : ∀ q' ∈ s.broker.queues, q'.line = [] := by
    intro q' h
    rcases List.mem_cons.mp h with rfl | h
    · rfl
    · rw [List.mem_singleton.mp h]
  obtain ⟨hruns, hpoll⟩ := poll_handles_in_order hfree hq rfl
  obtain ⟨hcount, -, hitems, hhandles, n, hcourse⟩ :=
    hpoll (fun _ h ↦ by cases h) hlines 5 (by decide)
  exact ⟨hcount, hitems, rfl, hhandles, n, (hruns n _ hcourse).1, hcourse⟩

end System

end Messaging
