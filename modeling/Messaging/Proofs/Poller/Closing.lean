import Messaging.Proofs.Consumer.Poll
import Messaging.Proofs.Poller.Stopping
import Messaging.Proofs.Poller.Taking
import Messaging.Proofs.System.Wakeup

/-!
# Pollers on a closed queue

A poller that was told to stop and whose queue is closed comes to its end, if it is the only task
and does not feed its own queue.  It takes what the queue still holds, at the present instant; then
its receive call ends without a message and its cycle is over.  It finds that it was told to stop
when its next cycle is due, for which it waits once at most.

How far it is from its end is measured by the messages that are left, with a step for the end of the
cycle and one for the end of the poller.
-/

namespace Messaging

/-! ## What happens to the queue of a consumer -/

/-- A turn that ends takes the oldest message from the queue, if it holds one, and does not open or
close it. -/
theorem Broker.exists_queue_of_serve {b b' : Broker} {id : QueueId} {task : TaskId}
    {got : Option Message} {q : Queue} (hq : b.queues[id]? = some q)
    (hs : b.serve id task = some (got, b')) :
    ∃ q', b'.queues[id]? = some q' ∧ q'.closed = q.closed ∧ q.items = got.toList ++ q'.items := by
  obtain ⟨q₁, w, q₂, hq₁, hserve, -, rfl⟩ := serve_eq_some_iff.mp hs
  obtain rfl := Option.some.inj (hq₁.symm.trans hq)
  refine ⟨q₂, getElem?_setQueue_self _ hq₁, ?_⟩
  obtain ⟨-, ⟨m, rest, hitems, rfl, rfl⟩ | ⟨-, -, rfl, rfl⟩⟩ := Queue.serve_eq_some_iff.mp hserve
  · exact ⟨rfl, hitems⟩
  · exact ⟨rfl, rfl⟩

theorem Consumer.exists_queue_proceed {c : Consumer} {b : Broker} {q : Queue} (task : TaskId)
    (count : Nat) (hq : b.queues[c.input]? = some q) :
    ∃ q', (c.proceed task count b).2.queues[c.input]? = some q' ∧ q'.closed = q.closed ∧
      q'.items = q.items := by
  unfold proceed
  split
  · exact ⟨q, hq, rfl, rfl⟩
  · rw [Broker.enter_eq hq]
    exact ⟨_, Broker.getElem?_setQueue_self _ hq, rfl, rfl⟩

/-- A cycle that goes on leaves the messages of its queue alone, if the consumer does not feed
it. -/
theorem Consumer.exists_queue_resume {c : Consumer} {b : Broker} {q : Queue}
    (hfree : c.input ∉ c.targets) (task : TaskId) (count : Nat) (got : Option Message)
    (hq : b.queues[c.input]? = some q) :
    ∃ q', (c.resume task count got b).2.queues[c.input]? = some q' ∧ q'.closed = q.closed ∧
      q'.items = q.items := by
  cases got with
  | none => exact ⟨q, hq, rfl, rfl⟩
  | some m =>
    refine c.exists_queue_proceed task (count + 1) ?_
    rw [(c.process_sends m b).getElem?_of_notMem hfree, hq]

/-! ## Winding down -/

/-- How many steps a poller is from its end, if so many messages are left: one for each of them and
one for the end of the cycle, if it is in a cycle, and one for its own end. -/
def Phase.left (held : Nat) : Phase → Nat
  | .waiting _ => 1
  | .polling .. => held + 2
  | .finished | .broken => 0

theorem Phase.left_le (phase : Phase) (held : Nat) : phase.left held ≤ held + 2 := by
  cases phase with
  | waiting due => exact Nat.le_add_left 1 (held + 1)
  | polling due count => exact Nat.le_refl _
  | finished | broken => exact Nat.zero_le _

/-- A poller that wakes up and was told to stop is at its end. -/
theorem Poller.wake_of_stopping {p : Poller} (hstop : p.stopping = true) (task : TaskId) (due : Nat)
    (b : Broker) :
    ∃ phase : Phase, p.wake task due b = ({ p with phase := phase }, b) ∧
      ∀ held, phase.left held = 0 := by
  unfold wake
  split
  · exact ⟨.broken, rfl, fun _ ↦ rfl⟩
  · exact ⟨.finished, rfl, fun _ ↦ rfl⟩

namespace System

/-- The only task is a poller of this consumer, and nobody else waits for a queue. -/
structure Sole (c : Consumer) (s : System) : Prop where
  poller : ∃ p, s.tasks = [.poller p] ∧ p.consumer = c
  inLine : InLine c.input (fun _ ↦ False) s
  alone : s.Alone 0 c.input

/-- The only task is a poller of this consumer, which was told to stop and whose queue is closed. -/
structure WindingDown (c : Consumer) (s : System) : Prop extends Sole c s where
  stopping : ∀ p, s.tasks = [.poller p] → p.stopping = true
  closed : ∃ q, s.broker.queues[c.input]? = some q ∧ q.closed = true

/-- How many steps the poller is from its end. -/
def left (c : Consumer) (s : System) : Nat :=
  match s.tasks with
  | [.poller p] => p.phase.left (s.broker.items c.input).length
  | _ => 0

variable {c : Consumer} {s t : System} {p : Poller}

theorem left_eq (hs : s.tasks = [.poller p]) :
    s.left c = p.phase.left (s.broker.items c.input).length := by
  rw [left, hs]

theorem left_le (c : Consumer) (s : System) : s.left c ≤ (s.broker.items c.input).length + 2 := by
  unfold left
  split
  · exact Phase.left_le _ _
  · exact Nat.zero_le _

/-- A step of the only task changes who waits at its own queue only. -/
theorem Alone.poller_step (h : s.Alone 0 p.consumer.input) {k' : Task}
    (ht : t.tasks = [k']) (hadv : Task.Advance 0 s.broker (.poller p) k' t.broker) :
    t.Alone 0 p.consumer.input := by
  constructor
  · intro i k hi hk
    rw [ht] at hk
    cases i with
    | zero => exact (hi rfl).elim
    | succ i => cases hk
  · intro i q hi hq
    have hlines : (t.broker.queues[i]?).map Queue.line = (s.broker.queues[i]?).map Queue.line := by
      obtain ⟨p', -, -, hrests | ⟨m, b₁, hserve, hrests⟩⟩ := Poller.advance_cases hadv
      · rw [hrests.getElem?_of_ne (Ne.symm hi)]
      · rw [hrests.getElem?_of_ne (Ne.symm hi), (p.consumer.process_sends m _).map_line_eq,
          Broker.getElem?_serve_of_ne hserve (Ne.symm hi)]
    rw [hq, Option.map_some] at hlines
    obtain ⟨q₁, hq₁, hline⟩ := Option.map_eq_some_iff.mp hlines.symm
    rw [← hline, h.lines i q₁ hi hq₁]

namespace Sole

theorem step (h : Sole c s) {task : TaskId} (hstep : s.step? task = some t) : Sole c t := by
  obtain ⟨p, hs, rfl⟩ := h.poller
  obtain ⟨-, k', ht, hadv⟩ := advance_of_singleton hs hstep
  obtain ⟨p', rfl, hc, -⟩ := Poller.advance_cases hadv
  exact ⟨⟨p', ht, hc⟩, h.inLine.move (.step task hstep), h.alone.poller_step ht hadv⟩

theorem atInstant (h : Sole c s) (instant : Nat) : Sole c (s.atInstant instant) :=
  ⟨h.poller, ⟨h.inLine.line, h.inLine.lined⟩, ⟨h.alone.ended, h.alone.lines⟩⟩

theorem onward (h : Sole c s) (run : s.Onward t) : Sole c t := by
  unfold Onward at run
  induction run with
  | refl => exact h
  | tail _ goes ih =>
    cases goes with
    | step hstep => exact ih.step hstep
    | wait => exact ih.atInstant _

/-- A poller that is told to stop and whose queue is closed winds down. -/
theorem windingDown (h : Sole c s) :
    WindingDown c ((s.stop 0).withBroker ((s.stop 0).broker.close c.input)) := by
  obtain ⟨p, hs, hc⟩ := h.poller
  obtain ⟨q, hq, -⟩ := h.inLine.line
  have hstop : s.stop 0 = ⟨s.broker, [.poller { p with stopping := true }]⟩ := by
    rw [stop, hs]
    rfl
  have hinLine := (h.inLine.move (.stop s 0)).move (.close _ c.input)
  rw [hstop] at hinLine ⊢
  have hclosed : (s.broker.close c.input).queues[c.input]? = some q.close := by
    rw [Broker.close, hq]
    exact Broker.getElem?_setQueue_self _ hq
  refine ⟨⟨⟨_, rfl, hc⟩, hinLine, ?_, ?_⟩, ?_, ⟨q.close, hclosed, rfl⟩⟩
  · intro i k hi hk
    cases i with
    | zero => exact (hi rfl).elim
    | succ i => cases hk
  · intro i q' hi hq'
    replace hq' := (Broker.getElem?_close_of_ne s.broker (Ne.symm hi)).symm.trans hq'
    exact h.alone.lines i q' hi hq'
  · intro p' hp'
    cases hp'
    rfl

end Sole

namespace WindingDown

/-- Every step brings the poller nearer to its end. -/
theorem step (hfree : c.input ∉ c.targets) (h : WindingDown c s) {task : TaskId}
    (hstep : s.step? task = some t) : WindingDown c t ∧ t.left c < s.left c := by
  have hsole := h.toSole.step hstep
  obtain ⟨p, hs, rfl⟩ := h.poller
  have hstop := h.stopping p hs
  obtain ⟨q, hq, hclosed⟩ := h.closed
  obtain ⟨-, k', ht, hadv⟩ := advance_of_singleton hs hstep
  have hstopping : ∀ {p' : Poller}, t.tasks = [.poller p'] → p'.stopping = true →
      ∀ p'', t.tasks = [.poller p''] → p''.stopping = true := by
    intro p' hp' hstop' p'' hp''
    cases hp'.symm.trans hp''
    exact hstop'
  generalize hb : t.broker = b' at hadv
  cases hadv with
  | @woken _ due hp hdue =>
    obtain ⟨phase, hwake, hzero⟩ := Poller.wake_of_stopping hstop 0 due s.broker
    rw [hwake] at ht hb
    refine ⟨⟨hsole, hstopping ht hstop, ⟨q, by rw [hb]; exact hq, hclosed⟩⟩, ?_⟩
    rw [left_eq ht, left_eq hs, hzero, hp]
    exact Nat.one_pos
  | @resumed _ due count got b₁ hp hserve =>
    obtain ⟨q₁, hq₁, hclosed₁, hitems⟩ := Broker.exists_queue_of_serve hq hserve
    obtain ⟨q₂, hq₂, hclosed₂, hitems₂⟩ :=
      p.consumer.exists_queue_resume hfree 0 count got hq₁
    have hq' : t.broker.queues[p.consumer.input]? = some q₂ := by rw [hb]; exact hq₂
    have hstop' := (p.during_stopping due (p.consumer.resume 0 count got b₁).1
      (p.consumer.resume 0 count got b₁).2.clock).trans hstop
    refine ⟨⟨hsole, hstopping ht hstop', ⟨q₂, hq', hclosed₂.trans (hclosed₁.trans hclosed)⟩⟩, ?_⟩
    rw [left_eq ht, left_eq hs, hp, Broker.items_eq hq, Broker.items_eq hq', hitems, hitems₂]
    cases got with
    | none => exact Nat.lt_of_lt_of_le (show 1 < 2 by decide) (Nat.le_add_left 2 _)
    | some m => exact Nat.lt_of_le_of_lt (Phase.left_le _ _) (Nat.lt_succ_self _)

/-- While the poller is in no cycle, nobody waits in any line. -/
theorem line_eq_nil (h : WindingDown c s) (hs : s.tasks = [.poller p])
    (hawaits : (Task.poller p).awaits? = none) {i : QueueId} {q : Queue}
    (hq : s.broker.queues[i]? = some q) : q.line = [] := by
  by_cases hi : i = c.input
  · subst hi
    refine List.map_eq_nil_iff.mp ((h.inLine.line_eq hq).trans ?_)
    refine List.eq_nil_iff_forall_not_mem.mpr fun task hmem ↦ ?_
    have hwaits := (h.inLine.lined.mem_iff.mp hmem).1
    rw [awaits, hs] at hwaits
    cases task with
    | zero => cases hawaits.symm.trans hwaits
    | succ task => cases hwaits
  · exact h.alone.lines i q hi hq

/-- When no task can take a step, the poller is at its end, or it waits for its next cycle and
nothing else is due. -/
theorem waits_or_over (h : WindingDown c s) (hsettled : s.Settled) :
    s.isOver 0 = true ∨ ∃ p due, s.tasks = [.poller p] ∧ p.stopping = true ∧
      p.phase = .waiting due ∧ s.nextDue? = some due := by
  obtain ⟨p, hs, rfl⟩ := h.poller
  have hstop := h.stopping p hs
  obtain ⟨q, hq, hclosed⟩ := h.closed
  have hp : s.tasks[0]? = some (.poller p) := by rw [hs]; rfl
  have hawaits : s.awaits 0 = (Task.poller p).awaits? := awaits_eq hp
  cases hphase : p.phase with
  | finished => exact .inl (by rw [isOver_eq_of_poller hp, Poller.isOver, hphase]; rfl)
  | broken => exact .inl (by rw [isOver_eq_of_poller hp, Poller.isOver, hphase]; rfl)
  | polling due count =>
    -- The receive call of the cycle could end, since the queue is closed.
    have hmem : 0 ∈ s.broker.pending p.consumer.input :=
      h.inLine.lined.mem_iff.mpr ⟨by simp [hawaits, Task.awaits?, hphase], fun hnot ↦ hnot⟩
    have hline : q.line ≠ [] := by
      rintro hnil
      have heq := h.inLine.line_eq hq
      rw [hnil] at heq
      rw [← heq] at hmem
      cases hmem
    cases (hsettled.quiet h.inLine hq hline).2.symm.trans hclosed
  | waiting due =>
    refine .inr ⟨p, due, hs, hstop, hphase, ?_⟩
    have hlt := hsettled.lt_due hp hphase
    refine List.min?_eq_some_iff.mpr
      ⟨List.mem_filter.mpr ⟨mem_dues_of_waiting hp hphase, decide_eq_true hlt⟩, fun d hd ↦ ?_⟩
    rcases List.mem_append.mp (List.mem_filter.mp hd).1 with hd | hd
    · -- Nobody waits in any line.
      obtain ⟨q', hmem, hdeadline⟩ := List.mem_filterMap.mp hd
      obtain ⟨i, hi⟩ := List.getElem?_of_mem hmem
      rw [Queue.deadline?, h.line_eq_nil hs (by simp [Task.awaits?, hphase]) hi] at hdeadline
      cases hdeadline
    · rw [hs, List.filterMap_cons_some (show (Task.poller p).due? = some due by
        simp [Task.due?, hphase])] at hd
      exact Nat.le_of_eq (List.mem_singleton.mp hd).symm

end WindingDown

theorem settleFrom_of_settled (h : s.Settled) (budget : Nat) (task : TaskId) :
    s.settleFrom budget task = s := by
  cases budget with
  | zero => rfl
  | succ budget =>
    rw [settleFrom, h task]
    simp only [settled_iff_ready?.mp h]

theorem waitFor_of_done {done : System → Bool} (h : done s = true) (budget : Nat)
    (limit : Option Nat) (rounds : Nat) : waitFor budget limit done rounds s = s := by
  cases rounds with
  | zero => rfl
  | succ rounds => rw [waitFor, if_pos h]

theorem settled_of_isOver (hs : s.tasks = [.poller p]) (hp : p.isOver = true) : s.Settled := by
  intro task
  rw [step?, hs]
  cases task with
  | zero => simp [Task.step_eq_none (show (Task.poller p).isOver = true from hp)]
  | succ task => rfl

/-- A poller that was told to stop is at its end as soon as its next cycle is due. -/
theorem isOver_settle_of_due {due budget : Nat} (hs : s.tasks = [.poller p])
    (hstop : p.stopping = true) (hp : p.phase = .waiting due) (hdue : due ≤ s.clock) :
    (s.settle (budget + 1)).isOver 0 = true := by
  obtain ⟨phase, hwake, hzero⟩ := Poller.wake_of_stopping hstop 0 due s.broker
  have hadv : Task.Advance 0 s.broker (.poller p) (.poller (p.wake 0 due s.broker).1)
      (p.wake 0 due s.broker).2 := .woken hp hdue
  rw [hwake] at hadv
  have hstep : s.step? 0 = some ⟨s.broker, [.poller { p with phase := phase }]⟩ :=
    step?_eq_some_iff.mpr ⟨.poller p, _, s.broker, by rw [hs]; rfl,
      Task.step_eq_some_iff.mpr hadv, by rw [hs]; rfl⟩
  have hover : ({ p with phase := phase } : Poller).isOver = true := by
    cases phase with
    | waiting due => cases hzero 0
    | polling due count => cases hzero 0
    | finished | broken => rfl
  have hsettled : System.Settled ⟨s.broker, [.poller { p with phase := phase }]⟩ :=
    settled_of_isOver rfl hover
  rw [settle, settleFrom, hstep]
  simp only [settleFrom_of_settled hsettled]
  exact hover

/-- With a little more budget than twice the distance, the poller comes to its end. -/
theorem WindingDown.isOver_wait (hfree : c.input ∉ c.targets) (h : WindingDown c s) {budget : Nat}
    (hbudget : 2 * s.left c + 1 < budget) :
    ((s.settle budget).wait budget fun s ↦ s.isOver 0).isOver 0 = true := by
  obtain ⟨ht, hsettled⟩ :=
    settle_settled (P := WindingDown c) (fun h hs ↦ h.step hfree hs) h hbudget
  generalize s.settle budget = t at ht hsettled
  obtain ⟨n, rfl⟩ : ∃ n, budget = n + 1 := ⟨budget - 1, by omega⟩
  rcases ht.waits_or_over hsettled with hover | ⟨p, due, hs, hstop, hp, hnext⟩
  · rw [wait, waitFor_of_done hover]
    exact hover
  · have hnot : t.isOver 0 = false := by
      rw [isOver_eq_of_poller (by rw [hs]; rfl), Poller.isOver, hp]
      rfl
    have hover : ((t.atInstant due).settle (n + 1)).isOver 0 = true :=
      isOver_settle_of_due (s := t.atInstant due) hs hstop hp (Nat.le_refl due)
    have hdone : waitFor (n + 1) none (fun s ↦ s.isOver 0) n ((t.atInstant due).settle (n + 1)) =
        (t.atInstant due).settle (n + 1) := waitFor_of_done hover ..
    rw [wait, waitFor, hnot, if_neg Bool.false_ne_true, nextInstant?, hnext]
    simp only [hdone]
    exact hover

end System

end Messaging
