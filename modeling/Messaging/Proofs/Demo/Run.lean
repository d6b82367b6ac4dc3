import Messaging.Proofs.Demo.Submission
import Messaging.Proofs.Settings.Leniency

/-!
# Runs of the demonstration

What a run of the demonstration prints depends on how many of the three orders its poller handles
before it is at its end, and on nothing else.  That number depends on the settings and on how time
passes, but whatever it is, the orders are handled in their order, and the queues behind the
endpoint hold what was made of them: the queue of orders has taken no more of them than each of
those queues can hold, and nothing is rejected.

A run is any way in which the system can go on: the poller is stopped and the queue closed at any
instants, and what is due at one instant happens in any order.  The function that runs the
demonstration follows one of these ways, and its budget is never used up.
-/

namespace Messaging.Demo

/-- A run that ends.  The poller is left to itself; it is told to stop, and then the queue of orders
is closed; and it comes to its end. -/
def Runs (s₀ s : System) : Prop :=
  ∃ s₁ s₂, s₀.Onward s₁ ∧ (s₁.stop 0).Onward s₂ ∧
    (s₂.withBroker (s₂.broker.close 0)).Onward s ∧ s.isOver 0 = true

/-- What a run from one system to another shows if `h` orders were handled. -/
structure Shows (c : Consumer) (s₀ s : System) (h : Nat) : Prop where
  /-- The first `h` orders were received. -/
  delivered : s.broker.delivered 0 = submitted.take h
  /-- They were handled, one after the other, and nothing else was. -/
  handled : c.Handles (submitted.take h) s₀.broker s.broker
  /-- There is a line for each reply to one of the first two orders. -/
  audit : lines s 1 =
    ((submitted.take (min h 2)).map enriched).map fun v ↦ "[audit] " ++ v.text
  /-- There is another one for each of them, in the same order. -/
  fulfillment : lines s 2 =
    ((submitted.take (min h 2)).map enriched).map fun v ↦ "[fulfillment] " ++ v.text
  /-- There is a line about an error message if and only if the third order was handled. -/
  errors : (lines s 3).length = if h = 3 then 1 else 0
  /-- No queue but that of the orders rejected anything. -/
  accepted : ∀ id outcome, (id, outcome) ∈ s.broker.answers → id ≠ 0 → outcome = .sent
  /-- The poller found that it was told to stop: it did not break. -/
  finished : ∃ p, s.tasks = [.poller p] ∧ p.phase = .finished

/-! ## The invariant -/

/-- So many orders were handled, and the others are still in the queue. -/
structure Progress (settings : PollerSettings) (capacity : Nat) (b₀ : Broker) (h : Nat)
    (b : Broker) : Prop where
  le : h ≤ min 3 capacity
  items : ∃ q, b.queues[0]? = some q ∧ q.items = (submitted.take capacity).drop h
  delivered : b.delivered 0 = submitted.take h
  handled : (consumer binder settings).Handles (submitted.take h) b₀ b
  filled : Filled capacity (submitted.take h) b

variable {settings : PollerSettings} {capacity : Nat}

/-- The orders do not go where the poller takes them from. -/
theorem input_notMem_targets (settings : PollerSettings) :
    (consumer binder settings).input ∉ (consumer binder settings).targets := by
  show (0 : QueueId) ∉ ([1, 2, 3] : List QueueId)
  decide

theorem progress_started (capacity : Nat) (settings : PollerSettings) :
    Progress settings capacity (started capacity settings).broker 0
      (started capacity settings).broker where
  le := Nat.zero_le _
  items := ⟨_, getElem?_started capacity settings, rfl⟩
  delivered := (started_sends capacity settings).delivered_eq 0
  handled := .pause (.refl _ _)
  filled := started_filled capacity settings

namespace Progress

variable {b₀ b b' b₁ : Broker} {h : Nat}

theorem rests (hP : Progress settings capacity b₀ h b) (hrests : b.Rests 0 b') :
    Progress settings capacity b₀ h b' where
  le := hP.le
  items := by
    obtain ⟨q, hq, hitems⟩ := hP.items
    obtain ⟨q', hq', hsame⟩ := hrests.exists_queue hq
    exact ⟨q', hq', hsame.trans hitems⟩
  delivered := (hrests.delivered_eq 0).trans hP.delivered
  handled := hP.handled.pass (hrests.passes (input_notMem_targets settings))
  filled := hP.filled.rests hrests

/-- The message that is received is the next order. -/
theorem takes {task : TaskId} {m : Message} (hP : Progress settings capacity b₀ h b)
    (hserve : b.serve 0 task = some (some m, b₁)) :
    Progress settings capacity b₀ (h + 1) ((consumer binder settings).process m b₁) := by
  obtain ⟨q, hq, hitems⟩ := hP.items
  obtain ⟨q₁, hq₁, -, hnext⟩ := Broker.exists_queue_of_serve hq hserve
  have hdrop : (submitted.take capacity).drop h = m :: q₁.items := hitems.symm.trans hnext
  have hget : (submitted.take capacity)[h]? = some m := by
    rw [← Nat.add_zero h, ← List.getElem?_drop, hdrop]
    rfl
  have hlt : h < capacity ∧ submitted[h]? = some m := by
    rw [List.getElem?_take] at hget
    split at hget
    · exact ⟨‹_›, hget⟩
    · cases hget
  have hthree : h < 3 := (List.getElem?_eq_some_iff.mp hlt.2).1
  have htake : submitted.take (h + 1) = submitted.take h ++ [m] := by
    rw [List.take_add_one, hlt.2]
    rfl
  have hsends := (consumer binder settings).process_sends m b₁
  have hpasses : b.Passes (consumer binder settings).targets b₁ :=
    .serve (input_notMem_targets settings) hserve
  refine ⟨?_, ⟨q₁, ?_, ?_⟩, ?_, ?_, ?_⟩
  · omega
  · exact (hsends.getElem?_of_notMem (input_notMem_targets settings)).trans hq₁
  · rw [← List.tail_drop, hdrop]
    rfl
  · rw [hsends.delivered_eq, Broker.delivered_serve hserve, hP.delivered, htake]
    rfl
  · rw [htake]
    exact (hP.handled.pass hpasses).next ((consumer binder settings).process_settles m b₁)
      (.refl _ _)
  · rw [htake]
    refine (hP.filled.serve hserve).process ?_ ?_ settings
    · exact Nat.lt_of_le_of_lt (List.length_take_le h submitted) hlt.1
    · exact isNull_of_mem_submitted m (List.mem_of_getElem? hlt.2)

end Progress

/-- The poller is the only task, and this is what it has come to. -/
def OnCourse (settings : PollerSettings) (capacity : Nat) (s : System) : Prop :=
  System.Attends (consumer binder settings)
    (Progress settings capacity (started capacity settings).broker) s

namespace OnCourse

variable {s t : System}

theorem onward (hpos : 0 < settings.interval) (h : OnCourse settings capacity s)
    (run : s.Onward t) : OnCourse settings capacity t :=
  System.Attends.onward hpos Progress.rests Progress.takes h run

theorem stop (h : OnCourse settings capacity s) : OnCourse settings capacity (s.stop 0) :=
  System.Attends.stop h 0

theorem close (h : OnCourse settings capacity s) :
    OnCourse settings capacity (s.withBroker (s.broker.close 0)) := by
  obtain ⟨p, n, hs, hc, hne, hP⟩ := h
  exact ⟨p, n, hs, hc, hne, hP.rests (.close .refl)⟩

/-- Hardly anything is left to do, wherever the poller is. -/
theorem left_le (h : OnCourse settings capacity s) : s.left (consumer binder settings) ≤ 5 := by
  obtain ⟨p, n, -, -, -, hP⟩ := h
  obtain ⟨q, hq, hitems⟩ := hP.items
  have hlen : (s.broker.items 0).length ≤ 3 := by
    rw [Broker.items_eq hq, hitems]
    refine Nat.le_trans (List.drop_sublist _ _).length_le ?_
    exact (List.take_sublist capacity submitted).length_le
  exact Nat.le_trans (System.left_le _ s) (Nat.add_le_add_right hlen 2)

end OnCourse

theorem onCourse_started (settings : PollerSettings) (capacity : Nat) :
    OnCourse settings capacity (started capacity settings) :=
  ⟨_, 0, rfl, rfl, Phase.noConfusion, progress_started capacity settings⟩

theorem Runs.onCourse (hpos : 0 < settings.interval) {s : System}
    (run : Runs (started capacity settings) s) : OnCourse settings capacity s := by
  obtain ⟨s₁, s₂, run₁, run₂, run₃, -⟩ := run
  have stopped := ((onCourse_started settings capacity).onward hpos run₁).stop
  have closed := (stopped.onward hpos run₂).close
  exact closed.onward hpos run₃

/-! ## What a run shows -/

theorem replies_submitted {h : Nat} (hle : h ≤ 3) :
    replies (submitted.take h) = (submitted.take (min h 2)).map enriched := by
  match h with
  | 0 | 1 | 2 | 3 => rfl

theorem length_complaints_submitted {h : Nat} (hle : h ≤ 3) :
    (complaints (submitted.take h)).length = if h = 3 then 1 else 0 := by
  match h with
  | 0 | 1 | 2 | 3 => rfl

theorem lines_of_holds {s : System} {id : QueueId} {payloads : List Value}
    (h : s.broker.Holds id capacity payloads) :
    lines s id = payloads.map fun v ↦ "[" ++ (queueNames[id]?).getD "" ++ "] " ++ v.text := by
  rw [lines, ← h.map_items, List.map_map]
  rfl

/-- Every run that ends shows what was made of some of the orders that the queue took. -/
theorem Runs.shows (hpos : 0 < settings.interval) {s : System}
    (run : Runs (started capacity settings) s) :
    ∃ h, h ≤ min 3 capacity ∧
      Shows (consumer binder settings) (started capacity settings) s h := by
  obtain ⟨p, h, hs, -, hne, hP⟩ := run.onCourse hpos
  obtain ⟨-, -, -, -, -, hover⟩ := run
  have hle : h ≤ 3 := Nat.le_trans hP.le (Nat.min_le_left _ _)
  refine ⟨h, hP.le, hP.delivered, hP.handled, ?_, ?_, ?_, hP.filled.accepted, p, hs, ?_⟩
  · rw [lines_of_holds hP.filled.audit, replies_submitted hle]
    rfl
  · rw [lines_of_holds hP.filled.fulfillment, replies_submitted hle]
    rfl
  · rw [lines_of_holds hP.filled.errors, List.length_map, length_complaints_submitted hle]
  · rw [System.isOver, hs] at hover
    have hend : p.phase = .finished ∨ p.phase = .broken := by
      simpa [Task.isOver, Poller.isOver] using hover
    exact hend.resolve_right hne

/-! ## The run of the demonstration -/

/-- The demonstration is a run that ends. -/
theorem finish_runs (hpos : 0 < settings.interval) :
    Runs (started capacity settings) (finish (started capacity settings)) := by
  let s₁ := (((started capacity settings).settle budget).advance budget (runTime - 1)).atInstant
    runTime
  let s₂ := (s₁.stop 0).withBroker ((s₁.stop 0).broker.close 0)
  have run₁ : (started capacity settings).Onward s₁ := by
    refine ((System.settle_onward budget _).trans (System.waitFor_onward budget _ _ _ _)).trans
      (System.Goes.wait ?_).onward
    have hclock : ((started capacity settings).settle budget).clock = 0 :=
      (System.clock_settleFrom budget 0 _).trans (started_sends capacity settings).clock_eq
    refine Nat.le_trans (System.clock_waitFor_le (Nat.le_add_right _ _)) ?_
    rw [hclock]
    decide
  have run₂ : s₂.Onward (finish (started capacity settings)) :=
    (System.settle_onward budget s₂).trans (System.waitFor_onward budget _ _ _ _)
  have hwinding : System.WindingDown (consumer binder settings) s₂ :=
    ((started_sole capacity settings).onward run₁).windingDown
  have hleft : s₂.left (consumer binder settings) ≤ 5 :=
    (((onCourse_started settings capacity).onward hpos run₁).stop.close).left_le
  refine ⟨s₁, s₁.stop 0, run₁, .refl _, run₂, ?_⟩
  refine hwinding.isOver_wait (input_notMem_targets settings) ?_
  exact Nat.lt_of_le_of_lt (show _ ≤ 2 * 5 + 1 by omega) (by decide)

/-- With settings that the strict readings give, the demonstration prints what is printed about the
end of its run. -/
theorem run_eq_printed {env : Environment} {poller : PollerSettings} {channel : ChannelSettings}
    (hpoller : PollerSettings.readStrictly env = .ok poller)
    (hchannel : ChannelSettings.readStrictly env = .ok channel)
    (hle : channel.capacity ≤ largestCapacity) :
    run env = .ok (printed poller channel (finish (started channel.capacity poller))) := by
  have hpos : 0 < channel.capacity := (ChannelSettings.capacity_of_readStrictly hchannel).1
  rw [run, hpoller, hchannel]
  simp only [mapM_create hpos hle, ofSignature_signature]
  rfl

/-- The demonstration breaks off in one case only: the settings are taken, but the capacity is too
large for a queue.  By then it has printed the settings. -/
theorem run_eq_abort_iff {env : Environment} {lines : List String} {message : String} :
    run env = .abort lines message ↔ ∃ poller channel,
      PollerSettings.readStrictly env = .ok poller ∧
        ChannelSettings.readStrictly env = .ok channel ∧ largestCapacity < channel.capacity ∧
          lines = heading poller channel ∧ message = excessMessage := by
  cases hpoller : PollerSettings.readStrictly env with
  | error e => simp [run, hpoller]
  | ok poller =>
    cases hchannel : ChannelSettings.readStrictly env with
    | error e => simp [run, hpoller, hchannel]
    | ok channel =>
      rcases Nat.lt_or_ge largestCapacity channel.capacity with hlarge | hle
      · simp [run, hpoller, hchannel, mapM_create_of_excess hlarge, hlarge, eq_comm]
      · simp [run_eq_printed hpoller hchannel hle, Nat.not_lt.mpr hle]

/-- Settings that cannot be used end the demonstration at once, and only their error is printed.
With any others there is a run that ends, and the demonstration prints what is printed about its
end.  And every run that ends, however time passes and whenever the poller is stopped, shows what
was made of the first `h` of the three orders, for some `h` that is not larger than the number of
orders that the queue could hold; it exits without an error. -/
theorem run_shows_what_was_handled (env : Environment) :
    (∀ e, PollerSettings.readStrictly env = .error e →
        run env = .ok ⟨1, ["Error: " ++ e.message]⟩) ∧
      (∀ poller e, PollerSettings.readStrictly env = .ok poller →
        ChannelSettings.readStrictly env = .error e →
          run env = .ok ⟨1, ["Error: " ++ e.message]⟩) ∧
      ∀ poller channel, PollerSettings.readStrictly env = .ok poller →
        ChannelSettings.readStrictly env = .ok channel → channel.capacity ≤ largestCapacity →
          let s₀ := started channel.capacity poller
          s₀.broker.items 0 = submitted.take channel.capacity ∧
            (∃ s, Runs s₀ s ∧ run env = .ok (printed poller channel s)) ∧
            ∀ s, Runs s₀ s → (printed poller channel s).code = 0 ∧
              ∃ h, h ≤ min 3 channel.capacity ∧ Shows (consumer binder poller) s₀ s h := by
  refine ⟨?_, ?_, ?_⟩
  · intro e he
    rw [run, he]
    rfl
  · intro poller e hpoller he
    rw [run, hpoller, he]
    rfl
  · intro poller channel hpoller hchannel hle s₀
    have hpos : 0 < poller.interval :=
      (PollerSettings.read_of_readStrictly hpoller ▸ PollerSettings.usable_read env).interval_pos
    refine ⟨Broker.items_eq (getElem?_started channel.capacity poller), ?_, ?_⟩
    · exact ⟨_, finish_runs hpos, run_eq_printed hpoller hchannel hle⟩
    · intro s hs
      exact ⟨rfl, hs.shows hpos⟩

/-- Queues for two messages, an interval of zero, and queues for no message. -/
theorem run_shows_what_was_handled_of_capacities :
    let setting (key value : String) : Environment := fun name ↦
      if name = key then some value else none
    (∃ s h, Runs (started 2 {}) s ∧ h ≤ 2 ∧ Shows (consumer binder {}) (started 2 {}) s h ∧
      run (setting Variable.capacity "2") = .ok (printed {} ⟨2⟩ s)) ∧
      run (setting Variable.interval "0") = .ok ⟨1,
        ["Error: Invalid configuration value for CONDUIT_POLL_INTERVAL_MS: " ++
          "must be greater than zero"]⟩ ∧
      run (setting Variable.capacity "0") = .ok ⟨1,
        ["Error: Invalid configuration value for CONDUIT_QUEUE_CAPACITY: " ++
          "must be greater than zero"]⟩ := by
  intro setting
  refine ⟨?_, ?_, ?_⟩
  · obtain ⟨-, ⟨s, hs, hrun⟩, hall⟩ :=
      (run_shows_what_was_handled (setting Variable.capacity "2")).2.2 {} ⟨2⟩ rfl rfl (by decide)
    obtain ⟨-, h, hle, hshows⟩ := hall s hs
    exact ⟨s, h, hs, hle, hshows, hrun⟩
  · exact (run_shows_what_was_handled (setting Variable.interval "0")).1
      (notPositive Variable.interval) rfl
  · exact (run_shows_what_was_handled (setting Variable.capacity "0")).2.1 {}
      (notPositive Variable.capacity) rfl rfl

end Messaging.Demo
