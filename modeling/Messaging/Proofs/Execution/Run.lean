import Messaging.Proofs.Execution.Agreement
import Messaging.Proofs.System.Wakeup

/-!
# Runs of executions

An execution moves as a system does, with two differences.  A receive call takes its steps one by
one, and other tasks and the driver may move in between.  And a closing is two moves, in any order
with those of everybody else.

All tasks share one thread, and a call does not let go of it between looking for a message and
waiting for one.  So nothing at all would come in between; that a closing may come all the same does
no harm, since the call registers before it checks.  With sending it is different, for a call that
found no message and then finds the queue closed ends without looking again.  That nothing is sent
to its queue in between is what `Spares` says.

Whatever an execution does, its system does as well, or else the system stays as it is: a receive
call that ends is a turn that ends, and what comes before that is not seen.
-/

namespace Messaging

/-! ## Moves -/

namespace Execution

/-- One move of an execution. -/
inductive Move : Execution → Execution → Prop
  /-- A task takes a step. -/
  | step {x y : Execution} (first : Branch) (task : TaskId) (h : x.step? first task = some y)
      (spares : Spares x.receptions x.system.broker y.system.broker) : Move x y
  /-- Time passes. -/
  | wait {x : Execution} {instant : Nat} (settled : x.Settled) (later : x.clock < instant)
      (notPast : ∀ due ∈ x.dues, x.clock < due → instant ≤ due) : Move x (x.atInstant instant)
  /-- The driver creates a queue. -/
  | create (x : Execution) {name : String} {capacity : Nat} {q : Queue}
      (h : Queue.create name capacity = .ok q) : Move x (x.addQueue q)
  /-- The driver marks a queue as closed. -/
  | close (x : Execution) (id : QueueId) : Move x (x.close id)
  /-- A closing gives its signal. -/
  | signal (x : Execution) {id : QueueId} {r : Reception} (hr : x.receptions[id]? = some r)
      (given : 0 < r.signals) : Move x (x.signal id)
  /-- The driver builds a message. -/
  | issue (x : Execution) : Move x (x.withBroker x.system.broker.issue)
  /-- The driver sends a message to a channel. -/
  | send (x : Execution) (channel : Channel) (m : Message)
      (spares : Spares x.receptions x.system.broker (channel.send m x.system.broker).2) :
      Move x (x.withBroker (channel.send m x.system.broker).2)
  /-- The driver has an endpoint handle a message. -/
  | handle (x : Execution) (e : Endpoint) (m : Message)
      (spares : Spares x.receptions x.system.broker (e.handle m x.system.broker).2) :
      Move x (x.withBroker (e.handle m x.system.broker).2)
  /-- The driver calls receive. -/
  | receive (x : Execution) (id : QueueId) (timeout : Nat) : Move x (x.startReceive id timeout)
  /-- The driver starts a poll cycle. -/
  | poll (x : Execution) (c : Consumer) : Move x (x.startPoll c)
  /-- The driver starts a poller. -/
  | spawn (x : Execution) (c : Consumer) (stopping : Bool) : Move x (x.spawn c stopping)
  /-- The driver tells a task to stop. -/
  | stop (x : Execution) (task : TaskId) : Move x (x.stop task)

/-- One execution becomes another by any number of moves. -/
def Reaches : Execution → Execution → Prop := Relation.ReflTransGen Move

/-- The executions that occur in a run, which begins without queues and tasks. -/
def Reachable (x : Execution) : Prop := Reaches {} x

/-! ## Steps -/

/-- What the next step of a task comes to. -/
inductive Step (x : Execution) (first : Branch) (task : TaskId) : Execution → Prop
  /-- It wakes up by itself. -/
  | woken {k k' : Task} {b' : Broker} (hk : x.system.tasks[task]? = some k)
      (hnone : k.awaits? = none) (hwake : k.wake? task x.system.broker = some (k', b')) :
      Step x first task ⟨⟨b', x.system.tasks.set task k'⟩,
        followed task k' x.system.broker b' x.receptions⟩
  /-- Its receive call goes on. -/
  | went {k : Task} {id : QueueId} {h h' : Holder} (hk : x.system.tasks[task]? = some k)
      (hid : k.awaits? = some id) (hholder : x.holder? id = some h) (htask : h.waiter.task = task)
      (hready : h.isReady x.clock = true)
      (hnext : h.next first (x.system.broker.items id) (x.system.broker.isClosed id) x.clock =
        .goes h') :
      Step x first task (x.setHolder id h')
  /-- Its receive call ends. -/
  | ended {k : Task} {id : QueueId} {h : Holder} {got : Option Message} {rest : List Message}
      (hk : x.system.tasks[task]? = some k) (hid : k.awaits? = some id)
      (hholder : x.holder? id = some h) (htask : h.waiter.task = task)
      (hready : h.isReady x.clock = true)
      (hnext : h.next first (x.system.broker.items id) (x.system.broker.isClosed id) x.clock =
        .ends got rest) :
      Step x first task (x.finish task k id h.waiter got rest)

variable {x y : Execution} {first : Branch} {task : TaskId}

theorem step?_eq_some_iff : x.step? first task = some y ↔ x.Step first task y := by
  constructor
  · intro hstep
    unfold step? at hstep
    cases hk : x.system.tasks[task]? with
    | none => simp [hk] at hstep
    | some k =>
      cases hid : k.awaits? with
      | none =>
        simp only [hk, hid] at hstep
        obtain ⟨⟨k', b'⟩, hwake, rfl⟩ := Option.map_eq_some_iff.mp hstep
        exact .woken hk hid hwake
      | some id =>
        cases hholder : x.holder? id with
        | none => simp [hk, hid, hholder] at hstep
        | some h =>
          simp only [hk, hid, hholder] at hstep
          split at hstep
          · rename_i hable
            split at hstep
            · rename_i h' hnext
              cases hstep
              exact .went hk hid hholder hable.1 hable.2 hnext
            · rename_i got rest hnext
              cases hstep
              exact .ended hk hid hholder hable.1 hable.2 hnext
          · cases hstep
  · intro hstep
    cases hstep with
    | woken hk hnone hwake => simp [step?, hk, hnone, hwake]
    | went hk hid hholder htask hready hnext =>
      simp [step?, hk, hid, hholder, htask, hready, hnext]
    | ended hk hid hholder htask hready hnext =>
      simp [step?, hk, hid, hholder, htask, hready, hnext]

/-- A call that is ready can always go on. -/
theorem exists_step? {k : Task} {id : QueueId} {h : Holder}
    (hk : x.system.tasks[h.waiter.task]? = some k) (hid : k.awaits? = some id)
    (hholder : x.holder? id = some h) (hready : h.isReady x.clock = true) (first : Branch) :
    ∃ y, x.step? first h.waiter.task = some y := by
  cases hnext : h.next first (x.system.broker.items id) (x.system.broker.isClosed id) x.clock with
  | goes h' => exact ⟨_, step?_eq_some_iff.mpr (.went hk hid hholder rfl hready hnext)⟩
  | ends got rest => exact ⟨_, step?_eq_some_iff.mpr (.ended hk hid hholder rfl hready hnext)⟩

theorem holder?_eq_some_iff {id : QueueId} {h : Holder} :
    x.holder? id = some h ↔ ∃ r, x.receptions[id]? = some r ∧ r.holder = some h :=
  Option.bind_eq_some_iff

/-- When a call ends, the broker goes on as when the turn ends. -/
theorem Agrees.serve (hag : Agrees x.receptions x.system.broker) {id : QueueId} {h : Holder}
    (hholder : x.holder? id = some h) {got : Option Message} {rest : List Message}
    (hnext : h.next first (x.system.broker.items id) (x.system.broker.isClosed id) x.clock =
      .ends got rest) :
    x.system.broker.serve id h.waiter.task =
      some (got, x.system.broker.finish id h.waiter got rest) := by
  obtain ⟨r, hr, hh⟩ := holder?_eq_some_iff.mp hholder
  obtain ⟨q, hq, hfits⟩ := hag.exists_queue hr
  rw [Broker.items_eq hq, Broker.isClosed_eq hq] at hnext
  have hserve := (hfits.sound h hh).serve_of_ends (hfits.head?_eq hh) hnext
  refine Broker.serve_eq_some_iff.mpr ⟨q, _, _, hq, hserve, rfl, ?_⟩
  rw [Broker.finish, hq]

/-- A step of a task is a step of the task in the system, or else its receive call goes on, which is
not seen there. -/
theorem Step.goes_or (hag : Agrees x.receptions x.system.broker) (h : x.Step first task y) :
    (∃ id h h', x.holder? id = some h ∧ h.isReady x.clock = true ∧
      h.next first (x.system.broker.items id) (x.system.broker.isClosed id) x.clock = .goes h' ∧
      y = x.setHolder id h') ∨
    x.system.step? task = some y.system := by
  cases h with
  | woken hk hnone hwake =>
    refine .inr (System.step?_eq_some_iff.mpr ⟨_, _, _, hk, ?_, rfl⟩)
    rw [Task.step_of_awaits_none hnone, hwake]
  | went hk hid hholder htask hready hnext => exact .inl ⟨_, _, _, hholder, hready, hnext, rfl⟩
  | ended hk hid hholder htask hready hnext =>
    subst htask
    refine .inr (System.step?_eq_some_iff.mpr ⟨_, _, _, hk, ?_, rfl⟩)
    exact (Task.step_eq_some_iff_serve hid).mpr ⟨_, _, hag.serve hholder hnext, rfl⟩

/-- After a step the receptions still agree with the queues. -/
theorem Step.agrees (hag : Agrees x.receptions x.system.broker) (h : x.Step first task y)
    (hspares : Spares x.receptions x.system.broker y.system.broker) :
    Agrees y.receptions y.system.broker := by
  cases h with
  | woken hk hnone hwake => exact hag.followed hspares (Task.wake?_follows hwake)
  | went hk hid hholder htask hready hnext =>
    obtain ⟨r, hr, hh⟩ := holder?_eq_some_iff.mp hholder
    exact hag.goes hr hh hnext
  | @ended k id h got rest hk hid hholder htask hready hnext =>
    refine (hag.finish id h.waiter got rest).followed (fun i r h' hr hh hmidway ↦ ?_)
      (Task.resume_follows hid task got _)
    by_cases hi : id = i
    · -- The call that has just taken the lock has yet to look for a message.
      subst hi
      obtain ⟨r₀, -, rfl⟩ := Option.map_eq_some_iff.mp
        ((List.getElem?_modify_eq Reception.release id x.receptions).symm.trans hr)
      obtain ⟨w, -, rfl⟩ := Option.map_eq_some_iff.mp hh
      cases hmidway
    · rw [List.getElem?_modify_ne _ _ hi] at hr
      rw [Broker.items_finish_of_ne _ hi]
      exact hspares i r h' hr hh hmidway

/-! ## What a move means to the system -/

/-- Nothing is woken where no queue has accepted a message. -/
theorem awakened_self {b b' : Broker} (h : ∀ id, b'.items id = b.items id) (rs : List Reception) :
    awakened b b' rs = rs := by
  refine List.ext_getElem? fun id ↦ ?_
  rw [awakened, List.getElem?_mapIdx]
  simp [h]

/-- The call whose turn can end is ready, unless the signal for it is still to come. -/
theorem Agrees.exists_ready (hag : Agrees x.receptions x.system.broker)
    (hgiven : ∀ r ∈ x.receptions, r.signals = 0) {id : QueueId} {got : Option Message}
    {b : Broker} (hserve : x.system.broker.serve id task = some (got, b)) :
    ∃ h, x.holder? id = some h ∧ h.waiter.task = task ∧ h.isReady x.clock = true := by
  obtain ⟨q, w, q', hq, hturn, rfl, -⟩ := Broker.serve_eq_some_iff.mp hserve
  obtain ⟨hhead, hends⟩ := Queue.serve_eq_some_iff.mp hturn
  obtain ⟨r, hr, hfits⟩ := hag.exists_reception hq
  obtain ⟨h, hh, rfl⟩ := hfits.exists_holder hhead
  refine ⟨h, holder?_eq_some_iff.mpr ⟨r, hr, hh⟩, rfl, ?_⟩
  by_contra hasleep
  obtain ⟨hitems, hlate, hsignal⟩ :=
    (hfits.sound h hh).idle (Bool.eq_false_iff.mpr hasleep)
  rcases hends with ⟨m, rest, hcons, -⟩ | ⟨-, hclosed | hle, -⟩
  · cases hitems.symm.trans hcons
  · exact Nat.ne_of_gt (hsignal hclosed) (hgiven r (List.mem_of_getElem? hr))
  · exact Nat.not_lt.mpr hle hlate

/-- When no task of the execution can take a step, no task of the system can. -/
theorem Agrees.settled (hag : Agrees x.receptions x.system.broker) (h : x.Settled) :
    x.system.Settled := by
  intro task
  by_contra hnot
  obtain ⟨s, hs⟩ := Option.ne_none_iff_exists'.mp hnot
  obtain ⟨k, k', b, hk, hstep, rfl⟩ := System.step?_eq_some_iff.mp hs
  cases hid : k.awaits? with
  | none =>
    have hwake := (Task.step_of_awaits_none hid).symm.trans hstep
    cases (h.1 .message task).symm.trans (step?_eq_some_iff.mpr (.woken hk hid hwake))
  | some id =>
    obtain ⟨got, b', hserve, -⟩ := (Task.step_eq_some_iff_serve hid).mp hstep
    obtain ⟨holder, hholder, rfl, hready⟩ := hag.exists_ready h.2 hserve
    obtain ⟨y, hy⟩ := exists_step? hk hid hholder hready .message
    cases (h.1 .message _).symm.trans hy

/-- What holds in every run: the system is in one of its own runs, and each queue has its
reception. -/
structure Valid (x : Execution) : Prop where
  reachable : x.system.Reachable
  agrees : Agrees x.receptions x.system.broker

namespace Valid

/-- When no task can take a step, every call that holds a lock waits. -/
theorem deadline?_isSome (hx : x.Valid) (h : x.Settled) {id : QueueId} {r : Reception}
    {holder : Holder} (hr : x.receptions[id]? = some r) (hh : r.holder = some holder) :
    holder.deadline?.isSome = true := by
  obtain ⟨q, hq, hfits⟩ := hx.agrees.exists_queue hr
  have hmem : holder.waiter ∈ q.line := List.mem_of_head? (hfits.head?_eq hh)
  obtain ⟨early, hline⟩ := hx.reachable.exists_inLine hq
  have hpending : holder.waiter.task ∈ x.system.broker.pending id :=
    hline.line_eq hq ▸ List.mem_map_of_mem hmem
  obtain ⟨k, hk, hid⟩ := Option.bind_eq_some_iff.mp (hline.lined.mem_iff.mp hpending).1
  cases hd : holder.deadline? with
  | some deadline => rfl
  | none =>
    -- The call is awake, so its task could take a step.
    have hready : holder.isReady x.clock = true := by
      rw [Holder.isReady, ((hfits.sound holder hh).turn_eq hd).2]
      rfl
    obtain ⟨y, hy⟩ := exists_step? hk hid (holder?_eq_some_iff.mpr ⟨r, hr, hh⟩) hready .message
    cases (h.1 .message _).symm.trans hy

/-- When no task can take a step, whatever is due in the system is due in the execution. -/
theorem dues_subset (hx : x.Valid) (h : x.Settled) : ∀ due ∈ x.system.dues, due ∈ x.dues := by
  intro due hdue
  rcases List.mem_append.mp hdue with hqueue | htask
  · obtain ⟨q, hmem, hdeadline⟩ := List.mem_filterMap.mp hqueue
    obtain ⟨id, hq⟩ := List.getElem?_of_mem hmem
    obtain ⟨r, hr, hfits⟩ := hx.agrees.exists_reception hq
    obtain ⟨w, hhead, rfl⟩ := Option.map_eq_some_iff.mp hdeadline
    obtain ⟨holder, hh, rfl⟩ := hfits.exists_holder hhead
    obtain ⟨deadline, hd⟩ := Option.isSome_iff_exists.mp (hx.deadline?_isSome h hr hh)
    refine List.mem_append_left _ (List.mem_filterMap.mpr ⟨r, List.mem_of_getElem? hr, ?_⟩)
    rw [hh, Option.bind_some, hd, (hfits.sound holder hh).deadline_eq deadline hd]
  · exact List.mem_append_right _ htask

end Valid

/-- A move of an execution is a move of its system, or is not seen there. -/
theorem Move.system_eq_or (hx : x.Valid) (move : Move x y) :
    y.system = x.system ∨ x.system.Move y.system := by
  cases move with
  | step first task h _ =>
    rcases (step?_eq_some_iff.mp h).goes_or hx.agrees with ⟨id, _, h', -, -, -, rfl⟩ | hstep
    · exact .inl rfl
    · exact .inr (.step task hstep)
  | wait settled later notPast =>
    refine .inr (.wait (hx.agrees.settled settled) later fun due hdue hlt ↦ ?_)
    exact notPast due (hx.dues_subset settled due hdue) hlt
  | create h => exact .inr (.create x.system h)
  | close id => exact .inr (.close x.system id)
  | signal => exact .inl rfl
  | issue => exact .inr (.issue x.system)
  | send channel m => exact .inr (.send x.system channel m)
  | handle e m => exact .inr (.handle x.system e m)
  | receive id timeout => exact .inr (.receive x.system id timeout)
  | poll c => exact .inr (.poll x.system c)
  | spawn c stopping => exact .inr (.spawn x.system c stopping)
  | stop task => exact .inr (.stop x.system task)

/-- After a move each queue still has its reception. -/
theorem Move.agrees (hx : x.Valid) (move : Move x y) : Agrees y.receptions y.system.broker := by
  have hag := hx.agrees
  cases move with
  | step first task h spares => exact (step?_eq_some_iff.mp h).agrees hag spares
  | wait settled later notPast =>
    exact hag.later (fun id r h hr hh ↦ hx.deadline?_isSome settled hr hh) _
  | create h =>
    obtain ⟨-, -, rfl⟩ := Queue.create_eq_ok_iff.mp h
    exact hag.addQueue rfl
  | close id => exact hag.close id
  | signal hr given => exact hag.signal hr given
  | issue =>
    have hself : awakened x.system.broker x.system.broker.issue x.receptions = x.receptions :=
      awakened_self (fun _ ↦ rfl) x.receptions
    show Agrees (awakened _ _ _) _
    rw [hself]
    exact hag
  | send channel m spares => exact hag.awakened spares (channel.send_sends m _).accepts
  | handle e m spares => exact hag.awakened spares (e.handle_sends m _).accepts
  | receive id timeout => exact hag.enter id x.system.nextTask timeout
  | poll c =>
    have hspares := spares_of_items_eq (c.items_start x.system.nextTask x.system.broker)
    exact hag.followed (hspares x.receptions) (c.start_follows x.system.nextTask _)
  | spawn c stopping => exact hag
  | stop task =>
    have hbroker : (x.system.stop task).broker = x.system.broker := by
      unfold System.stop
      split <;> rfl
    show Agrees x.receptions (x.system.stop task).broker
    rwa [hbroker]

theorem Valid.move (hx : x.Valid) (move : Move x y) : y.Valid where
  reachable := by
    rcases move.system_eq_or hx with heq | hmove
    · exact heq ▸ hx.reachable
    · exact hx.reachable.tail hmove
  agrees := move.agrees hx

/-- A run of an execution is a run of its system. -/
theorem Reaches.system (hx : x.Valid) (run : x.Reaches y) :
    x.system.Reaches y.system ∧ y.Valid := by
  unfold Reaches at run
  induction run with
  | refl => exact ⟨.refl, hx⟩
  | tail _ move ih =>
    obtain ⟨hrun, hvalid⟩ := ih
    refine ⟨?_, hvalid.move move⟩
    rcases move.system_eq_or hvalid with heq | hmove
    · exact heq ▸ hrun
    · exact hrun.tail hmove

theorem Reachable.valid (h : x.Reachable) : x.Valid := by
  have hstart : Valid ({} : Execution) := ⟨Relation.ReflTransGen.refl, fun _ ↦ .none⟩
  exact (Reaches.system hstart h).2

end Execution

end Messaging
