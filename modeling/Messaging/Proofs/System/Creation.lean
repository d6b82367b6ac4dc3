import Messaging.Proofs.System.Step

/-!
# Where queues come from

A task that goes on does two things to the queues at most: they accept messages, and then the task
calls receive on one of them.  `Broker.Follows` says so once, for all tasks.  In particular no task
creates a queue; only whoever drives the system does, and so every queue has come into a run at one
of its points, empty and with nobody in line.
-/

namespace Messaging

/-! ## How a task goes on -/

namespace Broker

/-- Nothing has happened to the queues but that they have accepted messages. -/
structure Accepts (b b' : Broker) : Prop where
  clock_eq : b'.clock = b.clock
  exists_getElem?_eq : ∀ id : QueueId, ∃ ms,
    b'.queues[id]? = (b.queues[id]?).map fun q : Queue ↦ { q with items := q.items ++ ms }

theorem Accepts.refl (b : Broker) : b.Accepts b where
  clock_eq := rfl
  exists_getElem?_eq := fun _ ↦ ⟨[], by simp⟩

theorem Accepts.trans {a b c : Broker} (h : a.Accepts b) (h' : b.Accepts c) : a.Accepts c where
  clock_eq := h'.clock_eq.trans h.clock_eq
  exists_getElem?_eq := by
    intro id
    obtain ⟨ms, hms⟩ := h.exists_getElem?_eq id
    obtain ⟨ms', hms'⟩ := h'.exists_getElem?_eq id
    refine ⟨ms ++ ms', ?_⟩
    rw [hms', hms, Option.map_map]
    simp only [Function.comp_def, List.append_assoc]

theorem Sends.accepts {ids : List QueueId} {b b' : Broker} (h : b.Sends ids b') : b.Accepts b' :=
  ⟨h.clock_eq, h.exists_getElem?_eq⟩

theorem accepts_record (b : Broker) (e : Event) : b.Accepts (b.record e) :=
  ⟨rfl, (Accepts.refl b).exists_getElem?_eq⟩

/-- A task has gone on from one broker to another: queues have accepted messages, or they have not,
and the task has made this receive call, or none. -/
inductive Follows (task : TaskId) (b : Broker) : Option (QueueId × Nat) → Broker → Prop
  | rests {b' : Broker} (h : b.Accepts b') : Follows task b none b'
  | calls {b' : Broker} (h : b.Accepts b') (id : QueueId) (timeout : Nat) :
      Follows task b (some (id, timeout)) (b'.enter id task timeout)

theorem Accepts.follows {task : TaskId} {a b c : Broker} {call : Option (QueueId × Nat)}
    (h : a.Accepts b) (h' : b.Follows task call c) : a.Follows task call c := by
  cases h' with
  | rests h' => exact .rests (h.trans h')
  | calls h' id timeout => exact .calls (h.trans h') id timeout

end Broker

namespace Consumer

theorem proceed_follows (c : Consumer) (task : TaskId) (count : Nat) (b : Broker) :
    b.Follows task (c.call? (c.proceed task count b).1) (c.proceed task count b).2 := by
  unfold proceed
  split
  · exact .rests (b.accepts_record _)
  · exact .calls (.refl b) c.input c.settings.receiveTimeout

theorem start_follows (c : Consumer) (task : TaskId) (b : Broker) :
    b.Follows task (c.call? (c.start task b).1) (c.start task b).2 :=
  (b.accepts_record _).follows (c.proceed_follows task 0 _)

theorem resume_follows (c : Consumer) (task : TaskId) (count : Nat) (got : Option Message)
    (b : Broker) :
    b.Follows task (c.call? (c.resume task count got b).1) (c.resume task count got b).2 := by
  cases got with
  | none => exact .rests (b.accepts_record _)
  | some m => exact (c.process_sends m b).accepts.follows (c.proceed_follows task (count + 1) _)

end Consumer

theorem Poller.call?_during (p : Poller) (due : Nat) (cycle : Cycle) (now : Nat) :
    (Task.poller (p.during due cycle now)).call? = p.consumer.call? cycle := by
  cases cycle <;> rfl

theorem Poller.wake_follows (p : Poller) (task : TaskId) (due : Nat) (b : Broker) :
    b.Follows task (Task.poller (p.wake task due b).1).call? (p.wake task due b).2 := by
  unfold wake
  split
  · exact .rests (.refl b)
  · split
    · exact .rests (.refl b)
    · rw [call?_during]
      exact p.consumer.start_follows task b

namespace Task

theorem resume_follows {k : Task} {id : QueueId} (hk : k.awaits? = some id) (task : TaskId)
    (got : Option Message) (b : Broker) :
    b.Follows task (k.resume task got b).1.call? (k.resume task got b).2 := by
  cases k with
  | receive queue result =>
    cases result with
    | none => exact .rests (.refl b)
    | some _ => cases hk
  | poll c cycle =>
    cases cycle with
    | going count => exact c.resume_follows task count got b
    | complete count => cases hk
  | poller p =>
    cases hp : p.phase with
    | polling due count =>
      rw [resume_of_polling hp, Poller.resume, Poller.call?_during]
      exact p.consumer.resume_follows task count got b
    | waiting | finished | broken => simp [awaits?, hp] at hk

theorem wake?_follows {task : TaskId} {k k' : Task} {b b' : Broker}
    (h : k.wake? task b = some (k', b')) : b.Follows task k'.call? b' := by
  cases k with
  | receive | poll => cases h
  | poller p =>
    cases hp : p.phase with
    | waiting due =>
      rw [wake?_of_waiting hp] at h
      split at h
      · cases h
        exact p.wake_follows task due b
      · cases h
    | polling | finished | broken => simp [wake?, hp] at h

end Task

/-! ## How many queues there are -/

/-- Lists that end at the same place are equally long. -/
theorem length_eq_of_getElem?_eq_none_iff {α β : Type} {l : List α} {l' : List β}
    (h : ∀ i : Nat, l[i]? = none ↔ l'[i]? = none) : l.length = l'.length := by
  have hle := (h l'.length).mpr (List.getElem?_eq_none (Nat.le_refl _))
  have hge := (h l.length).mp (List.getElem?_eq_none (Nat.le_refl _))
  exact Nat.le_antisymm (List.getElem?_eq_none_iff.mp hle) (List.getElem?_eq_none_iff.mp hge)

theorem Broker.Accepts.length_eq {b b' : Broker} (h : b.Accepts b') :
    b'.queues.length = b.queues.length := by
  refine length_eq_of_getElem?_eq_none_iff fun id ↦ ?_
  obtain ⟨ms, hms⟩ := h.exists_getElem?_eq id
  rw [hms, Option.map_eq_none_iff]

theorem Broker.length_enter (b : Broker) (id : QueueId) (task : TaskId) (timeout : Nat) :
    (b.enter id task timeout).queues.length = b.queues.length := by
  unfold enter
  split
  · exact List.length_set
  · rfl

theorem Broker.Follows.length_eq {task : TaskId} {b b' : Broker} {call : Option (QueueId × Nat)}
    (h : b.Follows task call b') : b'.queues.length = b.queues.length := by
  cases h with
  | rests h => exact h.length_eq
  | calls h id timeout => exact (Broker.length_enter _ _ _ _).trans h.length_eq

theorem Broker.length_serve {b b' : Broker} {id : QueueId} {task : TaskId} {got : Option Message}
    (h : b.serve id task = some (got, b')) : b'.queues.length = b.queues.length := by
  obtain ⟨q, w, q', -, -, -, rfl⟩ := serve_eq_some_iff.mp h
  exact List.length_set

theorem Task.length_step {task : TaskId} {k k' : Task} {b b' : Broker}
    (h : k.step task b = some (k', b')) : b'.queues.length = b.queues.length := by
  cases hk : k.awaits? with
  | some id =>
    obtain ⟨got, b₁, hs, he⟩ := (step_eq_some_iff_serve hk).mp h
    have hfollows := (resume_follows hk task got b₁).length_eq
    rw [he] at hfollows
    exact hfollows.trans (Broker.length_serve hs)
  | none => exact (wake?_follows ((step_of_awaits_none hk).symm.trans h)).length_eq

namespace System

variable {s t : System}

/-- A move creates a queue, or there are as many as before. -/
theorem Move.create_or_length_eq (h : Move s t) :
    (∃ name capacity q, Queue.create name capacity = .ok q ∧
      t = s.withBroker (s.broker.addQueue q)) ∨
    t.broker.queues.length = s.broker.queues.length := by
  cases h with
  | step task h =>
    obtain ⟨k, k', b, -, hs, rfl⟩ := step?_eq_some_iff.mp h
    exact .inr (Task.length_step hs)
  | wait => exact .inr rfl
  | create h => exact .inl ⟨_, _, _, h, rfl⟩
  | close id =>
    refine .inr ?_
    show (s.broker.close id).queues.length = _
    unfold Broker.close
    split
    · exact List.length_set
    · rfl
  | issue => exact .inr rfl
  | send channel m => exact .inr (channel.send_sends m s.broker).accepts.length_eq
  | handle e m => exact .inr (e.handle_sends m s.broker).accepts.length_eq
  | receive id timeout => exact .inr (s.broker.length_enter id s.nextTask timeout)
  | poll c => exact .inr (c.start_follows s.nextTask s.broker).length_eq
  | spawn => exact .inr rfl
  | stop task =>
    unfold System.stop
    split <;> exact .inr rfl

/-- Every queue was created at some point of the run. -/
theorem Reachable.exists_create (hs : s.Reachable) {id : QueueId}
    (hid : id < s.broker.queues.length) :
    ∃ s₀ name capacity q, Reachable s₀ ∧ Queue.create name capacity = .ok q ∧
      id = s₀.broker.queues.length ∧ (s₀.withBroker (s₀.broker.addQueue q)).Reaches s := by
  unfold Reachable Reaches at hs
  induction hs with
  | refl => exact (Nat.not_lt_zero id hid).elim
  | @tail s t run move ih =>
    by_cases hold : id < s.broker.queues.length
    · obtain ⟨s₀, name, capacity, q, hs₀, hq, hid, run'⟩ := ih hold
      exact ⟨s₀, name, capacity, q, hs₀, hq, hid, run'.tail move⟩
    · rcases move.create_or_length_eq with ⟨name, capacity, q, hq, rfl⟩ | hlength
      · have hlength : (s.broker.queues ++ [q]).length = s.broker.queues.length + 1 :=
          List.length_append
        have hid : id < s.broker.queues.length + 1 := hlength ▸ hid
        exact ⟨s, name, capacity, q, run, hq, Nat.eq_of_lt_succ_of_not_lt hid hold, .refl⟩
      · exact (hold (hlength ▸ hid)).elim

end System

end Messaging
