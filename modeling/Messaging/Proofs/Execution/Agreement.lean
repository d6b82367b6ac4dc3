import Messaging.Execution
import Messaging.Proofs.Reception.Course
import Messaging.Proofs.System.Creation

/-!
# Receptions and queues

The receptions of an execution agree with the queues of its broker, one by one.  Whatever an
operation of the broker does to a queue, there is something that it does to the reception, and the
two agree afterwards.  The one condition is that no queue accepts a message while a call on it is
registering or checking.
-/

namespace Messaging

/-! ## What the operations do to queues -/

namespace Broker

theorem isClosed_eq {b : Broker} {id : QueueId} {q : Queue} (h : b.queues[id]? = some q) :
    b.isClosed id = q.closed := by
  rw [isClosed, h]
  rfl

theorem items_finish_of_ne (b : Broker) {id i : QueueId} (h : id ≠ i) (w : Waiter)
    (got : Option Message) (rest : List Message) :
    (b.finish id w got rest).items i = b.items i := by
  unfold finish
  split
  · rw [items, queues_record, getElem?_setQueue_of_ne b _ h, items]
  · rfl

/-- A call that leaves all messages behind changes none of the queues' messages. -/
theorem items_finish_self (b : Broker) (id i : QueueId) (w : Waiter) (got : Option Message) :
    (b.finish id w got (b.items id)).items i = b.items i := by
  by_cases hi : id = i
  · subst hi
    cases hq : b.queues[id]? with
    | none => rw [finish, hq]
    | some q =>
      rw [finish, hq, items_eq hq, items, queues_record, getElem?_setQueue_self _ hq]
  · exact b.items_finish_of_ne hi w got (b.items id)

theorem items_enter (b : Broker) (id i : QueueId) (task : TaskId) (timeout : Nat) :
    (b.enter id task timeout).items i = b.items i := by
  cases hq : b.queues[id]? with
  | none => rw [enter, hq]
  | some q =>
    rw [enter_eq hq]
    by_cases hi : id = i
    · subst hi
      rw [items_eq hq, items, queues_record, getElem?_setQueue_self _ hq]
      rfl
    · rw [items, queues_record, getElem?_setQueue_of_ne b _ hi, items]

end Broker

theorem Consumer.items_start (c : Consumer) (task : TaskId) (b : Broker) (id : QueueId) :
    (c.start task b).2.items id = b.items id := by
  unfold start proceed
  split
  · rfl
  · exact (b.record (.began task)).items_enter c.input id task c.settings.receiveTimeout

/-- A task whose call ended without a message sends nothing. -/
theorem Task.items_resume_none (k : Task) (task : TaskId) (b : Broker) (id : QueueId) :
    (k.resume task none b).2.items id = b.items id := by
  cases k with
  | receive queue result => cases result <;> rfl
  | poll c cycle => cases cycle <;> rfl
  | poller p =>
    cases hp : p.phase with
    | polling due count =>
      rw [resume_of_polling hp]
      rfl
    | waiting | finished | broken => rw [resume_of_awaits_none (by rw [awaits?, hp])]

/-! ## The invariant -/

namespace Execution

/-- Each queue has its reception. -/
def Agrees (rs : List Reception) (b : Broker) : Prop :=
  ∀ id : QueueId, Option.Rel (fun r q ↦ r.Fits q b.clock) rs[id]? b.queues[id]?

/-- A queue accepts no message while a call on it is registering or checking. -/
def Spares (rs : List Reception) (b b' : Broker) : Prop :=
  ∀ (id : QueueId) r h, rs[id]? = some r → r.holder = some h → h.isMidway = true →
    b'.items id = b.items id

theorem spares_of_items_eq {b b' : Broker} (h : ∀ id, b'.items id = b.items id)
    (rs : List Reception) : Spares rs b b' := fun id _ _ _ _ _ ↦ h id

namespace Agrees

variable {rs : List Reception} {b b' : Broker} {id : QueueId} {q : Queue} {r : Reception}

theorem fits (hag : Agrees rs b) (hr : rs[id]? = some r) (hq : b.queues[id]? = some q) :
    r.Fits q b.clock := by
  have h := hag id
  rw [hr, hq] at h
  cases h with
  | some h => exact h

/-- There is a reception where there is a queue. -/
theorem eq_none_iff (hag : Agrees rs b) (id : QueueId) :
    rs[id]? = none ↔ b.queues[id]? = none := by
  have h := hag id
  generalize rs[id]? = r at h ⊢
  generalize b.queues[id]? = q at h ⊢
  cases h <;> simp

theorem length_eq (hag : Agrees rs b) : rs.length = b.queues.length :=
  length_eq_of_getElem?_eq_none_iff hag.eq_none_iff

theorem exists_reception (hag : Agrees rs b) (hq : b.queues[id]? = some q) :
    ∃ r, rs[id]? = some r ∧ r.Fits q b.clock := by
  cases hr : rs[id]? with
  | none => cases hq.symm.trans ((hag.eq_none_iff id).mp hr)
  | some r => exact ⟨r, rfl, hag.fits hr hq⟩

theorem exists_queue (hag : Agrees rs b) (hr : rs[id]? = some r) :
    ∃ q, b.queues[id]? = some q ∧ r.Fits q b.clock := by
  cases hq : b.queues[id]? with
  | none => cases hr.symm.trans ((hag.eq_none_iff id).mpr hq)
  | some q => exact ⟨q, rfl, hag.fits hr hq⟩

/-- The reception of one queue changes, and so does the queue. -/
theorem modify (hag : Agrees rs b) (hq : b.queues[id]? = some q) {f : Reception → Reception}
    {q' : Queue} (hf : ∀ r, rs[id]? = some r → r.Fits q b.clock → (f r).Fits q' b.clock)
    (hclock : b'.clock = b.clock) (hqueues : b'.queues = (b.setQueue id q').queues) :
    Agrees (rs.modify id f) b' := by
  intro i
  rw [hqueues, hclock, List.getElem?_modify]
  by_cases hi : id = i
  · subst hi
    obtain ⟨r, hr, hfits⟩ := hag.exists_reception hq
    rw [Broker.getElem?_setQueue_self q' hq, hr]
    simpa using hf r hr hfits
  · rw [Broker.getElem?_setQueue_of_ne b q' hi]
    simpa [hi] using hag i

/-- The reception of one queue changes, and no queue does. -/
theorem modify_self (hag : Agrees rs b) (hq : b.queues[id]? = some q) {f : Reception → Reception}
    (hf : ∀ r, rs[id]? = some r → r.Fits q b.clock → (f r).Fits q b.clock) :
    Agrees (rs.modify id f) b :=
  hag.modify hq hf rfl (by rw [Broker.setQueue_self hq])

/-- Nothing happens to the reception of a queue that does not exist. -/
theorem modify_of_none (hag : Agrees rs b) (hq : b.queues[id]? = none)
    (f : Reception → Reception) : rs.modify id f = rs := by
  apply List.modify_eq_self
  exact List.getElem?_eq_none_iff.mp ((hag.eq_none_iff id).mpr hq)

theorem awakened (hag : Agrees rs b) (hspares : Spares rs b b') (h : b.Accepts b') :
    Agrees (awakened b b' rs) b' := by
  intro id
  obtain ⟨ms, hms⟩ := h.exists_getElem?_eq id
  rw [Execution.awakened, List.getElem?_mapIdx, hms, h.clock_eq]
  cases hr : rs[id]? with
  | none =>
    rw [(hag.eq_none_iff id).mp hr]
    exact .none
  | some r =>
    obtain ⟨q, hq, hfits⟩ := hag.exists_queue hr
    rw [hq, Option.map_some] at hms
    rw [hq, Broker.items_eq hq, Broker.items_eq hms]
    refine .some (hfits.accept ms fun h' hh' hmidway ↦ ?_)
    have hitems := hspares id r h' hr hh' hmidway
    rw [Broker.items_eq hms, Broker.items_eq hq] at hitems
    exact List.append_right_eq_self.mp hitems

theorem enter (hag : Agrees rs b) (id : QueueId) (task : TaskId) (timeout : Nat) :
    Agrees (rs.modify id fun r ↦ r.call ⟨task, timeout, b.clock⟩) (b.enter id task timeout) := by
  cases hq : b.queues[id]? with
  | none =>
    rw [hag.modify_of_none hq, Broker.enter, hq]
    exact hag
  | some q =>
    rw [Broker.enter_eq hq]
    exact hag.modify hq (fun r _ hfits ↦ hfits.call rfl) rfl rfl

theorem followed (hag : Agrees rs b) (hspares : Spares rs b b') {task : TaskId} {k : Task}
    (h : b.Follows task k.call? b') : Agrees (followed task k b b' rs) b' := by
  unfold Execution.followed
  generalize k.call? = call at h
  cases h with
  | rests h => exact hag.awakened hspares h
  | @calls b₁ h id timeout =>
    -- A receive call leaves the messages of all queues alone.
    have hawakened : Execution.awakened b (b₁.enter id task timeout) rs =
        Execution.awakened b b₁ rs := by
      unfold Execution.awakened
      congr 1
      funext i r
      rw [Broker.items_enter]
    simp only [hawakened, Broker.clock_enter]
    refine (hag.awakened (fun i r h hr hh hmidway ↦ ?_) h).enter id task timeout
    exact (b₁.items_enter id i task timeout).symm.trans (hspares i r h hr hh hmidway)

theorem finish (hag : Agrees rs b) (id : QueueId) (w : Waiter) (got : Option Message)
    (rest : List Message) :
    Agrees (rs.modify id Reception.release) (b.finish id w got rest) := by
  unfold Broker.finish
  split
  · rename_i q hq
    exact hag.modify hq (fun r _ hfits ↦ hfits.release rest) rfl rfl
  · rename_i hq
    rwa [hag.modify_of_none hq]

theorem close (hag : Agrees rs b) (id : QueueId) :
    Agrees (rs.modify id Reception.close) (b.close id) := by
  unfold Broker.close
  split
  · rename_i q hq
    exact hag.modify hq (fun r _ hfits ↦ hfits.close) rfl rfl
  · rename_i hq
    rwa [hag.modify_of_none hq]

theorem signal (hag : Agrees rs b) (hr : rs[id]? = some r) (hpos : 0 < r.signals) :
    Agrees (rs.modify id Reception.signal) b := by
  obtain ⟨q, hq, -⟩ := hag.exists_queue hr
  refine hag.modify_self hq fun r' hr' hfits ↦ hfits.signal ?_
  obtain rfl := Option.some.inj (hr.symm.trans hr')
  exact hpos

theorem goes (hag : Agrees rs b) {h h' : Holder} {first : Branch} (hr : rs[id]? = some r)
    (hholder : r.holder = some h)
    (hnext : h.next first (b.items id) (b.isClosed id) b.clock = .goes h') :
    Agrees (rs.modify id fun r ↦ { r with holder := some h' }) b := by
  obtain ⟨q, hq, -⟩ := hag.exists_queue hr
  rw [Broker.items_eq hq, Broker.isClosed_eq hq] at hnext
  refine hag.modify_self hq fun r' hr' hfits ↦ ?_
  obtain rfl := Option.some.inj (hr.symm.trans hr')
  exact hfits.goes hholder hnext

theorem addQueue (hag : Agrees rs b) (hline : q.line = []) :
    Agrees (rs ++ [({} : Reception)]) (b.addQueue q) := by
  intro id
  have hlength := hag.length_eq
  show Option.Rel _ (rs ++ [({} : Reception)])[id]? (b.queues ++ [q])[id]?
  rcases Nat.lt_trichotomy id b.queues.length with hlt | rfl | hgt
  · rw [List.getElem?_append_left hlt, List.getElem?_append_left (hlength ▸ hlt)]
    exact hag id
  · rw [List.getElem?_concat_length, ← hlength, List.getElem?_concat_length]
    exact .some (Reception.fits_new hline b.clock)
  · rw [List.getElem?_eq_none (by simp; omega), List.getElem?_eq_none (by simp; omega)]
    exact .none

theorem later (hag : Agrees rs b)
    (hwaits : ∀ (id : QueueId) r h, rs[id]? = some r → r.holder = some h →
      h.deadline?.isSome = true) (instant : Nat) : Agrees rs { b with clock := instant } := by
  intro id
  cases hr : rs[id]? with
  | none =>
    rw [(hag.eq_none_iff id).mp hr]
    exact .none
  | some r =>
    obtain ⟨q, hq, hfits⟩ := hag.exists_queue hr
    rw [hq]
    exact .some (hfits.later (fun h hh ↦ hwaits id r h hr hh) instant)

end Agrees

end Execution

end Messaging
