import Messaging.Broker

/-!
# Diaries

The journal of a broker tells of everything that happens, in one order.  The diary of a task is what
the journal tells of that task: the receive calls that it made, how they ended, and when its poll
cycles began and ended.

Only a task writes its own diary, so whatever else happens leaves the diary as it is.
-/

namespace Messaging

/-- The task that an event is about. -/
def Event.task? : Event → Option TaskId
  | .called _ task _ | .received _ task _ _ | .began task | .ended task _ => some task
  | .offered .. | .closed _ | .invoked .. => none

/-- The instant of an entry that tells of the beginning of a poll cycle. -/
def Entry.began? (e : Entry) : Option Nat :=
  match e.event with
  | .began _ => some e.instant
  | _ => none

/-- The instant of an entry that tells of the end of a poll cycle. -/
def Entry.ended? (e : Entry) : Option Nat :=
  match e.event with
  | .ended .. => some e.instant
  | _ => none

namespace Broker

/-- What the journal tells of a task, the latest entry first. -/
def diary (b : Broker) (task : TaskId) : List Entry :=
  b.journal.filter fun e ↦ e.event.task? = some task

/-- The instants at which the poll cycles of a task began, the first one first. -/
def starts (b : Broker) (task : TaskId) : List Nat :=
  (b.diary task).reverse.filterMap Entry.began?

/-- The instants at which the poll cycles of a task ended, the first one first. -/
def ends (b : Broker) (task : TaskId) : List Nat :=
  (b.diary task).reverse.filterMap Entry.ended?

theorem starts_of_diary_eq {b b' : Broker} {task : TaskId} {new : List Entry}
    (h : b'.diary task = new ++ b.diary task) :
    b'.starts task = b.starts task ++ new.reverse.filterMap Entry.began? := by
  rw [starts, h, List.reverse_append, List.filterMap_append, starts]

theorem ends_of_diary_eq {b b' : Broker} {task : TaskId} {new : List Entry}
    (h : b'.diary task = new ++ b.diary task) :
    b'.ends task = b.ends task ++ new.reverse.filterMap Entry.ended? := by
  rw [ends, h, List.reverse_append, List.filterMap_append, ends]

variable (b : Broker) {task : TaskId}

/-! ### What writes into a diary -/

@[simp] theorem diary_setQueue (id : QueueId) (q : Queue) :
    (b.setQueue id q).diary task = b.diary task := rfl

theorem diary_record_of_eq {e : Event} (h : e.task? = some task) :
    (b.record e).diary task = ⟨b.clock, e⟩ :: b.diary task := by
  simp [diary, record, h]

theorem diary_record_of_ne {e : Event} (h : e.task? ≠ some task) :
    (b.record e).diary task = b.diary task := by
  simp [diary, record, h]

@[simp] theorem diary_offer (id : QueueId) (m : Message) :
    (b.offer id m).2.diary task = b.diary task := by
  unfold offer
  split
  · rw [diary_record_of_ne _ (by rintro ⟨⟩), diary_setQueue]
  · rfl

@[simp] theorem diary_close (id : QueueId) : (b.close id).diary task = b.diary task := by
  unfold close
  split
  · rw [diary_record_of_ne _ (by rintro ⟨⟩), diary_setQueue]
  · rfl

theorem diary_enter_of_ne {other : TaskId} (h : other ≠ task) (id : QueueId) (timeout : Nat) :
    (b.enter id other timeout).diary task = b.diary task := by
  have hne : (Event.called id other timeout).task? ≠ some task := fun he ↦ h (Option.some.inj he)
  unfold enter
  split
  · rw [diary_record_of_ne _ hne, diary_setQueue]
  · rfl

theorem diary_serve_of_ne {other : TaskId} (h : other ≠ task) {b b' : Broker} {id : QueueId}
    {got : Option Message} (hs : b.serve id other = some (got, b')) :
    b'.diary task = b.diary task := by
  obtain ⟨q, w, q', -, -, rfl, rfl⟩ := serve_eq_some_iff.mp hs
  have hne : (Event.received id w.task w.called got).task? ≠ some task :=
    fun he ↦ h (Option.some.inj he)
  rw [diary_record_of_ne _ hne, diary_setQueue]

/-- A receive call that ends is told of in the diary of the task that made it. -/
theorem diary_serve {b b' : Broker} {id : QueueId} {got : Option Message}
    (hs : b.serve id task = some (got, b')) :
    ∃ since, b'.diary task = ⟨b.clock, .received id task since got⟩ :: b.diary task := by
  obtain ⟨q, w, q', -, -, rfl, rfl⟩ := serve_eq_some_iff.mp hs
  exact ⟨w.called, diary_record_of_eq _ rfl⟩

end Broker

end Messaging
