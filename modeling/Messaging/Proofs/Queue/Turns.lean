import Mathlib.Data.List.Forall2
import Messaging.Proofs.Queue.Conservation

/-!
# Turns

The receive calls on a queue have their turns one after the other.  The turn of a call comes when it
is made, or when the call before it ends, whichever is later; and it ends with the call.  All of
that is told by the log of the queue: which calls were made, which of them ended and with what, and
when.

The invariant, `Queue.InTurn`, says that the calls that ended are the first ones that were made, in
the same order, and that the others stand in line; that the queue knows when the turn of the first
of them came, and that this call has not waited too long since; and that nothing was there for it
unless something is there now.  So where a call ends without a message, it says why.
-/

namespace Messaging

/-! ## What the log tells -/

/-- A receive call that has ended. -/
structure Ending where
  task : TaskId
  /-- The instant of the call. -/
  since : Nat
  instant : Nat
  got : Option Message

/-- The receive call that was made, if the entry tells of one. -/
def Entry.call? (e : Entry) : Option Waiter :=
  match e.event with
  | .called _ task timeout => some ⟨task, timeout, e.instant⟩
  | _ => none

/-- The receive call that ended, if the entry tells of one. -/
def Entry.ending? (e : Entry) : Option Ending :=
  match e.event with
  | .received _ task since got => some ⟨task, since, e.instant, got⟩
  | _ => none

namespace Queue

/-- The receive calls in the order in which they were made. -/
def calls (log : List Entry) : List Waiter := log.reverse.filterMap Entry.call?

/-- The receive calls that ended, in the order in which they ended. -/
def endings (log : List Entry) : List Ending := log.reverse.filterMap Entry.ending?

/-- The instant at which the turn of a call comes, the calls being counted from zero: when it is
made, or when the call before it ends, whichever is later. -/
def turn? (log : List Entry) : Nat → Option Nat
  | 0 => (calls log)[0]?.map Waiter.called
  | k + 1 => do
    let w ← (calls log)[k + 1]?
    let e ← (endings log)[k]?
    return max w.called e.instant

/-- The turn of a call has come, and the call has not ended. -/
def HasTurn (log : List Entry) (k : Nat) : Prop := (endings log).length = k ∧ k < (calls log).length

/-- All messages that were accepted have been received. -/
def Drained (log : List Entry) : Prop :=
  log.reverse.filterMap Entry.accepted? = log.reverse.filterMap Entry.delivered?

/-- The call and its end. -/
def Ends (w : Waiter) (e : Ending) : Prop := w.task = e.task ∧ w.called = e.since

/-- Why the call that has the turn may end without a message: the queue was closed and is drained,
or the call has waited from its turn on for as long as it was to wait, and the queue was drained all
the while. -/
def GivenUp (id : QueueId) (now : Nat) (w : Waiter) (log : List Entry) : Prop :=
  ((∃ x ∈ log, x.event = .closed id) ∧ Drained log) ∨
    ∃ turn, turn? log (endings log).length = some turn ∧ now = turn + w.timeout ∧
      ∀ recent older, log = recent ++ older → HasTurn older (endings log).length → Drained older

variable {id : QueueId} {now : Nat} {q q' : Queue} {log : List Entry} {e : Event}

theorem calls_cons (x : Entry) (log : List Entry) :
    calls (x :: log) = calls log ++ x.call?.toList :=
  filterMap_reverse_cons Entry.call? x log

theorem endings_cons (x : Entry) (log : List Entry) :
    endings (x :: log) = endings log ++ x.ending?.toList :=
  filterMap_reverse_cons Entry.ending? x log

section

variable (log : List Entry) (now : Nat) (id : QueueId) (task : TaskId)

theorem calls_called (timeout : Nat) :
    calls (⟨now, .called id task timeout⟩ :: log) = calls log ++ [⟨task, timeout, now⟩] :=
  calls_cons _ log

theorem endings_called (timeout : Nat) :
    endings (⟨now, .called id task timeout⟩ :: log) = endings log :=
  (endings_cons _ log).trans (List.append_nil _)

theorem calls_received (since : Nat) (got : Option Message) :
    calls (⟨now, .received id task since got⟩ :: log) = calls log :=
  (calls_cons _ log).trans (List.append_nil _)

theorem endings_received (since : Nat) (got : Option Message) :
    endings (⟨now, .received id task since got⟩ :: log) =
      endings log ++ [⟨task, since, now, got⟩] :=
  endings_cons _ log

end

theorem endings_append (recent older : List Entry) :
    endings (recent ++ older) = endings older ++ endings recent := by
  rw [endings, List.reverse_append, List.filterMap_append, endings, endings]

theorem delivered_eq (log : List Entry) :
    (endings log).filterMap Ending.got = log.reverse.filterMap Entry.delivered? := by
  rw [endings, List.filterMap_filterMap]
  congr 1
  funext x
  obtain ⟨now, event⟩ := x
  cases event <;> rfl

theorem exists_mem_of_mem_calls {w : Waiter} (h : w ∈ calls log) :
    ∃ x ∈ log, x.instant = w.called := by
  obtain ⟨⟨now, event⟩, hmem, hcall⟩ := List.mem_filterMap.mp h
  refine ⟨_, List.mem_reverse.mp hmem, ?_⟩
  cases event <;> cases hcall
  rfl

theorem exists_mem_of_mem_endings {n : Ending} (h : n ∈ endings log) :
    ∃ x ∈ log, x.instant = n.instant := by
  obtain ⟨⟨now, event⟩, hmem, hend⟩ := List.mem_filterMap.mp h
  refine ⟨_, List.mem_reverse.mp hmem, ?_⟩
  cases event <;> cases hend
  rfl

theorem turn?_zero {w : Waiter} (hw : (calls log)[0]? = some w) : turn? log 0 = some w.called := by
  rw [turn?, hw, Option.map_some]

theorem turn?_succ {k : Nat} {w : Waiter} {n : Ending} (hw : (calls log)[k + 1]? = some w)
    (hn : (endings log)[k]? = some n) : turn? log (k + 1) = some (max w.called n.instant) := by
  rw [turn?, hw, hn]
  rfl

/-- What is known of a turn stays as it is. -/
theorem turn?_cons {k turn : Nat} (h : turn? log k = some turn) (x : Entry) :
    turn? (x :: log) k = some turn := by
  have grows : ∀ {α : Type} {l m : List α} {k : Nat} {a : α}, l[k]? = some a →
      (l ++ m)[k]? = some a := by
    intro α l m k a hget
    rw [List.getElem?_append_left (List.getElem?_eq_some_iff.mp hget).1, hget]
  cases k with
  | zero =>
    obtain ⟨w, hw, rfl⟩ := Option.map_eq_some_iff.mp h
    rw [turn?, calls_cons, grows hw, Option.map_some]
  | succ k =>
    obtain ⟨w, hw, h⟩ := Option.bind_eq_some_iff.mp h
    obtain ⟨n, hn, h⟩ := Option.bind_eq_some_iff.mp h
    rw [turn?, calls_cons, endings_cons, grows hw, grows hn]
    exact h

/-! ## The invariant -/

/-- A queue agrees with its log about whose turn it is and since when. -/
structure InTurn (id : QueueId) (now : Nat) (q : Queue) (log : List Entry) : Prop where
  accounted : q.Accounted id log
  past : ∀ x ∈ log, x.instant ≤ now
  /-- The calls that ended are the first ones, in their order, and the others stand in line. -/
  line : ∃ served, calls log = served ++ q.line ∧ List.Forall₂ Ends served (endings log)
  turn : q.line ≠ [] → turn? log (endings log).length = some q.turn
  /-- The call that has the turn has not waited for longer than it was to wait. -/
  due : ∀ w, q.line.head? = some w → now ≤ q.turn + w.timeout
  /-- A message that was there for the call that has the turn is still there. -/
  idle : q.items = [] → ∀ recent older, log = recent ++ older →
    HasTurn older (endings log).length → Drained older
  /-- Each call that ended without a message had to. -/
  ended : ∀ later before x task since, log = later ++ x :: before →
    x.event = .received id task since none →
    ∃ w, (calls before)[(endings before).length]? = some w ∧
      Ends w ⟨task, since, x.instant, none⟩ ∧ GivenUp id x.instant w before

/-- What a change means to the calls: they stay as they are and so does the line, or a call is made,
or the call that has the turn ends. -/
theorem Change.line_cases (h : Change id now q e q') :
    (Entry.call? ⟨now, e⟩ = none ∧ Entry.ending? ⟨now, e⟩ = none ∧ q'.line = q.line ∧
        q'.turn = q.turn ∧ (q'.items = [] → q.items = [])) ∨
      (∃ task timeout, e = .called id task timeout ∧ q' = q.enter ⟨task, timeout, now⟩) ∨
      ∃ w rest got, q.line = w :: rest ∧ e = .received id w.task w.called got ∧ q'.line = rest ∧
        q'.turn = now ∧
        (got = none → q.items = [] ∧ (q.closed = true ∨ q.turn + w.timeout ≤ now)) := by
  cases h with
  | offered m =>
    refine .inl ⟨rfl, rfl, ?_⟩
    rw [offer]
    split
    · exact ⟨rfl, rfl, fun h ↦ absurd h (by simp)⟩
    · exact ⟨rfl, rfl, fun h ↦ h⟩
  | closed => exact .inl ⟨rfl, rfl, rfl, rfl, fun h ↦ h⟩
  | called task timeout => exact .inr (.inl ⟨task, timeout, rfl, rfl⟩)
  | @received _ w got h =>
    obtain ⟨hw, hq'⟩ := serve_eq_some_iff.mp h
    obtain ⟨rest, hrest⟩ := List.head?_eq_some_iff.mp hw
    refine .inr (.inr ⟨w, rest, got, hrest, rfl, ?_⟩)
    rcases hq' with ⟨m, items, -, rfl, rfl⟩ | ⟨hitems, hend, -, rfl⟩
    · exact ⟨congrArg List.tail hrest, rfl, fun h ↦ absurd h (by simp)⟩
    · exact ⟨congrArg List.tail hrest, rfl, fun _ ↦ ⟨hitems, hend⟩⟩

theorem turn_enter_of_nil {w : Waiter} (h : q.line = []) : (q.enter w).turn = w.called := by
  rw [enter, h]
  rfl

theorem turn_enter_of_ne {w : Waiter} (h : q.line ≠ []) : (q.enter w).turn = q.turn := by
  rw [enter, List.isEmpty_eq_false_iff.mpr h]
  rfl

namespace InTurn

theorem drained_iff (h : q.InTurn id now log) : Drained log ↔ q.items = [] := by
  rw [Drained, h.accounted.balance]
  exact List.append_right_eq_self

/-- The call that has the turn is the first of the line. -/
theorem getElem?_calls (h : q.InTurn id now log) (k : Nat) :
    (calls log)[(endings log).length + k]? = q.line[k]? := by
  obtain ⟨served, hcalls, hends⟩ := h.line
  rw [hcalls, ← hends.length_eq, List.getElem?_append_right (Nat.le_add_right _ _),
    Nat.add_sub_cancel_left]

/-! ### What a change does to it -/

theorem line_change (h : q.InTurn id now log) (hc : Change id now q e q') :
    ∃ served, calls (⟨now, e⟩ :: log) = served ++ q'.line ∧
      List.Forall₂ Ends served (endings (⟨now, e⟩ :: log)) := by
  obtain ⟨served, hcalls, hends⟩ := h.line
  rcases hc.line_cases with ⟨hcall, hending, hline, -⟩ | ⟨task, timeout, rfl, rfl⟩ |
      ⟨w, rest, got, hline, rfl, hrest, -⟩
  · refine ⟨served, ?_, ?_⟩
    · rw [calls_cons, hcall, hline, hcalls]
      exact List.append_nil _
    · rw [endings_cons, hending]
      exact (List.append_nil (endings log)).symm ▸ hends
  · refine ⟨served, ?_, ?_⟩
    · rw [calls_called, hcalls]
      exact List.append_assoc ..
    · rw [endings_called]
      exact hends
  · refine ⟨served ++ [w], ?_, ?_⟩
    · rw [calls_received, hcalls, hline, hrest, List.append_assoc]
      rfl
    · rw [endings_received]
      exact List.rel_append hends (.cons ⟨rfl, rfl⟩ .nil)

theorem turn_change (h : q.InTurn id now log) (hc : Change id now q e q') (hne : q'.line ≠ []) :
    turn? (⟨now, e⟩ :: log) (endings (⟨now, e⟩ :: log)).length = some q'.turn := by
  rcases hc.line_cases with ⟨-, hending, hline, hturn, -⟩ | ⟨task, timeout, rfl, rfl⟩ |
      ⟨w, rest, got, hline, rfl, hrest, hturn, -⟩
  · have hsame : endings (⟨now, e⟩ :: log) = endings log := by
      rw [endings_cons, hending]
      exact List.append_nil _
    rw [hsame, hturn]
    exact turn?_cons (h.turn (hline ▸ hne)) _
  · rw [endings_called]
    by_cases hempty : q.line = []
    · -- Nobody stands before the new call, and the calls that ended did so by now.
      have hcall : (calls (⟨now, .called id task timeout⟩ :: log))[(endings log).length]? =
          some ⟨task, timeout, now⟩ := by
        have hlen : (endings log).length = (calls log).length := by
          obtain ⟨served, hcalls, hends⟩ := h.line
          rw [hcalls, hempty, List.append_nil, hends.length_eq]
        rw [calls_called, hlen]
        exact List.getElem?_concat_length
      rw [turn_enter_of_nil hempty]
      cases hk : (endings log).length with
      | zero => exact turn?_zero (hk ▸ hcall)
      | succ k =>
        obtain ⟨n, hn⟩ : ∃ n, (endings log)[k]? = some n :=
          ⟨_, List.getElem?_eq_getElem (by omega)⟩
        obtain ⟨x, hx, hinstant⟩ := exists_mem_of_mem_endings (List.mem_of_getElem? hn)
        have hle : n.instant ≤ now := hinstant ▸ h.past x hx
        rw [turn?_succ (hk ▸ hcall) ((endings_called log now id task timeout).symm ▸ hn),
          Nat.max_eq_left hle]
    · rw [turn_enter_of_ne hempty]
      exact turn?_cons (h.turn hempty) _
  · -- The next call has been waiting when this one ends.
    obtain ⟨v, rest, rfl⟩ := List.exists_cons_of_ne_nil (hrest ▸ hne)
    have hcall : (calls log)[(endings log).length + 1]? = some v := by
      rw [h.getElem?_calls, hline]
      rfl
    obtain ⟨x, hx, hinstant⟩ := exists_mem_of_mem_calls (List.mem_of_getElem? hcall)
    have hle : v.called ≤ now := hinstant ▸ h.past x hx
    rw [endings_received, List.length_append, List.length_singleton, hturn, turn?_succ
      ((calls_received log now id w.task w.called got).symm ▸ hcall)
      ((endings_received log now id w.task w.called got).symm ▸ List.getElem?_concat_length),
      Nat.max_eq_right hle]

theorem due_change (h : q.InTurn id now log) (hc : Change id now q e q') (w : Waiter)
    (hw : q'.line.head? = some w) : now ≤ q'.turn + w.timeout := by
  rcases hc.line_cases with ⟨-, -, hline, hturn, -⟩ | ⟨task, timeout, rfl, rfl⟩ |
      ⟨v, rest, got, -, rfl, -, hturn, -⟩
  · rw [hturn]
    exact h.due w (hline ▸ hw)
  · by_cases hempty : q.line = []
    · rw [turn_enter_of_nil hempty]
      exact Nat.le_add_right _ _
    · rw [turn_enter_of_ne hempty]
      refine h.due w ?_
      rwa [enter, List.head?_append_of_ne_nil _ hempty] at hw
  · rw [hturn]
    exact Nat.le_add_right _ _

theorem idle_change (h : q.InTurn id now log) (hc : Change id now q e q') (hitems : q'.items = [])
    {recent older : List Entry} (hlog : ⟨now, e⟩ :: log = recent ++ older)
    (hturn : HasTurn older (endings (⟨now, e⟩ :: log)).length) : Drained older := by
  rcases List.cons_eq_append_iff.mp hlog with ⟨rfl, rfl⟩ | ⟨recent, rfl, hold⟩
  · rw [Drained, (h.accounted.change hc).balance, hitems, List.append_nil]
  · rcases hc.line_cases with ⟨-, hending, -, -, hbefore⟩ | ⟨task, timeout, rfl, rfl⟩ |
        ⟨w, rest, got, -, rfl, -⟩
    · rw [endings_cons, hending] at hturn
      exact h.idle (hbefore hitems) recent older hold (by simpa using hturn)
    · rw [endings_called] at hturn
      exact h.idle hitems recent older hold hturn
    · -- Before this end there was one end less.
      have hlen := hturn.1
      rw [endings_received, hold, endings_append, List.length_append, List.length_append,
        List.length_singleton] at hlen
      omega

theorem ended_change (h : q.InTurn id now log) (hc : Change id now q e q')
    {later before : List Entry} {x : Entry} {task : TaskId} {since : Nat}
    (hlog : ⟨now, e⟩ :: log = later ++ x :: before) (hx : x.event = .received id task since none) :
    ∃ w, (calls before)[(endings before).length]? = some w ∧
      Ends w ⟨task, since, x.instant, none⟩ ∧ GivenUp id x.instant w before := by
  rcases List.cons_eq_append_iff.mp hlog with ⟨rfl, hnew⟩ | ⟨later, rfl, hold⟩
  · obtain ⟨rfl, rfl⟩ := List.cons.inj hnew
    obtain rfl : e = .received id task since none := hx
    rcases hc.line_cases with ⟨-, hending, -⟩ | ⟨_, _, he, -⟩ |
        ⟨w, rest, got, hline, he, -, -, hend⟩
    · cases hending
    · cases he
    · obtain ⟨-, rfl, rfl, rfl⟩ := Event.received.inj he
      obtain ⟨hitems, hend⟩ := hend rfl
      have hcall : (calls before)[(endings before).length]? = some w := by
        rw [← Nat.add_zero (endings before).length, h.getElem?_calls, hline]
        rfl
      refine ⟨w, hcall, ⟨rfl, rfl⟩, ?_⟩
      rcases hend with hclosed | hover
      · exact .inl ⟨h.accounted.closed_iff.mp hclosed, h.drained_iff.mpr hitems⟩
      · have hdue := h.due w (by rw [hline, List.head?_cons])
        exact .inr ⟨q.turn, h.turn (by simp [hline]), Nat.le_antisymm hdue hover, h.idle hitems⟩
  · exact h.ended later before x task since hold hx

/-- Every change of a queue keeps the invariant. -/
theorem change (h : q.InTurn id now log) (hc : Change id now q e q') :
    q'.InTurn id now (⟨now, e⟩ :: log) where
  accounted := h.accounted.change hc
  past := List.forall_mem_cons.mpr ⟨Nat.le_refl now, h.past⟩
  line := h.line_change hc
  turn := h.turn_change hc
  due := h.due_change hc
  idle := fun hitems _ _ hlog hturn ↦ h.idle_change hc hitems hlog hturn
  ended := fun _ _ _ _ _ hlog hx ↦ h.ended_change hc hlog hx

/-- Time that passes while the turn does not end keeps the invariant, if it stops when the turn can
end. -/
theorem wait {later : Nat} (h : q.InTurn id now log) (hle : now ≤ later)
    (hdue : ∀ deadline, q.deadline? = some deadline → later ≤ deadline) :
    q.InTurn id later log where
  accounted := h.accounted
  past := fun x hx ↦ Nat.le_trans (h.past x hx) hle
  line := h.line
  turn := h.turn
  due := fun w hw ↦ hdue _ (by rw [deadline?, hw, Option.map_some])
  idle := h.idle
  ended := h.ended

end InTurn

theorem inTurn_of_create {name : String} {capacity : Nat} (now : Nat)
    (h : Queue.create name capacity = .ok q) : q.InTurn id now [] := by
  have haccounted : q.Accounted id [] := accounted_of_create h
  obtain ⟨-, -, rfl⟩ := create_eq_ok_iff.mp h
  refine ⟨haccounted, by simp, ⟨[], rfl, .nil⟩, fun hne ↦ (hne rfl).elim, ?_, ?_, ?_⟩
  · intro w hw
    cases hw
  · rintro - recent older hlog -
    obtain ⟨-, rfl⟩ := List.append_eq_nil_iff.mp hlog.symm
    rfl
  · intro later before x task since hlog
    simp at hlog

end Queue

end Messaging
