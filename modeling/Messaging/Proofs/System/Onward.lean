import Messaging.Proofs.System.Step

/-!
# Systems left to themselves

Nobody drives the system any more: its tasks take steps, and time passes.  The functions that run a
system do nothing else to it, whatever their budget is.

Where every step lowers a measure, a budget of a little more than twice the measure suffices for all
the steps of an instant: between two steps there may be a look for a task that can take the next.
-/

namespace Messaging.System

/-- A task takes a step, or time passes. -/
inductive Goes : System → System → Prop
  /-- A task takes a step. -/
  | step {s t : System} {task : TaskId} (h : s.step? task = some t) : Goes s t
  /-- Time passes, whether or not something is due in between. -/
  | wait {s : System} {instant : Nat} (h : s.clock ≤ instant) : Goes s (s.atInstant instant)

/-- One system becomes another without anybody driving it. -/
def Onward : System → System → Prop := Relation.ReflTransGen Goes

variable {s t u : System}

theorem Onward.refl (s : System) : Onward s s := Relation.ReflTransGen.refl

theorem Onward.trans (h : Onward s t) (h' : Onward t u) : Onward s u :=
  Relation.ReflTransGen.trans h h'

theorem Goes.onward (h : Goes s t) : Onward s t := Relation.ReflTransGen.single h

/-! ## What runs a system -/

theorem settleFrom_onward (budget : Nat) (task : TaskId) (s : System) :
    Onward s (s.settleFrom budget task) := by
  induction budget generalizing task s with
  | zero => exact .refl s
  | succ budget ih =>
    rw [settleFrom]
    cases hstep : s.step? task with
    | some t => exact (Goes.step hstep).onward.trans (ih task t)
    | none =>
      cases hready : s.ready? with
      | some other => exact ih other s
      | none => exact .refl s

theorem settle_onward (budget : Nat) (s : System) : Onward s (s.settle budget) :=
  settleFrom_onward budget 0 s

theorem clock_le_of_nextInstant? {limit : Option Nat} {instant : Nat}
    (h : s.nextInstant? limit = some instant) : s.clock ≤ instant := by
  have hdue : ∀ {due : Nat}, s.nextDue? = some due → s.clock ≤ due := by
    intro due hdue
    have hmem := (List.min?_eq_some_iff.mp hdue).1
    exact Nat.le_of_lt (of_decide_eq_true (List.mem_filter.mp hmem).2)
  cases limit with
  | none => exact hdue h
  | some limit =>
    rw [nextInstant?] at h
    split at h
    · rename_i hlt
      cases h
      cases hnext : s.nextDue? with
      | none => exact Nat.le_min.mpr ⟨Nat.le_of_lt hlt, Nat.le_of_lt hlt⟩
      | some due => exact Nat.le_min.mpr ⟨Nat.le_of_lt hlt, hdue hnext⟩
    · cases h

theorem waitFor_onward (budget : Nat) (limit : Option Nat) (done : System → Bool) (rounds : Nat)
    (s : System) : Onward s (waitFor budget limit done rounds s) := by
  induction rounds generalizing s with
  | zero => exact .refl s
  | succ rounds ih =>
    rw [waitFor]
    split
    · exact .refl s
    · split
      · rename_i instant hinstant
        have hwait : Goes s (s.atInstant instant) := .wait (clock_le_of_nextInstant? hinstant)
        exact (hwait.onward.trans (settle_onward budget _)).trans (ih _)
      · exact .refl s

theorem clock_of_step {task : TaskId} (h : s.step? task = some t) : t.clock = s.clock := by
  obtain ⟨k, k', b, -, hs, rfl⟩ := step?_eq_some_iff.mp h
  exact (Task.step_eq_some_iff.mp hs).clock_eq

theorem clock_settleFrom (budget : Nat) (task : TaskId) (s : System) :
    (s.settleFrom budget task).clock = s.clock := by
  induction budget generalizing task s with
  | zero => rfl
  | succ budget ih =>
    rw [settleFrom]
    cases hstep : s.step? task with
    | some t => exact (ih task t).trans (clock_of_step hstep)
    | none =>
      cases s.ready? with
      | some other => exact ih other s
      | none => rfl

/-- Whoever waits within a limit does not wait beyond it. -/
theorem clock_waitFor_le {budget limit : Nat} {done : System → Bool} {rounds : Nat}
    (h : s.clock ≤ limit) : (waitFor budget (some limit) done rounds s).clock ≤ limit := by
  induction rounds generalizing s with
  | zero => exact h
  | succ rounds ih =>
    rw [waitFor]
    split
    · exact h
    · split
      · rename_i instant hinstant
        refine ih ?_
        rw [settle, clock_settleFrom]
        rw [nextInstant?] at hinstant
        split at hinstant
        · cases hinstant
          exact Nat.min_le_left _ _
        · cases hinstant
      · exact h

/-! ## How much budget suffices -/

/-- Where every step lowers a measure, enough budget leaves no task that can take a step. -/
theorem settleFrom_settled {P : System → Prop} {size : System → Nat}
    (hstep : ∀ {s t : System} {task : TaskId}, P s → s.step? task = some t → P t ∧ size t < size s)
    {budget : Nat} {task : TaskId} (h : P s)
    (hbudget : 2 * size s + (if (s.step? task).isSome then 0 else 1) < budget) :
    P (s.settleFrom budget task) ∧ (s.settleFrom budget task).Settled := by
  induction budget generalizing task s with
  | zero => exact (Nat.not_lt_zero _ hbudget).elim
  | succ budget ih =>
    rw [settleFrom]
    cases hs : s.step? task with
    | some t =>
      obtain ⟨ht, hlt⟩ := hstep h hs
      refine ih ht ?_
      rw [hs, if_pos Option.isSome_some] at hbudget
      split <;> omega
    | none =>
      cases hready : s.ready? with
      | some other =>
        have hsome := List.find?_some hready
        refine ih h ?_
        rw [if_pos hsome]
        rw [hs, Option.isSome_none, if_neg Bool.false_ne_true] at hbudget
        omega
      | none => exact ⟨h, settled_iff_ready?.mpr hready⟩

/-- The same where the tasks of the present instant run in their order. -/
theorem settle_settled {P : System → Prop} {size : System → Nat}
    (hstep : ∀ {s t : System} {task : TaskId}, P s → s.step? task = some t → P t ∧ size t < size s)
    {budget : Nat} (h : P s) (hbudget : 2 * size s + 1 < budget) :
    P (s.settle budget) ∧ (s.settle budget).Settled := by
  refine settleFrom_settled hstep h ?_
  split <;> omega

end Messaging.System
