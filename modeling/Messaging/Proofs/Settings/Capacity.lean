import Messaging.Queue
import Messaging.Settings
import Messaging.Proofs.Text.Numeral

/-!
# Which capacities the strict settings allow

The strict reading of an environment takes every number from one up to the largest that a numeral
stands for as the capacity of a queue.  A queue can be created for the smaller ones only, and the
program breaks off when it is to create one with a capacity above `largestCapacity`.  So the strict
reading does not refuse all settings that cannot be used, and the ones that it lets through are
exactly the numbers between the two limits.
-/

namespace Messaging

/-- A variable that has to be greater than zero is set to such a number. -/
theorem Environment.positive?_eq_some_iff {env : Environment} {key : String} {n : Nat} :
    env.positive? key = .ok (some n) ↔
      0 < n ∧ ∃ raw, env key = some raw ∧ Text.readNumeral (Text.trim raw) = .ok n := by
  unfold positive? number?
  cases hraw : env key with
  | none => simp
  | some raw =>
    cases hread : Text.readNumeral (Text.trim raw) with
    | error e => simp [hread]
    | ok m =>
      cases m with
      | zero => simp [hread]; omega
      | succ m => simp [hread]; omega

namespace ChannelSettings

variable {env : Environment} {c : ChannelSettings} {n : Nat}

/-- The strict reading gives the number of the variable, or the default where it is not set. -/
theorem readStrictly_eq_ok_iff :
    readStrictly env = .ok c ↔
      env.positive? Variable.capacity = .ok none ∧ c = {} ∨
        env.positive? Variable.capacity = .ok (some c.capacity) := by
  unfold readStrictly
  cases hread : env.positive? Variable.capacity with
  | error e => simp [bind, Except.bind]
  | ok setting =>
    cases setting with
    | none => simp [bind, Except.bind, pure, Except.pure, eq_comm]
    | some n =>
      cases c
      simp [bind, Except.bind, pure, Except.pure]

theorem capacity_of_readStrictly (h : readStrictly env = .ok c) :
    0 < c.capacity ∧ c.capacity ≤ Text.largest := by
  rcases readStrictly_eq_ok_iff.mp h with ⟨-, rfl⟩ | hset
  · decide
  · obtain ⟨hpos, raw, -, hread⟩ := Environment.positive?_eq_some_iff.mp hset
    exact ⟨hpos, Text.le_largest_of_readNumeral hread⟩

/-- Every positive number up to the largest numeral can be set. -/
theorem exists_readStrictly_iff :
    (∃ env, readStrictly env = .ok ⟨n⟩) ↔ 0 < n ∧ n ≤ Text.largest := by
  constructor
  · rintro ⟨env, h⟩
    exact capacity_of_readStrictly h
  · rintro ⟨hpos, hle⟩
    refine ⟨fun _ ↦ some n.repr, readStrictly_eq_ok_iff.mpr (.inr ?_)⟩
    refine Environment.positive?_eq_some_iff.mpr ⟨hpos, n.repr, rfl, ?_⟩
    rw [Text.trim_repr, Text.readNumeral_repr hle]

/-- The variables of a process can be set to any texts, so they give the same capacities as texts
do. -/
theorem exists_loadStrictly_iff :
    (∃ p, loadStrictly p = .ok ⟨n⟩) ↔ 0 < n ∧ n ≤ Text.largest := by
  rw [← exists_readStrictly_iff]
  constructor
  · rintro ⟨p, h⟩
    exact ⟨p.texts, h⟩
  · rintro ⟨env, h⟩
    have htexts : env = ProcessEnvironment.texts fun name ↦ (env name).elim .unset .text := by
      funext name
      show env name = ((env name).elim Assignment.unset Assignment.text).text?
      cases env name <;> rfl
    exact ⟨_, htexts ▸ h⟩

/-- With a capacity that the strict loading gives, a queue is created if the capacity is not above
the largest one of queues, and the program breaks off otherwise, whatever the name; the strict
loading gives every positive number that a numeral stands for. -/
theorem create_of_loadStrictly {p : ProcessEnvironment} {c : ChannelSettings}
    (h : loadStrictly p = .ok c) (name : String) :
    (Queue.create name c.capacity =
      if c.capacity ≤ largestCapacity then .ok { name, capacity := c.capacity }
      else .abort excessMessage) ∧
    ∀ n, (∃ p', loadStrictly p' = .ok ⟨n⟩) ↔ 0 < n ∧ n ≤ Text.largest := by
  refine ⟨?_, fun n ↦ exists_loadStrictly_iff⟩
  have hpos := (capacity_of_readStrictly h).1
  unfold Queue.create
  rw [if_neg (Nat.ne_of_gt hpos)]
  by_cases hle : c.capacity ≤ largestCapacity
  · rw [if_pos hle, if_neg (Nat.not_lt.mpr hle)]
  · rw [if_neg hle, if_pos (Nat.not_le.mp hle)]

/-- The variable is set to the first number above the largest capacity, with white space and zeros
around it: the strict loading takes it, and the program breaks off at the queue. -/
theorem create_of_loadStrictly_of_excess :
    let p : ProcessEnvironment := fun name ↦
      if name = Variable.capacity then .text " 02305843009213693952 " else .unset
    loadStrictly p = .ok ⟨2305843009213693952⟩ ∧
      Queue.create "orders" 2305843009213693952 = .abort excessMessage := by
  intro p
  have hload : loadStrictly p = .ok ⟨2305843009213693952⟩ := by rfl
  exact ⟨hload, (create_of_loadStrictly hload "orders").1⟩

/-- Settings that the strict loading takes need not be usable: no queue has this capacity. -/
theorem loadStrictly_of_unusable :
    ¬∀ (p : ProcessEnvironment) (c : ChannelSettings) (name : String), loadStrictly p = .ok c →
      ∃ q, Queue.create name c.capacity = .ok q ∧ q.capacity = c.capacity := by
  intro h
  let p : ProcessEnvironment := fun name ↦
    if name = Variable.capacity then .text "2305843009213693952" else .unset
  have hload : loadStrictly p = .ok ⟨2305843009213693952⟩ := by rfl
  obtain ⟨q, hq, -⟩ := h p _ "orders" hload
  cases hq

end ChannelSettings

end Messaging
