import Messaging.Message

/-!
# Drafts step by step

A draft goes through any number of steps before it becomes a message: headers are set, removed and
copied, in both ways and from lists in which a key may come twice, and the draft may be built and
taken up again on the way.  What becomes of one header can be told without looking at any other:
each step turns the value that the header had before into the one that it has afterwards.  The
payload stays what it was at the beginning, so whether there will be a message is clear from the
start.
-/

namespace Messaging

/-! ## What a list of pairs says about a key -/

namespace Dictionary

variable {α : Type}

/-- The values that a list of pairs gives to a key, in the order of the list. -/
def valuesOf (k : String) (l : List (String × α)) : List α :=
  (l.filter fun e ↦ e.1 = k).map Prod.snd

theorem find?_eq_head?_valuesOf (k : String) (l : List (String × α)) :
    find? k l = (valuesOf k l).head? := by
  induction l with
  | nil => rfl
  | cons e l ih =>
    rw [valuesOf] at ih ⊢
    by_cases h : e.1 = k
    · rw [find?, if_pos h, List.filter_cons_of_pos (by simpa using h)]
      rfl
    · rw [find?, if_neg h, List.filter_cons_of_neg (by simpa using h), ih]

theorem valuesOf_reverse (k : String) (l : List (String × α)) :
    valuesOf k l.reverse = (valuesOf k l).reverse := by
  rw [valuesOf, valuesOf, List.filter_reverse, List.map_reverse]

theorem find?_reverse_eq_getLast?_valuesOf (k : String) (l : List (String × α)) :
    find? k l.reverse = (valuesOf k l).getLast? := by
  rw [find?_eq_head?_valuesOf, valuesOf_reverse, List.head?_reverse]

end Dictionary

/-! ## Steps -/

namespace Draft

/-- Builds the draft and starts again from the message; nothing happens if there is none. -/
def rebuild (d : Draft) (stamp : Stamp) : Draft :=
  match d.build stamp with
  | .ok m => ofMessage m
  | .error _ => d

/-- One step on the way to a message. -/
inductive Step where
  /-- A header is set. -/
  | set (key : String) (value : Value)
  /-- A header is removed. -/
  | remove (key : String)
  /-- Headers are copied over earlier ones. -/
  | copy (headers : List (String × Value))
  /-- Headers are copied where they are missing. -/
  | copyIfAbsent (headers : List (String × Value))
  /-- Headers are copied in one of the two ways. -/
  | copyWith (headers : List (String × Value)) (overwrite : Bool)
  /-- The draft is built under a stamp and taken up again. -/
  | rebuild (stamp : Stamp)

/-- The draft after one step. -/
def apply (d : Draft) : Step → Draft
  | .set key value => d.set key value
  | .remove key => d.remove key
  | .copy headers => d.copy headers
  | .copyIfAbsent headers => d.copyIfAbsent headers
  | .copyWith headers overwrite => d.copyWith headers overwrite
  | .rebuild stamp => d.rebuild stamp

/-- The draft after some steps, the first one first. -/
def after (d : Draft) (steps : List Step) : Draft := steps.foldl apply d

/-- What a step turns the header `k` into, from what it was before.  Of the values that a list gives
to the header the last one counts where they come over earlier ones, and the first one where they do
not; then a header that is there stays as it is, even if it is null. -/
def Step.effect (k : String) (before : Option Value) : Step → Option Value
  | .set key value => if key = k then some value else before
  | .remove key => if key = k then none else before
  | .copy headers | .copyWith headers true => (Dictionary.valuesOf k headers).getLast?.or before
  | .copyIfAbsent headers | .copyWith headers false =>
    before.or (Dictionary.valuesOf k headers).head?
  | .rebuild _ => before

variable {d : Draft}

/-- A draft that is built and taken up again is the same draft. -/
@[simp] theorem rebuild_eq (d : Draft) (stamp : Stamp) : d.rebuild stamp = d := by
  rw [rebuild, build]
  cases d.payload.isNull <;> rfl

theorem get?_copy (d : Draft) (l : List (String × Value)) (k : String) :
    (d.copy l).headers.get? k = (Dictionary.valuesOf k l).getLast?.or (d.headers.get? k) := by
  rw [← Dictionary.find?_reverse_eq_getLast?_valuesOf]
  exact Dictionary.get?_insertAll_eq_find?_reverse _ _ _

theorem get?_copyIfAbsent (d : Draft) (l : List (String × Value)) (k : String) :
    (d.copyIfAbsent l).headers.get? k = (d.headers.get? k).or (Dictionary.valuesOf k l).head? := by
  rw [← Dictionary.find?_eq_head?_valuesOf]
  exact Dictionary.get?_insertAllIfAbsent _ _ _

/-- What a step does to a header depends on nothing but this header. -/
theorem get?_apply (d : Draft) (step : Step) (k : String) :
    (d.apply step).headers.get? k = step.effect k (d.headers.get? k) := by
  cases step with
  | set key value => exact Dictionary.get?_insert _ _ _ _
  | remove key => exact Dictionary.get?_erase _ _ _
  | copy headers => exact d.get?_copy headers k
  | copyIfAbsent headers => exact d.get?_copyIfAbsent headers k
  | copyWith headers overwrite =>
    cases overwrite with
    | true => exact d.get?_copy headers k
    | false => exact d.get?_copyIfAbsent headers k
  | rebuild stamp => rw [apply, rebuild_eq, Step.effect]

@[simp] theorem payload_apply (d : Draft) (step : Step) : (d.apply step).payload = d.payload := by
  cases step with
  | set | remove | copy | copyIfAbsent => rfl
  | copyWith headers overwrite => cases overwrite <;> rfl
  | rebuild stamp => rw [apply, rebuild_eq]

/-! ## All steps -/

theorem get?_after (d : Draft) (steps : List Step) (k : String) :
    (d.after steps).headers.get? k = steps.foldl (Step.effect k) (d.headers.get? k) := by
  induction steps generalizing d with
  | nil => rfl
  | cons step steps ih =>
    show ((d.apply step).after steps).headers.get? k = _
    rw [ih, get?_apply, List.foldl_cons]

theorem payload_after (d : Draft) (steps : List Step) : (d.after steps).payload = d.payload := by
  induction steps generalizing d with
  | nil => rfl
  | cons step steps ih => exact (ih (d.apply step)).trans (d.payload_apply step)

/-- Whatever steps a draft has gone through, its payload is what it was, and it becomes a message
unless that is null.  Then each header of the message is what the steps, one after the other, have
turned it into. -/
theorem build_after_steps (d : Draft) (steps : List Step) (stamp : Stamp) :
    (d.after steps).payload = d.payload ∧
    ((d.after steps).build stamp = .error .nullPayload ↔ d.payload = .null) ∧
    (d.payload ≠ .null → ∃ m, (d.after steps).build stamp = .ok m ∧ m.payload = d.payload ∧
      ∀ k, m.header? k = steps.foldl (Step.effect k) (d.headers.get? k)) := by
  have hpayload := d.payload_after steps
  refine ⟨hpayload, ?_, fun hnull ↦ ?_⟩
  · rw [← Value.isNull_eq_true_iff, ← hpayload, build]
    cases (d.after steps).payload.isNull <;> simp
  · have hnull : (d.after steps).payload.isNull = false := by
      rwa [hpayload, Bool.eq_false_iff, Ne, Value.isNull_eq_true_iff]
    refine ⟨_, build_of_isNull_eq_false hnull stamp, hpayload, d.get?_after steps⟩

/-- A header that was removed comes back with the first value that is copied where it is missing; a
null that was copied over it is not missing. -/
example :
    let steps : List Step := [.set "region" (.string "north"), .remove "region",
      .copyIfAbsent [("region", .string "south"), ("region", .string "west")],
      .copy [("tenant", .string "acme"), ("tenant", .null)],
      .copyWith [("tenant", .string "other")] false]
    steps.foldl (Step.effect "region") none = some (.string "south") ∧
      steps.foldl (Step.effect "tenant") none = some .null := ⟨rfl, rfl⟩

end Draft

end Messaging
