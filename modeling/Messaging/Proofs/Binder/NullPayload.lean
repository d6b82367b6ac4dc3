import Messaging.Proofs.Binder.Gathering

/-!
# Messages without a payload

A message that is built has a payload that is not null.  An outgoing message need not be built,
though: a message argument is taken as it is if there is no header to add to it, whatever its
payload.  That is the only way for an outgoing message to have a payload of null, for with any
header to add the message is built, and refused.
-/

namespace Messaging

/-- What was gathered is finished with a payload of null only if it has a message with such a
payload and there is no header. -/
theorem Gathered.finish_null_payload_iff {g : Gathered} {supplied : Headers} {stamp : Stamp}
    {m : Message} :
    (g.finish supplied stamp = .ok m ∧ m.payload.isNull = true) ↔
      g.headers.isEmpty = true ∧ supplied.isEmpty = true ∧ g.envelope = some m ∧
        m.payload.isNull = true := by
  rw [← and_assoc, ← Gathered.isEmpty_merged_iff, Gathered.finish_eq_ok_iff]
  constructor
  · rintro ⟨h, hnull⟩
    cases h with
    | same henvelope hempty => exact ⟨hempty, henvelope, hnull⟩
    | added _ _ hpresent => cases hnull.symm.trans hpresent
    | fresh _ _ hpresent => cases hnull.symm.trans hpresent
  · rintro ⟨hempty, henvelope, hnull⟩
    exact ⟨.same henvelope hempty, hnull⟩

namespace Binder

/-- An outgoing message has a payload of null if and only if it is the message argument itself, with
such a payload, and neither an argument nor anyone else gives a header: the slots accept all
arguments then, and the last message among them is taken as it is. -/
theorem message_null_payload_iff {b : Binder} {args : List Argument} {supplied : Headers}
    {stamp : Stamp} {m : Message} :
    (b.message args supplied stamp = .ok m ∧ m.payload.isNull = true) ↔
      List.Forall₂ Slot.Accepts b.slots args ∧ Slot.allGiven b.slots args = [] ∧
        supplied.isEmpty = true ∧ (args.filterMap Argument.message?).getLast? = some m ∧
        m.payload.isNull = true := by
  rw [message_eq_ok_iff, and_assoc, Gathered.finish_null_payload_iff]
  refine and_congr_right fun _ ↦ and_congr ?_ (and_congr_right fun _ ↦ and_congr_left fun _ ↦ ?_)
  · show (Dictionary.empty.insertAll _).isEmpty = true ↔ _
    rw [Dictionary.isEmpty_insertAll_iff]
    exact and_iff_right rfl
  · show (List.getLast? _).or Option.none = some m ↔ _
    rw [Option.or_none]

/-- A handler that takes a message is given one whose payload is null: the outgoing message has a
payload of null as well. -/
theorem message_with_null_payload :
    ¬∀ (s : Signature) (b : Binder) (args : List Argument) (supplied : Headers) (stamp : Stamp)
      (m : Message), ofSignature s = .ok b → b.message args supplied stamp = .ok m →
      m.payload.isNull = false := by
  intro h
  let m : Message :=
    ⟨Uuid.issued 0, Timestamp.epoch, .null, Dictionary.ofList [("trace", .string "abc")]⟩
  cases h ⟨"forward", [⟨some "message", .message, []⟩]⟩ _ [.message m] Dictionary.empty
    ⟨Uuid.issued 1, Timestamp.epoch⟩ m rfl rfl

end Binder

end Messaging
