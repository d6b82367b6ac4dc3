import Messaging.Proofs.Binder.Merging
import Messaging.Proofs.Binder.NullPayload
import Messaging.Proofs.Binder.Slots

/-!
# Binding what was built

A binder that makes a message of arguments can usually bind this message again: its payload is there
where a slot asks for it, and every header that is required is among its headers, since the argument
for it is not null.  The value of the header may be another one, though.  A message argument keeps
the headers that it has itself, and an argument for all headers comes over those that were given
before.  Both may hold null for a required header, and then the message cannot be bound.
-/

namespace Messaging

namespace Slot

variable {m : Message} {slots : List Slot} {slot : Slot} {e : BindingError}

/-! ## When a message has arguments -/

/-- A message fails at a slot for the payload, if it has none, and at a slot for a required header,
if it lacks the header or has it as null. -/
theorem argument_eq_error_iff :
    slot.argument m = .error e ↔
      slot = payload ∧ m.payload.isNull = true ∧ e = .missingPayload ∨
        ∃ key, slot = header key true ∧ m.bound? key = none ∧ e = .missingHeader key := by
  cases slot with
  | payload => cases hnull : m.payload.isNull <;> simp [argument, hnull, eq_comm]
  | envelope => simp [argument]
  | header key required =>
    constructor
    · intro h
      rw [argument] at h
      split at h
      · cases h
      · rename_i hbound
        cases required with
        | false => cases h
        | true =>
          cases h
          exact .inr ⟨key, rfl, hbound, rfl⟩
    · rintro (⟨h, -⟩ | ⟨key, h, hbound, rfl⟩)
      · cases h
      · cases h
        simp [argument, hbound]
  | headers strings => cases strings <;> simp [argument]

/-- A message has arguments if it has one for each slot. -/
theorem exists_arguments_iff :
    (∃ args, arguments m slots = .ok args) ↔ ∀ slot ∈ slots, ∃ a, slot.argument m = .ok a := by
  induction slots with
  | nil => simp [arguments]
  | cons slot slots ih =>
    rw [List.forall_mem_cons, ← ih]
    simp only [arguments_cons_eq_ok_iff]
    constructor
    · rintro ⟨_, a, args, ha, hargs, rfl⟩
      exact ⟨⟨a, ha⟩, args, hargs⟩
    · rintro ⟨⟨a, ha⟩, args, hargs⟩
      exact ⟨_, a, args, ha, hargs, rfl⟩

/-- If a message has no arguments, then one of the slots is at fault. -/
theorem exists_of_arguments_eq_error (h : arguments m slots = .error e) :
    ∃ slot ∈ slots, slot.argument m = .error e := by
  induction slots with
  | nil => cases h
  | cons slot slots ih =>
    rw [arguments] at h
    split at h
    · rename_i e' he
      cases h
      exact ⟨slot, List.mem_cons_self, he⟩
    · split at h
      · rename_i e' he
        cases h
        obtain ⟨slot', hmem, hslot⟩ := ih he
        exact ⟨slot', List.mem_cons_of_mem _ hmem, hslot⟩
      · cases h

end Slot

/-! ## Messages that were built -/

namespace Binder

variable {s : Signature} {b : Binder} {args : List Argument} {supplied : Headers} {stamp : Stamp}
  {r : Message}

/-- A header that is required is always there, with the value that the arguments give to it. -/
theorem header?_of_required (h : b.message args supplied stamp = .ok r) {key : String}
    (hslot : .header key true ∈ b.slots) :
    ∃ v, b.argued? args key = some v ∧ r.header? key = some v := by
  obtain ⟨v, hv⟩ := Slot.exists_given?_of_required (message_eq_ok_iff.mp h).1 hslot
  have hsome : ∃ v, b.argued? args key = some v := by
    unfold argued?
    rw [hv]
    cases (args.filterMap Argument.message?).getLast?.bind (·.header? key) with
    | none => exact ⟨v, rfl⟩
    | some w => exact ⟨w, rfl⟩
  obtain ⟨v, hv⟩ := hsome
  refine ⟨v, hv, ?_⟩
  rw [header?_of_message h, hv]
  rfl

/-- Where there is a slot for the payload, a message that was built has one. -/
theorem isNull_payload_of_message (hb : b.Arranged) (h : b.message args supplied stamp = .ok r)
    (hslot : .payload ∈ b.slots) : r.payload.isNull = false := by
  obtain ⟨haccepts, hfinish⟩ := message_eq_ok_iff.mp h
  refine Bool.eq_false_iff.mpr fun hnull ↦ ?_
  -- The payload could only be null in a message argument, for which there is no slot.
  obtain ⟨-, -, henvelope, -⟩ := Gathered.finish_null_payload_iff.mp ⟨hfinish, hnull⟩
  have hlast : (args.filterMap Argument.message?).getLast? = some r := by
    rw [← henvelope]
    exact Option.or_none.symm
  have hslot' := Slot.envelope_mem_of_accepts haccepts (Argument.message_mem_of_getLast? hlast)
  rw [hb.payload_mem_iff] at hslot
  rw [hb.envelope_mem_iff] at hslot'
  rcases hb.exclusive with hnone | hnone
  · rw [hnone] at hslot
    cases hslot
  · rw [hnone] at hslot'
    cases hslot'

/-- A message that was built fails at a slot exactly where this is for a required header and the
arguments give null for that header. -/
theorem argument_of_message (hb : b.Arranged) (h : b.message args supplied stamp = .ok r)
    {slot : Slot} (hmem : slot ∈ b.slots) {e : BindingError} :
    slot.argument r = .error e ↔
      ∃ key, slot = .header key true ∧ b.argued? args key = some .null ∧
        e = .missingHeader key := by
  rw [Slot.argument_eq_error_iff]
  constructor
  · rintro (⟨rfl, hnull, -⟩ | ⟨key, rfl, hbound, rfl⟩)
    · rw [isNull_payload_of_message hb h hmem] at hnull
      cases hnull
    · obtain ⟨v, hv, hr⟩ := header?_of_required h hmem
      refine ⟨key, rfl, ?_, rfl⟩
      rw [hv, Option.some.injEq, ← Value.isNull_eq_true_iff]
      by_contra hne
      cases hbound.symm.trans (Message.bound?_eq_some_iff.mpr ⟨hr, Bool.not_eq_true _ ▸ hne⟩)
  · rintro ⟨key, rfl, hnull, rfl⟩
    refine .inr ⟨key, rfl, ?_, rfl⟩
    obtain ⟨v, hv, hr⟩ := header?_of_required h hmem
    obtain rfl := Option.some.inj (hnull.symm.trans hv)
    rw [Message.bound?, hr]
    rfl

/-- Where arguments give null for a header, the message argument or an argument for all headers
does. -/
theorem null_of_argued? {key : String} (h : b.argued? args key = some .null) :
    (∃ m, .message m ∈ args ∧ m.header? key = some .null) ∨
      ∃ headers, .headers headers ∈ args ∧ headers.get? key = some .null := by
  unfold argued? at h
  rcases Option.or_eq_some_iff.mp h with h | ⟨-, h⟩
  · obtain ⟨m, hlast, hm⟩ := Option.bind_eq_some_iff.mp h
    exact .inl ⟨m, Argument.message_mem_of_getLast? hlast, hm⟩
  · exact .inr (Slot.null_of_given? h)

/-- A message that a binder builds has every header that the binder requires, with the value that
the arguments give to it; and the binder can bind the message if and only if none of these values is
null.  The only fault is such a header, and the null comes from a message argument or an argument
for all headers. -/
theorem message_bindable_iff (hb : ofSignature s = .ok b)
    (h : b.message args supplied stamp = .ok r) :
    (∀ key, .header key true ∈ b.slots →
      ∃ v, b.argued? args key = some v ∧ r.header? key = some v) ∧
    ((∃ args', b.arguments r = .ok args') ↔
      ∀ key, .header key true ∈ b.slots → b.argued? args key ≠ some .null) ∧
    (∀ e, b.arguments r = .error e → ∃ key, .header key true ∈ b.slots ∧
      b.argued? args key = some .null ∧ e = .missingHeader key) ∧
    ∀ key, b.argued? args key = some .null →
      (∃ m, .message m ∈ args ∧ m.header? key = some .null) ∨
        ∃ headers, .headers headers ∈ args ∧ headers.get? key = some .null := by
  have harr := arranged_of_ofSignature hb
  refine ⟨fun key hslot ↦ header?_of_required h hslot, ?_, fun e he ↦ ?_,
    fun key hnull ↦ null_of_argued? hnull⟩
  · unfold arguments
    rw [Slot.exists_arguments_iff]
    constructor
    · intro hall key hslot hnull
      obtain ⟨a, ha⟩ := hall _ hslot
      cases ha.symm.trans ((argument_of_message harr h hslot).mpr ⟨key, rfl, hnull, rfl⟩)
    · intro hall slot hslot
      cases hargument : slot.argument r with
      | ok a => exact ⟨a, rfl⟩
      | error e =>
        obtain ⟨key, rfl, hnull, -⟩ := (argument_of_message harr h hslot).mp hargument
        exact (hall key hslot hnull).elim
  · obtain ⟨slot, hslot, hargument⟩ := Slot.exists_of_arguments_eq_error he
    obtain ⟨key, rfl, hnull, rfl⟩ := (argument_of_message harr h hslot).mp hargument
    exact ⟨key, hslot, hnull, rfl⟩

/-- All headers come between two required ones, both of which are null among them: the first one is
lost, the second one is not. -/
theorem message_bindable_iff_of_nulls :
    let s : Signature := ⟨"ship", [⟨some "tenant", .value, [.header none true]⟩,
      ⟨none, .map, [.headers]⟩, ⟨some "region", .value, [.header none true]⟩, .unnamed .value]⟩
    let slots : List Slot :=
      [.header "tenant" true, .headers false, .header "region" true, .payload]
    let args : List Argument := [.header (some (.string "acme")),
      .headers (Dictionary.ofList [("region", .null), ("tenant", .null)]),
      .header (some (.string "north")), .payload (.string "order-42")]
    let stamp : Stamp := ⟨Uuid.issued 1, Timestamp.epoch⟩
    ∃ b r, ofSignature s = .ok b ∧ b.slots = slots ∧
      b.message args Dictionary.empty stamp = .ok r ∧ r.header? "tenant" = some .null ∧
      r.header? "region" = some (.string "north") ∧ ¬∃ args', b.arguments r = .ok args' := by
  intro s slots args stamp
  let b : Binder := ⟨"ship", [⟨0, .value, some "tenant", some ("tenant", true), false, false⟩,
    ⟨1, .map, none, none, true, false⟩,
    ⟨2, .value, some "region", some ("region", true), false, false⟩,
    ⟨3, .value, none, none, false, false⟩], slots, some 3, some 1, none⟩
  let r : Message := ⟨stamp.id, stamp.time, .string "order-42",
    Dictionary.ofList [("region", .string "north"), ("tenant", .null)]⟩
  have hb : ofSignature s = .ok b := rfl
  have hr : b.message args Dictionary.empty stamp = .ok r := rfl
  obtain ⟨hheaders, hbindable, -, -⟩ := message_bindable_iff hb hr
  have htenant : .header "tenant" true ∈ b.slots := List.mem_cons_self
  refine ⟨b, r, hb, rfl, hr, rfl, rfl, fun h ↦ hbindable.mp h "tenant" htenant ?_⟩
  obtain ⟨v, hv, hheader⟩ := hheaders "tenant" htenant
  obtain rfl : .null = v := Option.some.inj hheader
  exact hv

/-- A message argument keeps a header that is null, also one that is required: the binder cannot
bind the message that it builds. -/
theorem message_not_bindable :
    ¬∀ (s : Signature) (b : Binder) (args : List Argument) (supplied : Headers) (stamp : Stamp)
      (r : Message), ofSignature s = .ok b → b.message args supplied stamp = .ok r →
      (∃ args', b.arguments r = .ok args') ∧
        ∀ key, .header key true ∈ b.slots → ∃ v, r.header? key = some v ∧ v.isNull = false := by
  intro h
  let m : Message :=
    ⟨Uuid.issued 0, Timestamp.epoch, .string "order-42", Dictionary.ofList [("tenant", .null)]⟩
  let stamp : Stamp := ⟨Uuid.issued 1, Timestamp.epoch⟩
  obtain ⟨⟨_, hargs⟩, -⟩ := h
    ⟨"forward", [⟨some "tenant", .value, [.header none true]⟩, ⟨some "message", .message, []⟩]⟩ _
    [.header (some (.string "acme")), .message m] Dictionary.empty stamp
    ⟨stamp.id, stamp.time, m.payload, m.headers⟩ rfl rfl
  cases hargs

end Binder

end Messaging
