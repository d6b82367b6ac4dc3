import Messaging.Proofs.Binder.Faults
import Messaging.Proofs.Binder.RoundTrip

/-!
# What a handler is shown of a message

A message that is bound gives each slot one argument: the payload, a header, all headers or all that
are texts, or the message itself.  A header that is null counts as missing where it is bound on its
own; it is kept among all headers, and it does not occur among the texts.

There are only two things that a message can lack.  One is the payload, where a slot asks for it,
and the other is a header that is required.  The first slot for which something is lacking decides
what is reported.  Arguments that were bound always fit their slots again.
-/

namespace Messaging

theorem Message.bound?_eq_none_iff {m : Message} {key : String} :
    m.bound? key = none ↔ ∀ v, m.header? key = some v → v.isNull = true := by
  simp [bound?, Option.filter_eq_none_iff]

/-- The texts among the headers are told by their keys. -/
theorem Dictionary.eq_stringValues_iff {headers : Headers} {texts : Properties} :
    texts = headers.stringValues ↔
      ∀ k text, texts.get? k = some text ↔ headers.get? k = some (.string text) := by
  have hvalues : ∀ k text, headers.stringValues.get? k = some text ↔
      headers.get? k = some (.string text) := by
    intro k text
    rw [get?_stringValues, Option.bind_eq_some_iff]
    simp only [Value.string?_eq_some_iff, exists_eq_right]
  constructor
  · rintro rfl
    exact hvalues
  · exact fun h ↦ ext_get? fun k ↦ Option.ext fun text ↦ (h k text).trans (hvalues k text).symm

namespace Slot

/-- What the slot is given of the message. -/
inductive Shows (m : Message) : Slot → Argument → Prop
  /-- The payload, if there is one. -/
  | payload (h : m.payload.isNull = false) : Shows m payload (.payload m.payload)
  /-- A header that is there and not null, whether or not it is required. -/
  | present {key : String} {required : Bool} {v : Value} (h : m.header? key = some v)
      (hv : v.isNull = false) : Shows m (header key required) (.header (some v))
  /-- Nothing, for a header that is missing or null and need not be there. -/
  | absent {key : String} (h : ∀ v, m.header? key = some v → v.isNull = true) :
      Shows m (header key false) (.header none)
  /-- All headers. -/
  | headers : Shows m (headers false) (.headers m.headers)
  /-- All headers that are texts, and no others. -/
  | properties {texts : Properties}
      (h : ∀ k text, texts.get? k = some text ↔ m.header? k = some (.string text)) :
      Shows m (headers true) (.properties texts)
  /-- The message itself. -/
  | envelope : Shows m envelope (.message m)

/-- What the slot would need of the message and does not get. -/
inductive Lacks (m : Message) : Slot → BindingError → Prop
  /-- The payload is null. -/
  | payload (h : m.payload.isNull = true) : Lacks m payload .missingPayload
  /-- A header that is required is missing or null. -/
  | header {key : String} (h : ∀ v, m.header? key = some v → v.isNull = true) :
      Lacks m (header key true) (.missingHeader key)

variable {m : Message} {slot : Slot} {slots : List Slot} {a : Argument} {args : List Argument}
  {e : BindingError}

/-! ## Single slots -/

theorem argument_eq_error_iff_lacks : slot.argument m = .error e ↔ slot.Lacks m e := by
  rw [argument_eq_error_iff]
  constructor
  · rintro (⟨rfl, hnull, rfl⟩ | ⟨key, rfl, hbound, rfl⟩)
    · exact .payload hnull
    · exact .header (Message.bound?_eq_none_iff.mp hbound)
  · intro h
    cases h with
    | payload hnull => exact .inl ⟨rfl, hnull, rfl⟩
    | header h => exact .inr ⟨_, rfl, Message.bound?_eq_none_iff.mpr h, rfl⟩

theorem Shows.argument_eq (h : slot.Shows m a) : slot.argument m = .ok a := by
  cases h with
  | payload hnull => simp [argument, hnull]
  | present h hv => simp [argument, Message.bound?_eq_some_iff.mpr ⟨h, hv⟩]
  | absent h => simp [argument, Message.bound?_eq_none_iff.mpr h]
  | headers => rfl
  | properties h =>
    rw [Dictionary.eq_stringValues_iff.mpr h]
    rfl
  | envelope => rfl

/-- A slot is given something, or it lacks something. -/
theorem shows_or_lacks (m : Message) (slot : Slot) :
    (∃ a, slot.Shows m a) ∨ ∃ e, slot.Lacks m e := by
  cases slot with
  | payload =>
    cases hnull : m.payload.isNull with
    | true => exact .inr ⟨_, .payload hnull⟩
    | false => exact .inl ⟨_, .payload hnull⟩
  | envelope => exact .inl ⟨_, .envelope⟩
  | header key required =>
    cases hbound : m.bound? key with
    | some v =>
      obtain ⟨h, hv⟩ := Message.bound?_eq_some_iff.mp hbound
      exact .inl ⟨_, .present h hv⟩
    | none =>
      have h := Message.bound?_eq_none_iff.mp hbound
      cases required with
      | true => exact .inr ⟨_, .header h⟩
      | false => exact .inl ⟨_, .absent h⟩
  | headers strings =>
    cases strings with
    | true => exact .inl ⟨_, .properties (Dictionary.eq_stringValues_iff.mp rfl)⟩
    | false => exact .inl ⟨_, .headers⟩

/-- The argument of a slot is what the slot is given. -/
theorem argument_eq_ok_iff : slot.argument m = .ok a ↔ slot.Shows m a := by
  refine ⟨fun h ↦ ?_, Shows.argument_eq⟩
  rcases shows_or_lacks m slot with ⟨a', hshows⟩ | ⟨e, hlacks⟩
  · obtain rfl := Except.ok.inj (h.symm.trans hshows.argument_eq)
    exact hshows
  · cases h.symm.trans (argument_eq_error_iff_lacks.mpr hlacks)

/-! ## All slots -/

/-- The arguments of slots are what the slots are given, one by one. -/
theorem arguments_eq_ok_iff : arguments m slots = .ok args ↔ List.Forall₂ (Shows m) slots args := by
  induction slots generalizing args with
  | nil =>
    rw [List.forall₂_nil_left_iff, arguments, Except.ok.injEq]
    exact eq_comm
  | cons slot slots ih =>
    rw [arguments_cons_eq_ok_iff, List.forall₂_cons_left_iff]
    simp only [argument_eq_ok_iff, ih]

/-- Binding fails with what the first slot lacks that lacks something. -/
theorem arguments_eq_error_iff :
    arguments m slots = .error e ↔ FirstFault (fun _ slot ↦ slot.Lacks m) slots e := by
  induction slots with
  | nil => exact ⟨nofun, fun h ↦ (not_firstFault_nil h).elim⟩
  | cons slot slots ih =>
    rw [firstFault_cons_iff, ← ih, arguments]
    simp only [← argument_eq_error_iff_lacks]
    cases slot.argument m with
    | error e' => simp
    | ok a =>
      cases arguments m slots with
      | error e' => simp
      | ok as => simp

/-- Every slot is given something if the payload and all headers are there that slots ask for. -/
theorem exists_arguments_iff_present :
    (∃ args, arguments m slots = .ok args) ↔
      (.payload ∈ slots → m.payload.isNull = false) ∧
        ∀ key, .header key true ∈ slots → ∃ v, m.header? key = some v ∧ v.isNull = false := by
  simp only [exists_arguments_iff, argument_eq_ok_iff]
  constructor
  · intro h
    refine ⟨fun hmem ↦ ?_, fun key hmem ↦ ?_⟩
    · obtain ⟨a, hshows⟩ := h _ hmem
      cases hshows with
      | payload hnull => exact hnull
    · obtain ⟨a, hshows⟩ := h _ hmem
      cases hshows with
      | present h hv => exact ⟨_, h, hv⟩
  · rintro ⟨hpayload, hheader⟩ slot hmem
    refine (shows_or_lacks m slot).resolve_right ?_
    rintro ⟨e, hlacks⟩
    cases hlacks with
    | payload hnull => cases hnull.symm.trans (hpayload hmem)
    | @header key h =>
      obtain ⟨v, hv, hnull⟩ := hheader key hmem
      cases (h v hv).symm.trans hnull

end Slot

namespace Binder

variable {s : Signature} {b : Binder}

/-- A message can be bound if and only if its payload is not null, as far as there is a slot for it,
and every header that is required is there and not null.  If it cannot be bound, then the reason is
what the first slot lacks that lacks something, and if it can, then each slot is given what it shows
of the message, and nothing else.  The arguments fit their slots: if they make no message, then this
is because there is nothing for the payload. -/
theorem arguments_show_message (hb : ofSignature s = .ok b) (m : Message) :
    ((∃ args, b.arguments m = .ok args) ↔
      (b.payloadSlot = none ∨ m.payload.isNull = false) ∧
        ∀ key, .header key true ∈ b.slots → ∃ v, m.header? key = some v ∧ v.isNull = false) ∧
    (∀ e, b.arguments m = .error e ↔
      FirstFault (fun _ slot ↦ Slot.Lacks m slot) b.slots e) ∧
    (∀ args, b.arguments m = .ok args ↔ List.Forall₂ (Slot.Shows m) b.slots args) ∧
    ∀ args supplied stamp e, b.arguments m = .ok args →
      b.message args supplied stamp = .error e → e = .missingPayloadForOutbound := by
  refine ⟨?_, fun e ↦ Slot.arguments_eq_error_iff, fun args ↦ Slot.arguments_eq_ok_iff, ?_⟩
  · have hpayload : (.payload ∈ b.slots → m.payload.isNull = false) ↔
        b.payloadSlot = none ∨ m.payload.isNull = false := by
      rw [(arranged_of_ofSignature hb).payload_mem_iff, imp_iff_not_or,
        Option.not_isSome_iff_eq_none]
    rw [← hpayload]
    exact Slot.exists_arguments_iff_present
  · intro args supplied stamp e hargs he
    obtain ⟨g, hfinish, -⟩ := message_eq_finish hargs supplied stamp
    exact Gathered.eq_of_finish_eq_error (hfinish.symm.trans he)

/-- A region that is null is shown as missing, since it is optional, and does not occur among the
texts.  With a tenant that is null the message cannot be bound, and neither the payload, which is
null as well, nor any later slot matters then. -/
theorem arguments_show_message_of_null_headers :
    let s : Signature := ⟨"ship", [⟨some "region", .value, [.header none false]⟩,
      ⟨some "tenant", .value, [.header none true]⟩, .unnamed .value, .unnamed .properties]⟩
    let m : Message := ⟨Uuid.issued 0, Timestamp.epoch, .string "order-42", Dictionary.ofList
      [("region", .null), ("size", .int 3), ("tenant", .string "acme")]⟩
    let lacking : Message := ⟨Uuid.issued 1, Timestamp.epoch, .null,
      Dictionary.ofList [("region", .string "north"), ("tenant", .null)]⟩
    ∃ b, ofSignature s = .ok b ∧
      b.arguments m = .ok [.header none, .header (some (.string "acme")),
        .payload (.string "order-42"),
        .properties (Dictionary.ofList [("tenant", "acme")])] ∧
      b.arguments lacking = .error (.missingHeader "tenant") := by
  intro s m lacking
  let b : Binder := ⟨"ship", [⟨0, .value, some "region", some ("region", false), false, false⟩,
    ⟨1, .value, some "tenant", some ("tenant", true), false, false⟩,
    ⟨2, .value, none, none, false, false⟩,
    ⟨3, .properties, none, none, false, false⟩],
    [.header "region" false, .header "tenant" true, .payload, .headers true], some 2, some 3, none⟩
  have hb : ofSignature s = .ok b := rfl
  obtain ⟨-, -, hshown, -⟩ := arguments_show_message hb m
  obtain ⟨-, hlacking, -⟩ := arguments_show_message hb lacking
  refine ⟨b, hb, (hshown _).mpr ?_, (hlacking _).mpr ?_⟩
  · have hregion : (Slot.header "region" false).Shows m (.header none) :=
      .absent fun v hv ↦ by
        cases hv
        rfl
    have htexts : (Slot.headers true).Shows m
        (.properties (Dictionary.ofList [("tenant", "acme")])) :=
      .properties (Dictionary.eq_stringValues_iff.mp rfl)
    exact .cons hregion (.cons (.present rfl rfl) (.cons (.payload rfl) (.cons htexts .nil)))
  · have htenant : (Slot.header "tenant" true).Lacks lacking (.missingHeader "tenant") :=
      .header fun v hv ↦ by
        cases hv
        rfl
    refine ⟨1, .header "tenant" true, rfl, htenant, fun j slot e' hj hslot hlacks ↦ ?_⟩
    obtain rfl : j = 0 := Nat.lt_one_iff.mp hj
    cases hslot
    cases hlacks

end Binder

end Messaging
