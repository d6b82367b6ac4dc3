import Messaging.Proofs.Binder.Showing

/-!
# What a handler can tell apart

A handler that does not take the message itself gets what its parameters declare, and nothing else.
Two messages that agree on what is declared lead to the same arguments, or to the same error,
whatever their identities, their times and their other headers are.  Conversely, if two messages
lead to the same arguments, then they agree on everything that is declared, up to the difference
between a missing header and one that is null.

When two values count as the same is left open, as long as no other value counts as null does.  They
may have to be equal, or they may be compared as the program compares them, which does not tell the
two floating-point zeros apart.
-/

namespace Messaging

/-! ## The same arguments -/

/-- Two attempts end alike: with the same error, or with results that are related. -/
inductive EndAlike {ε α : Type} (R : α → α → Prop) : Except ε α → Except ε α → Prop
  /-- Both fail with one error. -/
  | error (e : ε) : EndAlike R (.error e) (.error e)
  /-- Both succeed. -/
  | ok {a a' : α} (h : R a a') : EndAlike R (.ok a) (.ok a')

theorem EndAlike.eq {ε α : Type} {R : α → α → Prop} (hR : ∀ a a', R a a' → a = a')
    {x y : Except ε α} (h : EndAlike R x y) : x = y := by
  cases h with
  | error e => rfl
  | ok h => rw [hR _ _ h]

/-- No other value counts as the same as null. -/
def KeepsNull (same : Value → Value → Prop) : Prop :=
  ∀ v w, same v w → v.isNull = w.isNull

theorem keepsNull_eq : KeepsNull Eq := by
  rintro v _ rfl
  rfl

/-- The comparison of the program tells null from all other values. -/
theorem keepsNull_beq : KeepsNull fun v w ↦ (v == w) = true := by
  intro v w h
  cases v with
  | null =>
    cases w with
    | null => rfl
    | bool | int | float | string | array | object => cases h
  | bool | int | float | string | array | object =>
    cases w with
    | null => cases h
    | bool | int | float | string | array | object => rfl

/-- Two arguments of one kind have the same content, where it depends on `same` which values count
as the same. -/
inductive Argument.Alike (same : Value → Value → Prop) : Argument → Argument → Prop
  /-- Payloads. -/
  | payload {v w : Value} (h : same v w) : Alike same (.payload v) (.payload w)
  /-- Headers, both present or both absent. -/
  | header {v w : Option Value} (h : Option.Rel same v w) : Alike same (.header v) (.header w)
  /-- Header sets with the same keys. -/
  | headers {d e : Headers} (h : Dictionary.Alike same d e) : Alike same (.headers d) (.headers e)
  /-- Equal texts. -/
  | properties {p : Properties} : Alike same (.properties p) (.properties p)
  /-- Messages that agree in every part. -/
  | message {m n : Message} (hid : m.id = n.id) (htime : m.timestamp = n.timestamp)
      (hpayload : same m.payload n.payload) (hheaders : Dictionary.Alike same m.headers n.headers) :
      Alike same (.message m) (.message n)

theorem Argument.alike_refl {same : Value → Value → Prop} (hsame : ∀ v, same v v) (a : Argument) :
    a.Alike same a := by
  cases a with
  | payload v => exact .payload (hsame v)
  | header v => exact .header (rel_refl hsame v)
  | headers d => exact .headers fun k ↦ rel_refl hsame (d.get? k)
  | properties p => exact .properties
  | message m => exact .message rfl rfl (hsame _) fun k ↦ rel_refl hsame (m.headers.get? k)

theorem Argument.Alike.eq {a a' : Argument} (h : a.Alike Eq a') : a = a' := by
  cases h with
  | payload h => rw [h]
  | header h => rw [eq_of_rel h]
  | headers h => rw [h.eq]
  | properties => rfl
  | @message m n hid htime hpayload hheaders =>
    cases m
    cases n
    cases hid
    cases htime
    cases hpayload
    cases hheaders.eq
    rfl

/-! ## Messages that agree on what is declared -/

/-- The two messages agree on what the binder has slots for; of its slots, the one for the message
itself is left aside here. -/
structure Binder.Alike (same : Value → Value → Prop) (b : Binder) (m₁ m₂ : Message) : Prop where
  /-- If there is a slot for the payload, the payloads are the same. -/
  payload : b.payloadSlot.isSome → same m₁.payload m₂.payload
  /-- A header with a slot of its own has the same value in both, where null counts as missing. -/
  header : ∀ key required, .header key required ∈ b.slots →
    Option.Rel same (m₁.bound? key) (m₂.bound? key)
  /-- If there is a slot for all headers, the headers are the same. -/
  headers : .headers false ∈ b.slots → Dictionary.Alike same m₁.headers m₂.headers
  /-- If there is a slot for all texts, the headers that are texts are equal. -/
  texts : .headers true ∈ b.slots → m₁.headers.stringValues = m₂.headers.stringValues

namespace Slot

variable {same : Value → Value → Prop} {m₁ m₂ : Message} {slots : List Slot}

/-- Slots that end alike one by one end alike together. -/
theorem arguments_endAlike
    (h : ∀ slot ∈ slots, EndAlike (Argument.Alike same) (slot.argument m₁) (slot.argument m₂)) :
    EndAlike (List.Forall₂ (Argument.Alike same)) (arguments m₁ slots) (arguments m₂ slots) := by
  induction slots with
  | nil => exact .ok .nil
  | cons slot slots ih =>
    obtain ⟨hslot, hslots⟩ := List.forall_mem_cons.mp h
    have hrest := ih hslots
    rw [arguments, arguments]
    generalize slot.argument m₁ = x₁, slot.argument m₂ = x₂ at hslot ⊢
    generalize arguments m₁ slots = y₁, arguments m₂ slots = y₂ at hrest ⊢
    cases hslot with
    | error e => exact .error e
    | ok ha =>
      cases hrest with
      | error e => exact .error e
      | ok has => exact .ok (.cons ha has)

/-- Where the arguments are alike, each slot is given the like of both messages. -/
theorem alike_of_arguments {args₁ args₂ : List Argument} (h₁ : List.Forall₂ (Shows m₁) slots args₁)
    (h₂ : List.Forall₂ (Shows m₂) slots args₂)
    (halike : List.Forall₂ (Argument.Alike same) args₁ args₂) {slot : Slot} (hmem : slot ∈ slots) :
    ∃ a₁ a₂, slot.Shows m₁ a₁ ∧ slot.Shows m₂ a₂ ∧ a₁.Alike same a₂ := by
  induction h₁ generalizing args₂ with
  | nil => cases hmem
  | cons hfirst₁ _ ih =>
    cases h₂ with
    | cons hfirst₂ hrest₂ =>
      cases halike with
      | cons hfirst hrest =>
        rcases List.mem_cons.mp hmem with rfl | hmem
        · exact ⟨_, _, hfirst₁, hfirst₂, hfirst⟩
        · exact ih hrest₂ hrest hmem

/-- A header that was shown is the one that is bound. -/
theorem Shows.bound?_eq {m : Message} {key : String} {required : Bool} {value : Option Value}
    (h : (header key required).Shows m (.header value)) : m.bound? key = value := by
  cases h with
  | present h hv => exact Message.bound?_eq_some_iff.mpr ⟨h, hv⟩
  | absent h => exact Message.bound?_eq_none_iff.mpr h

end Slot

namespace Binder

variable {same : Value → Value → Prop} {s : Signature} {b : Binder} {m₁ m₂ : Message}

/-- Messages that agree on what a binder declares lead each of its slots to the same end. -/
theorem Alike.argument (h : b.Alike same m₁ m₂) (hb : b.Arranged) (he : b.envelopeSlot = none)
    (hsame : KeepsNull same) {slot : Slot} (hmem : slot ∈ b.slots) :
    EndAlike (Argument.Alike same) (slot.argument m₁) (slot.argument m₂) := by
  cases slot with
  | payload =>
    have hpayload := h.payload (hb.payload_mem_iff.mp hmem)
    rw [Slot.argument, Slot.argument, ← hsame _ _ hpayload]
    cases m₁.payload.isNull with
    | true => exact .error _
    | false => exact .ok (.payload hpayload)
  | envelope =>
    rw [hb.envelope_mem_iff, he] at hmem
    cases hmem
  | header key required =>
    have hheader := h.header key required hmem
    rw [Slot.argument, Slot.argument]
    generalize m₁.bound? key = v₁, m₂.bound? key = v₂ at hheader
    cases hheader with
    | some hvalue => exact .ok (.header (.some hvalue))
    | none =>
      cases required with
      | true => exact .error _
      | false => exact .ok (.header .none)
  | headers strings =>
    cases strings with
    | true =>
      rw [Slot.argument, Slot.argument, h.texts hmem]
      exact .ok .properties
    | false => exact .ok (.headers (h.headers hmem))

/-- Messages with the same arguments agree on what the binder declares. -/
theorem alike_of_arguments (hb : b.Arranged) {args₁ args₂ : List Argument}
    (h₁ : b.arguments m₁ = .ok args₁) (h₂ : b.arguments m₂ = .ok args₂)
    (halike : List.Forall₂ (Argument.Alike same) args₁ args₂) : b.Alike same m₁ m₂ := by
  have hshown : ∀ slot ∈ b.slots,
      ∃ a₁ a₂, slot.Shows m₁ a₁ ∧ slot.Shows m₂ a₂ ∧ a₁.Alike same a₂ := fun _ ↦
    Slot.alike_of_arguments (Slot.arguments_eq_ok_iff.mp h₁) (Slot.arguments_eq_ok_iff.mp h₂) halike
  constructor
  · intro hslot
    obtain ⟨a₁, a₂, ha₁, ha₂, ha⟩ := hshown _ (hb.payload_mem_iff.mpr hslot)
    cases ha₁
    cases ha₂
    cases ha with
    | payload h => exact h
  · intro key required hslot
    obtain ⟨a₁, a₂, ha₁, ha₂, ha⟩ := hshown _ hslot
    cases ha with
    | header h => rwa [ha₁.bound?_eq, ha₂.bound?_eq]
    | payload | headers | properties | message => cases ha₁
  · intro hslot
    obtain ⟨a₁, a₂, ha₁, ha₂, ha⟩ := hshown _ hslot
    cases ha₁
    cases ha₂
    cases ha with
    | headers h => exact h
  · intro hslot
    obtain ⟨a₁, a₂, ha₁, ha₂, ha⟩ := hshown _ hslot
    cases ha with
    | properties =>
      cases ha₁ with
      | properties h₁ =>
        cases ha₂ with
        | properties h₂ =>
          rw [← Dictionary.eq_stringValues_iff.mpr h₁]
          exact Dictionary.eq_stringValues_iff.mpr h₂
    | payload | header | headers | message => cases ha₁

/-- A handler without a parameter for the message itself sees exactly what it declared.  Messages
that agree on that lead to the same arguments or to the same error; and if two messages both have
arguments, then these are the same only if the messages agree on what is declared.  This holds for
every notion of values being the same that keeps null apart; in particular, messages that agree up
to equality lead to equal ends, and equal arguments come only from messages that agree up to
equality. -/
theorem arguments_alike_iff (hb : ofSignature s = .ok b) (he : b.envelopeSlot = none)
    (m₁ m₂ : Message) :
    (∀ same, KeepsNull same →
      (b.Alike same m₁ m₂ →
        EndAlike (List.Forall₂ (Argument.Alike same)) (b.arguments m₁) (b.arguments m₂)) ∧
      ∀ args₁ args₂, b.arguments m₁ = .ok args₁ → b.arguments m₂ = .ok args₂ →
        (List.Forall₂ (Argument.Alike same) args₁ args₂ ↔ b.Alike same m₁ m₂)) ∧
    (b.Alike Eq m₁ m₂ → b.arguments m₁ = b.arguments m₂) ∧
    ∀ args, b.arguments m₁ = .ok args → b.arguments m₂ = .ok args → b.Alike Eq m₁ m₂ := by
  have harr := arranged_of_ofSignature hb
  have hends : ∀ same, KeepsNull same → b.Alike same m₁ m₂ →
      EndAlike (List.Forall₂ (Argument.Alike same)) (b.arguments m₁) (b.arguments m₂) :=
    fun same hsame h ↦ Slot.arguments_endAlike fun slot hmem ↦ h.argument harr he hsame hmem
  refine ⟨fun same hsame ↦ ⟨hends same hsame, fun args₁ args₂ h₁ h₂ ↦ ?_⟩, fun h ↦ ?_, ?_⟩
  · refine ⟨alike_of_arguments harr h₁ h₂, fun h ↦ ?_⟩
    have hend := hends same hsame h
    rw [h₁, h₂] at hend
    cases hend with
    | ok h => exact h
  · refine (hends Eq keepsNull_eq h).eq fun args₁ args₂ hargs ↦ ?_
    exact List.forall₂_eq_eq_eq ▸ hargs.imp fun _ _ ↦ Argument.Alike.eq
  · intro args h₁ h₂
    exact alike_of_arguments harr h₁ h₂ (List.forall₂_same.mpr fun a _ ↦ a.alike_refl fun _ ↦ rfl)

/-- One payload is a negative zero, and one region is missing where the other is null.  The program
does not tell these apart; and it does not matter here that the identities differ, and so does the
size, which is no text. -/
theorem arguments_alike_iff_of_zeros :
    let s : Signature := ⟨"ship", [⟨some "region", .value, [.header none false]⟩,
      .unnamed .properties, .unnamed .value]⟩
    let zero : Value := .float ⟨0, by decide⟩
    let negative : Value := .float ⟨0x8000000000000000, by decide⟩
    let m₁ : Message := ⟨Uuid.issued 0, Timestamp.epoch, zero, Dictionary.ofList
      [("note", .string "fragile"), ("region", .null), ("size", .int 3)]⟩
    let m₂ : Message := ⟨Uuid.issued 1, Timestamp.epoch, negative, Dictionary.ofList
      [("note", .string "fragile"), ("size", .int 4)]⟩
    let same : Value → Value → Prop := fun v w ↦ (v == w) = true
    ∃ b, ofSignature s = .ok b ∧ b.envelopeSlot = none ∧ KeepsNull same ∧ zero ≠ negative ∧
      EndAlike (List.Forall₂ (Argument.Alike same)) (b.arguments m₁) (b.arguments m₂) := by
  intro s zero negative m₁ m₂ same
  let b : Binder := ⟨"ship", [⟨0, .value, some "region", some ("region", false), false, false⟩,
    ⟨1, .properties, none, none, false, false⟩, ⟨2, .value, none, none, false, false⟩],
    [.header "region" false, .headers true, .payload], some 2, some 1, none⟩
  have hb : ofSignature s = .ok b := rfl
  have halike : b.Alike same m₁ m₂ := by
    constructor
    · exact fun _ ↦ rfl
    · intro key required hmem
      obtain ⟨rfl, rfl⟩ : key = "region" ∧ required = false := by simpa [b] using hmem
      exact .none
    · intro hmem
      simp [b] at hmem
    · exact fun _ ↦ rfl
  have hne : zero ≠ negative := fun h ↦
    absurd (congrArg Double.bits (Value.float.inj h)) (by decide)
  refine ⟨b, hb, rfl, keepsNull_beq, hne, ?_⟩
  exact ((arguments_alike_iff hb rfl m₁ m₂).1 same keepsNull_beq).1 halike

end Binder

end Messaging
