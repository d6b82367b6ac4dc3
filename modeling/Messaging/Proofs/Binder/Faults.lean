import Messaging.Proofs.Binder.Precedence
import Messaging.Proofs.Binder.Rearranging

/-!
# Why arguments make no message

Arguments are looked at in the order of their slots, and the first one that does not fit decides
what is reported.  An argument may be of the wrong kind, it may be a payload that is null, or it may
be missing or null where a header is required.  Before that it is checked that there are as many
arguments as slots, and after it whether anything gave the message a payload.
-/

namespace Messaging

/-! ## The first fault in a list -/

section

variable {α ε : Type}

/-- The first entry of the list that is at fault has this fault.  Whether an entry is at fault may
depend on its position. -/
def FirstFault (fault : Nat → α → ε → Prop) (l : List α) (e : ε) : Prop :=
  ∃ i x, l[i]? = some x ∧ fault i x e ∧ ∀ j y e', j < i → l[j]? = some y → ¬fault j y e'

variable {fault : Nat → α → ε → Prop} {l : List α} {x : α} {e : ε}

theorem not_firstFault_nil : ¬FirstFault fault [] e := by
  rintro ⟨_, _, h, -⟩
  cases h

theorem firstFault_cons_iff :
    FirstFault fault (x :: l) e ↔
      fault 0 x e ∨ (∀ e', ¬fault 0 x e') ∧ FirstFault (fun i ↦ fault (i + 1)) l e := by
  constructor
  · rintro ⟨i, y, hy, hfault, hfirst⟩
    cases i with
    | zero =>
      cases hy
      exact .inl hfault
    | succ i =>
      refine .inr ⟨fun e' ↦ hfirst 0 x e' (Nat.succ_pos i) rfl, i, y, hy, hfault, ?_⟩
      exact fun j z e' hj hz ↦ hfirst (j + 1) z e' (Nat.succ_lt_succ hj) hz
  · rintro (hfault | ⟨hsound, i, y, hy, hfault, hfirst⟩)
    · exact ⟨0, x, rfl, hfault, fun j _ _ hj ↦ absurd hj (Nat.not_lt_zero j)⟩
    · refine ⟨i + 1, y, hy, hfault, fun j z e' hj hz ↦ ?_⟩
      cases j with
      | zero =>
        cases hz
        exact hsound e'
      | succ j => exact hfirst j z e' (Nat.lt_of_succ_lt_succ hj) hz

end

/-! ## Arguments that do not fit -/

namespace Slot

/-- An argument of this kind belongs into the slot. -/
inductive Takes : Slot → Argument → Prop
  /-- A payload. -/
  | payload {value : Value} : Takes payload (.payload value)
  /-- A header, present or absent. -/
  | header {key : String} {required : Bool} {value : Option Value} :
      Takes (header key required) (.header value)
  /-- All headers. -/
  | headers {stringsOnly : Bool} {h : Headers} : Takes (headers stringsOnly) (.headers h)
  /-- All headers that are texts, also where the slot is not only for these. -/
  | properties {stringsOnly : Bool} {p : Properties} : Takes (headers stringsOnly) (.properties p)
  /-- A message. -/
  | envelope {m : Message} : Takes envelope (.message m)

/-- The argument does not fit the slot at this position, for this reason. -/
inductive Refuses (index : Nat) : Slot → Argument → BindingError → Prop
  /-- It is of another kind. -/
  | mismatch {slot : Slot} {a : Argument} (h : ¬slot.Takes a) :
      Refuses index slot a (.argumentMismatch index slot.label a.kind)
  /-- It is a payload that is null. -/
  | null {value : Value} (h : value.isNull = true) :
      Refuses index payload (.payload value) .missingPayloadForOutbound
  /-- It is absent or null, but the header is required. -/
  | missing {key : String} {value : Option Value} (h : ∀ v, value = some v → v.isNull = true) :
      Refuses index (header key true) (.header value) (.missingHeader key)

variable {slot : Slot} {a : Argument} {index : Nat} {e : BindingError}

theorem Accepts.takes (h : slot.Accepts a) : slot.Takes a := by
  cases h with
  | payload => exact .payload
  | present => exact .header
  | absent => exact .header
  | headers => exact .headers
  | properties => exact .properties
  | envelope => exact .envelope

/-- An argument of the right kind is accepted or it is refused. -/
theorem Takes.accepts_or_refuses (h : slot.Takes a) (index : Nat) :
    slot.Accepts a ∨ ∃ e, slot.Refuses index a e := by
  cases h with
  | @payload value =>
    cases hnull : value.isNull with
    | true => exact .inr ⟨_, .null hnull⟩
    | false => exact .inl (.payload hnull)
  | @header key required value =>
    by_cases hmissing : ∀ v, value = some v → v.isNull = true
    · cases required with
      | true => exact .inr ⟨_, .missing hmissing⟩
      | false => exact .inl (.absent hmissing)
    · rw [not_forall] at hmissing
      obtain ⟨v, hv⟩ := hmissing
      obtain ⟨rfl, hnull⟩ := Classical.not_imp.mp hv
      exact .inl (.present (Bool.not_eq_true _ ▸ hnull))
  | headers => exact .inl .headers
  | properties => exact .inl .properties
  | envelope => exact .inl .envelope

theorem accepts_or_refuses (slot : Slot) (a : Argument) (index : Nat) :
    slot.Accepts a ∨ ∃ e, slot.Refuses index a e := by
  by_cases htakes : slot.Takes a
  · exact htakes.accepts_or_refuses index
  · exact .inr ⟨_, .mismatch htakes⟩

theorem Refuses.not_accepts (h : slot.Refuses index a e) : ¬slot.Accepts a := by
  cases h with
  | mismatch h => exact fun haccepts ↦ h haccepts.takes
  | null h =>
    intro haccepts
    cases haccepts with
    | payload hnull => cases h.symm.trans hnull
  | missing h =>
    intro haccepts
    cases haccepts with
    | present hnull => cases (h _ rfl).symm.trans hnull

/-- All arguments are accepted if none of them is refused. -/
theorem forall₂_accepts_iff_not_refuses {slots : List Slot} {args : List Argument}
    (hlen : args.length = slots.length) :
    List.Forall₂ Accepts slots args ↔ ∀ i (slot : Slot) a e, slots[i]? = some slot →
      args[i]? = some a → ¬slot.Refuses i a e := by
  rw [List.forall₂_iff_zip, and_iff_right hlen.symm]
  constructor
  · intro h i slot a e hslot ha hrefuses
    have hx : (slots.zip args)[i]? = some (slot, a) := List.getElem?_zip_eq_some.mpr ⟨hslot, ha⟩
    exact hrefuses.not_accepts (h (List.mem_of_getElem? hx))
  · intro h slot a hmem
    obtain ⟨i, hx⟩ := List.mem_iff_getElem?.mp hmem
    obtain ⟨hslot, ha⟩ := List.getElem?_zip_eq_some.mp hx
    refine (accepts_or_refuses slot a i).resolve_right ?_
    rintro ⟨e, hrefuses⟩
    exact h i slot a e hslot ha hrefuses

end Slot

namespace Gathered

variable {g : Gathered} {index : Nat} {slot : Slot} {a : Argument} {e : BindingError}

/-- An argument of the wrong kind is reported with the names of what was expected and what came. -/
theorem take_of_not_takes (h : ¬slot.Takes a) :
    g.take index slot a = .error (.argumentMismatch index slot.label a.kind) := by
  cases slot with
  | payload =>
    cases a with
    | payload => exact (h .payload).elim
    | header | headers | properties | message => rfl
  | header =>
    cases a with
    | header => exact (h .header).elim
    | payload | headers | properties | message => rfl
  | headers =>
    cases a with
    | headers => exact (h .headers).elim
    | properties => exact (h .properties).elim
    | payload | header | message => rfl
  | envelope =>
    cases a with
    | message => exact (h .envelope).elim
    | payload | header | headers | properties => rfl

theorem take_of_refuses (h : slot.Refuses index a e) : g.take index slot a = .error e := by
  cases h with
  | mismatch h => exact take_of_not_takes h
  | null h => simp [take, h]
  | @missing key value h =>
    have hfilter : (value.filter fun v ↦ !v.isNull) = Option.none := by
      refine Option.filter_eq_none_iff.mpr fun v hv ↦ ?_
      simp [h v hv]
    simp [take, hfilter]

/-- Taking in an argument fails with the reason for which its slot refuses it. -/
theorem take_eq_error_iff : g.take index slot a = .error e ↔ slot.Refuses index a e := by
  constructor
  · intro h
    rcases slot.accepts_or_refuses a index with haccepts | ⟨e', hrefuses⟩
    · cases h.symm.trans (take_eq_ok_iff.mpr ⟨haccepts, rfl⟩)
    · cases h.symm.trans (take_of_refuses hrefuses)
      exact hrefuses
  · exact take_of_refuses

/-- Taking in arguments fails at the first one that its slot refuses. -/
theorem takeAll_eq_error_iff {slots : List Slot} {args : List Argument} :
    g.takeAll index slots args = .error e ↔
      FirstFault (fun i x ↦ x.1.Refuses (index + i) x.2) (slots.zip args) e := by
  induction slots generalizing g index args with
  | nil => exact ⟨nofun, fun h ↦ (not_firstFault_nil h).elim⟩
  | cons slot slots ih =>
    cases args with
    | nil => exact ⟨nofun, fun h ↦ (not_firstFault_nil h).elim⟩
    | cons a args =>
      have hshift : (fun i (x : Slot × Argument) ↦ x.1.Refuses (index + (i + 1)) x.2) =
          fun i x ↦ x.1.Refuses (index + 1 + i) x.2 :=
        funext fun i ↦ by rw [Nat.add_assoc, Nat.add_comm 1]
      rw [takeAll, List.zip_cons_cons, firstFault_cons_iff, hshift, Nat.add_zero]
      cases htake : g.take index slot a with
      | error e' =>
        have hrefuses := take_eq_error_iff.mp htake
        constructor
        · intro h
          cases h
          exact .inl hrefuses
        · rintro (h | ⟨hsound, -⟩)
          · exact htake.symm.trans (take_of_refuses h)
          · exact (hsound e' hrefuses).elim
      | ok g' =>
        have haccepts := (take_eq_ok_iff.mp htake).1
        have hsound : ∀ e', ¬slot.Refuses index a e' := fun _ h ↦ h.not_accepts haccepts
        exact ih.trans ⟨fun h ↦ .inr ⟨hsound, h⟩, fun h ↦ (h.resolve_left (hsound e)).2⟩

end Gathered

/-! ## What is reported -/

namespace Binder

variable {s : Signature} {b : Binder} {args : List Argument} {supplied : Headers} {stamp : Stamp}
  {e : BindingError}

/-- What arguments give can be finished if and only if there is a slot for the payload or for the
message, as long as no message argument has a payload of null. -/
theorem Arranged.finish_eq_error_iff (hb : b.Arranged)
    (haccepts : List.Forall₂ Slot.Accepts b.slots args)
    (hmessages : ∀ m, .message m ∈ args → m.payload.isNull = false) :
    (Gathered.none.addAll b.slots args).finish supplied stamp = .error e ↔
      b.payloadSlot = none ∧ b.envelopeSlot = none ∧ e = .missingPayloadForOutbound := by
  have hfinished : ∀ {value : Value}, (∃ r, (Gathered.none.addAll b.slots args).finish supplied
      stamp = .ok r ∧ r.payload = value) →
      (Gathered.none.addAll b.slots args).finish supplied stamp ≠ .error e := by
    rintro value ⟨r, hr, -⟩ he
    cases hr.symm.trans he
  cases he : b.envelopeSlot with
  | some i =>
    obtain ⟨m, hm, hgathered⟩ := hb.gathered_envelope haccepts he
    have hnull := hmessages m (List.mem_of_getElem? hm)
    have hok := hfinished <| Gathered.exists_finish_iff.mpr <|
      .inl ⟨m, hgathered, rfl, .inl hnull⟩
    exact ⟨fun h ↦ (hok h).elim, fun h ↦ nomatch h.2.1⟩
  | none =>
    have hnone := hb.gathered_envelope_eq_none haccepts he
    cases hp : b.payloadSlot with
    | some i =>
      obtain ⟨value, -, hnull, hgathered⟩ := hb.gathered_payload haccepts hp
      have hok := hfinished <| Gathered.exists_finish_iff.mpr <| .inr ⟨hnone, hgathered, hnull⟩
      exact ⟨fun h ↦ (hok h).elim, fun h ↦ nomatch h.1⟩
    | none =>
      have hnothing := hb.gathered_payload_eq_none haccepts hp
      constructor
      · exact fun h ↦ ⟨rfl, rfl, Gathered.eq_of_finish_eq_error h⟩
      · rintro ⟨-, -, rfl⟩
        exact Gathered.finish_of_nothing hnone hnothing

/-- Why a list of arguments makes no message.  A case applies only if the ones before it do not. -/
inductive Fault (b : Binder) (args : List Argument) : BindingError → Prop
  /-- There are more or fewer arguments than slots. -/
  | count (h : args.length ≠ b.slots.length) :
      Fault b args (.argumentCount b.slots.length args.length)
  /-- The first argument that does not fit its slot does not fit for this reason. -/
  | argument {e : BindingError} (hlen : args.length = b.slots.length)
      (h : FirstFault (fun i x ↦ x.1.Refuses i x.2) (b.slots.zip args) e) : Fault b args e
  /-- All arguments fit, but there is a slot neither for the payload nor for the message. -/
  | nothing (hlen : args.length = b.slots.length)
      (h : ∀ i (slot : Slot) a e, b.slots[i]? = some slot → args[i]? = some a →
        ¬slot.Refuses i a e)
      (hp : b.payloadSlot = none) (he : b.envelopeSlot = none) :
      Fault b args .missingPayloadForOutbound

/-- Where there are as many arguments as slots, it fails to take them in, or else to finish what
they give. -/
theorem message_eq_error_iff_of_length_eq (hlen : args.length = b.slots.length) :
    b.message args supplied stamp = .error e ↔
      FirstFault (fun i x ↦ x.1.Refuses i x.2) (b.slots.zip args) e ∨
      List.Forall₂ Slot.Accepts b.slots args ∧
        (Gathered.none.addAll b.slots args).finish supplied stamp = .error e := by
  have htakeAll : ∀ e, Gathered.none.takeAll 0 b.slots args = .error e ↔
      FirstFault (fun i x ↦ x.1.Refuses i x.2) (b.slots.zip args) e := by
    intro e
    rw [Gathered.takeAll_eq_error_iff]
    simp only [Nat.zero_add]
  unfold message
  rw [if_neg (not_not.mpr hlen), ← htakeAll]
  cases htake : Gathered.none.takeAll 0 b.slots args with
  | error e' =>
    have hnot : ¬List.Forall₂ Slot.Accepts b.slots args := fun haccepts ↦
      nomatch htake.symm.trans ((Gathered.takeAll_eq_ok_iff hlen).mpr ⟨haccepts, rfl⟩)
    rw [or_iff_left fun h ↦ hnot h.1]
    simp only [Except.error.injEq]
  | ok g =>
    obtain ⟨haccepts, rfl⟩ := (Gathered.takeAll_eq_ok_iff hlen).mp htake
    exact ⟨fun h ↦ .inr ⟨haccepts, h⟩, fun h ↦ (h.resolve_left nofun).2⟩

/-- As long as no message argument has a payload of null, arguments fail to make a message exactly
for these reasons: there are not as many of them as slots; or else the first argument that does not
fit its slot is of the wrong kind, is null as a payload, or is missing or null as a required header;
or else there is a slot neither for the payload nor for the message. -/
theorem message_eq_error_iff (hb : ofSignature s = .ok b)
    (hmessages : ∀ m, .message m ∈ args → m.payload.isNull = false) :
    b.message args supplied stamp = .error e ↔ b.Fault args e := by
  have harr := arranged_of_ofSignature hb
  by_cases hlen : args.length = b.slots.length
  · rw [message_eq_error_iff_of_length_eq hlen]
    constructor
    · rintro (hfirst | ⟨haccepts, hfinish⟩)
      · exact .argument hlen hfirst
      · obtain ⟨hp, he, rfl⟩ := (harr.finish_eq_error_iff haccepts hmessages).mp hfinish
        exact .nothing hlen ((Slot.forall₂_accepts_iff_not_refuses hlen).mp haccepts) hp he
    · intro h
      cases h with
      | count hne => exact (hne hlen).elim
      | argument _ hfirst => exact .inl hfirst
      | nothing _ hsound hp he =>
        have haccepts := (Slot.forall₂_accepts_iff_not_refuses hlen).mpr hsound
        exact .inr ⟨haccepts, (harr.finish_eq_error_iff haccepts hmessages).mpr ⟨hp, he, rfl⟩⟩
  · unfold message
    rw [if_pos hlen]
    constructor
    · intro h
      cases h
      exact .count hlen
    · intro h
      cases h with
      | count => rfl
      | argument heq => exact (hlen heq).elim
      | nothing heq => exact (hlen heq).elim

/-- The first argument is null, but it may be.  The second is of the wrong kind, and so it does not
matter that a required header and the payload are missing after it. -/
theorem message_eq_error_iff_of_three_misfits :
    let s : Signature := ⟨"ship", [⟨some "tenant", .value, [.header none false]⟩,
      ⟨none, .properties, [.headers]⟩, ⟨some "region", .value, [.header none true]⟩,
      .unnamed .value]⟩
    let m : Message := ⟨Uuid.issued 0, Timestamp.epoch, .string "order-42", Dictionary.empty⟩
    let args : List Argument := [.header (some .null), .message m, .header none, .payload .null]
    ∃ b, ofSignature s = .ok b ∧ (∀ m, .message m ∈ args → m.payload.isNull = false) ∧
      ∀ supplied stamp,
        b.message args supplied stamp = .error (.argumentMismatch 1 "headers" "message") := by
  intro s m args
  let b : Binder := ⟨"ship", [⟨0, .value, some "tenant", some ("tenant", false), false, false⟩,
    ⟨1, .properties, none, none, true, false⟩,
    ⟨2, .value, some "region", some ("region", true), false, false⟩,
    ⟨3, .value, none, none, false, false⟩],
    [.header "tenant" false, .headers true, .header "region" true, .payload], some 3, some 1, none⟩
  have hb : ofSignature s = .ok b := rfl
  have hmessages : ∀ m', .message m' ∈ args → m'.payload.isNull = false := by
    intro m' hm'
    obtain rfl : m' = m := by simpa [args] using hm'
    rfl
  refine ⟨b, hb, hmessages, fun supplied stamp ↦ (message_eq_error_iff hb hmessages).mpr ?_⟩
  refine .argument rfl ⟨1, (.headers true, .message m), rfl, .mismatch nofun, ?_⟩
  intro j x e' hj hx hrefuses
  obtain rfl : j = 0 := Nat.lt_one_iff.mp hj
  cases hx
  cases hrefuses with
  | mismatch h => exact h .header

end Binder

end Messaging
