import Mathlib.Data.List.Forall2
import Messaging.Binder.Outgoing

/-!
# What arguments give to a message

The arguments of a handler are gathered slot by slot.  An argument is accepted by its slot if it is
of the right kind and not null where the slot cannot do without it.  If every slot accepts its
argument, then what was gathered can be told at once: the last payload, the last message, and the
headers that the arguments give, one after the other.
-/

namespace Messaging

/-! ## Single arguments -/

namespace Slot

/-- The slot accepts the argument. -/
inductive Accepts : Slot → Argument → Prop
  /-- A payload that is not null. -/
  | payload {value : Value} (h : value.isNull = false) : Accepts payload (.payload value)
  /-- A header that is there and not null, for any slot for a header. -/
  | present {key : String} {required : Bool} {value : Value} (h : value.isNull = false) :
      Accepts (header key required) (.header (some value))
  /-- A header that is missing or null, where none is required. -/
  | absent {key : String} {value : Option Value} (h : ∀ v, value = some v → v.isNull = true) :
      Accepts (header key false) (.header value)
  /-- All headers. -/
  | headers {stringsOnly : Bool} {h : Headers} : Accepts (headers stringsOnly) (.headers h)
  /-- All headers that are texts. -/
  | properties {stringsOnly : Bool} {p : Properties} : Accepts (headers stringsOnly) (.properties p)
  /-- A message. -/
  | envelope {m : Message} : Accepts envelope (.message m)

/-- Only a slot for the payload accepts a payload. -/
theorem Accepts.eq_payload {slot : Slot} {a : Argument} (h : slot.Accepts a)
    (ha : a.payload?.isSome) : slot = .payload := by
  cases h with
  | payload => rfl
  | present | absent | headers | properties | envelope => cases ha

/-- Only a slot for the message accepts a message. -/
theorem Accepts.eq_envelope {slot : Slot} {a : Argument} (h : slot.Accepts a)
    (ha : a.message?.isSome) : slot = .envelope := by
  cases h with
  | envelope => rfl
  | payload | present | absent | headers | properties => cases ha

/-- The headers that an argument gives. -/
def given : Slot → Argument → List (String × Value)
  | header key _, .header value =>
    match value.filter fun v ↦ !v.isNull with
    | some value => [(key, value)]
    | none => []
  | headers _, .headers h => h.entries
  | headers _, .properties p => p.asHeaders.entries
  | _, _ => []

/-- The headers that arguments give, in the order of their slots. -/
def allGiven : List Slot → List Argument → List (String × Value)
  | slot :: slots, a :: args => slot.given a ++ allGiven slots args
  | _, _ => []

end Slot

namespace Gathered

/-- What was gathered with one more argument, if its slot accepts it. -/
def add (g : Gathered) (slot : Slot) (a : Argument) : Gathered where
  payload := a.payload?.or g.payload
  envelope := a.message?.or g.envelope
  headers := g.headers.insertAll (slot.given a)

/-- A slot for a header accepts any argument of its kind that it can do with. -/
theorem take_header_eq_ok_iff {g g' : Gathered} {index : Nat} {key : String} {required : Bool}
    {value : Option Value} :
    g.take index (.header key required) (.header value) = .ok g' ↔
      (Slot.header key required).Accepts (.header value) ∧
        g' = g.add (.header key required) (.header value) := by
  cases hf : value.filter fun v ↦ !v.isNull with
  | some v =>
    obtain ⟨rfl, hv⟩ := Option.filter_eq_some_iff.mp hf
    have hnull : v.isNull = false := by simpa using hv
    have hadd : g.add (.header key required) (.header (some v)) =
        { g with headers := g.headers.insert key v } := by
      simp only [add, Slot.given, hf]
      rfl
    simp only [take, hf, Except.ok.injEq, hadd]
    exact ⟨fun h ↦ ⟨.present hnull, h.symm⟩, fun h ↦ h.2.symm⟩
  | none =>
    have habsent : ∀ v, value = some v → v.isNull = true := by
      rintro v rfl
      simpa using Option.filter_eq_none_iff.mp hf v rfl
    have hadd : g.add (.header key required) (.header value) = g := by
      simp only [add, Slot.given, hf]
      rfl
    simp only [take, hf, hadd]
    cases required with
    | false =>
      simp only [Bool.false_eq_true, if_false, Except.ok.injEq]
      exact ⟨fun h ↦ ⟨.absent habsent, h.symm⟩, fun h ↦ h.2.symm⟩
    | true =>
      constructor
      · intro h
        cases h
      · rintro ⟨h, -⟩
        cases h with
        | present hnull => cases hnull.symm.trans (habsent _ rfl)

/-- An argument is taken in if and only if its slot accepts it. -/
theorem take_eq_ok_iff {g g' : Gathered} {index : Nat} {slot : Slot} {a : Argument} :
    g.take index slot a = .ok g' ↔ slot.Accepts a ∧ g' = g.add slot a := by
  constructor
  · intro h
    cases slot with
    | payload =>
      cases a with
      | payload value =>
        cases hnull : value.isNull with
        | true => simp [take, hnull] at h
        | false =>
          simp only [take, hnull, Bool.false_eq_true, if_false, Except.ok.injEq] at h
          exact ⟨.payload hnull, h.symm⟩
      | header | headers | properties | message => cases h
    | header key required =>
      cases a with
      | header value => exact take_header_eq_ok_iff.mp h
      | payload | headers | properties | message => cases h
    | headers strings =>
      cases a with
      | headers =>
        cases h
        exact ⟨.headers, rfl⟩
      | properties =>
        cases h
        exact ⟨.properties, rfl⟩
      | payload | header | message => cases h
    | envelope =>
      cases a with
      | message =>
        cases h
        exact ⟨.envelope, rfl⟩
      | payload | header | headers | properties => cases h
  · rintro ⟨h, rfl⟩
    cases h with
    | payload hnull =>
      simp only [take, hnull, Bool.false_eq_true, if_false]
      rfl
    | present hnull => exact take_header_eq_ok_iff.mpr ⟨.present hnull, rfl⟩
    | absent habsent => exact take_header_eq_ok_iff.mpr ⟨.absent habsent, rfl⟩
    | headers | properties | envelope => rfl

/-- What was gathered with more arguments, if their slots accept them. -/
def addAll (g : Gathered) (slots : List Slot) (args : List Argument) : Gathered where
  payload := (args.filterMap Argument.payload?).getLast?.or g.payload
  envelope := (args.filterMap Argument.message?).getLast?.or g.envelope
  headers := g.headers.insertAll (Slot.allGiven slots args)

private theorem getLast?_or {α : Type} (x : Option α) (l : List α) (y : Option α) :
    (x.toList ++ l).getLast?.or y = l.getLast?.or (x.or y) := by
  cases x with
  | none => rfl
  | some a =>
    rw [Option.toList_some, List.getLast?_append, Option.or_assoc]
    rfl

theorem addAll_cons (g : Gathered) (slot : Slot) (slots : List Slot) (a : Argument)
    (args : List Argument) :
    g.addAll (slot :: slots) (a :: args) = (g.add slot a).addAll slots args := by
  have hcons : ∀ {α : Type} (f : Argument → Option α),
      (a :: args).filterMap f = (f a).toList ++ args.filterMap f := by
    intro α f
    rw [List.filterMap_cons]
    cases f a <;> rfl
  simp only [addAll, add, hcons, getLast?_or, Slot.allGiven, Dictionary.insertAll,
    List.foldl_append]

/-- Arguments are taken in if and only if their slots accept them. -/
theorem takeAll_eq_ok_iff {g g' : Gathered} {index : Nat} {slots : List Slot}
    {args : List Argument} (hlen : args.length = slots.length) :
    g.takeAll index slots args = .ok g' ↔
      List.Forall₂ Slot.Accepts slots args ∧ g' = g.addAll slots args := by
  induction slots generalizing g index args with
  | nil =>
    obtain rfl := List.length_eq_zero_iff.mp hlen
    simp only [takeAll, Except.ok.injEq, List.forall₂_nil_left_iff, true_and]
    exact eq_comm
  | cons slot slots ih =>
    obtain ⟨a, args, rfl⟩ := List.exists_cons_of_length_eq_add_one hlen
    have hlen : args.length = slots.length := Nat.succ.inj hlen
    rw [takeAll, addAll_cons, List.forall₂_cons]
    constructor
    · intro h
      split at h
      · cases h
      · rename_i g₁ htake
        obtain ⟨haccepts, rfl⟩ := take_eq_ok_iff.mp htake
        obtain ⟨hall, rfl⟩ := (ih hlen).mp h
        exact ⟨⟨haccepts, hall⟩, rfl⟩
    · rintro ⟨⟨haccepts, hall⟩, rfl⟩
      rw [take_eq_ok_iff.mpr ⟨haccepts, rfl⟩]
      exact (ih hlen).mpr ⟨hall, rfl⟩

/-! ## The message of what was gathered -/

/-- The headers that were gathered, with the supplied ones that are missing among them. -/
def merged (g : Gathered) (supplied : Headers) : Headers :=
  g.headers.insertAllIfAbsent supplied.entries

variable {g : Gathered} {supplied : Headers} {stamp : Stamp}

theorem get?_merged (g : Gathered) (supplied : Headers) (k : String) :
    (g.merged supplied).get? k = (g.headers.get? k).or (supplied.get? k) :=
  Dictionary.get?_insertAllIfAbsent _ _ _

theorem isEmpty_merged_iff :
    (g.merged supplied).isEmpty = true ↔ g.headers.isEmpty = true ∧ supplied.isEmpty = true :=
  Dictionary.isEmpty_insertAllIfAbsent_iff

/-- What was gathered makes this message with the supplied headers. -/
inductive Makes (g : Gathered) (supplied : Headers) (stamp : Stamp) : Message → Prop
  /-- A message argument, to which there is no header to add. -/
  | same {m : Message} (henvelope : g.envelope = some m)
      (hempty : (g.merged supplied).isEmpty = true) : Makes g supplied stamp m
  /-- A new message with the payload of a message argument, its headers, and those that it lacks. -/
  | added {m : Message} (henvelope : g.envelope = some m)
      (hheaders : (g.merged supplied).isEmpty = false) (hnull : m.payload.isNull = false) :
      Makes g supplied stamp ⟨stamp.id, stamp.time, m.payload,
        m.headers.insertAllIfAbsent (g.merged supplied).entries⟩
  /-- A new message with a payload that was gathered. -/
  | fresh {payload : Value} (henvelope : g.envelope = .none) (hpayload : g.payload = some payload)
      (hnull : payload.isNull = false) :
      Makes g supplied stamp ⟨stamp.id, stamp.time, payload,
        Dictionary.empty.insertAll (g.merged supplied).entries⟩

/-- There are no other messages that what was gathered makes. -/
theorem finish_eq_ok_iff {r : Message} :
    g.finish supplied stamp = .ok r ↔ g.Makes supplied stamp r := by
  unfold finish
  simp only
  rw [← merged]
  constructor
  · intro h
    split at h
    · rename_i m henvelope
      cases hempty : (g.merged supplied).isEmpty with
      | true =>
        rw [hempty, if_pos rfl] at h
        cases h
        exact .same henvelope hempty
      | false =>
        rw [hempty, if_neg Bool.false_ne_true] at h
        obtain ⟨hnull, rfl⟩ := Draft.mapError_build_eq_ok_iff.mp h
        exact .added henvelope hempty hnull
    · rename_i henvelope hpayload
      obtain ⟨hnull, rfl⟩ := Draft.mapError_build_eq_ok_iff.mp h
      exact .fresh henvelope hpayload hnull
    · cases h
  · intro h
    cases h with
    | same henvelope hempty => simp only [henvelope, hempty, if_true]
    | added henvelope hheaders hnull =>
      simp only [henvelope, hheaders, Bool.false_eq_true, if_false]
      exact Draft.mapError_build_eq_ok_iff.mpr ⟨hnull, rfl⟩
    | fresh henvelope hpayload hnull =>
      simp only [henvelope, hpayload]
      exact Draft.mapError_build_eq_ok_iff.mpr ⟨hnull, rfl⟩

/-- When what was gathered makes a message, and with which payload. -/
theorem exists_finish_iff {value : Value} :
    (∃ r, g.finish supplied stamp = .ok r ∧ r.payload = value) ↔
      (∃ m, g.envelope = some m ∧ m.payload = value ∧
        (value.isNull = false ∨ (∀ k, g.headers.get? k = .none) ∧ supplied.isEmpty = true)) ∨
      g.envelope = .none ∧ g.payload = some value ∧ value.isNull = false := by
  rw [← Dictionary.isEmpty_iff, ← isEmpty_merged_iff]
  simp only [finish_eq_ok_iff]
  constructor
  · rintro ⟨r, h, rfl⟩
    cases h with
    | same henvelope hempty => exact .inl ⟨_, henvelope, rfl, .inr hempty⟩
    | added henvelope _ hnull => exact .inl ⟨_, henvelope, rfl, .inl hnull⟩
    | fresh henvelope hpayload hnull => exact .inr ⟨henvelope, hpayload, hnull⟩
  · rintro (⟨m, henvelope, rfl, h⟩ | ⟨henvelope, hpayload, hnull⟩)
    · cases hempty : (g.merged supplied).isEmpty with
      | true => exact ⟨m, .same henvelope hempty, rfl⟩
      | false =>
        have hnull := h.resolve_right (Bool.eq_false_iff.mp hempty)
        exact ⟨_, .added henvelope hempty hnull, rfl⟩
    · exact ⟨_, .fresh henvelope hpayload hnull, rfl⟩

/-- Nothing is made where neither a message nor a payload was gathered. -/
theorem finish_of_nothing (henvelope : g.envelope = .none) (hpayload : g.payload = .none) :
    g.finish supplied stamp = .error .missingPayloadForOutbound := by
  unfold finish
  rw [henvelope, hpayload]

/-- There is only one reason for which what was gathered makes no message. -/
theorem eq_of_finish_eq_error {e : BindingError} (h : g.finish supplied stamp = .error e) :
    e = .missingPayloadForOutbound := by
  have built : ∀ d : Draft, (d.build stamp).mapError
      (fun _ ↦ BindingError.missingPayloadForOutbound) = .error e →
      e = .missingPayloadForOutbound := by
    intro d hd
    cases hbuild : d.build stamp with
    | error =>
      rw [hbuild] at hd
      cases hd
      rfl
    | ok m =>
      rw [hbuild] at hd
      cases hd
  unfold finish at h
  simp only at h
  split at h
  · split at h
    · cases h
    · exact built _ h
  · exact built _ h
  · cases h
    rfl

end Gathered

/-- Arguments make a message if and only if the slots accept them and what they give can be
finished. -/
theorem Binder.message_eq_ok_iff {b : Binder} {args : List Argument} {supplied : Headers}
    {stamp : Stamp} {m : Message} :
    b.message args supplied stamp = .ok m ↔
      List.Forall₂ Slot.Accepts b.slots args ∧
        (Gathered.none.addAll b.slots args).finish supplied stamp = .ok m := by
  unfold message
  by_cases hlen : args.length = b.slots.length
  · rw [if_neg (not_not.mpr hlen)]
    constructor
    · intro h
      split at h
      · cases h
      · rename_i g htake
        obtain ⟨hall, rfl⟩ := (Gathered.takeAll_eq_ok_iff hlen).mp htake
        exact ⟨hall, h⟩
    · rintro ⟨hall, h⟩
      rw [(Gathered.takeAll_eq_ok_iff hlen).mpr ⟨hall, rfl⟩]
      exact h
  · rw [if_pos hlen]
    constructor
    · intro h
      cases h
    · rintro ⟨hall, -⟩
      exact (hlen hall.length_eq.symm).elim

end Messaging
