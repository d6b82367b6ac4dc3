import Messaging.Proofs.Binder.Precedence
import Messaging.Proofs.Binder.RoundTrip
import Messaging.Proofs.Binder.Showing

/-!
# From arguments to a message and back

Arguments survive the way through a message where nothing can come over them: there is a slot for
the payload and none for all headers, no two slots are for the same header, and no header is
supplied besides for which there is a slot.  Then each header with a slot is given by the argument
of this slot alone, and is read from the message into the same slot again.  The one thing that does
not come back is a header that is present but null, which is not written and so is missing
afterwards.  Once such headers are gone, the arguments come back as they are.
-/

namespace Messaging

/-- The key of a slot for one header. -/
def Slot.key? : Slot → Option String
  | header key _ => some key
  | _ => none

/-- The keys of the slots that are for one header each. -/
def Binder.headerKeys (b : Binder) : List String := b.slots.filterMap Slot.key?

/-- The argument, with a header that is null taken for a missing one. -/
def Argument.settled : Argument → Argument
  | header value => header (value.filter fun v ↦ !v.isNull)
  | a => a

theorem Argument.settled_settled (a : Argument) : a.settled.settled = a.settled := by
  cases a with
  | header value => simp only [settled, Option.filter_filter, Bool.and_self]
  | payload | headers | properties | message => rfl

/-! ## The argument that gives a header -/

namespace Slot

variable {slots : List Slot} {args : List Argument} {i j : Nat} {k : String} {v : Value}

/-- Where keys are different, the slot for a header has only one position. -/
theorem eq_of_key? (hkeys : (slots.filterMap key?).Nodup) {slot slot' : Slot}
    (hi : slots[i]? = some slot) (hj : slots[j]? = some slot') (hk : slot.key? = some k)
    (hk' : slot'.key? = some k) : i = j := by
  have hpairs := List.pairwise_iff_getElem.mp (List.pairwise_filterMap.mp hkeys)
  obtain ⟨hilt, rfl⟩ := List.getElem?_eq_some_iff.mp hi
  obtain ⟨hjlt, rfl⟩ := List.getElem?_eq_some_iff.mp hj
  rcases Nat.lt_trichotomy i j with hlt | heq | hgt
  · exact (hpairs i j hilt hjlt hlt k hk k hk' rfl).elim
  · exact heq
  · exact (hpairs j i hjlt hilt hgt k hk' k hk rfl).elim

/-- Without a slot for all headers, only the argument for a header gives it. -/
theorem GivesAt.header (h : GivesAt slots args k i v) (hbulk : ∀ strings, headers strings ∉ slots) :
    (∃ required, slots[i]? = some (header k required)) ∧ args[i]? = some (.header (some v)) ∧
      v.isNull = false := by
  obtain ⟨slot, a, hslot, ha, hgives⟩ := h
  cases hgives with
  | header hnull => exact ⟨⟨_, hslot⟩, ha, hnull⟩
  | headers | properties => exact (hbulk _ (List.mem_of_getElem? hslot)).elim

/-- Where keys are different and no slot is for all headers, a header is given by the argument for
it, unless that is missing or null. -/
theorem given?_of_distinct (hbulk : ∀ strings, headers strings ∉ slots)
    (hkeys : (slots.filterMap key?).Nodup) {required : Bool} {value : Option Value}
    (hslot : slots[i]? = some (header k required)) (ha : args[i]? = some (.header value)) :
    given? slots args k = value.filter fun v ↦ !v.isNull := by
  have alone : ∀ j w, GivesAt slots args k j w → j = i ∧ value = some w ∧ w.isNull = false := by
    intro j w hj
    obtain ⟨⟨_, hslot'⟩, ha', hnull⟩ := hj.header hbulk
    obtain rfl := eq_of_key? hkeys hslot' hslot rfl rfl
    cases ha.symm.trans ha'
    exact ⟨rfl, rfl, hnull⟩
  cases hf : value.filter fun v ↦ !v.isNull with
  | some w =>
    obtain ⟨rfl, hnull⟩ := Option.filter_eq_some_iff.mp hf
    have hgives : GivesAt slots args k i w :=
      ⟨_, _, hslot, ha, .header (by simpa using hnull)⟩
    exact given?_eq_some_iff.mpr ⟨i, hgives, fun j w' hj ↦ Nat.le_of_eq (alone j w' hj).1⟩
  | none =>
    refine given?_eq_none_iff.mpr fun j w hj ↦ ?_
    obtain ⟨-, rfl, hnull⟩ := alone j w hj
    simp [hnull] at hf

end Slot

/-! ## The way back -/

namespace Binder

variable {s : Signature} {b : Binder} {args : List Argument} {supplied : Headers} {stamp : Stamp}
  {m : Message}

namespace Arranged

/-- Where there is a slot for the payload, there is no message argument: headers are what other
arguments give, and what is supplied. -/
theorem header?_of_message (hb : b.Arranged) (hpayload : b.payloadSlot.isSome)
    (h : b.message args supplied stamp = .ok m) (k : String) :
    m.header? k = (Slot.given? b.slots args k).or (supplied.get? k) := by
  obtain ⟨haccepts, hfinish⟩ := message_eq_ok_iff.mp h
  have hnone := hb.exclusive.resolve_left (Option.isSome_iff_ne_none.mp hpayload)
  rw [Gathered.header?_of_finish hfinish, hb.gathered_envelope_eq_none haccepts hnone,
    Gathered.get?_headers_addAll]
  rfl

/-- The payload of a message is that of the argument for it. -/
theorem payload_of_message (hb : b.Arranged) (h : b.message args supplied stamp = .ok m) {i : Nat}
    (hi : b.payloadSlot = some i) : args[i]? = some (.payload m.payload) ∧
      m.payload.isNull = false := by
  obtain ⟨haccepts, hfinish⟩ := message_eq_ok_iff.mp h
  have hsome : b.payloadSlot ≠ none := by
    rw [hi]
    rintro ⟨⟩
  have henvelope := hb.gathered_envelope_eq_none haccepts (hb.exclusive.resolve_left hsome)
  obtain ⟨value, hvalue, hnull, hgathered⟩ := hb.gathered_payload haccepts hi
  obtain ⟨e, he, -⟩ | ⟨-, hm, -⟩ := Gathered.finish_cases hfinish
  · cases henvelope.symm.trans he
  · obtain rfl := Option.some.inj (hgathered.symm.trans hm)
    exact ⟨hvalue, hnull⟩

/-- Without a position for them, no slot is for all headers. -/
theorem headers_notMem (hb : b.Arranged) (hbulk : b.bulkSlot = none) (strings : Bool) :
    .headers strings ∉ b.slots := by
  intro hmem
  obtain ⟨i, hi⟩ := List.getElem?_of_mem hmem
  cases hbulk.symm.trans ((hb.headers i).mpr ⟨strings, hi⟩)

end Arranged

/-- Nothing comes over the arguments of the binder: there is a slot for the payload and none for all
headers, no two slots are for the same header, and no header with a slot is supplied. -/
structure Separate (b : Binder) (supplied : Headers) : Prop where
  payload : b.payloadSlot.isSome
  bulk : b.bulkSlot = none
  keys : b.headerKeys.Nodup
  supplied : ∀ k ∈ b.headerKeys, supplied.get? k = none

namespace Separate

variable {i : Nat} {slot : Slot} {a : Argument}

/-- A header with a slot has the value of the argument in this slot, unless that is missing or
null. -/
theorem header?_of_message (hsep : b.Separate supplied) (hb : b.Arranged)
    (h : b.message args supplied stamp = .ok m) {k : String} {required : Bool}
    {value : Option Value} (hslot : b.slots[i]? = some (.header k required))
    (ha : args[i]? = some (.header value)) :
    m.header? k = value.filter fun v ↦ !v.isNull := by
  have hmem : k ∈ b.headerKeys := List.mem_filterMap.mpr ⟨_, List.mem_of_getElem? hslot, rfl⟩
  rw [hb.header?_of_message hsep.payload h, hsep.supplied k hmem, Option.or_none]
  exact Slot.given?_of_distinct (hb.headers_notMem hsep.bulk) hsep.keys hslot ha

/-- The message shows a slot what comes back of its argument. -/
theorem shows_of_message (hsep : b.Separate supplied) (hb : b.Arranged)
    (h : b.message args supplied stamp = .ok m) (hslot : b.slots[i]? = some slot)
    (ha : args[i]? = some a) (haccepts : slot.Accepts a) : slot.Shows m a.settled := by
  cases haccepts with
  | payload =>
    obtain ⟨hm, hnull⟩ := hb.payload_of_message h ((hb.payload i).mpr hslot)
    cases ha.symm.trans hm
    exact .payload hnull
  | @present k required value hnull =>
    have hfilter : (some value).filter (fun v ↦ !v.isNull) = some value := by
      simp [Option.filter_some_pos, hnull]
    have hm := hsep.header?_of_message hb h hslot ha
    rw [hfilter] at hm
    rw [Argument.settled, hfilter]
    exact .present hm hnull
  | @absent k value hnull =>
    have hfilter : value.filter (fun v ↦ !v.isNull) = none := by
      simpa [Option.filter_eq_none_iff] using hnull
    have hm := hsep.header?_of_message hb h hslot ha
    rw [hfilter] at hm
    rw [Argument.settled, hfilter]
    refine .absent fun v hv ↦ ?_
    cases hm.symm.trans hv
  | headers | properties =>
    exact (hb.headers_notMem hsep.bulk _ (List.mem_of_getElem? hslot)).elim
  | envelope =>
    have hnone := hb.exclusive.resolve_left (Option.isSome_iff_ne_none.mp hsep.payload)
    cases hnone.symm.trans ((hb.envelope i).mpr hslot)

theorem arguments_of_message (hsep : b.Separate supplied) (hb : b.Arranged)
    (h : b.message args supplied stamp = .ok m) :
    b.arguments m = .ok (args.map Argument.settled) := by
  obtain ⟨hlen, haccepts⟩ := List.forall₂_iff_get.mp (message_eq_ok_iff.mp h).1
  refine Slot.arguments_eq_ok_iff.mpr (List.forall₂_iff_get.mpr ⟨?_, fun i hi hi' ↦ ?_⟩)
  · rw [List.length_map, hlen]
  · have hi'' : i < args.length := hlen ▸ hi
    simpa using hsep.shows_of_message hb h (List.getElem?_eq_getElem hi)
      (List.getElem?_eq_getElem hi'') (haccepts i hi hi'')

/-- A header that no slot shows of the message was supplied, if it is there. -/
theorem header?_of_unbound (hsep : b.Separate supplied) (hb : b.Arranged)
    (h : b.message args supplied stamp = .ok m) {k : String}
    (hfree : ¬∃ slot ∈ b.slots, slot.Binds m k) : m.header? k = supplied.get? k := by
  have hm := hb.header?_of_message hsep.payload h k
  cases hgiven : Slot.given? b.slots args k with
  | none => rwa [hgiven] at hm
  | some v =>
    rw [hgiven] at hm
    obtain ⟨i, hgives, -⟩ := Slot.given?_eq_some_iff.mp hgiven
    obtain ⟨⟨required, hslot⟩, -, hnull⟩ := hgives.header (hb.headers_notMem hsep.bulk)
    exact (hfree ⟨_, List.mem_of_getElem? hslot, .header hm hnull⟩).elim

/-- What came back makes a message again, whatever is supplied this time, with the same payload, and
with the same headers if the same ones are supplied. -/
theorem exists_message (hsep : b.Separate supplied) (hb : b.Arranged)
    (h : b.message args supplied stamp = .ok m) (supplied' : Headers) (stamp' : Stamp) :
    ∃ m', b.message (args.map Argument.settled) supplied' stamp' = .ok m' ∧
      m'.payload = m.payload ∧ (supplied' = supplied → m'.headers = m.headers) := by
  obtain ⟨i, hi⟩ := Option.isSome_iff_exists.mp hsep.payload
  have hmem : .payload ∈ b.slots := List.mem_of_getElem? ((hb.payload i).mp hi)
  have hnull := (hb.payload_of_message h hi).2
  obtain ⟨g, hg, hreads⟩ := message_eq_finish (hsep.arguments_of_message hb h) supplied' stamp'
  obtain ⟨m', hm', hpayload, hmerges⟩ := hreads.finish hnull (.inl hmem) supplied' stamp'
  refine ⟨m', hg.trans hm', hpayload, ?_⟩
  rintro rfl
  refine Dictionary.ext_get? fun k ↦ ?_
  -- A header that a slot shows is written from what came back, any other one was supplied.
  by_cases hbound : ∃ slot ∈ b.slots, slot.Binds m k
  · exact (hmerges k).bound hbound
  · exact ((hmerges k).supplied hbound).trans (hsep.header?_of_unbound hb h hbound).symm

end Separate

/-- Where nothing can come over the arguments of a binder, the message that it makes of them gives
them back, only that a header that was null is missing now.  Made into a message again, whatever
else is supplied, what came back comes back as it is; and with the same headers supplied this
message has the same payload and the same headers as the first one. -/
theorem message_restores_arguments (hb : ofSignature s = .ok b) (hsep : b.Separate supplied)
    (h : b.message args supplied stamp = .ok m) :
    b.arguments m = .ok (args.map Argument.settled) ∧
    ∀ supplied' stamp', b.Separate supplied' →
      ∃ m', b.message (args.map Argument.settled) supplied' stamp' = .ok m' ∧
        b.arguments m' = .ok (args.map Argument.settled) ∧ m'.payload = m.payload ∧
        (supplied' = supplied → m'.headers = m.headers) := by
  have harr := arranged_of_ofSignature hb
  refine ⟨hsep.arguments_of_message harr h, fun supplied' stamp' hsep' ↦ ?_⟩
  obtain ⟨m', hm', hpayload, hheaders⟩ := hsep.exists_message harr h supplied' stamp'
  have hback := hsep'.arguments_of_message harr hm'
  rw [List.map_map, show Argument.settled ∘ Argument.settled = Argument.settled from
    funext Argument.settled_settled] at hback
  exact ⟨m', hm', hback, hpayload, hheaders⟩

/-- Of two optional headers one is null: it does not come back, and the trace that is supplied does
not change that. -/
theorem message_restores_arguments_of_null_header :
    let s : Signature := ⟨"ship", [⟨some "region", .value, [.header none false]⟩, .unnamed .value,
      ⟨some "tenant", .value, [.header none true]⟩, ⟨some "size", .value, [.header none false]⟩]⟩
    let args : List Argument := [.header (some .null), .payload (.string "order-42"),
      .header (some (.string "acme")), .header (some (.int 3))]
    let supplied : Headers := Dictionary.ofList [("trace", .string "t-1")]
    let stamp : Stamp := ⟨Uuid.issued 0, Timestamp.epoch⟩
    ∃ b m, ofSignature s = .ok b ∧ b.Separate supplied ∧
      b.message args supplied stamp = .ok m ∧
      b.arguments m = .ok [.header none, .payload (.string "order-42"),
        .header (some (.string "acme")), .header (some (.int 3))] := by
  intro s args supplied stamp
  let b : Binder := ⟨"ship", [⟨0, .value, some "region", some ("region", false), false, false⟩,
    ⟨1, .value, none, none, false, false⟩,
    ⟨2, .value, some "tenant", some ("tenant", true), false, false⟩,
    ⟨3, .value, some "size", some ("size", false), false, false⟩],
    [.header "region" false, .payload, .header "tenant" true, .header "size" false],
    some 1, none, none⟩
  let m : Message := ⟨stamp.id, stamp.time, .string "order-42", Dictionary.ofList
    [("size", .int 3), ("tenant", .string "acme"), ("trace", .string "t-1")]⟩
  have hb : ofSignature s = .ok b := rfl
  have hkeys : b.headerKeys = ["region", "tenant", "size"] := rfl
  have hsep : b.Separate supplied := by
    refine ⟨rfl, rfl, ?_, ?_⟩
    · rw [hkeys]
      decide
    · rw [hkeys]
      rintro k (_ | ⟨_, _ | ⟨_, _ | ⟨_, ⟨⟩⟩⟩⟩) <;> rfl
  have hm : b.message args supplied stamp = .ok m := rfl
  exact ⟨b, m, hb, hsep, hm, (message_restores_arguments hb hsep hm).1⟩

end Binder

end Messaging
