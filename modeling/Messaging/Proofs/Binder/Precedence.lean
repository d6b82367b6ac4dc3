import Messaging.Proofs.Binder.Merging
import Messaging.Proofs.Binder.Slots

/-!
# Which argument counts

Where arguments make a message, its payload is that of the argument in the slot for the payload or
for the message, and its headers come from several sources, in this order: the headers of the
message argument, the other arguments, of which the last one that gives a header counts, and the
supplied headers.  An argument for a header gives it only if it is present and not null; one for all
headers gives whatever it has, null included.

The message is a new one, under a stamp of its own, with one exception: a message argument to which
no header is added stays what it is.
-/

namespace Messaging

/-! ## The argument that gives a header -/

namespace Slot

/-- The argument of the slot gives the header `k` this value. -/
inductive Gives (k : String) : Value → Slot → Argument → Prop
  /-- It is the argument for this header, present and not null. -/
  | header {required : Bool} {v : Value} (h : v.isNull = false) :
      Gives k v (.header k required) (.header (some v))
  /-- It is an argument for all headers, and this is one of them. -/
  | headers {stringsOnly : Bool} {headers : Headers} {v : Value} (h : headers.get? k = some v) :
      Gives k v (.headers stringsOnly) (.headers headers)
  /-- It is an argument for all texts, and this is one of them. -/
  | properties {stringsOnly : Bool} {texts : Properties} {text : String}
      (h : texts.get? k = some text) :
      Gives k (.string text) (.headers stringsOnly) (.properties texts)

/-- The argument at position `i` gives the header `k` this value. -/
def GivesAt (slots : List Slot) (args : List Argument) (k : String) (i : Nat) (v : Value) : Prop :=
  ∃ slot a, slots[i]? = some slot ∧ args[i]? = some a ∧ slot.Gives k v a

/-- Of all arguments that give the header `k` the last one gives it this value. -/
def LastGives (slots : List Slot) (args : List Argument) (k : String) (v : Value) : Prop :=
  ∃ i, GivesAt slots args k i v ∧ ∀ j w, GivesAt slots args k j w → j ≤ i

/-- No argument gives a header. -/
def GivesNothing (slots : List Slot) (args : List Argument) : Prop :=
  ∀ k i v, ¬GivesAt slots args k i v

/-- The value of the header `k`, if there is one, where arguments come over supplied headers. -/
inductive Resolves (slots : List Slot) (args : List Argument) (supplied : Headers) (k : String) :
    Option Value → Prop
  /-- The last argument that gives the header decides. -/
  | given {v : Value} (h : LastGives slots args k v) : Resolves slots args supplied k (some v)
  /-- No argument gives it. -/
  | supplied (h : ∀ i v, ¬GivesAt slots args k i v) :
      Resolves slots args supplied k (supplied.get? k)

variable {slots : List Slot} {args : List Argument} {slot : Slot} {a : Argument} {k : String}
  {v : Value} {i : Nat}

private theorem find?_reverse_entries (headers : Headers) (k : String) :
    Dictionary.find? k headers.entries.reverse = headers.get? k := by
  have h := Dictionary.get?_insertAll_eq_find?_reverse Dictionary.empty headers.entries k
  rwa [Dictionary.get?_insertAll, Dictionary.get?_empty, Option.or_none, Option.or_none,
    eq_comm] at h

/-- No argument gives a header twice, so what is found among the headers that it gives is what it
gives. -/
theorem find?_reverse_given :
    Dictionary.find? k (slot.given a).reverse = some v ↔ slot.Gives k v a := by
  constructor
  · intro h
    unfold given at h
    split at h
    · rename_i key required value
      cases hf : value.filter fun v ↦ !v.isNull with
      | none =>
        rw [hf] at h
        cases h
      | some w =>
        obtain ⟨rfl, hnull⟩ := Option.filter_eq_some_iff.mp hf
        rw [hf] at h
        have hentry := List.mem_singleton.mp (List.mem_reverse.mp (Dictionary.mem_of_find? h))
        cases hentry
        exact .header (by simpa using hnull)
    · rw [find?_reverse_entries] at h
      exact .headers h
    · rw [find?_reverse_entries, Dictionary.get?_asHeaders] at h
      obtain ⟨text, htext, rfl⟩ := Option.map_eq_some_iff.mp h
      exact .properties htext
    · cases h
  · intro h
    cases h with
    | header hnull => simp [given, Option.filter_some_pos, hnull, Dictionary.find?]
    | headers hk => exact (find?_reverse_entries _ k).trans hk
    | properties hk =>
      refine (find?_reverse_entries _ k).trans ?_
      rw [Dictionary.get?_asHeaders, hk, Option.map_some]

theorem givesAt_cons_zero :
    GivesAt (slot :: slots) (a :: args) k 0 v ↔ slot.Gives k v a := by
  constructor
  · rintro ⟨_, _, ⟨⟩, ⟨⟩, h⟩
    exact h
  · exact fun h ↦ ⟨slot, a, rfl, rfl, h⟩

theorem givesAt_cons_succ :
    GivesAt (slot :: slots) (a :: args) k (i + 1) v ↔ GivesAt slots args k i v := Iff.rfl

theorem not_givesAt_nil_left : ¬GivesAt [] args k i v := by
  rintro ⟨_, _, h, -⟩
  cases h

theorem not_givesAt_nil_right : ¬GivesAt slots [] k i v := by
  rintro ⟨_, _, -, h, -⟩
  cases h

theorem given?_cons :
    given? (slot :: slots) (a :: args) k =
      (given? slots args k).or (Dictionary.find? k (slot.given a).reverse) := by
  rw [given?, allGiven, List.reverse_append, Dictionary.find?_append]
  rfl

/-- Where arguments give no value to a header, none of them gives it. -/
theorem given?_eq_none_iff : given? slots args k = none ↔ ∀ i v, ¬GivesAt slots args k i v := by
  induction slots generalizing args with
  | nil => exact ⟨fun _ _ _ ↦ not_givesAt_nil_left, fun _ ↦ rfl⟩
  | cons slot slots ih =>
    cases args with
    | nil => exact ⟨fun _ _ _ ↦ not_givesAt_nil_right, fun _ ↦ rfl⟩
    | cons a args =>
      rw [given?_cons, Option.or_eq_none_iff, ih, Option.eq_none_iff_forall_ne_some]
      constructor
      · rintro ⟨hlater, hfirst⟩ i v h
        cases i with
        | zero => exact hfirst v (find?_reverse_given.mpr (givesAt_cons_zero.mp h))
        | succ i => exact hlater i v (givesAt_cons_succ.mp h)
      · intro h
        refine ⟨fun i v hi ↦ h (i + 1) v (givesAt_cons_succ.mpr hi), fun v hv ↦ ?_⟩
        exact h 0 v (givesAt_cons_zero.mpr (find?_reverse_given.mp hv))

/-- The value that arguments give to a header is that of the last one that gives it. -/
theorem given?_eq_some_iff : given? slots args k = some v ↔ LastGives slots args k v := by
  induction slots generalizing args with
  | nil =>
    constructor
    · intro h
      cases h
    · rintro ⟨i, h, -⟩
      exact (not_givesAt_nil_left h).elim
  | cons slot slots ih =>
    cases args with
    | nil =>
      constructor
      · intro h
        cases h
      · rintro ⟨i, h, -⟩
        exact (not_givesAt_nil_right h).elim
    | cons a args =>
      rw [given?_cons, Option.or_eq_some_iff, ih, given?_eq_none_iff, find?_reverse_given]
      constructor
      · rintro (⟨i, h, hlast⟩ | ⟨hnone, h⟩)
        · refine ⟨i + 1, givesAt_cons_succ.mpr h, fun j w hj ↦ ?_⟩
          cases j with
          | zero => exact Nat.zero_le _
          | succ j => exact Nat.succ_le_succ (hlast j w (givesAt_cons_succ.mp hj))
        · refine ⟨0, givesAt_cons_zero.mpr h, fun j w hj ↦ ?_⟩
          cases j with
          | zero => exact Nat.le_refl 0
          | succ j => exact (hnone j w (givesAt_cons_succ.mp hj)).elim
      · rintro ⟨i, h, hlast⟩
        have hlater : ∀ j w, GivesAt slots args k j w → j + 1 ≤ i := fun j w hj ↦
          hlast (j + 1) w (givesAt_cons_succ.mpr hj)
        cases i with
        | zero =>
          refine .inr ⟨fun j w hj ↦ ?_, givesAt_cons_zero.mp h⟩
          exact absurd (hlater j w hj) (Nat.not_succ_le_zero j)
        | succ i =>
          refine .inl ⟨i, givesAt_cons_succ.mp h, fun j w hj ↦ ?_⟩
          exact Nat.le_of_succ_le_succ (hlater j w hj)

theorem givesNothing_iff : GivesNothing slots args ↔ ∀ k, given? slots args k = none :=
  forall_congr' fun _ ↦ given?_eq_none_iff.symm

/-- Where the value of a header comes from determines it. -/
theorem resolves_iff {supplied : Headers} {value : Option Value} :
    Resolves slots args supplied k value ↔
      value = (given? slots args k).or (supplied.get? k) := by
  constructor
  · intro h
    cases h with
    | given h => rw [given?_eq_some_iff.mpr h, Option.some_or]
    | supplied h => rw [given?_eq_none_iff.mpr h, Option.none_or]
  · rintro rfl
    cases hgiven : given? slots args k with
    | some v => exact .given (given?_eq_some_iff.mp hgiven)
    | none => exact .supplied (given?_eq_none_iff.mp hgiven)

end Slot

/-! ## The payload and the message among the arguments -/

namespace Slot

variable {slots : List Slot} {args : List Argument} {i : Nat}

/-- Every argument that is accepted stands beside the slot that accepts it. -/
theorem exists_accepting (h : List.Forall₂ Accepts slots args) {a : Argument}
    (ha : args[i]? = some a) : ∃ slot, slots[i]? = some slot ∧ slot.Accepts a := by
  obtain ⟨hlen, haccepts⟩ := List.forall₂_iff_get.mp h
  obtain ⟨hi, rfl⟩ := List.getElem?_eq_some_iff.mp ha
  exact ⟨_, List.getElem?_eq_getElem (hlen ▸ hi), haccepts i (hlen ▸ hi) hi⟩

/-- Every slot stands beside an argument that it accepts. -/
theorem exists_accepted (h : List.Forall₂ Accepts slots args) {slot : Slot}
    (hslot : slots[i]? = some slot) : ∃ a, args[i]? = some a ∧ slot.Accepts a := by
  obtain ⟨hlen, haccepts⟩ := List.forall₂_iff_get.mp h
  obtain ⟨hi, rfl⟩ := List.getElem?_eq_some_iff.mp hslot
  exact ⟨_, List.getElem?_eq_getElem (hlen ▸ hi), haccepts i hi (hlen ▸ hi)⟩

section

variable {α : Type} {f : Argument → Option α} {slot : Slot} {position : Option Nat}

/-- Where only the slot at one position accepts arguments of a kind, the argument there is the last
of its kind. -/
private theorem getLast?_filterMap_eq_some (h : List.Forall₂ Accepts slots args)
    (hf : ∀ slot' a, slot'.Accepts a → (f a).isSome → slot' = slot)
    (hposition : ∀ j, position = some j ↔ slots[j]? = some slot) (hi : position = some i)
    {a : Argument} (ha : args[i]? = some a) {x : α} (hx : f a = some x) :
    (args.filterMap f).getLast? = some x := by
  cases hlast : (args.filterMap f).getLast? with
  | none =>
    have hmem : x ∈ args.filterMap f := List.mem_filterMap.mpr ⟨a, List.mem_of_getElem? ha, hx⟩
    rw [List.getLast?_eq_none_iff.mp hlast] at hmem
    cases hmem
  | some y =>
    obtain ⟨a', ha', hy⟩ := List.mem_filterMap.mp (List.mem_of_getLast? hlast)
    obtain ⟨j, hj⟩ := List.getElem?_of_mem ha'
    obtain ⟨slot', hslot', haccepts⟩ := exists_accepting h hj
    obtain rfl := hf slot' a' haccepts (by rw [hy]; rfl)
    obtain rfl := Option.some.inj (((hposition j).mpr hslot').symm.trans hi)
    obtain rfl := Option.some.inj (ha.symm.trans hj)
    exact hy.symm.trans hx

/-- Without a slot that accepts arguments of a kind there is no such argument. -/
private theorem getLast?_filterMap_eq_none (h : List.Forall₂ Accepts slots args)
    (hf : ∀ slot' a, slot'.Accepts a → (f a).isSome → slot' = slot)
    (hposition : ∀ j, position = some j ↔ slots[j]? = some slot) (hnone : position = none) :
    (args.filterMap f).getLast? = none := by
  refine List.getLast?_eq_none_iff.mpr (List.filterMap_eq_nil_iff.mpr fun a ha ↦ ?_)
  refine Option.not_isSome_iff_eq_none.mp fun hsome ↦ ?_
  obtain ⟨j, hj⟩ := List.getElem?_of_mem ha
  obtain ⟨slot', hslot', haccepts⟩ := exists_accepting h hj
  obtain rfl := hf slot' a haccepts hsome
  cases hnone.symm.trans ((hposition j).mpr hslot')

end

end Slot

namespace Binder.Arranged

variable {b : Binder} {args : List Argument} {i : Nat}

/-- The payload that is gathered is that of the argument in the slot for it. -/
theorem gathered_payload (hb : b.Arranged) (h : List.Forall₂ Slot.Accepts b.slots args)
    (hi : b.payloadSlot = some i) :
    ∃ value, args[i]? = some (.payload value) ∧ value.isNull = false ∧
      (Gathered.none.addAll b.slots args).payload = some value := by
  obtain ⟨a, ha, haccepts⟩ := Slot.exists_accepted h ((hb.payload i).mp hi)
  cases haccepts with
  | payload hnull =>
    refine ⟨_, ha, hnull, Option.or_none.trans ?_⟩
    exact Slot.getLast?_filterMap_eq_some h (fun _ _ ↦ Slot.Accepts.eq_payload) hb.payload hi ha rfl

/-- The message that is gathered is the argument in the slot for it. -/
theorem gathered_envelope (hb : b.Arranged) (h : List.Forall₂ Slot.Accepts b.slots args)
    (hi : b.envelopeSlot = some i) :
    ∃ e, args[i]? = some (.message e) ∧
      (Gathered.none.addAll b.slots args).envelope = some e := by
  obtain ⟨a, ha, haccepts⟩ := Slot.exists_accepted h ((hb.envelope i).mp hi)
  cases haccepts with
  | envelope =>
    refine ⟨_, ha, Option.or_none.trans ?_⟩
    exact Slot.getLast?_filterMap_eq_some h (fun _ _ ↦ Slot.Accepts.eq_envelope) hb.envelope hi ha
      rfl

/-- No payload is gathered where there is no slot for it. -/
theorem gathered_payload_eq_none (hb : b.Arranged) (h : List.Forall₂ Slot.Accepts b.slots args)
    (hnone : b.payloadSlot = none) : (Gathered.none.addAll b.slots args).payload = none :=
  Option.or_none.trans <|
    Slot.getLast?_filterMap_eq_none h (fun _ _ ↦ Slot.Accepts.eq_payload) hb.payload hnone

/-- No message is gathered where there is no slot for it. -/
theorem gathered_envelope_eq_none (hb : b.Arranged) (h : List.Forall₂ Slot.Accepts b.slots args)
    (hnone : b.envelopeSlot = none) : (Gathered.none.addAll b.slots args).envelope = none :=
  Option.or_none.trans <|
    Slot.getLast?_filterMap_eq_none h (fun _ _ ↦ Slot.Accepts.eq_envelope) hb.envelope hnone

end Binder.Arranged

/-! ## The message of the arguments -/

/-- The stamp that a message was built under. -/
def Message.stamp (m : Message) : Stamp := ⟨m.id, m.timestamp⟩

/-- A message that was gathered stays what it is if there is no header to add; otherwise a new
message is made of it, or of the payload. -/
theorem Gathered.finish_cases {g : Gathered} {supplied : Headers} {stamp : Stamp} {r : Message}
    (h : g.finish supplied stamp = .ok r) :
    (∃ e, g.envelope = some e ∧ r.payload = e.payload ∧
      (g.headers.isEmpty = true ∧ supplied.isEmpty = true → r = e) ∧
      (¬(g.headers.isEmpty = true ∧ supplied.isEmpty = true) → r.stamp = stamp)) ∨
    g.envelope = .none ∧ g.payload = some r.payload ∧ r.stamp = stamp := by
  rw [← isEmpty_merged_iff]
  cases finish_eq_ok_iff.mp h with
  | same henvelope hempty =>
    exact .inl ⟨r, henvelope, rfl, fun _ ↦ rfl, fun hsome ↦ (hsome hempty).elim⟩
  | added henvelope hheaders =>
    refine .inl ⟨_, henvelope, rfl, fun hempty ↦ ?_, fun _ ↦ rfl⟩
    rw [hheaders] at hempty
    cases hempty
  | fresh henvelope hpayload => exact .inr ⟨henvelope, hpayload, rfl⟩

namespace Binder

variable {s : Signature} {b : Binder} {args : List Argument} {supplied : Headers} {stamp : Stamp}
  {r : Message}

/-- A message that arguments make has the payload of its argument, or that of the message argument.
A header that the message argument has itself stays as it is there, null included; any other one has
the value that the last argument gives to it, or the supplied value if no argument gives it.  The
message is a new one under its own stamp, unless there is a message argument, no argument gives a
header, and none is supplied: then it is the message argument itself. -/
theorem message_by_precedence (hb : ofSignature s = .ok b)
    (h : b.message args supplied stamp = .ok r) :
    (∀ i, b.payloadSlot = some i → ∃ value, args[i]? = some (.payload value) ∧
      r.payload = value ∧ (∀ k, Slot.Resolves b.slots args supplied k (r.header? k)) ∧
      r.stamp = stamp) ∧
    ∀ i, b.envelopeSlot = some i → ∃ e, args[i]? = some (.message e) ∧
      r.payload = e.payload ∧ (∀ k v, e.header? k = some v → r.header? k = some v) ∧
      (∀ k, e.header? k = none → Slot.Resolves b.slots args supplied k (r.header? k)) ∧
      (Slot.GivesNothing b.slots args ∧ supplied.isEmpty = true → r = e) ∧
      (¬(Slot.GivesNothing b.slots args ∧ supplied.isEmpty = true) → r.stamp = stamp) ∧
      (e.id ≠ stamp.id →
        (r.stamp = e.stamp ↔ Slot.GivesNothing b.slots args ∧ supplied.isEmpty = true)) := by
  have harr := arranged_of_ofSignature hb
  obtain ⟨haccepts, hfinish⟩ := message_eq_ok_iff.mp h
  have hheader := Gathered.header?_of_finish hfinish
  simp only [Gathered.get?_headers_addAll] at hheader
  constructor
  · intro i hi
    obtain ⟨value, hvalue, -, hpayload⟩ := harr.gathered_payload haccepts hi
    have hnone : b.envelopeSlot = none := harr.exclusive.resolve_left (by rw [hi]; exact nofun)
    have henvelope := harr.gathered_envelope_eq_none haccepts hnone
    rcases Gathered.finish_cases hfinish with ⟨e, he, -⟩ | ⟨-, hr, hstamp⟩
    · cases henvelope.symm.trans he
    · refine ⟨value, hvalue, Option.some.inj (hr.symm.trans hpayload), fun k ↦ ?_, hstamp⟩
      rw [Slot.resolves_iff, hheader k, henvelope, Option.bind_none, Option.none_or]
  · intro i hi
    obtain ⟨e, he, henvelope⟩ := harr.gathered_envelope haccepts hi
    have hempty : (Gathered.none.addAll b.slots args).headers.isEmpty = true ↔
        Slot.GivesNothing b.slots args := by
      rw [Dictionary.isEmpty_iff, Slot.givesNothing_iff]
      exact forall_congr' fun k ↦ by rw [Gathered.get?_headers_addAll]
    rcases Gathered.finish_cases hfinish with ⟨e', he', hpayload, hsame, hnew⟩ | ⟨hnone, -⟩
    · obtain rfl := Option.some.inj (henvelope.symm.trans he')
      rw [hempty] at hsame hnew
      simp only [henvelope, Option.bind_some] at hheader
      refine ⟨e, he, hpayload, fun k v hv ↦ ?_, fun k hk ↦ ?_, hsame, hnew, fun hfresh ↦ ?_⟩
      · rw [hheader k, hv, Option.some_or]
      · rw [Slot.resolves_iff, hheader k, hk, Option.none_or]
      · constructor
        · intro hstamp
          by_contra hgiven
          exact hfresh (congrArg Stamp.id (hstamp.symm.trans (hnew hgiven)))
        · intro hgiven
          rw [hsame hgiven]
    · cases henvelope.symm.trans hnone

/-- The tenant is given twice, and the later argument for it is null; so the argument between the
two decides.  The message argument keeps its trace, which is null, the region comes from all headers
although another one is supplied, and only the size is taken from the supplied headers. -/
theorem message_by_precedence_of_four_sources :
    let s : Signature := ⟨"route", [⟨some "tenant", .value, [.header none true]⟩,
      ⟨none, .map, [.headers]⟩, ⟨none, .value, [.header (some "tenant") false]⟩,
      .unnamed .message]⟩
    let slots : List Slot :=
      [.header "tenant" true, .headers false, .header "tenant" false, .envelope]
    let e : Message := ⟨Uuid.issued 0, Timestamp.epoch, .string "order-42",
      Dictionary.ofList [("trace", .null)]⟩
    let args : List Argument := [.header (some (.string "acme")),
      .headers (Dictionary.ofList [("region", .null), ("tenant", .string "bravo")]),
      .header (some .null), .message e]
    let supplied : Headers := Dictionary.ofList
      [("region", .string "north"), ("size", .int 3), ("trace", .string "t-1")]
    let stamp : Stamp := ⟨Uuid.issued 1, Timestamp.epoch⟩
    ∃ b r, ofSignature s = .ok b ∧ b.slots = slots ∧ b.message args supplied stamp = .ok r ∧
      r.payload = .string "order-42" ∧ r.header? "trace" = some .null ∧
      r.header? "tenant" = some (.string "bravo") ∧ r.header? "region" = some .null ∧
      r.header? "size" = some (.int 3) ∧ r.stamp = stamp := by
  intro s slots e args supplied stamp
  let b : Binder := ⟨"route", [⟨0, .value, some "tenant", some ("tenant", true), false, false⟩,
    ⟨1, .map, none, none, true, false⟩, ⟨2, .value, none, some ("tenant", false), false, false⟩,
    ⟨3, .message, none, none, false, true⟩], slots, none, some 1, some 3⟩
  let r : Message := ⟨stamp.id, stamp.time, .string "order-42", Dictionary.ofList
    [("region", .null), ("size", .int 3), ("tenant", .string "bravo"), ("trace", .null)]⟩
  have hb : ofSignature s = .ok b := rfl
  have hr : b.message args supplied stamp = .ok r := rfl
  obtain ⟨e', he, hpayload, hown, hother, -, hnew, -⟩ := (message_by_precedence hb hr).2 3 rfl
  obtain rfl : e = e' := by
    cases he
    rfl
  refine ⟨b, r, hb, rfl, hr, hpayload, hown "trace" .null rfl,
    Slot.resolves_iff.mp (hother "tenant" rfl), Slot.resolves_iff.mp (hother "region" rfl),
    Slot.resolves_iff.mp (hother "size" rfl), hnew ?_⟩
  rintro ⟨-, hempty⟩
  cases hempty

end Binder

end Messaging
