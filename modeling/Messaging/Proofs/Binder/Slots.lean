import Messaging.Binder
import Messaging.Proofs.Signature.Description

/-!
# The slots of a binder

A binder that was built has a slot for each parameter, and the positions that it keeps beside the
slots are where these slots are: at most one slot is for the payload, at most one for the message,
at most one for all headers, and there are never both a slot for the payload and one for the
message.
-/

namespace Messaging

/-! ## Positions -/

/-- Every descriptor knows its position, and plays one role. -/
structure Descriptor.Orderly (ds : List Descriptor) : Prop where
  index_eq : ∀ (i : Nat) (d : Descriptor), ds[i]? = some d → d.index = i
  plays : ∀ d ∈ ds, d.Plays d.role

theorem Signature.orderly_of_descriptors {s : Signature} {ds : List Descriptor}
    (h : s.descriptors = .ok ds) : Descriptor.Orderly ds := by
  obtain ⟨hlen, hdesc⟩ := List.forall₂_iff_get.mp (describeFrom_eq_ok_iff.mp h)
  constructor
  · intro i d hd
    obtain ⟨hi, rfl⟩ := List.getElem?_eq_some_iff.mp hd
    have hpos := (hdesc i (hlen ▸ hi) hi).index_eq
    simpa using hpos
  · intro d hd
    obtain ⟨i, hi, rfl⟩ := List.getElem_of_mem hd
    exact (hdesc i (hlen ▸ hi) hi).plays

namespace Binder

variable {ds : List Descriptor}

/-- A descriptor that is selected alone is found at its position. -/
theorem position?_eq_some_iff (hds : Descriptor.Orderly ds) {f : Descriptor → Bool}
    (hone : (ds.filter f).length ≤ 1) {i : Nat} :
    position? (ds.filter f) = some i ↔ ∃ d, ds[i]? = some d ∧ f d = true := by
  unfold position?
  constructor
  · intro h
    obtain ⟨d, hd, rfl⟩ := Option.map_eq_some_iff.mp h
    obtain ⟨hmem, hf⟩ := List.mem_filter.mp (List.mem_of_mem_head? hd)
    obtain ⟨j, hj⟩ := List.getElem?_of_mem hmem
    rw [hds.index_eq j d hj]
    exact ⟨d, hj, hf⟩
  · rintro ⟨d, hd, hf⟩
    have hmem : d ∈ ds.filter f := List.mem_filter.mpr ⟨List.mem_of_getElem? hd, hf⟩
    have hall : ds.filter f = [d] := by
      cases hl : ds.filter f with
      | nil =>
        rw [hl] at hmem
        cases hmem
      | cons x rest =>
        rw [hl] at hmem hone
        obtain rfl : rest = [] := List.length_eq_zero_iff.mp (by simpa using hone)
        rw [List.mem_singleton.mp hmem]
    rw [hall, List.head?_cons, Option.map_some, hds.index_eq i d hd]

/-- As long as no two descriptors compete, the position of one tells whether it is selected. -/
theorem position?_eq_some_index_iff (hds : Descriptor.Orderly ds) {f : Descriptor → Bool}
    (hone : (ds.filter f).length ≤ 1) {i : Nat} {d : Descriptor} (hd : ds[i]? = some d) :
    position? (ds.filter f) = some d.index ↔ f d = true := by
  rw [hds.index_eq i d hd, position?_eq_some_iff hds hone]
  constructor
  · rintro ⟨d', hd', hf⟩
    obtain rfl : d = d' := Option.some.inj (hd.symm.trans hd')
    exact hf
  · exact fun hf ↦ ⟨d, hd, hf⟩

/-! ## Slots -/

/-- The slot that the role of a parameter asks for. -/
def slotFor (ds : List Descriptor) (d : Descriptor) : Slot :=
  match d.role with
  | .header key required => .header key required
  | .headers => .headers (d.kind = .properties)
  | .envelope => .envelope
  | .candidate => if yields ds d then .headers (d.kind = .properties) else .payload

theorem slotOf_eq_slotFor (hds : Descriptor.Orderly ds) (he : (envelopes ds).length ≤ 1)
    (hb : (bulk ds).length ≤ 1) {i : Nat} {d : Descriptor} (hd : ds[i]? = some d) :
    slotOf (position? (bulk ds)) (position? (envelopes ds)) d = slotFor ds d := by
  have hbulk := position?_eq_some_index_iff hds hb hd
  have henv := position?_eq_some_index_iff hds he hd
  rw [← bulk] at hbulk
  rw [← envelopes] at henv
  unfold slotOf slotFor Descriptor.role
  cases hheader : d.header? with
  | some header => rfl
  | none =>
    simp only [hbulk, henv, yields, Descriptor.isCandidate, hheader]
    cases d.isBulk <;> cases d.isEnvelope <;> cases contested ds <;> simp

theorem slotFor_eq_payload_iff {d : Descriptor} (h : d.Plays d.role) :
    slotFor ds d = .payload ↔ (d.isCandidate && !yields ds d) = true := by
  rw [slotFor, h.isCandidate_eq]
  cases d.role with
  | header key required => simp
  | headers => simp
  | envelope => simp
  | candidate => cases yields ds d <;> simp

theorem slotFor_eq_envelope_iff {d : Descriptor} (h : d.Plays d.role) :
    slotFor ds d = .envelope ↔ d.isEnvelope = true := by
  rw [slotFor, h.isEnvelope_eq]
  cases d.role with
  | header key required => simp
  | headers => simp
  | envelope => simp
  | candidate => cases yields ds d <;> simp

theorem slotFor_eq_header_iff {d : Descriptor} {key : String} {required : Bool} :
    slotFor ds d = .header key required ↔ d.role = .header key required := by
  rw [slotFor]
  cases d.role with
  | header => simp
  | headers => simp
  | envelope => simp
  | candidate => cases yields ds d <;> simp

/-- Which headers a slot for all of them takes depends on the declared type. -/
theorem strings_of_slotFor {d : Descriptor} {strings : Bool}
    (h : slotFor ds d = .headers strings) : strings = decide (d.kind = .properties) := by
  rw [slotFor] at h
  cases hr : d.role with
  | header => simp [hr] at h
  | headers => simpa [hr, eq_comm] using h
  | envelope => simp [hr] at h
  | candidate =>
    rw [hr] at h
    cases hy : yields ds d with
    | true => simpa [hy, eq_comm] using h
    | false => simp [hy] at h

theorem exists_slotFor_eq_headers_iff {d : Descriptor} (h : d.Plays d.role) :
    (∃ strings, slotFor ds d = .headers strings) ↔ (d.isBulk || yields ds d) = true := by
  rw [slotFor, yields, h.isBulk_eq, h.isCandidate_eq]
  cases d.role with
  | header key required => simp
  | headers => simp
  | envelope => simp
  | candidate => cases contested ds <;> cases d.kind.holdsHeaders <;> simp

/-- Where no two descriptors compete for slots of one sort, the one that is selected for them stands
where such a slot is. -/
theorem position?_eq_some_iff_slotFor (hds : Descriptor.Orderly ds) {f : Descriptor → Bool}
    {P : Slot → Prop} (hone : (ds.filter f).length ≤ 1)
    (hP : ∀ d ∈ ds, P (slotFor ds d) ↔ f d = true) {i : Nat} :
    position? (ds.filter f) = some i ↔ ∃ slot, (ds.map (slotFor ds))[i]? = some slot ∧ P slot := by
  rw [position?_eq_some_iff hds hone]
  simp only [List.getElem?_map, Option.map_eq_some_iff]
  constructor
  · rintro ⟨d, hd, hf⟩
    exact ⟨_, ⟨d, hd, rfl⟩, (hP d (List.mem_of_getElem? hd)).mpr hf⟩
  · rintro ⟨_, ⟨d, hd, rfl⟩, hs⟩
    exact ⟨d, hd, (hP d (List.mem_of_getElem? hd)).mp hs⟩

/-- The positions that a binder keeps are those of its slots. -/
structure Arranged (b : Binder) : Prop where
  payload : ∀ i, b.payloadSlot = some i ↔ b.slots[i]? = some .payload
  envelope : ∀ i, b.envelopeSlot = some i ↔ b.slots[i]? = some .envelope
  headers : ∀ i, b.bulkSlot = some i ↔ ∃ strings, b.slots[i]? = some (.headers strings)
  exclusive : b.payloadSlot = none ∨ b.envelopeSlot = none

/-- What holds of a binder that was built: nothing competed, and so the slots are those that the
roles ask for. -/
theorem ofDescriptors_eq_ok {handler : String} {b : Binder} (hds : Descriptor.Orderly ds)
    (h : ofDescriptors handler ds = .ok b) :
    (kept ds).length + (envelopes ds).length ≤ 1 ∧ (bulk ds).length ≤ 1 ∧
      b = ⟨handler, ds, ds.map (slotFor ds), position? (kept ds), position? (bulk ds),
        position? (envelopes ds)⟩ := by
  unfold ofDescriptors at h
  by_cases he : 1 < (envelopes ds).length
  · rw [if_pos he] at h
    cases h
  rw [if_neg he] at h
  by_cases hk : 1 < (kept ds).length + (envelopes ds).length
  · rw [if_pos hk] at h
    cases h
  rw [if_neg hk] at h
  by_cases hb : 1 < (bulk ds).length
  · rw [if_pos hb] at h
    cases h
  rw [if_neg hb] at h
  cases h
  refine ⟨Nat.not_lt.mp hk, Nat.not_lt.mp hb, ?_⟩
  congr 1
  refine List.map_congr_left fun d hd ↦ ?_
  obtain ⟨i, hi⟩ := List.getElem?_of_mem hd
  exact slotOf_eq_slotFor hds (Nat.not_lt.mp he) (Nat.not_lt.mp hb) hi

theorem arranged_of_ofDescriptors {handler : String} {b : Binder} (hds : Descriptor.Orderly ds)
    (h : ofDescriptors handler ds = .ok b) : b.Arranged := by
  obtain ⟨hone, hb, rfl⟩ := ofDescriptors_eq_ok hds h
  have hk : (kept ds).length ≤ 1 := Nat.le_of_add_right_le hone
  have he : (envelopes ds).length ≤ 1 := Nat.le_of_add_left_le hone
  constructor
  · intro i
    refine (position?_eq_some_iff_slotFor hds (P := (· = .payload)) hk fun d hd ↦ ?_).trans
      exists_eq_right
    exact slotFor_eq_payload_iff (hds.plays d hd)
  · intro i
    refine (position?_eq_some_iff_slotFor hds (P := (· = .envelope)) he fun d hd ↦ ?_).trans
      exists_eq_right
    exact slotFor_eq_envelope_iff (hds.plays d hd)
  · intro i
    refine (position?_eq_some_iff_slotFor hds (P := fun slot ↦ ∃ strings, slot = .headers strings)
      hb fun d hd ↦ exists_slotFor_eq_headers_iff (hds.plays d hd)).trans ?_
    constructor
    · rintro ⟨_, hs, strings, rfl⟩
      exact ⟨strings, hs⟩
    · rintro ⟨strings, hs⟩
      exact ⟨_, hs, strings, rfl⟩
  · show position? (kept ds) = none ∨ position? (envelopes ds) = none
    cases hl : kept ds with
    | nil => exact .inl rfl
    | cons d rest =>
      have hnil : envelopes ds = [] := by
        rw [hl, List.length_cons] at hone
        exact List.length_eq_zero_iff.mp (by omega)
      rw [hnil]
      exact .inr rfl

section

variable {s : Signature} {b : Binder}

/-- A binder that was built is that of the descriptors which it keeps. -/
theorem ofSignature_eq_ok (h : ofSignature s = .ok b) :
    s.descriptors = .ok b.descriptors ∧ ofDescriptors s.name b.descriptors = .ok b := by
  rw [ofSignature] at h
  cases hs : s.descriptors with
  | error e =>
    rw [hs] at h
    cases h
  | ok ds =>
    rw [hs] at h
    obtain ⟨-, -, hb⟩ := ofDescriptors_eq_ok (Signature.orderly_of_descriptors hs) h
    obtain rfl : b.descriptors = ds := congrArg descriptors hb
    exact ⟨rfl, h⟩

/-- The positions that a binder keeps are those of its slots, whatever signature it is for. -/
theorem arranged_of_ofSignature (h : ofSignature s = .ok b) : b.Arranged := by
  obtain ⟨hs, hb⟩ := ofSignature_eq_ok h
  exact arranged_of_ofDescriptors (Signature.orderly_of_descriptors hs) hb

/-- The slots of a binder that was built are those that the roles of its descriptors ask for. -/
theorem slots_eq_map (h : ofSignature s = .ok b) :
    b.slots = b.descriptors.map (slotFor b.descriptors) := by
  obtain ⟨hs, hb⟩ := ofSignature_eq_ok h
  obtain ⟨-, -, hb⟩ := ofDescriptors_eq_ok (Signature.orderly_of_descriptors hs) hb
  exact congrArg slots hb

/-- At the position of a parameter a binder keeps its descriptor, and has the slot for its role. -/
theorem getElem?_of_parameter (h : ofSignature s = .ok b) {i : Nat} {p : Parameter}
    (hp : s.parameters[i]? = some p) :
    ∃ d, Descriptor.Describes s.name (p, i) d ∧ b.descriptors[i]? = some d ∧
      b.slots[i]? = some (slotFor b.descriptors d) := by
  obtain ⟨hlen, hdesc⟩ :=
    List.forall₂_iff_get.mp (describeFrom_eq_ok_iff.mp (ofSignature_eq_ok h).1)
  obtain ⟨hi, rfl⟩ := List.getElem?_eq_some_iff.mp hp
  have hi' : i < b.descriptors.length := by simpa [← hlen] using hi
  refine ⟨b.descriptors[i], ?_, List.getElem?_eq_getElem hi', ?_⟩
  · simpa using hdesc i (by simpa using hi) hi'
  · rw [slots_eq_map h, List.getElem?_map, List.getElem?_eq_getElem hi', Option.map_some]

/-- A binder that was built has one slot for each parameter. -/
theorem length_slots (h : ofSignature s = .ok b) : b.slots.length = s.parameters.length := by
  have hlen := (describeFrom_eq_ok_iff.mp (ofSignature_eq_ok h).1).length_eq
  rw [slots_eq_map h, List.length_map, ← hlen, List.length_zipIdx]

/-- A binder that was built has one slot for each parameter.  The positions that it keeps for the
payload, for all headers and for the message are where the slots of these sorts stand, and there is
never one for the payload beside one for the message.  The slot of a parameter is for a header if
and only if the parameter is marked for one, and then it has the key and the flag of the descriptor;
a slot for all headers takes only texts if and only if the parameter is declared as properties. -/
theorem slots_agree_with_positions (h : ofSignature s = .ok b) :
    b.slots.length = s.parameters.length ∧
    (∀ i, b.slots[i]? = some .payload ↔ b.payloadSlot = some i) ∧
    (∀ i, (∃ strings, b.slots[i]? = some (.headers strings)) ↔ b.bulkSlot = some i) ∧
    (∀ i, b.slots[i]? = some .envelope ↔ b.envelopeSlot = some i) ∧
    (b.payloadSlot = none ∨ b.envelopeSlot = none) ∧
    ∀ i p, s.parameters[i]? = some p → ∃ d, Descriptor.ofParameter s.name i p = .ok d ∧
      b.descriptors[i]? = some d ∧
      ((∃ key required, b.slots[i]? = some (.header key required)) ↔
        ∃ name required, .header name required ∈ p.markers) ∧
      (∀ key required, b.slots[i]? = some (.header key required) ↔
        d.header? = some (key, required)) ∧
      ∀ strings, b.slots[i]? = some (.headers strings) →
        (strings = true ↔ p.kind = .properties) := by
  have harr := arranged_of_ofSignature h
  refine ⟨length_slots h, fun i ↦ (harr.payload i).symm, fun i ↦ (harr.headers i).symm,
    fun i ↦ (harr.envelope i).symm, harr.exclusive, fun i p hp ↦ ?_⟩
  obtain ⟨d, hd, hdescriptor, hslot⟩ := getElem?_of_parameter h hp
  have hheader : ∀ key required, b.slots[i]? = some (.header key required) ↔
      d.header? = some (key, required) := by
    intro key required
    rw [hslot, Option.some.injEq, slotFor_eq_header_iff, Descriptor.role_eq_header_iff]
  refine ⟨d, hd, hdescriptor, ?_, hheader, fun strings hstrings ↦ ?_⟩
  · rw [← hd.hasRole.exists_header_iff]
    exact exists_congr fun key ↦ exists_congr fun required ↦
      (hheader key required).trans Descriptor.role_eq_header_iff.symm
  · rw [hslot, Option.some.injEq] at hstrings
    rw [strings_of_slotFor hstrings, decide_eq_true_iff, hd.kind_eq]

/-- An unmarked properties parameter beside a value takes the headers, all of which have to be
texts; the key of the header parameter is its own name without the white space around it. -/
theorem slots_agree_with_positions_of_properties :
    let s : Signature := ⟨"ship", [⟨some " region ", .map, [.header none false]⟩,
      .unnamed .properties, .unnamed .value]⟩
    ∃ b, ofSignature s = .ok b ∧ b.slots.length = 3 ∧ b.payloadSlot = some 2 ∧
      b.bulkSlot = some 1 ∧ b.envelopeSlot ≠ some 0 ∧
      b.slots[0]? = some (.header "region" false) ∧ b.slots[1]? = some (.headers true) := by
  intro s
  let b : Binder := ⟨"ship", [⟨0, .map, some "region", some ("region", false), false, false⟩,
    ⟨1, .properties, none, none, false, false⟩, ⟨2, .value, none, none, false, false⟩],
    [.header "region" false, .headers true, .payload], some 2, some 1, none⟩
  have hb : ofSignature s = .ok b := rfl
  obtain ⟨hlen, hpayload, hheaders, henvelope, -, hslots⟩ := slots_agree_with_positions hb
  obtain ⟨d, hd, -, -, hheader, -⟩ := hslots 0 _ rfl
  cases hd
  refine ⟨b, hb, hlen, (hpayload 2).mp rfl, (hheaders 1).mp ⟨true, rfl⟩, fun h ↦ ?_,
    (hheader "region" false).mpr rfl, rfl⟩
  cases (henvelope 0).mpr h

end

namespace Arranged

variable {b : Binder}

theorem payload_mem_iff (h : b.Arranged) : .payload ∈ b.slots ↔ b.payloadSlot.isSome := by
  rw [List.mem_iff_getElem?, Option.isSome_iff_exists]
  exact exists_congr fun i ↦ (h.payload i).symm

theorem envelope_mem_iff (h : b.Arranged) : .envelope ∈ b.slots ↔ b.envelopeSlot.isSome := by
  rw [List.mem_iff_getElem?, Option.isSome_iff_exists]
  exact exists_congr fun i ↦ (h.envelope i).symm

end Arranged

end Binder

end Messaging
