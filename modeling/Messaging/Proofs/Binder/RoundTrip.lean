import Messaging.Proofs.Binder.Merging
import Messaging.Proofs.Binder.Slots

/-!
# From a message to arguments and back

The arguments of a message, turned into a message again, give back its payload and those of its
headers that some slot binds; all other headers are the supplied ones.

The arguments are taken in slot by slot.  Whatever the slots are, and however often they name the
same header, what was gathered after some of them is what these slots bind of the message: each
header that one of them writes has the value that it has in the message.
-/

namespace Messaging

/-! ## Bound headers -/

/-- The slot binds the header `k` of the message. -/
inductive Slot.Binds (m : Message) (k : String) : Slot → Prop
  /-- It is for this header, which is not null. -/
  | header {required : Bool} {v : Value} (h : m.header? k = some v) (hv : v.isNull = false) :
      Binds m k (.header k required)
  /-- It is for all headers. -/
  | headers {v : Value} (h : m.header? k = some v) : Binds m k (.headers false)
  /-- It is for all texts, and the header is one. -/
  | strings {text : String} (h : m.header? k = some (.string text)) : Binds m k (.headers true)
  /-- It is for the message. -/
  | envelope {v : Value} (h : m.header? k = some v) : Binds m k .envelope

/-- Some slot of the binder binds the header `k` of the message. -/
def Binder.Binds (b : Binder) (m : Message) (k : String) : Prop := ∃ slot ∈ b.slots, slot.Binds m k

theorem Slot.binds_header_iff {m : Message} {k key : String} {required : Bool} {v : Value} :
    (Slot.header key required).Binds m k ∧ m.header? k = some v ↔
      key = k ∧ m.bound? k = some v := by
  constructor
  · rintro ⟨⟨h, hnull⟩ | - | - | -, hv⟩
    obtain rfl := Option.some.inj (h.symm.trans hv)
    exact ⟨rfl, Message.bound?_eq_some_iff.mpr ⟨h, hnull⟩⟩
  · rintro ⟨rfl, hv⟩
    obtain ⟨h, hnull⟩ := Message.bound?_eq_some_iff.mp hv
    exact ⟨.header h hnull, h⟩

theorem Slot.Binds.header?_isSome {m : Message} {k : String} {slot : Slot} (h : slot.Binds m k) :
    ∃ v, m.header? k = some v := by
  cases h with
  | header h => exact ⟨_, h⟩
  | headers h => exact ⟨_, h⟩
  | strings h => exact ⟨_, h⟩
  | envelope h => exact ⟨_, h⟩

/-! ## What is gathered -/

namespace Gathered

/-- What was gathered is what these slots bind of the message. -/
structure Reads (m : Message) (slots : List Slot) (g : Gathered) : Prop where
  payload : g.payload = if .payload ∈ slots then some m.payload else Option.none
  envelope : g.envelope = if .envelope ∈ slots then some m else Option.none
  headers : ∀ k v, g.headers.get? k = some v ↔
    (∃ slot ∈ slots, slot ≠ .envelope ∧ slot.Binds m k) ∧ m.header? k = some v

theorem reads_none (m : Message) : none.Reads m [] := by
  refine ⟨rfl, rfl, fun k v ↦ ?_⟩
  constructor
  · intro h
    cases h
  · rintro ⟨⟨slot, hmem, -⟩, -⟩
    cases hmem

variable {m : Message} {slots : List Slot} {g : Gathered}

theorem Reads.append {slot : Slot} {g' : Gathered} (h : g.Reads m slots)
    (hp : g'.payload = if slot = .payload then some m.payload else g.payload)
    (he : g'.envelope = if slot = .envelope then some m else g.envelope)
    (hh : ∀ k v, g'.headers.get? k = some v ↔
      (slot ≠ .envelope ∧ slot.Binds m k) ∧ m.header? k = some v ∨ g.headers.get? k = some v) :
    g'.Reads m (slots ++ [slot]) := by
  refine ⟨?_, ?_, fun k v ↦ ?_⟩
  · rw [hp, h.payload]
    by_cases hs : slot = .payload
    · simp [hs]
    · simp [hs, Ne.symm hs]
  · rw [he, h.envelope]
    by_cases hs : slot = .envelope
    · simp [hs]
    · simp [hs, Ne.symm hs]
  · rw [hh, h.headers, ← or_and_right]
    refine and_congr_left fun _ ↦ ?_
    simp only [List.mem_append, List.mem_singleton, or_and_right, exists_or, exists_eq_left]
    exact or_comm

/-- A slot that writes headers of the message, and nothing else. -/
theorem Reads.write {slot : Slot} (h : g.Reads m slots) (hp : slot ≠ .payload)
    (he : slot ≠ .envelope) {headers : Headers} (written : String → Option Value)
    (hheaders : ∀ k, headers.get? k = (written k).or (g.headers.get? k))
    (hwritten : ∀ k v, written k = some v ↔ slot.Binds m k ∧ m.header? k = some v) :
    ({ g with headers := headers }).Reads m (slots ++ [slot]) := by
  refine h.append (if_neg hp).symm (if_neg he).symm fun k v ↦ ?_
  rw [hheaders, Option.or_eq_some_iff, and_iff_right he, ← hwritten]
  constructor
  · rintro (hw | ⟨-, hv⟩)
    · exact .inl hw
    · exact .inr hv
  · rintro (hw | hv)
    · exact .inl hw
    -- What was there before has the value of the message, as has what is written over it.
    · cases hk : written k with
      | none => exact .inr ⟨rfl, hv⟩
      | some w =>
        have hw := ((hwritten k w).mp hk).2
        exact .inl (hw.symm.trans ((h.headers k v).mp hv).2)

theorem Reads.take_header {key : String} {required : Bool} {a : Argument} (h : g.Reads m slots)
    (ha : (Slot.header key required).argument m = .ok a) (index : Nat) :
    ∃ g', g.take index (.header key required) a = .ok g' ∧
      g'.Reads m (slots ++ [.header key required]) := by
  have hwritten : ∀ k v, (if key = k then m.bound? k else Option.none) = some v ↔
      (Slot.header key required).Binds m k ∧ m.header? k = some v := by
    intro k v
    rw [Slot.binds_header_iff]
    by_cases hk : key = k
    · rw [if_pos hk, and_iff_right hk]
    · simp [hk]
  cases hb : m.bound? key with
  | some value =>
    obtain rfl : .header (some value) = a := by simpa [Slot.argument, hb] using ha
    have hnull := (Message.bound?_eq_some_iff.mp hb).2
    refine ⟨{ g with headers := g.headers.insert key value }, ?_, ?_⟩
    · unfold Gathered.take
      simp [Option.filter_some_pos, hnull]
    · refine h.write (by rintro ⟨⟩) (by rintro ⟨⟩) _ (fun k ↦ ?_) hwritten
      rw [Dictionary.get?_insert]
      by_cases hk : key = k
      · subst hk
        simp [hb]
      · simp [hk]
  | none =>
    cases required with
    | true => simp [Slot.argument, hb] at ha
    | false =>
      obtain rfl : .header Option.none = a := by simpa [Slot.argument, hb] using ha
      refine ⟨g, rfl, ?_⟩
      refine h.write (by rintro ⟨⟩) (by rintro ⟨⟩) _ (fun k ↦ ?_) hwritten
      by_cases hk : key = k
      · subst hk
        simp [hb]
      · simp [hk]

theorem Reads.take_headers {strings : Bool} {a : Argument} (h : g.Reads m slots)
    (ha : (Slot.headers strings).argument m = .ok a) (index : Nat) :
    ∃ g', g.take index (.headers strings) a = .ok g' ∧
      g'.Reads m (slots ++ [.headers strings]) := by
  cases strings with
  | false =>
    obtain rfl : .headers m.headers = a := by simpa [Slot.argument] using ha
    refine ⟨_, rfl, h.write (by rintro ⟨⟩) (by rintro ⟨⟩) m.headers.get?
      (fun k ↦ Dictionary.get?_insertAll _ _ _) fun k v ↦ ?_⟩
    exact ⟨fun hv ↦ ⟨.headers hv, hv⟩, And.right⟩
  | true =>
    obtain rfl : .properties m.headers.stringValues = a := by simpa [Slot.argument] using ha
    refine ⟨_, rfl, h.write (by rintro ⟨⟩) (by rintro ⟨⟩) m.headers.stringValues.asHeaders.get?
      (fun k ↦ Dictionary.get?_insertAll _ _ _) fun k v ↦ ?_⟩
    rw [Dictionary.get?_asHeaders, Dictionary.get?_stringValues, Option.map_eq_some_iff]
    constructor
    · rintro ⟨text, htext, rfl⟩
      obtain ⟨w, hw, hstring⟩ := Option.bind_eq_some_iff.mp htext
      obtain rfl := Value.string?_eq_some_iff.mp hstring
      exact ⟨.strings hw, hw⟩
    · rintro ⟨- | - | htext | -, hv⟩
      rename_i text
      obtain rfl := Option.some.inj (htext.symm.trans hv)
      exact ⟨text, Option.bind_eq_some_iff.mpr ⟨_, htext, rfl⟩, rfl⟩

/-- Taking in the argument that the message gives to a slot adds what the slot binds. -/
theorem Reads.take {slot : Slot} {a : Argument} (h : g.Reads m slots) (ha : slot.argument m = .ok a)
    (index : Nat) : ∃ g', g.take index slot a = .ok g' ∧ g'.Reads m (slots ++ [slot]) := by
  cases slot with
  | payload =>
    cases hnull : m.payload.isNull with
    | true => simp [Slot.argument, hnull] at ha
    | false =>
      obtain rfl : .payload m.payload = a := by simpa [Slot.argument, hnull] using ha
      refine ⟨{ g with payload := some m.payload }, by simp [Gathered.take, hnull], ?_⟩
      refine h.append (if_pos rfl).symm rfl fun k v ↦ ?_
      have hbinds : ¬Slot.payload.Binds m k := by rintro ⟨⟩
      simp [hbinds]
  | envelope =>
    obtain rfl : .message m = a := by simpa [Slot.argument] using ha
    refine ⟨{ g with envelope := some m }, rfl, ?_⟩
    exact h.append rfl (if_pos rfl).symm fun k v ↦ by simp
  | header key required => exact h.take_header ha index
  | headers strings => exact h.take_headers ha index

/-- The arguments of a message are taken in without fault, and add what their slots bind. -/
theorem Reads.takeAll {seen slots : List Slot} {args : List Argument} (h : g.Reads m seen)
    (hargs : Slot.arguments m slots = .ok args) (index : Nat) :
    ∃ g', g.takeAll index slots args = .ok g' ∧ g'.Reads m (seen ++ slots) := by
  induction slots generalizing g seen args index with
  | nil => exact ⟨g, rfl, by rwa [List.append_nil]⟩
  | cons slot rest ih =>
    obtain ⟨a, as, ha, has, rfl⟩ := Slot.arguments_cons_eq_ok_iff.mp hargs
    obtain ⟨g', hg', h'⟩ := h.take ha index
    obtain ⟨g'', hg'', h''⟩ := ih h' has (index + 1)
    refine ⟨g'', ?_, by simpa using h''⟩
    rw [Gathered.takeAll, hg']
    exact hg''

/-! ## The message of what was gathered -/

/-- A header is the one of the message where it is bound, and the supplied one elsewhere. -/
structure Merges (m : Message) (slots : List Slot) (supplied : Headers) (k : String)
    (value : Option Value) : Prop where
  bound : (∃ slot ∈ slots, slot.Binds m k) → value = m.header? k
  supplied : (¬∃ slot ∈ slots, slot.Binds m k) → value = supplied.get? k

/-- With a slot for the message, it keeps its headers and gains those that were gathered. -/
theorem Reads.merges_envelope (h : g.Reads m slots) (he : .envelope ∈ slots) (supplied : Headers)
    (k : String) :
    Merges m slots supplied k ((m.header? k).or ((g.headers.get? k).or (supplied.get? k))) := by
  cases hm : m.header? k with
  | some v =>
    have hbound : ∃ slot ∈ slots, slot.Binds m k := ⟨.envelope, he, .envelope hm⟩
    exact ⟨fun _ ↦ hm.symm, fun hfree ↦ (hfree hbound).elim⟩
  | none =>
    have hfree : ¬∃ slot ∈ slots, slot.Binds m k := by
      rintro ⟨slot, -, hb⟩
      obtain ⟨v, hv⟩ := hb.header?_isSome
      rw [hm] at hv
      cases hv
    refine ⟨fun hbound ↦ (hfree hbound).elim, fun _ ↦ ?_⟩
    have hg : g.headers.get? k = Option.none := by
      refine Option.eq_none_iff_forall_ne_some.mpr fun v hv ↦ ?_
      rw [((h.headers k v).mp hv).2] at hm
      cases hm
    rw [Option.none_or, hg, Option.none_or]

/-- Without a slot for the message, the headers are those that were gathered. -/
theorem Reads.merges (h : g.Reads m slots) (he : .envelope ∉ slots) (supplied : Headers)
    (k : String) :
    Merges m slots supplied k ((g.headers.get? k).or (supplied.get? k)) := by
  constructor
  · rintro ⟨slot, hs, hb⟩
    obtain ⟨v, hv⟩ := hb.header?_isSome
    have hne : slot ≠ .envelope := by
      rintro rfl
      exact he hs
    rw [(h.headers k v).mpr ⟨⟨slot, hs, hne, hb⟩, hv⟩, hv]
    rfl
  · intro hfree
    have hg : g.headers.get? k = Option.none := by
      refine Option.eq_none_iff_forall_ne_some.mpr fun v hv ↦ ?_
      obtain ⟨⟨slot, hs, -, hb⟩, -⟩ := (h.headers k v).mp hv
      exact hfree ⟨slot, hs, hb⟩
    rw [hg]
    rfl

theorem Reads.finish (h : g.Reads m slots) (hnull : m.payload.isNull = false)
    (hslots : .payload ∈ slots ∨ .envelope ∈ slots) (supplied : Headers) (stamp : Stamp) :
    ∃ r, g.finish supplied stamp = .ok r ∧ r.payload = m.payload ∧
      ∀ k, Merges m slots supplied k (r.header? k) := by
  by_cases he : .envelope ∈ slots
  · have henvelope := h.envelope.trans (if_pos he)
    obtain ⟨r, hr, hp⟩ := exists_finish_iff.mpr (.inl ⟨m, henvelope, rfl, .inl hnull⟩)
    refine ⟨r, hr, hp, fun k ↦ ?_⟩
    rw [header?_of_finish hr, henvelope, Option.bind_some]
    exact h.merges_envelope he supplied k
  · have henvelope := h.envelope.trans (if_neg he)
    have hpayload := h.payload.trans (if_pos (hslots.resolve_right he))
    obtain ⟨r, hr, hp⟩ := exists_finish_iff.mpr (.inr ⟨henvelope, hpayload, hnull⟩)
    refine ⟨r, hr, hp, fun k ↦ ?_⟩
    rw [header?_of_finish hr, henvelope, Option.bind_none, Option.none_or]
    exact h.merges he supplied k

theorem Reads.finish_eq_error (h : g.Reads m slots) (hp : .payload ∉ slots) (he : .envelope ∉ slots)
    (supplied : Headers) (stamp : Stamp) :
    g.finish supplied stamp = .error .missingPayloadForOutbound :=
  finish_of_nothing (h.envelope.trans (if_neg he)) (h.payload.trans (if_neg hp))

end Gathered

namespace Binder

variable {b : Binder} {m : Message} {args : List Argument}

/-- The message of a message's arguments is made of what the slots bind. -/
theorem message_eq_finish (h : b.arguments m = .ok args) (supplied : Headers) (stamp : Stamp) :
    ∃ g, b.message args supplied stamp = Gathered.finish g supplied stamp ∧ g.Reads m b.slots := by
  obtain ⟨g, hg, hreads⟩ := (Gathered.reads_none m).takeAll h 0
  refine ⟨g, ?_, hreads⟩
  unfold message
  rw [if_neg (not_not.mpr (Slot.length_arguments h)), hg]

/-- A message that was turned into arguments and back has its payload again, the headers that the
binder binds, and all other headers as they are supplied.  Supplied with its own headers it has
exactly these, and supplied with none it has those that are bound.  If there is a slot neither for
the payload nor for the message, there is no way back. -/
theorem message_of_arguments {s : Signature} (hb : ofSignature s = .ok b)
    (hargs : b.arguments m = .ok args) :
    (m.payload.isNull = false → (b.payloadSlot.isSome ∨ b.envelopeSlot.isSome) →
      (∀ supplied stamp, ∃ r, b.message args supplied stamp = .ok r ∧ r.payload = m.payload ∧
        ∀ k, (b.Binds m k → r.header? k = m.header? k) ∧
          (¬b.Binds m k → r.header? k = supplied.get? k)) ∧
      (∀ stamp, ∃ r, b.message args m.headers stamp = .ok r ∧ r.payload = m.payload ∧
        r.headers = m.headers) ∧
      ∀ stamp, ∃ r, b.message args Dictionary.empty stamp = .ok r ∧ r.payload = m.payload ∧
        ∀ k v, r.header? k = some v ↔ b.Binds m k ∧ m.header? k = some v) ∧
    (b.payloadSlot = none → b.envelopeSlot = none → ∀ supplied stamp,
      b.message args supplied stamp = .error .missingPayloadForOutbound) := by
  have harr := arranged_of_ofSignature hb
  constructor
  · intro hnull hslots
    rw [← harr.payload_mem_iff, ← harr.envelope_mem_iff] at hslots
    have hback : ∀ supplied stamp, ∃ r, b.message args supplied stamp = .ok r ∧
        r.payload = m.payload ∧ ∀ k, (b.Binds m k → r.header? k = m.header? k) ∧
          (¬b.Binds m k → r.header? k = supplied.get? k) := by
      intro supplied stamp
      obtain ⟨g, hg, hreads⟩ := message_eq_finish hargs supplied stamp
      obtain ⟨r, hr, hp, hk⟩ := hreads.finish hnull hslots supplied stamp
      exact ⟨r, hg.trans hr, hp, fun k ↦ ⟨(hk k).bound, (hk k).supplied⟩⟩
    refine ⟨hback, fun stamp ↦ ?_, fun stamp ↦ ?_⟩
    · obtain ⟨r, hr, hp, hk⟩ := hback m.headers stamp
      refine ⟨r, hr, hp, Dictionary.ext_get? fun k ↦ ?_⟩
      by_cases hbinds : b.Binds m k
      · exact (hk k).1 hbinds
      · exact (hk k).2 hbinds
    · obtain ⟨r, hr, hp, hk⟩ := hback Dictionary.empty stamp
      refine ⟨r, hr, hp, fun k v ↦ ?_⟩
      by_cases hbinds : b.Binds m k
      · rw [(hk k).1 hbinds, and_iff_right hbinds]
      · rw [(hk k).2 hbinds]
        constructor
        · intro h
          cases h
        · exact fun h ↦ (hbinds h.1).elim
  · intro hp he supplied stamp
    obtain ⟨g, hg, hreads⟩ := message_eq_finish hargs supplied stamp
    rw [hg]
    refine hreads.finish_eq_error ?_ ?_ supplied stamp
    · rw [harr.payload_mem_iff, hp]
      rintro ⟨⟩
    · rw [harr.envelope_mem_iff, he]
      rintro ⟨⟩

/-- A header that is not a text is not bound to the texts, so the supplied one takes its place; and
a handler that only takes headers has no message to go back to. -/
theorem message_of_arguments_of_texts :
    let s : Signature := ⟨"audit", [⟨none, .properties, [.headers]⟩, .unnamed .value]⟩
    let t : Signature := ⟨"audit", [⟨none, .properties, [.headers]⟩]⟩
    let stamp : Stamp := ⟨Uuid.issued 1, Timestamp.epoch⟩
    let m : Message := ⟨Uuid.issued 0, Timestamp.epoch, .string "order-42",
      Dictionary.ofList [("region", .string "north"), ("size", .int 3)]⟩
    let supplied : Headers := Dictionary.ofList [("region", .null), ("size", .int 9)]
    (∃ b args r, ofSignature s = .ok b ∧ b.arguments m = .ok args ∧
      b.message args supplied stamp = .ok r ∧ r.payload = .string "order-42" ∧
      r.header? "region" = some (.string "north") ∧ r.header? "size" = some (.int 9)) ∧
    ∃ b args, ofSignature t = .ok b ∧ b.arguments m = .ok args ∧
      b.message args supplied stamp = .error .missingPayloadForOutbound := by
  intro s t stamp m supplied
  constructor
  · let b : Binder := ⟨"audit", [⟨0, .properties, none, none, true, false⟩,
      ⟨1, .value, none, none, false, false⟩], [.headers true, .payload], some 1, some 0, none⟩
    have hb : ofSignature s = .ok b := rfl
    have hargs : b.arguments m = .ok [.properties m.headers.stringValues, .payload m.payload] := rfl
    obtain ⟨r, hr, hp, hk⟩ := ((message_of_arguments hb hargs).1 rfl (.inl rfl)).1 supplied stamp
    refine ⟨_, _, r, hb, hargs, hr, hp, (hk "region").1 ?_, (hk "size").2 ?_⟩
    · exact ⟨.headers true, List.mem_cons_self, .strings rfl⟩
    · rintro ⟨slot, hs, hbinds⟩
      rcases List.mem_cons.mp hs with rfl | hs
      · rcases hbinds with - | - | h | -
        cases h
      · rw [List.mem_singleton.mp hs] at hbinds
        cases hbinds
  · let b : Binder := ⟨"audit", [⟨0, .properties, none, none, true, false⟩], [.headers true], none,
      some 0, none⟩
    have hb : ofSignature t = .ok b := rfl
    have hargs : b.arguments m = .ok [.properties m.headers.stringValues] := rfl
    exact ⟨_, _, hb, hargs, (message_of_arguments hb hargs).2 rfl rfl supplied stamp⟩

end Binder

end Messaging
