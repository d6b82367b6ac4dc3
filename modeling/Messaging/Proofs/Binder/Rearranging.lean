import Mathlib.Data.List.NodupEquivFin
import Messaging.Proofs.Binder.Bindable
import Messaging.Proofs.Binder.Verdict

/-!
# The order of parameters

A binder looks at all parameters of a handler, so nothing that it decides depends on their order.
If the parameters are rearranged, then the same conflict arises or none; and where there is none,
each parameter has the same slot as before, at its new position.  The arguments of a message are
rearranged like the parameters, and rearranged arguments make the same message again.

There is one exception.  Where several arguments give a header, the last one counts; so they have to
give the same value, or it depends on the order which one the message gets.
-/

namespace Messaging

/-! ## Rearranged lists -/

/-- The second list has the entries of the first one in another order: what it has at a position is
what the first one has at the position to which `σ` leads. -/
def Rearranges {α : Type} (σ : Equiv.Perm Nat) (l l' : List α) : Prop := ∀ i, l'[i]? = l[σ i]?

namespace Rearranges

variable {α β : Type} {σ : Equiv.Perm Nat} {l l' : List α} {m m' : List β}

theorem lt_length_iff (h : Rearranges σ l l') (i : Nat) : i < l'.length ↔ σ i < l.length := by
  rw [← not_iff_not, Nat.not_lt, Nat.not_lt, ← List.getElem?_eq_none_iff,
    ← List.getElem?_eq_none_iff, h i]

theorem zip (h : Rearranges σ l l') (h' : Rearranges σ m m') :
    Rearranges σ (l.zip m) (l'.zip m') := by
  intro i
  rw [List.zip_eq_zipWith, List.zip_eq_zipWith, List.getElem?_zipWith, List.getElem?_zipWith, h i,
    h' i]

private theorem filterMap_range (l : List α) : (List.range l.length).filterMap (l[·]?) = l := by
  induction l with
  | nil => rfl
  | cons x l ih =>
    rw [List.length_cons, List.range_succ_eq_map, List.filterMap_cons, List.filterMap_map]
    exact congrArg (x :: ·) ih

theorem perm (h : Rearranges σ l l') : l'.Perm l := by
  have hpositions : ((List.range l'.length).map σ).Perm (List.range l.length) := by
    apply (List.perm_ext_iff_of_nodup (List.nodup_range.map σ.injective) List.nodup_range).mpr
    intro j
    rw [List.mem_map, List.mem_range]
    constructor
    · rintro ⟨i, hi, rfl⟩
      exact (h.lt_length_iff i).mp (List.mem_range.mp hi)
    · intro hj
      refine ⟨σ.symm j, List.mem_range.mpr ((h.lt_length_iff _).mpr ?_), σ.apply_symm_apply j⟩
      rwa [σ.apply_symm_apply]
  have hentries := hpositions.filterMap (l[·]?)
  rw [filterMap_range, List.filterMap_map] at hentries
  have hsame : (fun i ↦ l'[i]?) = (l[·]?) ∘ σ := funext h
  rwa [← hsame, filterMap_range] at hentries

end Rearranges

/-- A list with at most one entry has only one order. -/
private theorem eq_of_perm_of_length_le_one {α : Type} {l l' : List α} (h : l'.Perm l)
    (hone : l.length ≤ 1) : l' = l := by
  cases l with
  | nil => exact List.perm_nil.mp h
  | cons x rest =>
    obtain rfl : rest = [] := List.length_eq_zero_iff.mp (by simpa using hone)
    exact List.perm_singleton.mp h

/-! ## Errors and headers -/

/-- The two errors are of one variant. -/
inductive SignatureError.SameVariant : SignatureError → SignatureError → Prop
  | ambiguousPayload {h h' : String} {l l' : List String} :
      SameVariant (.ambiguousPayload h l) (.ambiguousPayload h' l')
  | unnamedHeader {h h' : String} {i i' : Nat} :
      SameVariant (.unnamedHeader h i) (.unnamedHeader h' i')
  | bulkHeadersType {h h' : String} {i i' : Nat} {k k' : Kind} :
      SameVariant (.bulkHeadersType h i k) (.bulkHeadersType h' i' k')
  | multipleBulkHeaders {h h' : String} {l l' : List Nat} :
      SameVariant (.multipleBulkHeaders h l) (.multipleBulkHeaders h' l')
  | multipleEnvelopes {h h' : String} {l l' : List Nat} :
      SameVariant (.multipleEnvelopes h l) (.multipleEnvelopes h' l')
  | conflictingMarkers {h h' : String} {i i' : Nat} :
      SameVariant (.conflictingMarkers h i) (.conflictingMarkers h' i')

/-- Two dictionaries have the same keys, with values that count as the same. -/
def Dictionary.Alike {α : Type} (same : α → α → Prop) (d e : Dictionary α) : Prop :=
  ∀ k, Option.Rel same (d.get? k) (e.get? k)

theorem eq_of_rel {α : Type} {x y : Option α} (h : Option.Rel Eq x y) : x = y := by
  cases h with
  | some h => rw [h]
  | none => rfl

theorem Dictionary.Alike.eq {α : Type} {d e : Dictionary α} (h : Alike Eq d e) : d = e :=
  ext_get? fun k ↦ eq_of_rel (h k)

theorem rel_refl {α : Type} {same : α → α → Prop} (hsame : ∀ v, same v v) (x : Option α) :
    Option.Rel same x x := by
  cases x with
  | some v => exact .some (hsame v)
  | none => exact .none

private theorem rel_or {α : Type} {same : α → α → Prop} {x y x' y' : Option α}
    (h : Option.Rel same x y) (h' : Option.Rel same x' y') :
    Option.Rel same (x.or x') (y.or y') := by
  cases h with
  | some h => exact .some h
  | none => exact h'

/-! ## Signatures -/

theorem Parameter.HasRole.unique {p : Parameter} {role role' : Role} (h : p.HasRole role)
    (h' : p.HasRole role') : role = role' := by
  have hd : Descriptor.ofParameter "" 0 p = .ok (.playing 0 p role) :=
    Descriptor.ofParameter_eq_ok_iff.mpr ⟨role, h, rfl⟩
  have hd' : Descriptor.ofParameter "" 0 p = .ok (.playing 0 p role') :=
    Descriptor.ofParameter_eq_ok_iff.mpr ⟨role', h', rfl⟩
  have hplays := Descriptor.plays_playing 0 p role
  rw [Except.ok.inj (hd.symm.trans hd')] at hplays
  exact hplays.role_eq.symm.trans (Descriptor.plays_playing 0 p role').role_eq

namespace Signature

variable {σ : Equiv.Perm Nat} {s t : Signature}

theorem Describable.rearranged (hs : s.Describable) (h : Rearranges σ s.parameters t.parameters) :
    t.Describable := by
  intro i p hp
  obtain ⟨role, hrole⟩ := hs.hasRole (List.mem_of_getElem? ((h i).symm.trans hp))
  exact ⟨_, Descriptor.ofParameter_eq_ok_iff.mpr ⟨role, hrole, rfl⟩⟩

/-- As many parameters compete for each slot as before. -/
theorem counts_rearranged (h : Rearranges σ s.parameters t.parameters) :
    t.envelopeCount = s.envelopeCount ∧ t.keptCount = s.keptCount ∧
      t.headersCount = s.headersCount ∧ t.implicitCount = s.implicitCount ∧
      t.yieldsMappings = s.yieldsMappings := by
  have hvalues : t.valueCount = s.valueCount := h.perm.countP_eq _
  have hmappings : t.mappingCount = s.mappingCount := h.perm.countP_eq _
  refine ⟨h.perm.countP_eq _, ?_, h.perm.countP_eq _, ?_, ?_⟩
  · rw [keptCount, keptCount, hvalues, hmappings]
  · rw [implicitCount, implicitCount, hvalues, hmappings]
  · rw [yieldsMappings, yieldsMappings, hvalues, hmappings]

end Signature

namespace Binder

variable {σ : Equiv.Perm Nat} {s t : Signature} {b c : Binder}

/-- Binding a signature ends alike when its parameters are rearranged. -/
theorem ofSignature_alike (hs : s.Describable) (h : Rearranges σ s.parameters t.parameters) :
    (∃ e e', ofSignature s = .error e ∧ ofSignature t = .error e' ∧ e.SameVariant e') ∨
      ∃ b c, ofSignature s = .ok b ∧ ofSignature t = .ok c := by
  have ht := hs.rearranged h
  obtain ⟨ds, hds, hdescribed⟩ := hs.descriptors
  obtain ⟨ds', hds', hdescribed'⟩ := ht.descriptors
  obtain ⟨slots, hb⟩ := ofDescriptors_by_counts hs hdescribed
  obtain ⟨slots', hc⟩ := ofDescriptors_by_counts ht hdescribed'
  obtain ⟨henvelopes, hkept, hheaders, himplicit, -⟩ := Signature.counts_rearranged h
  rw [henvelopes, hkept, hheaders, himplicit] at hc
  rw [ofSignature, ofSignature, hds, hds']
  simp only [hb, hc]
  by_cases he : 1 < s.envelopeCount
  · rw [if_pos he, if_pos he]
    exact .inl ⟨_, _, rfl, rfl, .multipleEnvelopes⟩
  rw [if_neg he, if_neg he]
  by_cases hk : 1 < s.keptCount + s.envelopeCount
  · rw [if_pos hk, if_pos hk]
    exact .inl ⟨_, _, rfl, rfl, .ambiguousPayload⟩
  rw [if_neg hk, if_neg hk]
  by_cases hbulk : 1 < s.headersCount + s.implicitCount
  · rw [if_pos hbulk, if_pos hbulk]
    exact .inl ⟨_, _, rfl, rfl, .multipleBulkHeaders⟩
  rw [if_neg hbulk, if_neg hbulk]
  exact .inr ⟨_, _, rfl, rfl⟩

/-! ## Slots -/

theorem contested_of_ofSignature (hb : ofSignature s = .ok b) :
    contested b.descriptors = s.yieldsMappings := by
  have hds := (ofSignature_eq_ok hb).1
  exact contested_eq (Signature.describable_of_descriptors hds) (describeFrom_eq_ok_iff.mp hds)

/-- The slot of a parameter does not depend on its position. -/
theorem slotFor_eq_of_describes {ds ds' : List Descriptor} {d d' : Descriptor} {p : Parameter}
    {i j : Nat} (hd : Descriptor.Describes s.name (p, i) d)
    (hd' : Descriptor.Describes t.name (p, j) d') (h : contested ds = contested ds') :
    slotFor ds d = slotFor ds' d' := by
  have hkind : d.kind = d'.kind := hd.kind_eq.trans hd'.kind_eq.symm
  have hrole : d.role = d'.role := hd.hasRole.unique hd'.hasRole
  rw [slotFor, slotFor, yields, yields, hd.plays.isCandidate_eq, hd'.plays.isCandidate_eq, hrole,
    hkind, h]

/-- Each parameter has the slot that it had before. -/
theorem slots_rearranged (h : Rearranges σ s.parameters t.parameters) (hb : ofSignature s = .ok b)
    (hc : ofSignature t = .ok c) : Rearranges σ b.slots c.slots := by
  intro i
  cases hp : t.parameters[i]? with
  | none =>
    have hp' : s.parameters[σ i]? = none := (h i).symm.trans hp
    rw [List.getElem?_eq_none_iff, ← length_slots hc] at hp
    rw [List.getElem?_eq_none_iff, ← length_slots hb] at hp'
    rw [List.getElem?_eq_none hp, List.getElem?_eq_none hp']
  | some p =>
    have hcontested : contested b.descriptors = contested c.descriptors := by
      rw [contested_of_ofSignature hb, contested_of_ofSignature hc,
        (Signature.counts_rearranged h).2.2.2.2]
    obtain ⟨d, hd, -, hslot⟩ := getElem?_of_parameter hb ((h i).symm.trans hp)
    obtain ⟨d', hd', -, hslot'⟩ := getElem?_of_parameter hc hp
    rw [hslot, hslot', slotFor_eq_of_describes hd hd' hcontested]

end Binder

/-! ## Arguments -/

/-- The argument at a position is that of the slot there. -/
theorem Slot.getElem?_arguments {m : Message} {slots : List Slot} {args : List Argument}
    (h : arguments m slots = .ok args) (i : Nat) :
    args[i]? = slots[i]?.bind fun slot ↦ (slot.argument m).toOption := by
  induction slots generalizing args i with
  | nil =>
    cases h
    rfl
  | cons slot slots ih =>
    obtain ⟨a, as, ha, has, rfl⟩ := arguments_cons_eq_ok_iff.mp h
    cases i with
    | zero =>
      rw [List.getElem?_cons_zero, List.getElem?_cons_zero, Option.bind_some, ha]
      rfl
    | succ i => exact ih has i

theorem Binder.arguments_rearranged {σ : Equiv.Perm Nat} {b c : Binder} {m : Message}
    (h : Rearranges σ b.slots c.slots) :
    ((∃ args, b.arguments m = .ok args) ↔ ∃ args', c.arguments m = .ok args') ∧
      ∀ args args', b.arguments m = .ok args → c.arguments m = .ok args' →
        Rearranges σ args args' := by
  unfold arguments
  constructor
  · rw [Slot.exists_arguments_iff, Slot.exists_arguments_iff]
    simp only [h.perm.mem_iff]
  · intro args args' hargs hargs' i
    rw [Slot.getElem?_arguments hargs, Slot.getElem?_arguments hargs', h i]

/-! ## What arguments give -/

namespace Slot

variable {σ : Equiv.Perm Nat} {slots slots' : List Slot} {args args' : List Argument}

theorem accepts_rearranged (hslots : Rearranges σ slots slots') (hargs : Rearranges σ args args') :
    List.Forall₂ Accepts slots' args' ↔ List.Forall₂ Accepts slots args := by
  rw [List.forall₂_iff_zip, List.forall₂_iff_zip, hslots.perm.length_eq, hargs.perm.length_eq]
  simp only [(hslots.zip hargs).perm.mem_iff]

theorem mem_allGiven_rearranged (hslots : Rearranges σ slots slots')
    (hargs : Rearranges σ args args') (e : String × Value) :
    e ∈ allGiven slots' args' ↔ e ∈ allGiven slots args := by
  rw [mem_allGiven_iff, mem_allGiven_iff]
  simp only [(hslots.zip hargs).perm.mem_iff]

/-- No two arguments give different values to one header. -/
def Agree (same : Value → Value → Prop) (slots : List Slot) (args : List Argument) : Prop :=
  ∀ e ∈ allGiven slots args, ∀ e' ∈ allGiven slots args, e.1 = e'.1 → same e.2 e'.2

/-- Where no two arguments differ about a header, it does not matter which of them counts. -/
theorem given?_rearranged {same : Value → Value → Prop} (hslots : Rearranges σ slots slots')
    (hargs : Rearranges σ args args') (hagree : Agree same slots args) (k : String) :
    Option.Rel same (given? slots args k) (given? slots' args' k) := by
  have hmem := mem_allGiven_rearranged hslots hargs
  cases hv : given? slots args k with
  | some v =>
    have hgiven := mem_allGiven_of_given? hv
    obtain ⟨v', hv'⟩ := exists_given?_of_mem ((hmem _).mpr hgiven)
    rw [hv']
    exact .some (hagree _ hgiven _ ((hmem _).mp (mem_allGiven_of_given? hv')) rfl)
  | none =>
    cases hv' : given? slots' args' k with
    | some v' =>
      obtain ⟨v, hsome⟩ := exists_given?_of_mem ((hmem _).mp (mem_allGiven_of_given? hv'))
      cases hv.symm.trans hsome
    | none => exact .none

end Slot

/-! ## Messages -/

namespace Binder

variable {σ : Equiv.Perm Nat} {s t : Signature} {b c : Binder} {args args' : List Argument}

/-- Where only one position is kept, there is only one slot. -/
private theorem count_le_one {slots : List Slot} {slot : Slot} {position : Option Nat}
    (h : ∀ i, position = some i ↔ slots[i]? = some slot) : slots.count slot ≤ 1 := by
  by_contra hnot
  obtain ⟨i, j, hlt, hi, hj⟩ := List.duplicate_iff_exists_distinct_get.mp
    (List.duplicate_iff_two_le_count.mpr (Nat.lt_of_not_le hnot))
  have hpos : ∀ n : Fin slots.length, slot = slots.get n → position = some n.1 := fun n hn ↦
    (h n).mpr (hn ▸ List.getElem?_eq_getElem n.2)
  have heq : i.1 = j.1 := Option.some.inj ((hpos i hi).symm.trans (hpos j hj))
  exact Nat.ne_of_lt hlt heq

/-- Of one kind there are no more arguments than slots that accept them. -/
private theorem length_filterMap_le_count {α : Type} {f : Argument → Option α} {slot : Slot}
    {slots : List Slot} (hf : ∀ slot' a, slot'.Accepts a → (f a).isSome → slot' = slot)
    (h : List.Forall₂ Slot.Accepts slots args) : (args.filterMap f).length ≤ slots.count slot := by
  induction h with
  | nil => exact Nat.le_refl _
  | @cons slot' a slots args haccepts _ ih =>
    rw [List.filterMap_cons, List.count_cons]
    cases hfa : f a with
    | none => exact Nat.le_trans ih (Nat.le_add_right _ _)
    | some x =>
      obtain rfl := hf slot' a haccepts (by rw [hfa]; rfl)
      rw [if_pos (beq_self_eq_true _)]
      exact Nat.succ_le_succ ih

/-- Where only one slot accepts arguments of a kind, it does not matter where the argument of this
kind stands. -/
private theorem filterMap_rearranged {α : Type} {f : Argument → Option α} {slot : Slot}
    {position : Option Nat} (hposition : ∀ i, position = some i ↔ b.slots[i]? = some slot)
    (hf : ∀ slot' a, slot'.Accepts a → (f a).isSome → slot' = slot)
    (haccepts : List.Forall₂ Slot.Accepts b.slots args) (hargs : Rearranges σ args args') :
    args'.filterMap f = args.filterMap f := by
  apply eq_of_perm_of_length_le_one (hargs.perm.filterMap f)
  exact Nat.le_trans (length_filterMap_le_count hf haccepts) (count_le_one hposition)

theorem filterMap_payload?_rearranged (hb : b.Arranged)
    (haccepts : List.Forall₂ Slot.Accepts b.slots args) (hargs : Rearranges σ args args') :
    args'.filterMap Argument.payload? = args.filterMap Argument.payload? :=
  filterMap_rearranged hb.payload (fun _ _ ↦ Slot.Accepts.eq_payload) haccepts hargs

theorem filterMap_message?_rearranged (hb : b.Arranged)
    (haccepts : List.Forall₂ Slot.Accepts b.slots args) (hargs : Rearranges σ args args') :
    args'.filterMap Argument.message? = args.filterMap Argument.message? :=
  filterMap_rearranged hb.envelope (fun _ _ ↦ Slot.Accepts.eq_envelope) haccepts hargs

/-- What arguments give can be finished, and with which payload, whatever their order. -/
theorem exists_finish_rearranged {same : Value → Value → Prop} (hb : b.Arranged)
    (hslots : Rearranges σ b.slots c.slots) (hargs : Rearranges σ args args')
    (haccepts : List.Forall₂ Slot.Accepts b.slots args) (hagree : Slot.Agree same b.slots args)
    (supplied : Headers) (stamp stamp' : Stamp) (value : Value) :
    (∃ r, (Gathered.none.addAll b.slots args).finish supplied stamp = .ok r ∧ r.payload = value) ↔
      ∃ r, (Gathered.none.addAll c.slots args').finish supplied stamp' = .ok r ∧
        r.payload = value := by
  have hnone : ∀ k, Slot.given? b.slots args k = none ↔ Slot.given? c.slots args' k = none := by
    intro k
    have hrel := Slot.given?_rearranged hslots hargs hagree k
    generalize Slot.given? b.slots args k = x, Slot.given? c.slots args' k = y at hrel
    cases hrel with
    | some => exact ⟨nofun, nofun⟩
    | none => exact Iff.rfl
  have hpayload : (Gathered.none.addAll c.slots args').payload =
      (Gathered.none.addAll b.slots args).payload := by
    rw [Gathered.addAll, Gathered.addAll, filterMap_payload?_rearranged hb haccepts hargs]
  have henvelope : (Gathered.none.addAll c.slots args').envelope =
      (Gathered.none.addAll b.slots args).envelope := by
    rw [Gathered.addAll, Gathered.addAll, filterMap_message?_rearranged hb haccepts hargs]
  rw [Gathered.exists_finish_iff, Gathered.exists_finish_iff, hpayload, henvelope]
  simp only [Gathered.get?_headers_addAll, hnone]

theorem message_rearranged {same : Value → Value → Prop} (hsame : ∀ v, same v v)
    (hb : b.Arranged) (hslots : Rearranges σ b.slots c.slots) (hargs : Rearranges σ args args')
    (hagree : Slot.Agree same b.slots args) (supplied : Headers) (stamp stamp' : Stamp) :
    ((∃ r, b.message args supplied stamp = .ok r) ↔
      ∃ r', c.message args' supplied stamp' = .ok r') ∧
    ∀ r r', b.message args supplied stamp = .ok r → c.message args' supplied stamp' = .ok r' →
      r'.payload = r.payload ∧ Dictionary.Alike same r.headers r'.headers := by
  have hpayload : ∀ value, (∃ r, b.message args supplied stamp = .ok r ∧ r.payload = value) ↔
      ∃ r', c.message args' supplied stamp' = .ok r' ∧ r'.payload = value := by
    intro value
    simp only [message_eq_ok_iff, Slot.accepts_rearranged hslots hargs, and_assoc,
      exists_and_left]
    exact and_congr_right fun haccepts ↦
      exists_finish_rearranged hb hslots hargs haccepts hagree supplied stamp stamp' value
  constructor
  · constructor
    · rintro ⟨r, hr⟩
      exact ((hpayload r.payload).mp ⟨r, hr, rfl⟩).imp fun _ ↦ And.left
    · rintro ⟨r', hr'⟩
      exact ((hpayload r'.payload).mpr ⟨r', hr', rfl⟩).imp fun _ ↦ And.left
  · intro r r' hr hr'
    constructor
    · obtain ⟨r'', hr'', hp⟩ := (hpayload r.payload).mp ⟨r, hr, rfl⟩
      obtain rfl := Except.ok.inj (hr'.symm.trans hr'')
      exact hp
    · intro k
      have haccepts := (message_eq_ok_iff.mp hr).1
      have hheader := header?_of_message hr k
      have hheader' := header?_of_message hr' k
      rw [argued?] at hheader hheader'
      rw [filterMap_message?_rearranged hb haccepts hargs] at hheader'
      show Option.Rel same (r.header? k) (r'.header? k)
      rw [hheader, hheader']
      exact rel_or (rel_or (rel_refl hsame _) (Slot.given?_rearranged hslots hargs hagree k))
        (rel_refl hsame _)

/-- Rearranging the parameters of a signature whose parameters all have descriptors does not change
what can be bound and to what.  Binding fails with an error of the same variant, or it succeeds with
the same slot for each parameter at its new position, and the positions that the binder keeps are
where these slots are now.  A message has arguments for both binders or for neither, and the
arguments are rearranged like the parameters.  Rearranged arguments make a message if and only if
they did before, as long as no two of them give values to one header that do not count as the same;
the payload is the same, and so is each header, in the sense in which the values of the arguments
were.  In particular, where only equal values count as the same, the headers are equal. -/
theorem ofSignature_rearranged (hs : s.Describable) (h : Rearranges σ s.parameters t.parameters) :
    (∃ e e', ofSignature s = .error e ∧ ofSignature t = .error e' ∧ e.SameVariant e') ∨
    ∃ b c, ofSignature s = .ok b ∧ ofSignature t = .ok c ∧ Rearranges σ b.slots c.slots ∧
      (∀ i, (c.payloadSlot = some i ↔ b.payloadSlot = some (σ i)) ∧
        (c.bulkSlot = some i ↔ b.bulkSlot = some (σ i)) ∧
        (c.envelopeSlot = some i ↔ b.envelopeSlot = some (σ i))) ∧
      (∀ m, ((∃ args, b.arguments m = .ok args) ↔ ∃ args', c.arguments m = .ok args') ∧
        ∀ args args', b.arguments m = .ok args → c.arguments m = .ok args' →
          Rearranges σ args args') ∧
      ∀ (same : Value → Value → Prop) (args args' : List Argument) (supplied : Headers)
        (stamp stamp' : Stamp), (∀ v, same v v) → Rearranges σ args args' →
        Slot.Agree same b.slots args →
        ((∃ r, b.message args supplied stamp = .ok r) ↔
          ∃ r', c.message args' supplied stamp' = .ok r') ∧
        ∀ r r', b.message args supplied stamp = .ok r →
          c.message args' supplied stamp' = .ok r' →
          r'.payload = r.payload ∧ Dictionary.Alike same r.headers r'.headers := by
  rcases ofSignature_alike hs h with herror | ⟨b, c, hb, hc⟩
  · exact .inl herror
  · have hslots := slots_rearranged h hb hc
    have harr := arranged_of_ofSignature hb
    have harr' := arranged_of_ofSignature hc
    refine .inr ⟨b, c, hb, hc, hslots, fun i ↦ ⟨?_, ?_, ?_⟩,
      fun m ↦ arguments_rearranged hslots, ?_⟩
    · rw [harr'.payload, harr.payload, hslots i]
    · rw [harr'.headers, harr.headers, hslots i]
    · rw [harr'.envelope, harr.envelope, hslots i]
    · intro same args args' supplied stamp stamp' hsame hargs hagree
      exact message_rearranged hsame harr hslots hargs hagree supplied stamp stamp'

/-- The parameter for all headers comes last instead of first.  The tenant is given by both
arguments for headers, but with the same value; so it does not matter which of them comes last. -/
theorem ofSignature_rearranged_of_headers_last :
    let s : Signature := ⟨"ship", [.unnamed .map, ⟨some "tenant", .value, [.header none true]⟩,
      .unnamed .value]⟩
    let t : Signature := ⟨"ship", [.unnamed .value, ⟨some "tenant", .value, [.header none true]⟩,
      .unnamed .map]⟩
    let headers : Headers := Dictionary.ofList [("region", .null), ("tenant", .string "acme")]
    let all : Argument := .headers headers
    let tenant : Argument := .header (some (.string "acme"))
    let payload : Argument := .payload (.string "order-42")
    let supplied : Headers := Dictionary.ofList [("region", .string "north")]
    let σ : Equiv.Perm Nat := Equiv.swap 0 2
    s.Describable ∧ Rearranges σ s.parameters t.parameters ∧
      ∃ b c, ofSignature s = .ok b ∧ ofSignature t = .ok c ∧ Rearranges σ b.slots c.slots ∧
        c.bulkSlot = some 2 ∧ ∀ stamp stamp', ∃ r r',
          b.message [all, tenant, payload] supplied stamp = .ok r ∧
          c.message [payload, tenant, all] supplied stamp' = .ok r' ∧
          r'.payload = r.payload ∧ r'.headers = r.headers := by
  intro s t headers all tenant payload supplied σ
  have hswap : ∀ {α : Type} (x y z : α), Rearranges σ [x, y, z] [z, y, x] := by
    intro α x y z i
    rcases i with _ | _ | _ | i
    · rfl
    · rfl
    · rfl
    · have hi : σ (i + 3) = i + 3 := Equiv.swap_apply_of_ne_of_ne (by omega) (by omega)
      rw [hi]
      rfl
  have hs : s.Describable := Signature.describable_of_descriptors rfl
  have h : Rearranges σ s.parameters t.parameters := hswap _ _ _
  have hagree : Slot.Agree Eq [.headers false, .header "tenant" true, .payload]
      [all, tenant, payload] := by
    have hvalue : ∀ e ∈ Slot.allGiven [.headers false, .header "tenant" true, .payload]
        [all, tenant, payload], e.2 = if e.1 = "tenant" then .string "acme" else .null := by
      have hgiven : Slot.allGiven [.headers false, .header "tenant" true, .payload]
          [all, tenant, payload] = [("region", .null), ("tenant", .string "acme"),
            ("tenant", .string "acme")] := rfl
      simp [hgiven]
    intro e he e' he' hkey
    rw [hvalue e he, hvalue e' he', hkey]
  rcases ofSignature_rearranged hs h with
    ⟨e, e', herror, -⟩ | ⟨b, c, hb, hc, hslots, hpositions, -, hmessage⟩
  · cases herror
  · refine ⟨hs, h, b, c, hb, hc, hslots, ?_, fun stamp stamp' ↦ ?_⟩
    · cases hb
      exact (hpositions 2).2.1.mpr rfl
    · cases hb
      obtain ⟨hok, hsame⟩ := hmessage Eq _ _ supplied stamp stamp' (fun _ ↦ rfl)
        (hswap all tenant payload) hagree
      obtain ⟨r', hr'⟩ := hok.mp ⟨_, rfl⟩
      obtain ⟨hp, hheaders⟩ := hsame _ r' rfl hr'
      exact ⟨_, r', rfl, hr', hp, hheaders.eq.symm⟩

end Binder

end Messaging
