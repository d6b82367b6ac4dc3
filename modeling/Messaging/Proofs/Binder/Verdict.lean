import Messaging.Binder
import Messaging.Proofs.Signature.Description

/-!
# Which signatures can be bound

Whether a signature can be bound depends on how many of its parameters are unmarked values, unmarked
mappings, bound to the message, and marked for all headers.  Several values or mappings yield the
mappings to the headers; a mapping that stands alone is kept for the payload.  Then there may be one
parameter for the payload or the message, and one for all headers.  Parameters that are marked for a
single header do not matter.

The descriptors of a signature stand beside its parameters one by one, so whatever is selected among
the descriptors is selected among the parameters.
-/

namespace Messaging

/-! ## Parameters that compete -/

namespace Signature

/-- The parameters on which `f` holds, with their positions, in order. -/
def select (s : Signature) (f : Parameter → Bool) : List (Parameter × Nat) :=
  s.parameters.zipIdx.filter fun x ↦ f x.1

/-- The number of unmarked values. -/
def valueCount (s : Signature) : Nat := s.parameters.countP Parameter.isUnmarkedValue

/-- The number of unmarked mappings. -/
def mappingCount (s : Signature) : Nat := s.parameters.countP Parameter.isUnmarkedMapping

/-- The number of parameters that are bound to the message. -/
def envelopeCount (s : Signature) : Nat := s.parameters.countP Parameter.isEnvelope

/-- The number of parameters that are marked for all headers. -/
def headersCount (s : Signature) : Nat := s.parameters.countP Parameter.isHeadersMarked

/-- Whether an unmarked mapping is kept for the payload: it is the only one, and there is no
value. -/
def keepsMapping (s : Signature) : Bool := decide (s.valueCount = 0 ∧ s.mappingCount = 1)

/-- Whether unmarked mappings are bound to all headers: they are not the only candidates. -/
def yieldsMappings (s : Signature) : Bool := decide (1 < s.valueCount + s.mappingCount)

/-- The parameters that are kept for the payload. -/
def kept (s : Signature) : List (Parameter × Nat) :=
  s.select fun p ↦ p.isUnmarkedValue || (s.keepsMapping && p.isUnmarkedMapping)

/-- The parameters that are bound to the message. -/
def enveloped (s : Signature) : List (Parameter × Nat) := s.select Parameter.isEnvelope

/-- The parameters that are bound to all headers, because they are marked for them or yield. -/
def bulk (s : Signature) : List (Parameter × Nat) :=
  s.select fun p ↦ p.isHeadersMarked || (s.yieldsMappings && p.isUnmarkedMapping)

/-- How many parameters are kept for the payload. -/
def keptCount (s : Signature) : Nat :=
  s.valueCount + if s.valueCount = 0 ∧ s.mappingCount = 1 then 1 else 0

/-- How many unmarked mappings are bound to all headers. -/
def implicitCount (s : Signature) : Nat :=
  if 1 < s.valueCount + s.mappingCount then s.mappingCount else 0

/-- The positions of parameters. -/
def positions (l : List (Parameter × Nat)) : List Nat := l.map Prod.snd

/-- The texts that point at parameters. -/
def labels (l : List (Parameter × Nat)) : List String := l.map fun x ↦ x.1.label x.2

theorem map_fst_select (s : Signature) (f : Parameter → Bool) :
    (s.select f).map Prod.fst = s.parameters.filter f := by
  have h : s.parameters.zipIdx.map Prod.fst = s.parameters := List.zipIdx_map_fst 0 s.parameters
  conv_rhs => rw [← h]
  rw [List.filter_map]
  rfl

theorem length_select (s : Signature) (f : Parameter → Bool) :
    (s.select f).length = s.parameters.countP f := by
  rw [List.countP_eq_length_filter, ← map_fst_select, List.length_map]

/-- The first of the selected parameters stands at the first of their positions. -/
theorem getElem?_head?_select (s : Signature) (f : Parameter → Bool) :
    (positions (s.select f)).head?.bind (s.parameters[·]?) = (s.parameters.filter f).head? := by
  rw [← map_fst_select, positions]
  cases h : s.select f with
  | nil => rfl
  | cons x rest =>
    have hx : x ∈ s.parameters.zipIdx :=
      (List.mem_filter.mp (h ▸ List.mem_cons_self : x ∈ s.select f)).1
    exact List.mem_zipIdx_iff_getElem?.mp hx

private theorem countP_or {α : Type} {f g : α → Bool} {l : List α}
    (h : ∀ x ∈ l, f x = true → g x = false) :
    l.countP (fun x ↦ f x || g x) = l.countP f + l.countP g := by
  induction l with
  | nil => rfl
  | cons x l ih =>
    have ih := ih fun y hy ↦ h y (List.mem_cons_of_mem _ hy)
    have hx := h x List.mem_cons_self
    simp only [List.countP_cons, ih]
    cases hf : f x
    · cases hg : g x
      · simp
      · simp
        omega
    · simp [hx hf]
      omega

/-! ### Parameters with descriptors -/

/-- A parameter of a signature with descriptors has a role. -/
theorem Describable.hasRole {s : Signature} (h : s.Describable) {p : Parameter}
    (hp : p ∈ s.parameters) : ∃ role, p.HasRole role := by
  obtain ⟨i, hi⟩ := List.getElem?_of_mem hp
  obtain ⟨d, hd⟩ := h i p hi
  have hd : Descriptor.Describes s.name (p, i) d := hd
  exact ⟨d.role, hd.hasRole⟩

theorem length_enveloped (s : Signature) : s.enveloped.length = s.envelopeCount :=
  s.length_select _

/-- A value is no mapping, so they are counted apart. -/
theorem Describable.countP_candidates {s : Signature} (h : s.Describable) :
    s.parameters.countP (fun p ↦ p.isUnmarkedValue || p.isUnmarkedMapping) =
      s.valueCount + s.mappingCount := by
  refine countP_or fun p hp hv ↦ ?_
  obtain ⟨role, hr⟩ := h.hasRole hp
  rw [hr.isUnmarkedValue_eq, Bool.and_eq_true, Bool.not_eq_true'] at hv
  rw [hr.isUnmarkedMapping_eq, hv.2, Bool.and_false]

theorem Describable.length_kept {s : Signature} (h : s.Describable) :
    s.kept.length = s.keptCount := by
  unfold kept keptCount
  rw [length_select]
  by_cases hk : s.valueCount = 0 ∧ s.mappingCount = 1
  · have hkeeps : s.keepsMapping = true := decide_eq_true hk
    simp only [hkeeps, Bool.true_and, if_pos hk]
    rw [h.countP_candidates, hk.2]
  · have hkeeps : s.keepsMapping = false := decide_eq_false hk
    simp only [hkeeps, Bool.false_and, Bool.or_false, if_neg hk]
    rfl

theorem Describable.length_bulk {s : Signature} (h : s.Describable) :
    s.bulk.length = s.headersCount + s.implicitCount := by
  unfold bulk implicitCount
  rw [length_select]
  by_cases hy : 1 < s.valueCount + s.mappingCount
  · have hyields : s.yieldsMappings = true := decide_eq_true hy
    simp only [hyields, Bool.true_and, if_pos hy]
    refine countP_or fun p hp hm ↦ ?_
    obtain ⟨role, hr⟩ := h.hasRole hp
    rw [hr.isHeadersMarked_eq, decide_eq_true_eq] at hm
    rw [hr.isUnmarkedMapping_eq, hm]
    rfl
  · have hyields : s.yieldsMappings = false := decide_eq_false hy
    simp only [hyields, Bool.false_and, Bool.or_false, if_neg hy]
    rfl

end Signature

/-! ## From parameters to descriptors -/

namespace Binder

open Signature (positions labels)

variable {s : Signature} {ds : List Descriptor}

private theorem map_filter_eq {α β γ : Type} {R : α → β → Prop} {f : α → Bool} {k : α → γ}
    {P : β → Bool} {g : β → γ} {l : List α} {m : List β} (h : List.Forall₂ R l m)
    (hP : ∀ x ∈ l, ∀ y, R x y → P y = f x) (hg : ∀ x y, R x y → g y = k x) :
    (m.filter P).map g = (l.filter f).map k := by
  induction h with
  | nil => rfl
  | @cons x y l m hxy _ ih =>
    have ih := ih fun z hz ↦ hP z (List.mem_cons_of_mem _ hz)
    have hx : P y = f x := hP x List.mem_cons_self y hxy
    cases hf : f x with
    | true => simp [hx.trans hf, hf, ih, hg x y hxy]
    | false => simp [hx.trans hf, hf, ih]

/-- Whatever is selected among the descriptors is selected among the parameters. -/
theorem select_eq (h : List.Forall₂ (Descriptor.Describes s.name) s.parameters.zipIdx ds)
    {P : Descriptor → Bool} {f : Parameter → Bool}
    (hP : ∀ p ∈ s.parameters, ∀ d, d.kind = p.kind → d.Plays d.role → p.HasRole d.role →
      P d = f p) :
    (ds.filter P).map Descriptor.index = positions (s.select f) ∧
      (ds.filter P).map Descriptor.label = labels (s.select f) := by
  have hP' : ∀ x ∈ s.parameters.zipIdx, ∀ d, Descriptor.Describes s.name x d → P d = f x.1 := by
    intro x hx d hd
    have hmem : x.1 ∈ s.parameters :=
      List.mem_of_getElem? (List.mem_zipIdx_iff_getElem?.mp hx)
    exact hP x.1 hmem d hd.kind_eq hd.plays hd.hasRole
  exact ⟨map_filter_eq h hP' fun _ _ hd ↦ hd.index_eq, map_filter_eq h hP' fun _ _ hd ↦ hd.label_eq⟩

theorem envelopes_eq (h : List.Forall₂ (Descriptor.Describes s.name) s.parameters.zipIdx ds) :
    (envelopes ds).map Descriptor.index = positions s.enveloped ∧
      (envelopes ds).map Descriptor.label = labels s.enveloped := by
  refine select_eq h fun p _ d _ hd hr ↦ ?_
  rw [hr.isEnvelope_eq, hd.isEnvelope_eq]

theorem contested_eq (hs : s.Describable)
    (h : List.Forall₂ (Descriptor.Describes s.name) s.parameters.zipIdx ds) :
    contested ds = s.yieldsMappings := by
  have hsel := (select_eq h (P := Descriptor.isCandidate)
    (f := fun p ↦ p.isUnmarkedValue || p.isUnmarkedMapping) fun p _ d _ hd hr ↦ by
      rw [hr.isUnmarkedValue_eq, hr.isUnmarkedMapping_eq, hd.isCandidate_eq]
      cases p.kind.holdsHeaders <;> simp).1
  have hlen : (ds.filter Descriptor.isCandidate).length = s.valueCount + s.mappingCount := by
    rw [← List.length_map Descriptor.index, hsel, positions, List.length_map,
      Signature.length_select, hs.countP_candidates]
  unfold contested Signature.yieldsMappings
  rw [hlen]

theorem yields_eq (hs : s.Describable)
    (h : List.Forall₂ (Descriptor.Describes s.name) s.parameters.zipIdx ds) {p : Parameter}
    {d : Descriptor} (hk : d.kind = p.kind) (hd : d.Plays d.role) (hr : p.HasRole d.role) :
    yields ds d = (s.yieldsMappings && p.isUnmarkedMapping) := by
  unfold yields
  rw [contested_eq hs h, hr.isUnmarkedMapping_eq, hk, hd.isCandidate_eq]
  cases s.yieldsMappings <;> simp

theorem kept_eq (hs : s.Describable)
    (h : List.Forall₂ (Descriptor.Describes s.name) s.parameters.zipIdx ds) :
    (kept ds).map Descriptor.index = positions s.kept ∧
      (kept ds).map Descriptor.label = labels s.kept := by
  refine select_eq h fun p hp d hk hd hr ↦ ?_
  rw [yields_eq hs h hk hd hr, hr.isUnmarkedMapping_eq, hr.isUnmarkedValue_eq, hd.isCandidate_eq]
  -- A mapping is kept exactly if it does not yield: then it is the only candidate.
  have hkeeps : decide (d.role = .candidate) = true → p.kind.holdsHeaders = true →
      s.keepsMapping = !s.yieldsMappings := by
    intro hc hh
    have hm : p.isUnmarkedMapping = true := by rw [hr.isUnmarkedMapping_eq, hc, hh]; rfl
    have hpos : 0 < s.mappingCount := List.countP_pos_iff.mpr ⟨p, hp, hm⟩
    unfold Signature.keepsMapping Signature.yieldsMappings
    rw [← decide_not, decide_eq_decide]
    omega
  cases hc : decide (d.role = .candidate) with
  | false => simp
  | true =>
    cases hh : p.kind.holdsHeaders with
    | false => simp
    | true => simp [hkeeps hc hh]

theorem bulk_eq (hs : s.Describable)
    (h : List.Forall₂ (Descriptor.Describes s.name) s.parameters.zipIdx ds) :
    (bulk ds).map Descriptor.index = positions s.bulk := by
  refine (select_eq h fun p _ d hk hd hr ↦ ?_).1
  rw [yields_eq hs h hk hd hr, hr.isHeadersMarked_eq, hd.isBulk_eq]

/-- How binding the described parameters ends. -/
theorem ofDescriptors_by_counts (hs : s.Describable)
    (h : List.Forall₂ (Descriptor.Describes s.name) s.parameters.zipIdx ds) :
    ∃ slots, ofDescriptors s.name ds =
      if 1 < s.envelopeCount then .error (.multipleEnvelopes s.name (positions s.enveloped))
      else if 1 < s.keptCount + s.envelopeCount then
        .error (.ambiguousPayload s.name (labels (s.kept ++ s.enveloped)))
      else if 1 < s.headersCount + s.implicitCount then
        .error (.multipleBulkHeaders s.name (positions s.bulk))
      else .ok {
        handler := s.name
        descriptors := ds
        slots := slots
        payloadSlot := (positions s.kept).head?
        bulkSlot := (positions s.bulk).head?
        envelopeSlot := (positions s.enveloped).head? } := by
  obtain ⟨hei, hel⟩ := envelopes_eq h
  obtain ⟨hki, hkl⟩ := kept_eq hs h
  have hbi := bulk_eq hs h
  have hen : (envelopes ds).length = s.envelopeCount := by
    rw [← s.length_enveloped, ← List.length_map Descriptor.index, hei, positions, List.length_map]
  have hkn : (kept ds).length = s.keptCount := by
    rw [← hs.length_kept, ← List.length_map Descriptor.index, hki, positions, List.length_map]
  have hbn : (bulk ds).length = s.headersCount + s.implicitCount := by
    rw [← hs.length_bulk, ← List.length_map Descriptor.index, hbi, positions, List.length_map]
  have hpos : ∀ l : List Descriptor, position? l = (l.map Descriptor.index).head? := fun l ↦
    List.head?_map.symm
  have hlabels : (kept ds ++ envelopes ds).map Descriptor.label =
      labels (s.kept ++ s.enveloped) := by
    rw [List.map_append, hkl, hel, labels, labels, labels, List.map_append]
  refine ⟨ds.map (slotOf (position? (bulk ds)) (position? (envelopes ds))), ?_⟩
  unfold ofDescriptors
  rw [hen, hkn, hbn, hei, hbi, hlabels, hpos, hpos, hpos, hei, hki, hbi]

end Binder

/-! ## How binding a signature ends -/

/-- How binding a signature ends: which parameters get the payload, the message and all headers, or
which of the conflicts there is, or that some parameter has no descriptor. -/
inductive Verdict where
  | bound (payload envelope headers : Option Parameter)
  | multipleEnvelopes
  | ambiguousPayload
  | multipleBulkHeaders
  | undescribed

namespace Signature

/-- How binding the signature ends. -/
def verdict (s : Signature) : Verdict :=
  match Binder.ofSignature s with
  | .ok b => .bound (b.payloadSlot.bind (s.parameters[·]?)) (b.envelopeSlot.bind (s.parameters[·]?))
      (b.bulkSlot.bind (s.parameters[·]?))
  | .error (.multipleEnvelopes ..) => .multipleEnvelopes
  | .error (.ambiguousPayload ..) => .ambiguousPayload
  | .error (.multipleBulkHeaders ..) => .multipleBulkHeaders
  | .error _ => .undescribed

/-- The parameters that are not marked for a header. -/
def unmarkedForHeader (s : Signature) : List Parameter :=
  s.parameters.filter fun p ↦ !p.isHeaderMarked

/-- The parameters that compete are not marked for a header. -/
def Competing (f : Parameter → Bool) : Prop :=
  ∀ p, f p = true → p.isUnmarkedValue = true ∨ p.isUnmarkedMapping = true ∨
    p.isEnvelope = true ∨ p.isHeadersMarked = true

theorem Describable.filter_eq {s : Signature} (h : s.Describable) {f : Parameter → Bool}
    (hf : Competing f) : s.parameters.filter f = s.unmarkedForHeader.filter f := by
  unfold unmarkedForHeader
  rw [List.filter_filter]
  refine List.filter_congr fun p hp ↦ ?_
  cases hfp : f p with
  | false => rfl
  | true =>
    obtain ⟨role, hr⟩ := h.hasRole hp
    have hcases := hf p hfp
    rw [hr.isUnmarkedValue_eq, hr.isUnmarkedMapping_eq, hr.isEnvelope_eq,
      hr.isHeadersMarked_eq] at hcases
    rw [hr.isHeaderMarked_eq]
    rcases hcases with h | h | h | h
    · rw [Bool.and_eq_true] at h
      simp [h.1]
    · rw [Bool.and_eq_true] at h
      simp [h.1]
    · simp [h]
    · simp [h]

theorem Describable.verdict_eq {s : Signature} (h : s.Describable) :
    s.verdict =
      if 1 < s.envelopeCount then .multipleEnvelopes
      else if 1 < s.keptCount + s.envelopeCount then .ambiguousPayload
      else if 1 < s.headersCount + s.implicitCount then .multipleBulkHeaders
      else .bound
        (s.parameters.filter fun p ↦
          p.isUnmarkedValue || (s.keepsMapping && p.isUnmarkedMapping)).head?
        (s.parameters.filter Parameter.isEnvelope).head?
        (s.parameters.filter fun p ↦
          p.isHeadersMarked || (s.yieldsMappings && p.isUnmarkedMapping)).head? := by
  obtain ⟨ds, hds, hdesc⟩ := h.descriptors
  obtain ⟨slots, hslots⟩ := Binder.ofDescriptors_by_counts h hdesc
  have hof : Binder.ofSignature s = Binder.ofDescriptors s.name ds := by
    unfold Binder.ofSignature
    rw [hds]
  unfold verdict
  rw [hof, hslots]
  by_cases he : 1 < s.envelopeCount
  · rw [if_pos he, if_pos he]
  rw [if_neg he, if_neg he]
  by_cases hk : 1 < s.keptCount + s.envelopeCount
  · rw [if_pos hk, if_pos hk]
  rw [if_neg hk, if_neg hk]
  by_cases hb : 1 < s.headersCount + s.implicitCount
  · rw [if_pos hb, if_pos hb]
  rw [if_neg hb, if_neg hb, kept, enveloped, bulk]
  simp only [getElem?_head?_select]

/-- Parameters that are marked for a header do not matter, wherever they stand. -/
theorem Describable.verdict_congr {s t : Signature} (hs : s.Describable) (ht : t.Describable)
    (h : s.unmarkedForHeader = t.unmarkedForHeader) : s.verdict = t.verdict := by
  have hfilter : ∀ f, Competing f → s.parameters.filter f = t.parameters.filter f := by
    intro f hf
    rw [hs.filter_eq hf, ht.filter_eq hf, h]
  have hcount : ∀ f, Competing f → s.parameters.countP f = t.parameters.countP f := by
    intro f hf
    rw [List.countP_eq_length_filter, List.countP_eq_length_filter, hfilter f hf]
  have hv : s.valueCount = t.valueCount := hcount _ fun _ h ↦ .inl h
  have hm : s.mappingCount = t.mappingCount := hcount _ fun _ h ↦ .inr (.inl h)
  have he : s.envelopeCount = t.envelopeCount := hcount _ fun _ h ↦ .inr (.inr (.inl h))
  have hh : s.headersCount = t.headersCount := hcount _ fun _ h ↦ .inr (.inr (.inr h))
  have hk : s.keptCount = t.keptCount := by rw [keptCount, keptCount, hv, hm]
  have hi : s.implicitCount = t.implicitCount := by rw [implicitCount, implicitCount, hv, hm]
  have hkeeps : s.keepsMapping = t.keepsMapping := by rw [keepsMapping, keepsMapping, hv, hm]
  have hyields : s.yieldsMappings = t.yieldsMappings := by
    rw [yieldsMappings, yieldsMappings, hv, hm]
  rw [hs.verdict_eq, ht.verdict_eq, he, hk, hh, hi, hkeeps, hyields]
  rw [hfilter Parameter.isEnvelope fun _ h ↦ .inr (.inr (.inl h))]
  rw [hfilter fun p ↦ p.isUnmarkedValue || (t.keepsMapping && p.isUnmarkedMapping)]
  · rw [hfilter fun p ↦ p.isHeadersMarked || (t.yieldsMappings && p.isUnmarkedMapping)]
    intro p hp
    rcases Bool.or_eq_true_iff.mp hp with hp | hp
    · exact .inr (.inr (.inr hp))
    · exact .inr (.inl (Bool.and_eq_true_iff.mp hp).2)
  · intro p hp
    rcases Bool.or_eq_true_iff.mp hp with hp | hp
    · exact .inl hp
    · exact .inr (.inl (Bool.and_eq_true_iff.mp hp).2)

end Signature

open Signature (positions labels) in
/-- A signature fails with the error of its first parameter that has no descriptor, if there is one.
Otherwise the numbers of its competing parameters decide, in this order: more than one bound to the
message, more than one kept for the payload or bound to the message, more than one bound to all
headers.  If there is no such conflict, each slot goes to the one parameter that competes for it, if
there is one.  How this ends depends only on the parameters that are not marked for a header. -/
theorem Binder.ofSignature_by_counts (s : Signature) :
    (∀ i p fault, s.parameters[i]? = some p →
      Descriptor.ofParameter s.name i p = .error fault →
      (∀ j p', j < i → s.parameters[j]? = some p' →
        ∃ d, Descriptor.ofParameter s.name j p' = .ok d) →
      Binder.ofSignature s = .error fault) ∧
    (s.Describable →
      s.kept.length = s.keptCount ∧ s.enveloped.length = s.envelopeCount ∧
      s.bulk.length = s.headersCount + s.implicitCount ∧
      ∃ ds slots, Binder.ofSignature s =
        if 1 < s.envelopeCount then .error (.multipleEnvelopes s.name (positions s.enveloped))
        else if 1 < s.keptCount + s.envelopeCount then
          .error (.ambiguousPayload s.name (labels (s.kept ++ s.enveloped)))
        else if 1 < s.headersCount + s.implicitCount then
          .error (.multipleBulkHeaders s.name (positions s.bulk))
        else .ok {
          handler := s.name
          descriptors := ds
          slots := slots
          payloadSlot := (positions s.kept).head?
          bulkSlot := (positions s.bulk).head?
          envelopeSlot := (positions s.enveloped).head? }) ∧
    ∀ t : Signature, s.Describable → t.Describable →
      s.unmarkedForHeader = t.unmarkedForHeader → s.verdict = t.verdict := by
  refine ⟨?_, ?_, fun t hs ht h ↦ hs.verdict_congr ht h⟩
  · intro i p fault hp hfault hfirst
    have herror : s.descriptors = .error fault := by
      refine describeFrom_eq_error hp ?_ fun j p' hj hp' ↦ ?_
      · rwa [Nat.zero_add]
      · rw [Nat.zero_add]
        exact hfirst j p' hj hp'
    unfold Binder.ofSignature
    rw [herror]
  · intro hs
    obtain ⟨ds, hds, hdesc⟩ := hs.descriptors
    obtain ⟨slots, hslots⟩ := ofDescriptors_by_counts hs hdesc
    refine ⟨hs.length_kept, s.length_enveloped, hs.length_bulk, ds, slots, ?_⟩
    unfold Binder.ofSignature
    rw [hds]
    exact hslots

/-- Two mappings beside a value are both bound to all headers, a header parameter between them
changes nothing, and a value that is marked for all headers has no descriptor. -/
theorem Binder.ofSignature_by_counts_of_two_mappings :
    let header : Parameter := ⟨none, .value, [.header (some "id") true]⟩
    let s : Signature := ⟨"enrich", [.unnamed .map, header, .unnamed .value, .unnamed .map]⟩
    let t : Signature := ⟨"enrich", [.unnamed .map, .unnamed .value, .unnamed .map]⟩
    let undescribed : Signature := ⟨"enrich", [.unnamed .map, ⟨none, .value, [.headers]⟩]⟩
    s.Describable ∧ t.Describable ∧ s.unmarkedForHeader = t.unmarkedForHeader ∧
      s.verdict = t.verdict ∧
      Binder.ofSignature s = .error (.multipleBulkHeaders "enrich" [0, 3]) ∧
      Binder.ofSignature undescribed = .error (.bulkHeadersType "enrich" 1 .value) := by
  intro header s t undescribed
  have hds : s.descriptors = .ok [⟨0, .map, none, none, false, false⟩,
      ⟨1, .value, none, some ("id", true), false, false⟩, ⟨2, .value, none, none, false, false⟩,
      ⟨3, .map, none, none, false, false⟩] := by decide
  have hdt : t.descriptors = .ok [⟨0, .map, none, none, false, false⟩,
      ⟨1, .value, none, none, false, false⟩,
      ⟨2, .map, none, none, false, false⟩] := by decide
  have hs : s.Describable := Signature.describable_of_descriptors hds
  have ht : t.Describable := Signature.describable_of_descriptors hdt
  have hst : s.unmarkedForHeader = t.unmarkedForHeader := by decide
  refine ⟨hs, ht, hst, (Binder.ofSignature_by_counts s).2.2 t hs ht hst, ?_, ?_⟩
  · obtain ⟨-, -, -, ds, slots, h⟩ := (Binder.ofSignature_by_counts s).2.1 hs
    rw [h, if_neg (by decide), if_neg (by decide), if_pos (by decide)]
    rfl
  · refine (Binder.ofSignature_by_counts undescribed).1 1 ⟨none, .value, [.headers]⟩ _ rfl rfl ?_
    intro j p hj hp
    obtain rfl : j = 0 := Nat.lt_one_iff.mp hj
    obtain rfl : Parameter.unnamed .map = p := Option.some.inj hp
    exact ⟨⟨0, .map, none, none, false, false⟩, rfl⟩

end Messaging
