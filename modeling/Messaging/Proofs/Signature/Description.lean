import Mathlib.Data.List.Forall2
import Messaging.Signature.Descriptor

/-!
# The descriptors of a signature

A parameter has a descriptor if its markers give it a role.  `Parameter.HasRole` says which markers
and types give which role, one rule for each role.  The descriptor of a parameter plays exactly the
role that these rules allow: of its fields at most one says what the parameter is bound to.

A signature has descriptors if all its parameters have one, and they come in the order of the
parameters; otherwise the first parameter without a descriptor says why there are none.

What matters of a role is which of a few kinds it is, and that can be read off the parameter:
unmarked values and unmarked mappings are candidates, and so on.
-/

namespace Messaging

/-! ## Roles -/

/-- What a parameter is bound to, as far as it alone can tell. -/
inductive Role where
  /-- One header. -/
  | header (key : String) (required : Bool)
  /-- All headers. -/
  | headers
  /-- The message itself. -/
  | envelope
  /-- Perhaps the payload; that depends on the other parameters. -/
  | candidate
  deriving DecidableEq, Repr

/-- The header of a role. -/
def Role.header? : Role → Option (String × Bool)
  | header key required => some (key, required)
  | _ => none

namespace Parameter

/-- The parameter has markers, and they are all this one. -/
def MarkedOnly (p : Parameter) (marker : Marker) : Prop :=
  p.markers ≠ [] ∧ ∀ m ∈ p.markers, m = marker

/-- Two markers of the parameter differ. -/
def Conflicting (p : Parameter) : Prop := ∃ m ∈ p.markers, ∃ n ∈ p.markers, m ≠ n

/-- The role of a parameter. -/
inductive HasRole (p : Parameter) : Role → Prop
  /-- Without markers it is a candidate for the payload. -/
  | candidate (h : p.markers = []) (hk : p.kind ≠ .message) : HasRole p .candidate
  /-- Without markers, but declared as a message, it is bound to the message. -/
  | message (h : p.markers = []) (hk : p.kind = .message) : HasRole p .envelope
  /-- It is marked for the message. -/
  | envelope (h : p.MarkedOnly .envelope) : HasRole p .envelope
  /-- It is marked for all headers and can hold them. -/
  | headers (h : p.MarkedOnly .headers) (hk : p.kind.holdsHeaders = true) : HasRole p .headers
  /-- It is marked for a header that is named by the marker or else by the parameter. -/
  | header {name : Option String} {required : Bool} {key : String}
      (h : p.MarkedOnly (.header name required))
      (hkey : (Text.named? name).or (Text.named? p.name) = some key) :
      HasRole p (.header key required)

/-- A value without markers. -/
def isUnmarkedValue (p : Parameter) : Bool := p.markers.isEmpty && decide (p.kind = .value)

/-- A mapping or a record of texts without markers. -/
def isUnmarkedMapping (p : Parameter) : Bool := p.markers.isEmpty && p.kind.holdsHeaders

/-- Marked for the message, or declared as one without markers. -/
def isEnvelope (p : Parameter) : Bool :=
  p.markers.contains .envelope || (p.markers.isEmpty && decide (p.kind = .message))

/-- Marked for all headers. -/
def isHeadersMarked (p : Parameter) : Bool := p.markers.contains .headers

/-- Marked for a header. -/
def isHeaderMarked (p : Parameter) : Bool :=
  p.markers.any fun
    | .header .. => true
    | _ => false

/-- The text that points at the parameter at a position. -/
def label (p : Parameter) (index : Nat) : String :=
  match Text.named? p.name with
  | some name => "#" ++ toString index ++ " " ++ name ++ ": " ++ p.kind.name
  | none => "#" ++ toString index ++ ": " ++ p.kind.name

theorem markedOnly_iff {p : Parameter} {first : Marker} {others : List Marker}
    (h : p.markers = first :: others) (marker : Marker) :
    p.MarkedOnly marker ↔ first = marker ∧ others.all (· = marker) = true := by
  simp [MarkedOnly, h]

/-- There are no markers, or they are all one, or two of them differ. -/
theorem markers_cases (p : Parameter) :
    p.markers = [] ∨ (∃ m, p.MarkedOnly m) ∨ p.Conflicting := by
  by_cases hnil : p.markers = []
  · exact .inl hnil
  · obtain ⟨m, hm⟩ := List.exists_mem_of_ne_nil _ hnil
    by_cases hall : ∀ n ∈ p.markers, n = m
    · exact .inr (.inl ⟨m, hnil, hall⟩)
    · push Not at hall
      obtain ⟨n, hn, hne⟩ := hall
      exact .inr (.inr ⟨n, hn, m, hm, hne⟩)

theorem MarkedOnly.not_conflicting {p : Parameter} {marker : Marker}
    (h : p.MarkedOnly marker) : ¬p.Conflicting := by
  rintro ⟨m, hm, n, hn, hne⟩
  exact hne ((h.2 m hm).trans (h.2 n hn).symm)

theorem MarkedOnly.unique {p : Parameter} {marker m : Marker} (h : p.MarkedOnly marker)
    (hm : p.MarkedOnly m) : m = marker := by
  obtain ⟨x, hx⟩ := List.exists_mem_of_ne_nil _ h.1
  exact (hm.2 x hx).symm.trans (h.2 x hx)

theorem HasRole.not_conflicting {p : Parameter} {role : Role} (h : p.HasRole role) :
    ¬p.Conflicting := by
  have hnil : p.markers = [] → ¬p.Conflicting := by
    rintro hnil ⟨m, hm, -⟩
    rw [hnil] at hm
    cases hm
  cases h with
  | candidate h => exact hnil h
  | message h => exact hnil h
  | envelope h => exact h.not_conflicting
  | headers h => exact h.not_conflicting
  | header h => exact h.not_conflicting

end Parameter

namespace Descriptor

/-- The role of a descriptor, where the header counts first and the message last. -/
def role (d : Descriptor) : Role :=
  match d.header? with
  | some (key, required) => .header key required
  | none => if d.isBulk then .headers else if d.isEnvelope then .envelope else .candidate

theorem role_eq_header_iff {d : Descriptor} {key : String} {required : Bool} :
    d.role = .header key required ↔ d.header? = some (key, required) := by
  unfold role
  cases d.header? with
  | some header => simp [Prod.ext_iff]
  | none => cases d.isBulk <;> cases d.isEnvelope <;> simp

/-- The descriptor has the fields of this role and of no other. -/
structure Plays (d : Descriptor) (role : Role) : Prop where
  header?_eq : d.header? = role.header?
  isBulk_eq : d.isBulk = decide (role = .headers)
  isEnvelope_eq : d.isEnvelope = decide (role = .envelope)

namespace Plays

variable {d : Descriptor} {role : Role}

theorem isCandidate_eq (h : d.Plays role) : d.isCandidate = decide (role = .candidate) := by
  rw [isCandidate, h.header?_eq, h.isBulk_eq, h.isEnvelope_eq]
  cases role <;> rfl

theorem role_eq (h : d.Plays role) : d.role = role := by
  rw [Descriptor.role, h.header?_eq, h.isBulk_eq, h.isEnvelope_eq]
  cases role <;> rfl

/-- A descriptor that plays a role is of exactly one of the four kinds. -/
theorem count_kinds (h : d.Plays role) :
    [d.header?.isSome, d.isBulk, d.isEnvelope, d.isCandidate].count true = 1 := by
  rw [h.isCandidate_eq, h.header?_eq, h.isBulk_eq, h.isEnvelope_eq]
  cases role <;> rfl

end Plays

/-- The descriptor of a parameter that plays a role. -/
def playing (index : Nat) (p : Parameter) (role : Role) : Descriptor :=
  { unbound index p with
    header? := role.header?
    isBulk := role = .headers
    isEnvelope := role = .envelope }

theorem plays_playing (index : Nat) (p : Parameter) (role : Role) :
    (playing index p role).Plays role := ⟨rfl, rfl, rfl⟩

variable {handler : String} {index : Nat} {p : Parameter} {marker : Marker} {d : Descriptor}

theorem ofParameter_of_unmarked (h : p.markers = []) :
    ofParameter handler index p = .ok (unmarked index p) := by
  rw [ofParameter, h]

theorem ofParameter_of_conflicting (h : p.Conflicting) :
    ofParameter handler index p = .error (.conflictingMarkers handler index) := by
  cases hmarkers : p.markers with
  | nil =>
    obtain ⟨m, hm, -⟩ := h
    rw [hmarkers] at hm
    cases hm
  | cons first others =>
    have hall : ¬others.all (· = first) = true := fun hall ↦
      ((p.markedOnly_iff hmarkers first).mpr ⟨rfl, hall⟩).not_conflicting h
    rw [ofParameter, hmarkers]
    exact if_neg hall

theorem ofParameter_of_markedOnly (h : p.MarkedOnly marker) :
    ofParameter handler index p = marked handler index p marker := by
  cases hmarkers : p.markers with
  | nil => exact (h.1 hmarkers).elim
  | cons first others =>
    obtain ⟨rfl, hall⟩ := (p.markedOnly_iff hmarkers marker).mp h
    rw [ofParameter, hmarkers]
    exact if_pos hall

theorem marked_eq_ok_iff (hmarked : p.MarkedOnly marker) :
    marked handler index p marker = .ok d ↔ ∃ role, p.HasRole role ∧ d = playing index p role := by
  constructor
  · intro h
    unfold marked at h
    split at h
    · split at h
      · rename_i key hkey
        cases h
        exact ⟨_, .header hmarked hkey, rfl⟩
      · cases h
    · split at h
      · rename_i hk
        cases h
        exact ⟨_, .headers hmarked hk, rfl⟩
      · cases h
    · cases h
      exact ⟨_, .envelope hmarked, rfl⟩
  · rintro ⟨role, h, rfl⟩
    cases h with
    | candidate h _ => exact (hmarked.1 h).elim
    | message h _ => exact (hmarked.1 h).elim
    | envelope h =>
      rw [← hmarked.unique h]
      rfl
    | headers h hk =>
      rw [← hmarked.unique h, marked, if_pos hk]
      rfl
    | header h hkey =>
      rw [← hmarked.unique h, marked, hkey]
      rfl

/-- The descriptor of a parameter plays the role that the rules give the parameter. -/
theorem ofParameter_eq_ok_iff :
    ofParameter handler index p = .ok d ↔ ∃ role, p.HasRole role ∧ d = playing index p role := by
  rcases p.markers_cases with hnil | ⟨marker, hmarked⟩ | hconflict
  · have hunmarked : ∀ m, ¬p.MarkedOnly m := fun m h ↦ h.1 hnil
    rw [ofParameter_of_unmarked hnil, Except.ok.injEq, unmarked]
    constructor
    · rintro rfl
      by_cases hk : p.kind = .message
      · exact ⟨_, .message hnil hk, by simp [playing, unbound, Role.header?, hk]⟩
      · exact ⟨_, .candidate hnil hk, by simp [playing, unbound, Role.header?, hk]⟩
    · rintro ⟨role, h, rfl⟩
      cases h with
      | candidate _ hk => simp [playing, unbound, Role.header?, hk]
      | message _ hk => simp [playing, unbound, Role.header?, hk]
      | envelope h => exact (hunmarked _ h).elim
      | headers h _ => exact (hunmarked _ h).elim
      | header h _ => exact (hunmarked _ h).elim
  · rw [ofParameter_of_markedOnly hmarked]
    exact marked_eq_ok_iff hmarked
  · rw [ofParameter_of_conflicting hconflict]
    constructor
    · rintro ⟨⟩
    · rintro ⟨role, h, -⟩
      exact (h.not_conflicting hconflict).elim

/-- `d` describes the parameter `x.1` at the position `x.2`. -/
def Describes (handler : String) (x : Parameter × Nat) (d : Descriptor) : Prop :=
  ofParameter handler x.2 x.1 = .ok d

theorem describes_iff {x : Parameter × Nat} :
    Describes handler x d ↔ ∃ role, x.1.HasRole role ∧ d = playing x.2 x.1 role :=
  ofParameter_eq_ok_iff

/-! ## What the parameter says about its role -/

namespace Describes

variable {x : Parameter × Nat}

theorem index_eq (h : Describes handler x d) : d.index = x.2 := by
  obtain ⟨role, -, rfl⟩ := describes_iff.mp h
  rfl

theorem kind_eq (h : Describes handler x d) : d.kind = x.1.kind := by
  obtain ⟨role, -, rfl⟩ := describes_iff.mp h
  rfl

theorem label_eq (h : Describes handler x d) : d.label = x.1.label x.2 := by
  obtain ⟨role, -, rfl⟩ := describes_iff.mp h
  rfl

theorem plays (h : Describes handler x d) : d.Plays d.role := by
  obtain ⟨role, -, rfl⟩ := describes_iff.mp h
  rw [(plays_playing x.2 x.1 role).role_eq]
  exact plays_playing x.2 x.1 role

theorem hasRole (h : Describes handler x d) : x.1.HasRole d.role := by
  obtain ⟨role, hr, rfl⟩ := describes_iff.mp h
  rwa [(plays_playing x.2 x.1 role).role_eq]

end Describes

end Descriptor

namespace Parameter

theorem MarkedOnly.contains_eq {p : Parameter} {marker : Marker} (h : p.MarkedOnly marker)
    (m : Marker) : p.markers.contains m = decide (m = marker) := by
  obtain ⟨hne, hall⟩ := h
  by_cases hm : m = marker
  · subst hm
    obtain ⟨x, hx⟩ := List.exists_mem_of_ne_nil _ hne
    simpa [hall x hx] using hx
  · have : m ∉ p.markers := fun hmem ↦ hm (hall m hmem)
    simp [hm, this]

theorem MarkedOnly.isEmpty_eq {p : Parameter} {marker : Marker} (h : p.MarkedOnly marker) :
    p.markers.isEmpty = false := by
  simpa using h.1

namespace HasRole

variable {p : Parameter} {role : Role}

theorem isEnvelope_eq (h : p.HasRole role) : p.isEnvelope = decide (role = .envelope) := by
  unfold isEnvelope
  cases h with
  | candidate h hk => simp [h, hk]
  | message h hk => simp [h, hk]
  | envelope h => simp only [h.contains_eq, h.isEmpty_eq]; rfl
  | headers h => simp only [h.contains_eq, h.isEmpty_eq]; rfl
  | header h => simp only [h.contains_eq, h.isEmpty_eq]; rfl

theorem isHeadersMarked_eq (h : p.HasRole role) :
    p.isHeadersMarked = decide (role = .headers) := by
  unfold isHeadersMarked
  cases h with
  | candidate h => simp [h]
  | message h => simp [h]
  | envelope h => rw [h.contains_eq]; rfl
  | headers h => rw [h.contains_eq]; rfl
  | header h => rw [h.contains_eq]; rfl

theorem isUnmarkedMapping_eq (h : p.HasRole role) :
    p.isUnmarkedMapping = (decide (role = .candidate) && p.kind.holdsHeaders) := by
  unfold isUnmarkedMapping
  cases h with
  | candidate h => simp [h]
  | message h hk => simp [h, hk, Kind.holdsHeaders]
  | envelope h => simp [h.isEmpty_eq]
  | headers h => simp [h.isEmpty_eq]
  | header h => simp [h.isEmpty_eq]

theorem isUnmarkedValue_eq (h : p.HasRole role) :
    p.isUnmarkedValue = (decide (role = .candidate) && !p.kind.holdsHeaders) := by
  unfold isUnmarkedValue
  cases h with
  | candidate h hk => cases hp : p.kind <;> simp_all [Kind.holdsHeaders]
  | message h hk => simp [hk]
  | envelope h => simp [h.isEmpty_eq]
  | headers h => simp [h.isEmpty_eq]
  | header h => simp [h.isEmpty_eq]

/-- A parameter that is marked for a header has no other role. -/
theorem isHeaderMarked_eq (h : p.HasRole role) :
    p.isHeaderMarked =
      !(decide (role = .envelope) || decide (role = .headers) || decide (role = .candidate)) := by
  have only : ∀ {m : Marker}, p.MarkedOnly m →
      p.isHeaderMarked = match m with | .header .. => true | _ => false := by
    rintro m ⟨hne, hall⟩
    obtain ⟨y, hy⟩ := List.exists_mem_of_ne_nil _ hne
    unfold isHeaderMarked
    cases m with
    | header name required =>
      exact List.any_eq_true.mpr ⟨y, hy, by rw [hall y hy]⟩
    | headers =>
      exact List.any_eq_false.mpr fun z hz ↦ by simp [hall z hz]
    | envelope =>
      exact List.any_eq_false.mpr fun z hz ↦ by simp [hall z hz]
  cases h with
  | candidate h => simp [isHeaderMarked, h]
  | message h => simp [isHeaderMarked, h]
  | envelope h => rw [only h]; rfl
  | headers h => rw [only h]; rfl
  | header h => rw [only h]; rfl

/-- A parameter is bound to a header if and only if it is marked for one. -/
theorem exists_header_iff (h : p.HasRole role) :
    (∃ key required, role = .header key required) ↔
      ∃ name required, .header name required ∈ p.markers := by
  have hmarked : (∃ name required, .header name required ∈ p.markers) ↔
      p.isHeaderMarked = true := by
    rw [Parameter.isHeaderMarked, List.any_eq_true]
    constructor
    · rintro ⟨name, required, hmem⟩
      exact ⟨_, hmem, rfl⟩
    · rintro ⟨marker, hmem, hheader⟩
      cases marker with
      | header name required => exact ⟨name, required, hmem⟩
      | headers => cases hheader
      | envelope => cases hheader
  rw [hmarked, h.isHeaderMarked_eq]
  cases role <;> simp

end HasRole

end Parameter

/-! ## The descriptors of all parameters -/

/-- Descriptors are found for all parameters or for none, and then in their order. -/
theorem describeFrom_eq_ok_iff {handler : String} {index : Nat} {ps : List Parameter}
    {ds : List Descriptor} :
    describeFrom handler index ps = .ok ds ↔
      List.Forall₂ (Descriptor.Describes handler) (ps.zipIdx index) ds := by
  induction ps generalizing index ds with
  | nil => cases ds <;> simp [describeFrom]
  | cons p rest ih =>
    rw [describeFrom, List.zipIdx_cons, List.forall₂_cons_left_iff]
    cases hp : Descriptor.ofParameter handler index p with
    | error e =>
      constructor
      · intro h
        cases h
      · rintro ⟨d, ds', hd, -, -⟩
        unfold Descriptor.Describes at hd
        rw [hp] at hd
        cases hd
    | ok d =>
      cases hr : describeFrom handler (index + 1) rest with
      | error e =>
        constructor
        · intro h
          cases h
        · rintro ⟨d', ds', -, hds, -⟩
          rw [ih.mpr hds] at hr
          cases hr
      | ok ds' =>
        constructor
        · intro h
          cases h
          exact ⟨d, ds', hp, ih.mp hr, rfl⟩
        · rintro ⟨d', ds'', hd, hds, rfl⟩
          unfold Descriptor.Describes at hd
          rw [hp] at hd
          rw [ih.mpr hds] at hr
          cases hd
          cases hr
          rfl

/-- The first parameter without a descriptor says why there are none. -/
theorem describeFrom_eq_error {handler : String} {index i : Nat} {ps : List Parameter}
    {p : Parameter} {fault : SignatureError} (hp : ps[i]? = some p)
    (hfault : Descriptor.ofParameter handler (index + i) p = .error fault)
    (hfirst : ∀ j p', j < i → ps[j]? = some p' →
      ∃ d, Descriptor.ofParameter handler (index + j) p' = .ok d) :
    describeFrom handler index ps = .error fault := by
  induction ps generalizing index i with
  | nil => simp at hp
  | cons head rest ih =>
    cases i with
    | zero =>
      rw [List.getElem?_cons_zero, Option.some.injEq] at hp
      subst hp
      rw [describeFrom, show Descriptor.ofParameter handler index head = .error fault from hfault]
    | succ i =>
      obtain ⟨d, hd⟩ := hfirst 0 head (Nat.succ_pos i) rfl
      have hrest : describeFrom handler (index + 1) rest = .error fault := by
        refine ih (by simpa using hp) ?_ fun j p' hj hp' ↦ ?_
        · rw [Nat.add_assoc, Nat.add_comm 1 i]
          exact hfault
        · obtain ⟨d', hd'⟩ := hfirst (j + 1) p' (Nat.succ_lt_succ hj) (by simpa using hp')
          refine ⟨d', ?_⟩
          rw [Nat.add_assoc, Nat.add_comm 1 j]
          exact hd'
      rw [describeFrom, show Descriptor.ofParameter handler index head = .ok d from hd, hrest]

namespace Signature

/-- Every parameter of the signature has a descriptor. -/
def Describable (s : Signature) : Prop :=
  ∀ i p, s.parameters[i]? = some p → ∃ d, Descriptor.ofParameter s.name i p = .ok d

private theorem exists_forall₂_describes {handler : String} {ps : List Parameter} {index : Nat} :
    (∀ j p, ps[j]? = some p → ∃ d, Descriptor.ofParameter handler (index + j) p = .ok d) ↔
      ∃ ds, List.Forall₂ (Descriptor.Describes handler) (ps.zipIdx index) ds := by
  induction ps generalizing index with
  | nil => exact ⟨fun _ ↦ ⟨[], .nil⟩, fun _ j p h ↦ by simp at h⟩
  | cons p rest ih =>
    constructor
    · intro h
      obtain ⟨d, hd⟩ := h 0 p rfl
      obtain ⟨ds, hds⟩ := ih.mp fun j p' hp' ↦ by
        rw [Nat.add_assoc, Nat.add_comm 1 j]
        exact h (j + 1) p' (by simpa using hp')
      exact ⟨d :: ds, .cons hd hds⟩
    · rintro ⟨_, h⟩ j p' hp'
      rw [List.zipIdx_cons, List.forall₂_cons_left_iff] at h
      obtain ⟨d, ds, hd, hds, -⟩ := h
      cases j with
      | zero =>
        obtain rfl : p = p' := by simpa using hp'
        exact ⟨d, hd⟩
      | succ j =>
        obtain ⟨d', hd'⟩ := ih.mpr ⟨ds, hds⟩ j p' (by simpa using hp')
        rw [Nat.add_assoc, Nat.add_comm 1 j] at hd'
        exact ⟨d', hd'⟩

theorem describable_iff {s : Signature} : s.Describable ↔
    ∃ ds, List.Forall₂ (Descriptor.Describes s.name) s.parameters.zipIdx ds := by
  rw [← exists_forall₂_describes]
  simp only [Describable, Nat.zero_add]

theorem describable_of_descriptors {s : Signature} {ds : List Descriptor}
    (h : s.descriptors = .ok ds) : s.Describable :=
  describable_iff.mpr ⟨ds, describeFrom_eq_ok_iff.mp h⟩

theorem Describable.descriptors {s : Signature} (h : s.Describable) :
    ∃ ds, s.descriptors = .ok ds ∧
      List.Forall₂ (Descriptor.Describes s.name) s.parameters.zipIdx ds := by
  obtain ⟨ds, hds⟩ := describable_iff.mp h
  exact ⟨ds, describeFrom_eq_ok_iff.mpr hds, hds⟩

end Signature

end Messaging
