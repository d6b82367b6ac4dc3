import Messaging.Proofs.Signature.Description
import Messaging.Proofs.Text.Trimming

/-!
# Markers as a set

What a parameter is bound to depends on which markers it has, and not on their order or on how often
they come.  `Parameter.HasRole` says which markers give which role, and `Parameter.HasFault` says
which markers give none: these rules only ask whether there are markers, whether they are all one,
and whether two of them differ.  So the descriptor of a parameter, and the error where it has none,
are the same for all lists of the same markers.

A parameter that is marked for a header needs a key, which is the name in the marker or else its own
name, without the white space around it; a blank name does not count.
-/

namespace Messaging

theorem Kind.holdsHeaders_eq_false_iff {kind : Kind} :
    kind.holdsHeaders = false ↔ kind = .value ∨ kind = .message := by
  cases kind <;> simp [holdsHeaders]

/-! ## The rules -/

namespace Parameter

/-- Why the parameter has no role. -/
inductive HasFault (handler : String) (index : Nat) (p : Parameter) : SignatureError → Prop
  /-- Its markers contradict each other. -/
  | conflicting (h : p.Conflicting) : HasFault handler index p (.conflictingMarkers handler index)
  /-- It is marked for a header that neither the marker nor the parameter names. -/
  | unnamed {name : Option String} {required : Bool} (h : p.MarkedOnly (.header name required))
      (hmarker : Text.NamesNothing name) (hname : Text.NamesNothing p.name) :
      HasFault handler index p (.unnamedHeader handler index)
  /-- It is marked for all headers and cannot hold them. -/
  | bulk (h : p.MarkedOnly .headers) (hk : p.kind.holdsHeaders = false) :
      HasFault handler index p (.bulkHeadersType handler index p.kind)

section Congr

variable {p : Parameter} {handler : String} {index : Nat} {marker : Marker} {markers : List Marker}

theorem MarkedOnly.congr (hset : ∀ m, m ∈ markers ↔ m ∈ p.markers) (h : p.MarkedOnly marker) :
    MarkedOnly { p with markers } marker := by
  obtain ⟨hne, hall⟩ := h
  obtain ⟨x, hx⟩ := List.exists_mem_of_ne_nil _ hne
  exact ⟨List.ne_nil_of_mem ((hset x).mpr hx), fun m hm ↦ hall m ((hset m).mp hm)⟩

theorem eq_nil_congr (hset : ∀ m, m ∈ markers ↔ m ∈ p.markers) (h : p.markers = []) :
    markers = [] := by
  refine List.eq_nil_iff_forall_not_mem.mpr fun m hm ↦ ?_
  rw [hset, h] at hm
  cases hm

theorem HasRole.congr (hset : ∀ m, m ∈ markers ↔ m ∈ p.markers) {role : Role} (h : p.HasRole role) :
    HasRole { p with markers } role := by
  cases h with
  | candidate h hk => exact .candidate (eq_nil_congr hset h) hk
  | message h hk => exact .message (eq_nil_congr hset h) hk
  | envelope h => exact .envelope (h.congr hset)
  | headers h hk => exact .headers (h.congr hset) hk
  | header h hkey => exact .header (h.congr hset) hkey

theorem HasFault.congr (hset : ∀ m, m ∈ markers ↔ m ∈ p.markers) {fault : SignatureError}
    (h : p.HasFault handler index fault) : HasFault handler index { p with markers } fault := by
  cases h with
  | conflicting h =>
    obtain ⟨m, hm, n, hn, hne⟩ := h
    exact .conflicting ⟨m, (hset m).mpr hm, n, (hset n).mpr hn, hne⟩
  | unnamed h hmarker hname => exact .unnamed (h.congr hset) hmarker hname
  | bulk h hk => exact .bulk (h.congr hset) hk

end Congr

end Parameter

/-! ## Roles and descriptors -/

namespace Descriptor

variable {p : Parameter} {handler : String} {index : Nat}

/-- The error that is found for a parameter is the one that the rules give it. -/
theorem ofParameter_eq_error_iff {fault : SignatureError} :
    ofParameter handler index p = .error fault ↔ p.HasFault handler index fault := by
  constructor
  · intro h
    rcases p.markers_cases with hnil | ⟨marker, hmarked⟩ | hconflict
    · rw [ofParameter_of_unmarked hnil] at h
      cases h
    · rw [ofParameter_of_markedOnly hmarked] at h
      unfold marked at h
      split at h
      · split at h
        · cases h
        · rename_i hkey
          obtain ⟨hmarker, hname⟩ := Option.or_eq_none_iff.mp hkey
          cases h
          exact .unnamed hmarked (Text.named?_eq_none_iff.mp hmarker)
            (Text.named?_eq_none_iff.mp hname)
      · split at h
        · cases h
        · rename_i hk
          cases h
          exact .bulk hmarked (Bool.eq_false_iff.mpr hk)
      · cases h
    · rw [ofParameter_of_conflicting hconflict] at h
      cases h
      exact .conflicting hconflict
  · intro h
    cases h with
    | conflicting h => exact ofParameter_of_conflicting h
    | unnamed h hmarker hname =>
      rw [ofParameter_of_markedOnly h, marked, Text.named?_eq_none_iff.mpr hmarker,
        Text.named?_eq_none_iff.mpr hname]
      rfl
    | bulk h hk =>
      rw [ofParameter_of_markedOnly h, marked, hk]
      rfl

/-- The same markers lead to the same descriptor or to the same error. -/
theorem ofParameter_congr {markers : List Marker} (hset : ∀ m, m ∈ markers ↔ m ∈ p.markers) :
    ofParameter handler index { p with markers } = ofParameter handler index p := by
  cases hd : ofParameter handler index p with
  | ok d =>
    obtain ⟨role, hrole, rfl⟩ := ofParameter_eq_ok_iff.mp hd
    exact ofParameter_eq_ok_iff.mpr ⟨role, hrole.congr hset, rfl⟩
  | error fault =>
    exact ofParameter_eq_error_iff.mpr ((ofParameter_eq_error_iff.mp hd).congr hset)

/-- The key of a header comes from the marker, or else from the parameter. -/
theorem header_key {d : Descriptor} {key : String} {required : Bool} (hrole : p.HasRole d.role)
    (hkey : d.header? = some (key, required)) :
    ∃ name, p.MarkedOnly (.header name required) ∧
      (Text.Names name key ∨ Text.NamesNothing name ∧ Text.Names p.name key) := by
  rw [role_eq_header_iff.mpr hkey] at hrole
  cases hrole with
  | @header name _ _ h hnamed =>
    refine ⟨name, h, ?_⟩
    rcases Option.or_eq_some_iff.mp hnamed with hmarker | ⟨hmarker, hname⟩
    · exact .inl (Text.named?_eq_some_iff.mp hmarker)
    · exact .inr ⟨Text.named?_eq_none_iff.mp hmarker, Text.named?_eq_some_iff.mp hname⟩

/-- The markers of a parameter count as a set: lists of the same markers lead to the same descriptor
or to the same error.  Two different markers contradict each other; a single marker is refused for a
header that neither it nor the parameter names, and for all headers where the type is a value or a
message; there are no other errors.  A descriptor is of exactly one of the four kinds.  The key of a
header is the name in the marker without the white space around it, or else the name of the
parameter, if the former is absent or blank; it is not blank and has no white space at its ends. -/
theorem ofParameter_by_markers (handler : String) (index : Nat) (p : Parameter) :
    (∀ markers, (∀ m, m ∈ markers ↔ m ∈ p.markers) →
      ofParameter handler index { p with markers } = ofParameter handler index p) ∧
    (ofParameter handler index p = .error (.conflictingMarkers handler index) ↔
      ∃ m ∈ p.markers, ∃ n ∈ p.markers, m ≠ n) ∧
    (ofParameter handler index p = .error (.unnamedHeader handler index) ↔
      ∃ name required, p.MarkedOnly (.header name required) ∧
        Text.NamesNothing name ∧ Text.NamesNothing p.name) ∧
    (ofParameter handler index p = .error (.bulkHeadersType handler index p.kind) ↔
      p.MarkedOnly .headers ∧ (p.kind = .value ∨ p.kind = .message)) ∧
    (∀ fault, ofParameter handler index p = .error fault →
      fault ∈ [.conflictingMarkers handler index, .unnamedHeader handler index,
        .bulkHeadersType handler index p.kind]) ∧
    ∀ d, ofParameter handler index p = .ok d →
      p.HasRole d.role ∧
      [d.header?.isSome, d.isBulk, d.isEnvelope, d.isCandidate].count true = 1 ∧
      ∀ key required, d.header? = some (key, required) →
        (∃ name, p.MarkedOnly (.header name required) ∧
          (Text.Names name key ∨ Text.NamesNothing name ∧ Text.Names p.name key)) ∧
        ¬Text.Blank key.toList ∧ Text.Bare key.toList := by
  refine ⟨fun markers hset ↦ ?_, ?_, ?_, ?_, fun fault h ↦ ?_, fun d hd ↦ ?_⟩
  · exact ofParameter_congr hset
  · rw [ofParameter_eq_error_iff]
    constructor
    · intro hfault
      cases hfault with
      | conflicting h => exact h
    · exact .conflicting
  · rw [ofParameter_eq_error_iff]
    constructor
    · intro hfault
      cases hfault with
      | @unnamed name required h hmarker hname => exact ⟨name, required, h, hmarker, hname⟩
    · rintro ⟨name, required, h, hmarker, hname⟩
      exact .unnamed h hmarker hname
  · rw [ofParameter_eq_error_iff]
    constructor
    · intro hfault
      cases hfault with
      | bulk h hk => exact ⟨h, Kind.holdsHeaders_eq_false_iff.mp hk⟩
    · rintro ⟨h, hk⟩
      exact .bulk h (Kind.holdsHeaders_eq_false_iff.mpr hk)
  · cases ofParameter_eq_error_iff.mp h <;> simp
  · have hdescribes : Describes handler (p, index) d := hd
    have hrole : p.HasRole d.role := hdescribes.hasRole
    refine ⟨hrole, hdescribes.plays.count_kinds, fun key required hkey ↦ ?_⟩
    obtain ⟨name, hmarked, hnames⟩ := header_key hrole hkey
    refine ⟨⟨name, hmarked, hnames⟩, ?_⟩
    rcases hnames with hnames | ⟨-, hnames⟩
    · exact hnames.bare
    · exact hnames.bare

/-- The marker comes twice and names nothing but white space, so the key is the name of the
parameter; the same marker once leads to the same descriptor. -/
theorem ofParameter_by_markers_of_blank_name :
    let marker : Marker := .header (some " \t") false
    let p : Parameter := ⟨some " priority ", .value, [marker, marker]⟩
    let d : Descriptor := ⟨1, .value, some "priority", some ("priority", false), false, false⟩
    (∀ m, m ∈ [marker] ↔ m ∈ p.markers) ∧ ofParameter "enrich" 1 p = .ok d ∧
      ofParameter "enrich" 1 { p with markers := [marker] } = ofParameter "enrich" 1 p ∧
      d.header? = some ("priority", false) ∧ Text.Bare "priority".toList := by
  intro marker p d
  have hset : ∀ m, m ∈ [marker] ↔ m ∈ p.markers := by simp [p]
  have hd : ofParameter "enrich" 1 p = .ok d := by decide
  obtain ⟨hcongr, -, -, -, -, hok⟩ := ofParameter_by_markers "enrich" 1 p
  obtain ⟨-, -, hkey⟩ := hok d hd
  exact ⟨hset, hd, hcongr _ hset, rfl, (hkey "priority" false rfl).2.2⟩

end Descriptor

end Messaging
