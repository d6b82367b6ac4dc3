import Mathlib.Data.List.DropRight
import Messaging.Text.Blank

/-!
# Texts without the white space around them

Taking the white space away at both ends of a text leaves its core: the text is the core between two
stretches of white space, and the core has no white space at either end.  There is exactly one such
core, so these two properties say all there is to say about trimming.  A text is blank if its core
is empty, and a blank text names nothing.
-/

namespace Messaging.Text

variable {cs core before after : List Char}

/-- Nothing but white space, if there is anything at all. -/
def Blank (cs : List Char) : Prop := ∀ c ∈ cs, isBlank c = true

/-- Neither the first nor the last character is white space. -/
structure Bare (cs : List Char) : Prop where
  first : ∀ h : cs ≠ [], isBlank (cs.head h) = false
  last : ∀ h : cs ≠ [], isBlank (cs.getLast h) = false

/-- The second text is what is left of the first one without the white space at both ends. -/
structure HasCore (cs core : List Char) : Prop where
  surrounded : ∃ before after, cs = before ++ core ++ after ∧ Blank before ∧ Blank after
  bare : Bare core

theorem dropWhile_of_blank_append (h : Blank before) (cs : List Char) :
    (before ++ cs).dropWhile isBlank = cs.dropWhile isBlank :=
  List.dropWhile_append_of_pos h

theorem rdropWhile_of_append_blank (h : Blank after) (cs : List Char) :
    (cs ++ after).rdropWhile isBlank = cs.rdropWhile isBlank := by
  have hreverse : Blank after.reverse := fun c hc ↦ h c (List.mem_reverse.mp hc)
  rw [List.rdropWhile, List.reverse_append, dropWhile_of_blank_append hreverse]
  rfl

theorem trimmed_eq_rdropWhile (cs : List Char) :
    trimmed cs = (cs.dropWhile isBlank).rdropWhile isBlank := rfl

/-- Text with white space around it is trimmed to what stands between. -/
theorem Bare.trimmed_surrounded (h : Bare core) (hbefore : Blank before) (hafter : Blank after) :
    trimmed (before ++ core ++ after) = core := by
  rw [trimmed_eq_rdropWhile, List.append_assoc, dropWhile_of_blank_append hbefore]
  cases core with
  | nil =>
    rw [List.nil_append, List.rdropWhile_eq_nil_iff]
    exact fun c hc ↦ hafter c ((List.dropWhile_sublist _).subset hc)
  | cons c core =>
    have hfirst : isBlank c = false := h.first (List.cons_ne_nil c core)
    rw [List.cons_append, List.dropWhile_cons_of_neg (by simp [hfirst]), ← List.cons_append,
      rdropWhile_of_append_blank hafter, List.rdropWhile_eq_self_iff]
    intro hne
    simp [h.last hne]

theorem bare_trimmed (cs : List Char) : Bare (trimmed cs) where
  first := by
    intro h
    -- What is dropped at the end leaves the first character in its place.
    have hstart : trimmed cs <+: cs.dropWhile isBlank := List.rdropWhile_prefix _ _
    have hne : cs.dropWhile isBlank ≠ [] := fun hnil ↦ h (List.prefix_nil.mp (hnil ▸ hstart))
    rw [hstart.head h]
    exact List.head_dropWhile_not isBlank hne
  last := by
    intro h
    exact Bool.eq_false_iff.mpr (List.rdropWhile_last_not isBlank (cs.dropWhile isBlank) h)

theorem hasCore_trimmed (cs : List Char) : HasCore cs (trimmed cs) where
  surrounded := by
    refine ⟨cs.takeWhile isBlank, (cs.dropWhile isBlank).rtakeWhile isBlank, ?_, ?_, ?_⟩
    · rw [trimmed_eq_rdropWhile, List.append_assoc, List.rdropWhile_append_rtakeWhile,
        List.takeWhile_append_dropWhile]
    · exact fun c hc ↦ List.mem_takeWhile_imp hc
    · exact fun c hc ↦ List.mem_rtakeWhile_imp hc
  bare := bare_trimmed cs

/-- The core of a text is what trimming leaves, and nothing else is. -/
theorem hasCore_iff : HasCore cs core ↔ core = trimmed cs := by
  constructor
  · rintro ⟨⟨before, after, rfl, hbefore, hafter⟩, hbare⟩
    exact (hbare.trimmed_surrounded hbefore hafter).symm
  · rintro rfl
    exact hasCore_trimmed cs

/-- Text without white space at its ends is its own core. -/
theorem Bare.hasCore (h : Bare cs) : HasCore cs cs :=
  ⟨⟨[], [], by simp, List.forall_mem_nil _, List.forall_mem_nil _⟩, h⟩

/-- A text is blank if and only if nothing is left of it. -/
theorem blank_iff : Blank cs ↔ trimmed cs = [] := by
  constructor
  · intro h
    have hcore : HasCore cs [] :=
      ⟨⟨cs, [], by simp, h, List.forall_mem_nil _⟩, fun hne ↦ (hne rfl).elim,
        fun hne ↦ (hne rfl).elim⟩
    exact (hasCore_iff.mp hcore).symm
  · intro h
    obtain ⟨before, after, hcs, hbefore, hafter⟩ := (hasCore_trimmed cs).surrounded
    rw [h, List.append_nil] at hcs
    rw [hcs]
    exact List.forall_mem_append.mpr ⟨hbefore, hafter⟩

/-! ## Names -/

/-- The key is the core of the text, which is there and is not blank. -/
def Names (text : Option String) (key : String) : Prop :=
  ∃ raw, text = some raw ∧ ¬Blank raw.toList ∧ HasCore raw.toList key.toList

/-- There is no text, or it is blank. -/
def NamesNothing (text : Option String) : Prop := ∀ raw, text = some raw → Blank raw.toList

theorem hasCore_toList_iff {raw key : String} : HasCore raw.toList key.toList ↔ trim raw = key := by
  rw [hasCore_iff, trim, ← String.toList_inj, String.toList_ofList, eq_comm]

theorem blank_toList_iff {raw : String} : Blank raw.toList ↔ trim raw = "" := by
  rw [blank_iff, trim, ← String.toList_inj, String.toList_ofList, String.toList_empty]

theorem named?_eq_some_iff {text : Option String} {key : String} :
    named? text = some key ↔ Names text key := by
  rw [named?, Option.filter_eq_some_iff, Option.map_eq_some_iff, decide_eq_true_iff]
  constructor
  · rintro ⟨⟨raw, htext, rfl⟩, hne⟩
    exact ⟨raw, htext, blank_toList_iff.not.mpr hne, hasCore_toList_iff.mpr rfl⟩
  · rintro ⟨raw, htext, hblank, hcore⟩
    have hkey : trim raw = key := hasCore_toList_iff.mp hcore
    exact ⟨⟨raw, htext, hkey⟩, hkey ▸ blank_toList_iff.not.mp hblank⟩

theorem named?_eq_none_iff {text : Option String} : named? text = none ↔ NamesNothing text := by
  cases text with
  | none => simp [named?, NamesNothing]
  | some raw => simp [named?, NamesNothing, blank_toList_iff]

/-- What names something has no white space at its ends, and does not consist of white space. -/
theorem Names.bare {text : Option String} {key : String} (h : Names text key) :
    ¬Blank key.toList ∧ Bare key.toList := by
  obtain ⟨raw, -, hraw, hcore⟩ := h
  obtain ⟨before, after, hsurrounded, hbefore, hafter⟩ := hcore.surrounded
  refine ⟨fun hkey ↦ hraw ?_, hcore.bare⟩
  rw [hsurrounded]
  exact List.forall_mem_append.mpr ⟨List.forall_mem_append.mpr ⟨hbefore, hkey⟩, hafter⟩

end Messaging.Text
