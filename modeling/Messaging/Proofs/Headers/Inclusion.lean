import Mathlib.Data.List.Perm.Subperm
import Messaging.Message
import Messaging.Proofs.Value.Comparison

/-!
# The inclusion of header sets

One header set contains another one if it has each of its headers with the same value.  Up to the
comparison of values this is the inclusion of finite maps, so it is an order: it is reflexive and
transitive, and two header sets contain each other only if they are the same.  Null and a missing
header are different here, as are an integer and a floating-point number.

The two ways to copy headers are the two ways to join header sets.  Each of them is the other one
with the roles of the two sets exchanged: what comes over the earlier headers here is what is there
first over there.  Where the sets agree on the keys that they have in common it does not matter
which one wins, and the result is the least header set that contains both.
-/

namespace Messaging.Dictionary

/-! ## The keys of a dictionary -/

section Keys

variable {α : Type} {d e : Dictionary α} {k : String}

/-- The keys, by ascending order. -/
def keys (d : Dictionary α) : List String := d.entries.map Prod.fst

theorem length_keys (d : Dictionary α) : d.keys.length = d.size := List.length_map _

theorem mem_keys_iff : k ∈ d.keys ↔ ∃ v, d.get? k = some v := by
  simp [keys, get?_eq_some_iff]

theorem nodup_keys (d : Dictionary α) : d.keys.Nodup := by
  refine List.pairwise_map.mpr (d.ascending.imp fun {x y} h heq ↦ ?_)
  rw [heq] at h
  exact String.lt_irrefl _ h

theorem size_le_of_keys_subset (h : e.keys ⊆ d.keys) : e.size ≤ d.size := by
  rw [← length_keys, ← length_keys]
  exact (e.nodup_keys.subperm h).length_le

end Keys

/-! ## Inclusion -/

variable {a b c : Headers} {k : String} {v w : Value}

theorem holds_iff : a.holds k v = true ↔ ∃ w, a.get? k = some w ∧ (w == v) = true := by
  unfold holds
  cases a.get? k with
  | some w => simp
  | none => simp

/-- An integer is not the same as the floating-point number of equal size. -/
example :
    (ofList [("size", .int 1)]).holds "size" (.float ⟨0x3FF0000000000000, by decide⟩) = false := rfl

theorem holds_of_get? (h : a.get? k = some v) : a.holds k v = true :=
  holds_iff.mpr ⟨v, h, BEq.rfl⟩

/-- Values that are the same are held alike. -/
theorem holds_of_beq (h : a.holds k v = true) (hsame : (v == w) = true) : a.holds k w = true := by
  obtain ⟨x, hx, hxv⟩ := holds_iff.mp h
  exact holds_iff.mpr ⟨x, hx, BEq.trans hxv hsame⟩

theorem containsAll_iff :
    a.containsAll b = true ↔ ∀ k v, b.get? k = some v → a.holds k v = true := by
  rw [containsAll, List.all_eq_true, Prod.forall]
  simp only [get?_eq_some_iff]

theorem containsAll_refl (a : Headers) : a.containsAll a = true :=
  containsAll_iff.mpr fun _ _ ↦ holds_of_get?

theorem holds_of_containsAll (h : a.containsAll b = true) (hb : b.holds k v = true) :
    a.holds k v = true := by
  obtain ⟨w, hw, hsame⟩ := holds_iff.mp hb
  exact holds_of_beq (containsAll_iff.mp h k w hw) hsame

theorem containsAll_trans (hab : a.containsAll b = true) (hbc : b.containsAll c = true) :
    a.containsAll c = true :=
  containsAll_iff.mpr fun k v hv ↦ holds_of_containsAll hab (containsAll_iff.mp hbc k v hv)

theorem size_le_of_containsAll (h : a.containsAll b = true) : b.size ≤ a.size := by
  refine size_le_of_keys_subset fun k hk ↦ ?_
  obtain ⟨v, hv⟩ := mem_keys_iff.mp hk
  obtain ⟨w, hw, -⟩ := holds_iff.mp (containsAll_iff.mp h k v hv)
  exact mem_keys_iff.mpr ⟨w, hw⟩

/-- A text is the same as no other value, so the texts are included as they are. -/
theorem get?_stringValues_of_containsAll (h : a.containsAll b = true) {s : String}
    (hs : b.stringValues.get? k = some s) : a.stringValues.get? k = some s := by
  rw [get?_stringValues, Option.bind_eq_some_iff] at hs ⊢
  obtain ⟨v, hv, hstring⟩ := hs
  obtain rfl := Value.string?_eq_some_iff.mp hstring
  obtain ⟨w, hw, hsame⟩ := holds_iff.mp (containsAll_iff.mp h k _ hv)
  obtain rfl := Value.canonical_eq_string_iff.mp (Value.beq_iff.mp hsame)
  exact ⟨_, hw, rfl⟩

/-! ## Header sets that contain each other -/

theorem entries_map {α β : Type} (f : α → β) (d : Dictionary α) :
    (d.map f).entries = d.entries.map fun e ↦ (e.1, f e.2) := by
  show d.entries.filterMap (fun e ↦ some (e.1, f e.2)) = _
  rw [List.filterMap_eq_map']

theorem beq_entries_iff {l m : List (String × Value)} :
    (l == m) = true ↔
      l.map (fun e ↦ (e.1, e.2.canonical)) = m.map fun e ↦ (e.1, e.2.canonical) := by
  induction l generalizing m with
  | nil => cases m <;> simp
  | cons e l ih =>
    cases m with
    | nil => simp
    | cons f m =>
      have hentry : (e == f) = true ↔ e.1 = f.1 ∧ e.2.canonical = f.2.canonical := by
        show (e.1 == f.1 && e.2 == f.2) = true ↔ _
        rw [Bool.and_eq_true_iff, beq_iff_eq, Value.beq_iff]
      rw [List.cons_beq_cons, Bool.and_eq_true_iff, hentry, ih, List.map_cons, List.map_cons,
        List.cons.injEq, Prod.mk.injEq]

/-- Header sets are the same if and only if they differ at most in the signs of zeros. -/
theorem beq_iff : (a == b) = true ↔ a.map Value.canonical = b.map Value.canonical := by
  have hentries : a.map Value.canonical = b.map Value.canonical ↔
      (a.map Value.canonical).entries = (b.map Value.canonical).entries :=
    ⟨congrArg entries, entries_injective⟩
  rw [hentries, entries_map, entries_map]
  exact beq_entries_iff

theorem holds_iff_canonical :
    a.holds k v = true ↔ (a.map Value.canonical).get? k = some v.canonical := by
  simp only [holds_iff, Value.beq_iff, get?_map, Option.map_eq_some_iff]

/-- What has the same canonical values is contained. -/
theorem containsAll_of_map_eq (h : a.map Value.canonical = b.map Value.canonical) :
    a.containsAll b = true := by
  refine containsAll_iff.mpr fun k v hv ↦ ?_
  rw [holds_iff_canonical, h, get?_map, hv, Option.map_some]

theorem containsAll_antisymm :
    a.containsAll b = true ∧ b.containsAll a = true ↔ (a == b) = true := by
  rw [beq_iff]
  constructor
  · rintro ⟨hab, hba⟩
    -- Each of the two holds what is there in the other one.
    refine ext_get? fun k ↦ Option.ext fun x ↦ ?_
    constructor
    · intro hx
      rw [get?_map] at hx
      obtain ⟨v, hv, rfl⟩ := Option.map_eq_some_iff.mp hx
      exact holds_iff_canonical.mp (containsAll_iff.mp hba k v hv)
    · intro hx
      rw [get?_map] at hx
      obtain ⟨v, hv, rfl⟩ := Option.map_eq_some_iff.mp hx
      exact holds_iff_canonical.mp (containsAll_iff.mp hab k v hv)
  · intro h
    exact ⟨containsAll_of_map_eq h, containsAll_of_map_eq h.symm⟩

/-! ## Joins -/

/-- The two header sets have the same values for the keys that are in both. -/
def Agree (a b : Headers) : Prop :=
  ∀ k v w, a.get? k = some v → b.get? k = some w → (v == w) = true

theorem Agree.symm (h : a.Agree b) : b.Agree a := fun k v w hv hw ↦ BEq.symm (h k w v hw hv)

/-- The least header set that contains two others. -/
structure IsJoin (a b join : Headers) : Prop where
  left : join.containsAll a = true
  right : join.containsAll b = true
  least : ∀ c : Headers, c.containsAll a = true → c.containsAll b = true →
    c.containsAll join = true

theorem IsJoin.symm {join : Headers} (h : a.IsJoin b join) : b.IsJoin a join :=
  ⟨h.right, h.left, fun c hb ha ↦ h.least c ha hb⟩

/-- Each way to copy headers is the other one with the roles exchanged. -/
theorem insertAllIfAbsent_eq_insertAll (a b : Headers) :
    a.insertAllIfAbsent b.entries = b.insertAll a.entries :=
  ext_get? fun k ↦ by rw [get?_insertAllIfAbsent, get?_insertAll]; rfl

theorem containsAll_insertAll (a b : Headers) : (a.insertAll b.entries).containsAll b = true :=
  containsAll_iff.mpr fun k v hv ↦ holds_of_get? (by rw [get?_insertAll, hv, Option.some_or])

theorem containsAll_insertAllIfAbsent (a b : Headers) :
    (a.insertAllIfAbsent b.entries).containsAll a = true := by
  rw [insertAllIfAbsent_eq_insertAll]
  exact containsAll_insertAll b a

theorem Agree.isJoin_insertAll (h : a.Agree b) : a.IsJoin b (a.insertAll b.entries) where
  left := by
    refine containsAll_iff.mpr fun k v hv ↦ holds_iff.mpr ?_
    rw [get?_insertAll]
    cases hw : b.get? k with
    | some w => exact ⟨w, rfl, BEq.symm (h k v w hv hw)⟩
    | none => exact ⟨v, hv, BEq.rfl⟩
  right := containsAll_insertAll a b
  least := by
    intro c ha hb
    refine containsAll_iff.mpr fun k v hv ↦ ?_
    rw [get?_insertAll, Option.or_eq_some_iff] at hv
    rcases hv with hv | ⟨-, hv⟩
    · exact containsAll_iff.mp hb k v hv
    · exact containsAll_iff.mp ha k v hv

theorem Agree.isJoin_insertAllIfAbsent (h : a.Agree b) :
    a.IsJoin b (a.insertAllIfAbsent b.entries) := by
  rw [insertAllIfAbsent_eq_insertAll]
  exact h.symm.isJoin_insertAll.symm

/-! ## The order and its joins -/

/-- Inclusion is an order of header sets: key by key it compares values, it is reflexive and
transitive, and header sets that contain each other are the same.  A header set that contains
another one has at least as many headers, and all its texts.  Copying headers into a draft joins two
header sets: the result contains what is copied over earlier headers, and what was there if nothing
comes over it; the two ways give equal headers when the roles are exchanged; and where both sets
agree on the keys that they have in common, either way gives the least header set that contains
both. -/
theorem inclusion_order_with_joins (a b c : Headers) :
    (a.containsAll b = true ↔
      ∀ k v, b.get? k = some v → ∃ w, a.get? k = some w ∧ (w == v) = true) ∧
    a.containsAll a = true ∧
    (a.containsAll b = true → b.containsAll c = true → a.containsAll c = true) ∧
    (a.containsAll b = true ∧ b.containsAll a = true ↔ (a == b) = true) ∧
    (a.containsAll b = true → b.size ≤ a.size ∧
      ∀ k s, b.stringValues.get? k = some s → a.stringValues.get? k = some s) ∧
    ∀ d : Draft, d.headers = a →
      (d.copy b.entries).headers.containsAll b = true ∧
      (d.copyIfAbsent b.entries).headers.containsAll a = true ∧
      (∀ e : Draft, e.headers = b →
        (d.copyIfAbsent b.entries).headers = (e.copy a.entries).headers) ∧
      (a.Agree b → a.IsJoin b (d.copy b.entries).headers ∧
        a.IsJoin b (d.copyIfAbsent b.entries).headers) := by
  refine ⟨?_, containsAll_refl a, containsAll_trans, containsAll_antisymm, ?_, ?_⟩
  · simp only [containsAll_iff, holds_iff]
  · exact fun h ↦ ⟨size_le_of_containsAll h, fun k s ↦ get?_stringValues_of_containsAll h⟩
  · rintro d rfl
    refine ⟨containsAll_insertAll _ b, containsAll_insertAllIfAbsent _ b, ?_, ?_⟩
    · rintro e rfl
      exact insertAllIfAbsent_eq_insertAll _ _
    · exact fun h ↦ ⟨h.isJoin_insertAll, h.isJoin_insertAllIfAbsent⟩

/-- The sets have different zeros under the key that they have in common, and these are the same; a
null and an integer come from one set only.  The zero that is copied over the other one shows. -/
theorem inclusion_order_with_joins_of_zeros :
    let negative : Value := .float ⟨0x8000000000000000, by decide⟩
    let a : Headers := ofList [("priority", .float Double.zero), ("region", .null)]
    let b : Headers := ofList [("priority", negative), ("tenant", .int 1)]
    let d : Draft := ⟨.int 7, a⟩
    .float Double.zero ≠ negative ∧ a.Agree b ∧ a.IsJoin b (d.copy b.entries).headers ∧
      (d.copy b.entries).headers.get? "priority" = some negative := by
  intro negative a b d
  have hne : .float Double.zero ≠ negative := fun h ↦
    absurd (congrArg Double.bits (Value.float.inj h)) (by decide)
  have ha : ∀ k, a.get? k = if "region" = k then some .null
      else if "priority" = k then some (.float Double.zero) else none := by
    simp [a, ofList, insertAll]
  have hb : ∀ k, b.get? k = if "tenant" = k then some (.int 1)
      else if "priority" = k then some negative else none := by
    simp [b, ofList, insertAll]
  have hagree : a.Agree b := by
    intro k v w hv hw
    rw [ha] at hv
    rw [hb] at hw
    by_cases hk : "priority" = k
    · subst hk
      cases hv
      cases hw
      rfl
    · rw [if_neg hk] at hv hw
      split at hv
      · rename_i hregion
        subst hregion
        cases hw
      · cases hv
  have hshown : (a.insertAll b.entries).get? "priority" = some negative := by
    rw [get?_insertAll, hb]
    rfl
  obtain ⟨-, -, -, -, -, hcopies⟩ := inclusion_order_with_joins a b a
  obtain ⟨-, -, -, hjoin⟩ := hcopies d rfl
  exact ⟨hne, hagree, (hjoin hagree).1, hshown⟩

end Messaging.Dictionary
