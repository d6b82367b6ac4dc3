/-!
# Dictionaries

A dictionary maps text keys to values.  Its entries are kept in strictly ascending order of their
keys, so listing a dictionary always shows the same order, and two dictionaries that answer every
lookup alike are equal.  Text is ordered by code points, which is also the order of its UTF-8 bytes.

The view of a dictionary is `get?`; each operation below comes with the lemma that says what it does
to that view.
-/

namespace Messaging

universe u v

/-- A finite map from text keys, listed by ascending key. -/
structure Dictionary (α : Type u) where
  /-- The pairs of the dictionary, by ascending key. -/
  entries : List (String × α)
  /-- No key comes twice, and smaller keys come first. -/
  ascending : entries.Pairwise (fun a b ↦ a.1 < b.1)

namespace Dictionary

variable {α : Type u} {β : Type v}

/-! ### Lists of entries -/

/-- The value of a key in a list of entries: the first one counts. -/
def find? (k : String) : List (String × α) → Option α
  | [] => none
  | (key, value) :: rest => if key = k then some value else find? k rest

/-- Puts an entry at its place in an ascending list, over an earlier value of the same key. -/
def place (k : String) (v : α) : List (String × α) → List (String × α)
  | [] => [(k, v)]
  | (key, value) :: rest =>
    if k < key then (k, v) :: (key, value) :: rest
    else if k = key then (k, v) :: rest
    else (key, value) :: place k v rest

theorem mem_place {k : String} {v : α} {e : String × α} {l : List (String × α)} :
    e ∈ place k v l → e = (k, v) ∨ e ∈ l := by
  induction l with
  | nil => intro h; simpa [place] using h
  | cons head tail ih =>
    intro h
    unfold place at h
    split at h
    · simpa using h
    · split at h
      · rcases List.mem_cons.mp h with h | h
        · exact .inl h
        · exact .inr (List.mem_cons_of_mem _ h)
      · rcases List.mem_cons.mp h with h | h
        · exact .inr (h ▸ List.mem_cons_self)
        · exact (ih h).imp id (List.mem_cons_of_mem _)

private theorem lt_of_not_lt_of_ne {a b : String} (h : ¬a < b) (hne : a ≠ b) : b < a := by
  rcases String.le_total a b with hle | hle
  · exact (hne (String.le_antisymm hle (String.not_lt.mp h))).elim
  · refine Decidable.byContradiction fun hlt ↦ hne (String.le_antisymm (String.not_lt.mp hlt) hle)

theorem place_ascending {k : String} {v : α} {l : List (String × α)}
    (h : l.Pairwise (fun a b ↦ a.1 < b.1)) :
    (place k v l).Pairwise (fun a b ↦ a.1 < b.1) := by
  induction l with
  | nil => exact List.pairwise_singleton _ _
  | cons head tail ih =>
    obtain ⟨hhead, htail⟩ := List.pairwise_cons.mp h
    unfold place
    split
    · rename_i hlt
      refine List.pairwise_cons.mpr ⟨fun e he ↦ ?_, h⟩
      rcases List.mem_cons.mp he with rfl | he
      · exact hlt
      · exact String.lt_trans hlt (hhead e he)
    · split
      · rename_i heq
        exact List.pairwise_cons.mpr ⟨fun e he ↦ heq ▸ hhead e he, htail⟩
      · rename_i hlt hne
        refine List.pairwise_cons.mpr ⟨fun e he ↦ ?_, ih htail⟩
        rcases mem_place he with rfl | he
        · exact lt_of_not_lt_of_ne hlt hne
        · exact hhead e he

theorem find?_place (k : String) (v : α) (key : String) (l : List (String × α)) :
    find? key (place k v l) = if k = key then some v else find? key l := by
  induction l with
  | nil => rfl
  | cons head tail ih =>
    unfold place
    split
    · rfl
    · split
      · rename_i heq
        subst heq
        by_cases h : head.1 = key <;> simp [find?, h]
      · rename_i hlt hne
        by_cases h : head.1 = key
        · have : ¬k = key := fun hk ↦ hne (hk.trans h.symm)
          simp [find?, h, this]
        · simp [find?, h, ih]

theorem find?_eq_none_of_lt {k : String} {l : List (String × α)}
    (h : ∀ e ∈ l, k < e.1) : find? k l = none := by
  induction l with
  | nil => rfl
  | cons head tail ih =>
    have hne : ¬head.1 = k := fun he ↦
      String.lt_irrefl k (by simpa [he] using h head List.mem_cons_self)
    simp [find?, hne, ih fun e he ↦ h e (List.mem_cons_of_mem _ he)]

theorem find?_filter (key : String) (l : List (String × α)) (k : String) :
    find? key (l.filter fun e ↦ e.1 != k) = if k = key then none else find? key l := by
  induction l with
  | nil => simp [find?]
  | cons head tail ih =>
    by_cases h : head.1 = k
    · rw [List.filter_cons_of_neg (by simpa using h), ih]
      by_cases hk : k = key
      · simp [hk]
      · simp [hk, find?, h]
    · rw [List.filter_cons_of_pos (by simpa using h)]
      by_cases hk : head.1 = key
      · have : ¬k = key := fun he ↦ h (hk.trans he.symm)
        simp [find?, hk, this]
      · simp only [find?, hk, if_false, ih]

theorem find?_append (k : String) (l m : List (String × α)) :
    find? k (l ++ m) = (find? k l).or (find? k m) := by
  induction l with
  | nil => rfl
  | cons e l ih =>
    rw [List.cons_append, find?, find?, ih]
    by_cases h : e.1 = k
    · rw [if_pos h, if_pos h, Option.some_or]
    · rw [if_neg h, if_neg h]

theorem mem_of_find? {k : String} {v : α} {l : List (String × α)} (h : find? k l = some v) :
    (k, v) ∈ l := by
  induction l with
  | nil => cases h
  | cons e l ih =>
    rw [find?] at h
    by_cases hk : e.1 = k
    · rw [if_pos hk, Option.some.injEq] at h
      subst hk h
      exact List.mem_cons_self
    · rw [if_neg hk] at h
      exact List.mem_cons_of_mem _ (ih h)

theorem exists_find?_of_mem {k : String} {v : α} {l : List (String × α)} (h : (k, v) ∈ l) :
    ∃ w, find? k l = some w := by
  induction l with
  | nil => cases h
  | cons e l ih =>
    rw [find?]
    by_cases hk : e.1 = k
    · exact ⟨e.2, if_pos hk⟩
    · rw [if_neg hk]
      refine ih ((List.mem_cons.mp h).resolve_left ?_)
      rintro rfl
      exact hk rfl

theorem find?_eq_some_iff {k : String} {v : α} {l : List (String × α)}
    (h : l.Pairwise (fun a b ↦ a.1 < b.1)) : find? k l = some v ↔ (k, v) ∈ l := by
  induction l with
  | nil => simp [find?]
  | cons head tail ih =>
    obtain ⟨hhead, htail⟩ := List.pairwise_cons.mp h
    by_cases hk : head.1 = k
    · subst hk
      constructor
      · intro he
        have : head.2 = v := by simpa [find?] using he
        exact this ▸ List.mem_cons_self
      · intro he
        rcases List.mem_cons.mp he with he | he
        · rw [← he]; simp [find?]
        · exact (String.lt_irrefl head.1 (hhead (head.1, v) he)).elim
    · have hne : (k, v) ≠ head := fun he ↦ hk (by simp [← he])
      simp [find?, hk, ih htail, hne]

/-! ### The dictionary -/

/-- The dictionary without entries. -/
def empty : Dictionary α := ⟨[], .nil⟩

instance : EmptyCollection (Dictionary α) := ⟨empty⟩

instance : Inhabited (Dictionary α) := ⟨empty⟩

/-- Dictionaries are compared entry by entry, in whatever way their values are compared. -/
instance [BEq α] : BEq (Dictionary α) := ⟨fun a b ↦ a.entries == b.entries⟩

/-- The value of a key, if the dictionary has the key. -/
def get? (d : Dictionary α) (k : String) : Option α := find? k d.entries

/-- Whether the dictionary has the key. -/
def contains (d : Dictionary α) (k : String) : Bool := (d.get? k).isSome

/-- The number of entries. -/
def size (d : Dictionary α) : Nat := d.entries.length

/-- Whether there is no entry. -/
def isEmpty (d : Dictionary α) : Bool := d.entries.isEmpty

/-- Writes one entry, over an earlier value of the key. -/
def insert (d : Dictionary α) (k : String) (v : α) : Dictionary α :=
  ⟨place k v d.entries, place_ascending d.ascending⟩

/-- Removes a key and its value; nothing happens where the key is missing. -/
def erase (d : Dictionary α) (k : String) : Dictionary α :=
  ⟨d.entries.filter fun e ↦ e.1 != k, d.ascending.filter _⟩

/-- Writes the entry only where the key is still missing. -/
def insertIfAbsent (d : Dictionary α) (k : String) (v : α) : Dictionary α :=
  if d.contains k then d else d.insert k v

/-- Writes a list of pairs from left to right: of two pairs with one key the later one counts. -/
def insertAll (d : Dictionary α) (l : List (String × α)) : Dictionary α :=
  l.foldl (fun d e ↦ d.insert e.1 e.2) d

/-- Writes a list of pairs from left to right where their keys are missing: the first one counts. -/
def insertAllIfAbsent (d : Dictionary α) (l : List (String × α)) : Dictionary α :=
  l.foldl (fun d e ↦ d.insertIfAbsent e.1 e.2) d

/-- The dictionary of a list of pairs; of two pairs with one key the later one counts. -/
def ofList (l : List (String × α)) : Dictionary α := empty.insertAll l

/-- Keeps the entries on which `f` is defined, with the values that it gives. -/
def filterMap (f : α → Option β) (d : Dictionary α) : Dictionary β :=
  ⟨d.entries.filterMap fun e ↦ (f e.2).map (e.1, ·), by
    refine d.ascending.filterMap _ fun a b hab c hc e he ↦ ?_
    obtain ⟨_, _, rfl⟩ := Option.map_eq_some_iff.mp hc
    obtain ⟨_, _, rfl⟩ := Option.map_eq_some_iff.mp he
    exact hab⟩

/-- The dictionary with the same keys and the images of the values. -/
def map (f : α → β) (d : Dictionary α) : Dictionary β := d.filterMap fun v ↦ some (f v)

/-! ### What the operations do to lookups -/

@[simp] theorem get?_empty (k : String) : (empty : Dictionary α).get? k = none := rfl

@[simp] theorem get?_insert (d : Dictionary α) (k : String) (v : α) (key : String) :
    (d.insert k v).get? key = if k = key then some v else d.get? key :=
  find?_place k v key d.entries

@[simp] theorem get?_erase (d : Dictionary α) (k key : String) :
    (d.erase k).get? key = if k = key then none else d.get? key :=
  find?_filter key d.entries k

theorem contains_eq_isSome (d : Dictionary α) (k : String) :
    d.contains k = (d.get? k).isSome := rfl

@[simp] theorem get?_insertIfAbsent (d : Dictionary α) (k : String) (v : α) (key : String) :
    (d.insertIfAbsent k v).get? key =
      (d.get? key).or (if k = key then some v else none) := by
  unfold insertIfAbsent
  by_cases h : d.contains k
  · by_cases hk : k = key
    · subst hk
      obtain ⟨w, hw⟩ := Option.isSome_iff_exists.mp h
      simp [h, hw]
    · simp [h, hk]
  · have hnone : d.get? k = none := by simpa [contains_eq_isSome] using h
    by_cases hk : k = key
    · subst hk; simp [h, hnone]
    · simp [h, hk]

theorem get?_eq_some_iff {d : Dictionary α} {k : String} {v : α} :
    d.get? k = some v ↔ (k, v) ∈ d.entries :=
  find?_eq_some_iff d.ascending

theorem entries_injective {a b : Dictionary α} (h : a.entries = b.entries) : a = b := by
  cases a; cases b; cases h; rfl

private theorem entries_eq_of_find? {l₁ l₂ : List (String × α)}
    (h₁ : l₁.Pairwise (fun a b ↦ a.1 < b.1)) (h₂ : l₂.Pairwise (fun a b ↦ a.1 < b.1))
    (h : ∀ k, find? k l₁ = find? k l₂) : l₁ = l₂ := by
  induction l₁ generalizing l₂ with
  | nil =>
    cases l₂ with
    | nil => rfl
    | cons head tail => simpa [find?] using h head.1
  | cons a l ih =>
    cases l₂ with
    | nil => simpa [find?] using h a.1
    | cons b m =>
      obtain ⟨ha, hl⟩ := List.pairwise_cons.mp h₁
      obtain ⟨hb, hm⟩ := List.pairwise_cons.mp h₂
      have ham : a ∈ b :: m := by
        have : find? a.1 (b :: m) = some a.2 := by rw [← h a.1]; simp [find?]
        exact (find?_eq_some_iff h₂).mp this
      have hbl : b ∈ a :: l := by
        have : find? b.1 (a :: l) = some b.2 := by rw [h b.1]; simp [find?]
        exact (find?_eq_some_iff h₁).mp this
      have hab : a = b := by
        rcases List.mem_cons.mp ham with rfl | ham
        · rfl
        · rcases List.mem_cons.mp hbl with rfl | hbl
          · rfl
          · exact (String.lt_asymm (hb a ham) (ha b hbl)).elim
      subst hab
      congr 1
      refine ih hl hm fun k ↦ ?_
      by_cases hk : a.1 = k
      · subst hk
        rw [find?_eq_none_of_lt ha, find?_eq_none_of_lt hb]
      · simpa [find?, hk] using h k

/-- Dictionaries with equal lookups are equal. -/
theorem ext_get? {a b : Dictionary α} (h : ∀ k, a.get? k = b.get? k) : a = b :=
  entries_injective (entries_eq_of_find? a.ascending b.ascending h)

theorem isEmpty_iff {d : Dictionary α} : d.isEmpty = true ↔ ∀ k, d.get? k = none := by
  unfold isEmpty
  rw [List.isEmpty_iff]
  constructor
  · intro h k
    rw [get?, h]
    rfl
  · intro h
    cases he : d.entries with
    | nil => rfl
    | cons e l =>
      have hmem : d.get? e.1 = some e.2 := get?_eq_some_iff.mpr (he ▸ List.mem_cons_self)
      rw [h e.1] at hmem
      cases hmem

@[simp] theorem get?_insertAllIfAbsent (d : Dictionary α) (l : List (String × α)) (k : String) :
    (d.insertAllIfAbsent l).get? k = (d.get? k).or (find? k l) := by
  induction l generalizing d with
  | nil => exact (Option.or_none).symm
  | cons e l ih =>
    show ((d.insertIfAbsent e.1 e.2).insertAllIfAbsent l).get? k = _
    rw [ih, get?_insertIfAbsent, Option.or_assoc, find?]
    by_cases h : e.1 = k
    · rw [if_pos h, if_pos h, Option.some_or]
    · rw [if_neg h, if_neg h, Option.none_or]

/-- Of several pairs with one key the last one counts. -/
theorem get?_insertAll_eq_find?_reverse (d : Dictionary α) (l : List (String × α)) (k : String) :
    (d.insertAll l).get? k = (find? k l.reverse).or (d.get? k) := by
  induction l generalizing d with
  | nil => rfl
  | cons e l ih =>
    show ((d.insert e.1 e.2).insertAll l).get? k = _
    rw [ih, get?_insert, List.reverse_cons, find?_append, Option.or_assoc, find?]
    by_cases h : e.1 = k
    · rw [if_pos h, if_pos h, Option.some_or]
    · rw [if_neg h, if_neg h]
      rfl

theorem get?_insertAll_of_ascending (d : Dictionary α) {l : List (String × α)}
    (h : l.Pairwise (fun a b ↦ a.1 < b.1)) (k : String) :
    (d.insertAll l).get? k = (find? k l).or (d.get? k) := by
  induction l generalizing d with
  | nil => rfl
  | cons e l ih =>
    obtain ⟨hhead, htail⟩ := List.pairwise_cons.mp h
    show ((d.insert e.1 e.2).insertAll l).get? k = _
    rw [ih _ htail, get?_insert, find?]
    by_cases hk : e.1 = k
    · -- A later pair has a greater key, so it does not write over this one.
      subst hk
      rw [find?_eq_none_of_lt hhead, if_pos rfl, if_pos rfl, Option.none_or, Option.some_or]
    · rw [if_neg hk, if_neg hk]

/-- The pairs of another dictionary come over the own ones. -/
@[simp] theorem get?_insertAll (d e : Dictionary α) (k : String) :
    (d.insertAll e.entries).get? k = (e.get? k).or (d.get? k) :=
  d.get?_insertAll_of_ascending e.ascending k

theorem isEmpty_insertAll_iff {d : Dictionary α} {l : List (String × α)} :
    (d.insertAll l).isEmpty = true ↔ d.isEmpty = true ∧ l = [] := by
  induction l generalizing d with
  | nil => exact (and_iff_left rfl).symm
  | cons e l ih =>
    have hinsert : (d.insert e.1 e.2).isEmpty ≠ true := fun h ↦ by
      simpa using isEmpty_iff.mp h e.1
    exact ih.trans ⟨fun h ↦ (hinsert h.1).elim, fun h ↦ by cases h.2⟩

theorem isEmpty_insertAllIfAbsent_iff {d e : Dictionary α} :
    (d.insertAllIfAbsent e.entries).isEmpty = true ↔ d.isEmpty = true ∧ e.isEmpty = true := by
  simp only [isEmpty_iff, get?_insertAllIfAbsent, Option.or_eq_none_iff]
  exact forall_and

@[simp] theorem get?_filterMap (f : α → Option β) (d : Dictionary α) (k : String) :
    (d.filterMap f).get? k = (d.get? k).bind f := by
  apply Option.ext
  intro v
  rw [get?_eq_some_iff, Option.bind_eq_some_iff]
  show (k, v) ∈ d.entries.filterMap (fun e ↦ (f e.2).map (e.1, ·)) ↔ _
  rw [List.mem_filterMap]
  constructor
  · rintro ⟨⟨key, w⟩, hmem, h⟩
    obtain ⟨v', hv, he⟩ := Option.map_eq_some_iff.mp h
    cases he
    exact ⟨w, get?_eq_some_iff.mpr hmem, hv⟩
  · rintro ⟨w, hw, hv⟩
    exact ⟨(k, w), get?_eq_some_iff.mp hw, Option.map_eq_some_iff.mpr ⟨v, hv, rfl⟩⟩

@[simp] theorem get?_map (f : α → β) (d : Dictionary α) (k : String) :
    (d.map f).get? k = (d.get? k).map f := by
  rw [map, get?_filterMap, Option.map_eq_bind]
  rfl

end Dictionary

end Messaging
