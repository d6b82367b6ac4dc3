import Messaging.Value.Document

/-!
# Documents of values

A value whose objects list their fields by ascending name is the value of its own document, and only
such values are read from documents.  The document of a record gives each name the field of that
name, and nothing twice.
-/

namespace Messaging

/-! ## Dictionaries of lists -/

namespace Dictionary

variable {α : Type}

theorem get?_ofList (l : List (String × α)) (k : String) :
    (ofList l).get? k = find? k l.reverse := by
  rw [ofList, get?_insertAll_eq_find?_reverse, get?_empty, Option.or_none]

/-- A list of pairs by ascending key is the list of the entries of its dictionary. -/
theorem entries_ofList {l : List (String × α)} (h : l.Pairwise (fun a b ↦ a.1 < b.1)) :
    (ofList l).entries = l := by
  have heq : ofList l = ⟨l, h⟩ := ext_get? fun k ↦ by
    rw [ofList, get?_insertAll_of_ascending _ h, get?_empty, Option.or_none]
    rfl
  rw [heq]

theorem ofList_entries (d : Dictionary α) : ofList d.entries = d :=
  entries_injective (entries_ofList d.ascending)

theorem mem_of_mem_entries_ofList {l : List (String × α)} {e : String × α}
    (h : e ∈ (ofList l).entries) : e ∈ l := by
  have hget : (ofList l).get? e.1 = some e.2 := get?_eq_some_iff.mpr h
  rw [get?_ofList] at hget
  exact List.mem_reverse.mp (mem_of_find? hget)

end Dictionary

/-! ## Values and their documents -/

namespace Value

theorem fieldDocuments_eq_map (l : List (String × Value)) :
    fieldDocuments l = l.map fun f ↦ (f.1, f.2.document) := by
  induction l with
  | nil => rfl
  | cons f l ih => rw [fieldDocuments, ih, List.map_cons]

theorem orderedFields_iff {l : List (String × Value)} :
    OrderedFields l ↔ ∀ f ∈ l, f.2.Ordered := by
  induction l with
  | nil => simp [OrderedFields]
  | cons f l ih => rw [OrderedFields, ih, List.forall_mem_cons]

/-- An object is ordered whatever its fields are written like, if their values are. -/
theorem ordered_record {l : List (String × Value)} (h : OrderedFields l) : (record l).Ordered :=
  ⟨(Dictionary.ofList l).ascending, orderedFields_iff.mpr fun f hf ↦
    orderedFields_iff.mp h f (Dictionary.mem_of_mem_entries_ofList hf)⟩

theorem record_eq_object {l : List (String × Value)} (h : l.Pairwise (fun a b ↦ a.1 < b.1)) :
    record l = object l := by
  rw [record, Dictionary.entries_ofList h]

mutual

/-- The document of an ordered value has this value. -/
theorem value?_document : ∀ {v : Value}, v.Ordered → v.document.value? = some v
  | null, _ => rfl
  | bool _, _ => rfl
  | int _, _ => rfl
  | float _, _ => rfl
  | string _, _ => rfl
  | array _, h => by
    rw [document, Document.value?, values?_documents h, Option.map_some]
  | object _, h => by
    rw [document, Document.value?, fieldValues?_fieldDocuments h.2, Option.map_some,
      record_eq_object h.1]

theorem values?_documents : ∀ {l : List Value}, OrderedItems l →
    Document.values? (documents l) = some l
  | [], _ => rfl
  | v :: l, h => by
    rw [documents, Document.values?, value?_document h.1, values?_documents h.2]
    rfl

theorem fieldValues?_fieldDocuments : ∀ {l : List (String × Value)}, OrderedFields l →
    Document.fieldValues? (fieldDocuments l) = some l
  | [], _ => rfl
  | (_, v) :: l, h => by
    rw [fieldDocuments, Document.fieldValues?, value?_document h.1, fieldValues?_fieldDocuments h.2]
    rfl

end

end Value

namespace Document

mutual

/-- What is read is ordered. -/
theorem ordered_of_value? : ∀ {d : Document} {v : Value}, d.value? = some v → v.Ordered
  | null, _, h => by cases h; trivial
  | bool _, _, h => by cases h; trivial
  | int _, _, h => by cases h; trivial
  | float _, _, h => by cases h; trivial
  | string _, _, h => by cases h; trivial
  | array _, _, h => by
    obtain ⟨l, hl, rfl⟩ := Option.map_eq_some_iff.mp h
    exact orderedItems_of_values? hl
  | object _, _, h => by
    obtain ⟨l, hl, rfl⟩ := Option.map_eq_some_iff.mp h
    exact Value.ordered_record (orderedFields_of_fieldValues? hl)

theorem orderedItems_of_values? : ∀ {ds : List Document} {l : List Value},
    values? ds = some l → Value.OrderedItems l
  | [], _, h => by cases h; trivial
  | d :: ds, _, h => by
    obtain ⟨v, hv, h⟩ := Option.bind_eq_some_iff.mp h
    obtain ⟨l, hl, h⟩ := Option.bind_eq_some_iff.mp h
    cases h
    exact ⟨ordered_of_value? hv, orderedItems_of_values? hl⟩

theorem orderedFields_of_fieldValues? : ∀ {ds : List (String × Document)}
    {l : List (String × Value)}, fieldValues? ds = some l → Value.OrderedFields l
  | [], _, h => by cases h; trivial
  | (_, d) :: ds, _, h => by
    obtain ⟨v, hv, h⟩ := Option.bind_eq_some_iff.mp h
    obtain ⟨l, hl, h⟩ := Option.bind_eq_some_iff.mp h
    cases h
    exact ⟨ordered_of_value? hv, orderedFields_of_fieldValues? hl⟩

end

/-! ## The fields of written records -/

theorem given_fieldDocuments {l : List (String × Value)}
    (h : l.Pairwise (fun a b ↦ a.1 < b.1)) (name : String) :
    given name (Value.fieldDocuments l) =
      ((Dictionary.find? name l).map Value.document).toList := by
  induction l with
  | nil => rfl
  | cons f l ih =>
    obtain ⟨hhead, htail⟩ := List.pairwise_cons.mp h
    have ih := ih htail
    rw [given] at ih ⊢
    rw [Value.fieldDocuments, Dictionary.find?]
    by_cases hname : f.1 = name
    · -- The names behind this one are greater, so none of them is found again.
      subst hname
      rw [Dictionary.find?_eq_none_of_lt hhead] at ih
      simpa using ih
    · simpa [hname] using ih

/-- The fields of a written dictionary are its lookups. -/
theorem fieldsOf?_fieldDocuments (d : Dictionary Value) (names : List String) :
    fieldsOf? names (Value.fieldDocuments d.entries) =
      some (names.map fun name ↦ (d.get? name).map Value.document) := by
  induction names with
  | nil => rfl
  | cons name names ih =>
    rw [fieldsOf?] at ih ⊢
    rw [List.mapM_cons, ih, given_fieldDocuments d.ascending]
    cases hget : Dictionary.find? name d.entries <;> simp [Dictionary.get?, hget]

/-- The fields of a written record; of two fields of one name the later one counts. -/
theorem record?_document_record (names : List String) (l : List (String × Value)) :
    (Value.record l).document.record? names =
      some (names.map fun name ↦ (Dictionary.find? name l.reverse).map Value.document) := by
  rw [Value.record, Value.document, record?, fieldsOf?_fieldDocuments]
  simp only [Dictionary.get?_ofList]

/-- A list of documents is read item by item. -/
theorem mapM_documents {α : Type} {write : α → Value} {read? : Document → Option α} {l : List α}
    (h : ∀ x ∈ l, read? (write x).document = some x) :
    (Value.documents (l.map write)).mapM read? = some l := by
  induction l with
  | nil => rfl
  | cons x l ih =>
    rw [List.map_cons, Value.documents, List.mapM_cons, h x List.mem_cons_self,
      ih fun y hy ↦ h y (List.mem_cons_of_mem _ hy)]
    rfl

end Document

end Messaging
