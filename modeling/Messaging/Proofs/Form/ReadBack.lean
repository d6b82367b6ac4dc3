import Messaging.Binder
import Messaging.Form.Message
import Messaging.Form.Signature
import Messaging.Proofs.Form.Document
import Messaging.Proofs.Form.Identity
import Messaging.Proofs.Form.Instant

/-!
# Written forms are read back

Writing leaves out what is absent and reading fills in what is left out, by rules that are stated
apart from each other.  They agree: the written form of a signature, of its parameters and markers,
of a header set and of a message is read as what was written.  So what is read of any document, with
fields left out or unknown ones added, has a written form that is read as the same.

Objects in payloads and headers have to list their fields by ascending name for that, as all do that
are read.
-/

namespace Messaging

/-- Whatever is read has a written form that is read as the same. -/
def Stable {α : Type} (write : α → Value) (read? : Document → Option α) : Prop :=
  ∀ d x, read? d = some x → read? (write x).document = some x

theorem stable_of_forall {α : Type} {write : α → Value} {read? : Document → Option α}
    (h : ∀ x, read? (write x).document = some x) : Stable write read? :=
  fun _ x _ ↦ h x

/-! ## Signatures -/

theorem Kind.ofDocument?_form (k : Kind) : Kind.ofDocument? k.form.document = some k := by
  cases k <;> rfl

namespace Marker

/-- The case of a written marker is taken out of its fields, and the others are passed on. -/
theorem ofDocument?_record {l : List (String × Value)} {case : String}
    (hl : Value.OrderedFields l)
    (hcase : Dictionary.find? "marker" l.reverse = some (.string case)) :
    ofDocument? (Value.record l).document =
      ofCase? case (Value.ofDictionary ((Dictionary.ofList l).erase "marker")).document := by
  have hgiven : Document.given "marker" (Value.fieldDocuments (Dictionary.ofList l).entries) =
      [.string case] := by
    have hget : Dictionary.find? "marker" (Dictionary.ofList l).entries = some (.string case) :=
      (Dictionary.get?_ofList l "marker").trans hcase
    rw [Document.given_fieldDocuments (Dictionary.ofList l).ascending, hget]
    rfl
  have hrest : (Value.fieldDocuments (Dictionary.ofList l).entries).filter
      (fun f ↦ f.1 != "marker") =
        Value.fieldDocuments ((Dictionary.ofList l).erase "marker").entries := by
    rw [Value.fieldDocuments_eq_map, Value.fieldDocuments_eq_map, List.filter_map]
    rfl
  have hordered : (Value.ofDictionary ((Dictionary.ofList l).erase "marker")).Ordered :=
    ⟨((Dictionary.ofList l).erase "marker").ascending, Value.orderedFields_iff.mpr fun f hf ↦
      Value.orderedFields_iff.mp (Value.ordered_record hl).2 f (List.mem_filter.mp hf).1⟩
  have hvalue :
      (Value.ofDictionary ((Dictionary.ofList l).erase "marker")).document.value?.isSome :=
    Option.isSome_of_mem (Value.value?_document hordered)
  rw [Value.record, Value.document, ofDocument?, hgiven]
  simp only [hrest]
  exact if_pos hvalue

theorem ofDocument?_form (m : Marker) : ofDocument? m.form.document = some m := by
  cases m with
  | header name required =>
    have hl : Value.OrderedFields ([("marker", .string "header")] ++ optionalField "name" name ++
        [("required", .bool required)]) := by
      cases name <;> repeat' constructor
    cases name <;>
    · refine (ofDocument?_record hl rfl).trans ?_
      rw [ofCase?, if_pos rfl, Value.ofDictionary, Value.document, Document.record?,
        Document.fieldsOf?_fieldDocuments]
      simp only [List.map_cons, Dictionary.get?_erase, Dictionary.get?_ofList]
      rfl
  | headers =>
    have hl : Value.OrderedFields [("marker", .string "headers")] := ⟨trivial, trivial⟩
    exact (ofDocument?_record hl rfl).trans rfl
  | envelope =>
    have hl : Value.OrderedFields [("marker", .string "envelope")] := ⟨trivial, trivial⟩
    exact (ofDocument?_record hl rfl).trans rfl

end Marker

theorem Parameter.ofDocument?_form (p : Parameter) :
    Parameter.ofDocument? p.form.document = some p := by
  obtain ⟨name, kind, markers⟩ := p
  have hname : Document.orElse (name.map Document.string) none Document.optionalString? =
      some name := by
    cases name <;> rfl
  have hkind := kind.ofDocument?_form
  cases markers with
  | nil =>
    have hfields : (form ⟨name, kind, []⟩).document.record? ["name", "declared_type", "markers"] =
        some [name.map Document.string, some kind.form.document, none] := by
      cases name <;> exact Document.record?_document_record ..
    rw [ofDocument?, hfields]
    simp only [hname, hkind]
    rfl
  | cons marker markers =>
    have hmarkers : Document.orElse
        (some (.array (Value.documents ((marker :: markers).map Marker.form)))) []
          (fun d ↦ d.items?.bind (·.mapM Marker.ofDocument?)) = some (marker :: markers) :=
      Document.mapM_documents fun m _ ↦ m.ofDocument?_form
    have hfields : (form ⟨name, kind, marker :: markers⟩).document.record?
        ["name", "declared_type", "markers"] =
          some [name.map Document.string, some kind.form.document,
            some (.array (Value.documents ((marker :: markers).map Marker.form)))] := by
      cases name <;> exact Document.record?_document_record ..
    rw [ofDocument?, hfields]
    simp only [hname, hkind, hmarkers]
    rfl

theorem Signature.ofDocument?_form (s : Signature) :
    Signature.ofDocument? s.form.document = some s := by
  have hparameters : (Value.documents (s.parameters.map Parameter.form)).mapM
      Parameter.ofDocument? = some s.parameters :=
    Document.mapM_documents fun p _ ↦ p.ofDocument?_form
  have hfields : s.form.document.record? ["name", "parameters"] =
      some [some (.string s.name), some (.array (Value.documents
        (s.parameters.map Parameter.form)))] :=
    Document.record?_document_record ..
  rw [ofDocument?, hfields]
  simp only [Document.string?, Document.orElse, Document.items?, Option.bind_some, hparameters]
  rfl

/-! ## Messages -/

theorem Headers.ofDocument?_form {h : Headers} (hordered : h.form.Ordered) :
    Headers.ofDocument? h.form.document = some h := by
  rw [Dictionary.form, Value.ofDictionary, Value.document, ofDocument?,
    Value.fieldValues?_fieldDocuments hordered.2, Option.map_some, Dictionary.ofList_entries]

/-- Header sets that are read are ordered. -/
theorem Headers.ordered_of_ofDocument? {d : Document} {h : Headers}
    (hread : Headers.ofDocument? d = some h) : h.form.Ordered := by
  unfold ofDocument? at hread
  split at hread
  · obtain ⟨l, hl, rfl⟩ := Option.map_eq_some_iff.mp hread
    exact Value.ordered_record (Document.orderedFields_of_fieldValues? hl)
  · cases hread

namespace Message

theorem ofDocument?_form {m : Message} (hpayload : m.payload.Ordered)
    (hheaders : m.headers.form.Ordered) : ofDocument? m.form.document = some m := by
  have hfields : m.form.document.record? ["id", "timestamp", "payload", "headers"] =
      some [some (.string m.id.text), some (.string m.timestamp.text), some m.payload.document,
        some m.headers.form.document] :=
    Document.record?_document_record ..
  rw [ofDocument?, hfields]
  simp only [Document.string?, Document.orElse, Option.bind_some, Uuid.ofText?_text,
    Timestamp.ofText?_text, Value.value?_document hpayload, Headers.ofDocument?_form hheaders]
  rfl

/-- Messages that are read are ordered. -/
theorem ordered_of_ofDocument? {d : Document} {m : Message} (hread : ofDocument? d = some m) :
    m.payload.Ordered ∧ m.headers.form.Ordered := by
  unfold ofDocument? at hread
  split at hread
  · obtain ⟨id, -, hread⟩ := Option.bind_eq_some_iff.mp hread
    obtain ⟨time, -, hread⟩ := Option.bind_eq_some_iff.mp hread
    obtain ⟨payload, hpayload, hread⟩ := Option.bind_eq_some_iff.mp hread
    obtain ⟨headers, hheaders, hread⟩ := Option.bind_eq_some_iff.mp hread
    cases hread
    refine ⟨Document.ordered_of_value? hpayload, ?_⟩
    unfold Document.orElse at hheaders
    split at hheaders
    · cases hheaders
      exact ⟨.nil, trivial⟩
    · exact Headers.ordered_of_ofDocument? hheaders
  · cases hread

end Message

/-! ## All forms -/

/-- Reading undoes writing: every marker, parameter and signature is read back from its written
form, and so are every header set and every message whose objects are in order.  What is read of any
document is written in a form that is read as the same, so a signature and what is read of its
written form bind alike or fail alike. -/
theorem forms_read_back :
    ((∀ m : Marker, Marker.ofDocument? m.form.document = some m) ∧
      (∀ p : Parameter, Parameter.ofDocument? p.form.document = some p) ∧
      (∀ s : Signature, Signature.ofDocument? s.form.document = some s) ∧
      (∀ h : Headers, h.form.Ordered → Headers.ofDocument? h.form.document = some h) ∧
      (∀ m : Message, m.payload.Ordered → m.headers.form.Ordered →
        Message.ofDocument? m.form.document = some m)) ∧
    (Stable Marker.form Marker.ofDocument? ∧ Stable Parameter.form Parameter.ofDocument? ∧
      Stable Signature.form Signature.ofDocument? ∧ Stable Dictionary.form Headers.ofDocument? ∧
      Stable Message.form Message.ofDocument?) ∧
    ∀ d s, Signature.ofDocument? d = some s →
      (Signature.ofDocument? s.form.document).map Binder.ofSignature =
        some (Binder.ofSignature s) := by
  refine ⟨⟨Marker.ofDocument?_form, Parameter.ofDocument?_form, Signature.ofDocument?_form,
    fun _ ↦ Headers.ofDocument?_form, fun _ ↦ Message.ofDocument?_form⟩,
    ⟨stable_of_forall Marker.ofDocument?_form, stable_of_forall Parameter.ofDocument?_form,
      stable_of_forall Signature.ofDocument?_form,
      fun _ _ hread ↦ Headers.ofDocument?_form (Headers.ordered_of_ofDocument? hread), ?_⟩, ?_⟩
  · intro d m hread
    obtain ⟨hpayload, hheaders⟩ := Message.ordered_of_ofDocument? hread
    exact Message.ofDocument?_form hpayload hheaders
  · intro d s hread
    rw [Signature.ofDocument?_form, Option.map_some]

/-- A message with objects in its payload and in a header. -/
theorem forms_read_back_of_objects :
    let payload := Value.record [("total", .int 3), ("items", .array [.record [("no", .null)]])]
    let m : Message := ⟨Uuid.issued 7, Timestamp.epoch, payload,
      Dictionary.ofList [("source", .record [("shop", .string "north"), ("port", .int 1)])]⟩
    m.payload.Ordered ∧ m.headers.form.Ordered ∧
      Message.ofDocument? m.form.document = some m := by
  intro payload m
  have hpayload : m.payload.Ordered :=
    Value.ordered_record ⟨trivial, ⟨Value.ordered_record ⟨trivial, trivial⟩, trivial⟩, trivial⟩
  have hheaders : m.headers.form.Ordered :=
    Value.ordered_record ⟨Value.ordered_record ⟨trivial, trivial, trivial⟩, trivial⟩
  exact ⟨hpayload, hheaders, forms_read_back.1.2.2.2.2 m hpayload hheaders⟩

end Messaging
