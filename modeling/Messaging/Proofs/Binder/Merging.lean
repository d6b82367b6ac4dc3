import Messaging.Proofs.Binder.Gathering

/-!
# The headers of an outgoing message

Where arguments make a message, each of its headers comes from one of three places.  A message
argument comes first, with the headers that it has itself.  Then come the other arguments: of those
that give the header the last one counts.  What no argument gives is taken from the headers supplied
besides.  A header that is null counts like any other here.
-/

namespace Messaging

/-- The message that counts, where arguments are messages, is one of them. -/
theorem Argument.message_mem_of_getLast? {args : List Argument} {m : Message}
    (h : (args.filterMap message?).getLast? = some m) : .message m ∈ args := by
  obtain ⟨a, ha, ham⟩ := List.mem_filterMap.mp (List.mem_of_getLast? h)
  cases a with
  | message m' =>
    cases ham
    exact ha
  | _ => cases ham

namespace Slot

variable {slots : List Slot} {args : List Argument} {slot : Slot} {a : Argument} {k : String}

/-! ## The headers that arguments give -/

/-- The value that the arguments of slots give to a header: the last one counts. -/
def given? (slots : List Slot) (args : List Argument) (k : String) : Option Value :=
  Dictionary.find? k (allGiven slots args).reverse

theorem mem_allGiven_iff {e : String × Value} :
    e ∈ allGiven slots args ↔ ∃ slot a, (slot, a) ∈ slots.zip args ∧ e ∈ slot.given a := by
  induction slots generalizing args with
  | nil => simp [allGiven]
  | cons slot slots ih =>
    cases args with
    | nil => simp [allGiven]
    | cons a args =>
      rw [allGiven, List.mem_append, ih, List.zip_cons_cons]
      constructor
      · rintro (h | ⟨slot', a', hmem, h⟩)
        · exact ⟨slot, a, List.mem_cons_self, h⟩
        · exact ⟨slot', a', List.mem_cons_of_mem _ hmem, h⟩
      · rintro ⟨slot', a', hmem, h⟩
        rcases List.mem_cons.mp hmem with heq | hmem
        · cases heq
          exact .inl h
        · exact .inr ⟨slot', a', hmem, h⟩

theorem mem_allGiven_of_given? {v : Value} (h : given? slots args k = some v) :
    (k, v) ∈ allGiven slots args :=
  List.mem_reverse.mp (Dictionary.mem_of_find? h)

theorem exists_given?_of_mem {v : Value} (h : (k, v) ∈ allGiven slots args) :
    ∃ w, given? slots args k = some w :=
  Dictionary.exists_find?_of_mem (List.mem_reverse.mpr h)

/-- A header that is given as null is null among all headers of some argument. -/
theorem null_of_mem_given (h : (k, Value.null) ∈ slot.given a) :
    ∃ headers, a = .headers headers ∧ headers.get? k = some .null := by
  unfold given at h
  split at h
  · split at h
    · rename_i value hf
      -- A header on its own is only given if it is not null.
      obtain ⟨-, hnull⟩ := Option.filter_eq_some_iff.mp hf
      rw [List.mem_singleton] at h
      cases h
      cases hnull
    · cases h
  · exact ⟨_, rfl, Dictionary.get?_eq_some_iff.mpr h⟩
  · have htext := Dictionary.get?_eq_some_iff.mpr h
    rw [Dictionary.get?_asHeaders] at htext
    obtain ⟨_, -, htext⟩ := Option.map_eq_some_iff.mp htext
    cases htext
  · cases h

theorem null_of_given? (h : given? slots args k = some .null) :
    ∃ headers, .headers headers ∈ args ∧ headers.get? k = some .null := by
  obtain ⟨slot, a, hmem, hgiven⟩ := mem_allGiven_iff.mp (mem_allGiven_of_given? h)
  obtain ⟨headers, rfl, hnull⟩ := null_of_mem_given hgiven
  exact ⟨headers, (List.of_mem_zip hmem).2, hnull⟩

/-- Arguments that their slots accept give a value to every header that is required. -/
theorem exists_given?_of_required (h : List.Forall₂ Accepts slots args)
    (hslot : header k true ∈ slots) : ∃ v, given? slots args k = some v := by
  obtain ⟨hlen, haccepts⟩ := List.forall₂_iff_zip.mp h
  rw [← List.map_fst_zip (Nat.le_of_eq hlen)] at hslot
  obtain ⟨⟨slot, a⟩, hmem, rfl⟩ := List.mem_map.mp hslot
  have ha : Accepts (header k true) a := haccepts hmem
  cases ha with
  | present hnull =>
    rename_i value
    have hgiven : (k, value) ∈ (header k true).given (.header (some value)) := by
      simp [given, Option.filter_some_pos, hnull]
    exact exists_given?_of_mem (mem_allGiven_iff.mpr ⟨_, _, hmem, hgiven⟩)

/-- A message argument is accepted by a slot for the message only. -/
theorem envelope_mem_of_accepts (h : List.Forall₂ Accepts slots args) {m : Message}
    (hm : .message m ∈ args) : envelope ∈ slots := by
  obtain ⟨hlen, haccepts⟩ := List.forall₂_iff_zip.mp h
  rw [← List.map_snd_zip (Nat.le_of_eq hlen.symm)] at hm
  obtain ⟨⟨slot, a⟩, hmem, rfl⟩ := List.mem_map.mp hm
  have ha : slot.Accepts (.message m) := haccepts hmem
  cases ha
  exact (List.of_mem_zip hmem).1

end Slot

/-! ## Where headers come from -/

/-- Of the headers that arguments give, the last value of each is gathered. -/
theorem Gathered.get?_headers_addAll (slots : List Slot) (args : List Argument) (k : String) :
    (Gathered.none.addAll slots args).headers.get? k = Slot.given? slots args k := by
  show (Dictionary.empty.insertAll _).get? k = _
  rw [Dictionary.get?_insertAll_eq_find?_reverse, Dictionary.get?_empty, Option.or_none]
  rfl

/-- A message argument has its own headers, then come the ones that were gathered, and then those
that are supplied. -/
theorem Gathered.header?_of_finish {g : Gathered} {supplied : Headers} {stamp : Stamp} {r : Message}
    (h : g.finish supplied stamp = .ok r) (k : String) :
    r.header? k =
      (g.envelope.bind (·.header? k)).or ((g.headers.get? k).or (supplied.get? k)) := by
  rw [← Gathered.get?_merged]
  cases Gathered.finish_eq_ok_iff.mp h with
  | same henvelope hempty =>
    rw [henvelope, Option.bind_some, Dictionary.isEmpty_iff.mp hempty k, Option.or_none]
  | added henvelope =>
    rw [henvelope, Option.bind_some]
    exact Dictionary.get?_insertAllIfAbsent _ _ _
  | fresh henvelope =>
    rw [henvelope, Option.bind_none, Option.none_or]
    show (Dictionary.empty.insertAll (g.merged supplied).entries).get? k = _
    rw [Dictionary.get?_insertAll, Dictionary.get?_empty, Option.or_none]

namespace Binder

/-- The value that arguments give to a header: that of the message argument, if it has the header,
and otherwise the last that one of the others gives. -/
def argued? (b : Binder) (args : List Argument) (k : String) : Option Value :=
  ((args.filterMap Argument.message?).getLast?.bind (·.header? k)).or (Slot.given? b.slots args k)

theorem header?_of_message {b : Binder} {args : List Argument} {supplied : Headers} {stamp : Stamp}
    {r : Message} (h : b.message args supplied stamp = .ok r) (k : String) :
    r.header? k = (b.argued? args k).or (supplied.get? k) := by
  obtain ⟨-, hfinish⟩ := message_eq_ok_iff.mp h
  have henvelope : (Gathered.none.addAll b.slots args).envelope =
      (args.filterMap Argument.message?).getLast? := Option.or_none
  rw [Gathered.header?_of_finish hfinish k, Gathered.get?_headers_addAll, henvelope, argued?,
    Option.or_assoc]

end Binder

end Messaging
