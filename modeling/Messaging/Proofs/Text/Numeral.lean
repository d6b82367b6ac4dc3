import Messaging.Proofs.Text.Trimming
import Messaging.Text.Numeral

/-!
# Numerals and the numbers up to the largest

A numeral is one or more digits, perhaps after a plus sign, and stands for the number that they
write.  It is read from left to right with the number that has been read so far, so two things can
go wrong on the way: a character is no digit, or the number grows too large.  Which of them happens
first can be said about the whole text: the number has grown too large somewhere if and only if
digits at the beginning write a number above the largest.

Each number up to the largest is the one of its decimal text, which has no white space to lose.
Truth values are simpler, since each of them has one word.
-/

namespace Messaging.Text

variable {cs digits : List Char} {n sofar : Nat}

/-! ## Digits -/

/-- Nothing but decimal digits. -/
def Digits (cs : List Char) : Prop := ∀ c ∈ cs, c.isDigit = true

instance (cs : List Char) : Decidable (Digits cs) :=
  decidable_of_iff (cs.all Char.isDigit = true) List.all_eq_true

/-- The number that digits write. -/
def value (digits : List Char) : Nat := Nat.ofDigitChars 10 digits 0

theorem digits_cons_iff {c : Char} : Digits (c :: cs) ↔ c.isDigit = true ∧ Digits cs :=
  List.forall_mem_cons

theorem digits_nil : Digits [] := List.forall_mem_nil _

theorem digits_toDigits (n : Nat) : Digits (Nat.toDigits 10 n) := fun _ hc ↦
  Nat.isDigit_of_mem_toDigits (by decide) (by decide) hc

theorem value_toDigits (n : Nat) : value (Nat.toDigits 10 n) = n := Nat.ofDigitChars_ten_toDigits

theorem digit?_of_isDigit {c : Char} (h : c.isDigit = true) :
    digit? c = some (c.toNat - '0'.toNat) := by
  have hrange : '0' ≤ c ∧ c ≤ '9' := by simpa [Char.isDigit, Char.le_def] using h
  rw [digit?, if_pos hrange]

theorem digit?_of_not_isDigit {c : Char} (h : ¬c.isDigit = true) : digit? c = none := by
  have hrange : ¬('0' ≤ c ∧ c ≤ '9') := by simpa [Char.isDigit, Char.le_def] using h
  rw [digit?, if_neg hrange]

/-- Further digits never make a number smaller. -/
theorem le_ofDigitChars (cs : List Char) (sofar : Nat) : sofar ≤ Nat.ofDigitChars 10 cs sofar := by
  induction cs generalizing sofar with
  | nil => exact Nat.le_refl _
  | cons c cs ih =>
    rw [Nat.ofDigitChars_cons]
    exact Nat.le_trans (by omega) (ih _)

/-! ## Reading digits -/

theorem readDigits_cons {c : Char} (h : c.isDigit = true) :
    readDigits sofar (c :: cs) =
      if largest < 10 * sofar + (c.toNat - '0'.toNat) then .error .tooLarge
      else readDigits (10 * sofar + (c.toNat - '0'.toNat)) cs := by
  rw [readDigits, digit?_of_isDigit h, Nat.mul_comm]

theorem readDigits_cons_of_not_isDigit {c : Char} (h : ¬c.isDigit = true) :
    readDigits sofar (c :: cs) = .error .invalidDigit := by
  rw [readDigits, digit?_of_not_isDigit h]

/-- Digits are read as the number that they write, if that is not too large; nothing else is read as
a number. -/
theorem readDigits_eq_ok_iff (hsofar : sofar ≤ largest) :
    readDigits sofar cs = .ok n ↔
      Digits cs ∧ Nat.ofDigitChars 10 cs sofar = n ∧ n ≤ largest := by
  induction cs generalizing sofar with
  | nil =>
    constructor
    · rintro ⟨⟩
      exact ⟨digits_nil, rfl, hsofar⟩
    · rintro ⟨-, rfl, -⟩
      rfl
  | cons c cs ih =>
    rw [digits_cons_iff]
    by_cases hc : c.isDigit = true
    · rw [readDigits_cons hc, Nat.ofDigitChars_cons]
      by_cases hlarge : largest < 10 * sofar + (c.toNat - '0'.toNat)
      · rw [if_pos hlarge]
        constructor
        · rintro ⟨⟩
        · rintro ⟨-, rfl, hle⟩
          have := le_ofDigitChars cs (10 * sofar + (c.toNat - '0'.toNat))
          omega
      · rw [if_neg hlarge, ih (Nat.not_lt.mp hlarge), and_iff_right hc]
    · rw [readDigits_cons_of_not_isDigit hc]
      constructor
      · rintro ⟨⟩
      · rintro ⟨⟨hc', -⟩, -⟩
        exact (hc hc').elim

/-- The number has grown too large if and only if it has done so after some of the digits at the
beginning, whatever comes after them. -/
theorem readDigits_eq_tooLarge_iff (hsofar : sofar ≤ largest) :
    readDigits sofar cs = .error .tooLarge ↔
      ∃ digits, digits <+: cs ∧ Digits digits ∧ largest < Nat.ofDigitChars 10 digits sofar := by
  induction cs generalizing sofar with
  | nil =>
    constructor
    · rintro ⟨⟩
    · rintro ⟨digits, hstart, -, hlarge⟩
      rw [List.prefix_nil.mp hstart, Nat.ofDigitChars_nil] at hlarge
      omega
  | cons c cs ih =>
    -- No digits at all leave the number as it is, so the first character is one of them.
    have hfirst : (∃ digits, digits <+: c :: cs ∧ Digits digits ∧
          largest < Nat.ofDigitChars 10 digits sofar) ↔
        c.isDigit = true ∧ ∃ digits, digits <+: cs ∧ Digits digits ∧
          largest < Nat.ofDigitChars 10 digits (10 * sofar + (c.toNat - '0'.toNat)) := by
      constructor
      · rintro ⟨digits, hstart, hdigits, hlarge⟩
        rcases List.prefix_cons_iff.mp hstart with rfl | ⟨rest, rfl, hrest⟩
        · rw [Nat.ofDigitChars_nil] at hlarge
          omega
        · obtain ⟨hc, hdigits⟩ := digits_cons_iff.mp hdigits
          rw [Nat.ofDigitChars_cons] at hlarge
          exact ⟨hc, rest, hrest, hdigits, hlarge⟩
      · rintro ⟨hc, digits, hstart, hdigits, hlarge⟩
        refine ⟨c :: digits, List.cons_prefix_cons.mpr ⟨rfl, hstart⟩,
          digits_cons_iff.mpr ⟨hc, hdigits⟩, ?_⟩
        rwa [Nat.ofDigitChars_cons]
    rw [hfirst]
    by_cases hc : c.isDigit = true
    · rw [readDigits_cons hc, and_iff_right hc]
      by_cases hlarge : largest < 10 * sofar + (c.toNat - '0'.toNat)
      · rw [if_pos hlarge]
        exact iff_of_true rfl ⟨[], List.nil_prefix, digits_nil, hlarge⟩
      · rw [if_neg hlarge, ih (Nat.not_lt.mp hlarge)]
    · rw [readDigits_cons_of_not_isDigit hc]
      constructor
      · rintro ⟨⟩
      · rintro ⟨hc', -⟩
        exact (hc hc').elim

theorem readDigits_ne_empty (sofar : Nat) (cs : List Char) :
    readDigits sofar cs ≠ .error .empty := by
  induction cs generalizing sofar with
  | nil => rintro ⟨⟩
  | cons c cs ih =>
    by_cases hc : c.isDigit = true
    · rw [readDigits_cons hc]
      split
      · rintro ⟨⟩
      · exact ih _
    · rw [readDigits_cons_of_not_isDigit hc]
      rintro ⟨⟩

/-! ## Reading numerals -/

/-- The characters after the plus sign, if there is one at the beginning. -/
def unsigned : List Char → List Char
  | '+' :: rest => rest
  | cs => cs

/-- The text consists of one or more digits, perhaps after a plus sign, and this is the number that
they write. -/
structure Writes (cs : List Char) (n : Nat) : Prop where
  ne_nil : unsigned cs ≠ []
  digits : Digits (unsigned cs)
  value_eq : value (unsigned cs) = n

/-- The text begins, perhaps after a plus sign, with digits that write a number above the largest
one of 64 bits. -/
def Exceeds (cs : List Char) : Prop :=
  ∃ digits, digits <+: unsigned cs ∧ Digits digits ∧ UInt64.size ≤ value digits

theorem le_largest_iff : n ≤ largest ↔ n < UInt64.size := by
  show n ≤ 18446744073709551615 ↔ n < 18446744073709551616
  omega

theorem largest_lt_iff : largest < n ↔ UInt64.size ≤ n := by
  rw [← Nat.not_le, le_largest_iff, Nat.not_lt]

theorem unsigned_of_digits (h : Digits cs) : unsigned cs = cs := by
  unfold unsigned
  split
  · cases h '+' List.mem_cons_self
  · rfl

theorem readNumeralChars_eq (cs : List Char) :
    readNumeralChars cs =
      if cs = [] then .error .empty
      else if unsigned cs = [] then .error .invalidDigit
      else readDigits 0 (unsigned cs) := by
  unfold readNumeralChars unsigned
  split <;> simp_all

theorem readNumeralChars_of_unsigned_ne_nil (h : unsigned cs ≠ []) :
    readNumeralChars cs = readDigits 0 (unsigned cs) := by
  have hcs : cs ≠ [] := by
    rintro rfl
    exact h rfl
  rw [readNumeralChars_eq, if_neg hcs, if_neg h]

/-- Without any character that could be a digit there is no number, and none that is too large. -/
theorem readNumeralChars_of_unsigned_eq_nil (h : unsigned cs = []) :
    readNumeralChars cs = .error .empty ∨ readNumeralChars cs = .error .invalidDigit := by
  rw [readNumeralChars_eq, if_pos h]
  split
  · exact .inl rfl
  · exact .inr rfl

theorem readNumeralChars_eq_ok_iff :
    readNumeralChars cs = .ok n ↔ Writes cs n ∧ n < UInt64.size := by
  by_cases hnil : unsigned cs = []
  · constructor
    · intro h
      rcases readNumeralChars_of_unsigned_eq_nil hnil with h' | h' <;> cases h'.symm.trans h
    · rintro ⟨⟨hne, -, -⟩, -⟩
      exact (hne hnil).elim
  · rw [readNumeralChars_of_unsigned_ne_nil hnil, readDigits_eq_ok_iff (Nat.zero_le _),
      le_largest_iff]
    constructor
    · rintro ⟨hdigits, hvalue, hsize⟩
      exact ⟨⟨hnil, hdigits, hvalue⟩, hsize⟩
    · rintro ⟨⟨-, hdigits, hvalue⟩, hsize⟩
      exact ⟨hdigits, hvalue, hsize⟩

theorem readNumeralChars_eq_empty_iff : readNumeralChars cs = .error .empty ↔ cs = [] := by
  constructor
  · intro h
    rw [readNumeralChars_eq] at h
    split at h
    · assumption
    · split at h
      · cases h
      · exact (readDigits_ne_empty _ _ h).elim
  · rintro rfl
    rfl

theorem readNumeralChars_eq_tooLarge_iff :
    readNumeralChars cs = .error .tooLarge ↔ Exceeds cs := by
  have hexceeds : Exceeds cs ↔
      ∃ digits, digits <+: unsigned cs ∧ Digits digits ∧ largest < value digits := by
    simp only [Exceeds, largest_lt_iff]
  rw [hexceeds]
  by_cases hnil : unsigned cs = []
  · constructor
    · intro h
      rcases readNumeralChars_of_unsigned_eq_nil hnil with h' | h' <;> cases h'.symm.trans h
    · rintro ⟨digits, hstart, -, hlarge⟩
      rw [hnil, List.prefix_nil] at hstart
      subst hstart
      cases hlarge
  · rw [readNumeralChars_of_unsigned_ne_nil hnil]
    exact readDigits_eq_tooLarge_iff (Nat.zero_le _)

theorem Writes.exceeds (h : Writes cs n) (hsize : UInt64.size ≤ n) : Exceeds cs :=
  ⟨unsigned cs, List.prefix_rfl, h.digits, h.value_eq.symm ▸ hsize⟩

/-- What is neither empty nor a numeral nor too large has a character in the wrong place. -/
theorem readNumeralChars_eq_invalidDigit_iff :
    readNumeralChars cs = .error .invalidDigit ↔
      cs ≠ [] ∧ ¬Exceeds cs ∧ ∀ n, ¬Writes cs n := by
  rw [Ne, ← readNumeralChars_eq_empty_iff, ← readNumeralChars_eq_tooLarge_iff]
  constructor
  · intro h
    rw [h]
    refine ⟨by simp, by simp, fun n hwrites ↦ ?_⟩
    rcases Nat.lt_or_ge n UInt64.size with hlt | hge
    · rw [readNumeralChars_eq_ok_iff.mpr ⟨hwrites, hlt⟩] at h
      cases h
    · rw [readNumeralChars_eq_tooLarge_iff.mpr (hwrites.exceeds hge)] at h
      cases h
  · rintro ⟨hempty, hlarge, hwrites⟩
    cases hread : readNumeralChars cs with
    | ok n => exact (hwrites n (readNumeralChars_eq_ok_iff.mp hread).1).elim
    | error reason =>
      cases reason with
      | empty => exact (hempty hread).elim
      | tooLarge => exact (hlarge hread).elim
      | invalidDigit => rfl

/-! ## Numbers in decimal -/

theorem le_largest_of_readNumeral {s : String} (h : readNumeral s = .ok n) : n ≤ largest :=
  le_largest_iff.mpr (readNumeralChars_eq_ok_iff.mp h).2

theorem readNumeral_trim_eq_ok_iff {raw : String} :
    readNumeral (trim raw) = .ok n ↔ Writes (trimmed raw.toList) n ∧ n < UInt64.size := by
  rw [readNumeral, trim, String.toList_ofList, readNumeralChars_eq_ok_iff]

theorem writes_toDigits (n : Nat) : Writes (Nat.toDigits 10 n) n := by
  have hunsigned := unsigned_of_digits (digits_toDigits n)
  constructor
  · rw [hunsigned]
    exact Nat.toDigits_ne_nil
  · rw [hunsigned]
    exact digits_toDigits n
  · rw [hunsigned, value_toDigits]

/-- A number in decimal is a numeral of that number. -/
theorem readNumeral_repr (h : n ≤ largest) : readNumeral n.repr = .ok n := by
  rw [readNumeral, Nat.toList_repr]
  exact readNumeralChars_eq_ok_iff.mpr ⟨writes_toDigits n, le_largest_iff.mp h⟩

theorem isBlank_of_isDigit {c : Char} (h : c.isDigit = true) : isBlank c = false := by
  obtain ⟨hlow, hhigh⟩ := Char.isDigit_iff_toNat.mp h
  have hlow : 48 ≤ c.toNat := hlow
  have hhigh : c.toNat ≤ 57 := hhigh
  simp [isBlank, blankRanges]
  omega

theorem bare_of_digits (h : Digits cs) : Bare cs where
  first := fun hne ↦ isBlank_of_isDigit (h _ (List.head_mem hne))
  last := fun hne ↦ isBlank_of_isDigit (h _ (List.getLast_mem hne))

/-- A number in decimal is the core of its text with any white space around it. -/
theorem hasCore_repr {before after : String} (hbefore : Blank before.toList)
    (hafter : Blank after.toList) (n : Nat) :
    HasCore (before ++ n.repr ++ after).toList n.repr.toList where
  surrounded := by
    refine ⟨before.toList, after.toList, ?_, hbefore, hafter⟩
    rw [String.toList_append, String.toList_append]
  bare := by
    rw [Nat.toList_repr]
    exact bare_of_digits (digits_toDigits n)

theorem trim_repr (n : Nat) : trim n.repr = n.repr := by
  rw [← hasCore_toList_iff, Nat.toList_repr]
  exact (bare_of_digits (digits_toDigits n)).hasCore

/-! ## Truth values -/

/-- The word for a truth value. -/
def word : Bool → String
  | true => "true"
  | false => "false"

theorem readFlag_eq_some_iff {s : String} {b : Bool} : readFlag s = some b ↔ s = word b := by
  constructor
  · intro h
    unfold readFlag at h
    split at h
    · cases h
      assumption
    · split at h
      · cases h
        assumption
      · cases h
  · rintro rfl
    cases b <;> rfl

/-- With white space around it, exactly the word for a truth value is read as that value. -/
theorem readFlag_trim_eq_some_iff {raw : String} {b : Bool} :
    readFlag (trim raw) = some b ↔ trimmed raw.toList = (word b).toList := by
  rw [readFlag_eq_some_iff, ← hasCore_toList_iff, hasCore_iff, eq_comm]

end Messaging.Text
