import Mathlib.Tactic.Ring
import Messaging.Timestamp.Text
import Messaging.Proofs.Text.Numeral

/-!
# Instants are read as they are written

The text of an instant is a sequence of numbers with marks between them.  A number of a fixed width
is read back whatever stands behind it, and a number of any width is read back where no digit stands
behind it; so each part is read in its turn and leaves the rest of the text for the next one.
-/

namespace Messaging.Timestamp

/-! ## Numbers -/

theorem isDigit_eq (c : Char) : isDigit c = c.isDigit := by
  rw [isDigit, Char.isDigit, Bool.eq_iff_iff]
  simp [Char.le_def]

theorem natOf_eq (ds : List Char) : natOf ds = Nat.ofDigitChars 10 ds 0 := by
  simp only [natOf, Nat.ofDigitChars, Nat.mul_comm]
  rfl

theorem isDigit_of_mem_padded {width n : Nat} {c : Char} (h : c ∈ padded width n) :
    isDigit c = true := by
  rw [isDigit_eq]
  rcases List.mem_append.mp h with h | h
  · rw [List.eq_of_mem_replicate h]
    decide
  · exact Nat.isDigit_of_mem_toDigits (by decide) (by decide) h

theorem natOf_padded (width n : Nat) : natOf (padded width n) = n := by
  rw [natOf_eq, padded, Nat.ofDigitChars_append, Nat.ofDigitChars_replicate_zero,
    Nat.mul_zero]
  exact Nat.ofDigitChars_ten_toDigits

theorem padded_ne_nil (width n : Nat) : padded width n ≠ [] :=
  List.append_ne_nil_of_right_ne_nil _ Nat.toDigits_ne_nil

theorem length_padded {width n : Nat} (hpos : 0 < width) (h : n < 10 ^ width) :
    (padded width n).length = width := by
  have hle := (Nat.length_toDigits_le_iff (by decide) hpos).mpr h
  rw [padded, List.length_append, List.length_replicate]
  omega

theorem takeWhile_padded (width n : Nat) {rest : List Char}
    (hrest : ∀ c ∈ rest.head?, isDigit c = false) :
    (padded width n ++ rest).takeWhile isDigit = padded width n := by
  rw [List.takeWhile_append_of_pos fun c hc ↦ isDigit_of_mem_padded hc]
  cases rest with
  | nil => exact List.append_nil _
  | cons c rest =>
    rw [List.takeWhile_cons_of_neg (by simp [hrest c rfl]), List.append_nil]

/-- A number is read up to the width that is asked for. -/
theorem readNat_padded {width n : Nat} (hpos : 0 < width) (h : n < 10 ^ width)
    (rest : List Char) : readNat width (padded width n ++ rest) = some (n, rest) := by
  have hlen := length_padded hpos h
  have htake : ((padded width n ++ rest).take width).takeWhile isDigit = padded width n := by
    rw [List.take_append_of_le_length (Nat.le_of_eq hlen.symm), List.take_of_length_le
      (Nat.le_of_eq hlen)]
    have hnil : ∀ c ∈ ([] : List Char).head?, isDigit c = false := by simp
    simpa using takeWhile_padded width n hnil
  unfold readNat
  rw [htake]
  split
  · rename_i hnil
    exact (padded_ne_nil _ _ hnil).elim
  · rw [natOf_padded, List.drop_left]

/-- A number that ends where no digit follows is read in whole, if more is asked for. -/
theorem readNat_length_padded (width n : Nat) {rest : List Char}
    (hrest : ∀ c ∈ rest.head?, isDigit c = false) :
    readNat (padded width n ++ rest).length (padded width n ++ rest) = some (n, rest) := by
  unfold readNat
  rw [List.take_length, takeWhile_padded width n hrest]
  split
  · rename_i hnil
    exact (padded_ne_nil _ _ hnil).elim
  · rw [natOf_padded, List.drop_left]

/-! ## Parts -/

theorem skipBlank_cons {c : Char} (h : Text.isBlank c = false) (rest : List Char) :
    skipBlank (c :: rest) = c :: rest :=
  List.dropWhile_cons_of_neg (by simp [h])

theorem skipBlank_padded (width n : Nat) (rest : List Char) :
    skipBlank (padded width n ++ rest) = padded width n ++ rest := by
  obtain ⟨c, ds, hcons⟩ := List.exists_cons_of_ne_nil (padded_ne_nil width n)
  have hdigit : c.isDigit = true := by
    rw [← isDigit_eq]
    exact isDigit_of_mem_padded (hcons ▸ List.mem_cons_self)
  rw [hcons, List.cons_append, skipBlank_cons (Text.isBlank_of_isDigit hdigit)]

/-- A mark and the number behind it are read. -/
theorem readPart_padded {mark : Char} {n : Nat} (hmark : Text.isBlank mark = false) (h : n < 100)
    (rest : List Char) : readPart mark (mark :: padded 2 n ++ rest) = some (n, rest) := by
  rw [readPart, List.cons_append, skipBlank_cons hmark]
  simp only [if_pos]
  rw [skipBlank_padded, readNat_padded (by decide) h]

theorem skipBlank_yearChars (year : Int) (rest : List Char) :
    skipBlank (yearChars year ++ rest) = yearChars year ++ rest := by
  unfold yearChars
  split
  · exact skipBlank_padded ..
  · split
    · exact skipBlank_cons (by decide) _
    · exact skipBlank_cons (by decide) _

theorem readYear_yearChars (year : Int) {rest : List Char}
    (hrest : ∀ c ∈ rest.head?, isDigit c = false) :
    readYear (yearChars year ++ rest) = some (year, rest) := by
  unfold yearChars
  split
  · rename_i hyear
    have hlt : year.toNat < 10 ^ 4 := by omega
    obtain ⟨c, ds, hcons⟩ := List.exists_cons_of_ne_nil (padded_ne_nil 4 year.toNat)
    have hdigit : isDigit c = true := isDigit_of_mem_padded (hcons ▸ List.mem_cons_self)
    have hread := readNat_padded (by decide) hlt rest
    rw [hcons, List.cons_append] at hread ⊢
    unfold readYear
    split
    · rename_i heq
      cases heq
      cases hdigit
    · rename_i heq
      cases heq
      cases hdigit
    · rw [hread, Option.map_some]
      simp only [Option.some.injEq, Prod.mk.injEq, and_true]
      omega
  · rename_i hyear
    by_cases hneg : year < 0
    · rw [if_pos hneg, List.cons_append, readYear, readNat_length_padded _ _ hrest, Option.map_some]
      simp only [Option.some.injEq, Prod.mk.injEq, and_true]
      omega
    · rw [if_neg hneg, List.cons_append, readYear, readNat_length_padded _ _ hrest, Option.map_some]
      simp only [Option.some.injEq, Prod.mk.injEq, and_true]
      omega

theorem readFraction_padded {width n : Nat} (hpos : 0 < width) (hle : width ≤ 9)
    (h : n < 10 ^ width) {rest : List Char} (hrest : ∀ c ∈ rest.head?, isDigit c = false) :
    readFraction ('.' :: padded width n ++ rest) = some (n * Nat.pow 10 (9 - width), rest) := by
  have hlen := length_padded hpos h
  have htake : (padded width n).take 9 = padded width n :=
    List.take_of_length_le (by rw [hlen]; exact hle)
  have hdrop : (padded width n ++ rest).drop width = rest := List.drop_left' hlen
  rw [List.cons_append, readFraction, takeWhile_padded width n hrest]
  split
  · rename_i hnil
    exact (padded_ne_nil _ _ hnil).elim
  · simp only [htake, natOf_padded, hlen, hdrop]

theorem readFraction_fractionChars {nano : Nat} (h : nano < 1000000000) {rest : List Char}
    (hrest : ∀ c ∈ rest.head?, isDigit c = false) (hpoint : rest.head? ≠ some '.') :
    readFraction (fractionChars nano ++ rest) = some (nano, rest) := by
  unfold fractionChars
  split
  · rename_i hzero
    rw [List.nil_append, hzero]
    unfold readFraction
    split
    · exact (hpoint rfl).elim
    · rfl
  · split
    · rename_i hmillis
      have hback : nano / 1000000 * Nat.pow 10 6 = nano :=
        Nat.div_mul_cancel (Nat.dvd_of_mod_eq_zero hmillis)
      rw [readFraction_padded (by decide) (by decide) (by omega) hrest, hback]
    · split
      · rename_i hmicros
        have hback : nano / 1000 * Nat.pow 10 3 = nano :=
          Nat.div_mul_cancel (Nat.dvd_of_mod_eq_zero hmicros)
        rw [readFraction_padded (by decide) (by decide) (by omega) hrest, hback]
      · have hback : nano * Nat.pow 10 0 = nano := Nat.mul_one nano
        rw [readFraction_padded (by decide) (by decide) h hrest, hback]

/-! ## The whole text -/

/-- A local time is universal time where the offset is nothing. -/
theorem ofLocal?_zero (t : Timestamp) :
    ofLocal? t.date t.hour t.minute t.second t.nano 0 = some t := by
  obtain ⟨-, hhour, hminute, -⟩ := t.inRange
  have hparts : ofParts? t.date t.hour t.minute t.second t.nano = some t := dif_pos t.inRange
  have hofDay : (((t.hour : Int) * 60 + t.minute - 0) % 1440).toNat = t.hour * 60 + t.minute := by
    omega
  have hhours : (t.hour * 60 + t.minute) / 60 = t.hour := by omega
  have hminutes : (t.hour * 60 + t.minute) % 60 = t.minute := by omega
  simp only [ofLocal?, hparts, hofDay, hhours, hminutes, Option.bind_eq_bind, Option.bind_some]
  rw [if_neg (by omega), if_neg (by omega), hparts]

theorem day_lt (t : Timestamp) : t.date.day < 100 := by
  obtain ⟨⟨-, -, -, -, -, hday⟩, -⟩ := t.inRange
  have hdays : Date.daysIn t.date.year t.date.month ≤ 31 := by
    unfold Date.daysIn
    split <;> split <;> decide
  omega

/-- The text of an instant is read as the instant. -/
theorem ofText?_text (t : Timestamp) : ofText? t.text = some t := by
  obtain ⟨⟨-, -, -, hmonth, -⟩, hhour, hminute, hsecond, hnano⟩ := t.inRange
  have hchars : t.chars = yearChars t.date.year ++ ('-' :: padded 2 t.date.month ++
      ('-' :: padded 2 t.date.day ++ 'T' :: (padded 2 t.hour ++ (':' :: padded 2 t.minute ++
        (':' :: padded 2 t.second ++ (fractionChars t.nano ++ ['Z'])))))) := by
    simp only [chars, List.append_assoc, List.cons_append]
  have hoffset : readOffset (skipBlank ['Z']) = some (0, []) := by decide
  rw [ofText?, text, String.toList_ofList, hchars, ofChars?, skipBlank_yearChars,
    readYear_yearChars _ (by simp; decide)]
  simp only [Option.bind_eq_bind, Option.bind_some]
  rw [readPart_padded (by decide) (by omega), Option.bind_some,
    readPart_padded (by decide) t.day_lt, Option.bind_some, readMark, if_pos (Or.inl rfl),
    Option.bind_some, skipBlank_padded,
    readNat_padded (by decide) (by omega), Option.bind_some, readPart_padded (by decide) (by omega),
    Option.bind_some, readPart_padded (by decide) (by omega), Option.bind_some,
    readFraction_fractionChars hnano (by simp; decide) (by simp), Option.bind_some, hoffset,
    Option.bind_some]
  exact ofLocal?_zero t

end Messaging.Timestamp
