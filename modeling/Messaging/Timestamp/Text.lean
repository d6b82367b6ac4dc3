import Messaging.Timestamp
import Messaging.Text.Blank

/-!
# The text of a timestamp

A timestamp is written as `2024-01-02T03:04:05.250Z`: with no fraction of a second or with three,
six or nine digits, as many as are needed.  Years before 0 and after 9999 are written with a sign.

What is read is wider.  White space may stand between the parts, the `T` may be small or a space,
numbers may lack leading zeros, a fraction may have any number of digits, of which nine count, and
the offset may be `Z`, the letters `UTC` or hours and minutes with a sign.
-/

namespace Messaging

namespace Timestamp

/-! ### Writing -/

/-- A number in at least `width` decimal digits. -/
def padded (width n : Nat) : List Char :=
  let ds := Nat.toDigits 10 n
  List.replicate (width - ds.length) '0' ++ ds

/-- A year, with a sign unless it has at most four digits. -/
def yearChars (year : Int) : List Char :=
  if 0 ≤ year ∧ year ≤ 9999 then padded 4 year.toNat
  else (if year < 0 then '-' else '+') :: padded 4 year.natAbs

/-- A fraction of a second in thousandths, millionths or thousand-millionths. -/
def fractionChars (nano : Nat) : List Char :=
  if nano = 0 then []
  else if nano % 1000000 = 0 then '.' :: padded 3 (nano / 1000000)
  else if nano % 1000 = 0 then '.' :: padded 6 (nano / 1000)
  else '.' :: padded 9 nano

/-- The characters of a timestamp. -/
def chars (t : Timestamp) : List Char :=
  yearChars t.date.year ++ '-' :: padded 2 t.date.month ++ '-' :: padded 2 t.date.day ++
    'T' :: padded 2 t.hour ++ ':' :: padded 2 t.minute ++ ':' :: padded 2 t.second ++
    fractionChars t.nano ++ ['Z']

/-- The text of a timestamp. -/
def text (t : Timestamp) : String := String.ofList t.chars

/-! ### Reading -/

/-- A decimal digit. -/
def isDigit (c : Char) : Bool := '0' ≤ c && c ≤ '9'

/-- The number of a list of decimal digits. -/
def natOf (ds : List Char) : Nat := ds.foldl (fun n c ↦ n * 10 + (c.toNat - 48)) 0

/-- The input behind white space. -/
def skipBlank (cs : List Char) : List Char := cs.dropWhile Text.isBlank

/-- Reads a number of at most `most` digits. -/
def readNat (most : Nat) (cs : List Char) : Option (Nat × List Char) :=
  match (cs.take most).takeWhile isDigit with
  | [] => none
  | ds => some (natOf ds, cs.drop ds.length)

/-- Reads a year: of any length behind a sign, and of at most four digits without one. -/
def readYear (cs : List Char) : Option (Int × List Char) :=
  match cs with
  | '-' :: rest => (readNat rest.length rest).map fun (n, rest) ↦ (-(n : Int), rest)
  | '+' :: rest => (readNat rest.length rest).map fun (n, rest) ↦ ((n : Int), rest)
  | _ => (readNat 4 cs).map fun (n, rest) ↦ ((n : Int), rest)

/-- Reads a character, with white space before and after it, and a number of two digits. -/
def readPart (mark : Char) (cs : List Char) : Option (Nat × List Char) :=
  match skipBlank cs with
  | c :: rest => if c = mark then readNat 2 (skipBlank rest) else none
  | [] => none

/-- Reads a fraction of a second, if there is one. -/
def readFraction (cs : List Char) : Option (Nat × List Char) :=
  match cs with
  | '.' :: rest =>
    match rest.takeWhile isDigit with
    | [] => none
    | ds =>
      let used := ds.take 9
      some (natOf used * Nat.pow 10 (9 - used.length), rest.drop ds.length)
  | _ => some (0, cs)

/-- The number of two digits. -/
def twoDigits? (a b : Char) : Option Nat :=
  if isDigit a ∧ isDigit b then some ((a.toNat - 48) * 10 + (b.toNat - 48)) else none

/-- The direction of an offset. -/
def sign? (c : Char) : Option Int :=
  if c = '+' then some 1 else if c = '-' ∨ c = '−' then some (-1) else none

/-- Reads an offset in minutes, which is less than a day. -/
def readOffset (cs : List Char) : Option (Int × List Char) :=
  if (cs.take 3).map Char.toUpper = ['U', 'T', 'C'] then some (0, cs.drop 3)
  else
    match cs with
    | 'Z' :: rest => some (0, rest)
    | 'z' :: rest => some (0, rest)
    | c :: a :: b :: rest => do
      let sign ← sign? c
      let hours ← twoDigits? a b
      match rest.dropWhile fun c ↦ c = ':' || Text.isBlank c with
      | m :: n :: rest =>
        let minutes ← twoDigits? m n
        if minutes < 60 ∧ hours < 24 then some (sign * (hours * 60 + minutes : Nat), rest) else none
      | _ => none
    | _ => none

/-- Reads the mark between date and time. -/
def readMark (cs : List Char) : Option (List Char) :=
  match cs with
  | c :: rest => if c = 'T' ∨ c = 't' ∨ c = ' ' then some rest else none
  | [] => none

/-- The timestamp of a list of characters. -/
def ofChars? (cs : List Char) : Option Timestamp := do
  let (year, cs) ← readYear (skipBlank cs)
  let (month, cs) ← readPart '-' cs
  let (day, cs) ← readPart '-' cs
  let cs ← readMark cs
  let (hour, cs) ← readNat 2 (skipBlank cs)
  let (minute, cs) ← readPart ':' cs
  let (second, cs) ← readPart ':' cs
  let (nano, cs) ← readFraction cs
  let (offset, cs) ← readOffset (skipBlank cs)
  if (skipBlank cs).isEmpty then ofLocal? ⟨year, month, day⟩ hour minute second nano offset
  else none

/-- The timestamp of a text. -/
def ofText? (s : String) : Option Timestamp := ofChars? s.toList

end Timestamp

end Messaging
