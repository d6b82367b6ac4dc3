import Messaging.Value.Document
import Messaging.Text.Hexadecimal

/-!
# Reading JSON text

The grammar of JSON on characters.  Every function reads a first part of its input and gives what it
read together with the rest, or nothing where the input is malformed.

An integer is kept as one if 64 bits can hold it, with or without a sign; every other number becomes
a floating-point number.  Its significand takes as many digits as 64 bits can hold, the others only
count in the exponent or not at all.
-/

namespace Messaging

namespace Reader

/-- What was read, and the rest of the input. -/
abbrev Result (α : Type) := Option (α × List Char)

/-- White space of the notation. -/
def isSpace (c : Char) : Bool := c = ' ' || c = '\n' || c = '\t' || c = '\r'

/-- The input behind leading white space. -/
def skip (cs : List Char) : List Char := cs.dropWhile isSpace

/-! ### Texts -/

/-- The number of four hexadecimal digits. -/
def fourHex? (a b c d : Char) : Option Nat := Text.hexValue? 0 [a, b, c, d]

/-- The character that a backslash and a letter stand for. -/
def escape? (c : Char) : Option Char :=
  match c with
  | '"' => some '"'
  | '\\' => some '\\'
  | '/' => some '/'
  | 'b' => some '\x08'
  | 'f' => some '\x0c'
  | 'n' => some '\n'
  | 'r' => some '\r'
  | 't' => some '\t'
  | _ => none

/-- The first half of a surrogate pair. -/
def isHighSurrogate (n : Nat) : Bool := 0xD800 ≤ n && n < 0xDC00

/-- The second half of a surrogate pair. -/
def isLowSurrogate (n : Nat) : Bool := 0xDC00 ≤ n && n < 0xE000

/-- Reads a text up to its closing quote.  `sofar` holds the characters already read, the last one
first, or nothing once half of a surrogate pair has stood alone. -/
def string (sofar : Option (List Char)) : List Char → Result (Option String)
  | [] => none
  | '"' :: rest => some (sofar.map fun cs ↦ String.ofList cs.reverse, rest)
  | '\\' :: 'u' :: a :: b :: c :: d :: rest =>
    match fourHex? a b c d with
    | none => none
    | some high =>
      if isHighSurrogate high then
        match rest with
        | '\\' :: 'u' :: e :: f :: g :: h :: after =>
          match fourHex? e f g h with
          | none => none
          | some low =>
            if isLowSurrogate low then
              let n := 0x10000 + (high - 0xD800) * 0x400 + (low - 0xDC00)
              string (sofar.map (Char.ofNat n :: ·)) after
            else string none ('\\' :: 'u' :: e :: f :: g :: h :: after)
        | other => string none other
      else if isLowSurrogate high then string none rest
      else string (sofar.map (Char.ofNat high :: ·)) rest
  | '\\' :: c :: rest =>
    match escape? c with
    | none => none
    | some e => string (sofar.map (e :: ·)) rest
  | c :: rest => if c.toNat < 0x20 then none else string (sofar.map (c :: ·)) rest
termination_by cs => cs.length

/-! ### Numbers -/

/-- A decimal digit. -/
def isDigit (c : Char) : Bool := '0' ≤ c && c ≤ '9'

/-- The number of a list of decimal digits. -/
def natOf (ds : List Char) : Nat := ds.foldl (fun n c ↦ n * 10 + (c.toNat - 48)) 0

/-- Splits off the leading decimal digits; there has to be one. -/
def digits (cs : List Char) : Result (List Char) :=
  match cs.takeWhile isDigit with
  | [] => none
  | ds => some (ds, cs.dropWhile isDigit)

/-- Appends digits to a number as long as 64 bits can hold it, and counts the digits that were
taken. -/
def takeDigits (n : Nat) : List Char → Nat × Nat
  | [] => (n, 0)
  | c :: rest =>
    let larger := n * 10 + (c.toNat - 48)
    if larger < UInt64.size then
      let (total, count) := takeDigits larger rest
      (total, count + 1)
    else (n, 0)

/-- A number as it is written: its sign, its digits before and after the point, and its exponent. -/
structure Numeral where
  negative : Bool
  whole : List Char
  fraction : Option (List Char)
  exponent : Option (Bool × List Char)

/-- The floating-point number of a numeral, or an unreadable document where it would be infinite. -/
def Numeral.float (n : Numeral) : Document :=
  let (whole, taken) := takeDigits 0 n.whole
  let (significand, places) := takeDigits whole (n.fraction.getD [])
  let shift : Int := (n.whole.length - taken : Nat) - (places : Int)
  let (down, size) := (n.exponent.map fun (down, ds) ↦ (down, natOf ds)).getD (false, 0)
  let number? :=
    if size < 0x80000000 then
      Double.ofDecimal? n.negative significand.toUInt64
        (if down then shift - size else shift + size)
    else if significand = 0 ∨ down then Double.ofDecimal? n.negative 0 0
    else none
  (number?.map .float).getD .unreadable

/-- The document of a numeral. -/
def Numeral.document (n : Numeral) : Document :=
  match n.fraction, n.exponent with
  | none, none =>
    let size := natOf n.whole
    if n.negative then
      if 0 < size ∧ size ≤ 0x8000000000000000 then .int (-size) else n.float
    else if size < UInt64.size then .int size else n.float
  | _, _ => n.float

/-- Reads the digits before the point: there is no zero in front of other digits. -/
def whole (cs : List Char) : Option (List Char × List Char) := do
  let (ds, rest) ← digits cs
  if ds.head? = some '0' ∧ 1 < ds.length then none else some (ds, rest)

/-- Reads a point and the digits behind it, if there is a point. -/
def fraction : List Char → Result (Option (List Char))
  | '.' :: cs => (digits cs).map fun (ds, rest) ↦ (some ds, rest)
  | cs => some (none, cs)

/-- Reads the exponent, if there is one: whether it is negative, and its digits. -/
def exponent : List Char → Result (Option (Bool × List Char))
  | c :: cs =>
    if c = 'e' ∨ c = 'E' then
      match cs with
      | '+' :: cs => (digits cs).map fun (ds, rest) ↦ (some (false, ds), rest)
      | '-' :: cs => (digits cs).map fun (ds, rest) ↦ (some (true, ds), rest)
      | cs => (digits cs).map fun (ds, rest) ↦ (some (false, ds), rest)
    else some (none, c :: cs)
  | [] => some (none, [])

/-- Reads a number. -/
def number (cs : List Char) : Option (Document × List Char) := do
  let (negative, cs) :=
    match cs with
    | '-' :: rest => (true, rest)
    | _ => (false, cs)
  let (whole, cs) ← whole cs
  let (fraction, cs) ← fraction cs
  let (exponent, cs) ← exponent cs
  return (Numeral.document ⟨negative, whole, fraction, exponent⟩, cs)

/-! ### Documents -/

/-- An object of fields whose names were read, or an unreadable document where a name was not. -/
def objectOf (fields : List (Option String × Document)) : Document :=
  match fields.mapM fun (name, d) ↦ name.map (·, d) with
  | some fields => .object fields
  | none => .unreadable

mutual

/-- Reads a document.  `room` is the number of brackets that may still be opened around a readable
part; `fuel` bounds the number of steps and is at most used up by one for each character. -/
def document (fuel room : Nat) (cs : List Char) : Result Document :=
  match fuel, skip cs with
  | 0, _ => none
  | _, [] => none
  | fuel + 1, c :: rest =>
    match c with
    | '"' => (string (some []) rest).map fun (s, rest) ↦ ((s.map .string).getD .unreadable, rest)
    | '[' =>
      (items fuel (room - 1) true rest).map fun (l, rest) ↦
        (if room = 0 then .unreadable else .array l, rest)
    | '{' =>
      (fields fuel (room - 1) true rest).map fun (l, rest) ↦
        (if room = 0 then .unreadable else objectOf l, rest)
    | 'n' => if rest.take 3 = ['u', 'l', 'l'] then some (.null, rest.drop 3) else none
    | 't' => if rest.take 3 = ['r', 'u', 'e'] then some (.bool true, rest.drop 3) else none
    | 'f' => if rest.take 4 = ['a', 'l', 's', 'e'] then some (.bool false, rest.drop 4) else none
    | _ => number (c :: rest)

/-- Reads the items of an array up to its closing bracket; only the first one may be missing. -/
def items (fuel room : Nat) (first : Bool) (cs : List Char) :
    Option (List Document × List Char) :=
  match fuel with
  | 0 => none
  | fuel + 1 =>
    match first, skip cs with
    | true, ']' :: rest => some ([], rest)
    | _, cs => do
      let (d, cs) ← document fuel room cs
      match skip cs with
      | ']' :: rest => some ([d], rest)
      | ',' :: rest => (items fuel room false rest).map fun (l, rest) ↦ (d :: l, rest)
      | _ => none

/-- Reads the fields of an object up to its closing bracket; only the first one may be missing. -/
def fields (fuel room : Nat) (first : Bool) (cs : List Char) :
    Option (List (Option String × Document) × List Char) :=
  match fuel with
  | 0 => none
  | fuel + 1 =>
    match first, skip cs with
    | true, '}' :: rest => some ([], rest)
    | _, '"' :: rest => do
      let (name, cs) ← string (some []) rest
      match skip cs with
      | ':' :: rest =>
        let (d, cs) ← document fuel room rest
        match skip cs with
        | '}' :: rest => some ([(name, d)], rest)
        | ',' :: rest => (fields fuel room false rest).map fun (l, rest) ↦ ((name, d) :: l, rest)
        | _ => none
      | _ => none
    | _, _ => none

end

/-- How many brackets may be open around a readable part. -/
def deepest : Nat := 127

end Reader

/-- The document of a text: one document with nothing but white space around it. -/
def Document.ofText? (s : String) : Option Document :=
  let cs := s.toList
  match Reader.document (2 * cs.length + 1) Reader.deepest cs with
  | some (d, rest) => if (Reader.skip rest).isEmpty then some d else none
  | none => none

/-- The value of a text. -/
def Value.ofText? (s : String) : Option Value := (Document.ofText? s).bind Document.value?

end Messaging
