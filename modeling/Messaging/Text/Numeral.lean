/-!
# Numerals

Unsigned numbers below 2⁶⁴ as they are written in settings: an optional plus sign and one or more
decimal digits, with any number of leading zeros.  A text is read from left to right, and the first
character at which it goes wrong decides what is wrong with it; at one character a bad digit counts
before a number that has grown too large.
-/

namespace Messaging

/-- Why a text is not the numeral of a number below 2⁶⁴. -/
inductive NumeralError where
  /-- There is no character at all. -/
  | empty
  /-- A character is not a digit, or there is nothing but a sign. -/
  | invalidDigit
  /-- The digits so far exceed the largest number. -/
  | tooLarge
  deriving DecidableEq, Repr

/-- The wording of a numeral's error. -/
def NumeralError.message : NumeralError → String
  | .empty => "cannot parse integer from empty string"
  | .invalidDigit => "invalid digit found in string"
  | .tooLarge => "number too large to fit in target type"

namespace Text

/-- The largest number that a numeral can stand for. -/
def largest : Nat := UInt64.size - 1

/-- The value of a decimal digit. -/
def digit? (c : Char) : Option Nat :=
  if '0' ≤ c ∧ c ≤ '9' then some (c.toNat - '0'.toNat) else none

/-- Reads digits after a number has been read from the digits before them. -/
def readDigits (sofar : Nat) : List Char → Except NumeralError Nat
  | [] => .ok sofar
  | c :: rest =>
    match digit? c with
    | none => .error .invalidDigit
    | some d =>
      if largest < sofar * 10 + d then .error .tooLarge else readDigits (sofar * 10 + d) rest

/-- Reads the characters of a numeral. -/
def readNumeralChars : List Char → Except NumeralError Nat
  | [] => .error .empty
  | ['+'] => .error .invalidDigit
  | '+' :: digits => readDigits 0 digits
  | digits => readDigits 0 digits

/-- Reads a numeral. -/
def readNumeral (s : String) : Except NumeralError Nat := readNumeralChars s.toList

/-- Reads a truth value; every other text than its two words is none. -/
def readFlag (s : String) : Option Bool :=
  if s = "true" then some true else if s = "false" then some false else none

end Text

end Messaging
