/-!
# White space

Which characters are white space, by the property of that name in the Unicode character database,
and how a text loses the white space around it.
-/

namespace Messaging.Text

/-- The ranges of the property `White_Space`. -/
def blankRanges : List (Nat × Nat) :=
  [(0x9, 0xD), (0x20, 0x20), (0x85, 0x85), (0xA0, 0xA0), (0x1680, 0x1680), (0x2000, 0x200A),
    (0x2028, 0x2029), (0x202F, 0x202F), (0x205F, 0x205F), (0x3000, 0x3000)]

/-- Whether the character is white space. -/
def isBlank (c : Char) : Bool :=
  blankRanges.any fun (first, last) ↦ first ≤ c.toNat && c.toNat ≤ last

/-- The characters without the white space at both ends. -/
def trimmed (cs : List Char) : List Char :=
  ((cs.dropWhile isBlank).reverse.dropWhile isBlank).reverse

/-- The text without the white space at both ends. -/
def trim (s : String) : String := String.ofList (trimmed s.toList)

/-- The trimmed text, where something is left of it: white space alone names nothing. -/
def named? (s : Option String) : Option String :=
  (s.map trim).filter fun name ↦ name ≠ ""

end Messaging.Text
