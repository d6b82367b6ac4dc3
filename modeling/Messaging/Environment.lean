/-!
# Environments

A process is started with variables.  A variable that is set is set to some bytes, and they need not
be the bytes of a text.  Whoever reads settings asks for texts only, by the names of the variables;
to them a variable that is set to something else looks as if it were not set at all.
-/

namespace Messaging

/-- What a variable of a process is set to. -/
inductive Assignment where
  /-- It is not set. -/
  | unset
  /-- It is set to bytes that are not those of a text. -/
  | garbled
  /-- It is set to a text. -/
  | text (raw : String)
  deriving DecidableEq, Repr

namespace Assignment

/-- What bytes are, which are those of a text if they are its encoding in UTF-8. -/
def ofBytes (bytes : List UInt8) : Assignment :=
  match String.fromUTF8? ⟨bytes.toArray⟩ with
  | some raw => text raw
  | none => garbled

/-- The text, where it is one. -/
def text? : Assignment → Option String
  | text raw => some raw
  | unset | garbled => none

end Assignment

/-- The texts to which variables are set, by the names of the variables. -/
abbrev Environment := String → Option String

/-- The variables of a process, by their names. -/
abbrev ProcessEnvironment := String → Assignment

namespace ProcessEnvironment

/-- What is seen of the variables by those who ask for texts. -/
def texts (p : ProcessEnvironment) : Environment := fun name ↦ (p name).text?

/-- The stretches of bytes between zeros. -/
def stretches : List UInt8 → List (List UInt8)
  | [] => [[]]
  | byte :: rest =>
    match stretches rest with
    | [] => [[byte]]
    | first :: others => if byte = 0 then [] :: first :: others else (byte :: first) :: others

/-- The variables that are listed in a block of bytes: each name is followed by an equals sign and
what the variable is set to, and a zero comes after that. -/
def ofBlock (block : List UInt8) : ProcessEnvironment := fun name ↦
  let head := name.toUTF8.toList ++ "=".toUTF8.toList
  match (stretches block).find? head.isPrefixOf with
  | some entry => .ofBytes (entry.drop head.length)
  | none => .unset

end ProcessEnvironment

end Messaging
