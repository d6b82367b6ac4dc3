/-!
# Attempts

An attempt succeeds, or it fails with an error, which is left to whoever made the attempt.  There is
a third way: something that is assumed never to happen does happen, and the whole program breaks
off.  Nobody gets to handle that, so it is not an error, and nothing that is done in a row goes on
after it.
-/

namespace Messaging

/-- What comes of an attempt. -/
inductive Attempt (ε α : Type) where
  /-- It succeeds. -/
  | ok (a : α)
  /-- It fails. -/
  | error (e : ε)
  /-- The program breaks off with this message. -/
  | abort (message : String)

namespace Attempt

variable {ε α β : Type}

/-- One attempt after another, as long as they succeed. -/
def bind (x : Attempt ε α) (f : α → Attempt ε β) : Attempt ε β :=
  match x with
  | ok a => f a
  | error e => error e
  | abort message => abort message

instance : Monad (Attempt ε) where
  pure := ok
  bind := bind

end Attempt

end Messaging
