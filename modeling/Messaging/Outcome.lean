/-!
# Outcomes

What a channel answers to a message that is offered to it.
-/

namespace Messaging

/-- The answer of a channel. -/
inductive Outcome where
  /-- The message was accepted. -/
  | sent
  /-- The channel holds as many messages as it can. -/
  | full
  /-- The channel does not accept messages any more. -/
  | closed
  deriving DecidableEq, Repr

namespace Outcome

/-- The name of an outcome. -/
def name : Outcome → String
  | sent => "sent"
  | full => "full"
  | closed => "closed"

/-- All outcomes. -/
def all : List Outcome := [sent, full, closed]

/-- The outcome of a name. -/
def ofName? (s : String) : Option Outcome := all.find? fun o ↦ o.name == s

/-- Whether the message was accepted. -/
def isSent (o : Outcome) : Bool := o = sent

end Outcome

end Messaging
