import Messaging.Consumer

/-!
# Errors

The errors of all parts as one type, each under the name of its part.
-/

namespace Messaging

/-- An error of some part. -/
inductive Error where
  | setting (e : SettingError)
  | message (e : MessageError)
  | signature (e : SignatureError)
  | binding (e : BindingError)
  | channel (e : ChannelError)
  | router (e : RouterError)
  | endpoint (e : EndpointError)
  deriving DecidableEq, Repr

namespace Error

/-- The name of the part. -/
def part : Error → String
  | setting _ => "Configuration"
  | message _ => "Message"
  | signature _ => "Signature"
  | binding _ => "Binding"
  | channel _ => "Channel"
  | router _ => "Router"
  | endpoint _ => "Endpoint"

/-- The wording of the error itself. -/
def detail : Error → String
  | setting e => e.message
  | message e => e.message
  | signature e => e.message
  | binding e => e.message
  | channel e => e.message
  | router e => e.message
  | endpoint e => e.message

/-- The wording of the error under the name of its part. -/
def text (e : Error) : String := e.part ++ " error: " ++ e.detail

/-- The wording of the error behind this one, which only a binding error at an endpoint has. -/
def source? : Error → Option String
  | endpoint (.binding _ source) => some source.message
  | _ => none

end Error

end Messaging
