import Messaging.Environment
import Messaging.Text.Blank
import Messaging.Text.Numeral
import Messaging.Text.Quoted

/-!
# Settings

The settings of pollers and queues, as they are read from an environment of named texts.  A variable
that is not set leaves a setting at its default.  The lenient readings take a variable that cannot
be used for one that is not set; the strict readings refuse it.

A poll interval, a limit on the messages of a poll and the capacity of a queue have to be greater
than zero.
-/

namespace Messaging

/-- The schedule of a poller.  All times are in milliseconds. -/
structure PollerSettings where
  /-- The time between two poll cycles. -/
  interval : Nat := 1000
  /-- The time before the first poll cycle. -/
  initialDelay : Nat := 0
  /-- Whether the interval runs from the start of a cycle, instead of from its end. -/
  fixedRate : Bool := false
  /-- The number of messages that one cycle takes at most. -/
  limit : Option Nat := none
  /-- How long one receive waits for a message. -/
  receiveTimeout : Nat := 100
  deriving DecidableEq, Repr

/-- The settings of a queue. -/
structure ChannelSettings where
  /-- The number of messages that the queue can hold. -/
  capacity : Nat := 1024
  deriving DecidableEq, Repr

/-- Why settings are refused. -/
inductive SettingError where
  /-- The variable of this name is set to something that cannot be used. -/
  | invalidValue (key message : String)
  deriving DecidableEq, Repr

/-- The wording of a setting error. -/
def SettingError.message : SettingError → String
  | .invalidValue key message => "Invalid configuration value for " ++ key ++ ": " ++ message

/-! ### The variables -/

namespace Variable

/-- The poll interval. -/
def interval : String := "CONDUIT_POLL_INTERVAL_MS"

/-- The delay before the first poll. -/
def initialDelay : String := "CONDUIT_POLL_INITIAL_DELAY_MS"

/-- Fixed rate or fixed delay. -/
def fixedRate : String := "CONDUIT_POLL_FIXED_RATE"

/-- The limit on the messages of one poll. -/
def limit : String := "CONDUIT_POLL_MAX_MESSAGES"

/-- The timeout of a receive. -/
def receiveTimeout : String := "CONDUIT_RECEIVE_TIMEOUT_MS"

/-- The capacity of a queue. -/
def capacity : String := "CONDUIT_QUEUE_CAPACITY"

end Variable

/-- The error of a variable whose text is no number or truth value. -/
def unreadable (key raw reason : String) : SettingError :=
  .invalidValue key (Text.quoted raw ++ ": " ++ reason)

/-- The error of a variable that has to be greater than zero. -/
def notPositive (key : String) : SettingError :=
  .invalidValue key "must be greater than zero"

namespace Environment

/-- The number that a variable is set to. -/
def number? (env : Environment) (key : String) : Except SettingError (Option Nat) :=
  match env key with
  | none => .ok none
  | some raw =>
    match Text.readNumeral (Text.trim raw) with
    | .ok n => .ok (some n)
    | .error e => .error (unreadable key raw e.message)

/-- The number greater than zero that a variable is set to. -/
def positive? (env : Environment) (key : String) : Except SettingError (Option Nat) :=
  match env.number? key with
  | .ok (some 0) => .error (notPositive key)
  | other => other

/-- The truth value that a variable is set to. -/
def flag? (env : Environment) (key : String) : Except SettingError (Option Bool) :=
  match env key with
  | none => .ok none
  | some raw =>
    match Text.readFlag (Text.trim raw) with
    | some b => .ok (some b)
    | none => .error (unreadable key raw "provided string was not \x60true\x60 or \x60false\x60")

end Environment

/-- The setting of a variable, where one that cannot be used counts as not set. -/
def usable {α : Type} : Except SettingError (Option α) → Option α
  | .ok setting => setting
  | .error _ => none

namespace PollerSettings

/-- The settings that an environment gives; what cannot be used is ignored. -/
def read (env : Environment) : PollerSettings :=
  let defaults : PollerSettings := {}
  { interval := (usable (env.positive? Variable.interval)).getD defaults.interval
    initialDelay := (usable (env.number? Variable.initialDelay)).getD defaults.initialDelay
    fixedRate := (usable (env.flag? Variable.fixedRate)).getD defaults.fixedRate
    limit := (usable (env.positive? Variable.limit)).or defaults.limit
    receiveTimeout := (usable (env.number? Variable.receiveTimeout)).getD defaults.receiveTimeout }

/-- The settings that an environment gives, or the error of the first variable that cannot be
used. -/
def readStrictly (env : Environment) : Except SettingError PollerSettings := do
  let defaults : PollerSettings := {}
  let interval ← env.positive? Variable.interval
  let limit ← env.positive? Variable.limit
  let initialDelay ← env.number? Variable.initialDelay
  let fixedRate ← env.flag? Variable.fixedRate
  let receiveTimeout ← env.number? Variable.receiveTimeout
  return {
    interval := interval.getD defaults.interval
    initialDelay := initialDelay.getD defaults.initialDelay
    fixedRate := fixedRate.getD defaults.fixedRate
    limit := limit.or defaults.limit
    receiveTimeout := receiveTimeout.getD defaults.receiveTimeout }

/-- The settings that the variables of a process give; what cannot be used is ignored. -/
def load (p : ProcessEnvironment) : PollerSettings := read p.texts

/-- The settings that the variables of a process give, or the error of the first one that is
refused. -/
def loadStrictly (p : ProcessEnvironment) : Except SettingError PollerSettings :=
  readStrictly p.texts

end PollerSettings

namespace ChannelSettings

/-- The settings that an environment gives; what cannot be used is ignored. -/
def read (env : Environment) : ChannelSettings :=
  let defaults : ChannelSettings := {}
  { capacity := (usable (env.positive? Variable.capacity)).getD defaults.capacity }

/-- The settings that an environment gives, or the error of its variable. -/
def readStrictly (env : Environment) : Except SettingError ChannelSettings := do
  let defaults : ChannelSettings := {}
  let capacity ← env.positive? Variable.capacity
  return { capacity := capacity.getD defaults.capacity }

/-- The settings that the variables of a process give; what cannot be used is ignored. -/
def load (p : ProcessEnvironment) : ChannelSettings := read p.texts

/-- The settings that the variables of a process give, or the error of the one that is refused. -/
def loadStrictly (p : ProcessEnvironment) : Except SettingError ChannelSettings :=
  readStrictly p.texts

end ChannelSettings

end Messaging
