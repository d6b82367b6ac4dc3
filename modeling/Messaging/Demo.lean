import Messaging.System
import Messaging.Value.Writer

/-!
# The demonstration

A small system that enriches orders.  Three orders are put on a queue, a poller hands them to an
endpoint, and its replies go by way of a router to two queues; the third order lacks a header and
ends as an error message.  After half a second the poller is stopped, and what the queues hold is
printed.
-/

namespace Messaging.Demo

/-- The handler: it puts the order together with its customer, its priority and the number of
headers. -/
def enrichOrder : Handler := fun arguments _ ↦
  match arguments[1]?.bind Argument.payload? with
  | none => .error ⟨["order payload not bound"]⟩
  | some order =>
    let count := ((arguments[0]?.bind Argument.headers?).map Dictionary.size).getD 0
    let customer := (arguments[2]?.bind Argument.header?).getD .null
    let priority := (arguments[3]?.bind Argument.header?).getD (.string "normal")
    .ok (some (.payload (.record [("order", order), ("customer", customer),
      ("priority", priority), ("header_count", .int count)])))

/-- The signature of the handler. -/
def signature : Signature where
  name := "enrichOrder"
  parameters := [
    .named "headers" .map,
    .named "order" .value,
    (Parameter.named "customer" .value).headerByName,
    (Parameter.named "priority" .value).optionalHeader "priority"]

/-- The orders that are submitted. -/
def orders : List Draft :=
  [((Draft.ofPayload (.string "order-42")).set "customer" (.string "alice")).set
      "priority" (.string "high"),
    (Draft.ofPayload (.record [("sku", .string "X-1"), ("qty", .int 3)])).set
      "customer" (.string "bob"),
    Draft.ofPayload (.string "order-43")]

/-- The queues of the demonstration, in the order of their numbers. -/
def queueNames : List String := ["orders", "audit", "fulfillment", "errors"]

/-- The router behind the endpoint. -/
def router : Channel := .router "order-fanout" false [.queue 1, .queue 2]

/-- The endpoint: the binder of the signature is known to exist. -/
def endpoint (binder : Binder) : Endpoint where
  label := "enrichOrder"
  binder := binder
  handler := enrichOrder
  output := some router

/-- The consumer of the orders. -/
def consumer (binder : Binder) (settings : PollerSettings) : Consumer where
  input := 0
  endpoint := endpoint binder
  settings := settings
  errors := some (.queue 3)

/-- Submits a draft to the queue of orders; a full queue loses it. -/
def submit (b : Broker) (draft : Draft) : Broker :=
  match draft.build b.stamp with
  | .ok m => (b.issue.offer 0 m).2
  | .error _ => b.issue

/-- The largest number of steps at one instant, and of instants in one wait. -/
def budget : Nat := 100000

/-- How long the poller runs, in milliseconds. -/
def runTime : Nat := 500

/-- The system when the poller starts. -/
def start (queues : List Queue) (binder : Binder) (settings : PollerSettings) : System :=
  let broker := orders.foldl submit { queues }
  System.spawn ⟨broker, []⟩ (consumer binder settings) false

/-- The system after the poller was stopped and has come to its end.  What is due at the very
instant of the stop happens after it. -/
def finish (s : System) : System :=
  let s := (s.settle budget).advance budget (runTime - 1)
  let s := (s.atInstant runTime).stop 0
  let s := (s.withBroker (s.broker.close 0)).settle budget
  s.wait budget fun s ↦ s.isOver 0

/-- The lines about the messages of a queue. -/
def lines (s : System) (id : QueueId) : List String :=
  (s.broker.items id).map fun m ↦
    "[" ++ (queueNames[id]?).getD "" ++ "] " ++ m.payload.text

/-- A span of milliseconds, in seconds if it is not shorter than one. -/
def spanText (ms : Nat) : String :=
  if ms < 1000 then toString ms ++ "ms"
  else
    let tenths := (toString (1000 + ms % 1000)).toList.tail
    let digits := (tenths.reverse.dropWhile fun c ↦ c = '0').reverse
    let fraction := if digits.isEmpty then "" else "." ++ String.ofList digits
    toString (ms / 1000) ++ fraction ++ "s"

/-- What a run prints and how it exits. -/
structure Report where
  code : Nat
  lines : List String
  deriving DecidableEq, Repr

/-- What is printed before anything else happens. -/
def heading (poller : PollerSettings) (channel : ChannelSettings) : List String :=
  ["conduit v0.1.0", "   Poll interval: " ++ spanText poller.interval,
    "   Queue capacity: " ++ toString channel.capacity]

/-- What is printed about a system that has come to its end, and how the run exits. -/
def printed (poller : PollerSettings) (channel : ChannelSettings) (s : System) : Report where
  code := 0
  lines := heading poller channel ++ lines s 1 ++ lines s 2 ++ lines s 3

/-- The report of a run with these settings. -/
def report (poller : PollerSettings) (channel : ChannelSettings) (binder : Binder)
    (queues : List Queue) : Report :=
  printed poller channel (finish (start queues binder poller))

/-- The report of a run that fails after it has printed some lines. -/
def failed (lines : List String) (message : String) : Report :=
  ⟨1, lines ++ ["Error: " ++ message]⟩

/-- What a run comes to. -/
inductive Course where
  /-- It ends, with or without an error. -/
  | ok (report : Report)
  /-- It breaks off with a message after it has printed some lines. -/
  | abort (lines : List String) (message : String)
  deriving DecidableEq, Repr

/-- Runs the demonstration in an environment.  Settings that cannot be used end it at once; it
breaks off where the queues would be too large. -/
def run (env : Environment) : Course :=
  match PollerSettings.readStrictly env, ChannelSettings.readStrictly env with
  | .error e, _ => .ok (failed [] e.message)
  | .ok _, .error e => .ok (failed [] e.message)
  | .ok poller, .ok channel =>
    match queueNames.mapM (Queue.create · channel.capacity) with
    | .error e => .ok (failed (heading poller channel) e.message)
    | .abort message => .abort (heading poller channel) message
    | .ok queues =>
      match Binder.ofSignature signature with
      | .error e => .ok (failed (heading poller channel) e.message)
      | .ok binder => .ok (report poller channel binder queues)

/-- Runs the demonstration as a process with these variables. -/
def runProcess (p : ProcessEnvironment) : Course := run p.texts

end Messaging.Demo
