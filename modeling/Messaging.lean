import Messaging.Demo
import Messaging.Error
import Messaging.Execution
import Messaging.Form.Message
import Messaging.Form.Signature
import Messaging.Main
import Messaging.System
import Messaging.Value.Reader
import Messaging.Value.Writer
import Messaging.Proofs.Binder.Bindable
import Messaging.Proofs.Binder.Declared
import Messaging.Proofs.Binder.Faults
import Messaging.Proofs.Binder.Gathering
import Messaging.Proofs.Binder.Merging
import Messaging.Proofs.Binder.NullPayload
import Messaging.Proofs.Binder.Precedence
import Messaging.Proofs.Binder.Rearranging
import Messaging.Proofs.Binder.Restoring
import Messaging.Proofs.Binder.RoundTrip
import Messaging.Proofs.Binder.Showing
import Messaging.Proofs.Binder.Slots
import Messaging.Proofs.Binder.Verdict
import Messaging.Proofs.Broker.Copies
import Messaging.Proofs.Broker.Diary
import Messaging.Proofs.Broker.Likeness
import Messaging.Proofs.Broker.Offering
import Messaging.Proofs.Broker.Run
import Messaging.Proofs.Broker.Sending
import Messaging.Proofs.Consumer.Cutting
import Messaging.Proofs.Consumer.Cycle
import Messaging.Proofs.Consumer.Handling
import Messaging.Proofs.Consumer.Likeness
import Messaging.Proofs.Consumer.Poll
import Messaging.Proofs.Demo.Orders
import Messaging.Proofs.Demo.Run
import Messaging.Proofs.Demo.Submission
import Messaging.Proofs.Draft.Steps
import Messaging.Proofs.Endpoint.Reply
import Messaging.Proofs.Execution.Agreement
import Messaging.Proofs.Execution.Run
import Messaging.Proofs.Execution.Unfolding
import Messaging.Proofs.Execution.Wakeup
import Messaging.Proofs.Form.Document
import Messaging.Proofs.Form.Identity
import Messaging.Proofs.Form.Instant
import Messaging.Proofs.Form.ReadBack
import Messaging.Proofs.Headers.Inclusion
import Messaging.Proofs.Poller.Closing
import Messaging.Proofs.Poller.Schedule
import Messaging.Proofs.Poller.Stopping
import Messaging.Proofs.Poller.Taking
import Messaging.Proofs.Poller.Turn
import Messaging.Proofs.Queue.Conservation
import Messaging.Proofs.Queue.Pending
import Messaging.Proofs.Queue.Turns
import Messaging.Proofs.Reception.Course
import Messaging.Proofs.Router.Nesting
import Messaging.Proofs.Router.Route
import Messaging.Proofs.Settings.Capacity
import Messaging.Proofs.Settings.Leniency
import Messaging.Proofs.Settings.Numbers
import Messaging.Proofs.Signature.Description
import Messaging.Proofs.Signature.Markers
import Messaging.Proofs.System.Creation
import Messaging.Proofs.System.Lateness
import Messaging.Proofs.System.Line
import Messaging.Proofs.System.Onward
import Messaging.Proofs.System.Run
import Messaging.Proofs.System.Step
import Messaging.Proofs.System.Turns
import Messaging.Proofs.System.Wakeup
import Messaging.Proofs.Text.Numeral
import Messaging.Proofs.Text.Trimming
import Messaging.Proofs.Trail.Headers
import Messaging.Proofs.Trail.Hop
import Messaging.Proofs.Value.Comparison
