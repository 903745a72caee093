import BatchStringify.Batch.Attempt
import BatchStringify.Batch.Availability
import BatchStringify.Batch.Fault
import BatchStringify.Config.Load
import BatchStringify.Config.Overlay
import BatchStringify.Config.Settings
import BatchStringify.Debuggee.Basic
import BatchStringify.Debuggee.Calls
import BatchStringify.Debuggee.Error
import BatchStringify.Debuggee.Responder
import BatchStringify.Debuggee.Value
import BatchStringify.Decimal.Binary
import BatchStringify.Decimal.Layout
import BatchStringify.Decimal.Numeral
import BatchStringify.Decimal.Shortest
import BatchStringify.Logging.Dialect
import BatchStringify.Logging.Directive
import BatchStringify.Logging.Filter
import BatchStringify.Logging.Level
import BatchStringify.Logging.Notice
import BatchStringify.Logging.Subscriber
import BatchStringify.Panic
import BatchStringify.Pattern.Reader
import BatchStringify.Pattern.Syntax
import BatchStringify.Pattern.Usable
import BatchStringify.Proofs.Acceptance
import BatchStringify.Proofs.Actions
import BatchStringify.Proofs.Answering
import BatchStringify.Proofs.Apart
import BatchStringify.Proofs.Attachment
import BatchStringify.Proofs.Attempt
import BatchStringify.Proofs.BatchDelivery
import BatchStringify.Proofs.Calls
import BatchStringify.Proofs.Calm.Basic
import BatchStringify.Proofs.Calm.Steps
import BatchStringify.Proofs.Calm.Turns
import BatchStringify.Proofs.Canonical
import BatchStringify.Proofs.CompletionOrder
import BatchStringify.Proofs.Conservation
import BatchStringify.Proofs.Containment
import BatchStringify.Proofs.CutReplies
import BatchStringify.Proofs.Defences
import BatchStringify.Proofs.Documents
import BatchStringify.Proofs.Elementwise
import BatchStringify.Proofs.EndToEnd
import BatchStringify.Proofs.Evaluation
import BatchStringify.Proofs.Events
import BatchStringify.Proofs.ExactlyOnce
import BatchStringify.Proofs.Exchanges
import BatchStringify.Proofs.Exhaustion
import BatchStringify.Proofs.FlushCalls
import BatchStringify.Proofs.Gathering
import BatchStringify.Proofs.Grouping
import BatchStringify.Proofs.Helper
import BatchStringify.Proofs.HelperHandles
import BatchStringify.Proofs.Inventory
import BatchStringify.Proofs.Keeping
import BatchStringify.Proofs.LateQuestions
import BatchStringify.Proofs.Ledger.Accounts
import BatchStringify.Proofs.Ledger.Basic
import BatchStringify.Proofs.Ledger.Continuation
import BatchStringify.Proofs.Ledger.Delivery
import BatchStringify.Proofs.Ledger.Sound
import BatchStringify.Proofs.Ledger.Steps
import BatchStringify.Proofs.Ledger.Turns
import BatchStringify.Proofs.Ledger.Waiting
import BatchStringify.Proofs.Manager.Machine
import BatchStringify.Proofs.Manager.Processes
import BatchStringify.Proofs.Manager.Refinement
import BatchStringify.Proofs.Manager.Runs
import BatchStringify.Proofs.Manager.Threads
import BatchStringify.Proofs.Moves
import BatchStringify.Proofs.Noninterference
import BatchStringify.Proofs.Numbers
import BatchStringify.Proofs.Order.Lanes
import BatchStringify.Proofs.Order.Runs
import BatchStringify.Proofs.Outcomes
import BatchStringify.Proofs.Overlay
import BatchStringify.Proofs.PendingFlushes
import BatchStringify.Proofs.Pins
import BatchStringify.Proofs.Precedence
import BatchStringify.Proofs.Probing
import BatchStringify.Proofs.Protocol
import BatchStringify.Proofs.Reached
import BatchStringify.Proofs.Reactions
import BatchStringify.Proofs.Refusals
import BatchStringify.Proofs.RemoteCosts
import BatchStringify.Proofs.ReplyCursor
import BatchStringify.Proofs.ReplyGrammar
import BatchStringify.Proofs.Residue
import BatchStringify.Proofs.Rewording
import BatchStringify.Proofs.RoundTrip
import BatchStringify.Proofs.ScopeCalls
import BatchStringify.Proofs.ScopeHistory
import BatchStringify.Proofs.Sending
import BatchStringify.Proofs.Steady
import BatchStringify.Proofs.Teardown
import BatchStringify.Proofs.Transparency
import BatchStringify.Proofs.TurnCalls
import BatchStringify.Proofs.Unbatched
import BatchStringify.Proofs.Verdicts
import BatchStringify.Proofs.Windows
import BatchStringify.Queue
import BatchStringify.Reply.Codec
import BatchStringify.Reply.Entry
import BatchStringify.Session.Delivery
import BatchStringify.Session.Journal
import BatchStringify.Session.Link
import BatchStringify.Session.Logged
import BatchStringify.Session.Perform
import BatchStringify.Session.Probe
import BatchStringify.Session.Probing
import BatchStringify.Session.Request
import BatchStringify.Session.Run
import BatchStringify.Session.Script
import BatchStringify.Session.State
import BatchStringify.Session.Top
import BatchStringify.Suspension
import BatchStringify.Table
import BatchStringify.Text.Alphanumeric
import BatchStringify.Text.Blank
import BatchStringify.Text.Digits
import BatchStringify.Text.Latin1
import BatchStringify.Text.Octets
import BatchStringify.Text.Quoted
import BatchStringify.Text.Ranges
import BatchStringify.Text.Reader
import BatchStringify.Text.Unprintable
import BatchStringify.Toml.Document
import BatchStringify.Toml.Number
import BatchStringify.Toml.Space
import BatchStringify.Toml.Table
import BatchStringify.Toml.Text
import BatchStringify.Toml.Value
