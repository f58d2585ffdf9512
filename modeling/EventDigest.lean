import EventDigest.Api
import EventDigest.Auth
import EventDigest.Binary64
import EventDigest.Binary64.Shortest
import EventDigest.Body
import EventDigest.CommandLine
import EventDigest.Config
import EventDigest.Counts
import EventDigest.Delivery
import EventDigest.Descriptor
import EventDigest.Digest
import EventDigest.Environment
import EventDigest.Event
import EventDigest.Fault
import EventDigest.Fields
import EventDigest.Group
import EventDigest.Journal
import EventDigest.Json
import EventDigest.Json.Display
import EventDigest.Json.Printer
import EventDigest.Json.Reader
import EventDigest.Mail.Address
import EventDigest.Mail.AddressList
import EventDigest.Mail.Word
import EventDigest.Main
import EventDigest.Notification
import EventDigest.Outcome
import EventDigest.Project
import EventDigest.Proofs.Addresses
import EventDigest.Proofs.Admission
import EventDigest.Proofs.Agreement
import EventDigest.Proofs.Alike
import EventDigest.Proofs.Alone
import EventDigest.Proofs.Ancestry
import EventDigest.Proofs.Answer
import EventDigest.Proofs.Attempts
import EventDigest.Proofs.Calendar
import EventDigest.Proofs.Configurations
import EventDigest.Proofs.Counts
import EventDigest.Proofs.Descent
import EventDigest.Proofs.Destinations
import EventDigest.Proofs.Details
import EventDigest.Proofs.Dispatch
import EventDigest.Proofs.Errands
import EventDigest.Proofs.Forward
import EventDigest.Proofs.Frame
import EventDigest.Proofs.Grammar
import EventDigest.Proofs.Groups
import EventDigest.Proofs.Handover
import EventDigest.Proofs.Headers
import EventDigest.Proofs.History
import EventDigest.Proofs.HtmlMail
import EventDigest.Proofs.Image
import EventDigest.Proofs.Isolation
import EventDigest.Proofs.Listing
import EventDigest.Proofs.Literals
import EventDigest.Proofs.Mailing
import EventDigest.Proofs.Numerals
import EventDigest.Proofs.Overview
import EventDigest.Proofs.Padded
import EventDigest.Proofs.Paired
import EventDigest.Proofs.PassedOver
import EventDigest.Proofs.Payload
import EventDigest.Proofs.Performed
import EventDigest.Proofs.Reachable
import EventDigest.Proofs.Reading
import EventDigest.Proofs.Recipients
import EventDigest.Proofs.Reconfigured
import EventDigest.Proofs.Reordered
import EventDigest.Proofs.Returns
import EventDigest.Proofs.Rounds
import EventDigest.Proofs.Scope
import EventDigest.Proofs.Seeding
import EventDigest.Proofs.Segments
import EventDigest.Proofs.Sorted
import EventDigest.Proofs.Statuses
import EventDigest.Proofs.Steady
import EventDigest.Proofs.SuccessiveRuns
import EventDigest.Proofs.Suppression
import EventDigest.Proofs.Timestamps
import EventDigest.Proofs.Totals
import EventDigest.Proofs.Verdicts
import EventDigest.Proofs.Views
import EventDigest.Proofs.Warning
import EventDigest.Proofs.Watermark
import EventDigest.Proofs.Window
import EventDigest.Proofs.WindowStart
import EventDigest.Publisher
import EventDigest.Publisher.Console
import EventDigest.Publisher.Mail
import EventDigest.Publisher.Registry
import EventDigest.Publisher.Rehearsal
import EventDigest.Publisher.Webhook
import EventDigest.Recorded
import EventDigest.Run
import EventDigest.Settings
import EventDigest.Settings.Reading
import EventDigest.Startup
import EventDigest.Store
import EventDigest.Store.Columns
import EventDigest.Store.Events
import EventDigest.Store.Publishers
import EventDigest.Store.Rules
import EventDigest.Store.Scope
import EventDigest.Task
import EventDigest.Template
import EventDigest.Text.Blank
import EventDigest.Text.Case
import EventDigest.Text.CaseTable
import EventDigest.Text.Digit
import EventDigest.Text.Line
import EventDigest.Text.PrintTable
import EventDigest.Text.Quoted
import EventDigest.Text.Split
import EventDigest.Time.Calendar
import EventDigest.Time.Clock
import EventDigest.Time.Instant
import EventDigest.Time.Stamp
import EventDigest.Time.Zone
import EventDigest.Worker
