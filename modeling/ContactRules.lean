import ContactRules.Engine.Journal
import ContactRules.Engine.Occasion
import ContactRules.Main
import ContactRules.Proofs.Calendar.Gregorian
import ContactRules.Proofs.Calendar.Minute
import ContactRules.Proofs.Schedule.NextFiring
import ContactRules.Proofs.Roster
import ContactRules.Proofs.Schedule.Window
import ContactRules.Proofs.Runner.ExactlyOnce
import ContactRules.Proofs.Engine.Log
import ContactRules.Proofs.Engine.Progress
import ContactRules.Proofs.Store.History
import ContactRules.Proofs.Engine.Isolation
import ContactRules.Proofs.Runner.Exhaustion
import ContactRules.Proofs.Dispatch.Call
import ContactRules.Proofs.Dispatch.Registry
import ContactRules.Proofs.Engine.Simulation
import ContactRules.Proofs.Engine.Provenance
import ContactRules.Proofs.Rule.History
import ContactRules.Proofs.Rule.Events
import ContactRules.Proofs.Wire.RoundTrip
import ContactRules.Proofs.Rule.Transfer
import ContactRules.Proofs.Runner.Tick
import ContactRules.Proofs.Store.Listing
import ContactRules.Proofs.Rule.Construction
import ContactRules.Proofs.Runner.Reachable
import ContactRules.Proofs.Runner.Contact
import ContactRules.Proofs.Schedule.Monthly
import ContactRules.Proofs.Schedule.Progress
import ContactRules.Proofs.Runner.Announcement
import ContactRules.Proofs.Rule.Criteria
import ContactRules.Proofs.Rule.Regrouping
import ContactRules.Proofs.Json.Sameness
import ContactRules.Proofs.Rule.Evaluation
import ContactRules.Proofs.Wire.Reading
import ContactRules.Proofs.Dispatch.Params
import ContactRules.Proofs.Engine.Webhook
import ContactRules.Proofs.Decimal.Rounding
import ContactRules.Proofs.Rule.Comparison
import ContactRules.Proofs.Calendar.Span
import ContactRules.Proofs.Engine.Verdict
import ContactRules.Proofs.Engine.Threshold
import ContactRules.Proofs.Dispatch.History
import ContactRules.Proofs.Engine.Request
