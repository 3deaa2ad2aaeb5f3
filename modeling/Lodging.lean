import Lodging.ApiDescription
import Lodging.Document.Writer
import Lodging.Http.Server
import Lodging.Main
import Lodging.Proofs.Service.History
import Lodging.Proofs.Service.Atomic
import Lodging.Proofs.Registry.Step
import Lodging.Proofs.Service.Step
import Lodging.Proofs.Decimal.Text
import Lodging.Proofs.Decimal.Value
import Lodging.Proofs.Decimal.Exact
import Lodging.Proofs.Decimal.Range
import Lodging.Proofs.Registry.Identity
import Lodging.Proofs.Registry.Views
import Lodging.Proofs.Registry.Channels
import Lodging.Proofs.Document.Decode
import Lodging.Proofs.RatePlan.WellFormed
import Lodging.Proofs.Registry.WellFormed
import Lodging.Proofs.Quote.Ranking
import Lodging.Proofs.Quote.Charges
import Lodging.Proofs.Http.Action
import Lodging.Proofs.Http.Gate
import Lodging.Proofs.Http.AllOrNothing
import Lodging.Proofs.Tenancy.Isolation
import Lodging.Proofs.Calendar.Nights
import Lodging.Proofs.Calendar.Advance
import Lodging.Proofs.Quote.Nights
import Lodging.Proofs.Inventory.StayBounds
import Lodging.Proofs.Reservation.DeletedPlans
import Lodging.Proofs.Registry.Purged
import Lodging.Proofs.Registry.Deletion
import Lodging.Proofs.Journal
import Lodging.Proofs.Service.Course
import Lodging.Proofs.Override.Replay
import Lodging.Proofs.Override.Bulk
import Lodging.Proofs.Inventory.Writes
import Lodging.Proofs.Inventory.Calls
import Lodging.Proofs.Inventory.Counts
import Lodging.Proofs.Inventory.Replay
import Lodging.Proofs.Inventory.PartOfStay
import Lodging.Proofs.Reservation.Occupancy
import Lodging.Proofs.Inventory.Verdict
import Lodging.Proofs.Registry.Recheck
import Lodging.Proofs.Service.Outage
import Lodging.Proofs.Http.Outage
import Lodging.Proofs.Document.Canonical
import Lodging.Proofs.Document.Record
import Lodging.Proofs.Rule.Decode
import Lodging.Proofs.Rule.RoundTrip
import Lodging.Proofs.Rule.Replay
import Lodging.Proofs.Rule.Discount
import Lodging.Proofs.Rule.Sign
import Lodging.Proofs.Rule.Growth
import Lodging.Proofs.Rule.Weekday
import Lodging.Proofs.Quote.Failures
import Lodging.Proofs.Calendar.Civil
import Lodging.Proofs.Calendar.DateText
import Lodging.Proofs.Calendar.Weekday
import Lodging.Proofs.Text.Scanner
import Lodging.Proofs.Reservation.Workflow
import Lodging.Proofs.Quote.SplitStay
import Lodging.Proofs.Document.Sent
import Lodging.Proofs.RatePlan.Patch
import Lodging.Proofs.Registry.Revision
