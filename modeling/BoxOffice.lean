import BoxOffice.Configuration
import BoxOffice.Gateway.Remote
import BoxOffice.Ledger.Database
import BoxOffice.Rehearsal
import BoxOffice.Relay
import BoxOffice.Proofs.Ledger.Attempt
import BoxOffice.Proofs.Ledger.Tickets
import BoxOffice.Proofs.Timetable
import BoxOffice.Proofs.Concourse.Basic
import BoxOffice.Proofs.Ledger.Effect
import BoxOffice.Proofs.Ledger.Deed
import BoxOffice.Proofs.Concourse.Move
import BoxOffice.Proofs.Concourse.Course
import BoxOffice.Proofs.Concourse.Scene
import BoxOffice.Proofs.Concourse.Custody
import BoxOffice.Proofs.Concourse.Order
import BoxOffice.Proofs.Concourse.Consumption
import BoxOffice.Proofs.Concourse.Timers
import BoxOffice.Proofs.Concourse.Chronicle
import BoxOffice.Proofs.Ledger.Account
import BoxOffice.Proofs.Ledger.Returns
import BoxOffice.Proofs.Concourse.Redemption
import BoxOffice.Proofs.Concourse.Sales
import BoxOffice.Proofs.Concourse.Finality
import BoxOffice.Proofs.Engine.Rest
import BoxOffice.Proofs.Engine.Service
import BoxOffice.Proofs.Engine.Season
import BoxOffice.Proofs.Ledger.Undo
import BoxOffice.Proofs.Ledger.Amendment
import BoxOffice.Proofs.Engine.Clearing
import BoxOffice.Proofs.Engine.Retry
import BoxOffice.Proofs.Engine.Agreement
import BoxOffice.Proofs.Engine.Idle
import BoxOffice.Proofs.Engine.Soundness
import BoxOffice.Proofs.Engine.Reach
import BoxOffice.Proofs.Engine.Receipts
import BoxOffice.Proofs.Engine.Failure
import BoxOffice.Proofs.Engine.Outcome
import BoxOffice.Proofs.Engine.Reversal
import BoxOffice.Proofs.Engine.Commutation
import BoxOffice.Proofs.Sql.Discipline
import BoxOffice.Proofs.Sql.Query
import BoxOffice.Proofs.Sql.Peer
import BoxOffice.Proofs.Engine.Discipline
import BoxOffice.Proofs.Price
import BoxOffice.Proofs.Ledger.Draft
import BoxOffice.Proofs.Ledger.Objection
import BoxOffice.Proofs.Engine.Bills
import BoxOffice.Proofs.Engine.Decision
import BoxOffice.Proofs.Engine.Purchase
import BoxOffice.Proofs.Engine.Billing
import BoxOffice.Proofs.Concourse.Mails
import BoxOffice.Proofs.Callback
import BoxOffice.Proofs.Json.Leaf
import BoxOffice.Proofs.Json.Record
import BoxOffice.Proofs.Notification
import BoxOffice.Proofs.Time.Calendar
import BoxOffice.Proofs.Time.Rfc3339
import BoxOffice.Proofs.Json.Arrangement
import BoxOffice.Proofs.Json.Free
import BoxOffice.Proofs.Forms
import BoxOffice.Proofs.Ledger.Discretion
import BoxOffice.Proofs.Disclosure
import BoxOffice.Proofs.Rehearsal
