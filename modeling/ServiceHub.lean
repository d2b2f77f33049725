import ServiceHub.Txn.Prog
import ServiceHub.Txn.Store
import ServiceHub.Txn.Hoare
import ServiceHub.Txn.ReadCommitted
import ServiceHub.Txn.Exclusion
import ServiceHub.Data.Json
import ServiceHub.Data.Table
import ServiceHub.Data.Calendar
import ServiceHub.Schema
import ServiceHub.StateMachines
import ServiceHub.Database
import ServiceHub.Runtime
import ServiceHub.Repositories
import ServiceHub.Booking.Service
import ServiceHub.Booking.Hours
import ServiceHub.Payment.Service
import ServiceHub.Operations
import ServiceHub.Changes
import ServiceHub.Booking.Spec
import ServiceHub.Payment.Spec
import ServiceHub.Ledger
import ServiceHub.Refinement
import ServiceHub.LifeCycle
import ServiceHub.Agreement
import ServiceHub.Capture
import ServiceHub.Programs
import ServiceHub.Interleaving
import ServiceHub.Absorbing
import ServiceHub.Refunds
import ServiceHub.Overlap
import ServiceHub.Txn.History
import ServiceHub.Txn.Once
import ServiceHub.Writes
import ServiceHub.Workers
import ServiceHub.Deliveries
import ServiceHub.Confirming
import ServiceHub.Accounts.Database
import ServiceHub.Accounts.AdminUsers
import ServiceHub.Reviews.Service
import ServiceHub.Reviews.Ratings
import ServiceHub.Schedules.Service
import ServiceHub.Schedules.Validation
import ServiceHub.Schedules.Replace
import ServiceHub.Data.Cache
import ServiceHub.Txn.Handler
import ServiceHub.Catalog.Service
import ServiceHub.Catalog.Transparency
import ServiceHub.Data.Journal
import ServiceHub.Trail
import ServiceHub.LiveOrders
import ServiceHub.Deadlock
import ServiceHub.Buffers
import ServiceHub.Integrity
import ServiceHub.Replay
import ServiceHub.Acknowledged
import ServiceHub.Txn.Embed
import ServiceHub.Providers.Store
import ServiceHub.Providers.Service
import ServiceHub.Txn.Alone
import ServiceHub.Providers.Requests
import ServiceHub.Catalog.Effects
import ServiceHub.Providers.Hierarchy
import ServiceHub.Providers.SearchVersion
import ServiceHub.Providers.ProfileCache
import ServiceHub.Txn.Alike
import ServiceHub.Booking.Records
import ServiceHub.Privacy
import ServiceHub.Providers.Shown
import ServiceHub.Providers.Invalidation
import ServiceHub.Schedules.Slots
import ServiceHub.Schedules.SlotOrder
import ServiceHub.Jobs.Service
import ServiceHub.Booking.Shifts
import ServiceHub.Appointments
import ServiceHub.QueueCalls
import ServiceHub.AllOrNothing
import ServiceHub.FollowUps
import ServiceHub.Jobs.Scheduling
import ServiceHub.Jobs.Delivery
import ServiceHub.Jobs.Suppression
import ServiceHub.Bookable
import ServiceHub.Payment.Currency
import ServiceHub.Catalog.Slugs
import ServiceHub.Data.UrlEncoded
import ServiceHub.Providers.SearchKeys
import ServiceHub.Data.PosixPath
import ServiceHub.Storage.LocalStorage
import ServiceHub.Data.Text
import ServiceHub.Logging.Bearer
import ServiceHub.Logging.Sanitizer
import ServiceHub.Providers.Patches
import ServiceHub.Data.Pages
import ServiceHub.Providers.PricePages
import ServiceHub.Notifications.Reading
import ServiceHub.AdminActions
import ServiceHub.SettledOnce
import ServiceHub.Txn.Later
import ServiceHub.Txn.Origins
import ServiceHub.QueueOrder
import ServiceHub.Reservations
import ServiceHub.Authority
import ServiceHub.Stamps
import ServiceHub.Prices
import ServiceHub.Txn.Serial
import ServiceHub.Sequences
import ServiceHub.Reviews.Genuine
import ServiceHub.Data.Base64Url
import ServiceHub.Accounts.AuthService
import ServiceHub.Accounts.Sessions
import ServiceHub.Accounts.Requests
import ServiceHub.Accounts.Users
import ServiceHub.Accounts.Credentials
import ServiceHub.Offered
import ServiceHub.Isolation
import ServiceHub.Providers.Authority
import ServiceHub.Providers.Uniqueness
import ServiceHub.Storage.Uploads
import ServiceHub.Providers.Documents
