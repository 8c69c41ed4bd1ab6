import HostPlatform.Lib.Table
import HostPlatform.Lib.Transition
import HostPlatform.Lib.Rounding
import HostPlatform.Lib.Double
import HostPlatform.Lib.Outcome
import HostPlatform.Lib.Session
import HostPlatform.Lib.Reservation
import HostPlatform.Lib.JsString
import HostPlatform.Lib.Dictionary
import HostPlatform.Lib.Pattern
import HostPlatform.Lib.Deletions
import HostPlatform.Lib.Replacement
import HostPlatform.Lib.Contraction
import HostPlatform.Lib.Locks
import HostPlatform.Lib.PendingWrites
import HostPlatform.Lib.CivilDate
import HostPlatform.Schema
import HostPlatform.Stripe
import HostPlatform.Booking.PriceEngine
import HostPlatform.Booking.ExactPrice
import HostPlatform.Calendar.ICal
import HostPlatform.Calendar.CalendarExport
import HostPlatform.Calendar.ICalLines
import HostPlatform.Calendar.ExportedEvents
import HostPlatform.Calendar.CalendarSync
import HostPlatform.Calendar.SafeCalendarFetch
import HostPlatform.Calendar.SyncCalendarFeed
import HostPlatform.Hosts.HostAvailability
import HostPlatform.Hosts.Listing
import HostPlatform.Hosts.ListingReadiness
import HostPlatform.Compliance.PropertyCompliance
import HostPlatform.Compliance.ComplianceSchemas
import HostPlatform.Hosts.PropertyImages
import HostPlatform.Hosts.HostProperties
import HostPlatform.Payments.ScheduledCharges
import HostPlatform.Booking.ReleaseNights
import HostPlatform.Booking.CreateBooking
import HostPlatform.Search.PropertySearch
import HostPlatform.Payments.Refund
import HostPlatform.Booking.CancelBooking
import HostPlatform.Payments.RefundReversal
import HostPlatform.Payments.CreatePaymentIntent
import HostPlatform.Payments.PaymentAttempts
import HostPlatform.Payouts.HostTransfers
import HostPlatform.Payments.NewFlowWebhookHandling
import HostPlatform.Payments.WebhookHandler
import HostPlatform.Payments.StripeWebhook
import HostPlatform.Payouts.ReleasePayouts
import HostPlatform.Transactions
import HostPlatform.TransactionFrames
import HostPlatform.CalendarSyncs
import HostPlatform.BookingUpdates
import HostPlatform.BookingCalls
import HostPlatform.World
import HostPlatform.OnSession
import HostPlatform.WorldDb
import HostPlatform.PayoutSweeps
import HostPlatform.Transfers
import HostPlatform.WorldFrames
import HostPlatform.CheckoutSteps
import HostPlatform.PaymentLinks
import HostPlatform.ChargeSteps
import HostPlatform.ChargeLinks
import HostPlatform.AttemptSlots
import HostPlatform.RefundSteps
import HostPlatform.RefundLinks
import HostPlatform.WebhookState
import HostPlatform.Listings
import HostPlatform.ListingEdits
import HostPlatform.Safety.TerminalStates
import HostPlatform.Safety.NoDoubleBooking
import HostPlatform.Safety.ReleasedBooking
import HostPlatform.Safety.PaidBooking
import HostPlatform.Safety.LegacyCheckout
import HostPlatform.Safety.Settlement
import HostPlatform.Safety.CancelledPayout
import HostPlatform.Safety.NoDoubleCharge
import HostPlatform.Safety.HostEntitlement
import HostPlatform.Safety.HostTransferRecord
import HostPlatform.Safety.DeadBookingTransfer
import HostPlatform.Safety.RefundCap
import HostPlatform.Safety.RefundConfirmation
import HostPlatform.Safety.CumulativeReversal
import HostPlatform.Safety.LedgerBalance
import HostPlatform.Safety.PaymentStatus
import HostPlatform.Safety.Redelivery
import HostPlatform.Safety.MoneyBooked
import HostPlatform.Safety.CancellationRefund
import HostPlatform.Safety.GraceDeadline
import HostPlatform.Safety.AttemptDiscipline
import HostPlatform.Safety.OneRequest
import HostPlatform.Safety.ChargeTiming
import HostPlatform.Safety.ReviewedListing
import HostPlatform.Safety.CalendarAvailability
import HostPlatform.Safety.FailedSync
import HostPlatform.Safety.CacheValidators
import HostPlatform.Safety.BlockedAddress
import HostPlatform.Safety.IdempotentBooking
import HostPlatform.Safety.GuestIsolation
import HostPlatform.Market
import HostPlatform.Search.PropertyRoutes
import HostPlatform.Safety.SearchBooking
import HostPlatform.Safety.ExportImport
import HostPlatform.Migrations.SchemaSnapshot
import HostPlatform.Migrations.NormalForm
import HostPlatform.Migrations.StringLiterals
import HostPlatform.Safety.ManifestCheck
import HostPlatform.Safety.DefinitionForms
import HostPlatform.Migrations.SplitSqlStatements
import HostPlatform.Migrations.PostgresLexer
import HostPlatform.Migrations.StatementPieces
import HostPlatform.Safety.NothingLost
import HostPlatform.Migrations.TokenReading
import HostPlatform.Safety.ExactCuts
import HostPlatform.Migrations.Migrate
import HostPlatform.Safety.MigrationLedger
import HostPlatform.Reviews.CreateReview
import HostPlatform.Reviews.ReviewCalls
import HostPlatform.Safety.Ratings
import HostPlatform.Auth.Credentials
import HostPlatform.Auth.CredentialCalls
import HostPlatform.Safety.SingleUse
import HostPlatform.Safety.PasswordChange
import HostPlatform.Safety.CancellationBounds
import HostPlatform.Lib.DateOrder
import HostPlatform.Calendar.GroupDates
import HostPlatform.Safety.DateGroups
import HostPlatform.Calendar.EventBlocks
import HostPlatform.Lib.Surrogates
import HostPlatform.Calendar.StoredTexts
import HostPlatform.Safety.ExactEvents
import HostPlatform.Calendar.EscapedTexts
import HostPlatform.Safety.UidTexts
import HostPlatform.Calendar.JoinedLines
import HostPlatform.Safety.FoldedLines
import HostPlatform.Safety.NestedComponents
import HostPlatform.Safety.QuotedParameters
import HostPlatform.Calendar.AddressForms
import HostPlatform.Safety.AddressClassification
import HostPlatform.Safety.QuotedRetention
import HostPlatform.Safety.SettledCalendar
import HostPlatform.Safety.HostBlocks
import HostPlatform.Safety.UndoneBooking
import HostPlatform.Auth.PasswordLogin
import HostPlatform.Safety.LoginLockout
import HostPlatform.Messaging.Conversations
import HostPlatform.Safety.ReadMarks
import HostPlatform.Messaging.ConversationCalls
import HostPlatform.Safety.MessageDelivery
import HostPlatform.Payouts.TransferReversal
import HostPlatform.TransferReversals
import HostPlatform.Safety.ReversalRecord
import HostPlatform.Safety.StayLimits
import HostPlatform.Hosts.ListingSaves
import HostPlatform.Safety.AllOrNothing
import HostPlatform.Safety.Gallery
import HostPlatform.Safety.ComplianceApproval
import HostPlatform.Safety.HiddenAvailability
import HostPlatform.Booking.TripHistory
import HostPlatform.DelayedStatus
import HostPlatform.Safety.GuestStatus
import HostPlatform.RetrySchedule
import HostPlatform.Payments.SetupIntentFlow
import HostPlatform.CardSetups
import HostPlatform.Safety.RetryReopening
import HostPlatform.MoneyUnderWay
import HostPlatform.Privacy.Accounts
import HostPlatform.Privacy.Retention
import HostPlatform.AccountDeletions
import HostPlatform.DeletionWrites
import HostPlatform.Safety.DeletedAccounts
import HostPlatform.Lib.OldestFirst
import HostPlatform.FeedSweeps
import HostPlatform.FeedCalls
import HostPlatform.Safety.FeedFairness
import HostPlatform.Calendar.PublishedCalendar
import HostPlatform.Calendar.ExportSize
import HostPlatform.Safety.ExportTokens
import HostPlatform.Safety.PublishedCalendar
import HostPlatform.Auth.Passkeys
import HostPlatform.Safety.PasskeyCeremonies
import HostPlatform.Safety.SignInMethods
import HostPlatform.Lib.FixedWindow
import HostPlatform.Middleware
import HostPlatform.Safety.RateLimits
import HostPlatform.Lib.Outbox
import HostPlatform.Messaging.Notifications
import HostPlatform.Safety.NotificationDelivery
import HostPlatform.Safety.CheckinReminders
import HostPlatform.Booking.TripArchive
import HostPlatform.Safety.TripArchive
import HostPlatform.Hosts.Onboarding
import HostPlatform.Safety.ConnectedAccounts
import HostPlatform.Safety.PayoutReadiness
import HostPlatform.Booking.HoldSweeps
import HostPlatform.Safety.HoldFairness
