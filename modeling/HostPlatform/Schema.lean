-- SUMMARY: The rows of the booking, payment and calendar tables, and the database they make up.
import HostPlatform.Lib.JsString
import HostPlatform.Lib.Table
import Mathlib.Order.ConditionallyCompleteLattice.Basic
import Mathlib.Data.Int.ConditionallyCompleteOrder

/-!
# Schema

One structure per table of `migrations/`, with the columns some modelled
function reads or returns. UUIDs are natural numbers. Amounts are integers in
minor currency units, `NUMERIC(5,4)` rates are integers in ten-thousandths.
Timestamps are milliseconds since the epoch and `DATE`s are days since the epoch.

`payments`, `booking_price_components` and `host_transfer_entitlements` have at
most one row per booking (`UNIQUE (booking_id)`), so their rows are keyed by the
booking: the surrogate `payments.id` is the booking id.
-/

namespace HostPlatform

open Lib (JsString Keyed Table)

abbrev PropertyId := Nat
abbrev UserId := Nat
abbrev HostId := Nat
abbrev BookingId := Nat
abbrev AttemptId := Nat
abbrev RefundId := Nat
abbrev PaymentIntentId := Nat
abbrev StripeRefundId := Nat
abbrev TransferId := Nat

def msPerDay : Int := 86400000
def msPerHour : Int := 3600000
def msPerMinute : Int := 60000

/-- Midnight UTC at the start of the day. -/
def startOfDay (d : Int) : Int := d * msPerDay

/-- `CURRENT_DATE` at the instant. -/
def currentDate (t : Int) : Int := t / msPerDay

/-! ## Enumerations -/

inductive BookingStatus where
  | draft | pendingPayment | confirmed | cancelled | completed | refunded | disputed
  deriving DecidableEq, Repr

/-- `pending_payment` and `confirmed`: the booking occupies its nights. -/
def BookingStatus.live : BookingStatus → Bool
  | .pendingPayment | .confirmed => true
  | _ => false

/-- The states a booking ends in. -/
def BookingStatus.terminal : BookingStatus → Bool
  | .cancelled | .refunded | .disputed | .completed => true
  | _ => false

inductive PayoutAccountStatus where
  | notConnected | pending | active | restricted
  deriving DecidableEq, Repr

inductive PaymentStatus where
  | pending | processing | paid | failed | refunded | partiallyRefunded | disputed
  deriving DecidableEq, Repr

/-- The payment statuses that prove money was received. -/
def PaymentStatus.received : PaymentStatus → Bool
  | .paid | .refunded | .partiallyRefunded | .disputed => true
  | _ => false

inductive RefundStatus where
  | pending | succeeded | failed
  deriving DecidableEq, Repr

inductive PayoutStatus where
  | scheduled | inTransit | paid | failed | cancelled
  deriving DecidableEq, Repr

inductive AttemptStatus where
  | pending | processing | succeeded | failed | requiresAction | cancelled
  deriving DecidableEq, Repr

inductive EntitlementStatus where
  | entitled | releaseDue | transferClaimed | transferCreated | transferFailed
  | cancelledBeforeTransfer
  deriving DecidableEq, Repr

inductive PaymentFlowVersion where
  | destinationChargeLegacy | separateChargesDelayedV1
  deriving DecidableEq, Repr

inductive TaxTreatment where
  | hostRemits | platformRemits | unconfigured
  deriving DecidableEq, Repr

inductive PropertyStatus where
  | draft | published | paused
  deriving DecidableEq, Repr

inductive ComplianceStatus where
  | notStarted | inProgress | submitted | changesRequired | approved | expired
  deriving DecidableEq, Repr

inductive Applicability where
  | required | notApplicable
  deriving DecidableEq, Repr

inductive AvailabilityStatus where
  | available | blocked | booked
  deriving DecidableEq, Repr

inductive AvailabilitySource where
  | host | booking | icalSync
  deriving DecidableEq, Repr

inductive SyncStatus where
  | never | running | success | error
  deriving DecidableEq, Repr

inductive LedgerType where
  | guestCharge | accommodationRevenue | cleaningFee | guestServiceFee | taxes
  | hostCommission | hostRevenue | hostPayout | refund | adjustment
  deriving DecidableEq, Repr

inductive LedgerStatus where
  | pending | paid | failed | reversed | cancelled
  deriving DecidableEq, Repr

/-- A Stripe object id: payment intents and refunds have ids of different kinds. -/
inductive ExternalReference where
  | paymentIntent (id : PaymentIntentId)
  | refund (id : StripeRefundId)
  deriving DecidableEq, Repr

inductive RefundReason where
  | guestCancellation | hostCancellation | adminGoodwill | dispute | pricingError
  deriving DecidableEq, Repr

inductive Actor where
  | guest | host | admin | system
  deriving DecidableEq, Repr

/-! ## Rows -/

structure CancellationTier where
  cutoffHours : Int
  refundPercent : Int
  deriving DecidableEq, Repr

structure CancellationPolicyRow where
  id : Nat
  rules : List CancellationTier
  deriving Repr

structure ComplianceItem where
  applicability : Applicability
  validUntil : Option Int
  deriving Repr

structure Property where
  id : PropertyId
  hostId : HostId
  status : PropertyStatus
  complianceStatus : ComplianceStatus
  complianceItems : List ComplianceItem
  currency : String
  nightlyPrice : Option Int
  cleaningFee : Int
  accommodationVatRate : Option Int
  cleaningVatRate : Option Int
  maxGuests : Int
  minStayNights : Int
  maxStayNights : Int
  cancellationPolicyId : Option Nat
  deriving Repr

structure HostProfile where
  id : HostId
  stripeConnectAccountId : Option Nat
  payoutAccountStatus : PayoutAccountStatus
  deriving Repr

structure FeeConfig where
  version : String
  guestServiceFeeRate : Int
  hostCommissionRate : Int
  taxRate : Int
  effectiveFrom : Int
  active : Bool
  deriving Repr

structure AvailabilityBlock where
  status : AvailabilityStatus
  source : AvailabilitySource
  deriving DecidableEq, Repr

structure Booking where
  id : BookingId
  propertyId : PropertyId
  guestId : UserId
  hostId : HostId
  checkIn : Int
  checkOut : Int
  guests : Int
  status : BookingStatus
  cancellationPolicySnapshot : List CancellationTier
  idempotencyKey : String
  holdExpiresAt : Option Int
  guestName : String
  guestEmail : String
  guestPhone : Option String
  paymentFlowVersion : PaymentFlowVersion
  taxTreatment : TaxTreatment
  scheduledChargeDate : Option Int
  stripeCustomerId : Option Nat
  stripeSetupIntentId : Option Nat
  stripePaymentMethodId : Option Nat
  gracePeriodStartedAt : Option Int
  nextRetryAt : Option Int
  archivedAt : Option Int
  deriving DecidableEq, Repr

structure PriceComponents where
  bookingId : BookingId
  currency : String
  accommodationMinor : Int
  cleaningMinor : Int
  guestServiceFeeMinor : Int
  taxesMinor : Int
  guestTotalMinor : Int
  hostCommissionMinor : Int
  hostPayoutMinor : Int
  hostRevenueMinor : Int
  feeConfigVersion : String
  deriving DecidableEq, Repr

structure Payment where
  bookingId : BookingId
  providerPaymentIntentId : Option PaymentIntentId
  status : PaymentStatus
  amountMinor : Int
  currency : String
  failureCode : Option String
  failureMessage : Option String
  deriving DecidableEq, Repr

structure Refund where
  id : RefundId
  bookingId : BookingId
  paymentId : BookingId
  providerRefundId : Option StripeRefundId
  amountMinor : Int
  currency : String
  reason : RefundReason
  initiatedBy : Actor
  status : RefundStatus
  deriving DecidableEq, Repr

structure Payout where
  id : Nat
  hostId : HostId
  bookingId : BookingId
  amountMinor : Int
  currency : String
  status : PayoutStatus
  scheduledReleaseAt : Int
  deriving DecidableEq, Repr

structure LedgerEntry where
  bookingId : BookingId
  propertyId : PropertyId
  hostId : HostId
  type : LedgerType
  amountMinor : Int
  currency : String
  status : LedgerStatus
  externalReference : ExternalReference
  deriving DecidableEq, Repr

structure Dispute where
  bookingId : BookingId
  paymentId : BookingId
  providerDisputeId : Nat
  reason : String
  status : String
  amountMinor : Int
  evidenceDueBy : Option Int
  deriving DecidableEq, Repr

/-- `sha256("payment-attempt:<booking>:<number>")`, taken as collision free. -/
structure AttemptKey where
  bookingId : BookingId
  attemptNumber : Nat
  deriving DecidableEq, Repr

structure PaymentAttempt where
  id : AttemptId
  bookingId : BookingId
  attemptNumber : Nat
  providerPaymentIntentId : Option PaymentIntentId
  status : AttemptStatus
  failureCode : Option String
  failureMessage : Option String
  amountMinor : Int
  currency : String
  idempotencyKey : AttemptKey
  claimToken : Option Nat
  leaseExpiresAt : Option Int
  deriving DecidableEq, Repr

structure Entitlement where
  bookingId : BookingId
  hostId : HostId
  amountMinor : Int
  taxAmountMinor : Option Int
  currency : String
  status : EntitlementStatus
  scheduledReleaseAt : Int
  providerTransferId : Option TransferId
  deriving DecidableEq, Repr

structure CalendarFeed where
  id : Nat
  propertyId : PropertyId
  name : JsString
  feedUrl : JsString
  isActive : Bool
  lastSyncStatus : SyncStatus
  lastError : Option JsString
  remoteEtag : Option JsString
  remoteLastModified : Option JsString
  deriving DecidableEq, Repr

structure CalendarEvent where
  feedId : Nat
  eventKey : JsString
  externalUid : JsString
  startsOn : Int
  endsOn : Int
  summary : Option JsString
  deriving DecidableEq, Repr

instance : Keyed Property := ⟨Property.id⟩
instance : Keyed HostProfile := ⟨HostProfile.id⟩
instance : Keyed CancellationPolicyRow := ⟨CancellationPolicyRow.id⟩
instance : Keyed Booking := ⟨Booking.id⟩
instance : Keyed PriceComponents := ⟨PriceComponents.bookingId⟩
instance : Keyed Payment := ⟨Payment.bookingId⟩
instance : Keyed Refund := ⟨Refund.id⟩
instance : Keyed Payout := ⟨Payout.id⟩
instance : Keyed PaymentAttempt := ⟨PaymentAttempt.id⟩
instance : Keyed Entitlement := ⟨Entitlement.bookingId⟩
instance : Keyed CalendarFeed := ⟨CalendarFeed.id⟩

/-! ## The database -/

/-- The tables. `availability_blocks` has at most one row per property and
date (`UNIQUE (property_id, date)`), so it is a partial function. -/
structure Db where
  properties : Table Property
  hostProfiles : Table HostProfile
  cancellationPolicies : Table CancellationPolicyRow
  feeConfigs : List FeeConfig
  availability : PropertyId → Int → Option AvailabilityBlock
  bookings : Table Booking
  priceComponents : Table PriceComponents
  payments : Table Payment
  refunds : Table Refund
  payouts : Table Payout
  ledgerEntries : List LedgerEntry
  disputes : List Dispute
  paymentAttempts : Table PaymentAttempt
  entitlements : Table Entitlement
  calendarFeeds : Table CalendarFeed
  calendarEvents : List CalendarEvent

/-- `BookingError`, and the plain `Error`s of the same functions under the
code `"ERROR"`. -/
structure BookingError where
  code : String
  message : String
  deriving DecidableEq, Repr

def uniqueViolation : BookingError :=
  ⟨"23505", "duplicate key value violates unique constraint"⟩

/-- The nights of the booking: `[check_in, check_out)`. -/
def Booking.nights (b : Booking) : Set Int := Set.Ico b.checkIn b.checkOut

/-- The columns no statement of the program updates. -/
structure Booking.SameStay (r r' : Booking) : Prop where
  id : r'.id = r.id
  propertyId : r'.propertyId = r.propertyId
  guestId : r'.guestId = r.guestId
  hostId : r'.hostId = r.hostId
  checkIn : r'.checkIn = r.checkIn
  checkOut : r'.checkOut = r.checkOut
  policy : r'.cancellationPolicySnapshot = r.cancellationPolicySnapshot
  paymentFlowVersion : r'.paymentFlowVersion = r.paymentFlowVersion

@[refl] theorem Booking.SameStay.refl (r : Booking) : r.SameStay r := by
  constructor <;> rfl

theorem Booking.SameStay.trans {r r' r'' : Booking} (h : r.SameStay r') (h' : r'.SameStay r'') :
    r.SameStay r'' where
  id := h'.id.trans h.id
  propertyId := h'.propertyId.trans h.propertyId
  guestId := h'.guestId.trans h.guestId
  hostId := h'.hostId.trans h.hostId
  checkIn := h'.checkIn.trans h.checkIn
  checkOut := h'.checkOut.trans h.checkOut
  policy := h'.policy.trans h.policy
  paymentFlowVersion := h'.paymentFlowVersion.trans h.paymentFlowVersion

theorem Booking.SameStay.nights {r r' : Booking} (h : r.SameStay r') : r'.nights = r.nights := by
  unfold Booking.nights
  rw [h.checkIn, h.checkOut]

/-- A row whose stay and status are kept: only other columns were written. -/
def Booking.SameStatus (r r' : Booking) : Prop := r.SameStay r' ∧ r'.status = r.status

@[refl] theorem Booking.SameStatus.refl (r : Booking) : r.SameStatus r := ⟨.refl r, rfl⟩

theorem Booking.SameStatus.trans {r r' r'' : Booking} (h : r.SameStatus r') (h' : r'.SameStatus r'') :
    r.SameStatus r'' := ⟨h.1.trans h'.1, h'.2.trans h.2⟩

/-- The calendar row a booking writes on each of its nights. -/
def bookedBlock : AvailabilityBlock := ⟨.booked, .booking⟩

namespace Db

/-- The status column of a booking. -/
def statusOf (db : Db) (b : BookingId) : Option BookingStatus :=
  (db.bookings.find? b).map Booking.status

/-- `UPDATE bookings SET status = $2 WHERE id = $1`. -/
def setBookingStatus (db : Db) (b : BookingId) (st : BookingStatus) : Db :=
  { db with bookings := db.bookings.modify b fun r => { r with status := st } }

theorem isSome_setBookingStatus (db : Db) (b : BookingId) (st : BookingStatus) (b' : BookingId) :
    ((db.setBookingStatus b st).bookings.find? b').isSome = (db.bookings.find? b').isSome := by
  unfold setBookingStatus
  rw [Table.find?_modify]
  split
  · rename_i hb
    rw [Option.isSome_map, hb]
  · rfl

theorem statusOf_setBookingStatus (db : Db) (b : BookingId) (st : BookingStatus) (b' : BookingId) :
    (db.setBookingStatus b st).statusOf b' =
      if b' = b then (db.statusOf b).map fun _ => st else db.statusOf b' := by
  unfold statusOf setBookingStatus
  rw [Table.find?_modify]
  split <;> simp [Function.comp_def]

end Db

end HostPlatform
