-- SUMMARY: What a guest and a host are told about a booking and its payment (`scheduledCharges.ts`, `tripHistory.ts`, `hostBookings.ts`).
import HostPlatform.Payments.ScheduledCharges

/-!
# Views of a booking

Two views of the guest and two of the host each read the rows of a booking with a query of their
own. Every booking has its property (a foreign key), so the inner joins with `properties` drop no
row; the columns they add are left out.
-/

namespace HostPlatform

open Lib (Table)

/-! ## The payment status -/

inductive GuestPaymentStatus where
  | paymentMethodRequired | paymentMethodSaved | paymentScheduled | paymentAttempting
  | authenticationRequired | paymentFailed | paymentGracePeriod | paid | cancelledForNonpayment
  deriving DecidableEq, Repr

/-- The input of `deriveGuestPaymentStatus`. -/
structure GuestPaymentFacts where
  hasPaymentMethod : Bool
  scheduledChargeDate : Option Int
  latestAttemptStatus : Option AttemptStatus
  hasSucceeded : Bool
  gracePeriodExpiresAt : Option Int
  bookingCancelledForNonpayment : Bool
  deriving DecidableEq, Repr

def deriveGuestPaymentStatus (now : Int) (input : GuestPaymentFacts) : GuestPaymentStatus :=
  if input.bookingCancelledForNonpayment then .cancelledForNonpayment
  else if input.hasSucceeded then .paid
  else if input.latestAttemptStatus = some .requiresAction then .authenticationRequired
  else if input.latestAttemptStatus = some .failed then
    if input.gracePeriodExpiresAt.any fun t => decide (now < t) then .paymentGracePeriod
    else .paymentFailed
  else if input.latestAttemptStatus = some .processing then .paymentAttempting
  else if !input.hasPaymentMethod then .paymentMethodRequired
  else if input.scheduledChargeDate.any fun t => decide (now < t) then .paymentScheduled
  else .paymentMethodSaved

def gracePeriodExpiresAt (gracePeriodStartedAt : Option Int) : Option Int :=
  gracePeriodStartedAt.map fun t => t + gracePeriodHours * msPerHour

/-- The booking as the callers of `computeGuestPaymentStatus` pass it. -/
structure GuestPaymentBooking where
  paymentFlowVersion : PaymentFlowVersion
  hasPaymentMethod : Bool
  status : BookingStatus
  gracePeriodStartedAt : Option Int
  scheduledChargeDate : Option Int
  deriving DecidableEq, Repr

def computeGuestPaymentStatus (db : Db) (now : Int) (bookingId : BookingId)
    (booking : GuestPaymentBooking) : Option GuestPaymentStatus :=
  if booking.paymentFlowVersion ≠ .separateChargesDelayedV1 then none
  else
    let latestAttempt := db.latestAttempt bookingId
    some (deriveGuestPaymentStatus now
      { hasPaymentMethod := booking.hasPaymentMethod
        scheduledChargeDate := booking.scheduledChargeDate
        latestAttemptStatus := latestAttempt.map PaymentAttempt.status
        hasSucceeded := decide (booking.status = .confirmed)
        gracePeriodExpiresAt := gracePeriodExpiresAt booking.gracePeriodStartedAt
        bookingCancelledForNonpayment := decide (booking.status = .cancelled) && latestAttempt.isNone })

/-! ## The guest's views -/

/-- A row of the query of `listBookingsForGuest`. -/
structure TripRow where
  booking : Booking
  hasPaymentMethod : Bool
  priceComponents : Option PriceComponents
  paymentStatus : Option PaymentStatus
  latestAttemptStatus : Option AttemptStatus

structure TripView where
  id : BookingId
  propertyId : PropertyId
  checkIn : Int
  checkOut : Int
  guests : Int
  status : BookingStatus
  paymentStatus : Option PaymentStatus
  paymentFlowVersion : PaymentFlowVersion
  guestPaymentStatus : Option GuestPaymentStatus
  totalMinor : Option Int
  currency : Option String
  archived : Bool
  deriving DecidableEq, Repr

def tripRow (db : Db) (b : Booking) : TripRow where
  booking := b
  hasPaymentMethod := b.stripePaymentMethodId.isSome
  priceComponents := db.priceComponents.find? b.id
  paymentStatus := (db.payments.find? b.id).map Payment.status
  latestAttemptStatus := (db.latestAttempt b.id).map PaymentAttempt.status

def mapTripRow (now : Int) (row : TripRow) : TripView :=
  let isNewFlow := row.booking.paymentFlowVersion = .separateChargesDelayedV1
  { id := row.booking.id
    propertyId := row.booking.propertyId
    checkIn := row.booking.checkIn
    checkOut := row.booking.checkOut
    guests := row.booking.guests
    status := row.booking.status
    paymentStatus := row.paymentStatus
    paymentFlowVersion := row.booking.paymentFlowVersion
    guestPaymentStatus :=
      if isNewFlow then
        some (deriveGuestPaymentStatus now
          { hasPaymentMethod := row.hasPaymentMethod
            scheduledChargeDate := row.booking.scheduledChargeDate
            latestAttemptStatus := row.latestAttemptStatus
            hasSucceeded := decide (row.booking.status = .confirmed)
            gracePeriodExpiresAt := gracePeriodExpiresAt row.booking.gracePeriodStartedAt
            bookingCancelledForNonpayment :=
              decide (row.booking.status = .cancelled) && row.latestAttemptStatus.isNone })
      else none
    totalMinor := row.priceComponents.map PriceComponents.guestTotalMinor
    currency := row.priceComponents.map PriceComponents.currency
    archived := row.booking.archivedAt.isSome }

/-- `ORDER BY b.check_in DESC`. -/
def byCheckIn (rows : List Booking) : List Booking :=
  rows.mergeSort fun a b => decide (b.checkIn ≤ a.checkIn)

def listBookingsForGuest (db : Db) (now : Int) (guestId : UserId) (includeArchived : Bool) : List TripView :=
  let rows := db.bookings.select fun b =>
    decide (b.guestId = guestId) && (includeArchived || b.archivedAt.isNone)
  (byCheckIn rows).map fun b => mapTripRow now (tripRow db b)

structure PaymentRecovery where
  failureCode : Option String
  failureMessage : Option String
  nextRetryAt : Option Int
  gracePeriodExpiresAt : Option Int
  deriving DecidableEq, Repr

structure RefundView where
  amountMinor : Int
  currency : String
  reason : RefundReason
  status : RefundStatus
  deriving DecidableEq, Repr

structure BookingDetail where
  id : BookingId
  propertyId : PropertyId
  paymentFlowVersion : PaymentFlowVersion
  scheduledChargeDate : Option Int
  guestPaymentStatus : Option GuestPaymentStatus
  paymentRecovery : Option PaymentRecovery
  checkIn : Int
  checkOut : Int
  guests : Int
  status : BookingStatus
  paymentStatus : Option PaymentStatus
  breakdown : Option PriceComponents
  cancellationPolicyTiers : List CancellationTier
  archived : Bool
  refunds : List RefundView
  deriving DecidableEq, Repr

/-- The refunds are those its caller adds. -/
def mapDetailRow (db : Db) (now : Int) (row : Booking) (latestAttempt : Option PaymentAttempt)
    (refunds : List RefundView) : BookingDetail :=
  let isNewFlow := row.paymentFlowVersion = .separateChargesDelayedV1
  let scheduledChargeDate := if isNewFlow then row.scheduledChargeDate else none
  let graceExpiresAt := gracePeriodExpiresAt row.gracePeriodStartedAt
  { id := row.id
    propertyId := row.propertyId
    paymentFlowVersion := row.paymentFlowVersion
    scheduledChargeDate := scheduledChargeDate
    guestPaymentStatus :=
      if isNewFlow then
        some (deriveGuestPaymentStatus now
          { hasPaymentMethod := row.stripePaymentMethodId.isSome
            scheduledChargeDate := scheduledChargeDate
            latestAttemptStatus := latestAttempt.map PaymentAttempt.status
            hasSucceeded := decide (row.status = .confirmed)
            gracePeriodExpiresAt := graceExpiresAt
            bookingCancelledForNonpayment := decide (row.status = .cancelled) && latestAttempt.isNone })
      else none
    paymentRecovery :=
      (latestAttempt.filter fun a => isNewFlow && decide (a.status = .failed) &&
        row.gracePeriodStartedAt.isSome).map fun a =>
          { failureCode := a.failureCode
            failureMessage := a.failureMessage
            nextRetryAt := row.nextRetryAt
            gracePeriodExpiresAt := graceExpiresAt }
    checkIn := row.checkIn
    checkOut := row.checkOut
    guests := row.guests
    status := row.status
    paymentStatus := (db.payments.find? row.id).map Payment.status
    breakdown := db.priceComponents.find? row.id
    cancellationPolicyTiers := row.cancellationPolicySnapshot
    archived := row.archivedAt.isSome
    refunds := refunds }

/-- The refunds of a booking, the newest first: ids grow with `created_at`. -/
def refundViews (db : Db) (bookingId : BookingId) : List RefundView :=
  (db.refunds.select fun r => r.bookingId == bookingId).reverse.map fun r =>
    ⟨r.amountMinor, r.currency, r.reason, r.status⟩

def getBookingDetail (db : Db) (now : Int) (bookingId : BookingId) : Except BookingError BookingDetail :=
  match db.bookings.find? bookingId with
  | none => .error ⟨"BOOKING_NOT_FOUND", "Booking does not exist"⟩
  | some row =>
    let latestAttempt :=
      if row.paymentFlowVersion = .separateChargesDelayedV1 then db.latestAttempt bookingId else none
    .ok (mapDetailRow db now row latestAttempt (refundViews db bookingId))

/-! ## The host's views -/

/-- What both views of the host pass to `computeGuestPaymentStatus`. -/
def hostPaymentBooking (row : Booking) : GuestPaymentBooking where
  paymentFlowVersion := row.paymentFlowVersion
  hasPaymentMethod := row.stripePaymentMethodId.isSome
  status := row.status
  gracePeriodStartedAt := row.gracePeriodStartedAt
  scheduledChargeDate := row.scheduledChargeDate

structure HostTripView where
  id : BookingId
  propertyId : PropertyId
  checkIn : Int
  checkOut : Int
  guests : Int
  guestName : String
  status : BookingStatus
  paymentFlowVersion : PaymentFlowVersion
  paymentStatus : Option PaymentStatus
  guestPaymentStatus : Option GuestPaymentStatus
  totalMinor : Option Int
  currency : Option String
  deriving DecidableEq, Repr

def hostTripView (db : Db) (now : Int) (row : Booking) : HostTripView where
  id := row.id
  propertyId := row.propertyId
  checkIn := row.checkIn
  checkOut := row.checkOut
  guests := row.guests
  guestName := row.guestName
  status := row.status
  paymentFlowVersion := row.paymentFlowVersion
  paymentStatus := (db.payments.find? row.id).map Payment.status
  guestPaymentStatus := computeGuestPaymentStatus db now row.id (hostPaymentBooking row)
  totalMinor := (db.priceComponents.find? row.id).map PriceComponents.guestTotalMinor
  currency := (db.priceComponents.find? row.id).map PriceComponents.currency

def listBookingsForHost (db : Db) (now : Int) (hostProfileId : HostId) : List HostTripView :=
  (byCheckIn (db.bookings.select fun b => decide (b.hostId = hostProfileId))).map (hostTripView db now)

structure HostBookingDetail where
  id : BookingId
  propertyId : PropertyId
  checkIn : Int
  checkOut : Int
  guests : Int
  guestName : String
  guestEmail : String
  status : BookingStatus
  paymentFlowVersion : PaymentFlowVersion
  paymentStatus : Option PaymentStatus
  guestPaymentStatus : Option GuestPaymentStatus
  payoutStatus : Option PayoutStatus
  entitlementStatus : Option EntitlementStatus
  breakdown : Option PriceComponents
  deriving DecidableEq, Repr

def getHostBookingDetail (db : Db) (now : Int) (bookingId : BookingId) : Option HostBookingDetail :=
  (db.bookings.find? bookingId).map fun row =>
    { id := row.id
      propertyId := row.propertyId
      checkIn := row.checkIn
      checkOut := row.checkOut
      guests := row.guests
      guestName := row.guestName
      guestEmail := row.guestEmail
      status := row.status
      paymentFlowVersion := row.paymentFlowVersion
      paymentStatus := (db.payments.find? row.id).map Payment.status
      guestPaymentStatus := computeGuestPaymentStatus db now row.id (hostPaymentBooking row)
      payoutStatus := (db.payouts.rows.find? fun p => p.bookingId == row.id).map Payout.status
      entitlementStatus := (db.entitlements.find? row.id).map Entitlement.status
      breakdown := db.priceComponents.find? row.id }

/-! ## One status -/

section

variable {db : Db} {now : Int} {row : Booking}

/-- The guest's list derives what the host's views compute. -/
theorem guestPaymentStatus_mapTripRow :
    (mapTripRow now (tripRow db row)).guestPaymentStatus =
      computeGuestPaymentStatus db now row.id (hostPaymentBooking row) := by
  unfold mapTripRow computeGuestPaymentStatus
  simp only [tripRow, hostPaymentBooking, Option.isNone_map]
  by_cases hflow : row.paymentFlowVersion = .separateChargesDelayedV1
  · simp [hflow]
    rfl
  · simp [hflow]

theorem guestPaymentStatus_getBookingDetail (hrow : db.bookings.find? row.id = some row) :
    (getBookingDetail db now row.id).map BookingDetail.guestPaymentStatus =
      .ok (computeGuestPaymentStatus db now row.id (hostPaymentBooking row)) := by
  unfold getBookingDetail computeGuestPaymentStatus
  rw [hrow]
  simp only [Except.map, mapDetailRow, hostPaymentBooking]
  by_cases hflow : row.paymentFlowVersion = .separateChargesDelayedV1
  · simp [hflow]
    rfl
  · simp [hflow]

end

end HostPlatform
