-- SUMMARY: Placing a booking on free nights, and expiring its hold (`createBooking.ts`).
import HostPlatform.Lib.Outcome
import HostPlatform.Booking.PriceEngine
import HostPlatform.Booking.ReleaseNights
import HostPlatform.Hosts.HostAvailability
import HostPlatform.Payments.ScheduledCharges

/-!
# Creating a booking

`createBooking` is one transaction under the advisory lock of the property: it
either commits the calendar rows, the booking and its price components together,
or leaves the database as it was.
-/

namespace HostPlatform

open Lib (require)

structure CreateBookingInput where
  propertyId : PropertyId
  guestId : UserId
  checkIn : Int
  checkOut : Int
  guests : Int
  guestName : String
  guestEmail : String
  guestPhone : Option String
  idempotencyKey : String

/-- The columns `mapBookingRow` returns. -/
structure BookingView where
  id : BookingId
  propertyId : PropertyId
  guestId : UserId
  hostId : HostId
  checkIn : Int
  checkOut : Int
  guests : Int
  status : BookingStatus
  holdExpiresAt : Option Int
  guestName : String
  guestEmail : String
  paymentFlowVersion : PaymentFlowVersion
  deriving DecidableEq, Repr

def mapBookingRow (row : Booking) : BookingView :=
  { id := row.id
    propertyId := row.propertyId
    guestId := row.guestId
    hostId := row.hostId
    checkIn := row.checkIn
    checkOut := row.checkOut
    guests := row.guests
    status := row.status
    holdExpiresAt := row.holdExpiresAt
    guestName := row.guestName
    guestEmail := row.guestEmail
    paymentFlowVersion := row.paymentFlowVersion }

/-- The answer of `createBooking`. A replayed idempotency key has no breakdown. -/
structure CreatedBooking where
  booking : BookingView
  breakdown : Option PriceBreakdown
  deriving DecidableEq, Repr

def holdMinutes : Int := 15

/-! ## Checks -/

def checkRequest (input : CreateBookingInput) : Except BookingError Unit := do
  require (0 < nightsBetween input.checkIn input.checkOut)
    ⟨"INVALID_DATE_RANGE", "check_out must be after check_in"⟩
  require (1 ≤ input.guests) ⟨"INVALID_GUESTS", "guests must be a positive integer"⟩

/-- `has_expired_evidence`: a required compliance item is past its validity. -/
def hasExpiredEvidence (p : Property) (today : Int) : Bool :=
  p.complianceItems.any fun item =>
    decide (item.applicability = .required) && item.validUntil.any fun d => decide (d < today)

/-- The property row, with every check made on it. -/
def bookableProperty (now : Int) (input : CreateBookingInput) (db : Db) :
    Except BookingError Property :=
  let nights := nightsBetween input.checkIn input.checkOut
  match db.properties.find? input.propertyId with
  | none => .error ⟨"PROPERTY_NOT_FOUND", "Property does not exist"⟩
  | some p => do
    require (p.status = .published ∧ p.complianceStatus = .approved
        ∧ hasExpiredEvidence p (currentDate now) = false)
      ⟨"PROPERTY_NOT_AVAILABLE", "Property is not currently available for booking"⟩
    require (input.guests ≤ p.maxGuests) ⟨"TOO_MANY_GUESTS", s!"Max {p.maxGuests} guests"⟩
    require (p.minStayNights ≤ nights)
      ⟨"BELOW_MIN_STAY", s!"Minimum stay is {p.minStayNights} nights"⟩
    require (nights ≤ p.maxStayNights)
      ⟨"ABOVE_MAX_STAY", s!"Maximum stay is {p.maxStayNights} nights"⟩
    return p

/-- The first night of the range whose row is not `available`. -/
def firstUnavailable (db : Db) (propertyId : PropertyId) (checkIn checkOut : Int) : Option Int :=
  (enumerateDates checkIn checkOut).find? fun d =>
    (db.availability propertyId d).any fun row => decide (row.status ≠ .available)

def checkCalendar (input : CreateBookingInput) (db : Db) : Except BookingError Unit :=
  match firstUnavailable db input.propertyId input.checkIn input.checkOut with
  | some date => .error ⟨"DATES_UNAVAILABLE", s!"{date} is not available"⟩
  | none => .ok ()

/-! ## Writes -/

/-- Upsert every night of the range to a booked row. -/
def reserveNights (db : Db) (propertyId : PropertyId) (checkIn checkOut : Int) : Db :=
  { db with
    availability := fun p d =>
      if p = propertyId ∧ checkIn ≤ d ∧ d < checkOut then some bookedBlock
      else db.availability p d }

def pricingColumns (p : Property) : PropertyForPricing :=
  { nightlyPriceMinor := p.nightlyPrice.getD 0
    cleaningFeeMinor := p.cleaningFee
    currency := p.currency
    accommodationVatRate := p.accommodationVatRate
    cleaningVatRate := p.cleaningVatRate }

def defaultPolicyRules : List CancellationTier := [⟨120, 100⟩, ⟨24, 50⟩, ⟨0, 0⟩]

/-- The rules of the property's policy, or the default ones. -/
def policyRules (db : Db) (p : Property) : List CancellationTier :=
  match p.cancellationPolicyId.bind db.cancellationPolicies.find? with
  | some policy => policy.rules
  | none => defaultPolicyRules

/-- The inserted row: a hold of fifteen minutes, and the payment flow for good. -/
def bookingRow (now : Int) (isDelayedFlow : Bool) (input : CreateBookingInput) (hostId : HostId)
    (rules : List CancellationTier) (id : BookingId) : Booking :=
  { id := id
    propertyId := input.propertyId
    guestId := input.guestId
    hostId := hostId
    checkIn := input.checkIn
    checkOut := input.checkOut
    guests := input.guests
    status := .pendingPayment
    cancellationPolicySnapshot := rules
    idempotencyKey := input.idempotencyKey
    holdExpiresAt := some (now + holdMinutes * msPerMinute)
    guestName := input.guestName
    guestEmail := input.guestEmail
    guestPhone := input.guestPhone
    paymentFlowVersion := if isDelayedFlow then .separateChargesDelayedV1 else .destinationChargeLegacy
    taxTreatment := .unconfigured
    scheduledChargeDate :=
      if isDelayedFlow then (decideChargeTiming input.checkIn now).scheduledChargeDate else none
    stripeCustomerId := none
    stripeSetupIntentId := none
    stripePaymentMethodId := none
    gracePeriodStartedAt := none
    nextRetryAt := none
    archivedAt := none }

def priceComponentsRow (breakdown : PriceBreakdown) (id : BookingId) : PriceComponents :=
  { bookingId := id
    currency := breakdown.currency
    accommodationMinor := breakdown.accommodationMinor
    cleaningMinor := breakdown.cleaningMinor
    guestServiceFeeMinor := breakdown.guestServiceFeeMinor
    taxesMinor := breakdown.taxesMinor
    guestTotalMinor := breakdown.guestTotalMinor
    hostCommissionMinor := breakdown.hostCommissionMinor
    hostPayoutMinor := breakdown.hostPayoutMinor
    hostRevenueMinor := breakdown.hostRevenueMinor
    feeConfigVersion := breakdown.feeConfigVersion }

/-- Insert the booking under a new id, and its price components, whose amounts are not bounded
as `INTEGER` bounds them. -/
def insertBooking (db : Db) (row : BookingId → Booking) (breakdown : PriceBreakdown)
    (hrow : ∀ id, Lib.key (row id) = id) : Except BookingError (CreatedBooking × Db) :=
  let id := db.bookings.freshKey
  match db.priceComponents.tryInsert (priceComponentsRow breakdown id) with
  | none => .error uniqueViolation
  | some priceComponents =>
    .ok (⟨mapBookingRow (row id), some breakdown⟩,
      { db with
        bookings := db.bookings.insertNew row hrow
        priceComponents := priceComponents })

def createBooking (now : Int) (isDelayedFlow : Bool) (input : CreateBookingInput) (db : Db) :
    Except BookingError (CreatedBooking × Db) := do
  checkRequest input
  match db.bookings.select fun row => row.idempotencyKey == input.idempotencyKey with
  | existing :: _ => return (⟨mapBookingRow existing, none⟩, db)
  | [] =>
    let p ← bookableProperty now input db
    checkCalendar input db
    let feeConfig ← getActiveFeeConfig db
    let nights := nightsBetween input.checkIn input.checkOut
    let breakdown ← calculatePrice (pricingColumns p) nights feeConfig
    insertBooking (reserveNights db input.propertyId input.checkIn input.checkOut)
      (bookingRow now isDelayedFlow input p.hostId (policyRules db p)) breakdown fun _ => rfl

/-! ## What `createBooking` commits -/

theorem checkCalendar_eq_ok {input : CreateBookingInput} {db : Db} {u : Unit}
    (h : checkCalendar input db = .ok u) (d : Int) (hin : input.checkIn ≤ d) (hout : d < input.checkOut) :
    db.availability input.propertyId d ≠ some bookedBlock := by
  intro hbooked
  unfold checkCalendar at h
  cases hfirst : firstUnavailable db input.propertyId input.checkIn input.checkOut with
  | some date => rw [hfirst] at h; cases h
  | none =>
    have hnone := List.find?_eq_none.mp hfirst d (mem_enumerateDates.mpr ⟨hin, hout⟩)
    rw [hbooked] at hnone
    exact hnone (by decide)

/-- What one call of `createBooking` does to the database: nothing, or one new
`pending_payment` booking on nights that no booking had. -/
structure BookingInserted (input : CreateBookingInput) (isDelayedFlow : Bool) (row : Booking)
    (db db' : Db) : Prop where
  id_fresh : row.id = db.bookings.freshKey
  property : row.propertyId = input.propertyId
  checkIn : row.checkIn = input.checkIn
  checkOut : row.checkOut = input.checkOut
  pending : row.status = .pendingPayment
  flow : row.paymentFlowVersion =
    if isDelayedFlow then .separateChargesDelayedV1 else .destinationChargeLegacy
  free : ∀ d ∈ row.nights, db.availability row.propertyId d ≠ some bookedBlock
  find : ∀ b, db'.bookings.find? b = if b = row.id then some row else db.bookings.find? b
  booked : ∀ p d, db'.availability p d = some bookedBlock ↔
    db.availability p d = some bookedBlock ∨ (p = row.propertyId ∧ d ∈ row.nights)
  priced : ∃ pc, pc.bookingId = row.id ∧
    ∀ b, db'.priceComponents.find? b = if b = row.id then some pc else db.priceComponents.find? b
  frame : db' = { db with
    availability := db'.availability
    bookings := db'.bookings
    priceComponents := db'.priceComponents }

theorem reserveNights_booked_iff {db : Db} {propertyId p : PropertyId} {checkIn checkOut d : Int} :
    (reserveNights db propertyId checkIn checkOut).availability p d = some bookedBlock ↔
      db.availability p d = some bookedBlock ∨ (p = propertyId ∧ d ∈ Set.Ico checkIn checkOut) := by
  unfold reserveNights
  simp only [Set.mem_Ico]
  split
  · rename_i hin
    exact ⟨fun _ => Or.inr hin, fun _ => rfl⟩
  · rename_i hout
    exact ⟨Or.inl, fun h => h.resolve_right hout⟩

theorem insertBooking_eq_ok {db db' : Db} {row : BookingId → Booking} {breakdown : PriceBreakdown}
    {hrow : ∀ id, Lib.key (row id) = id} {r : CreatedBooking}
    (h : insertBooking db row breakdown hrow = .ok (r, db')) :
    r = ⟨mapBookingRow (row db.bookings.freshKey), some breakdown⟩ ∧
      ∃ priceComponents,
        db.priceComponents.tryInsert (priceComponentsRow breakdown db.bookings.freshKey)
          = some priceComponents ∧
        db' = { db with
          bookings := db.bookings.insertNew row hrow
          priceComponents := priceComponents } := by
  simp only [insertBooking] at h
  split at h
  · cases h
  · rename_i priceComponents hins
    cases h
    exact ⟨rfl, priceComponents, hins, rfl⟩

/-- A call without an error has found a booking with its key, or inserts one. -/
theorem createBooking_cases {now : Int} {isDelayedFlow : Bool} {input : CreateBookingInput} {db db' : Db}
    {r : CreatedBooking} (h : createBooking now isDelayedFlow input db = .ok (r, db')) :
    (db' = db ∧ ∃ existing ∈ db.bookings.rows, existing.idempotencyKey = input.idempotencyKey) ∨
    ∃ p breakdown priceComponents,
      checkRequest input = .ok () ∧ checkCalendar input db = .ok () ∧
      r = ⟨mapBookingRow (bookingRow now isDelayedFlow input p.hostId (policyRules db p)
        db.bookings.freshKey), some breakdown⟩ ∧
      db.priceComponents.tryInsert (priceComponentsRow breakdown db.bookings.freshKey)
        = some priceComponents ∧
      db' = { reserveNights db input.propertyId input.checkIn input.checkOut with
        bookings := db.bookings.insertNew (bookingRow now isDelayedFlow input p.hostId (policyRules db p))
          fun _ => rfl
        priceComponents := priceComponents } := by
  unfold createBooking at h
  obtain ⟨_, hrequest, h⟩ := Lib.bind_eq_ok.mp h
  split at h
  next existing rest hselect =>
    cases h
    have hmem : existing ∈ db.bookings.select fun row => row.idempotencyKey == input.idempotencyKey := by
      rw [hselect]
      exact List.mem_cons_self
    obtain ⟨hrow, hkey⟩ := List.mem_filter.mp hmem
    exact .inl ⟨rfl, existing, hrow, beq_iff_eq.mp hkey⟩
  next =>
    obtain ⟨p, -, h⟩ := Lib.bind_eq_ok.mp h
    obtain ⟨_, hcalendar, h⟩ := Lib.bind_eq_ok.mp h
    obtain ⟨feeConfig, -, h⟩ := Lib.bind_eq_ok.mp h
    obtain ⟨breakdown, -, h⟩ := Lib.bind_eq_ok.mp h
    obtain ⟨rfl, priceComponents, hins, rfl⟩ := insertBooking_eq_ok h
    exact .inr ⟨p, breakdown, priceComponents, hrequest, hcalendar, rfl, hins, rfl⟩

theorem createBooking_eq_ok {now : Int} {isDelayedFlow : Bool} {input : CreateBookingInput}
    {db db' : Db} {r : CreatedBooking} (h : createBooking now isDelayedFlow input db = .ok (r, db')) :
    db' = db ∨ ∃ row, r.booking = mapBookingRow row ∧ BookingInserted input isDelayedFlow row db db' := by
  obtain ⟨rfl, -⟩ | ⟨p, breakdown, priceComponents, -, hcalendar, rfl, hins, rfl⟩ := createBooking_cases h
  · exact Or.inl rfl
  · refine Or.inr ⟨bookingRow now isDelayedFlow input p.hostId (policyRules db p)
      db.bookings.freshKey, rfl, ?_⟩
    exact
      { id_fresh := rfl
        property := rfl
        checkIn := rfl
        checkOut := rfl
        pending := rfl
        flow := rfl
        free := fun d hd => checkCalendar_eq_ok hcalendar d hd.1 hd.2
        find := Lib.Table.find?_insertNew _ _ fun _ => rfl
        booked := fun p d => reserveNights_booked_iff
        priced := ⟨_, rfl, Lib.Table.find?_tryInsert hins⟩
        frame := rfl }

/-! ## Expiring a hold -/

/-- `findExpiredHoldBookingIds`. -/
def findExpiredHoldBookingIds (now : Int) (db : Db) : List BookingId :=
  let expired := db.bookings.select fun row =>
    decide (row.status = .pendingPayment) && row.holdExpiresAt.any fun t => decide (t ≤ now)
  let ordered := expired.mergeSort fun a b =>
    decide (a.holdExpiresAt.getD 0 < b.holdExpiresAt.getD 0
      ∨ a.holdExpiresAt = b.holdExpiresAt ∧ a.id ≤ b.id)
  (ordered.map Booking.id).take 200

/-- A booked row written by a booking. -/
def isBookedBlock (row : AvailabilityBlock) : Bool :=
  decide (row.status = .booked) && decide (row.source = .booking)

/-- The booking `releaseExpiredHold` acts on: pending, with a hold that has expired. -/
def expiredHold (now : Int) (bookingId : BookingId) (db : Db) : Option Booking :=
  (db.bookings.find? bookingId).filter fun b =>
    decide (b.status = .pendingPayment) && b.holdExpiresAt.any fun t => decide (t ≤ now)

/-- No payment is looked at: the row's status and its hold decide. -/
def releaseExpiredHold (now : Int) (bookingId : BookingId) (db : Db) : Option BookingView × Db :=
  match expiredHold now bookingId db with
  | none => (none, db)
  | some b =>
    (some (mapBookingRow { b with status := .cancelled }),
      releaseNights db (currentDate now) b isBookedBlock (fun row => { row with status := .cancelled })
        Booking.key_cancelled)

theorem expiredHold_eq_some {now : Int} {bookingId : BookingId} {db : Db} {b : Booking}
    (h : expiredHold now bookingId db = some b) :
    db.bookings.find? bookingId = some b ∧ b.status = .pendingPayment ∧
      ∃ t, b.holdExpiresAt = some t ∧ t ≤ now := by
  unfold expiredHold at h
  obtain ⟨hfind, hcond⟩ := Option.filter_eq_some_iff.mp h
  simp only [Bool.and_eq_true, decide_eq_true_eq, Option.any_eq_true] at hcond
  obtain ⟨hstatus, t, ht, hle⟩ := hcond
  exact ⟨hfind, hstatus, t, ht, hle⟩

end HostPlatform
