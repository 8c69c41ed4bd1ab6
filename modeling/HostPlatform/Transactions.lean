-- SUMMARY: Every database transaction of the program as one label, and what each can do to the bookings and the nights they hold.
import HostPlatform.Lib.Transition
import HostPlatform.Booking.CancelBooking
import HostPlatform.Payments.CreatePaymentIntent
import HostPlatform.Payments.WebhookHandler

/-!
# Transactions

A `Tx` is one transaction with its arguments: a request, a sweep, a webhook handler,
or a statement that commits on its own. `Tx.exec` runs it; one that fails leaves
the database as it was. Of `discardUnpaidBooking` it is the part after the row is locked. `Tx.effect` says all that a transaction can do to the
bookings and to the booked nights.
-/

namespace HostPlatform

open Lib (JsString Table commit)

inductive Tx where
  | createBooking (now : Int) (isDelayedFlow : Bool) (input : CreateBookingInput)
  | cancelBooking (now : Int) (input : CancelBookingInput)
  | releaseExpiredHold (now : Int) (bookingId : BookingId)
  | discardUnpaidBooking (now : Int) (booking : DiscardableBooking)
  | completeStays (today : Int)
  | mutateAvailability (today : Int) (propertyId : PropertyId) (checkIn checkOut : Int)
      (action : MutateAction)
  | reconcileCalendar (today : Int) (propertyId : PropertyId)
  | createCalendarFeed (propertyId : PropertyId) (name feedUrl : JsString)
  | setCalendarFeedActive (today : Int) (propertyId : PropertyId) (feedId : Nat) (isActive : Bool)
  | deleteCalendarFeed (today : Int) (propertyId : PropertyId) (feedId : Nat)
  | replaceFeedEvents (today : Int) (propertyId : PropertyId) (feedId : Nat)
      (events : List ImportedEvent) (etag lastModified : Option JsString)
  | markSyncRunning (propertyId : PropertyId) (feedId : Nat)
  | recordNotModified (propertyId : PropertyId) (feedId : Nat) (etag lastModified : Option JsString)
  | recordSyncError (propertyId : PropertyId) (feedId : Nat) (message : JsString)
  | saveSetupIntent (bookingId : BookingId) (customerId setupIntentId : Nat)
  | savePaymentMethod (bookingId : BookingId) (paymentMethodId : Nat)
  | clearHold (bookingId : BookingId)
  | configureTaxTreatment (bookingId : BookingId) (taxTreatment : TaxTreatment)
  | decideCharge (now : Int) (token : Nat) (bookingId : BookingId) (amountMinor : Int)
      (currency : String)
  | recordChargeOutcome (now : Int) (bookingId : BookingId) (attemptId : AttemptId)
      (claimToken : Nat) (status : AttemptStatus) (details : OutcomeDetails)
  | upsertPayment (bookingId : BookingId) (intentId : PaymentIntentId) (guestTotalMinor : Int)
      (currency : String)
  | insertRefund (input : InitiateRefundInput)
  | linkRefund (refundRowId : RefundId) (stripeRefundId : StripeRefundId)
  | paymentSucceeded (now : Int) (intent : PaymentIntentObject)
  | createEntitlement (input : EntitlementInput)
  | paymentFailed (intent : PaymentIntentObject)
  | refundEvent (refund : RefundObject)
  | refundFailed (refund : RefundObject)
  | disputeCreated (dispute : DisputeObject)

def Tx.exec (db : Db) : Tx → Db
  | .createBooking now isDelayedFlow input => commit db (HostPlatform.createBooking now isDelayedFlow input db)
  | .cancelBooking now input => commit db (HostPlatform.cancelBooking now input db)
  | .releaseExpiredHold now b => (HostPlatform.releaseExpiredHold now b db).2
  | .discardUnpaidBooking now booking => discardLocked now booking db
  | .completeStays today => HostPlatform.completeStays today db
  | .mutateAvailability today p checkIn checkOut action =>
    (HostPlatform.mutateAvailability db today p checkIn checkOut action).2
  | .reconcileCalendar today p => reconcileCalendarAvailability db p today
  | .createCalendarFeed p name feedUrl =>
    commit db ((HostPlatform.createCalendarFeed db p name feedUrl).map fun db' => ((), db'))
  | .setCalendarFeedActive today p feedId isActive =>
    commit db ((HostPlatform.setCalendarFeedActive db today p feedId isActive).map fun db' => ((), db'))
  | .deleteCalendarFeed today p feedId =>
    commit db ((HostPlatform.deleteCalendarFeed db today p feedId).map fun db' => ((), db'))
  | .replaceFeedEvents today p feedId events etag lastModified =>
    commit db (HostPlatform.replaceFeedEvents db today p feedId events etag lastModified)
  | .markSyncRunning p feedId => HostPlatform.markSyncRunning db p feedId
  | .recordNotModified p feedId etag lastModified =>
    HostPlatform.recordNotModified db p feedId etag lastModified
  | .recordSyncError p feedId message => HostPlatform.recordSyncError db p feedId message
  | .saveSetupIntent b customerId setupIntentId =>
    HostPlatform.saveSetupIntent b customerId setupIntentId db
  | .savePaymentMethod b paymentMethodId => commit db (HostPlatform.savePaymentMethod b paymentMethodId db)
  | .clearHold b => HostPlatform.clearHold b db
  | .configureTaxTreatment b taxTreatment => HostPlatform.configureTaxTreatment b taxTreatment db
  | .decideCharge now token b amountMinor currency =>
    (HostPlatform.decideCharge now token b amountMinor currency db).2
  | .recordChargeOutcome now b attemptId claimToken status details =>
    (HostPlatform.recordChargeOutcome now b attemptId claimToken status details db).2
  | .upsertPayment b intentId guestTotalMinor currency =>
    commit db (HostPlatform.upsertPayment b intentId guestTotalMinor currency db)
  | .insertRefund input => (HostPlatform.insertRefund input db).2
  | .linkRefund refundRowId stripeRefundId => HostPlatform.linkRefund refundRowId stripeRefundId db
  | .paymentSucceeded now intent => commit db (onPaymentSucceeded now intent db)
  | .createEntitlement input => HostPlatform.createEntitlement input db
  | .paymentFailed intent => onPaymentFailed intent db
  | .refundEvent refund => commit db (onRefundEvent refund db)
  | .refundFailed refund => onRefundFailed refund db
  | .disputeCreated dispute => onDisputeCreated dispute db

/-! ## What a transaction can do to a booking -/

/-- How a transaction other than a release may change the status of booking `b`. -/
inductive StatusMove (t : Tx) (db : Db) (b : BookingId) : BookingStatus → BookingStatus → Prop
  | same (st : BookingStatus) : StatusMove t db b st st
  | paid : StatusMove t db b .pendingPayment .confirmed
  | completed : StatusMove t db b .confirmed .completed
  | disputed (st : BookingStatus) : StatusMove t db b st .disputed
  | refunded (st : BookingStatus) : StatusMove t db b st .refunded
  | reconfirmed (st : BookingStatus) (refund : RefundObject) (htx : t = .refundEvent refund)
      (hpartly : partiallyRefunds refund b db) : StatusMove t db b st .confirmed

/-- The row keeps its stay, and its status makes one of the moves. -/
def Moved (t : Tx) (db : Db) (r r' : Booking) : Prop :=
  r.SameStay r' ∧ StatusMove t db r.id r.status r'.status

theorem Moved.refl (t : Tx) (db : Db) (r : Booking) : Moved t db r r := ⟨.refl r, .same _⟩

theorem Moved.of_sameStatus {t : Tx} {db : Db} {r r' : Booking} (h : r.SameStatus r') :
    Moved t db r r' := ⟨h.1, by rw [h.2]; exact .same _⟩

/-- The three ways a transaction treats bookings and the nights they hold. -/
inductive Effect (t : Tx) (db db' : Db) : Prop
  /-- A new booking on free nights. -/
  | inserted (isDelayedFlow : Bool) (input : CreateBookingInput) (row : Booking)
      (h : BookingInserted input isDelayedFlow row db db')
  /-- A live booking is cancelled and its nights are freed. -/
  | released (b : Booking) (set : Booking → Booking) (hfind : db.bookings.find? b.id = some b)
      (hlive : b.status.live) (hset : ∀ r, r.SameStay (set r) ∧ (set r).status = .cancelled)
      (hbookings : ∀ b', db'.bookings.find? b' =
        if b' = b.id then (db.bookings.find? b').map set else db.bookings.find? b')
      (hbooked : ∀ p d, db'.availability p d = some bookedBlock ↔
        db.availability p d = some bookedBlock ∧ ¬ (p = b.propertyId ∧ d ∈ b.nights))
  /-- Rows change in place, and the booked nights stay. -/
  | updated (hrows : Table.Rowwise (Moved t db) db.bookings db'.bookings)
      (hbooked : ∀ p d, db'.availability p d = some bookedBlock ↔
        db.availability p d = some bookedBlock)

namespace Effect

variable {t : Tx} {db db' : Db}

/-- Neither the bookings nor the calendar changed. -/
theorem unchanged (hbookings : db'.bookings = db.bookings) (havail : db'.availability = db.availability) :
    Effect t db db' := by
  refine .updated ?_ fun p d => by rw [havail]
  rw [hbookings]
  exact .refl (Moved.refl t db) _

/-- Only rows of `bookings` changed. -/
theorem rows (hrows : Table.Rowwise (Moved t db) db.bookings db'.bookings)
    (havail : db'.availability = db.availability) : Effect t db db' :=
  .updated hrows fun p d => by rw [havail]

/-- Only the calendar changed, and no booked row of it. -/
theorem calendar (hbookings : db'.bookings = db.bookings)
    (hbooked : ∀ p d, db'.availability p d = some bookedBlock ↔
      db.availability p d = some bookedBlock) : Effect t db db' := by
  refine .updated ?_ hbooked
  rw [hbookings]
  exact .refl (Moved.refl t db) _

theorem release {today : Int} {b : Booking} {which : AvailabilityBlock → Bool}
    {set : Booking → Booking} {hset} (hfind : db.bookings.find? b.id = some b) (hlive : b.status.live)
    (hwhich : which bookedBlock) (hcancel : ∀ r, r.SameStay (set r) ∧ (set r).status = .cancelled) :
    Effect t db (releaseNights db today b which set hset) :=
  .released b set hfind hlive hcancel releaseNights_find? (releaseNights_booked_iff hwhich)

end Effect

/-! ## Bookings and calendar -/

theorem createBooking_effect (t : Tx) (now : Int) (isDelayedFlow : Bool) (input : CreateBookingInput)
    (db : Db) : Effect t db (commit db (createBooking now isDelayedFlow input db)) := by
  apply Lib.commit_of
  · exact .unchanged rfl rfl
  · intro r db' h
    rcases createBooking_eq_ok h with rfl | ⟨row, -, hrow⟩
    · exact .unchanged rfl rfl
    · exact .inserted isDelayedFlow input row hrow

theorem cancelBooking_effect (t : Tx) (now : Int) (input : CancelBookingInput) (db : Db) :
    Effect t db (commit db (cancelBooking now input db)) := by
  apply Lib.commit_of
  · exact .unchanged rfl rfl
  · intro r db' h
    obtain ⟨b, bpc, hfind, -, hlive, -, rfl⟩ := cancelBooking_eq_ok h
    refine .release ?_ hlive rfl fun r => ⟨by constructor <;> rfl, rfl⟩
    rw [show b.id = input.bookingId from Table.key_of_find? hfind]
    exact hfind

theorem releaseExpiredHold_effect (t : Tx) (now : Int) (bookingId : BookingId) (db : Db) :
    Effect t db (releaseExpiredHold now bookingId db).2 := by
  unfold releaseExpiredHold
  split
  · exact .unchanged rfl rfl
  · rename_i b hb
    obtain ⟨hfind, hpending, -⟩ := expiredHold_eq_some hb
    refine .release ?_ (by rw [hpending]; rfl) rfl fun r => ⟨by constructor <;> rfl, rfl⟩
    rw [show b.id = bookingId from Table.key_of_find? hfind]
    exact hfind

theorem discardUnpaidBooking_effect (t : Tx) (now : Int) (booking : DiscardableBooking) (db : Db) :
    Effect t db (discardLocked now booking db) := by
  refine discardLocked_of (.unchanged rfl rfl) fun hheld => ?_
  exact .release hheld (by rw [booking.pending]; rfl) rfl fun r => ⟨by constructor <;> rfl, rfl⟩

theorem completeStays_effect (t : Tx) (today : Int) (db : Db) : Effect t db (completeStays today db) := by
  refine .rows ?_ rfl
  refine Table.Rowwise.updateWhere (Moved.refl t db) (by intro r; rfl) fun r _ hover => ?_
  simp only [decide_eq_true_eq] at hover
  refine ⟨by constructor <;> rfl, ?_⟩
  rw [hover.1]
  exact .completed

theorem mutateAvailability_effect (t : Tx) (today : Int) (p : PropertyId) (checkIn checkOut : Int)
    (action : MutateAction) (db : Db) :
    Effect t db (mutateAvailability db today p checkIn checkOut action).2 :=
  .calendar rfl fun _ _ => mutateAvailability_booked_iff

/-- A transaction on feeds commits what it writes, or nothing. -/
theorem commitFeeds_of {P : Db → Prop} {db : Db} {r : Except BookingError Db} (hdb : P db)
    (hok : ∀ db', r = .ok db' → P db') : P (commit db (r.map fun db' => ((), db'))) := by
  cases r with
  | error e => exact hdb
  | ok db' => exact hok db' rfl

/-- The transactions on the feeds of a property. -/
def Tx.onFeeds : Tx → Bool
  | .createCalendarFeed .. | .setCalendarFeedActive .. | .deleteCalendarFeed ..
  | .replaceFeedEvents .. => true
  | _ => false

theorem Tx.calendarFrame {t : Tx} (h : t.onFeeds) (db : Db) : db.CalendarFrame (t.exec db) := by
  cases t with
  | createCalendarFeed p name feedUrl =>
    exact commitFeeds_of (.refl db) fun db' hok => (createCalendarFeed_frame hok).1
  | setCalendarFeedActive today p feedId isActive =>
    refine commitFeeds_of (.refl db) fun db' hok => ?_
    rw [setCalendarFeedActive_eq_ok hok]
    rfl
  | deleteCalendarFeed today p feedId =>
    refine commitFeeds_of (.refl db) fun db' hok => ?_
    rw [deleteCalendarFeed_eq_ok hok]
    rfl
  | replaceFeedEvents today p feedId events etag lastModified =>
    refine Lib.commit_of (.refl db) fun count db' hok => ?_
    obtain ⟨rows, -, rfl⟩ := replaceFeedEvents_eq_ok hok
    rfl
  | _ => cases h

theorem createCalendarFeed_effect (t : Tx) (p : PropertyId) (name feedUrl : JsString) (db : Db) :
    Effect t db (commit db ((createCalendarFeed db p name feedUrl).map fun db' => ((), db'))) := by
  apply commitFeeds_of
  · exact .unchanged rfl rfl
  · intro db' h
    obtain ⟨hframe, havail⟩ := createCalendarFeed_frame h
    rw [hframe, havail]
    exact .unchanged rfl rfl

theorem setCalendarFeedActive_effect (t : Tx) (today : Int) (p : PropertyId) (feedId : Nat)
    (isActive : Bool) (db : Db) :
    Effect t db
      (commit db ((setCalendarFeedActive db today p feedId isActive).map fun db' => ((), db'))) := by
  apply commitFeeds_of
  · exact .unchanged rfl rfl
  · intro db' h
    rw [setCalendarFeedActive_eq_ok h]
    exact .calendar rfl fun _ _ => reconcile_availability_iff (by decide)

theorem deleteCalendarFeed_effect (t : Tx) (today : Int) (p : PropertyId) (feedId : Nat) (db : Db) :
    Effect t db (commit db ((deleteCalendarFeed db today p feedId).map fun db' => ((), db'))) := by
  apply commitFeeds_of
  · exact .unchanged rfl rfl
  · intro db' h
    rw [deleteCalendarFeed_eq_ok h]
    exact .calendar rfl fun _ _ => reconcile_availability_iff (by decide)

theorem replaceFeedEvents_effect (t : Tx) (today : Int) (p : PropertyId) (feedId : Nat)
    (events : List ImportedEvent) (etag lastModified : Option JsString) (db : Db) :
    Effect t db (commit db (replaceFeedEvents db today p feedId events etag lastModified)) := by
  apply Lib.commit_of
  · exact .unchanged rfl rfl
  · intro count db' h
    obtain ⟨rows, -, rfl⟩ := replaceFeedEvents_eq_ok h
    exact .calendar rfl fun _ _ => reconcile_availability_iff (by decide)

/-! ## Payments -/

/-- A statement that writes other columns of one booking. -/
theorem modify_effect (t : Tx) (db : Db) (b : BookingId) (f : Booking → Booking)
    (hf : ∀ r : Booking, Lib.key (f r) = Lib.key r) (hsame : ∀ r : Booking, r.SameStatus (f r)) :
    Effect t db { db with bookings := db.bookings.modify b f hf } :=
  .rows (.modify (Moved.refl t db) hf fun r _ => .of_sameStatus (hsame r)) rfl

theorem savePaymentMethod_effect (t : Tx) (b : BookingId) (paymentMethodId : Nat) (db : Db) :
    Effect t db (commit db (savePaymentMethod b paymentMethodId db)) := by
  unfold savePaymentMethod
  split
  · exact .unchanged rfl rfl
  · exact modify_effect t db b _ _ fun r => ⟨by constructor <;> rfl, rfl⟩

theorem clearHold_effect (t : Tx) (b : BookingId) (db : Db) : Effect t db (clearHold b db) :=
  .rows (updatePendingBooking_rowwise (Moved.refl t db) fun r _ _ =>
    .of_sameStatus ⟨by constructor <;> rfl, rfl⟩) rfl

theorem decideCharge_effect (t : Tx) (now : Int) (token : Nat) (b : BookingId) (amountMinor : Int)
    (currency : String) (db : Db) :
    Effect t db (decideCharge now token b amountMinor currency db).2 := by
  rw [decideCharge_frame]
  exact .unchanged rfl rfl

theorem recordChargeOutcome_effect (t : Tx) (now : Int) (b : BookingId) (attemptId : AttemptId)
    (claimToken : Nat) (status : AttemptStatus) (details : OutcomeDetails) (db : Db) :
    Effect t db (recordChargeOutcome now b attemptId claimToken status details db).2 := by
  refine .rows (.mono (fun r r' h => Moved.of_sameStatus h) (recordChargeOutcome_bookings _ _ _ _ _ _ _)) ?_
  rw [recordChargeOutcome_frame]

theorem upsertPayment_effect (t : Tx) (b : BookingId) (intentId : PaymentIntentId)
    (guestTotalMinor : Int) (currency : String) (db : Db) :
    Effect t db (commit db (upsertPayment b intentId guestTotalMinor currency db)) := by
  apply Lib.commit_of
  · exact .unchanged rfl rfl
  · intro u db' h
    obtain ⟨row, -, -, -, -, -, hframe⟩ := upsertPayment_eq_ok h
    rw [hframe]
    exact .unchanged rfl rfl

/-- `UPDATE .. SET status = 'confirmed' WHERE status = 'pending_payment'`. -/
theorem confirmPendingBooking_moved (t : Tx) (db₀ db : Db) (b : BookingId) :
    Table.Rowwise (Moved t db₀) db.bookings (confirmPendingBooking db b).bookings := by
  refine updatePendingBooking_rowwise (Moved.refl t db₀) fun r _ hpending => ?_
  refine ⟨by constructor <;> rfl, ?_⟩
  rw [hpending]
  exact .paid

theorem markAttemptSucceeded_frame (db : Db) (a : Option AttemptId) (i : PaymentIntentId) :
    markAttemptSucceeded db a i =
      { db with paymentAttempts := (markAttemptSucceeded db a i).paymentAttempts } := by
  unfold markAttemptSucceeded
  split <;> rfl

theorem onNewFlowPaymentSucceeded_effect (t : Tx) (now : Int) (intent : PaymentIntentObject) (db : Db) :
    Effect t db (onNewFlowPaymentSucceeded now intent db).2 := by
  unfold onNewFlowPaymentSucceeded
  split
  · exact .unchanged rfl rfl
  · split
    · exact .unchanged rfl rfl
    · rw [markAttemptSucceeded_frame]
      exact .rows (confirmPendingBooking_moved t db _ _) rfl

theorem onLegacyPaymentSucceeded_effect (t : Tx) {now : Int} {bookingId : BookingId}
    {intentId : PaymentIntentId} {db db' : Db} {u : Unit}
    (h : onLegacyPaymentSucceeded now bookingId intentId db = .ok (u, db')) : Effect t db db' := by
  rcases onLegacyPaymentSucceeded_eq_ok h with rfl | ⟨-, rfl⟩ | ⟨booking, pc, -, -, -, rfl⟩
  · exact .unchanged rfl rfl
  · exact .unchanged rfl rfl
  · exact .rows (confirmPendingBooking_moved t db _ _) rfl

theorem onPaymentSucceeded_effect (t : Tx) (now : Int) (intent : PaymentIntentObject) (db : Db) :
    Effect t db (commit db (onPaymentSucceeded now intent db)) := by
  apply Lib.commit_of
  · exact .unchanged rfl rfl
  · intro r db' h
    obtain rfl | rfl | ⟨b, -, u, hlegacy⟩ := onPaymentSucceeded_eq_ok h
    · exact .unchanged rfl rfl
    · exact onNewFlowPaymentSucceeded_effect t now intent db
    · exact onLegacyPaymentSucceeded_effect t hlegacy

/-! ## Refunds and disputes -/

theorem setBookingStatus_moved (t : Tx) (db₀ db : Db) (b : BookingId) (st : BookingStatus)
    (h : ∀ st', StatusMove t db₀ b st' st) :
    Table.Rowwise (Moved t db₀) db.bookings (db.setBookingStatus b st).bookings := by
  unfold Db.setBookingStatus
  refine .modify (Moved.refl t db₀) (by intro r; rfl) fun r hr => ⟨by constructor <;> rfl, ?_⟩
  rw [show r.id = b from Table.key_of_find? hr]
  exact h r.status

/-- A committed refund event on a payment not yet fully refunded took the branch
that writes `confirmed`. -/
theorem partiallyRefunds_of_recordRefund {refund : RefundObject} {payment : Payment}
    {db marked db' : Db} {u : Unit} (hstatus : refund.status = .succeeded)
    (hpayment : refund.paymentIntent.bind db.paymentByIntent = some payment)
    (hmarked : markRefundSucceeded refund.id db = some marked)
    (hrecord : recordRefund refund payment marked = .ok (u, db'))
    (hpartly : ¬ payment.amountMinor ≤ marked.cumulativeRefunded payment.bookingId) :
    partiallyRefunds refund payment.bookingId db := by
  have hcum : cumulativeAfter refund payment.bookingId db =
      marked.cumulativeRefunded payment.bookingId := by
    unfold cumulativeAfter
    rw [hmarked]
  have hprices : marked.priceComponents = db.priceComponents := by
    rw [(markRefundSucceeded_eq_some hmarked).2]
  refine ⟨hstatus, (markRefundSucceeded_eq_some hmarked).1, payment, hpayment, rfl, ?_, ?_⟩
  · rw [hcum]
    exact not_le.mp hpartly
  · rcases recordRefund_eq_ok hrecord with ⟨hpc, -⟩ | ⟨pc, booking, reversal, -, -, hreversal, -⟩
    · right
      rw [← hprices]
      exact hpc
    · left
      rw [hcum]
      exact (computeRefundReversalEntries_eq_ok.mp hreversal).2.1.1

theorem onRefundEvent_effect (refund : RefundObject) (db : Db) :
    Effect (.refundEvent refund) db (commit db (onRefundEvent refund db)) := by
  apply Lib.commit_of
  · exact .unchanged rfl rfl
  · intro u db' h
    rcases onRefundEvent_eq_ok h with rfl | ⟨payment, marked, hstatus, hpayment, hmarked, hrecord⟩
    · exact .unchanged rfl rfl
    · have hframe := recordRefund_frame hrecord
      have hbookings : marked.bookings = db.bookings := by
        rw [(markRefundSucceeded_eq_some hmarked).2]
      refine .rows ?_ ?_
      · rw [hframe, ← hbookings]
        apply setBookingStatus_moved
        intro st
        split
        · exact .refunded st
        · rename_i hpartly
          exact .reconfirmed st refund rfl (partiallyRefunds_of_recordRefund hstatus hpayment
            hmarked hrecord (by simpa using hpartly))
      · rw [hframe, (markRefundSucceeded_eq_some hmarked).2]
        rfl

theorem onDisputeCreated_effect (t : Tx) (dispute : DisputeObject) (db : Db) :
    Effect t db (onDisputeCreated dispute db) := by
  unfold onDisputeCreated
  split
  · exact .unchanged rfl rfl
  · exact .rows (setBookingStatus_moved t db _ _ _ fun st => .disputed st) rfl

/-- What any transaction does to the bookings and to the booked nights. -/
theorem Tx.effect (t : Tx) (db : Db) : Effect t db (t.exec db) := by
  cases t with
  | createBooking now isDelayedFlow input => exact createBooking_effect ..
  | cancelBooking now input => exact cancelBooking_effect ..
  | releaseExpiredHold now b => exact releaseExpiredHold_effect ..
  | discardUnpaidBooking now booking => exact discardUnpaidBooking_effect ..
  | completeStays today => exact completeStays_effect ..
  | mutateAvailability today p checkIn checkOut action => exact mutateAvailability_effect ..
  | reconcileCalendar today p => exact .calendar rfl fun _ _ => reconcile_availability_iff (by decide)
  | createCalendarFeed p name feedUrl => exact createCalendarFeed_effect ..
  | setCalendarFeedActive today p feedId isActive => exact setCalendarFeedActive_effect ..
  | deleteCalendarFeed today p feedId => exact deleteCalendarFeed_effect ..
  | replaceFeedEvents today p feedId events etag lastModified => exact replaceFeedEvents_effect ..
  | markSyncRunning p feedId => exact .unchanged rfl rfl
  | recordNotModified p feedId etag lastModified => exact .unchanged rfl rfl
  | recordSyncError p feedId message => exact .unchanged rfl rfl
  | saveSetupIntent b customerId setupIntentId =>
    exact modify_effect _ db b _ _ fun r => ⟨by constructor <;> rfl, rfl⟩
  | savePaymentMethod b paymentMethodId => exact savePaymentMethod_effect ..
  | clearHold b => exact clearHold_effect ..
  | configureTaxTreatment b taxTreatment =>
    exact modify_effect _ db b _ _ fun r => ⟨by constructor <;> rfl, rfl⟩
  | decideCharge now token b amountMinor currency => exact decideCharge_effect ..
  | recordChargeOutcome now b attemptId claimToken status details =>
    exact recordChargeOutcome_effect ..
  | upsertPayment b intentId guestTotalMinor currency => exact upsertPayment_effect ..
  | insertRefund input => exact .unchanged rfl rfl
  | linkRefund refundRowId stripeRefundId => exact .unchanged rfl rfl
  | paymentSucceeded now intent => exact onPaymentSucceeded_effect ..
  | createEntitlement input =>
    show Effect _ db (HostPlatform.createEntitlement input db)
    rw [createEntitlement_frame]
    exact .unchanged rfl rfl
  | paymentFailed intent => exact .unchanged rfl rfl
  | refundEvent refund => exact onRefundEvent_effect refund db
  | refundFailed refund => exact .unchanged rfl rfl
  | disputeCreated dispute => exact onDisputeCreated_effect ..

/-! ## Reading an effect at one booking -/

namespace Effect

variable {t : Tx} {db db' : Db} {b : BookingId} {r r' : Booking}

/-- A booking is never deleted; its status makes a move, or it is cancelled while live. -/
theorem row (h : Effect t db db') (hr : db.bookings.find? b = some r) :
    ∃ r', db'.bookings.find? b = some r' ∧ r.SameStay r' ∧
      (StatusMove t db b r.status r'.status ∨ r.status.live ∧ r'.status = .cancelled) := by
  cases h with
  | inserted isDelayedFlow input row h =>
    have hne : b ≠ row.id := h.id_fresh ▸ Table.ne_freshKey_of_find? hr
    exact ⟨r, by rw [h.find, if_neg hne, hr], .refl r, .inl (.same _)⟩
  | released c set hfind hlive hset hbookings hbooked =>
    by_cases hb : b = c.id
    · subst hb
      rw [hfind] at hr
      cases hr
      exact ⟨set r, by rw [hbookings, if_pos rfl, hfind]; rfl, (hset r).1,
        .inr ⟨hlive, (hset r).2⟩⟩
    · exact ⟨r, by rw [hbookings, if_neg hb, hr], .refl r, .inl (.same _)⟩
  | updated hrows hbooked =>
    obtain ⟨r', hr', hstay, hmove⟩ := hrows.of_find? hr
    rw [show r.id = b from Table.key_of_find? hr] at hmove
    exact ⟨r', hr', hstay, .inl hmove⟩

/-- A booking that was not there before was inserted by this transaction. -/
theorem new_row (h : Effect t db db') (hr : db.bookings.find? b = none)
    (hr' : db'.bookings.find? b = some r') :
    ∃ isDelayedFlow input, BookingInserted input isDelayedFlow r' db db' ∧ r'.id = b := by
  cases h with
  | inserted isDelayedFlow input row h =>
    rw [h.find] at hr'
    split at hr'
    · rename_i hb
      cases hr'
      exact ⟨isDelayedFlow, input, h, hb.symm⟩
    · rw [hr] at hr'
      cases hr'
  | released c set hfind hlive hset hbookings hbooked =>
    rw [hbookings, hr] at hr'
    split at hr' <;> cases hr'
  | updated hrows hbooked =>
    obtain ⟨r, hr2, -⟩ := hrows.to_find? hr'
    rw [hr] at hr2
    cases hr2

end Effect

theorem Db.statusOf_eq_some {db : Db} {b : BookingId} {st : BookingStatus} :
    db.statusOf b = some st ↔ ∃ r, db.bookings.find? b = some r ∧ r.status = st := by
  unfold Db.statusOf
  exact Option.map_eq_some_iff

/-! ## A platform with one property

The concrete runs of this development start from it: a property at 100.00 a night
under the default cancellation policy, and no booking yet. -/

def sampleProperty (id : PropertyId) : Property :=
  { id := id
    hostId := 1
    status := .published
    complianceStatus := .approved
    complianceItems := []
    currency := "GBP"
    nightlyPrice := some 10000
    cleaningFee := 0
    accommodationVatRate := some 0
    cleaningVatRate := some 0
    maxGuests := 4
    minStayNights := 1
    maxStayNights := 30
    cancellationPolicyId := none }

theorem key_sampleProperty (id : PropertyId) : Lib.key (sampleProperty id) = id := rfl

def sampleDb : Db :=
  { properties := Table.empty.insertNew sampleProperty
    hostProfiles := Table.empty.insertNew fun id => ⟨id, some 1, .active⟩
    cancellationPolicies := .empty
    feeConfigs := [⟨"v1", 0, 1500, 0, 0, true⟩]
    availability := fun _ _ => none
    bookings := .empty
    priceComponents := .empty
    payments := .empty
    refunds := .empty
    payouts := .empty
    ledgerEntries := []
    disputes := []
    paymentAttempts := .empty
    entitlements := .empty
    calendarFeeds := .empty
    calendarEvents := [] }

/-- Two nights from day 100 on. -/
def sampleRequest (idempotencyKey : String) : CreateBookingInput :=
  { propertyId := 1
    guestId := 1
    checkIn := 100
    checkOut := 102
    guests := 2
    guestName := "Guest"
    guestEmail := "guest@example.com"
    guestPhone := none
    idempotencyKey := idempotencyKey }

end HostPlatform
