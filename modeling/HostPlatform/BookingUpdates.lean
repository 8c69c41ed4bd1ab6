-- SUMMARY: What each transaction writes into a booking row, column by column.
import HostPlatform.TransactionFrames

/-!
# Updates of bookings

`Tx.effect` follows the status of a booking. The deadlines, the saved card and the
charge date are followed here: one constructor for each `UPDATE bookings` of the
program, with the transaction that runs it.
-/

namespace HostPlatform

open Lib (Table)

/-- What transaction `t` makes of the booking row `r`. -/
inductive Booking.Updated (t : Tx) (r : Booking) : Booking → Prop
  | same : Updated t r r
  | status (st : BookingStatus) : Updated t r { r with status := st }
  | discarded (now : Int) :
      Updated t r { r with status := .cancelled, archivedAt := some now, nextRetryAt := none }
  | setupIntent (customerId setupIntentId : Nat) (ht : t = .saveSetupIntent r.id customerId setupIntentId) :
      Updated t r { r with stripeCustomerId := some customerId, stripeSetupIntentId := some setupIntentId }
  | paymentMethod (paymentMethodId : Nat) (ht : t = .savePaymentMethod r.id paymentMethodId) :
      Updated t r { r with
        stripePaymentMethodId := some paymentMethodId
        nextRetryAt := if r.stripePaymentMethodId ≠ some paymentMethodId then none else r.nextRetryAt }
  | holdCleared (ht : t = .clearHold r.id) (hpending : r.status = .pendingPayment) :
      Updated t r { r with holdExpiresAt := none }
  | taxTreatment (taxTreatment : TaxTreatment) (ht : t = .configureTaxTreatment r.id taxTreatment) :
      Updated t r { r with taxTreatment := taxTreatment }
  | unsettled (now : Int) (attemptId : AttemptId) (claimToken : Nat) (status : AttemptStatus)
      (details : OutcomeDetails)
      (ht : t = .recordChargeOutcome now r.id attemptId claimToken status details)
      (hpending : r.status = .pendingPayment) : Updated t r (establishGracePeriod now r)
  | failed (now : Int) (attemptId : AttemptId) (claimToken : Nat) (details : OutcomeDetails)
      (ht : t = .recordChargeOutcome now r.id attemptId claimToken .failed details)
      (hpending : r.status = .pendingPayment) :
      Updated t r (scheduleNextRetry now (establishGracePeriod now r))

/-- Every booking row stays, updated by `t`. -/
def Db.BookingsUpdated (t : Tx) (db db' : Db) : Prop :=
  Table.Rowwise (Booking.Updated t) db.bookings db'.bookings

section

variable {t : Tx} {db : Db}

/-- The transaction leaves the bookings alone. -/
theorem Db.BookingsUpdated.of_eq {db' : Db} (h : db'.bookings = db.bookings) : db.BookingsUpdated t db' := by
  unfold Db.BookingsUpdated
  rw [h]
  exact .refl (fun _ => .same) _

/-- A statement that sets the status of one booking. -/
theorem Db.BookingsUpdated.of_setBookingStatus (db : Db) (b : BookingId) (st : BookingStatus) :
    db.BookingsUpdated t (db.setBookingStatus b st) :=
  Table.Rowwise.modify (fun _ => .same) (by intro r; rfl) fun _ _ => .status st

theorem Db.BookingsUpdated.of_calendarFrame {db' : Db} (h : db.CalendarFrame db') :
    db.BookingsUpdated t db' := by
  rw [h]
  exact .of_eq rfl

theorem Db.BookingsUpdated.of_releaseNights {today : Int} {b : Booking} {which : AvailabilityBlock → Bool}
    {set : Booking → Booking} {hset} (h : ∀ r : Booking, r.Updated t (set r)) :
    db.BookingsUpdated t (releaseNights db today b which set hset) :=
  Table.Rowwise.modify (fun _ => .same) hset fun r _ => h r

theorem Db.BookingsUpdated.of_confirmPendingBooking (db : Db) (b : BookingId) :
    db.BookingsUpdated t (confirmPendingBooking db b) :=
  updatePendingBooking_rowwise (fun _ => .same) fun _ _ _ => .status _

theorem Db.BookingsUpdated.of_commit {α : Type} {result : Except BookingError (α × Db)}
    (h : ∀ r db', result = .ok (r, db') → db.BookingsUpdated t db') :
    db.BookingsUpdated t (Lib.commit db result) :=
  Lib.commit_of (P := fun db' : Db => db.BookingsUpdated t db') (.of_eq rfl) h

end

theorem find?_updatePendingBooking (db : Db) (b : BookingId) (f : Booking → Booking)
    (hf : ∀ r : Booking, Lib.key (f r) = Lib.key r) (k : BookingId) :
    (updatePendingBooking db b f hf).bookings.find? k =
      (db.bookings.find? k).map fun r => if decide (r.id = b ∧ r.status = .pendingPayment) then f r else r :=
  Table.find?_updateWhere _ _ _ hf k

/-- The two updates of a failed charge are one update of the pending row. -/
theorem failed_updated (now : Int) (b : BookingId) (attemptId : AttemptId) (claimToken : Nat)
    (details : OutcomeDetails) (db : Db) {hgrace hretry} :
    db.BookingsUpdated (.recordChargeOutcome now b attemptId claimToken .failed details)
      (updatePendingBooking (updatePendingBooking db b (establishGracePeriod now) hgrace) b
        (scheduleNextRetry now) hretry) := by
  intro k
  rw [find?_updatePendingBooking, find?_updatePendingBooking]
  cases hr : db.bookings.find? k with
  | none => exact .none
  | some r =>
    refine .some ?_
    simp only
    by_cases hp : decide (r.id = b ∧ r.status = .pendingPayment) = true
    · have hset : decide ((establishGracePeriod now r).id = b ∧
          (establishGracePeriod now r).status = .pendingPayment) = true := hp
      simp only [hp, hset, if_true]
      obtain ⟨rfl, hpending⟩ := of_decide_eq_true hp
      exact .failed now attemptId claimToken details rfl hpending
    · simp only [hp, if_false, Bool.false_eq_true]
      exact .same

theorem recordChargeOutcome_updated (now : Int) (b : BookingId) (attemptId : AttemptId)
    (claimToken : Nat) (status : AttemptStatus) (details : OutcomeDetails) (db : Db) :
    db.BookingsUpdated (.recordChargeOutcome now b attemptId claimToken status details)
      (recordChargeOutcome now b attemptId claimToken status details db).2 := by
  unfold recordChargeOutcome
  split
  · simp only
    split
    · rename_i hfailed
      subst hfailed
      exact failed_updated now b attemptId claimToken details _
    · split
      · refine updatePendingBooking_rowwise (fun _ => .same) fun r hr hpending => ?_
        obtain rfl : r.id = b := Table.key_of_find? hr
        exact .unsettled now attemptId claimToken status details rfl hpending
      · exact .of_eq rfl
  · exact .of_eq rfl

theorem onPaymentSucceeded_updated (t : Tx) {now : Int} {intent : PaymentIntentObject} {db db' : Db}
    {input : Option EntitlementInput} (h : onPaymentSucceeded now intent db = .ok (input, db')) :
    db.BookingsUpdated t db' := by
  obtain rfl | rfl | ⟨b, -, u, hlegacy⟩ := onPaymentSucceeded_eq_ok h
  · exact .of_eq rfl
  · unfold onNewFlowPaymentSucceeded
    split
    · exact .of_eq rfl
    · split
      · exact .of_eq rfl
      · rw [markAttemptSucceeded_frame]
        exact .of_confirmPendingBooking _ _
  · rcases onLegacyPaymentSucceeded_eq_ok hlegacy with hdb | ⟨-, hdb⟩ | ⟨booking, pc, -, -, -, hdb⟩
    · rw [hdb]
      exact .of_eq rfl
    · rw [hdb]
      exact .of_eq rfl
    · rw [hdb]
      exact .of_confirmPendingBooking _ _

/-- Every transaction but `createBooking` updates rows in place. -/
theorem Tx.updated {t : Tx} (ht : ∀ now isDelayedFlow input, t ≠ .createBooking now isDelayedFlow input)
    (db : Db) : db.BookingsUpdated t (t.exec db) := by
  cases t with
  | createBooking now isDelayedFlow input => exact absurd rfl (ht now isDelayedFlow input)
  | cancelBooking now input =>
    refine .of_commit fun r db' h => ?_
    obtain ⟨b, bpc, -, -, -, -, rfl⟩ := cancelBooking_eq_ok h
    exact .of_releaseNights fun r => .status _
  | releaseExpiredHold now b =>
    show db.BookingsUpdated _ (HostPlatform.releaseExpiredHold now b db).2
    unfold HostPlatform.releaseExpiredHold
    split
    · exact .of_eq rfl
    · exact .of_releaseNights fun r => .status _
  | discardUnpaidBooking now booking =>
    exact discardLocked_of (.of_eq rfl) fun _ => .of_releaseNights fun r => .discarded now
  | completeStays today => exact Table.Rowwise.updateWhere (fun _ => .same) (by intro r; rfl) fun r _ _ => .status _
  | createCalendarFeed p name feedUrl => exact .of_calendarFrame (Tx.calendarFrame rfl db)
  | setCalendarFeedActive today p feedId isActive => exact .of_calendarFrame (Tx.calendarFrame rfl db)
  | deleteCalendarFeed today p feedId => exact .of_calendarFrame (Tx.calendarFrame rfl db)
  | replaceFeedEvents today p feedId events etag lastModified =>
    exact .of_calendarFrame (Tx.calendarFrame rfl db)
  | saveSetupIntent b customerId setupIntentId =>
    refine Table.Rowwise.modify (fun _ => .same) (by intro r; rfl) fun r hr => ?_
    obtain rfl : r.id = b := Table.key_of_find? hr
    exact .setupIntent customerId setupIntentId rfl
  | savePaymentMethod b paymentMethodId =>
    refine .of_commit fun changed db' h => ?_
    unfold HostPlatform.savePaymentMethod at h
    split at h
    · cases h
    · cases h
      refine Table.Rowwise.modify (fun _ => .same) (by intro r; rfl) fun r hr => ?_
      obtain rfl : r.id = b := Table.key_of_find? hr
      exact .paymentMethod paymentMethodId rfl
  | clearHold b =>
    refine updatePendingBooking_rowwise (fun _ => .same) fun r hr hpending => ?_
    obtain rfl : r.id = b := Table.key_of_find? hr
    exact .holdCleared rfl hpending
  | configureTaxTreatment b taxTreatment =>
    refine Table.Rowwise.modify (fun _ => .same) (by intro r; rfl) fun r hr => ?_
    obtain rfl : r.id = b := Table.key_of_find? hr
    exact .taxTreatment taxTreatment rfl
  | decideCharge now token b amountMinor currency =>
    obtain ⟨attempts, h⟩ := decideCharge_eq now token b amountMinor currency db
    rw [h]
    exact .of_eq rfl
  | recordChargeOutcome now b attemptId claimToken status details =>
    exact recordChargeOutcome_updated now b attemptId claimToken status details db
  | upsertPayment b intentId guestTotalMinor currency =>
    refine .of_commit fun u db' h => ?_
    obtain ⟨-, -, -, -, -, -, hframe⟩ := upsertPayment_eq_ok h
    rw [hframe]
    exact .of_eq rfl
  | paymentSucceeded now intent => exact .of_commit fun input db' h => onPaymentSucceeded_updated _ h
  | createEntitlement input =>
    show db.BookingsUpdated _ (HostPlatform.createEntitlement input db)
    rw [createEntitlement_frame]
    exact .of_eq rfl
  | refundEvent refund =>
    refine .of_commit fun u db' h => ?_
    rcases onRefundEvent_eq_ok h with rfl | ⟨payment, marked, -, -, hmarked, hrecord⟩
    · exact .of_eq rfl
    · rw [recordRefund_frame hrecord, (markRefundSucceeded_eq_some hmarked).2]
      exact .of_setBookingStatus _ _ _
  | disputeCreated dispute =>
    show db.BookingsUpdated _ (onDisputeCreated dispute db)
    unfold onDisputeCreated
    split
    · exact .of_eq rfl
    · exact .of_setBookingStatus _ _ _
  | _ => exact .of_eq rfl

/-- A new row is as `createBooking` writes it. -/
theorem createBooking_row {now : Int} {isDelayedFlow : Bool} {input : CreateBookingInput} {db db' : Db}
    {r : CreatedBooking} (h : createBooking now isDelayedFlow input db = .ok (r, db')) :
    db'.bookings = db.bookings ∨ ∃ hostId rules,
      db'.bookings = db.bookings.insertNew (bookingRow now isDelayedFlow input hostId rules) fun _ => rfl := by
  obtain ⟨rfl, -⟩ | ⟨p, -, -, -, -, -, -, rfl⟩ := createBooking_cases h
  · exact .inl rfl
  · exact .inr ⟨p.hostId, policyRules db p, rfl⟩

/-- A row after a transaction is an old row updated, or a new booking. -/
theorem Tx.row_cases (t : Tx) (db : Db) {b : BookingId} {r' : Booking}
    (h : (t.exec db).bookings.find? b = some r') :
    (∃ r, db.bookings.find? b = some r ∧ r.Updated t r') ∨
      db.bookings.find? b = none ∧ ∃ now isDelayedFlow input hostId rules,
        t = .createBooking now isDelayedFlow input ∧
        r' = bookingRow now isDelayedFlow input hostId rules b := by
  by_cases ht : ∃ now isDelayedFlow input, t = .createBooking now isDelayedFlow input
  · obtain ⟨now, isDelayedFlow, input, rfl⟩ := ht
    have hrow : ∀ db' : Db, db'.bookings = db.bookings → db'.bookings.find? b = some r' →
        ∃ r, db.bookings.find? b = some r ∧ r.Updated (.createBooking now isDelayedFlow input) r' := by
      intro db' hsame hr'
      rw [hsame] at hr'
      exact ⟨r', hr', .same⟩
    have hexec : (Tx.createBooking now isDelayedFlow input).exec db =
        Lib.commit db (HostPlatform.createBooking now isDelayedFlow input db) := rfl
    rw [hexec] at h
    cases hok : HostPlatform.createBooking now isDelayedFlow input db with
    | error e =>
      rw [hok] at h
      exact .inl (hrow db rfl h)
    | ok p =>
      obtain ⟨created, db'⟩ := p
      rw [hok] at h
      rcases createBooking_row hok with hsame | ⟨hostId, rules, hnew⟩
      · exact .inl (hrow db' hsame h)
      · have hfind : db'.bookings.find? b = some r' := h
        rw [hnew] at hfind
        have hfind := (Table.find?_insertNew _ _ (fun _ => rfl) b).symm.trans hfind
        split at hfind
        · rename_i hb
          cases hfind
          refine .inr ⟨by rw [hb, Table.find?_freshKey], now, isDelayedFlow, input, hostId, rules, rfl, ?_⟩
          rw [hb]
        · exact .inl ⟨r', hfind, .same⟩
  · obtain ⟨r, hr, hupdated⟩ :=
      (Tx.updated (fun now isDelayedFlow input h => ht ⟨now, isDelayedFlow, input, h⟩) db).to_find? h
    exact .inl ⟨r, hr, hupdated⟩

/-- An old row stays, updated. -/
theorem Tx.row_updated (t : Tx) (db : Db) {b : BookingId} {r : Booking}
    (hr : db.bookings.find? b = some r) :
    ∃ r', (t.exec db).bookings.find? b = some r' ∧ r.Updated t r' := by
  obtain ⟨r', hr', -⟩ := (t.bookingsGrow db).stay b r hr
  rcases t.row_cases db hr' with ⟨s, hs, hupdated⟩ | ⟨hnone, -⟩
  · rw [hr] at hs
    cases hs
    exact ⟨r', hr', hupdated⟩
  · rw [hr] at hnone
    cases hnone

end HostPlatform
