-- SUMMARY: Which tables each transaction leaves alone.
import HostPlatform.Transactions

namespace HostPlatform

open Lib (Table)

/-- The tables that record money are the same. -/
structure Db.SameMoney (db db' : Db) : Prop where
  payments : db'.payments = db.payments
  refunds : db'.refunds = db.refunds
  payouts : db'.payouts = db.payouts
  ledgerEntries : db'.ledgerEntries = db.ledgerEntries
  paymentAttempts : db'.paymentAttempts = db.paymentAttempts
  entitlements : db'.entitlements = db.entitlements

theorem Db.SameMoney.refl (db : Db) : db.SameMoney db := ⟨rfl, rfl, rfl, rfl, rfl, rfl⟩

/-! ## Bookings and calendar -/

theorem createBooking_sameMoney (now : Int) (isDelayedFlow : Bool) (input : CreateBookingInput)
    (db : Db) : db.SameMoney ((Tx.createBooking now isDelayedFlow input).exec db) := by
  refine Lib.commit_of (.refl db) fun r db' h => ?_
  rcases createBooking_eq_ok h with rfl | ⟨row, -, hrow⟩
  · exact .refl _
  · rw [hrow.frame]
    exact ⟨rfl, rfl, rfl, rfl, rfl, rfl⟩

theorem cancelBooking_sameMoney {now : Int} {input : CancelBookingInput} {db db' : Db}
    {r : CancelledBooking} (h : cancelBooking now input db = .ok (r, db')) : db.SameMoney db' := by
  obtain ⟨b, bpc, -, -, -, -, rfl⟩ := cancelBooking_eq_ok h
  exact ⟨rfl, rfl, rfl, rfl, rfl, rfl⟩

theorem releaseExpiredHold_sameMoney (now : Int) (b : BookingId) (db : Db) :
    db.SameMoney (releaseExpiredHold now b db).2 := by
  unfold releaseExpiredHold
  split
  · exact .refl db
  · exact ⟨rfl, rfl, rfl, rfl, rfl, rfl⟩

theorem discardUnpaidBooking_sameMoney (now : Int) (booking : DiscardableBooking) (db : Db) :
    db.SameMoney ((Tx.discardUnpaidBooking now booking).exec db) :=
  discardLocked_of (.refl db) fun _ => ⟨rfl, rfl, rfl, rfl, rfl, rfl⟩

theorem Db.CalendarFrame.sameMoney {db db' : Db} (h : db.CalendarFrame db') : db.SameMoney db' := by
  rw [h]
  exact ⟨rfl, rfl, rfl, rfl, rfl, rfl⟩

theorem savePaymentMethod_sameMoney (b : BookingId) (paymentMethodId : Nat) (db : Db) :
    db.SameMoney ((Tx.savePaymentMethod b paymentMethodId).exec db) := by
  show db.SameMoney (Lib.commit db (savePaymentMethod b paymentMethodId db))
  unfold savePaymentMethod
  split
  · exact .refl db
  · exact ⟨rfl, rfl, rfl, rfl, rfl, rfl⟩

/-! ## Payments -/

theorem decideCharge_eq (now : Int) (token : Nat) (b : BookingId) (amountMinor : Int)
    (currency : String) (db : Db) :
    ∃ attempts, (Tx.decideCharge now token b amountMinor currency).exec db =
      { db with paymentAttempts := attempts } :=
  ⟨_, decideCharge_frame ..⟩

theorem recordChargeOutcome_eq (now : Int) (b : BookingId) (attemptId : AttemptId)
    (claimToken : Nat) (status : AttemptStatus) (details : OutcomeDetails) (db : Db) :
    ∃ bookings attempts, (Tx.recordChargeOutcome now b attemptId claimToken status details).exec db =
      { db with bookings := bookings, paymentAttempts := attempts } :=
  ⟨_, _, recordChargeOutcome_frame ..⟩

/-- A succeeded payment of the delayed flow touches no table of the legacy one. -/
theorem onNewFlowPaymentSucceeded_eq (now : Int) (intent : PaymentIntentObject) (db : Db) :
    ∃ bookings attempts, (onNewFlowPaymentSucceeded now intent db).2 =
      { db with bookings := bookings, paymentAttempts := attempts } := by
  unfold onNewFlowPaymentSucceeded
  split
  · exact ⟨_, _, rfl⟩
  · split
    · exact ⟨_, _, rfl⟩
    · rw [markAttemptSucceeded_frame]
      exact ⟨_, _, rfl⟩

/-- A succeeded legacy payment touches no table of the delayed flow, and no refund. -/
theorem onLegacyPaymentSucceeded_eq {now : Int} {b : BookingId} {intentId : PaymentIntentId}
    {db db' : Db} {u : Unit} (h : onLegacyPaymentSucceeded now b intentId db = .ok (u, db')) :
    ∃ bookings payments payouts ledgerEntries, db' =
      { db with
        bookings := bookings
        payments := payments
        payouts := payouts
        ledgerEntries := ledgerEntries } := by
  rcases onLegacyPaymentSucceeded_eq_ok h with rfl | ⟨-, rfl⟩ | ⟨booking, pc, -, -, -, rfl⟩
  · exact ⟨_, _, _, _, rfl⟩
  · exact ⟨_, _, _, _, rfl⟩
  · exact ⟨_, _, _, _, rfl⟩

/-- A succeeded payment touches bookings, attempts, payments, payouts and the ledger. -/
theorem onPaymentSucceeded_eq {now : Int} {intent : PaymentIntentObject} {db db' : Db}
    {input : Option EntitlementInput} (h : onPaymentSucceeded now intent db = .ok (input, db')) :
    ∃ bookings attempts payments payouts ledgerEntries, db' =
      { db with
        bookings := bookings
        paymentAttempts := attempts
        payments := payments
        payouts := payouts
        ledgerEntries := ledgerEntries } := by
  obtain rfl | rfl | ⟨b, -, u, hlegacy⟩ := onPaymentSucceeded_eq_ok h
  · exact ⟨_, _, _, _, _, rfl⟩
  · obtain ⟨bookings, attempts, hdb⟩ := onNewFlowPaymentSucceeded_eq now intent db
    rw [hdb]
    exact ⟨_, _, _, _, _, rfl⟩
  · obtain ⟨bookings, payments, payouts, ledgerEntries, hdb⟩ := onLegacyPaymentSucceeded_eq hlegacy
    rw [hdb]
    exact ⟨_, _, _, _, _, rfl⟩

/-- A refund event touches neither attempts nor entitlements nor price components. -/
theorem onRefundEvent_eq (refund : RefundObject) (db : Db) :
    ∃ bookings payments refunds payouts ledgerEntries, (Tx.refundEvent refund).exec db =
      { db with
        bookings := bookings
        payments := payments
        refunds := refunds
        payouts := payouts
        ledgerEntries := ledgerEntries } := by
  simp only [Tx.exec]
  cases h : onRefundEvent refund db with
  | error e => exact ⟨_, _, _, _, _, rfl⟩
  | ok p =>
    simp only [Lib.commit]
    rcases onRefundEvent_eq_ok h with hsame | ⟨payment, marked, -, -, hmarked, hrecord⟩
    · rw [hsame]
      exact ⟨_, _, _, _, _, rfl⟩
    · rw [recordRefund_frame hrecord, (markRefundSucceeded_eq_some hmarked).2]
      exact ⟨_, _, _, _, _, rfl⟩

theorem onDisputeCreated_eq (dispute : DisputeObject) (db : Db) :
    ∃ bookings payouts disputes, onDisputeCreated dispute db =
      { db with bookings := bookings, payouts := payouts, disputes := disputes } := by
  unfold onDisputeCreated
  split
  · exact ⟨_, _, _, rfl⟩
  · exact ⟨_, _, _, rfl⟩

/-! ## What no transaction does -/

/-- Bookings stay, and a booking is pending only if it was, or is new. -/
structure Db.BookingsGrow (db db' : Db) : Prop where
  stay : ∀ b r, db.bookings.find? b = some r →
    ∃ r', db'.bookings.find? b = some r' ∧ r.SameStay r'
  pending : ∀ b r r', db.bookings.find? b = some r → db'.bookings.find? b = some r' →
    r'.status = .pendingPayment → r.status = .pendingPayment

theorem Db.BookingsGrow.refl (db : Db) : db.BookingsGrow db where
  stay b r h := ⟨r, h, .refl r⟩
  pending b r r' h h' hst := by
    rw [h] at h'
    cases h'
    exact hst

/-- The payment flow of a booking. -/
def Db.flowOf (db : Db) (b : BookingId) : Option PaymentFlowVersion :=
  (db.bookings.find? b).map Booking.paymentFlowVersion

/-- The flow is chosen when the booking is created. -/
theorem Db.BookingsGrow.flowOf {db db' : Db} (h : db.BookingsGrow db') {b : BookingId}
    {flow : PaymentFlowVersion} (hflow : db.flowOf b = some flow) : db'.flowOf b = some flow := by
  obtain ⟨r, hr, rfl⟩ := Option.map_eq_some_iff.mp hflow
  obtain ⟨r', hr', hstay⟩ := h.stay b r hr
  unfold Db.flowOf
  rw [hr', Option.map_some, hstay.paymentFlowVersion]

theorem Tx.bookingsGrow (t : Tx) (db : Db) : db.BookingsGrow (t.exec db) where
  stay b r h := by
    obtain ⟨r', hr', hstay, -⟩ := (t.effect db).row h
    exact ⟨r', hr', hstay⟩
  pending b r r' h h' hst := by
    obtain ⟨s, hs, -, hmove⟩ := (t.effect db).row h
    rw [h'] at hs
    cases hs
    rcases hmove with hmove | ⟨-, hcancelled⟩
    · rw [hst] at hmove
      generalize r.status = st at hmove
      cases hmove
      rfl
    · rw [hst] at hcancelled
      cases hcancelled

/-! ## Prices -/

theorem commit_priceComponents {α : Type} {db : Db} {r : Except BookingError (α × Db)}
    (h : ∀ a db', r = .ok (a, db') → db'.priceComponents = db.priceComponents) :
    (Lib.commit db r).priceComponents = db.priceComponents :=
  Lib.commit_of (P := fun db' : Db => db'.priceComponents = db.priceComponents) rfl h

theorem releaseExpiredHold_priceComponents (now : Int) (b : BookingId) (db : Db) :
    (releaseExpiredHold now b db).2.priceComponents = db.priceComponents := by
  unfold releaseExpiredHold
  split
  · rfl
  · rfl

/-- Only a new booking writes prices. -/
theorem Tx.priceComponents_eq {t : Tx}
    (ht : ∀ now isDelayedFlow input, t ≠ .createBooking now isDelayedFlow input) (db : Db) :
    (t.exec db).priceComponents = db.priceComponents := by
  cases t with
  | createBooking now isDelayedFlow input => exact absurd rfl (ht now isDelayedFlow input)
  | cancelBooking now input =>
    refine commit_priceComponents fun r db' h => ?_
    obtain ⟨b, bpc, -, -, -, -, rfl⟩ := cancelBooking_eq_ok h
    rfl
  | releaseExpiredHold now b => exact releaseExpiredHold_priceComponents now b db
  | discardUnpaidBooking now booking =>
    exact discardLocked_of (P := fun db' : Db => db'.priceComponents = db.priceComponents) rfl fun _ => rfl
  | createCalendarFeed p name feedUrl => rw [Tx.calendarFrame rfl db]
  | setCalendarFeedActive today p feedId isActive => rw [Tx.calendarFrame rfl db]
  | deleteCalendarFeed today p feedId => rw [Tx.calendarFrame rfl db]
  | replaceFeedEvents today p feedId events etag lastModified => rw [Tx.calendarFrame rfl db]
  | savePaymentMethod b paymentMethodId =>
    refine commit_priceComponents fun r db' h => ?_
    unfold HostPlatform.savePaymentMethod at h
    split at h
    · cases h
    · cases h
      rfl
  | decideCharge now token b amountMinor currency =>
    obtain ⟨attempts, h⟩ := decideCharge_eq now token b amountMinor currency db
    rw [h]
  | recordChargeOutcome now b attemptId claimToken status details =>
    obtain ⟨bookings, attempts, h⟩ := recordChargeOutcome_eq now b attemptId claimToken status details db
    rw [h]
  | upsertPayment b intentId guestTotalMinor currency =>
    refine commit_priceComponents fun r db' h => ?_
    obtain ⟨-, -, -, -, -, -, hframe⟩ := upsertPayment_eq_ok h
    rw [hframe]
  | paymentSucceeded now intent =>
    refine commit_priceComponents fun input db' h => ?_
    obtain ⟨bookings, attempts, payments, payouts, ledgerEntries, rfl⟩ := onPaymentSucceeded_eq h
    rfl
  | createEntitlement input =>
    show (HostPlatform.createEntitlement input db).priceComponents = _
    rw [createEntitlement_frame]
  | refundEvent refund =>
    obtain ⟨bookings, payments, refunds, payouts, ledgerEntries, h⟩ := onRefundEvent_eq refund db
    rw [h]
  | disputeCreated dispute =>
    obtain ⟨bookings, payouts, disputes, h⟩ := onDisputeCreated_eq dispute db
    show (onDisputeCreated dispute db).priceComponents = _
    rw [h]
  | _ => rfl

/-- Every booking has its price row. -/
def Db.Priced (db : Db) : Prop :=
  ∀ b r, db.bookings.find? b = some r → ∃ pc, db.priceComponents.find? b = some pc

theorem Db.Priced.of_no_bookings {db : Db} (h : db.bookings.rows = []) : db.Priced := by
  intro b r hr
  have hmem := Table.mem_of_find? hr
  rw [h] at hmem
  cases hmem

theorem BookingInserted.priced_find {input : CreateBookingInput} {isDelayedFlow : Bool} {row : Booking}
    {db db' : Db} (h : BookingInserted input isDelayedFlow row db db') {b : BookingId}
    (hb : b = row.id ∨ ∃ pc, db.priceComponents.find? b = some pc) :
    ∃ pc, db'.priceComponents.find? b = some pc := by
  obtain ⟨pc, -, hpc⟩ := h.priced
  rw [hpc]
  split
  · exact ⟨pc, rfl⟩
  · rename_i hne
    exact hb.resolve_left hne

theorem Db.Priced.exec {db : Db} (hpriced : db.Priced) (t : Tx) : (t.exec db).Priced := by
  intro b r' hr'
  cases hr : db.bookings.find? b with
  | none =>
    obtain ⟨isDelayedFlow, input, hinserted, hid⟩ := (t.effect db).new_row hr hr'
    exact hinserted.priced_find (.inl hid.symm)
  | some r =>
    by_cases ht : ∃ now isDelayedFlow input, t = .createBooking now isDelayedFlow input
    · obtain ⟨now, isDelayedFlow, input, rfl⟩ := ht
      refine Lib.commit_of (P := fun db' : Db => ∃ pc, db'.priceComponents.find? b = some pc)
        (hpriced b r hr) fun c db' h => ?_
      rcases createBooking_eq_ok h with rfl | ⟨row, -, hrow⟩
      · exact hpriced b r hr
      · exact hrow.priced_find (.inr (hpriced b r hr))
    · rw [Tx.priceComponents_eq fun now isDelayedFlow input h => ht ⟨now, isDelayedFlow, input, h⟩]
      exact hpriced b r hr

/-! ## Payouts and entitlements -/

/-- The webhooks that write payouts. -/
def Tx.writesPayouts : Tx → Bool
  | .paymentSucceeded .. | .refundEvent _ | .disputeCreated _ => true
  | _ => false

/-- Payouts and entitlements as they were, except after the transactions that write them. -/
def Db.PayoutFrame (t : Tx) (db db' : Db) : Prop :=
  (db'.payouts = db.payouts ∨ t.writesPayouts) ∧
    (db'.entitlements = db.entitlements ∨ ∃ input, t = .createEntitlement input)

theorem Db.PayoutFrame.of_sameMoney {t : Tx} {db db' : Db} (h : db.SameMoney db') : db.PayoutFrame t db' :=
  ⟨.inl h.payouts, .inl h.entitlements⟩

theorem Tx.payouts_entitlements (t : Tx) (db : Db) : db.PayoutFrame t (t.exec db) := by
  have hsame : db.PayoutFrame t db := ⟨.inl rfl, .inl rfl⟩
  cases t with
  | createBooking now isDelayedFlow input => exact .of_sameMoney (createBooking_sameMoney now isDelayedFlow input db)
  | cancelBooking now input =>
    exact Lib.commit_of hsame fun r db' h => .of_sameMoney (cancelBooking_sameMoney h)
  | releaseExpiredHold now b => exact .of_sameMoney (releaseExpiredHold_sameMoney now b db)
  | discardUnpaidBooking now booking => exact .of_sameMoney (discardUnpaidBooking_sameMoney now booking db)
  | createCalendarFeed p name feedUrl => exact .of_sameMoney (Tx.calendarFrame rfl db).sameMoney
  | setCalendarFeedActive today p feedId isActive => exact .of_sameMoney (Tx.calendarFrame rfl db).sameMoney
  | deleteCalendarFeed today p feedId => exact .of_sameMoney (Tx.calendarFrame rfl db).sameMoney
  | replaceFeedEvents today p feedId events etag lastModified =>
    exact .of_sameMoney (Tx.calendarFrame rfl db).sameMoney
  | savePaymentMethod b paymentMethodId => exact .of_sameMoney (savePaymentMethod_sameMoney b paymentMethodId db)
  | decideCharge now token b amountMinor currency =>
    obtain ⟨attempts, h⟩ := decideCharge_eq now token b amountMinor currency db
    rw [h]
    exact ⟨.inl rfl, .inl rfl⟩
  | recordChargeOutcome now b attemptId claimToken status details =>
    obtain ⟨bookings, attempts, h⟩ := recordChargeOutcome_eq now b attemptId claimToken status details db
    rw [h]
    exact ⟨.inl rfl, .inl rfl⟩
  | upsertPayment b intentId guestTotalMinor currency =>
    refine Lib.commit_of hsame fun r db' h => ?_
    obtain ⟨-, -, -, -, -, -, hframe⟩ := upsertPayment_eq_ok h
    rw [hframe]
    exact ⟨.inl rfl, .inl rfl⟩
  | paymentSucceeded now intent =>
    refine Lib.commit_of hsame fun input db' h => ?_
    obtain ⟨bookings, attempts, payments, payouts, ledgerEntries, rfl⟩ := onPaymentSucceeded_eq h
    exact ⟨.inr rfl, .inl rfl⟩
  | createEntitlement input =>
    refine ⟨.inl ?_, .inr ⟨input, rfl⟩⟩
    show (HostPlatform.createEntitlement input db).payouts = _
    rw [createEntitlement_frame]
  | refundEvent refund =>
    obtain ⟨bookings, payments, refunds, payouts, ledgerEntries, h⟩ := onRefundEvent_eq refund db
    rw [h]
    exact ⟨.inr rfl, .inl rfl⟩
  | disputeCreated dispute =>
    obtain ⟨bookings, payouts, disputes, h⟩ := onDisputeCreated_eq dispute db
    refine ⟨.inr rfl, .inl ?_⟩
    show (onDisputeCreated dispute db).entitlements = _
    rw [h]
  | _ => exact hsame

/-! ## Feeds -/

/-- The transactions and statements that write feeds or their events. -/
def Tx.writesFeeds (t : Tx) : Bool :=
  t.onFeeds || match t with
    | .markSyncRunning .. | .recordNotModified .. | .recordSyncError .. => true
    | _ => false

/-- The feeds and their events are the same. -/
structure Db.SameFeeds (db db' : Db) : Prop where
  calendarFeeds : db'.calendarFeeds = db.calendarFeeds
  calendarEvents : db'.calendarEvents = db.calendarEvents

theorem Db.SameFeeds.refl (db : Db) : db.SameFeeds db := ⟨rfl, rfl⟩

theorem Tx.sameFeeds {t : Tx} (h : t.writesFeeds = false) (db : Db) : db.SameFeeds (t.exec db) := by
  have hsame := Db.SameFeeds.refl db
  cases t with
  | createBooking now isDelayedFlow input =>
    refine Lib.commit_of hsame fun r db' h => ?_
    rcases createBooking_eq_ok h with rfl | ⟨row, -, hrow⟩
    · exact hsame
    · rw [hrow.frame]
      exact ⟨rfl, rfl⟩
  | cancelBooking now input =>
    refine Lib.commit_of hsame fun r db' h => ?_
    obtain ⟨b, bpc, -, -, -, -, rfl⟩ := cancelBooking_eq_ok h
    exact ⟨rfl, rfl⟩
  | releaseExpiredHold now b =>
    show db.SameFeeds (HostPlatform.releaseExpiredHold now b db).2
    unfold HostPlatform.releaseExpiredHold
    split
    · exact hsame
    · exact ⟨rfl, rfl⟩
  | discardUnpaidBooking now booking => exact discardLocked_of hsame fun _ => ⟨rfl, rfl⟩
  | savePaymentMethod b paymentMethodId =>
    refine Lib.commit_of hsame fun changed db' h => ?_
    unfold HostPlatform.savePaymentMethod at h
    split at h
    · cases h
    · cases h
      exact ⟨rfl, rfl⟩
  | decideCharge now token b amountMinor currency =>
    obtain ⟨attempts, h⟩ := decideCharge_eq now token b amountMinor currency db
    rw [h]
    exact ⟨rfl, rfl⟩
  | recordChargeOutcome now b attemptId claimToken status details =>
    obtain ⟨bookings, attempts, h⟩ := recordChargeOutcome_eq now b attemptId claimToken status details db
    rw [h]
    exact ⟨rfl, rfl⟩
  | upsertPayment b intentId guestTotalMinor currency =>
    refine Lib.commit_of hsame fun u db' h => ?_
    obtain ⟨row, -, -, -, -, -, hframe⟩ := upsertPayment_eq_ok h
    rw [hframe]
    exact ⟨rfl, rfl⟩
  | paymentSucceeded now intent =>
    refine Lib.commit_of hsame fun input db' h => ?_
    obtain ⟨bookings, attempts, payments, payouts, ledgerEntries, rfl⟩ := onPaymentSucceeded_eq h
    exact ⟨rfl, rfl⟩
  | createEntitlement input =>
    show db.SameFeeds (HostPlatform.createEntitlement input db)
    rw [createEntitlement_frame]
    exact ⟨rfl, rfl⟩
  | refundEvent refund =>
    obtain ⟨bookings, payments, refunds, payouts, ledgerEntries, h⟩ := onRefundEvent_eq refund db
    rw [h]
    exact ⟨rfl, rfl⟩
  | disputeCreated dispute =>
    obtain ⟨bookings, payouts, disputes, h⟩ := onDisputeCreated_eq dispute db
    show db.SameFeeds (onDisputeCreated dispute db)
    rw [h]
    exact ⟨rfl, rfl⟩
  | createCalendarFeed p name feedUrl => cases h
  | setCalendarFeedActive today p feedId isActive => cases h
  | deleteCalendarFeed today p feedId => cases h
  | replaceFeedEvents today p feedId events etag lastModified => cases h
  | markSyncRunning p feedId => cases h
  | recordNotModified p feedId etag lastModified => cases h
  | recordSyncError p feedId message => cases h
  | _ => exact ⟨rfl, rfl⟩

end HostPlatform
