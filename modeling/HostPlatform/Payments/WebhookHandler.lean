-- SUMMARY: The webhook handlers for payments, refunds and disputes (`webhookHandler.ts`).
import HostPlatform.Payments.NewFlowWebhookHandling
import HostPlatform.Payments.Refund
import HostPlatform.Payments.RefundReversal

/-!
# Webhook handlers

Each handler runs in one transaction; an error rolls it back and Stripe delivers
the event again. `payments` and `refunds` rows are found by the Stripe id they carry.
-/

namespace HostPlatform

/-- A property read on a row that a query did not return. -/
def typeError : BookingError := ⟨"TypeError", "Cannot read properties of undefined"⟩

/-- `SELECT .. FROM payments WHERE provider_payment_intent_id = $1`. -/
def Db.paymentByIntent (db : Db) (intentId : PaymentIntentId) : Option Payment :=
  db.payments.rows.find? fun p => p.providerPaymentIntentId == some intentId

/-- `UPDATE payments .. WHERE provider_payment_intent_id = $1`. -/
def updatePaymentByIntent (db : Db) (intentId : PaymentIntentId) (f : Payment → Payment)
    (hf : ∀ p : Payment, Lib.key (f p) = Lib.key p := by intro p; rfl) : Db :=
  let named (p : Payment) : Bool := p.providerPaymentIntentId == some intentId
  { db with payments := db.payments.updateWhere named f hf }

/-! ## `payment_intent.succeeded` -/

def ledgerEntry (booking : Booking) (currency : String) (reference : ExternalReference)
    (type : LedgerType) (amountMinor : Int) (status : LedgerStatus) : LedgerEntry :=
  { bookingId := booking.id
    propertyId := booking.propertyId
    hostId := booking.hostId
    type := type
    amountMinor := amountMinor
    currency := currency
    status := status
    externalReference := reference }

/-- The rows of a confirmed legacy payment; the host's payout is still pending. -/
def paymentLedgerRows (booking : Booking) (pc : PriceComponents) (intentId : PaymentIntentId) :
    List LedgerEntry :=
  let entry := ledgerEntry booking pc.currency (.paymentIntent intentId)
  [ entry .guestCharge pc.guestTotalMinor .paid,
    entry .accommodationRevenue pc.accommodationMinor .paid,
    entry .cleaningFee pc.cleaningMinor .paid,
    entry .guestServiceFee pc.guestServiceFeeMinor .paid,
    entry .taxes pc.taxesMinor .paid,
    entry .hostCommission pc.hostCommissionMinor .paid,
    entry .hostRevenue pc.hostRevenueMinor .paid,
    entry .hostPayout pc.hostPayoutMinor .pending ]

def payoutRow (now : Int) (booking : Booking) (pc : PriceComponents) (id : Nat) : Payout :=
  { id := id
    hostId := booking.hostId
    bookingId := booking.id
    amountMinor := pc.hostPayoutMinor
    currency := pc.currency
    status := .scheduled
    scheduledReleaseAt := scheduledReleaseAt now booking }

/-- The legacy transaction: mark the payment paid, confirm a pending booking, and
write its ledger rows and payout. -/
def onLegacyPaymentSucceeded (now : Int) (bookingId : BookingId) (intentId : PaymentIntentId)
    (db : Db) : Except BookingError (Unit × Db) :=
  if (db.paymentByIntent intentId).any fun p => decide (p.status = .paid) then .ok ((), db) else
  let paid := updatePaymentByIntent db intentId fun p => { p with status := .paid }
  match (db.bookings.find? bookingId).filter fun b => decide (b.status = .pendingPayment) with
  | none => .ok ((), paid)
  | some booking =>
    match db.priceComponents.find? bookingId with
    | none => .error typeError
    | some pc =>
      let confirmed := confirmPendingBooking paid bookingId
      .ok ((), { confirmed with
        ledgerEntries := confirmed.ledgerEntries ++ paymentLedgerRows booking pc intentId
        payouts := confirmed.payouts.insertNew (payoutRow now booking pc) })

/-- `onPaymentSucceeded`, up to its first commit: PaymentIntents of the delayed
flow are routed away, and leave an entitlement to insert. -/
def onPaymentSucceeded (now : Int) (intent : PaymentIntentObject) (db : Db) :
    Except BookingError (Option EntitlementInput × Db) :=
  match intent.bookingId with
  | none => .ok (none, db)
  | some bookingId =>
    if intent.paymentFlowVersion = some .separateChargesDelayedV1 then
      .ok (onNewFlowPaymentSucceeded now intent db)
    else (onLegacyPaymentSucceeded now bookingId intent.id db).map fun r => (none, r.2)

theorem unpaid_of_eq_some {db : Db} {intentId : PaymentIntentId} {p : Payment}
    (hp : db.paymentByIntent intentId = some p) (hunpaid : p.status ≠ .paid) :
    ∀ q, db.paymentByIntent intentId = some q → q.status ≠ .paid := by
  intro q hq
  cases hp.symm.trans hq
  exact hunpaid

/-- The handler's first test fails: the payment, if there is one, is not paid. -/
theorem not_anyPaid {db : Db} {intentId : PaymentIntentId}
    (h : ∀ p, db.paymentByIntent intentId = some p → p.status ≠ .paid) :
    ¬ (db.paymentByIntent intentId).any fun p => decide (p.status = .paid) := by
  intro hany
  obtain ⟨p, hp, hpaid⟩ := (Option.any_eq_true _ _).mp hany
  exact h p hp (of_decide_eq_true hpaid)

/-- The first delivery for a booking that waits for payment books the charge. -/
theorem onLegacyPaymentSucceeded_pending {now : Int} {bookingId : BookingId} {intentId : PaymentIntentId}
    {db : Db} {booking : Booking} {pc : PriceComponents}
    (hunpaid : ∀ p, db.paymentByIntent intentId = some p → p.status ≠ .paid)
    (hbooking : db.bookings.find? bookingId = some booking) (hpending : booking.status = .pendingPayment)
    (hpc : db.priceComponents.find? bookingId = some pc) :
    onLegacyPaymentSucceeded now bookingId intentId db =
      let confirmed := confirmPendingBooking
        (updatePaymentByIntent db intentId fun p => { p with status := .paid }) bookingId
      .ok ((), { confirmed with
        ledgerEntries := confirmed.ledgerEntries ++ paymentLedgerRows booking pc intentId
        payouts := confirmed.payouts.insertNew (payoutRow now booking pc) }) := by
  have hfilter : (db.bookings.find? bookingId).filter (fun b => decide (b.status = .pendingPayment)) =
      some booking := by
    rw [hbooking, Option.filter_some, if_pos (decide_eq_true hpending)]
  simp only [onLegacyPaymentSucceeded, if_neg (not_anyPaid hunpaid), hfilter, hpc]

/-- What a success without an error leaves: nothing new, what the delayed flow writes, or what
the legacy one does. -/
theorem onPaymentSucceeded_eq_ok {now : Int} {intent : PaymentIntentObject} {db db' : Db}
    {input : Option EntitlementInput} (h : onPaymentSucceeded now intent db = .ok (input, db')) :
    db' = db ∨ db' = (onNewFlowPaymentSucceeded now intent db).2 ∨
      ∃ b ∈ intent.bookingId, ∃ u, onLegacyPaymentSucceeded now b intent.id db = .ok (u, db') := by
  unfold onPaymentSucceeded at h
  split at h
  · cases h
    exact .inl rfl
  · rename_i b hb
    split at h
    · exact .inr (.inl (congrArg Prod.snd (Except.ok.inj h)).symm)
    · cases hlegacy : onLegacyPaymentSucceeded now b intent.id db with
      | error e =>
        rw [hlegacy] at h
        cases h
      | ok p =>
        rw [hlegacy] at h
        cases h
        exact .inr (.inr ⟨b, hb, p.1, hlegacy⟩)


theorem onLegacyPaymentSucceeded_eq_ok {now : Int} {bookingId : BookingId}
    {intentId : PaymentIntentId} {db db' : Db} {u : Unit}
    (h : onLegacyPaymentSucceeded now bookingId intentId db = .ok (u, db')) :
    db' = db ∨ ((db.bookings.find? bookingId).all (fun b => decide (b.status ≠ .pendingPayment)) ∧
      db' = updatePaymentByIntent db intentId fun p => { p with status := .paid }) ∨
    ∃ booking pc, db.bookings.find? bookingId = some booking ∧ booking.status = .pendingPayment ∧
      db.priceComponents.find? bookingId = some pc ∧
      db' =
        let confirmed := confirmPendingBooking
          (updatePaymentByIntent db intentId fun p => { p with status := .paid }) bookingId
        { confirmed with
          ledgerEntries := confirmed.ledgerEntries ++ paymentLedgerRows booking pc intentId
          payouts := confirmed.payouts.insertNew (payoutRow now booking pc) } := by
  simp only [onLegacyPaymentSucceeded] at h
  split at h
  · cases h
    exact Or.inl rfl
  · split at h
    · rename_i hnone
      cases h
      refine Or.inr (Or.inl ⟨?_, rfl⟩)
      cases hb : db.bookings.find? bookingId with
      | none => rfl
      | some b =>
        rw [hb] at hnone
        simpa [Option.filter_eq_none_iff] using hnone
    · rename_i booking hbooking
      obtain ⟨hfind, hpending⟩ := Option.filter_eq_some_iff.mp hbooking
      split at h
      · cases h
      · rename_i pc hpc
        cases h
        exact Or.inr (Or.inr ⟨booking, pc, hfind, by simpa using hpending, hpc, rfl⟩)

/-! ## `payment_intent.payment_failed` -/

/-- The update has no guard on the status it overwrites. -/
def onPaymentFailed (intent : PaymentIntentObject) (db : Db) : Db :=
  updatePaymentByIntent db intent.id fun p =>
    { p with
      status := .failed
      failureCode := intent.lastPaymentError.bind PaymentError.code
      failureMessage := intent.lastPaymentError.bind PaymentError.message }

/-! ## `refund.created` and `refund.updated` -/

/-- The refunds row the event confirms: it carries the Stripe id and has not succeeded. -/
def confirmsRow (refundId : StripeRefundId) (r : Refund) : Bool :=
  decide (r.providerRefundId = some refundId ∧ r.status ≠ .succeeded)

/-- `UPDATE refunds SET status = 'succeeded' .. RETURNING id`: `none` is no row. -/
def markRefundSucceeded (refundId : StripeRefundId) (db : Db) : Option Db :=
  if db.refunds.rows.any (confirmsRow refundId) then
    some { db with
      refunds := db.refunds.updateWhere (confirmsRow refundId) fun r => { r with status := .succeeded } }
  else none

/-- How much of the category is reversed so far. Reversed rows are negative. -/
def Db.alreadyReversed (db : Db) (b : BookingId) (c : Category) : Int :=
  -((db.ledgerEntries.filter fun e =>
      decide (e.bookingId = b ∧ e.status = .reversed ∧ e.type = c.ledgerType)).map
    LedgerEntry.amountMinor).sum

def cancelScheduledPayouts (db : Db) (b : BookingId) : Db :=
  let scheduled (p : Payout) : Bool := decide (p.bookingId = b ∧ p.status = .scheduled)
  { db with payouts := db.payouts.updateWhere scheduled fun p => { p with status := .cancelled } }

def reduceScheduledPayouts (db : Db) (b : BookingId) (amount : Int) : Db :=
  let scheduled (p : Payout) : Bool := decide (p.bookingId = b ∧ p.status = .scheduled)
  { db with
    payouts := db.payouts.updateWhere scheduled fun p => { p with amountMinor := p.amountMinor - amount } }

/-- The payouts after a refund: cancelled when the booking is fully refunded, and
otherwise less what this event reverses. -/
def settlePayouts (db : Db) (b : BookingId) (fullyRefunded : Bool) (hostPayoutReversalMinor : Int) :
    Db :=
  if fullyRefunded then cancelScheduledPayouts db b
  else if 0 < hostPayoutReversalMinor then reduceScheduledPayouts db b hostPayoutReversalMinor
  else db

/-- The status updates of the payment and of the booking, whatever they were. -/
def setRefundedStatuses (db : Db) (b : BookingId) (fullyRefunded : Bool) : Db :=
  let payments := db.payments.modify b fun p =>
    { p with status := if fullyRefunded then .refunded else .partiallyRefunded }
  { db with payments := payments }.setBookingStatus b
    (if fullyRefunded then .refunded else .confirmed)

/-- The ledger rows of one confirmed refund. -/
def refundLedgerRows (refund : RefundObject) (booking : Booking) (pc : PriceComponents)
    (reversal : RefundReversalResult) : List LedgerEntry :=
  reversal.rows.map fun row =>
    ledgerEntry booking pc.currency (.refund refund.id) row.type row.amountMinor row.status

/-- The writes after the refunds row was matched. -/
def recordRefund (refund : RefundObject) (payment : Payment) (db : Db) :
    Except BookingError (Unit × Db) :=
  let b := payment.bookingId
  let cumulativeRefunded := db.cumulativeRefunded b
  let fullyRefunded := decide (payment.amountMinor ≤ cumulativeRefunded)
  let updated := setRefundedStatuses db b fullyRefunded
  match db.priceComponents.find? b with
  | none => .ok ((), updated)
  | some pc =>
    match computeRefundReversalEntries pc.amountOf (db.alreadyReversed b) refund.amount
      cumulativeRefunded payment.amountMinor, db.bookings.find? b with
    | .error e, _ => .error e
    | .ok _, none => .error typeError
    | .ok reversal, some booking =>
      let ledgerEntries := updated.ledgerEntries ++ refundLedgerRows refund booking pc reversal
      .ok ((), settlePayouts { updated with ledgerEntries := ledgerEntries } b fullyRefunded
        reversal.hostPayoutReversalMinor)

def onRefundEvent (refund : RefundObject) (db : Db) : Except BookingError (Unit × Db) :=
  if refund.status ≠ .succeeded then .ok ((), db) else
  match refund.paymentIntent.bind db.paymentByIntent with
  | none => .ok ((), db)
  | some payment =>
    match markRefundSucceeded refund.id db with
    | none => .ok ((), db)
    | some marked => recordRefund refund payment marked

theorem settlePayouts_frame (db : Db) (b : BookingId) (fullyRefunded : Bool) (reversal : Int) :
    settlePayouts db b fullyRefunded reversal =
      { db with payouts := (settlePayouts db b fullyRefunded reversal).payouts } := by
  unfold settlePayouts
  split
  · rfl
  · split
    · rfl
    · rfl

theorem recordRefund_eq_ok {refund : RefundObject} {payment : Payment} {db db' : Db} {u : Unit}
    (h : recordRefund refund payment db = .ok (u, db')) :
    (db.priceComponents.find? payment.bookingId = none ∧
      db' = setRefundedStatuses db payment.bookingId
        (decide (payment.amountMinor ≤ db.cumulativeRefunded payment.bookingId))) ∨
    ∃ pc booking reversal, db.priceComponents.find? payment.bookingId = some pc ∧
      db.bookings.find? payment.bookingId = some booking ∧
      computeRefundReversalEntries pc.amountOf (db.alreadyReversed payment.bookingId) refund.amount
        (db.cumulativeRefunded payment.bookingId) payment.amountMinor = .ok reversal ∧
      db' = settlePayouts
        { setRefundedStatuses db payment.bookingId
            (decide (payment.amountMinor ≤ db.cumulativeRefunded payment.bookingId)) with
          ledgerEntries := db.ledgerEntries ++ refundLedgerRows refund booking pc reversal }
        payment.bookingId (decide (payment.amountMinor ≤ db.cumulativeRefunded payment.bookingId))
        reversal.hostPayoutReversalMinor := by
  simp only [recordRefund] at h
  split at h
  · rename_i hpc
    cases h
    exact Or.inl ⟨hpc, rfl⟩
  · rename_i pc hpc
    split at h
    · cases h
    · cases h
    · rename_i reversal booking hreversal hbooking
      cases h
      exact Or.inr ⟨pc, booking, reversal, hpc, hbooking, hreversal, rfl⟩

/-- What `recordRefund` writes: two statuses, ledger rows at the end, and payouts. -/
theorem recordRefund_frame {refund : RefundObject} {payment : Payment} {db db' : Db} {u : Unit}
    (h : recordRefund refund payment db = .ok (u, db')) :
    db' = { setRefundedStatuses db payment.bookingId
        (decide (payment.amountMinor ≤ db.cumulativeRefunded payment.bookingId)) with
      ledgerEntries := db'.ledgerEntries
      payouts := db'.payouts } := by
  rcases recordRefund_eq_ok h with ⟨-, rfl⟩ | ⟨pc, booking, reversal, -, -, -, rfl⟩
  · rfl
  · rw [settlePayouts_frame]

/-- A refund event that changes anything found its payment and marked its row. -/
theorem onRefundEvent_eq_ok {refund : RefundObject} {db db' : Db} {u : Unit}
    (h : onRefundEvent refund db = .ok (u, db')) :
    db' = db ∨ ∃ payment marked, refund.status = .succeeded ∧
      refund.paymentIntent.bind db.paymentByIntent = some payment ∧
      markRefundSucceeded refund.id db = some marked ∧
      recordRefund refund payment marked = .ok (u, db') := by
  unfold onRefundEvent at h
  split at h
  · cases h
    exact Or.inl rfl
  · rename_i hstatus
    split at h
    · cases h
      exact Or.inl rfl
    · rename_i payment hpayment
      split at h
      · cases h
        exact Or.inl rfl
      · rename_i marked hmarked
        exact Or.inr ⟨payment, marked, not_not.mp hstatus, hpayment, hmarked, h⟩

theorem markRefundSucceeded_eq_some {refundId : StripeRefundId} {db marked : Db}
    (h : markRefundSucceeded refundId db = some marked) :
    db.refunds.rows.any (confirmsRow refundId) ∧
      marked = { db with
        refunds := db.refunds.updateWhere (confirmsRow refundId) fun r => { r with status := .succeeded } } := by
  unfold markRefundSucceeded at h
  split at h
  · rename_i hany
    cases h
    exact ⟨hany, rfl⟩
  · cases h

/-- The payouts are settled from the payouts alone. -/
theorem settlePayouts_payouts {db db' : Db} (h : db'.payouts = db.payouts) (b : BookingId)
    (fullyRefunded : Bool) (reversal : Int) :
    (settlePayouts db' b fullyRefunded reversal).payouts =
      (settlePayouts db b fullyRefunded reversal).payouts := by
  unfold settlePayouts cancelScheduledPayouts reduceScheduledPayouts
  split
  · simp only [h]
  · split
    · simp only [h]
    · exact h

/-- A refund within the payment is recorded without an error. -/
theorem recordRefund_total {refund : RefundObject} {payment : Payment} {db : Db} {booking : Booking}
    (hbooking : db.bookings.find? payment.bookingId = some booking)
    (hcum : db.priceComponents.find? payment.bookingId = none ∨ 0 < payment.amountMinor ∧
      0 ≤ db.cumulativeRefunded payment.bookingId ∧
      db.cumulativeRefunded payment.bookingId ≤ payment.amountMinor) :
    ∃ db', recordRefund refund payment db = .ok ((), db') := by
  simp only [recordRefund]
  split
  · exact ⟨_, rfl⟩
  · rename_i pc hpc
    rcases hcum with hnone | ⟨hpos, hrange⟩
    · rw [hpc] at hnone
      cases hnone
    · have hcompute : ∃ reversal, computeRefundReversalEntries pc.amountOf
          (db.alreadyReversed payment.bookingId) refund.amount
          (db.cumulativeRefunded payment.bookingId) payment.amountMinor = .ok reversal :=
        ⟨_, computeRefundReversalEntries_eq_ok.mpr ⟨hpos, hrange, rfl⟩⟩
      obtain ⟨reversal, hreversal⟩ := hcompute
      rw [hreversal, hbooking]
      exact ⟨_, rfl⟩

theorem onRefundEvent_of_unmatched {refund : RefundObject} {db : Db}
    (h : markRefundSucceeded refund.id db = none) : onRefundEvent refund db = .ok ((), db) := by
  unfold onRefundEvent
  split
  · rfl
  · split
    · rfl
    · simp only [h]

theorem onRefundEvent_eq_recordRefund {refund : RefundObject} {payment : Payment} {db marked : Db}
    (hstatus : refund.status = .succeeded)
    (hpayment : refund.paymentIntent.bind db.paymentByIntent = some payment)
    (hmarked : markRefundSucceeded refund.id db = some marked) :
    onRefundEvent refund db = recordRefund refund payment marked := by
  unfold onRefundEvent
  rw [if_neg (not_not.mpr hstatus), hpayment]
  simp only [hmarked]

/-- Everything one confirmed refund writes, in one transaction: its row, its ledger
rows and the payouts. `marked` is the database once the row is marked. -/
structure RefundRecorded (refund : RefundObject) (payment : Payment) (pc : PriceComponents)
    (booking : Booking) (reversal : RefundReversalResult) (db marked db' : Db) : Prop where
  found : refund.paymentIntent.bind db.paymentByIntent = some payment
  marks : markRefundSucceeded refund.id db = some marked
  priced : db.priceComponents.find? payment.bookingId = some pc
  booked : db.bookings.find? payment.bookingId = some booking
  computed : computeRefundReversalEntries pc.amountOf (db.alreadyReversed payment.bookingId)
    refund.amount (marked.cumulativeRefunded payment.bookingId) payment.amountMinor = .ok reversal
  refunds : db'.refunds = marked.refunds
  ledgerEntries : db'.ledgerEntries = db.ledgerEntries ++ refundLedgerRows refund booking pc reversal
  payouts : db'.payouts = (settlePayouts db payment.bookingId
    (decide (payment.amountMinor ≤ marked.cumulativeRefunded payment.bookingId))
    reversal.hostPayoutReversalMinor).payouts

theorem recordRefund_recorded {refund : RefundObject} {payment : Payment} {pc : PriceComponents}
    {db marked db' : Db} {u : Unit} (hpayment : refund.paymentIntent.bind db.paymentByIntent = some payment)
    (hmarked : markRefundSucceeded refund.id db = some marked)
    (hpc : db.priceComponents.find? payment.bookingId = some pc)
    (h : recordRefund refund payment marked = .ok (u, db')) :
    ∃ booking reversal, RefundRecorded refund payment pc booking reversal db marked db' := by
  have hdb := (markRefundSucceeded_eq_some hmarked).2
  have hframe := recordRefund_frame h
  have hprices : marked.priceComponents = db.priceComponents := by rw [hdb]
  have hbookings : marked.bookings = db.bookings := by rw [hdb]
  have hreversed : marked.alreadyReversed = db.alreadyReversed := by rw [hdb]; rfl
  have hpayouts : marked.payouts = db.payouts := by rw [hdb]
  have hledger : marked.ledgerEntries = db.ledgerEntries := by rw [hdb]
  rcases recordRefund_eq_ok h with ⟨hnone, -⟩ | ⟨pc', booking, reversal, hpc', hb, hreversal, hdb'⟩
  · rw [hprices, hpc] at hnone
    cases hnone
  · rw [hprices, hpc] at hpc'
    cases hpc'
    refine ⟨booking, reversal, hpayment, hmarked, hpc, hbookings ▸ hb, ?_, ?_, ?_, ?_⟩
    · rw [← hreversed]
      exact hreversal
    · rw [hframe]
      rfl
    · rw [hdb', settlePayouts_frame, ← hledger]
    · rw [hdb']
      refine settlePayouts_payouts ?_ _ _ _
      exact hpayouts

/-- For a booking with its price row, an event records its refund or changes nothing. -/
theorem onRefundEvent_recorded {refund : RefundObject} {db db' : Db} {u : Unit}
    (hpriced : ∀ p ∈ db.payments.rows, ∃ pc, db.priceComponents.find? p.bookingId = some pc)
    (h : onRefundEvent refund db = .ok (u, db')) :
    db' = db ∨ refund.status = .succeeded ∧ ∃ payment pc booking reversal marked,
      RefundRecorded refund payment pc booking reversal db marked db' := by
  rcases onRefundEvent_eq_ok h with hsame | ⟨payment, marked, hsucceeded, hpayment, hmarked, hrecord⟩
  · exact .inl hsame
  · obtain ⟨intentId, -, hfind⟩ := Option.bind_eq_some_iff.mp hpayment
    obtain ⟨pc, hpc⟩ := hpriced payment (List.mem_of_find?_eq_some hfind)
    obtain ⟨booking, reversal, hrecorded⟩ := recordRefund_recorded hpayment hmarked hpc hrecord
    exact .inr ⟨hsucceeded, payment, pc, booking, reversal, marked, hrecorded⟩

theorem markRefundSucceeded_of_any {refundId : StripeRefundId} {db : Db}
    (h : db.refunds.rows.any (confirmsRow refundId)) :
    ∃ marked, markRefundSucceeded refundId db = some marked := by
  unfold markRefundSucceeded
  rw [if_pos h]
  exact ⟨_, rfl⟩

/-! ## `refund.failed` -/

def onRefundFailed (refund : RefundObject) (db : Db) : Db :=
  { db with
    refunds := db.refunds.updateWhere (confirmsRow refund.id) fun r => { r with status := .failed } }

/-! ## `charge.dispute.created` -/

def onDisputeCreated (dispute : DisputeObject) (db : Db) : Db :=
  match dispute.paymentIntent.bind db.paymentByIntent with
  | none => db
  | some payment =>
    let row : Dispute :=
      { bookingId := payment.bookingId
        paymentId := payment.bookingId
        providerDisputeId := dispute.id
        reason := dispute.reason
        status := dispute.status
        amountMinor := dispute.amount
        evidenceDueBy := dispute.evidenceDueBy }
    cancelScheduledPayouts
      ({ db with disputes := db.disputes ++ [row] }.setBookingStatus payment.bookingId .disputed)
      payment.bookingId

/-! ## The branch that confirms again -/

/-- The total that counts once the event has marked its row. -/
def cumulativeAfter (refund : RefundObject) (b : BookingId) (db : Db) : Int :=
  match markRefundSucceeded refund.id db with
  | some marked => marked.cumulativeRefunded b
  | none => db.cumulativeRefunded b

/-- The event confirms a refunds row of a payment that stays partly unrefunded:
`onRefundEvent` then writes `confirmed` into the booking, whatever its status. -/
def partiallyRefunds (refund : RefundObject) (b : BookingId) (db : Db) : Prop :=
  refund.status = .succeeded ∧ db.refunds.rows.any (confirmsRow refund.id) ∧
    ∃ payment, refund.paymentIntent.bind db.paymentByIntent = some payment ∧ payment.bookingId = b ∧
      cumulativeAfter refund b db < payment.amountMinor ∧
      (0 ≤ cumulativeAfter refund b db ∨ db.priceComponents.find? b = none)

end HostPlatform
