-- SUMMARY: When a booking that has ended can become live again.
import HostPlatform.Transactions

/-!
# Terminal states

`cancelled`, `refunded`, `disputed` and `completed` are where a booking ends. Every
writer of the status column but one respects that: `onRefundEvent` writes
`confirmed` for a payment that is partly refunded, whatever the status was.
-/

namespace HostPlatform

open Lib.Transition

def Db.isTerminal (db : Db) (b : BookingId) : Prop :=
  ∃ st, db.statusOf b = some st ∧ st.terminal

def Db.isLive (db : Db) (b : BookingId) : Prop :=
  ∃ st, db.statusOf b = some st ∧ st.live

theorem BookingStatus.not_live_of_terminal {st : BookingStatus} (h : st.terminal) : ¬ st.live := by
  cases st <;> simp_all [terminal, live]

/-- The transaction is a refund event that writes `confirmed` into booking `b`. -/
def reconfirms (t : Tx) (b : BookingId) (db : Db) : Prop :=
  ∃ refund, t = .refundEvent refund ∧ partiallyRefunds refund b db

/-- Any other transaction keeps a terminal booking terminal. -/
theorem isTerminal_exec {t : Tx} {db : Db} {b : BookingId} (hterminal : db.isTerminal b)
    (hno : ¬ reconfirms t b db) : (t.exec db).isTerminal b := by
  obtain ⟨st, hst, hterm⟩ := hterminal
  obtain ⟨r, hr, rfl⟩ := Db.statusOf_eq_some.mp hst
  obtain ⟨r', hr', -, hmove⟩ := (t.effect db).row hr
  refine ⟨r'.status, Db.statusOf_eq_some.mpr ⟨r', hr', rfl⟩, ?_⟩
  rcases hmove with hmove | ⟨hlive, -⟩
  · generalize r.status = st, r'.status = st' at hterm hmove
    cases hmove with
    | same => exact hterm
    | paid => cases hterm
    | completed => cases hterm
    | disputed => rfl
    | refunded => rfl
    | reconfirmed st refund htx hpartly => exact absurd ⟨refund, htx, hpartly⟩ hno
  · exact absurd hlive (BookingStatus.not_live_of_terminal hterm)

/-- A partial refund of a booking that exists commits, and confirms it. -/
theorem statusOf_exec_of_reconfirms {t : Tx} {db : Db} {b : BookingId} (h : reconfirms t b db)
    (hb : (db.statusOf b).isSome) : (t.exec db).statusOf b = some .confirmed := by
  obtain ⟨refund, rfl, hstatus, hany, payment, hpayment, rfl, hlt, hcum⟩ := h
  obtain ⟨marked, hmarked⟩ := markRefundSucceeded_of_any hany
  obtain ⟨-, hmarkedDb⟩ := markRefundSucceeded_eq_some hmarked
  have hafter : cumulativeAfter refund payment.bookingId db =
      marked.cumulativeRefunded payment.bookingId := by
    unfold cumulativeAfter
    rw [hmarked]
  rw [hafter] at hlt hcum
  obtain ⟨booking, hbooking⟩ : ∃ booking, marked.bookings.find? payment.bookingId = some booking := by
    obtain ⟨st, hst⟩ := Option.isSome_iff_exists.mp hb
    obtain ⟨r, hr, -⟩ := Db.statusOf_eq_some.mp hst
    exact ⟨r, by rw [hmarkedDb]; exact hr⟩
  have hprices : marked.priceComponents = db.priceComponents := by rw [hmarkedDb]
  obtain ⟨db', hrecord⟩ : ∃ db', recordRefund refund payment marked = .ok ((), db') := by
    refine recordRefund_total hbooking ?_
    rcases hcum with hpos | hnone
    · exact .inr ⟨lt_of_le_of_lt hpos hlt, hpos, hlt.le⟩
    · exact .inl (hprices ▸ hnone)
  have hexec : (Tx.refundEvent refund).exec db = db' := by
    show Lib.commit db (onRefundEvent refund db) = db'
    rw [onRefundEvent_eq_recordRefund hstatus hpayment hmarked, hrecord]
    rfl
  have hfully : decide (payment.amountMinor ≤ marked.cumulativeRefunded payment.bookingId) = false := by
    simpa using hlt
  rw [hexec, recordRefund_frame hrecord, hfully]
  show (Db.setBookingStatus _ payment.bookingId .confirmed).statusOf payment.bookingId = _
  rw [Db.statusOf_setBookingStatus, if_pos rfl]
  have hsome : Db.statusOf { marked with
      payments := marked.payments.modify payment.bookingId fun p =>
        { p with status := if false then .refunded else .partiallyRefunded } } payment.bookingId
        = some booking.status := Db.statusOf_eq_some.mpr ⟨booking, hbooking, rfl⟩
  rw [hsome]
  rfl

/-! ## Whole runs -/

/-- Once a booking is terminal it is not live in any later state of the run. -/
def NeverRevived (db : Db) (txs : List Tx) : Prop :=
  ∀ pre mid suf, txs = pre ++ (mid ++ suf) → ∀ b, (run Tx.exec db pre).isTerminal b →
    ¬ (run Tx.exec db (pre ++ mid)).isLive b

/-- The condition on one step: it confirms no booking that has ended. -/
def RevivesNone (db : Db) (t : Tx) : Prop := ∀ b, db.isTerminal b → ¬ reconfirms t b db

theorem isTerminal_run {db : Db} {txs : List Tx} {b : BookingId} (hb : db.isTerminal b)
    (hg : Guarded Tx.exec RevivesNone db txs) : (run Tx.exec db txs).isTerminal b :=
  run_invariant (I := fun db => db.isTerminal b)
    (fun _ _ hterminal hno => isTerminal_exec hterminal (hno b hterminal)) hb hg

/-- A run never revives an ended booking exactly when none of its steps is a
partial refund of a booking that has ended. -/
theorem neverRevived_iff (db : Db) (txs : List Tx) :
    NeverRevived db txs ↔ Guarded Tx.exec RevivesNone db txs := by
  constructor
  · intro hnever
    refine guarded_iff.mpr fun pre t suf htxs b hterminal hreconfirms => ?_
    refine hnever pre [t] suf htxs b hterminal ⟨.confirmed, ?_, rfl⟩
    rw [run_concat]
    refine statusOf_exec_of_reconfirms hreconfirms ?_
    obtain ⟨st, hst, -⟩ := hterminal
    rw [hst]
    rfl
  · intro hg pre mid suf htxs b hterminal hlive
    rw [htxs] at hg
    have hmid := (guarded_append.mp (guarded_append.mp hg).2).1
    obtain ⟨st, hst, hterm⟩ := isTerminal_run hterminal hmid
    obtain ⟨st', hst', hlive'⟩ := hlive
    rw [run_append, hst] at hst'
    cases hst'
    exact BookingStatus.not_live_of_terminal hterm hlive'

/-- A guest pays, cancels two days before check-in for half the price, and the
refund is confirmed by Stripe. -/
def cancelledThenRefunded : List Tx :=
  [ .createBooking 0 false (sampleRequest "a"),
    .upsertPayment 1 7 20000 "GBP",
    .paymentSucceeded 0 ⟨7, some 1, none, none, none⟩,
    .cancelBooking (98 * msPerDay) ⟨1, .guest⟩,
    .insertRefund ⟨1, 1, some 7, 10000, "GBP", .guestCancellation, .guest⟩,
    .linkRefund 1 5,
    .refundEvent ⟨5, some 7, 10000, .succeeded⟩ ]

/-- The cancelled booking is confirmed again by its own refund. -/
theorem cancelledThenRefunded_revives : ¬ NeverRevived sampleDb cancelledThenRefunded := by
  intro hnever
  refine hnever (cancelledThenRefunded.take 4) (cancelledThenRefunded.drop 4) [] ?_ 1
    ⟨.cancelled, by decide, rfl⟩ ⟨.confirmed, by decide, rfl⟩
  simp

end HostPlatform
