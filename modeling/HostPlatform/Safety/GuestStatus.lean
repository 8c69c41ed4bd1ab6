-- SUMMARY: When what the guest and the host are told about the payment of a delayed-flow booking is true.
import HostPlatform.Booking.TripHistory
import HostPlatform.DelayedStatus
import HostPlatform.Safety.PaidBooking

/-!
# The payment status

`paid` takes priority over every other status, and is read off the status `confirmed`. So it
never lies, but a stay that is over is `completed` and no longer paid. A booking is cancelled for
nonpayment, which takes priority even over `paid`, only if no attempt at all was made: one whose
attempts failed until its hold expired is told to repair its payment.
-/

namespace HostPlatform

open Lib (Table)
open Lib.Transition

/-- The step cancels the booking because its hold expired. -/
def Expires (w : World) (l : Label) (b : BookingId) : Prop :=
  ∃ now, l = .transaction (.releaseExpiredHold now b) ∧ (expiredHold now b w.db).isSome

/-- The booking was cancelled by the expiry of its hold in the course of the run. -/
def CancelledByExpiry (w : World) (ls : List Label) (b : BookingId) : Prop := Did World.step Expires w ls b

/-- Guest and host are both told this status of the booking, wherever they look. -/
structure TellsStatus (db : Db) (now : Int) (b : Booking) (status : GuestPaymentStatus) : Prop where
  guestList : ∀ guestId includeArchived, ∀ v ∈ listBookingsForGuest db now guestId includeArchived,
    v.id = b.id → v.guestPaymentStatus = some status
  listed : ∃ v ∈ listBookingsForGuest db now b.guestId true, v.id = b.id
  guestDetail : (getBookingDetail db now b.id).map BookingDetail.guestPaymentStatus = .ok (some status)
  hostList : ∀ hostId, ∀ v ∈ listBookingsForHost db now hostId, v.id = b.id →
    v.guestPaymentStatus = some status
  hostListed : ∃ v ∈ listBookingsForHost db now b.hostId, v.id = b.id
  hostDetail : (getHostBookingDetail db now b.id).map HostBookingDetail.guestPaymentStatus = some (some status)

/-- The status says of the payment of the booking what happened. -/
structure Truthful (db : Db) (expired : Prop) (b : Booking) (status : GuestPaymentStatus) : Prop where
  paid : db.hasSucceededAttempt b.id → b.status = .confirmed ∨ b.status = .completed → status = .paid
  succeeded : status = .paid → db.hasSucceededAttempt b.id
  nonpayment : expired → db.hasSucceededAttempt b.id = false → status = .cancelledForNonpayment

/-! ## The views -/

section

variable {db : Db} {now : Int} {b : Booking}

theorem mem_byCheckIn {rows : List Booking} : b ∈ byCheckIn rows ↔ b ∈ rows := List.mem_mergeSort

theorem mem_listBookingsForGuest {guestId : UserId} {includeArchived : Bool} {v : TripView} :
    v ∈ listBookingsForGuest db now guestId includeArchived ↔ ∃ b ∈ db.bookings.rows,
      (b.guestId = guestId ∧ (includeArchived ∨ b.archivedAt = none)) ∧ mapTripRow now (tripRow db b) = v := by
  unfold listBookingsForGuest Table.select
  simp only [List.mem_map, mem_byCheckIn, List.mem_filter, Bool.and_eq_true, decide_eq_true_eq, Bool.or_eq_true,
    Option.isNone_iff_eq_none, and_assoc]

theorem mem_listBookingsForHost {hostId : HostId} {v : HostTripView} :
    v ∈ listBookingsForHost db now hostId ↔
      ∃ b ∈ db.bookings.rows, b.hostId = hostId ∧ hostTripView db now b = v := by
  unfold listBookingsForHost Table.select
  simp only [List.mem_map, mem_byCheckIn, List.mem_filter, decide_eq_true_eq, and_assoc]

/-- All views tell what `computeGuestPaymentStatus` computes. -/
theorem tellsStatus_iff (hb : db.bookings.find? b.id = some b) {status : GuestPaymentStatus} :
    TellsStatus db now b status ↔
      computeGuestPaymentStatus db now b.id (hostPaymentBooking b) = some status := by
  have hmem := Table.mem_of_find? hb
  have hunique : ∀ c ∈ db.bookings.rows, c.id = b.id → c = b := fun c hc hid => Table.key_inj hc hmem hid
  constructor
  · intro h
    have hdetail := h.guestDetail
    rw [guestPaymentStatus_getBookingDetail hb] at hdetail
    exact Except.ok.inj hdetail
  · intro h
    constructor
    case guestList =>
      intro guestId includeArchived v hv hid
      obtain ⟨c, hc, -, rfl⟩ := mem_listBookingsForGuest.mp hv
      obtain rfl : c = b := hunique c hc hid
      rw [guestPaymentStatus_mapTripRow, h]
    case listed =>
      exact ⟨_, mem_listBookingsForGuest.mpr ⟨b, hmem, ⟨rfl, .inl rfl⟩, rfl⟩, rfl⟩
    case guestDetail => rw [guestPaymentStatus_getBookingDetail hb, h]
    case hostList =>
      intro hostId v hv hid
      obtain ⟨c, hc, -, rfl⟩ := mem_listBookingsForHost.mp hv
      obtain rfl : c = b := hunique c hc hid
      exact h
    case hostListed =>
      exact ⟨_, mem_listBookingsForHost.mpr ⟨b, hmem, rfl, rfl⟩, rfl⟩
    case hostDetail =>
      unfold getHostBookingDetail
      rw [hb]
      simp only [Option.map_some, h]

end

/-! ## The derivation -/

theorem Db.latestAttempt_eq_none {db : Db} {b : BookingId} :
    db.latestAttempt b = none ↔ db.attemptsOf b = [] := List.argmax_eq_none

section

variable {now : Int} {facts : GuestPaymentFacts}

theorem deriveGuestPaymentStatus_eq_paid :
    deriveGuestPaymentStatus now facts = .paid ↔
      facts.bookingCancelledForNonpayment = false ∧ facts.hasSucceeded = true := by
  unfold deriveGuestPaymentStatus
  cases facts.bookingCancelledForNonpayment with
  | true => simp
  | false =>
    cases facts.hasSucceeded with
    | true => simp
    | false =>
      simp only [Bool.false_eq_true, if_false, and_false, iff_false]
      split_ifs <;> exact nofun

theorem deriveGuestPaymentStatus_eq_cancelledForNonpayment :
    deriveGuestPaymentStatus now facts = .cancelledForNonpayment ↔
      facts.bookingCancelledForNonpayment = true := by
  unfold deriveGuestPaymentStatus
  cases facts.bookingCancelledForNonpayment with
  | true => simp
  | false =>
    simp only [Bool.false_eq_true, if_false, iff_false]
    split_ifs <;> exact nofun

end

/-- `paid` stands for `confirmed`, and `cancelled_for_nonpayment` for a cancelled booking without
an attempt. -/
theorem computeGuestPaymentStatus_delayed (db : Db) (now : Int) {b : Booking}
    (hflow : b.paymentFlowVersion = .separateChargesDelayedV1) :
    ∃ status, computeGuestPaymentStatus db now b.id (hostPaymentBooking b) = some status ∧
      (status = .paid ↔ b.status = .confirmed) ∧
      (status = .cancelledForNonpayment ↔ b.status = .cancelled ∧ db.attemptsOf b.id = []) := by
  unfold computeGuestPaymentStatus
  rw [if_neg (by simp [hostPaymentBooking, hflow])]
  refine ⟨_, rfl, ?_, ?_⟩
  · apply Iff.trans deriveGuestPaymentStatus_eq_paid
    constructor
    · exact fun h => of_decide_eq_true h.2
    · intro h
      refine ⟨Bool.and_eq_false_iff.mpr (.inl (decide_eq_false ?_)), decide_eq_true h⟩
      show b.status ≠ .cancelled
      rw [h]
      decide
  · apply Iff.trans deriveGuestPaymentStatus_eq_cancelledForNonpayment
    rw [← Db.latestAttempt_eq_none, ← Option.isNone_iff_eq_none]
    apply Iff.trans Bool.and_eq_true_iff
    exact and_congr_left' decide_eq_true_iff

/-! ## Whole runs -/

/-- The booking is not waiting for anything any more, if it is of the delayed flow. -/
def Db.CancelledDelayed (db : Db) (b : BookingId) : Prop :=
  ∃ flow, db.flowOf b = some flow ∧ (flow = .separateChargesDelayedV1 → db.statusOf b = some .cancelled)

theorem World.cancelledDelayed_step {w : World} {b : BookingId} (hinv : w.FlowsAgree)
    (h : w.db.CancelledDelayed b) (l : Label) : (w.step l).db.CancelledDelayed b := by
  obtain ⟨flow, hflow, hcancelled⟩ := h
  refine ⟨flow, (w.grows_step l).flow b flow hflow, ?_⟩
  rintro rfl
  exact w.cancelled_step l hinv (hcancelled rfl) hflow

theorem CancelledByExpiry.cancelledDelayed {db : Db} (hpayments : db.payments.rows = []) {ls : List Label}
    {b : BookingId} (h : CancelledByExpiry (World.start db) ls b) :
    (run World.step (World.start db) ls).db.CancelledDelayed b := by
  obtain ⟨pre, l, suf, rfl, now, rfl, hexpired⟩ := h
  have hagree : (run World.step (World.start db) pre).FlowsAgree :=
    run_invariant' (I := World.FlowsAgree) (fun _ l h => h.step l) (.start hpayments) pre
  rw [run_append, run_cons]
  generalize run World.step (World.start db) pre = w at hexpired hagree
  obtain ⟨row, hrow⟩ := Option.isSome_iff_exists.mp hexpired
  obtain rfl : row.id = b := Table.key_of_find? (expiredHold_eq_some hrow).1
  have hreleases : w.releases (.transaction (.releaseExpiredHold now row.id)) = some row := hrow
  have hcancels := World.release_step (w := w) (.expired now row.id)
  rw [hreleases] at hcancels
  have hcancelled := hcancels.cancelled
  obtain ⟨r, hr, -⟩ := Db.statusOf_eq_some.mp hcancelled
  refine (run_invariant' (I := fun w : World => w.FlowsAgree ∧ w.db.CancelledDelayed row.id)
    (fun w l h => ⟨h.1.step l, World.cancelledDelayed_step h.1 h.2 l⟩) ⟨hagree.step _, ?_⟩ suf).2
  refine ⟨r.paymentFlowVersion, ?_, fun _ => hcancelled⟩
  unfold Db.flowOf
  rw [hr, Option.map_some]

/-- In any state of any run, guest and host are told the truth about a delayed-flow booking,
exactly if it is not a paid stay that is over, nor one whose attempts all failed until its hold
expired. -/
theorem guestStatus_truthful_iff {db : Db} (hbookings : db.bookings.rows = [])
    (hpayments : db.payments.rows = []) (hattempts : db.paymentAttempts.rows = []) (ls : List Label)
    {b : Booking} (hb : (run World.step (World.start db) ls).db.bookings.find? b.id = some b)
    (hflow : b.paymentFlowVersion = .separateChargesDelayedV1) (now : Int) :
    (∃ status, TellsStatus (run World.step (World.start db) ls).db now b status ∧
      Truthful (run World.step (World.start db) ls).db (CancelledByExpiry (World.start db) ls b.id) b status) ↔
    ¬ (b.status = .completed ∧ (run World.step (World.start db) ls).db.hasSucceededAttempt b.id) ∧
      (CancelledByExpiry (World.start db) ls b.id →
        (run World.step (World.start db) ls).db.hasSucceededAttempt b.id = false →
        (run World.step (World.start db) ls).db.attemptsOf b.id = []) := by
  have hinv : (run World.step (World.start db) ls).AttemptsNamed :=
    run_invariant' (I := World.AttemptsNamed) (fun _ l h => h.step l) (.start hbookings hpayments hattempts) ls
  have hexpiry : CancelledByExpiry (World.start db) ls b.id → b.status = .cancelled := by
    intro h
    obtain ⟨flow, hrow, hcancelled⟩ := h.cancelledDelayed hpayments
    unfold Db.flowOf at hrow
    rw [hb, Option.map_some, hflow] at hrow
    obtain ⟨r, hr, hst⟩ := Db.statusOf_eq_some.mp (hcancelled (Option.some.inj hrow).symm)
    rw [hb] at hr
    cases hr
    exact hst
  generalize run World.step (World.start db) ls = w at hb hinv ⊢
  generalize CancelledByExpiry (World.start db) ls b.id = expired at hexpiry ⊢
  obtain ⟨status, hstatus, hpaid, hnonpayment⟩ :=
    computeGuestPaymentStatus_delayed w.db now hflow
  constructor
  · rintro ⟨told, htells, htruth⟩
    rw [tellsStatus_iff hb, hstatus] at htells
    cases htells
    constructor
    · rintro ⟨hcompleted, hsucceeded⟩
      have hconfirmed := hpaid.mp (htruth.paid hsucceeded (.inr hcompleted))
      rw [hcompleted] at hconfirmed
      cases hconfirmed
    · exact fun hexpired hfailed => (hnonpayment.mp (htruth.nonpayment hexpired hfailed)).2
  · rintro ⟨hover, hrepair⟩
    refine ⟨status, (tellsStatus_iff hb).mpr hstatus, ?_⟩
    constructor
    case paid =>
      rintro hsucceeded (hconfirmed | hcompleted)
      · exact hpaid.mpr hconfirmed
      · exact absurd ⟨hcompleted, hsucceeded⟩ hover
    case succeeded =>
      intro h
      apply hinv.paid b.id
      · unfold Db.flowOf
        rw [hb, Option.map_some, hflow]
      · exact Db.statusOf_eq_some.mpr ⟨b, hb, hpaid.mp h⟩
    case nonpayment => exact fun hexpired hfailed => hnonpayment.mpr ⟨hexpiry hexpired, hrepair hexpired hfailed⟩

/-! ## A paid stay, and a booking that was never paid -/

/-- The booking of the runs below, its card saved. -/
def stayBooked (status : BookingStatus) : Booking :=
  { bookingRow (60 * msPerDay) true (sampleRequest "a") 1 defaultPolicyRules 1 with
    status := status
    taxTreatment := .platformRemits
    stripeCustomerId := some 1
    stripeSetupIntentId := some 1
    stripePaymentMethodId := some 1 }

theorem handledAtOnce_truthful :
    (run World.step (World.start sampleDb) handledAtOnce).db.hasSucceededAttempt 1 ∧ ∃ status,
      TellsStatus (run World.step (World.start sampleDb) handledAtOnce).db (61 * msPerDay)
          (stayBooked .confirmed) status ∧
        Truthful (run World.step (World.start sampleDb) handledAtOnce).db
          (CancelledByExpiry (World.start sampleDb) handledAtOnce 1) (stayBooked .confirmed) status := by
  refine ⟨by decide, (guestStatus_truthful_iff rfl rfl rfl handledAtOnce (b := stayBooked .confirmed) (by decide)
    rfl (61 * msPerDay)).mpr ⟨fun h => absurd h.1 (by decide), fun hexpired => ?_⟩⟩
  exact fun hfailed => absurd hfailed (by decide)

/-- The guest stays. -/
def stayedAfterwards : List Label := handledAtOnce ++ [.transaction (.completeStays 103)]

/-- The charge is declined. -/
def chargeDeclined : List Label :=
  [ .transaction (.createBooking (60 * msPerDay) true (sampleRequest "a")),
    .transaction (.saveSetupIntent 1 1 1),
    .transaction (.configureTaxTreatment 1 .platformRemits),
    .setupIntentSucceeded 1 1,
    .setupIntentContinue (60 * msPerDay) 1,
    .charge (60 * msPerDay) 1 (.processed .declined none true),
    .charge (60 * msPerDay) 1 (.processed .declined none true),
    .charge (60 * msPerDay) 1 (.processed .declined none true) ]

/-- The guest does not repair the payment in the 72 hours left for it. -/
def graceRunOut : List Label := chargeDeclined ++ [.transaction (.releaseExpiredHold (64 * msPerDay) 1)]

def stayUnpaid : Booking :=
  { stayBooked .cancelled with
    holdExpiresAt := some (63 * msPerDay)
    gracePeriodStartedAt := some (60 * msPerDay)
    nextRetryAt := some (61 * msPerDay) }

theorem graceRunOut_expires : CancelledByExpiry (World.start sampleDb) graceRunOut 1 :=
  ⟨chargeDeclined, .transaction (.releaseExpiredHold (64 * msPerDay) 1), [], rfl, 64 * msPerDay, rfl, by decide⟩

/-- The guest who paid and stayed is told that a card is saved, and the one whose booking was
cancelled for nonpayment that the payment failed. -/
theorem stayedAfterwards_graceRunOut_notTruthful :
    (¬ ∃ status,
      TellsStatus (run World.step (World.start sampleDb) stayedAfterwards).db (103 * msPerDay)
          (stayBooked .completed) status ∧
        Truthful (run World.step (World.start sampleDb) stayedAfterwards).db
          (CancelledByExpiry (World.start sampleDb) stayedAfterwards 1) (stayBooked .completed) status) ∧
    ¬ ∃ status,
      TellsStatus (run World.step (World.start sampleDb) graceRunOut).db (64 * msPerDay) stayUnpaid status ∧
        Truthful (run World.step (World.start sampleDb) graceRunOut).db
          (CancelledByExpiry (World.start sampleDb) graceRunOut 1) stayUnpaid status := by
  constructor
  · rintro ⟨status, htells, htruth⟩
    have hstatus := (tellsStatus_iff (b := stayBooked .completed) (by decide)).mp htells
    rw [htruth.paid (by decide) (.inr rfl)] at hstatus
    exact absurd hstatus (by decide)
  · rintro ⟨status, htells, htruth⟩
    have hstatus := (tellsStatus_iff (b := stayUnpaid) (by decide)).mp htells
    rw [htruth.nonpayment graceRunOut_expires (by decide)] at hstatus
    exact absurd hstatus (by decide)

end HostPlatform
