-- SUMMARY: When no delayed-flow booking is charged before its scheduled charge date.
import HostPlatform.Safety.NoDoubleCharge

/-!
# Charge timing

`createBooking` decides the timing of a charge once and persists it; the handler of
`setup_intent.succeeded` decides again, by its own clock. Both count whole days to
check-in, so in the last day before the scheduled charge date, when 60 days and a
fraction are left, the handler charges at once what is scheduled for later.
-/

namespace HostPlatform

open Lib (Table)
open Lib.Transition

/-! ## One clock -/

/-- The clock reading of a step. -/
def Label.clock? : Label → Option Int
  | .transaction (.createBooking now _ _) | .transaction (.releaseExpiredHold now _)
  | .cancelBookingAndRefund now _ | .sweepCharge now _ | .setupIntentContinue now _ | .charge now _ _
  | .paymentSucceeded now _ | .discard now _ => some now
  | _ => none

/-- The system and the time of its last step. -/
structure Timed where
  world : World
  clock : Int

def Timed.start (db : Db) (clock : Int) : Timed := ⟨.start db, clock⟩

/-- The system by one clock: no step is taken before an earlier one. -/
def Timed.step (s : Timed) (l : Label) : Timed :=
  match l.clock? with
  | none => { s with world := s.world.step l }
  | some now => if s.clock ≤ now then ⟨s.world.step l, now⟩ else s

/-- The step creates an off-session PaymentIntent for the booking. -/
def Timed.Creates (s : Timed) (l : Label) (b : BookingId) : Prop :=
  ∃ i ∈ (s.step l).world.stripe.intents.rows, s.world.stripe.intents.find? i.id = none ∧
    i.flow = .separateChargesDelayedV1 ∧ i.bookingId = b

/-- No PaymentIntent is created before the scheduled charge date of its booking, and a
booking without one is charged as soon as its card is saved. -/
structure NeverEarly (s : Timed) (ls : List Label) : Prop where
  onDate : ∀ pre l suf, ls = pre ++ l :: suf → ∀ b r d, (run Timed.step s pre).Creates l b →
    (run Timed.step s pre).world.db.bookings.find? b = some r → r.scheduledChargeDate = some d →
    d ≤ (run Timed.step s (pre ++ [l])).clock
  atOnce : ∀ pre suf, ls = pre ++ suf → ∀ b r,
    (run Timed.step s pre).world.db.bookings.find? b = some r →
    r.paymentFlowVersion = .separateChargesDelayedV1 → r.scheduledChargeDate = none →
    ∀ now, (run Timed.step s pre).clock ≤ now → (decideChargeTiming r.checkIn now).immediate ∧
      (b ∈ (run Timed.step s pre).world.setupHandlers →
        ∃ pc, Starts (run Timed.step s pre).world (.setupIntentContinue now b) b pc)

/-- A handler of `setup_intent.succeeded` reads its clock outside the last day before the
scheduled charge date of its booking. -/
def OutsideLastDay (s : Timed) : Label → Prop
  | .setupIntentContinue now b =>
    s.clock ≤ now → b ∈ s.world.setupHandlers → ∀ r ∈ s.world.db.bookings.find? b,
      ∀ d ∈ r.scheduledChargeDate, now ≤ d - msPerDay ∨ d ≤ now
  | _ => True

instance (s : Timed) : ∀ l, Decidable (OutsideLastDay s l)
  | .setupIntentContinue now b =>
    inferInstanceAs (Decidable (s.clock ≤ now → b ∈ s.world.setupHandlers →
      ∀ r ∈ s.world.db.bookings.find? b, ∀ d ∈ r.scheduledChargeDate, now ≤ d - msPerDay ∨ d ≤ now))
  | .transaction _ | .cancelBookingAndRefund .. | .sweepCharge .. | .setupIntentSucceeded ..
  | .charge .. | .chargeCrash _ | .startCheckout _ | .checkout .. | .checkoutCrash _ | .moveIntent ..
  | .paymentSucceeded .. | .insertEntitlement _ | .entitlementCrash _ | .paymentFailed ..
  | .disputeCreated _ | .adminRefund .. | .refund .. | .refundCrash _ | .settleRefund ..
  | .refundEvent _ | .refundFailed _ | .startDiscard .. | .discard .. | .discardCrash _ => isTrue trivial

/-! ## The decision of the timing -/

theorem decideChargeTiming_immediate {checkIn now : Int} :
    (decideChargeTiming checkIn now).immediate ↔
      startOfDay checkIn - now < (scheduledChargeThresholdDays + 1) * msPerDay := by
  unfold decideChargeTiming
  dsimp only
  by_cases hdays : scheduledChargeThresholdDays < (startOfDay checkIn - now) / msPerDay
  · rw [if_pos hdays]
    simp only [Bool.false_eq_true, false_iff]
    simp only [scheduledChargeThresholdDays, msPerDay] at hdays ⊢
    omega
  · rw [if_neg hdays]
    simp only [true_iff]
    simp only [scheduledChargeThresholdDays, msPerDay] at hdays ⊢
    omega

theorem decideChargeTiming_mono {checkIn now now' : Int} (hle : now ≤ now')
    (h : (decideChargeTiming checkIn now).immediate) : (decideChargeTiming checkIn now').immediate := by
  rw [decideChargeTiming_immediate] at h ⊢
  omega

theorem decideChargeTiming_date {checkIn now d : Int}
    (h : (decideChargeTiming checkIn now).scheduledChargeDate = some d) :
    d = startOfDay checkIn - scheduledChargeThresholdDays * msPerDay := by
  unfold decideChargeTiming at h
  dsimp only at h
  split at h
  · exact (Option.some.inj h).symm
  · cases h

theorem immediate_of_undated {checkIn now : Int}
    (h : (decideChargeTiming checkIn now).scheduledChargeDate = none) :
    (decideChargeTiming checkIn now).immediate := by
  unfold decideChargeTiming at h ⊢
  dsimp only at h ⊢
  split at h
  · cases h
  · rename_i hnot
    rw [if_neg hnot]

/-! ## One step -/

/-- No update touches what the timing is decided from, nor the decision. -/
theorem Booking.Updated.timing {t : Tx} {r r' : Booking} (h : r.Updated t r') :
    r'.checkIn = r.checkIn ∧ r'.paymentFlowVersion = r.paymentFlowVersion ∧
      r'.scheduledChargeDate = r.scheduledChargeDate := by
  cases h <;> exact ⟨rfl, rfl, rfl⟩

/-- The timing of a booking row after a step is that of the old row, or was just decided. -/
theorem World.timing_step (w : World) (l : Label) {b : BookingId} {r' : Booking}
    (hr' : (w.step l).db.bookings.find? b = some r') :
    (∃ r, w.db.bookings.find? b = some r ∧ r'.checkIn = r.checkIn ∧
        r'.paymentFlowVersion = r.paymentFlowVersion ∧ r'.scheduledChargeDate = r.scheduledChargeDate) ∨
      w.db.bookings.find? b = none ∧ ∃ now, l.clock? = some now ∧
        (r'.paymentFlowVersion = .separateChargesDelayedV1 →
          r'.scheduledChargeDate = (decideChargeTiming r'.checkIn now).scheduledChargeDate) ∧
        ∀ d, r'.scheduledChargeDate = some d →
          d = startOfDay r'.checkIn - scheduledChargeThresholdDays * msPerDay := by
  rcases w.row_cases l hr' with ⟨r, hr, rfl | ⟨t, -, hupdated⟩⟩ | ⟨hnone, now, isDelayedFlow, input,
    hostId, rules, rfl, rfl⟩
  · exact .inl ⟨r', hr, rfl, rfl, rfl⟩
  · exact .inl ⟨r, hr, hupdated.timing⟩
  · refine .inr ⟨hnone, now, rfl, ?_, ?_⟩
    · intro hflow
      cases isDelayedFlow with
      | true => rfl
      | false => cases hflow
    · intro d hd
      cases isDelayedFlow with
      | true => exact decideChargeTiming_date hd
      | false => cases hd

namespace Timed

/-- A step is taken at its reading, not before the last one, or not at all. -/
theorem step_cases (s : Timed) (l : Label) :
    s.step l = s ∨ (s.step l).world = s.world.step l ∧ s.clock ≤ (s.step l).clock ∧
      ∀ now, l.clock? = some now → (s.step l).clock = now := by
  unfold step
  cases hl : l.clock? with
  | none => exact .inr ⟨rfl, le_rfl, nofun⟩
  | some now =>
    dsimp only
    split
    · rename_i hle
      exact .inr ⟨rfl, hle, fun _ h => Option.some.inj h⟩
    · exact .inl rfl

/-- Dates are 60 days before check-in, what has none is charged at once, and no charge is
under way before its date. -/
structure InTime (s : Timed) : Prop where
  priced : s.world.db.Priced
  dated : ∀ b r d, s.world.db.bookings.find? b = some r → r.scheduledChargeDate = some d →
    d = startOfDay r.checkIn - scheduledChargeThresholdDays * msPerDay
  undated : ∀ b r, s.world.db.bookings.find? b = some r →
    r.paymentFlowVersion = .separateChargesDelayedV1 → r.scheduledChargeDate = none →
    (decideChargeTiming r.checkIn s.clock).immediate
  booked : ∀ c ∈ s.world.charges.rows, ∃ r, s.world.db.bookings.find? c.bookingId = some r
  due : ∀ c ∈ s.world.charges.rows, ∀ r d, s.world.db.bookings.find? c.bookingId = some r →
    r.scheduledChargeDate = some d → d ≤ s.clock

theorem InTime.start {db : Db} (hbookings : db.bookings.rows = []) (clock : Int) :
    (Timed.start db clock).InTime := by
  have hnone : ∀ b r, db.bookings.find? b = some r → False := by
    intro b r hr
    have hmem := Table.mem_of_find? hr
    rw [hbookings] at hmem
    cases hmem
  constructor
  case priced => exact fun b r hr => (hnone b r hr).elim
  case dated => exact fun b r d hr => (hnone b r hr).elim
  case undated => exact fun b r hr => (hnone b r hr).elim
  case booked => exact fun c hc => absurd hc List.not_mem_nil
  case due => exact fun c hc => absurd hc List.not_mem_nil

/-- A charge starts on its date or later, if no handler reads its clock in the last day. -/
theorem InTime.starts {s : Timed} (hinv : s.InTime) {l : Label} {b : BookingId} {pc : PriceComponents}
    (hguard : OutsideLastDay s l) (hstarts : Starts s.world l b pc)
    (hclock : ∀ now, l.clock? = some now → s.clock ≤ now) {r : Booking} {d : Int}
    (hr : s.world.db.bookings.find? b = some r) (hd : r.scheduledChargeDate = some d) :
    ∃ now, l.clock? = some now ∧ d ≤ now := by
  cases hstarts with
  | sweep now b pc hpc hdue =>
    refine ⟨now, rfl, ?_⟩
    obtain ⟨r', hr', hid⟩ := List.mem_map.mp (List.mem_of_mem_take hdue)
    obtain ⟨hmem, hwhere⟩ := List.mem_filter.mp hr'
    have hfind : s.world.db.bookings.find? b = some r' := by
      rw [← hid]
      exact Table.find?_of_mem hmem
    rw [hr] at hfind
    cases hfind
    simp only [dueForScheduledCharge, Bool.and_eq_true, hd, Option.any_some, decide_eq_true_eq] at hwhere
    exact hwhere.1.1.1.2
  | setupIntent now b pc booking hpc hhandler hbooking himmediate =>
    refine ⟨now, rfl, ?_⟩
    rw [hr] at hbooking
    cases hbooking
    rcases hguard (hclock now rfl) hhandler r hr d hd with hbefore | hafter
    · rw [decideChargeTiming_immediate] at himmediate
      have hdate := hinv.dated b r d hr hd
      simp only [scheduledChargeThresholdDays, msPerDay] at himmediate hdate hbefore
      omega
    · exact hafter

theorem InTime.step {s : Timed} (hinv : s.InTime) {l : Label} (hguard : OutsideLastDay s l) :
    (s.step l).InTime := by
  rcases s.step_cases l with h | ⟨hworld, hclock, hnow⟩
  · rw [h]
    exact hinv
  · have hreading : ∀ now, l.clock? = some now → s.clock ≤ now := by
      intro now h
      rw [← hnow now h]
      exact hclock
    constructor
    case priced =>
      rw [hworld]
      exact s.world.priced_step hinv.priced l
    case dated =>
      intro b r d hr hd
      rw [hworld] at hr
      rcases s.world.timing_step l hr with ⟨r₀, hr₀, hcheckIn, -, hdate⟩ | ⟨-, now, -, -, hdecided⟩
      · rw [hcheckIn]
        exact hinv.dated b r₀ d hr₀ (hdate ▸ hd)
      · exact hdecided d hd
    case undated =>
      intro b r hr hflow hnone
      rw [hworld] at hr
      rcases s.world.timing_step l hr with ⟨r₀, hr₀, hcheckIn, hsame, hdate⟩ | ⟨-, now, hl, hdecided, -⟩
      · rw [hcheckIn]
        exact decideChargeTiming_mono hclock (hinv.undated b r₀ hr₀ (hsame ▸ hflow) (hdate ▸ hnone))
      · rw [hnow now hl]
        exact immediate_of_undated ((hdecided hflow).symm.trans hnone)
    case booked =>
      intro c hc
      rw [hworld] at hc ⊢
      have hstays : ∀ r, s.world.db.bookings.find? c.bookingId = some r →
          ∃ r', (s.world.step l).db.bookings.find? c.bookingId = some r' := fun r hr =>
        have ⟨r', hr', _⟩ := (s.world.bookingsGrow_step l).stay c.bookingId r hr
        ⟨r', hr'⟩
      rcases s.world.charge_origin l hc with ⟨c₀, hc₀, hsame⟩ | ⟨pc, hstarts, -⟩
      · obtain ⟨r, hr⟩ := hinv.booked c₀ hc₀
        exact hstays r (by rw [hsame]; exact hr)
      · obtain ⟨r, hr⟩ := hstarts.booking
        exact hstays r hr
    case due =>
      intro c hc r d hr hd
      rw [hworld] at hc hr
      have hold : ∀ r₀, s.world.db.bookings.find? c.bookingId = some r₀ →
          r₀.scheduledChargeDate = some d := by
        intro r₀ hr₀
        rcases s.world.timing_step l hr with ⟨r₁, hr₁, -, -, hdate⟩ | ⟨hnone, -⟩
        · rw [hr₀] at hr₁
          cases hr₁
          rw [← hdate, hd]
        · rw [hr₀] at hnone
          cases hnone
      rcases s.world.charge_origin l hc with ⟨c₀, hc₀, hsame⟩ | ⟨pc, hstarts, -⟩
      · have hb : c.bookingId = c₀.bookingId := by rw [hsame]
        obtain ⟨r₀, hr₀⟩ := hinv.booked c₀ hc₀
        exact (hinv.due c₀ hc₀ r₀ d hr₀ (hold r₀ (hb ▸ hr₀))).trans hclock
      · obtain ⟨r₀, hr₀⟩ := hstarts.booking
        obtain ⟨now, hl, hle⟩ := hinv.starts hguard hstarts hreading hr₀ (hold r₀ hr₀)
        rw [hnow now hl]
        exact hle

/-- A PaymentIntent is created by a call that is under way. -/
theorem Creates.call {s : Timed} {l : Label} {b : BookingId} (h : s.Creates l b) :
    ∃ c ∈ s.world.charges.rows, c.bookingId = b := by
  obtain ⟨i, hi, hnone, hflow, rfl⟩ := h
  have hold : i ∉ s.world.stripe.intents.rows := fun hmem => by
    rw [show s.world.stripe.intents.find? i.id = some i from Table.find?_of_mem hmem] at hnone
    cases hnone
  rcases s.step_cases l with hsame | ⟨hworld, -⟩
  · rw [hsame] at hi
    exact absurd hi hold
  · rw [hworld] at hi
    cases s.world.intentOrigin l hi with
    | old j hj hid hparams hkey hstatus =>
      rw [hid, show s.world.stripe.intents.find? j.id = some j from Table.find?_of_mem hj] at hnone
      cases hnone
    | checkout call cb hcall hphase hid hparams hkey hstatus =>
      unfold PaymentIntent.flow at hflow
      rw [hparams] at hflow
      cases hflow
    | charge call claim hcall hphase hnew hid hparams hkey =>
      refine ⟨call, Table.mem_of_find? hcall, ?_⟩
      unfold PaymentIntent.bookingId
      rw [hparams]
      rfl

end Timed

/-! ## Whole runs -/

/-- From a database without bookings, no booking is charged early if no handler of
`setup_intent.succeeded` reads its clock in the last day before the scheduled date. -/
theorem neverEarly_run {db : Db} (hbookings : db.bookings.rows = []) (clock : Int) {ls : List Label}
    (hguard : Guarded Timed.step OutsideLastDay (.start db clock) ls) :
    NeverEarly (.start db clock) ls := by
  have hinv : ∀ pre suf, ls = pre ++ suf → (run Timed.step (.start db clock) pre).InTime := by
    rintro pre suf rfl
    exact run_invariant (I := Timed.InTime) (fun _ _ hinv hguard => hinv.step hguard)
      (.start hbookings clock) (guarded_append.mp hguard).1
  constructor
  case onDate =>
    intro pre l suf hls b r d hcreates hr hd
    obtain ⟨c, hc, rfl⟩ := hcreates.call
    have hdue := (hinv pre (l :: suf) hls).due c hc r d hr hd
    rw [run_concat]
    rcases (run Timed.step (.start db clock) pre).step_cases l with hsame | ⟨-, hclock, -⟩
    · rw [hsame]
      exact hdue
    · exact hdue.trans hclock
  case atOnce =>
    intro pre suf hls b r hr hflow hnone now hle
    have himmediate := decideChargeTiming_mono hle ((hinv pre suf hls).undated b r hr hflow hnone)
    refine ⟨himmediate, fun hhandler => ?_⟩
    obtain ⟨pc, hpc⟩ := (hinv pre suf hls).priced b r hr
    exact ⟨pc, .setupIntent now b pc r hpc hhandler hr himmediate⟩

/-- The card is saved long before the scheduled date, and the sweep charges it on the date. -/
def sweptOnDate : List Label :=
  cardSaved ++ swept (40 * msPerDay) 1 (.processed .succeeded none true)

theorem sweptOnDate_neverEarly :
    ((run Timed.step (.start sampleDb 0) sweptOnDate).world.succeeded 1 1) ∧
      NeverEarly (.start sampleDb 0) sweptOnDate :=
  ⟨by decide, neverEarly_run rfl 0 (by decide)⟩

/-- The same booking, whose card is saved half a day before the scheduled date. -/
def savedInLastDay : List Label :=
  [ .transaction (.createBooking 0 true (sampleRequest "a")),
    .transaction (.saveSetupIntent 1 1 1),
    .transaction (.configureTaxTreatment 1 .platformRemits),
    .setupIntentSucceeded 1 1,
    .setupIntentContinue (79 * msPerDay / 2) 1,
    .charge (79 * msPerDay / 2) 1 (.processed .succeeded none true),
    .charge (79 * msPerDay / 2) 1 (.processed .succeeded none true) ]

theorem savedInLastDay_early : ¬ NeverEarly (.start sampleDb 0) savedInLastDay := by
  intro h
  have hearly := h.onDate (savedInLastDay.take 6) _ [] rfl 1 _ (40 * msPerDay)
    ⟨⟨1, .offSession 1 1 20000 "GBP" 1 1, some ⟨1, 1⟩, .succeeded, .succeeded, false⟩, by decide⟩
    (Option.some_get (by decide)).symm (by decide)
  exact absurd hearly (by decide)

end HostPlatform
