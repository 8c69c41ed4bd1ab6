-- SUMMARY: When a new card reopens the retry of a declined charge exactly once.
import HostPlatform.CardSetups
import HostPlatform.RetrySchedule

/-!
# A new card and the scheduled retry

A decline schedules the next attempt a day later. A card that the guest saves in the meantime
clears the schedule, so that it is tried at once. A delivery that changes nothing clears nothing;
but one that retrieved its SetupIntent and waits for the lock, while another card is saved, changes
the card back and clears the schedule that the other card's decline left. And a booking that is no
longer waiting for payment gets no schedule at all.
-/

namespace HostPlatform

open Lib (Table)
open Lib.Transition

/-! ## Deliveries and reservations -/

/-- The row a delivery finds under the lock, and the payment method it saves. -/
def World.saved? (w : World) : Label → Option (Booking × Nat)
  | .setupIntentSucceeded b paymentMethodId =>
    match w.db.bookings.find? b, w.db.priceComponents.find? b with
    | some booking, some bpc =>
      if booking.paymentFlowVersion = .separateChargesDelayedV1 ∧ bpc.guestTotalMinor ≠ 0
          ∧ booking.stripeSetupIntentId.isSome then some (booking, paymentMethodId)
      else none
    | _, _ => none
  | _ => none

/-- The payment method that the step newly installs on a booking. -/
def World.installed? (w : World) (l : Label) : Option (BookingId × Nat) :=
  ((w.saved? l).filter fun x => decide (x.1.stripePaymentMethodId ≠ some x.2)).map fun x => (x.1.id, x.2)

/-- The booking for which the step reserves a new attempt, with no retry due yet, and the payment
method to be charged. -/
def World.earlyReservation? (w : World) : Label → Option (BookingId × Nat)
  | .charge now call _ =>
    ((w.charges.find? call).filter fun c => decide (c.phase = .deciding)).bind fun c =>
      match (w.decision now c).1, w.db.bookings.find? c.bookingId with
      | .charge claim, some booking =>
        if (w.db.latestAttempt c.bookingId).filter PaymentAttempt.reusable = none
            ∧ booking.nextRetryAt.all (fun t => decide (now < t)) then
          some (c.bookingId, claim.paymentMethodId)
        else none
      | _, _ => none
  | _ => none

def installsOf (w : World) (ls : List Label) : List (BookingId × Nat) := collect World.step World.installed? w ls

def earlyReservationsOf (w : World) (ls : List Label) : List (BookingId × Nat) :=
  collect World.step World.earlyReservation? w ls

/-- `next_retry_at` is cleared if the delivery changes the stored payment method, and kept if not. -/
def ClearsIfChanged (w : World) (l : Label) : Prop :=
  ∀ b paymentMethodId, w.saved? l = some (b, paymentMethodId) →
    ∃ b', (w.step l).db.bookings.find? b.id = some b' ∧ b'.stripePaymentMethodId = some paymentMethodId ∧
      b'.nextRetryAt = if b.stripePaymentMethodId = some paymentMethodId then b.nextRetryAt else none

/-- A new card reopens the retry, and does so once. -/
structure ReopensOnce (w : World) (ls : List Label) : Prop where
  clears : Guarded World.step ClearsIfChanged w ls
  duplicates : ∀ pre l suf, ls = pre ++ l :: suf → ∀ b paymentMethodId,
    (run World.step w pre).saved? l = some (b, paymentMethodId) → (b.id, paymentMethodId) ∈ installsOf w pre →
    ((run World.step w (pre ++ [l])).db.bookings.find? b.id).map Booking.nextRetryAt = some b.nextRetryAt
  reserved : (earlyReservationsOf w ls).Nodup

/-- A new attempt that is not the first of its booking is reserved early only for a booking that
waits for payment. -/
def ReservesPending (w : World) (l : Label) : Prop :=
  ∀ x ∈ w.earlyReservation? l, (w.db.latestAttempt x.1).isSome → w.db.statusOf x.1 = some .pendingPayment

instance (w : World) (l : Label) : Decidable (ReservesPending w l) :=
  inferInstanceAs (Decidable (∀ x ∈ w.earlyReservation? l, _ → _))

/-! ## Saved cards -/

def Booking.withCard (b : Booking) (paymentMethodId : Nat) : Booking :=
  { b with
    stripePaymentMethodId := some paymentMethodId
    nextRetryAt := if b.stripePaymentMethodId ≠ some paymentMethodId then none else b.nextRetryAt }

section

variable {w : World} {l : Label} {b : Booking} {paymentMethodId : Nat}

theorem World.saved?_eq_some (h : w.saved? l = some (b, paymentMethodId)) :
    l = .setupIntentSucceeded b.id paymentMethodId ∧ w.db.bookings.find? b.id = some b ∧
      (w.step l).db.bookings.find? b.id = some (b.withCard paymentMethodId) := by
  cases l with
  | setupIntentSucceeded c pm =>
    simp only [World.saved?] at h
    split at h
    · rename_i booking bpc hbooking hbpc
      obtain rfl : booking.id = c := Table.key_of_find? hbooking
      split at h
      · rename_i hguard
        cases h
        refine ⟨rfl, hbooking, ?_⟩
        simp only [World.step, World.setupIntentSucceeded, hbooking, hbpc, if_pos hguard]
        show (Lib.commit w.db (savePaymentMethod b.id paymentMethodId w.db)).bookings.find? b.id = _
        unfold savePaymentMethod
        rw [hbooking]
        refine (Table.find?_modify w.db.bookings b.id (fun b => b.withCard paymentMethodId) (fun _ => rfl) b.id).trans ?_
        rw [if_pos rfl, hbooking]
        rfl
      · cases h
    · cases h
  | _ => cases h

theorem World.step_of_not_saved {c : BookingId} {pm : Nat} (h : w.saved? (.setupIntentSucceeded c pm) = none) :
    w.step (.setupIntentSucceeded c pm) = w := by
  simp only [World.saved?] at h
  simp only [World.step, World.setupIntentSucceeded]
  split
  · rename_i booking bpc hbooking hbpc
    rw [hbooking, hbpc] at h
    simp only at h
    split
    · rename_i hguard
      rw [if_pos hguard] at h
      cases h
    · rfl
  · rfl

/-- The card and the schedule of a row over a step: a delivery saves a card, or the card stays, and
the schedule of a booking that waits for payment is not lost. -/
theorem World.card_step (w : World) (l : Label) {c : BookingId} (hb : w.db.bookings.find? c = some b) :
    ∃ b', (w.step l).db.bookings.find? c = some b' ∧
      ((∃ pm, w.saved? l = some (b, pm) ∧ b' = b.withCard pm) ∨
        b'.stripePaymentMethodId = b.stripePaymentMethodId ∧
          (b'.status = .pendingPayment → b.nextRetryAt ≠ none → b'.nextRetryAt ≠ none)) := by
  obtain rfl : b.id = c := Table.key_of_find? hb
  obtain ⟨b', hb', hsame⟩ := w.row_updated l hb
  refine ⟨b', hb', ?_⟩
  rcases hsame with rfl | ⟨t, hruns, hupdated⟩
  · exact .inr ⟨rfl, fun _ h => h⟩
  · cases hupdated with
    | same => exact .inr ⟨rfl, fun _ h => h⟩
    | status st => exact .inr ⟨rfl, fun _ h => h⟩
    | discarded now => exact .inr ⟨rfl, fun h => nomatch h⟩
    | setupIntent customerId setupIntentId ht => exact .inr ⟨rfl, fun _ h => h⟩
    | holdCleared ht hpending => exact .inr ⟨rfl, fun _ h => h⟩
    | taxTreatment taxTreatment ht => exact .inr ⟨rfl, fun _ h => h⟩
    | unsettled now attemptId claimToken status details ht hpending => exact .inr ⟨rfl, fun _ h => h⟩
    | failed now attemptId claimToken details ht hpending => exact .inr ⟨rfl, fun _ _ => nofun⟩
    | paymentMethod pm ht =>
      subst ht
      cases hruns with
      | transaction t halone => cases halone
      | savePaymentMethod c pm =>
        cases hsaved : w.saved? (.setupIntentSucceeded b.id pm) with
        | none =>
          rw [World.step_of_not_saved hsaved, hb] at hb'
          have hsame := Option.some.inj hb'
          rw [← hsame]
          exact .inr ⟨rfl, fun _ h => h⟩
        | some x =>
          obtain ⟨booking, pm'⟩ := x
          obtain ⟨hl, hbooking, -⟩ := World.saved?_eq_some hsaved
          injection hl with hid hpm
          rw [← hid, hb] at hbooking
          cases hbooking
          exact .inl ⟨pm', rfl, by rw [hpm]; rfl⟩

/-- The payment method a row has after a step was there before, or is being saved. -/
theorem World.stored_step (w : World) (l : Label) {c : BookingId} {b' : Booking} {pm : Nat}
    (hb' : (w.step l).db.bookings.find? c = some b') (hstored : b'.stripePaymentMethodId = some pm) :
    ∃ b, w.db.bookings.find? c = some b ∧
      (w.saved? l = some (b, pm) ∨ b.stripePaymentMethodId = some pm) := by
  rcases w.row_cases l hb' with ⟨b, hb, -⟩ | ⟨-, now, isDelayedFlow, input, hostId, rules, -, rfl⟩
  · refine ⟨b, hb, ?_⟩
    obtain ⟨b'', hb'', hcard⟩ := w.card_step l hb
    rw [hb'] at hb''
    cases hb''
    rcases hcard with ⟨pm', hsaved, rfl⟩ | ⟨hsame, -⟩
    · cases hstored
      exact .inl hsaved
    · exact .inr (hsame ▸ hstored)
  · cases hstored

theorem World.installed?_of_saved (hsaved : w.saved? l = some (b, paymentMethodId))
    (hchanged : b.stripePaymentMethodId ≠ some paymentMethodId) : w.installed? l = some (b.id, paymentMethodId) := by
  unfold World.installed?
  rw [hsaved, Option.filter_some, if_pos (decide_eq_true hchanged)]
  rfl

/-- A delivery of a payment method that was installed before, where none is installed twice, finds
it stored. -/
theorem stored_of_installed {installs : List (BookingId × Nat)}
    (hnodup : (installs ++ (w.installed? l).toList).Nodup) (hsaved : w.saved? l = some (b, paymentMethodId))
    (hmem : (b.id, paymentMethodId) ∈ installs) : b.stripePaymentMethodId = some paymentMethodId := by
  by_contra hchanged
  rw [World.installed?_of_saved hsaved hchanged] at hnodup
  exact (List.nodup_append.mp hnodup).2.2 _ hmem _ (List.mem_singleton.mpr rfl) rfl

theorem clearsIfChanged (w : World) (l : Label) : ClearsIfChanged w l := by
  intro b pm hsaved
  obtain ⟨-, -, hrow⟩ := World.saved?_eq_some hsaved
  exact ⟨b.withCard pm, hrow, rfl, ite_not ..⟩

/-! ## Early reservations -/

theorem World.earlyReservation?_eq_some {x : BookingId × Nat} (h : w.earlyReservation? l = some x) :
    ∃ now c claim b, Decides w l now c ∧ (w.decision now c).1 = .charge claim ∧ c.bookingId = x.1 ∧
      w.db.bookings.find? x.1 = some b ∧ (w.db.latestAttempt x.1).filter PaymentAttempt.reusable = none ∧
      (∀ t, b.nextRetryAt = some t → now < t) ∧ claim.paymentMethodId = x.2 := by
  cases l with
  | charge now call answer =>
    obtain ⟨c, hc, hdecided⟩ := Option.bind_eq_some_iff.mp h
    obtain ⟨hfind, hphase⟩ := Option.filter_eq_some_iff.mp hc
    split at hdecided
    · rename_i claim booking hdecision hbooking
      split at hdecided
      · rename_i hearly
        cases hdecided
        refine ⟨now, c, claim, booking, ⟨call, answer, rfl, hfind, of_decide_eq_true hphase⟩, hdecision, rfl, hbooking,
          hearly.1, fun t ht => ?_, rfl⟩
        have hall := hearly.2
        rw [ht] at hall
        exact of_decide_eq_true hall
      · cases hdecided
    · cases hdecided
  | _ => cases h

/-- An early reservation charges the stored card, and the latest attempt before it failed with no
retry scheduled, if there was one. -/
theorem World.earlyReservation_row (hslots : w.db.SlotsTaken) (hnone : w.NoneCancelled) {x : BookingId × Nat}
    (h : w.earlyReservation? l = some x) :
    ∃ b, w.db.bookings.find? x.1 = some b ∧ b.stripePaymentMethodId = some x.2 ∧
      ∀ a, w.db.Latest x.1 a → a.status = .failed ∧ b.nextRetryAt = none := by
  obtain ⟨now, c, claim, b, -, hdecision, hc, hb, hreusable, hearly, hcard⟩ := World.earlyReservation?_eq_some h
  obtain ⟨booking, hbooking, hpassed, hattempt, -, -, hpm, -⟩ := decideCharge_passed hdecision
  have hsucceeded := decideCharge_not_succeeded hdecision
  rw [hc] at hbooking hattempt hsucceeded
  rw [hb] at hbooking
  cases hbooking
  obtain ⟨-, -, -, hsaved, -⟩ := bookingRefusal_eq_none hpassed
  obtain ⟨pm, hstored⟩ := Option.ne_none_iff_exists'.mp hsaved
  refine ⟨b, hb, ?_, fun a ha => ?_⟩
  · rw [← hcard, hpm, hstored]
    rfl
  · have hlatest := hslots.latestAttempt_eq ha
    rw [hlatest] at hattempt hreusable
    have hopen : a.reusable = false := by
      by_contra hreusable'
      rw [Option.filter_some, if_pos (by simpa using hreusable')] at hreusable
      cases hreusable
    unfold PaymentAttempt.reusable at hopen
    cases hstatus : a.status with
    | failed =>
      refine ⟨rfl, ?_⟩
      simp only [attemptRefusal, hstatus] at hattempt
      cases hretry : b.nextRetryAt with
      | none => rfl
      | some t =>
        have hpending : retryPending b now = some t := by
          unfold retryPending
          rw [hretry, Option.filter_some, if_pos (decide_eq_true (hearly t hretry))]
        rw [hpending] at hattempt
        cases hattempt
    | succeeded =>
      rw [Db.hasSucceededAttempt_iff.mpr ⟨a, ha.mem, ha.booking, hstatus⟩] at hsucceeded
      cases hsucceeded
    | cancelled => exact absurd hstatus (hnone a ha.mem)
    | pending => simp [hstatus] at hopen
    | processing => simp [hstatus] at hopen
    | requiresAction =>
      simp only [attemptRefusal, hstatus] at hattempt
      cases hattempt

end

/-! ## Runs -/

/-- For the card that was charged early, nothing is charged early again: its failure left a
scheduled retry. -/
def World.RetryHeld (w : World) (x : BookingId × Nat) : Prop :=
  ∃ b a, w.db.bookings.find? x.1 = some b ∧ w.db.Latest x.1 a ∧
    (b.stripePaymentMethodId = some x.2 → b.status = .pendingPayment → a.status = .failed → b.nextRetryAt ≠ none)

/-- `installs` are the payment methods installed so far, and `early` the early reservations. -/
structure World.RetryInv (w : World) (installs early : List (BookingId × Nat)) : Prop where
  outcomes : w.OutcomesFixed
  noneCancelled : w.NoneCancelled
  stored : ∀ c b pm, w.db.bookings.find? c = some b → b.stripePaymentMethodId = some pm → (c, pm) ∈ installs
  held : ∀ x ∈ early, x ∈ installs ∧ w.RetryHeld x
  nodup : early.Nodup

theorem World.RetryInv.start {db : Db} (hbookings : db.bookings.rows = []) (hattempts : db.paymentAttempts.rows = []) :
    (World.start db).RetryInv [] [] where
  outcomes := .start hattempts
  noneCancelled a ha := by
    have ha' : a ∈ db.paymentAttempts.rows := ha
    rw [hattempts] at ha'
    cases ha'
  stored c b pm hb := by
    have hmem : b ∈ db.bookings.rows := Table.mem_of_find? hb
    rw [hbookings] at hmem
    cases hmem
  held _ h := absurd h List.not_mem_nil
  nodup := .nil

section

variable {w : World} {l : Label} {installs early : List (BookingId × Nat)}

theorem World.RetryHeld.step (hinv : w.OutcomesFixed) (hnodup : (installs ++ (w.installed? l).toList).Nodup)
    {x : BookingId × Nat} (hx : x ∈ installs) (h : w.RetryHeld x) : (w.step l).RetryHeld x := by
  obtain ⟨b, a, hb, ha, hheld⟩ := h
  obtain ⟨b', hb', hcard⟩ := w.card_step l hb
  obtain ⟨a', ha', hfailed⟩ := World.latest_step hinv l ha
  refine ⟨b', a', hb', ha', fun hstored hpending hstatus => ?_⟩
  rcases hfailed hstatus with hold | hscheduled
  · have hpending' := (w.bookingsGrow_step l).pending _ b b' hb hb' hpending
    rcases hcard with ⟨pm, hsaved, rfl⟩ | ⟨hsame, hkept⟩
    · cases hstored
      have hid : b.id = x.1 := Table.key_of_find? hb
      have hbefore := stored_of_installed hnodup hsaved (by rw [hid]; exact hx)
      have hretry : (b.withCard x.2).nextRetryAt = b.nextRetryAt := if_neg (not_not.mpr hbefore)
      rw [hretry]
      exact hheld hbefore hpending' hold
    · exact hkept hpending (hheld (hsame ▸ hstored) hpending' hold)
  · exact hscheduled b' hb' hpending

/-- The attempt an early reservation adds is pending. -/
theorem World.earlyReservation_held {x : BookingId × Nat} (h : w.earlyReservation? l = some x) :
    (w.step l).RetryHeld x := by
  obtain ⟨now, c, claim, b, hdecides, hdecision, hc, hb, hreusable, -⟩ := World.earlyReservation?_eq_some h
  obtain ⟨b', hb', -⟩ := w.card_step l hb
  rw [← hc] at hreusable
  obtain ⟨row, hrow, hnumber, -, hpending, hrows⟩ := Reserves.attempts ⟨now, claim, hdecides, hdecision, hreusable⟩
  refine ⟨b', row, hb', ⟨?_, hrow.trans hc, ?_⟩, fun _ _ hfailed => ?_⟩
  · rw [hrows]
    exact List.mem_append_right _ (List.mem_singleton.mpr rfl)
  · rw [maxAttemptNumber_reserved hrow hnumber hrows, if_pos hc.symm, hnumber]
  · rw [hpending] at hfailed
    cases hfailed

/-- A card that was charged early is not charged early again. -/
theorem World.RetryInv.not_mem_early (hinv : w.RetryInv installs early) (hguard : ReservesPending w l)
    {x : BookingId × Nat} (h : w.earlyReservation? l = some x) : x ∉ early := by
  intro hx
  obtain ⟨-, b, a, hb, ha, hheld⟩ := hinv.held x hx
  obtain ⟨b', hb', hstored, hlatest⟩ := World.earlyReservation_row hinv.outcomes.fixed.slots hinv.noneCancelled h
  rw [hb] at hb'
  cases hb'
  obtain ⟨hfailed, hnone⟩ := hlatest a ha
  have hpending := hguard x h (by rw [hinv.outcomes.fixed.slots.latestAttempt_eq ha]; rfl)
  obtain ⟨b', hb', hstatus⟩ := Db.statusOf_eq_some.mp hpending
  rw [hb] at hb'
  cases hb'
  exact hheld hstored hstatus hfailed hnone

theorem World.RetryInv.step (hinv : w.RetryInv installs early)
    (hnodup : (installs ++ (w.installed? l).toList).Nodup) (hguard : ReservesPending w l) :
    (w.step l).RetryInv (installs ++ (w.installed? l).toList) (early ++ (w.earlyReservation? l).toList) := by
  constructor
  case outcomes => exact hinv.outcomes.step l
  case noneCancelled => exact hinv.noneCancelled.step hinv.outcomes l
  case stored =>
    intro c b' pm hb' hstored
    obtain ⟨b, hb, hcard⟩ := w.stored_step l hb' hstored
    obtain rfl : b.id = c := Table.key_of_find? hb
    by_cases hbefore : b.stripePaymentMethodId = some pm
    · exact List.mem_append_left _ (hinv.stored b.id b pm hb hbefore)
    · have hsaved := hcard.resolve_right hbefore
      rw [World.installed?_of_saved hsaved hbefore]
      exact List.mem_append_right _ (List.mem_singleton.mpr rfl)
  case held =>
    intro x hx
    rcases List.mem_append.mp hx with hold | hnew
    · obtain ⟨hmem, hheld⟩ := hinv.held x hold
      exact ⟨List.mem_append_left _ hmem, hheld.step hinv.outcomes hnodup hmem⟩
    · have hearly := Option.mem_toList.mp hnew
      obtain ⟨b, hb, hstored, -⟩ := World.earlyReservation_row hinv.outcomes.fixed.slots hinv.noneCancelled hearly
      exact ⟨List.mem_append_left _ (hinv.stored x.1 b x.2 hb hstored), World.earlyReservation_held hearly⟩
  case nodup =>
    refine List.nodup_append.mpr ⟨hinv.nodup, ?_, ?_⟩
    · cases w.earlyReservation? l with
      | none => exact .nil
      | some x => exact List.nodup_singleton x
    · rintro x hx y hy rfl
      exact hinv.not_mem_early hguard (Option.mem_toList.mp hy) hx

end

theorem retryInv_run {db : Db} (hbookings : db.bookings.rows = []) (hattempts : db.paymentAttempts.rows = [])
    {ls : List Label} (hnodup : (installsOf (World.start db) ls).Nodup)
    (hguard : Guarded World.step ReservesPending (World.start db) ls) :
    (run World.step (World.start db) ls).RetryInv (installsOf (World.start db) ls)
      (earlyReservationsOf (World.start db) ls) := by
  induction ls using List.reverseRecOn with
  | nil => exact .start hbookings hattempts
  | append_singleton ls l ih =>
    obtain ⟨hpre, hlast, -⟩ := guarded_append.mp hguard
    unfold installsOf at hnodup
    unfold installsOf earlyReservationsOf
    rw [collect_concat] at hnodup
    rw [collect_concat, collect_concat, run_concat]
    exact (ih (List.nodup_append.mp hnodup).1 hpre).step hnodup hlast

/-- If no payment method is installed twice on a booking, and only bookings that wait for payment
get a further attempt early, then a new card reopens the retry exactly once. -/
theorem reopensOnce_labels {db : Db} (hbookings : db.bookings.rows = []) (hattempts : db.paymentAttempts.rows = [])
    {ls : List Label} (hnodup : (installsOf (World.start db) ls).Nodup)
    (hguard : Guarded World.step ReservesPending (World.start db) ls) : ReopensOnce (World.start db) ls := by
  constructor
  case clears => exact (guarded_true ls).mono fun w l _ => clearsIfChanged w l
  case duplicates =>
    rintro pre l suf rfl b pm hsaved hmem
    have hprefix : (installsOf (World.start db) (pre ++ [l])).Nodup := by
      have happ : installsOf (World.start db) (pre ++ l :: suf) =
          installsOf (World.start db) (pre ++ [l]) ++ collect World.step World.installed?
            (run World.step (World.start db) (pre ++ [l])) suf := by
        unfold installsOf
        rw [← collect_append, List.append_assoc]
        rfl
      rw [happ] at hnodup
      exact (List.nodup_append.mp hnodup).1
    unfold installsOf at hprefix
    rw [collect_concat] at hprefix
    have hstored := stored_of_installed hprefix hsaved hmem
    obtain ⟨b', hb', -, hretry⟩ := clearsIfChanged _ l b pm hsaved
    rw [run_concat, hb', Option.map_some, hretry, if_pos hstored]
  case reserved => exact (retryInv_run hbookings hattempts hnodup hguard).nodup

/-- The run of the rest of the system in a run of the system with its SetupIntents, from a database. -/
def labelsOf (db : Db) (cs : List CardLabel) : List Label := (CardSetups.start db).worldLabels cs

theorem reopensOnce_run {db : Db} (hbookings : db.bookings.rows = []) (hattempts : db.paymentAttempts.rows = [])
    (cs : List CardLabel) (hnodup : (installsOf (World.start db) (labelsOf db cs)).Nodup)
    (hguard : Guarded World.step ReservesPending (World.start db) (labelsOf db cs)) :
    ReopensOnce (World.start db) (labelsOf db cs) :=
  reopensOnce_labels hbookings hattempts hnodup hguard

/-! ### Two cards -/

/-- The guest completes a SetupIntent, whose event Stripe delivers twice. -/
def firstCard : List CardLabel :=
  [ .system (.transaction (.createBooking (60 * msPerDay) true (sampleRequest "a"))),
    .system (.transaction (.configureTaxTreatment 1 .platformRemits)),
    .startSetup 1,
    .setup 1 1, .setup 1 1, .setup 1 1,
    .moveSetupIntent 1 .succeeded (some 1),
    .setupIntentSucceeded 1,
    .setupIntentSucceeded 1,
    .delivery 1, .delivery 1, .delivery 1,
    .delivery 2, .delivery 2 ]

/-- A card that was saved is charged, and declined. -/
def declined (now : Int) : List CardLabel :=
  [ .system (.setupIntentContinue now 1),
    .system (.charge now 1 (.processed .declined none true)),
    .system (.charge now 1 (.processed .declined none true)),
    .system (.charge now 1 (.processed .declined none true)) ]

/-- The guest completes another SetupIntent. -/
def secondCard (delivery : Nat) : List CardLabel :=
  [ .startSetup 1,
    .setup 1 1, .setup 1 1, .setup 1 1, .setup 1 1,
    .moveSetupIntent 2 .succeeded (some 2),
    .setupIntentSucceeded 2,
    .delivery delivery, .delivery delivery, .delivery delivery ]

/-- Both deliveries of the first card come through before the second card is saved. -/
def cardsInTurn : List CardLabel :=
  firstCard ++ [.delivery 2] ++ declined (60 * msPerDay) ++ secondCard 1 ++ declined (60 * msPerDay + msPerHour)

theorem cardsInTurn_reopensOnce :
    earlyReservationsOf (World.start sampleDb) (labelsOf sampleDb cardsInTurn) = [(1, 1), (1, 2)] ∧
      ReopensOnce (World.start sampleDb) (labelsOf sampleDb cardsInTurn) :=
  ⟨by decide, reopensOnce_run rfl rfl cardsInTurn (by decide) (by decide)⟩

/-- The second delivery of the first card has asked Stripe, and takes the lock after the second card
was saved and declined. -/
def bothDeclined : List CardLabel :=
  firstCard ++ declined (60 * msPerDay) ++ secondCard 3 ++ declined (60 * msPerDay + msPerHour)

def savedLate : List CardLabel := bothDeclined ++ [.delivery 2] ++ declined (60 * msPerDay + 2 * msPerHour)

/-- The hold expires while the charge is under way, and the second delivery comes after the decline. -/
def expiredMeanwhile : List CardLabel :=
  firstCard ++ (declined (60 * msPerDay)).take 3 ++
    [.system (.transaction (.releaseExpiredHold (60 * msPerDay + msPerHour) 1))] ++
    (declined (60 * msPerDay)).drop 3 ++ [.delivery 2] ++ declined (60 * msPerDay + 2 * msPerHour)

/-- The late delivery installs the first card again and clears the schedule of the second one's
decline; after either run a card has been charged early twice. -/
theorem savedLate_expiredMeanwhile_reopenTwice :
    ((run CardSetups.step (.start sampleDb) bothDeclined).world.db.bookings.find? 1).map Booking.nextRetryAt =
        some (some (61 * msPerDay + msPerHour)) ∧
      ((run CardSetups.step (.start sampleDb) (bothDeclined ++ [.delivery 2])).world.db.bookings.find? 1).map
        Booking.nextRetryAt = some none ∧
      ¬ ReopensOnce (World.start sampleDb) (labelsOf sampleDb savedLate) ∧
      ¬ ReopensOnce (World.start sampleDb) (labelsOf sampleDb expiredMeanwhile) :=
  ⟨by decide, by decide, fun h => absurd h.reserved (by decide), fun h => absurd h.reserved (by decide)⟩

end HostPlatform
