-- SUMMARY: When two requests to Stripe under one idempotency key carry the same parameters.
import HostPlatform.Safety.MoneyBooked
import HostPlatform.Safety.NoDoubleCharge

/-!
# One request for each key

The key of an attempt stands for its booking and number, and the price of a booking
never changes, so the amount, the currency and the metadata of a request are those of
its key. The customer and the card are read from the booking again at each claim: a
card the guest replaces between two claims of an attempt makes two requests of one key.
-/

namespace HostPlatform

open Lib (Table)
open Lib.Transition

/-- The call that sends its request in this step, and its claim. -/
def World.sent? (w : World) : Label → Option (ChargeCall × ChargeClaim)
  | .charge _ call _ =>
    (w.charges.find? call).bind fun c => c.phase.request?.map fun claim => (c, claim)
  | _ => none

/-- The claim taken in this step, and the booking row it is taken on. -/
def World.claimed? (w : World) : Label → Option (ChargeClaim × Booking)
  | .charge now call _ =>
    ((w.charges.find? call).filter fun c => decide (c.phase = .deciding)).bind fun c =>
      match (w.decision now c).1, w.db.bookings.find? c.bookingId with
      | .charge claim, some booking => some (claim, booking)
      | _, _ => none
  | _ => none

/-- The requests of a run. -/
def requestsOf (w : World) (ls : List Label) : List (ChargeCall × ChargeClaim) :=
  collect World.step World.sent? w ls

/-- The claims of a run, each with the booking row it was taken on. -/
def claimsOf (w : World) (ls : List Label) : List (ChargeClaim × Booking) :=
  collect World.step World.claimed? w ls

/-- Requests of the run under the same key carry the same amount, currency, customer,
payment method and metadata. -/
def OneRequestPerKey (w : World) (ls : List Label) : Prop :=
  ∀ r ∈ requestsOf w ls, ∀ r' ∈ requestsOf w ls, r.2.idempotencyKey = r'.2.idempotencyKey →
    World.offSessionParams r.1 r.2 = World.offSessionParams r'.1 r'.2

/-- Workers that claimed the same attempt, and sent their requests, found the booking
with the same customer and the same card. -/
def SameCard (w : World) (ls : List Label) : Prop :=
  ∀ x ∈ claimsOf w ls, ∀ x' ∈ claimsOf w ls, x.1.idempotencyKey = x'.1.idempotencyKey →
    (∃ r ∈ requestsOf w ls, r.2 = x.1) → (∃ r ∈ requestsOf w ls, r.2 = x'.1) →
    x.2.stripeCustomerId = x'.2.stripeCustomerId ∧
      x.2.stripePaymentMethodId = x'.2.stripePaymentMethodId

instance (w : World) (ls : List Label) : Decidable (OneRequestPerKey w ls) :=
  inferInstanceAs (Decidable (∀ r ∈ requestsOf w ls, ∀ r' ∈ requestsOf w ls, _ → _))

instance (w : World) (ls : List Label) : Decidable (SameCard w ls) :=
  inferInstanceAs (Decidable (∀ x ∈ claimsOf w ls, ∀ x' ∈ claimsOf w ls, _ → _ → _ → _))

theorem World.sent?_eq_some {w : World} {l : Label} {c : ChargeCall} {claim : ChargeClaim}
    (h : w.sent? l = some (c, claim)) : c ∈ w.charges.rows ∧ c.phase = .calling claim := by
  cases l with
  | charge now call answer =>
    obtain ⟨c', hc, hclaim⟩ := Option.bind_eq_some_iff.mp h
    obtain ⟨claim', hphase, hpair⟩ := Option.map_eq_some_iff.mp hclaim
    cases hpair
    refine ⟨Table.mem_of_find? hc, ?_⟩
    cases hcalling : c.phase with
    | calling claim₀ =>
      rw [hcalling] at hphase
      cases hphase
      rfl
    | deciding =>
      rw [hcalling] at hphase
      cases hphase
    | recording claim₀ status details =>
      rw [hcalling] at hphase
      cases hphase
  | _ => cases h

theorem World.claimed?_eq_some {w : World} {l : Label} {claim : ChargeClaim} {booking : Booking} :
    w.claimed? l = some (claim, booking) ↔ ∃ now c, Decides w l now c ∧
      (w.decision now c).1 = .charge claim ∧ w.db.bookings.find? c.bookingId = some booking := by
  constructor
  · intro h
    cases l with
    | charge now call answer =>
      obtain ⟨c, hc, hclaim⟩ := Option.bind_eq_some_iff.mp h
      obtain ⟨hfind, hphase⟩ := Option.filter_eq_some_iff.mp hc
      refine ⟨now, c, ⟨call, answer, rfl, hfind, of_decide_eq_true hphase⟩, ?_⟩
      split at hclaim
      · rename_i claim' booking' hdecision hbooking
        cases hclaim
        exact ⟨hdecision, hbooking⟩
      · cases hclaim
    | _ => cases h
  · rintro ⟨now, c, ⟨call, answer, rfl, hfind, hphase⟩, hdecision, hbooking⟩
    simp only [claimed?, hfind, Option.filter_some, hphase, decide_true, if_true, Option.bind_some,
      hdecision, hbooking]

/-! ## What stays -/

/-- The price of an existing booking. -/
def Db.PricedAt (db : Db) (b : BookingId) (pc : PriceComponents) : Prop :=
  (∃ r, db.bookings.find? b = some r) ∧ db.priceComponents.find? b = some pc

theorem World.pricedAt_step {w : World} {b : BookingId} {pc : PriceComponents}
    (h : w.db.PricedAt b pc) (l : Label) : (w.step l).db.PricedAt b pc := by
  obtain ⟨⟨r, hr⟩, hpc⟩ := h
  obtain ⟨r', hr', -⟩ := (w.bookingsGrow_step l).stay b r hr
  refine ⟨⟨r', hr'⟩, ?_⟩
  rcases w.dbStep l with h | ⟨t, h⟩
  · rw [h]
    exact hpc
  · rw [h]
    exact t.price_stays hr hpc

/-- The attempt with this key. -/
def Db.AttemptOf (db : Db) (attemptId : AttemptId) (key : AttemptKey) : Prop :=
  ∃ a, db.paymentAttempts.find? attemptId = some a ∧ a.idempotencyKey = key

theorem World.attemptOf_step {w : World} {attemptId : AttemptId} {key : AttemptKey}
    (h : w.db.AttemptOf attemptId key) (l : Label) : (w.step l).db.AttemptOf attemptId key := by
  obtain ⟨a, ha, hkey⟩ := h
  cases w.attemptsGrow_step l with
  | updated hrowwise =>
    obtain ⟨a', ha', hkept⟩ := hrowwise.of_find? ha
    exact ⟨a', ha', hkept.idempotencyKey.trans hkey⟩
  | inserted row hrowkey hfree hrows =>
    obtain ⟨hmem, hid⟩ := Table.find?_eq_some_iff.mp ha
    refine ⟨a, Table.find?_eq_some_iff.mpr ⟨?_, hid⟩, hkey⟩
    rw [hrows]
    exact List.mem_append_left _ hmem

/-- A key is the key of one attempt. -/
theorem Db.SlotsTaken.attemptOf_unique {db : Db} (h : db.SlotsTaken) {attemptId attemptId' : AttemptId}
    {key : AttemptKey} (ha : db.AttemptOf attemptId key) (ha' : db.AttemptOf attemptId' key) :
    attemptId = attemptId' := by
  obtain ⟨a, hfind, hkey⟩ := ha
  obtain ⟨a', hfind', hkey'⟩ := ha'
  have hmem := Table.mem_of_find? hfind
  have hmem' := Table.mem_of_find? hfind'
  rw [h.key a hmem] at hkey
  rw [h.key a' hmem', ← hkey] at hkey'
  have hsame := h.number a hmem a' hmem' (congrArg AttemptKey.bookingId hkey').symm
    (congrArg AttemptKey.attemptNumber hkey').symm
  rw [← Table.key_of_find? hfind, ← Table.key_of_find? hfind', hsame]

/-! ## Requests are fixed by their keys -/

/-- A call charges the price of its booking. -/
def World.ChargesPrice (w : World) (c : ChargeCall) : Prop :=
  ∃ pc, w.db.PricedAt c.bookingId pc ∧ c.amountMinor = pc.guestTotalMinor ∧ c.currency = pc.currency

/-- A claim names its attempt, and its key the booking of its call. -/
def World.ClaimOf (w : World) (c : ChargeCall) (claim : ChargeClaim) : Prop :=
  claim.idempotencyKey.bookingId = c.bookingId ∧
    w.db.AttemptOf claim.attemptId claim.idempotencyKey

structure World.RequestsFixed (w : World) : Prop where
  slots : w.db.SlotsTaken
  priced : ∀ c ∈ w.charges.rows, w.ChargesPrice c
  claimed : ∀ c ∈ w.charges.rows, ∀ claim, c.phase = .calling claim → w.ClaimOf c claim

theorem World.RequestsFixed.start {db : Db} (hattempts : db.paymentAttempts.rows = []) :
    (World.start db).RequestsFixed where
  slots := .of_empty hattempts
  priced _ h := absurd h List.not_mem_nil
  claimed _ h := absurd h List.not_mem_nil

theorem World.ChargesPrice.step {w : World} {c : ChargeCall} (h : w.ChargesPrice c) (l : Label) :
    (w.step l).ChargesPrice c := by
  obtain ⟨pc, hpriced, hamounts⟩ := h
  exact ⟨pc, w.pricedAt_step hpriced l, hamounts⟩

theorem World.ClaimOf.step {w : World} {c : ChargeCall} {claim : ChargeClaim} (h : w.ClaimOf c claim)
    (l : Label) : (w.step l).ClaimOf c claim :=
  ⟨h.1, w.attemptOf_step h.2 l⟩

/-- What a decision claims, in the state after it. -/
theorem World.claimOf_decision {w : World} (hslots : w.db.SlotsTaken) {l : Label} {now : Int}
    {c : ChargeCall} {claim : ChargeClaim} (hdecides : Decides w l now c)
    (hdecision : (w.decision now c).1 = .charge claim) : (w.step l).ClaimOf c claim := by
  obtain ⟨-, -, -, ⟨latest, hlatest, -, hid, hkey, -⟩ | ⟨-, hid, hkey, hdb⟩⟩ :=
    decideCharge_eq_charge hdecision
  · obtain ⟨hmem, hb, -⟩ := Db.latestAttempt_eq_some hlatest
    refine ⟨?_, w.attemptOf_step ⟨latest, ?_, hkey.symm⟩ l⟩
    · rw [hkey, hslots.key latest hmem]
      exact hb
    · rw [hid]
      exact Table.find?_of_mem hmem
  · refine ⟨by rw [hkey], ?_⟩
    unfold Db.AttemptOf
    rw [hdecides.attempts hdecision, hid, hkey, show (w.decision now c).2 = _ from hdb]
    exact ⟨_, (Table.find?_insertNew _ _ (by intro k; rfl) _).trans (if_pos rfl), rfl⟩

theorem World.RequestsFixed.step {w : World} (hinv : w.RequestsFixed) (l : Label) :
    (w.step l).RequestsFixed := by
  constructor
  case slots => exact hinv.slots.grow (w.attemptsGrow_step l)
  case priced =>
    intro c hc
    rcases w.charge_origin l hc with ⟨c₀, hc₀, hsame⟩ | ⟨pc, hstarts, hamount, hcurrency⟩
    · rw [hsame]
      exact (hinv.priced c₀ hc₀).step l
    · exact ⟨pc, w.pricedAt_step ⟨hstarts.booking, hstarts.priced⟩ l, hamount, hcurrency⟩
  case claimed =>
    intro c hc claim hphase
    rcases w.calling_step l hc hphase with hold | ⟨now, call, -, hdecides, hdecision, rfl⟩
    · exact (hinv.claimed c hold claim hphase).step l
    · show (w.step l).ClaimOf call claim
      exact World.claimOf_decision hinv.slots hdecides hdecision

/-! ## Whole runs -/

section

variable {db : Db} {ls : List Label} {c : ChargeCall} {claim : ChargeClaim} {booking : Booking}

/-- A claim under way was taken in the run, on some booking row. -/
theorem claimed_of_calling (hc : c ∈ (run World.step (World.start db) ls).charges.rows)
    (hphase : c.phase = .calling claim) :
    ∃ booking, (claim, booking) ∈ claimsOf (World.start db) ls := by
  have hall : ∀ c ∈ (run World.step (World.start db) ls).charges.rows, ∀ claim,
      c.phase = .calling claim → ∃ booking,
        Did World.step (fun w l x => w.claimed? l = some x) (World.start db) ls (claim, booking) := by
    refine run_invariant_did (φ := fun w l x => World.claimed? w l = some x) (G := fun _ _ _ => True)
      (J := fun w H => ∀ c ∈ w.charges.rows, ∀ claim, c.phase = .calling claim →
        ∃ booking, H (claim, booking)) (fun _ h => absurd h List.not_mem_nil) ?_ fun _ _ _ _ => trivial
    intro w H l hinv _ c hc claim hphase
    rcases w.calling_step l hc hphase with hold | ⟨now, call, -, hdecides, hdecision, -⟩
    · obtain ⟨booking, h⟩ := hinv c hold claim hphase
      exact ⟨booking, .inl h⟩
    · obtain ⟨booking, hbooking, -⟩ := decideCharge_passed hdecision
      exact ⟨booking, .inr (World.claimed?_eq_some.mpr ⟨now, call, hdecides, hdecision, hbooking⟩)⟩
  obtain ⟨booking, h⟩ := hall c hc claim hphase
  exact ⟨booking, mem_collect.mpr h⟩

/-- A claim carries the customer and the card of the row it was taken on. -/
theorem card_of_claimed {w : World} (h : (claim, booking) ∈ claimsOf w ls) :
    booking.stripeCustomerId = some claim.customerId ∧
      booking.stripePaymentMethodId = some claim.paymentMethodId := by
  obtain ⟨pre, l, suf, -, hclaimed⟩ := mem_collect.mp h
  obtain ⟨now, c, -, hdecision, hbooking⟩ := World.claimed?_eq_some.mp hclaimed
  obtain ⟨booking', hbooking', hpassed, -, -, hcustomer, hcard, -⟩ := decideCharge_passed hdecision
  rw [hbooking] at hbooking'
  cases hbooking'
  obtain ⟨-, -, hhasCustomer, hhasCard, -⟩ := bookingRefusal_eq_none hpassed
  obtain ⟨customer, hc⟩ := Option.ne_none_iff_exists'.mp hhasCustomer
  obtain ⟨card, hp⟩ := Option.ne_none_iff_exists'.mp hhasCard
  rw [hcustomer, hcard, hc, hp]
  exact ⟨rfl, rfl⟩

theorem requestsFixed_run (hattempts : db.paymentAttempts.rows = []) (ls : List Label) :
    (run World.step (World.start db) ls).RequestsFixed :=
  run_invariant' (I := World.RequestsFixed) (fun _ l h => h.step l) (.start hattempts) ls

/-- Of a request sent in the run, what its key fixes still holds at the end, and its claim
was taken before. -/
theorem request_fixed (hattempts : db.paymentAttempts.rows = [])
    (h : (c, claim) ∈ requestsOf (World.start db) ls) :
    (run World.step (World.start db) ls).ChargesPrice c ∧
      (run World.step (World.start db) ls).ClaimOf c claim ∧
      ∃ booking, (claim, booking) ∈ claimsOf (World.start db) ls := by
  obtain ⟨pre, l, suf, rfl, hsent⟩ := mem_collect.mp h
  obtain ⟨hc, hphase⟩ := World.sent?_eq_some hsent
  have hinv := requestsFixed_run hattempts pre
  rw [run_append]
  refine ⟨?_, ?_, ?_⟩
  · exact run_invariant' (I := fun w : World => w.ChargesPrice c) (fun _ l h => h.step l)
      (hinv.priced c hc) (l :: suf)
  · exact run_invariant' (I := fun w : World => w.ClaimOf c claim) (fun _ l h => h.step l)
      (hinv.claimed c hc claim hphase) (l :: suf)
  · obtain ⟨booking, hclaimed⟩ := claimed_of_calling hc hphase
    exact ⟨booking, mem_collect.mpr ((mem_collect.mp hclaimed).append (l :: suf))⟩

end

/-- From a database without attempts, a run sends one request for each key exactly if the
customer and the card of a booking are the same at every claim of an attempt that is sent. -/
theorem oneRequestPerKey_iff {db : Db} (hattempts : db.paymentAttempts.rows = []) (ls : List Label) :
    OneRequestPerKey (World.start db) ls ↔ SameCard (World.start db) ls := by
  constructor
  · rintro h ⟨claim, booking⟩ hclaimed ⟨claim', booking'⟩ hclaimed' hkey ⟨r, hr, rfl⟩ ⟨r', hr', rfl⟩
    obtain ⟨hcustomer, hcard⟩ := card_of_claimed hclaimed
    obtain ⟨hcustomer', hcard'⟩ := card_of_claimed hclaimed'
    have hparams := h r hr r' hr' hkey
    simp only [World.offSessionParams, IntentParams.offSession.injEq] at hparams
    obtain ⟨-, -, -, -, hsameCustomer, hsameCard⟩ := hparams
    rw [hcustomer, hcard, hcustomer', hcard', hsameCustomer, hsameCard]
    exact ⟨rfl, rfl⟩
  · rintro h ⟨c, claim⟩ hr ⟨c', claim'⟩ hr' hkey
    have hslots := (requestsFixed_run hattempts ls).slots
    obtain ⟨⟨pc, hpriced, hamount, hcurrency⟩, ⟨hb, hattempt⟩, booking, hclaimed⟩ :=
      request_fixed hattempts hr
    obtain ⟨⟨pc', hpriced', hamount', hcurrency'⟩, ⟨hb', hattempt'⟩, booking', hclaimed'⟩ :=
      request_fixed hattempts hr'
    obtain ⟨hcustomer, hcard⟩ := card_of_claimed hclaimed
    obtain ⟨hcustomer', hcard'⟩ := card_of_claimed hclaimed'
    obtain ⟨hsameCustomer, hsameCard⟩ := h _ hclaimed _ hclaimed' hkey ⟨_, hr, rfl⟩ ⟨_, hr', rfl⟩
    have hbooking : c.bookingId = c'.bookingId := by
      rw [← hb, ← hb']
      exact congrArg AttemptKey.bookingId hkey
    have hid : claim.attemptId = claim'.attemptId := by
      rw [show claim'.idempotencyKey = claim.idempotencyKey from hkey.symm] at hattempt'
      exact hslots.attemptOf_unique hattempt hattempt'
    have hprice : pc = pc' := by
      have h₁ := hpriced.2
      rw [hbooking, hpriced'.2] at h₁
      exact (Option.some.inj h₁).symm
    simp only [hcustomer, hcustomer', hcard, hcard', Option.some.injEq] at hsameCustomer hsameCard
    simp only [World.offSessionParams, hbooking, hid, hamount, hamount', hcurrency, hcurrency', hprice,
      hsameCustomer, hsameCard]

/-- The worker of the first sweep stops after its request; the second sweep, after the
lease, repeats it. -/
def sweptTwice : List Label :=
  cardSaved ++
    [ .sweepCharge (40 * msPerDay) 1,
      .charge (40 * msPerDay) 1 (.unavailable none),
      .charge (40 * msPerDay) 1 (.unavailable none),
      .chargeCrash 1 ] ++
    swept (41 * msPerDay) 1 (.processed .succeeded none true)

theorem sweptTwice_oneRequestPerKey :
    (requestsOf (World.start sampleDb) sweptTwice).length = 2 ∧
      OneRequestPerKey (World.start sampleDb) sweptTwice :=
  ⟨by decide, (oneRequestPerKey_iff rfl sweptTwice).mpr (by decide)⟩

/-- The guest saves another card between the two sweeps. -/
def cardReplaced : List Label :=
  cardSaved ++
    [ .sweepCharge (40 * msPerDay) 1,
      .charge (40 * msPerDay) 1 (.processed .processing none true),
      .charge (40 * msPerDay) 1 (.processed .processing none true),
      .charge (40 * msPerDay) 1 (.processed .processing none true),
      .transaction (.saveSetupIntent 1 1 2),
      .setupIntentSucceeded 1 2,
      .setupIntentContinue (41 * msPerDay) 1 ] ++
    List.replicate 3 (.charge (41 * msPerDay) 1 (.processed .succeeded none true))

theorem cardReplaced_twoRequests : ¬ OneRequestPerKey (World.start sampleDb) cardReplaced := by
  decide

end HostPlatform
