-- SUMMARY: The runs in which nothing of a deleted user is live, and that a deletion that fails changes nothing.
import HostPlatform.DeletionWrites
import HostPlatform.MoneyUnderWay

/-!
# Deleted accounts

`deletionBlocker` looks at the bookings and at the payments of the legacy flow, at one moment. The
user is on the way out from then on, and nothing that began before is told.
-/

namespace HostPlatform

open Lib (Table commitWrites js)
open Lib.Transition

namespace Accounts

/-! ## Statement -/

/-- The user has no stay to come and no money under way, in either payment flow. -/
structure Settled (s : Accounts) (u : UserId) : Prop where
  booking : ∀ r ∈ s.world.db.bookings.rows, r.guestId = u → s.today ≤ r.checkOut → ¬ r.status.live
  payment : ∀ b, s.guestOf b = some u → ¬ s.world.db.PaymentUnderWay b
  attempt : ∀ b, s.guestOf b = some u → ¬ s.world.db.AttemptUnderWay b

/-- No row carries the user's name, email or phone. -/
structure Anonymous (s : Accounts) (u : UserId) : Prop where
  booking : s.BookingsAnonymous u
  guest : s.GuestsAnonymous u

/-- Nothing of a deleted user is live. -/
def NothingLive (s : Accounts) : Prop := ∀ u, s.Deleted u → s.Settled u ∧ s.Anonymous u

/-- Everything but the sweeps. -/
def tables (s : Accounts) : Accounts := { s with sweeps := .empty }

end Accounts

/-- The next statement is not the `COMMIT`, and nothing is committed yet. -/
def PrivacySweepPhase.uncommitted : PrivacySweepPhase → Bool
  | .begun .. | .locked _ | .writing _ _ _ (_ :: _) => true
  | _ => false

namespace Accounts

/-- Until it commits, a deletion changes nothing, and nothing if it fails. -/
structure DeletesWhole (s : Accounts) : Prop where
  statement : ∀ w, s.sweeps.find? w.id = some w → w.phase.uncommitted → (s.step (.sweep w.id)).tables = s.tables
  failure : ∀ id, (s.step (.sweepFails id)).tables = s.tables

/-- The user is deleted, or a transaction that has passed the blocker is deleting them. -/
def Leaving (s : Accounts) (u : UserId) : Prop :=
  s.Deleted u ∨ ∃ d writes rest, s.InPhase (.writing d none writes rest) ∧ d.userId = u

/-- The guest of the booking is on the way out. -/
def GuestLeaving (s : Accounts) (b : BookingId) : Prop := ∃ u, s.guestOf b = some u ∧ s.Leaving u

end Accounts

/-- The checks of `createBooking` let the request through, as a new one. -/
structure Accepts (now : Int) (input : CreateBookingInput) (db : Db) : Prop where
  request : checkRequest input = .ok ()
  isNew : ∀ r ∈ db.bookings.rows, r.idempotencyKey ≠ input.idempotencyKey
  property : ∃ p, bookableProperty now input db = .ok p
  calendar : checkCalendar input db = .ok ()

/-- The transaction brings no money under way and no stay back for a guest on the way out. -/
def Tx.Spares (s : Accounts) : Tx → Prop
  | .decideCharge now token b amountMinor currency =>
    s.GuestLeaving b → ¬ (HostPlatform.decideCharge now token b amountMinor currency s.world.db).1.isCharge
  | .upsertPayment b i _ _ =>
    s.GuestLeaving b → ∃ p ∈ s.world.db.payments.rows, p.providerPaymentIntentId = some i ∧ p.bookingId ≠ b
  | .refundEvent refund =>
    ∀ r ∈ s.world.db.bookings.rows, s.Leaving r.guestId → s.today ≤ r.checkOut →
      ¬ partiallyRefunds refund r.id s.world.db
  | _ => True

namespace Accounts

/-- The condition on one step: it begins nothing for a user on the way out, and no transaction
decides on a user who has a payment attempt under way. -/
def SparesLeaving (s : Accounts) : AccountLabel → Prop
  | .world l => ∀ t, World.Runs s.world l t → t.Spares s
  | .book call now _ => ∀ c input, s.calls.find? call = some c → c.phase = .booking input → s.Leaving c.userId →
      ¬ Accepts now { input with guestId := c.userId } s.world.db
  | .sweep id => ∀ w d, s.sweeps.find? id = some w → w.phase = .locked d →
      s.Unblocked (dateAt d.startedAt) d.userId → ∀ b, s.guestOf b = some d.userId → ¬ s.world.db.AttemptUnderWay b
  | _ => True

/-- Nobody is deleted, no sweep is under way, and no attempt is claimed. -/
structure Start (s : Accounts) : Prop where
  present : ∀ p ∈ s.users.profiles.rows, p.status ≠ .deleted
  sweeps : s.sweeps.rows = []
  unclaimed : ∀ a ∈ s.world.db.paymentAttempts.rows, a.claimToken = none

/-! ## A deletion before its commit -/

theorem deletesWhole (s : Accounts) : s.DeletesWhole where
  statement w hw hphase := by
    simp only [step, hw, stepSweep]
    cases hw' : w.phase with
    | idle => rw [hw'] at hphase; cases hphase
    | begun requestId startedAt =>
      simp only
      split
      · rfl
      · split
        · rfl
        · rfl
    | locked d => rfl
    | writing d blocker writes rest =>
      cases rest with
      | nil => rw [hw'] at hphase; cases hphase
      | cons statement rest => rfl
    | recording => rw [hw'] at hphase; cases hphase
  failure _ := rfl

/-! ## What a user on the way out is spared -/

/-- From `s` to `s'` nothing begins for the users on the way out. -/
structure Follows (s s' : Accounts) : Prop where
  now : s.now ≤ s'.now
  bookings : ∀ r' ∈ s'.world.db.bookings.rows, s.Leaving r'.guestId → ∃ r ∈ s.world.db.bookings.rows,
    r'.id = r.id ∧ r'.guestId = r.guestId ∧ r'.checkOut = r.checkOut ∧
      (s.today ≤ r.checkOut → r'.status.live → r.status.live) ∧ (r.Anonymous → r'.Anonymous)
  payments : ∀ b, s.GuestLeaving b → s'.world.db.PaymentUnderWay b → s.world.db.PaymentUnderWay b
  attempts : ∀ b, s.GuestLeaving b → s'.world.db.AttemptUnderWay b → s.world.db.AttemptUnderWay b
  guests : ∀ g' ∈ s'.bookingGuests.rows, ∃ g ∈ s.bookingGuests.rows,
    g'.id = g.id ∧ g'.bookingId = g.bookingId ∧ (g.fullName = deletedGuest → g'.fullName = deletedGuest)

theorem dateAt_mono {now now' : Nat} (h : now ≤ now') : dateAt now ≤ dateAt now' := by
  unfold dateAt currentDate
  have : (now : Int) ≤ now' := Int.ofNat_le.mpr h
  exact Int.ediv_le_ediv (by decide) (by omega)

namespace Follows

variable {s s' : Accounts} {u : UserId}

theorem guestOf (h : s.Follows s') (hu : s.Leaving u) {b : BookingId} (hb : s'.guestOf b = some u) :
    s.guestOf b = some u := by
  obtain ⟨r', hr', rfl⟩ := Option.map_eq_some_iff.mp hb
  obtain ⟨r, hr, hid, hguest, -⟩ := h.bookings r' (Table.mem_of_find? hr') hu
  have hfind : s.world.db.bookings.find? r.id = some r := Table.find?_of_mem hr
  rw [← hid, show r'.id = b from Table.key_of_find? hr'] at hfind
  exact Option.map_eq_some_iff.mpr ⟨r, hfind, hguest.symm⟩

theorem settled (h : s.Follows s') (hu : s.Leaving u) (hs : s.Settled u) : s'.Settled u where
  booking r' hr' hguest htoday hlive := by
    subst hguest
    obtain ⟨r, hr, -, hguest, hout, hstatus, -⟩ := h.bookings r' hr' hu
    have htoday : s.today ≤ r.checkOut := le_trans (dateAt_mono h.now) (hout ▸ htoday)
    exact hs.booking r hr hguest.symm htoday (hstatus htoday hlive)
  payment b hb hunder :=
    hs.payment b (h.guestOf hu hb) (h.payments b ⟨u, h.guestOf hu hb, hu⟩ hunder)
  attempt b hb hunder :=
    hs.attempt b (h.guestOf hu hb) (h.attempts b ⟨u, h.guestOf hu hb, hu⟩ hunder)

theorem anonymous (h : s.Follows s') (hu : s.Leaving u) (hs : s.Anonymous u) : s'.Anonymous u where
  booking r' hr' hguest := by
    subst hguest
    obtain ⟨r, hr, -, hguest, -, -, hanonymous⟩ := h.bookings r' hr' hu
    exact hanonymous (hs.booking r hr hguest.symm)
  guest g' hg' hb := by
    obtain ⟨g, hg, -, hbooking, hname⟩ := h.guests g' hg'
    exact hname (hs.guest g hg (h.guestOf hu (hbooking ▸ hb)))

end Follows

end Accounts

/-! ### Steps of the booking system -/

theorem Booking.Updated.anonymous {t : Tx} {r r' : Booking} (h : r.Updated t r') :
    r.Anonymous → r'.Anonymous := by
  cases h with
  | _ => exact fun h => h

/-- A row after a transaction other than `createBooking`. -/
theorem row_of_exec {t : Tx}
    (ht : ∀ now isDelayedFlow input, t ≠ .createBooking now isDelayedFlow input) {db : Db}
    {r' : Booking} (hr' : r' ∈ (t.exec db).bookings.rows) :
    ∃ r ∈ db.bookings.rows, r.SameStay r' ∧ (r.Anonymous → r'.Anonymous) ∧
      (r'.status.live → r.status.live ∨ ∃ refund, t = .refundEvent refund ∧ partiallyRefunds refund r.id db) := by
  have hfind := Table.find?_of_mem hr'
  obtain ⟨r, hr, hupdated⟩ := (Tx.updated ht db).to_find? hfind
  obtain ⟨r'', hr'', hstay, hmove⟩ := (t.effect db).row hr
  rw [hfind] at hr''
  cases hr''
  refine ⟨r, Table.mem_of_find? hr, hstay, Booking.Updated.anonymous hupdated, fun hlive => ?_⟩
  rcases hmove with hmove | ⟨-, hcancelled⟩
  · generalize r.status = st, r'.status = st' at hmove hlive
    cases hmove with
    | same => exact .inl hlive
    | paid => exact .inl rfl
    | completed => cases hlive
    | disputed => cases hlive
    | refunded => cases hlive
    | reconfirmed st refund htx hpartly =>
      refine .inr ⟨refund, htx, ?_⟩
      rw [← show r'.id = r.id from hstay.id]
      exact hpartly
  · rw [hcancelled] at hlive
    cases hlive

namespace Accounts

theorem world_follows {s : Accounts} (hclaims : s.world.db.ClaimsOpen) {l : Label} (hbooks : l.createsBooking = false)
    (hg : ∀ t, World.Runs s.world l t → t.Spares s) : s.Follows { s with world := s.world.step l } where
  now := Nat.le_refl _
  bookings r' hr' hleaving := by
    rcases s.world.runStep l with hsame | ⟨t, hruns, hexec⟩
    · exact ⟨r', hsame ▸ hr', rfl, rfl, rfl, fun _ => id, id⟩
    · have ht : ∀ now isDelayedFlow input, t ≠ .createBooking now isDelayedFlow input := by
        rintro now isDelayedFlow input rfl
        cases hruns
        cases hbooks
      have hr' : r' ∈ (t.exec s.world.db).bookings.rows := hexec ▸ hr'
      obtain ⟨r, hr, hstay, hanonymous, hlive⟩ := row_of_exec ht hr'
      refine ⟨r, hr, hstay.id, hstay.guestId, hstay.checkOut, fun htoday hlive' => ?_, hanonymous⟩
      rcases hlive hlive' with hlive | ⟨refund, rfl, hpartly⟩
      · exact hlive
      · exact absurd hpartly (hg _ hruns r hr (hstay.guestId ▸ hleaving) htoday)
  payments b hb hunder := by
    rcases s.world.runStep l with hsame | ⟨t, hruns, hexec⟩
    · exact hsame ▸ hunder
    · have hunder : (t.exec s.world.db).PaymentUnderWay b := hexec ▸ hunder
      rcases t.paymentUnderWay hunder with hunder | ⟨i, guestTotalMinor, currency, rfl, hunique⟩
      · exact hunder
      · obtain ⟨p, hp, hnamed, hne⟩ := hg _ hruns hb
        exact absurd (hunique p hp hnamed) hne
  attempts b hb hunder := by
    rcases World.attemptUnderWay_step hclaims l hunder with hunder | ⟨now, amountMinor, currency, hruns, hcharge⟩
    · exact hunder
    · exact absurd hcharge (hg _ hruns hb)
  guests g hg' := ⟨g, hg', rfl, rfl, id⟩

end Accounts

/-- `createBooking` answers without an insert, or its checks let the request through. -/
theorem createBooking_accepts {now : Int} {isDelayedFlow : Bool} {input : CreateBookingInput} {db db' : Db}
    {r : CreatedBooking} (h : createBooking now isDelayedFlow input db = .ok (r, db')) :
    db' = db ∨ Accepts now input db ∧ ∃ hostId rules,
      db'.bookings = db.bookings.insertNew (bookingRow now isDelayedFlow input hostId rules) fun _ => rfl := by
  unfold createBooking at h
  obtain ⟨_, hrequest, h⟩ := Lib.bind_eq_ok.mp h
  split at h
  next existing rest hselect =>
    cases h
    exact .inl rfl
  next hselect =>
    obtain ⟨p, hp, h⟩ := Lib.bind_eq_ok.mp h
    obtain ⟨_, hcalendar, h⟩ := Lib.bind_eq_ok.mp h
    obtain ⟨feeConfig, -, h⟩ := Lib.bind_eq_ok.mp h
    obtain ⟨breakdown, -, h⟩ := Lib.bind_eq_ok.mp h
    obtain ⟨-, priceComponents, -, rfl⟩ := insertBooking_eq_ok h
    refine .inr ⟨⟨hrequest, fun r hr hkey => ?_, ⟨p, hp⟩, hcalendar⟩, p.hostId, policyRules db p, rfl⟩
    have hmem : r ∈ db.bookings.select fun row => row.idempotencyKey == input.idempotencyKey :=
      List.mem_filter.mpr ⟨hr, beq_iff_eq.mpr hkey⟩
    rw [hselect] at hmem
    cases hmem

namespace Accounts

theorem book_follows {s : Accounts} {c : AccountCall} {input : CreateBookingInput} {now : Int} {isDelayedFlow : Bool}
    (hg : s.Leaving c.userId → ¬ Accepts now { input with guestId := c.userId } s.world.db) :
    s.Follows (s.book c input now isDelayedFlow) := by
  have hmoney := createBooking_sameMoney now isDelayedFlow { input with guestId := c.userId } s.world.db
  refine
    { now := Nat.le_refl _
      bookings := fun r' hr' hleaving => ?_
      payments := fun b _ ⟨p, hp, hunder⟩ => ⟨p, hmoney.payments ▸ hp, hunder⟩
      attempts := fun b _ ⟨a, ha, hunder⟩ => ⟨a, hmoney.paymentAttempts ▸ ha, hunder⟩
      guests := fun g hg => ⟨g, hg, rfl, rfl, id⟩ }
  have hold : r' ∈ s.world.db.bookings.rows → ∃ r ∈ s.world.db.bookings.rows,
      r'.id = r.id ∧ r'.guestId = r.guestId ∧ r'.checkOut = r.checkOut ∧
        (s.today ≤ r.checkOut → r'.status.live → r.status.live) ∧ (r.Anonymous → r'.Anonymous) :=
    fun hr' => ⟨r', hr', rfl, rfl, rfl, fun _ => id, id⟩
  have hr' : r' ∈ (Lib.commit s.world.db
      (createBooking now isDelayedFlow { input with guestId := c.userId } s.world.db)).bookings.rows := hr'
  cases hok : createBooking now isDelayedFlow { input with guestId := c.userId } s.world.db with
  | error e =>
    rw [hok] at hr'
    exact hold hr'
  | ok p =>
    obtain ⟨created, db'⟩ := p
    rw [hok] at hr'
    have hr' : r' ∈ db'.bookings.rows := hr'
    rcases createBooking_accepts hok with rfl | ⟨haccepts, hostId, rules, hbookings⟩
    · exact hold hr'
    · rw [hbookings] at hr'
      rcases List.mem_append.mp hr' with hmem | hnew
      · exact hold hmem
      · rw [List.mem_singleton.mp hnew] at hleaving
        exact absurd haccepts (hg hleaving)

/-! ## The invariant -/

def PhaseInv (s : Accounts) : PrivacySweepPhase → Prop
  | .begun _ startedAt => startedAt ≤ s.now
  | .locked d => d.startedAt ≤ s.now
  | .writing d blocker writes rest => s.Planned d blocker writes rest
  | _ => True

structure Inv (s : Accounts) : Prop where
  claims : s.world.db.ClaimsOpen
  settled : ∀ u, s.Leaving u → s.Settled u
  anonymous : ∀ u, s.Deleted u → s.Anonymous u
  phases : ∀ phase, s.InPhase phase → s.PhaseInv phase

variable {s s' : Accounts}

theorem Leaving.of_writing {d : Deletion} {writes : List DeletionWrite} {rest : List DeletionStatement}
    (h : s.InPhase (.writing d none writes rest)) : s.Leaving d.userId := .inr ⟨d, writes, rest, h, rfl⟩

theorem Follows.planned (h : s.Follows s') {d : Deletion} {blocker : Option String} {writes : List DeletionWrite}
    {rest : List DeletionStatement} (hphase : s.InPhase (.writing d blocker writes rest))
    (hplan : s.Planned d blocker writes rest) : s'.Planned d blocker writes rest where
  statements := hplan.statements
  bookings hnone w hw hstatement r' hr' hguest := by
    subst hnone
    obtain ⟨r, hr, hid, hguest', -⟩ := h.bookings r' hr' (hguest ▸ Leaving.of_writing hphase)
    rw [hid]
    exact hplan.bookings rfl w hw hstatement r hr (hguest'.symm.trans hguest)
  guests hnone w hw hstatement g' hg' hguest := by
    subst hnone
    obtain ⟨g, hg, hid, hbooking, -⟩ := h.guests g' hg'
    rw [hid]
    exact hplan.guests rfl w hw hstatement g hg (h.guestOf (Leaving.of_writing hphase) (hbooking ▸ hguest))

theorem Follows.phaseInv (h : s.Follows s') {phase : PrivacySweepPhase} (hphase : s.InPhase phase)
    (hinv : s.PhaseInv phase) : s'.PhaseInv phase := by
  cases phase with
  | idle => trivial
  | begun requestId startedAt => exact le_trans (show startedAt ≤ s.now from hinv) h.now
  | locked d => exact le_trans (show d.startedAt ≤ s.now from hinv) h.now
  | writing d blocker writes rest => exact h.planned hphase hinv
  | recording => trivial

/-- A user the blocker lets pass has no stay to come and no legacy payment under way. -/
theorem settled_of_unblocked {today : Int} {u : UserId} (htoday : today ≤ s.today) (h : s.Unblocked today u)
    (hattempts : ∀ b, s.guestOf b = some u → ¬ s.world.db.AttemptUnderWay b) : s.Settled u := by
  have hactive := Bool.eq_false_iff.mp h.booking
  have hunresolved := Bool.eq_false_iff.mp h.payment
  refine ⟨fun r hr hguest hout hlive => hactive ?_, fun b hb ⟨p, hp, hunder⟩ => hunresolved ?_, hattempts⟩
  · refine List.any_eq_true.mpr ⟨r, hr, ?_⟩
    rw [hguest, beq_self_eq_true, Bool.true_and]
    refine decide_eq_true ⟨le_trans htoday hout, ?_, ?_⟩
    · rintro hcancelled
      rw [hcancelled] at hlive
      cases hlive
    · rintro hcompleted
      rw [hcompleted] at hlive
      cases hlive
  · obtain ⟨r, hr, hguest⟩ := Option.map_eq_some_iff.mp hb
    refine List.any_eq_true.mpr ⟨r, Table.mem_of_find? hr, ?_⟩
    rw [hguest, beq_self_eq_true, Bool.true_and, show r.id = b from Table.key_of_find? hr, hp, Option.any_some]
    generalize p.status = st at hunder
    cases st with
    | pending => rfl
    | processing => rfl
    | _ => cases hunder

/-! ### Steps that write no row -/

section

variable (h : s.SameRows s')

include h

theorem SameRows.guestOf (b : BookingId) : s'.guestOf b = s.guestOf b := by
  unfold Accounts.guestOf
  rw [h.world]

theorem SameRows.deleted {u : UserId} : s'.Deleted u ↔ s.Deleted u := by
  unfold Deleted
  rw [h.profiles]

theorem SameRows.settled {u : UserId} (hs : s.Settled u) : s'.Settled u where
  booking r hr hguest hout := hs.booking r (h.world ▸ hr) hguest (le_trans (dateAt_mono h.now) hout)
  payment b hb := by
    rw [h.world]
    exact hs.payment b (h.guestOf b ▸ hb)
  attempt b hb := by
    rw [h.world]
    exact hs.attempt b (h.guestOf b ▸ hb)

theorem SameRows.anonymous {u : UserId} (hs : s.Anonymous u) : s'.Anonymous u where
  booking r hr := hs.booking r (h.world ▸ hr)
  guest g hg hb := hs.guest g (h.bookingGuests ▸ hg) (h.guestOf g.bookingId ▸ hb)

theorem SameRows.phaseInv {phase : PrivacySweepPhase} (hinv : s.PhaseInv phase) : s'.PhaseInv phase := by
  cases phase with
  | idle => trivial
  | begun requestId startedAt => exact le_trans (show startedAt ≤ s.now from hinv) h.now
  | locked d => exact le_trans (show d.startedAt ≤ s.now from hinv) h.now
  | writing d blocker writes rest =>
    have hplan : s.Planned d blocker writes rest := hinv
    exact
      { statements := hplan.statements
        bookings := fun hnone w hw hstatement r hr => hplan.bookings hnone w hw hstatement r (h.world ▸ hr)
        guests := fun hnone w hw hstatement g hg hb =>
          hplan.guests hnone w hw hstatement g (h.bookingGuests ▸ hg) (h.guestOf g.bookingId ▸ hb) }
  | recording => trivial

end

theorem Inv.phase_entered {a : AccountLabel} (hinv : s.Inv) {phase : PrivacySweepPhase} (h : s.Enters a phase) :
    s.PhaseInv phase := by
  cases h with
  | idle => trivial
  | begun requestId => exact Nat.le_refl _
  | locked requestId startedAt userId hbegun =>
    have hstarted : startedAt ≤ s.now := hinv.phases _ hbegun
    exact hstarted
  | decided w d ha hw hlocked =>
    exact
      { statements := rfl
        bookings := fun _ _ hw => absurd hw List.not_mem_nil
        guests := fun _ _ hw => absurd hw List.not_mem_nil }
  | planned d blocker writes statement rest hwriting =>
    have hplan : s.Planned d blocker writes (statement :: rest) := hinv.phases _ hwriting
    exact hplan.append

/-- Whoever leaves from this step on has been let pass by the blocker. -/
theorem Inv.settled_entered {a : AccountLabel} (hinv : s.Inv) (hg : s.SparesLeaving a) {d : Deletion}
    {writes : List DeletionWrite} {rest : List DeletionStatement} (h : s.Enters a (.writing d none writes rest)) :
    s.Settled d.userId := by
  generalize hphase : PrivacySweepPhase.writing d none writes rest = phase at h
  cases h with
  | decided w d' ha hw hlocked =>
    subst ha
    simp only [PrivacySweepPhase.writing.injEq] at hphase
    obtain ⟨rfl, hblocker, -, -⟩ := hphase
    have hstarted : d.startedAt ≤ s.now := hinv.phases _ ⟨w, Table.mem_of_find? hw, hlocked⟩
    have hunblocked := deletionBlocker_eq_none.mp hblocker.symm
    exact settled_of_unblocked (dateAt_mono hstarted) hunblocked (hg w d hw hlocked hunblocked)
  | planned d' blocker writes' statement rest' hwriting =>
    simp only [PrivacySweepPhase.writing.injEq] at hphase
    obtain ⟨rfl, rfl, -, -⟩ := hphase
    exact hinv.settled _ (.of_writing hwriting)
  | _ => cases hphase

theorem Inv.quiet {a : AccountLabel} (hinv : s.Inv) (hg : s.SparesLeaving a) (hrows : s.SameRows s')
    (hphases : ∀ phase, s'.InPhase phase → s.InPhase phase ∨ s.Enters a phase) : s'.Inv where
  claims := by
    rw [hrows.world]
    exact hinv.claims
  settled u hu := by
    rcases hu with hu | ⟨d, writes, rest, hphase, rfl⟩
    · exact hrows.settled (hinv.settled u (.inl (hrows.deleted.mp hu)))
    · rcases hphases _ hphase with hold | hnew
      · exact hrows.settled (hinv.settled _ (.of_writing hold))
      · exact hrows.settled (hinv.settled_entered hg hnew)
  anonymous u hu := hrows.anonymous (hinv.anonymous u (hrows.deleted.mp hu))
  phases phase hphase := by
    rcases hphases phase hphase with hold | hnew
    · exact hrows.phaseInv (hinv.phases phase hold)
    · exact hrows.phaseInv (hinv.phase_entered hnew)

/-! ### Steps that write rows -/

/-- The sweeps stay where they are while other rows change. -/
theorem Inv.follow (hinv : s.Inv) (hfollows : s.Follows s') (hclaims : s'.world.db.ClaimsOpen)
    (hprofiles : s'.users.profiles = s.users.profiles) (hsweeps : s'.sweeps = s.sweeps) : s'.Inv := by
  have hdeleted : ∀ u, s'.Deleted u → s.Deleted u := by
    intro u
    unfold Deleted
    rw [hprofiles]
    exact fun h => h
  have hphase : ∀ phase, s'.InPhase phase → s.InPhase phase := by
    intro phase
    unfold InPhase
    rw [hsweeps]
    exact fun h => h
  refine ⟨hclaims, fun u hu => ?_, fun u hu => ?_, fun phase hp => ?_⟩
  · have hu : s.Leaving u := by
      rcases hu with hu | ⟨d, writes, rest, hp, rfl⟩
      · exact .inl (hdeleted u hu)
      · exact .of_writing (hphase _ hp)
    exact hfollows.settled hu (hinv.settled u hu)
  · have hu := hdeleted u hu
    exact hfollows.anonymous (.inl hu) (hinv.anonymous u hu)
  · exact hfollows.phaseInv (hphase _ hp) (hinv.phases _ (hphase _ hp))

theorem Rewrites.follows {d : Deletion} {s s' : Accounts} (h : Rewrites d s s') : s.Follows s' where
  now := h.now.ge
  bookings r' hr' _ := by
    obtain ⟨r, hr, hguest, hout, hstatus, hanonymous⟩ := h.bookings.to_find? (Table.find?_of_mem hr')
    exact ⟨r, Table.mem_of_find? hr, (Table.key_of_find? hr).symm, hguest, hout, fun _ hlive => hstatus ▸ hlive,
      hanonymous⟩
  payments b _ := fun ⟨p, hp, hunder⟩ => ⟨p, h.payments ▸ hp, hunder⟩
  attempts b _ := fun ⟨a, ha, hunder⟩ => ⟨a, h.paymentAttempts ▸ ha, hunder⟩
  guests g' hg' := by
    obtain ⟨g, hg, hbooking, hname⟩ := h.guests.to_find? (Table.find?_of_mem hg')
    exact ⟨g, Table.mem_of_find? hg, (Table.key_of_find? hg).symm, hbooking, hname⟩

theorem commitDeletion_follows (id : Nat) (d : Deletion) (blocker : Option String) (writes : List DeletionWrite) :
    s.Follows (s.commitDeletion id d blocker writes) := by
  have h := (commitWrites_rewrites d s writes).follows
  cases blocker with
  | some reason => exact ⟨h.now, h.bookings, h.payments, h.attempts, h.guests⟩
  | none => exact ⟨h.now, h.bookings, h.payments, h.attempts, h.guests⟩

theorem Inv.commit (hinv : s.Inv) {id : Nat} {d : Deletion} {blocker : Option String} {writes : List DeletionWrite}
    (hphase : s.InPhase (.writing d blocker writes [])) : (s.commitDeletion id d blocker writes).Inv := by
  have hplan : s.Planned d blocker writes [] := hinv.phases _ hphase
  have hfollows := commitDeletion_follows (s := s) id d blocker writes
  have hdeleted : ∀ u, (s.commitDeletion id d blocker writes).Deleted u → s.Leaving u := by
    intro u hu
    rcases commitDeletion_deleted hplan hu with hu | ⟨rfl, rfl⟩
    · exact .inl hu
    · exact .of_writing hphase
  refine ⟨?_, fun u hu => ?_, fun u hu => ?_, fun phase hp => ?_⟩
  · have hattempts :
        (s.commitDeletion id d blocker writes).world.db.paymentAttempts = s.world.db.paymentAttempts := by
      cases blocker with
      | _ => exact (commitWrites_rewrites d s writes).paymentAttempts
    intro a ha
    exact hinv.claims a (hattempts ▸ ha)
  · have hu : s.Leaving u := by
      rcases hu with hu | ⟨d', writes', rest, hp, rfl⟩
      · exact hdeleted u hu
      · rcases commitDeletion_inPhase hp with hold | hnew | hnew
        · exact .of_writing hold
        · cases hnew
        · cases hnew
    exact hfollows.settled hu (hinv.settled u hu)
  · rcases commitDeletion_deleted hplan hu with hold | ⟨rfl, rfl⟩
    · exact hfollows.anonymous (.inl hold) (hinv.anonymous u hold)
    · exact ⟨commitWrites_bookings hplan, commitWrites_guests hplan⟩
  · rcases commitDeletion_inPhase hp with hold | rfl | rfl
    · exact hfollows.phaseInv hold (hinv.phases phase hold)
    · trivial
    · trivial

/-! ## Whole runs -/

theorem Inv.start (h : s.Start) : s.Inv := by
  have hphase : ∀ phase, ¬ s.InPhase phase := by
    rintro phase ⟨w, hw, -⟩
    rw [h.sweeps] at hw
    cases hw
  have hdeleted : ∀ u, ¬ s.Deleted u := fun u ⟨p, hp, hstatus⟩ => h.present p (Table.mem_of_find? hp) hstatus
  refine ⟨fun a ha hclaim => absurd (h.unclaimed a ha) hclaim, fun u hu => ?_, fun u hu => absurd hu (hdeleted u),
    fun phase hp => absurd hp (hphase phase)⟩
  rcases hu with hu | ⟨d, writes, rest, hp, -⟩
  · exact absurd hu (hdeleted u)
  · exact absurd hp (hphase _)

theorem Inv.step (hinv : s.Inv) {a : AccountLabel} (hg : s.SparesLeaving a) : (s.step a).Inv := by
  have hstep := s.accountStep a
  generalize s.step a = s' at hstep ⊢
  cases hstep with
  | world l ha hbooks h =>
    subst ha h
    exact hinv.follow (world_follows hinv.claims hbooks hg) (hinv.claims.step l) rfl rfl
  | booked c input now isDelayedFlow ha hcall hphase h =>
    subst ha h
    exact hinv.follow (book_follows (hg c input hcall hphase)) (hinv.claims.step _) rfl rfl
  | quiet hrows hphases => exact hinv.quiet hg hrows hphases
  | committed w d blocker writes hw hphase h =>
    subst h
    exact hinv.commit ⟨w, Table.mem_of_find? hw, hphase⟩

/-- As long as nothing begins for a user on the way out, nothing of a deleted user is live. A
deletion that fails changes nothing in any case. -/
theorem nothingLive_run (s : Accounts) (hs : s.Start) (as : List AccountLabel)
    (hg : Guarded Accounts.step SparesLeaving s as) (pre suf : List AccountLabel) (has : as = pre ++ suf) :
    (run Accounts.step s pre).NothingLive ∧ (run Accounts.step s pre).DeletesWhole := by
  subst has
  have hinv := run_invariant (I := Inv) (G := SparesLeaving) (fun _ _ hinv hg => hinv.step hg) (Inv.start hs)
    (guarded_append.mp hg).1
  exact ⟨fun u hu => ⟨hinv.settled u (.inl hu), hinv.anonymous u hu⟩, deletesWhole _⟩

/-! ## Three deletions -/

theorem sweep_attempts (s : Accounts) (id : Nat) :
    (s.step (.sweep id)).world.db.paymentAttempts = s.world.db.paymentAttempts := by
  have hstep := s.accountStep (.sweep id)
  generalize s.step (.sweep id) = s' at hstep ⊢
  cases hstep with
  | world l ha => cases ha
  | booked c input now isDelayedFlow ha => cases ha
  | quiet hrows hphases => rw [hrows.world]
  | committed w d blocker writes hw hphase h =>
    subst h
    cases blocker with
    | _ => exact (commitWrites_rewrites d s writes).paymentAttempts

/-- A sweep that nothing comes between meets the condition where no charge was attempted. -/
theorem guarded_sweep (id n : Nat) (h : s.world.db.paymentAttempts.rows = []) :
    Guarded Accounts.step SparesLeaving s (List.replicate n (.sweep id)) := by
  induction n generalizing s with
  | zero => trivial
  | succ n ih =>
    refine ⟨fun _ _ _ _ _ _ _ ⟨a, ha, _⟩ => ?_, ih (by rw [sweep_attempts, h])⟩
    rw [h] at ha
    cases ha

theorem not_leaving_of_start (h : s.Start) (u : UserId) : ¬ s.Leaving u := by
  rintro (⟨p, hp, hstatus⟩ | ⟨d, writes, rest, ⟨w, hw, -⟩, -⟩)
  · exact h.present p (Table.mem_of_find? hp) hstatus
  · rw [h.sweeps] at hw
    cases hw

end Accounts

def guestAccount (id : UserId) : Account :=
  { id := id
    email := js "guest@example.com"
    active := true
    passwordHash := some 7
    sessionVersion := 0 }

def guestProfile (id : UserId) : UserProfile :=
  { id := id
    status := .active
    phone := none
    fullName := some "Guest"
    authProvider := "password"
    failedLoginCount := 0
    failedLoginWindowStartedAt := none
    loginLockedUntil := none
    deletedAt := none }

theorem noSecretsDrawn (_ : CredentialTable) : ∀ c ∈ (Table.empty : Table Credential).rows, c.secret < 0 :=
  fun _ hc => absurd hc List.not_mem_nil

def sampleUsers : Users where
  auth :=
    { users := Table.empty.insertNew guestAccount
      rows := fun _ => .empty
      now := 0
      drawn := 0
      drawn_lt := noSecretsDrawn }
  profiles := Table.empty.insertNew guestProfile
  agree id := by
    by_cases h : id = 1
    · subst h
      rfl
    · have hauth := (Table.find?_insertNew Table.empty guestAccount (fun _ => rfl) id).trans (if_neg h)
      have hprofile := (Table.find?_insertNew Table.empty guestProfile (fun _ => rfl) id).trans (if_neg h)
      rw [hauth, hprofile]
      rfl

/-- One property, and one user. -/
def sampleAccounts : Accounts :=
  { world := World.start sampleDb
    users := sampleUsers
    hostUserIds := []
    adminUserIds := []
    privacyRequests := .empty
    bookingGuests := .empty
    owned := fun _ => .empty
    references := fun _ => .empty
    calls := .empty
    sweeps := .empty }

theorem sampleAccounts_start : sampleAccounts.Start where
  present := by decide
  sweeps := rfl
  unclaimed := by decide

/-- The user signs in and books, on day `day`. -/
def books (day : Nat) (isDelayedFlow : Bool) : List AccountLabel :=
  [.wait (days day), .signIn 1, .request ⟨1, 0, 0⟩ (.book (sampleRequest "a")),
    .book 1 (day * msPerDay) isDelayedFlow]

/-- The user signs in for the session `session`, and asks for the deletion. -/
def asksForDeletion (session : Nat) : List AccountLabel :=
  [.signIn 1, .request ⟨1, 0, session⟩ (.requestDeletion "DELETE" (some 7)), .proceed 1, .proceed 1, .proceed 1,
    .proceed 1]

/-- A sweep that nothing comes between. -/
def deletes : List AccountLabel := .startSweep :: List.replicate 23 (.sweep 1)

/-- The stay is over, then the account is deleted. -/
def deletedAfterStay : List AccountLabel :=
  books 0 false ++ (.wait (days 110) :: asksForDeletion 1 ++ [.wait (days 30)]) ++ deletes

theorem deletedAfterStay_guarded :
    Guarded Accounts.step Accounts.SparesLeaving sampleAccounts deletedAfterStay := by
  refine guarded_append.mpr ⟨guarded_append.mpr ⟨?_, ?_⟩, ?_⟩
  · have hstart : (run Accounts.step sampleAccounts ((books 0 false).take 3)).Start :=
      ⟨by decide +kernel, by decide +kernel, by decide +kernel⟩
    exact ⟨trivial, trivial, trivial,
      fun c _ _ _ hleaving => absurd hleaving (Accounts.not_leaving_of_start hstart c.userId), trivial⟩
  · exact ⟨trivial, trivial, trivial, trivial, trivial, trivial, trivial, trivial, trivial⟩
  · exact ⟨trivial, Accounts.guarded_sweep 1 23 (by decide +kernel)⟩

theorem deletedAfterStay_nothingLive :
    (run Accounts.step sampleAccounts deletedAfterStay).Deleted 1 ∧
      (run Accounts.step sampleAccounts deletedAfterStay).NothingLive ∧
      (run Accounts.step sampleAccounts deletedAfterStay).DeletesWhole := by
  have hdeleted : ((run Accounts.step sampleAccounts deletedAfterStay).users.profiles.find? 1).map
    UserProfile.status = some .deleted := by decide +kernel
  exact ⟨Option.map_eq_some_iff.mp hdeleted, Accounts.nothingLive_run sampleAccounts sampleAccounts_start
    deletedAfterStay deletedAfterStay_guarded deletedAfterStay [] (List.append_nil _).symm⟩

/-- The session of a booking request is checked, the account is deleted, the booking is created. -/
def bookedTooLate : List AccountLabel :=
  asksForDeletion 0 ++
    [.wait (days 29), .signIn 1, .wait (days 1), .request ⟨1, 0, 1⟩ (.book (sampleRequest "a"))] ++
    deletes ++ [.book 1 (30 * msPerDay) false]

/-- The worker stops before it has an answer from Stripe, and the stay passes. -/
def deletedWhileCharging : List AccountLabel :=
  books 95 true ++
    [ .world (.transaction (.saveSetupIntent 1 5 6)),
      .world (.transaction (.configureTaxTreatment 1 .hostRemits)),
      .world (.setupIntentSucceeded 1 7),
      .world (.setupIntentContinue (99 * msPerDay) 1),
      .world (.charge (99 * msPerDay) 1 (.unavailable none)),
      .world (.chargeCrash 1),
      .wait (days 10) ] ++
    asksForDeletion 1 ++ [.wait (days 30)] ++ deletes

/-- A booking to come is left live with its guest's name, and a payment attempt is left pending. -/
theorem deletedAccounts_leaveLive :
    ¬ (run Accounts.step sampleAccounts bookedTooLate).NothingLive ∧
      ¬ (run Accounts.step sampleAccounts deletedWhileCharging).NothingLive := by
  constructor
  · intro h
    have hdeleted : ((run Accounts.step sampleAccounts bookedTooLate).users.profiles.find? 1).map
      UserProfile.status = some .deleted := by decide +kernel
    have htoday : (run Accounts.step sampleAccounts bookedTooLate).today = 30 := by decide +kernel
    have hlive : (run Accounts.step sampleAccounts bookedTooLate).world.db.bookings.rows.any (fun r =>
        decide (r.guestId = 1 ∧ 30 ≤ r.checkOut ∧ r.status.live)) := by
      decide +kernel
    obtain ⟨r, hr, hlive⟩ := List.any_eq_true.mp hlive
    obtain ⟨hguest, hout, hlive⟩ := of_decide_eq_true hlive
    exact (h 1 (Option.map_eq_some_iff.mp hdeleted)).1.booking r hr hguest (htoday ▸ hout) hlive
  · intro h
    have hdeleted : ((run Accounts.step sampleAccounts deletedWhileCharging).users.profiles.find? 1).map
      UserProfile.status = some .deleted := by decide +kernel
    have hguest : (run Accounts.step sampleAccounts deletedWhileCharging).guestOf 1 = some 1 := by decide +kernel
    have hunder : (run Accounts.step sampleAccounts deletedWhileCharging).world.db.paymentAttempts.rows.any (fun a =>
        decide (a.bookingId = 1 ∧ a.status.underWay)) := by
      decide +kernel
    obtain ⟨a, ha, hunder⟩ := List.any_eq_true.mp hunder
    exact (h 1 (Option.map_eq_some_iff.mp hdeleted)).1.attempt 1 hguest ⟨a, ha, of_decide_eq_true hunder⟩

end HostPlatform
