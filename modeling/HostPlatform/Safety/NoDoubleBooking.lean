-- SUMMARY: The calendar as a book of reservations, which every transaction refines unless it revives a cancelled booking.
import HostPlatform.Lib.Reservation
import HostPlatform.Safety.TerminalStates

/-!
# No double booking

What the calendar is for: bookings reserve nights of a property, and no night has
two holders. A booking holds its nights from its insertion until it is cancelled,
whatever else happens to its status; `Represents` ties the rows to a
`Lib.Reservations`, and each transaction reserves, releases or keeps it.
-/

namespace HostPlatform

open Lib (Table Reservations)
open Lib.Transition

/-! ## What is claimed of a database -/

/-- Booking `b` is live and covers night `d` of property `p`. -/
def Db.occupies (db : Db) (b : BookingId) (p : PropertyId) (d : Int) : Bool :=
  (db.bookings.find? b).any fun r =>
    r.status.live && decide (r.propertyId = p ∧ r.checkIn ≤ d ∧ d < r.checkOut)

/-- No night has two live bookings, and the nights of live bookings are booked rows. -/
structure Db.NoDoubleBooking (db : Db) : Prop where
  unique : ∀ b b' p d, db.occupies b p d → db.occupies b' p d → b = b'
  booked : ∀ b p d, db.occupies b p d → db.availability p d = some bookedBlock

theorem Db.occupies_iff {db : Db} {b : BookingId} {p : PropertyId} {d : Int} :
    db.occupies b p d ↔ ∃ r, db.bookings.find? b = some r ∧ r.status.live ∧
      r.propertyId = p ∧ d ∈ r.nights := by
  unfold Db.occupies Booking.nights
  simp only [Option.any_eq_true, Bool.and_eq_true, decide_eq_true_eq, Set.mem_Ico]

/-! ## The reservations of a database -/

/-- The nights of a booking, with their property. -/
def Booking.stay (r : Booking) : Set (PropertyId × Int) :=
  { x | x.1 = r.propertyId ∧ x.2 ∈ r.nights }

theorem Booking.SameStay.stay {r r' : Booking} (h : r.SameStay r') : r'.stay = r.stay := by
  unfold Booking.stay
  rw [h.propertyId, h.nights]

/-- `R` is the book of the bookings that exist and are not in `C`. -/
structure Represents (db : Db) (C : BookingId → Prop) (R : Reservations BookingId (PropertyId × Int)) :
    Prop where
  held : ∀ b, b ∈ R.held ↔ (∃ r, db.bookings.find? b = some r) ∧ ¬ C b
  claim : ∀ b r, db.bookings.find? b = some r → R.claim b = r.stay
  taken : ∀ p d, (p, d) ∈ R.taken ↔ db.availability p d = some bookedBlock

/-- The invariant: `C` are the bookings that have ever been cancelled. -/
structure CalendarInv (db : Db) (C : BookingId → Prop) : Prop where
  book : ∃ R, Represents db C R
  live_not : ∀ b r, db.bookings.find? b = some r → r.status.live → ¬ C b
  cancelled : ∀ b r, db.bookings.find? b = some r → r.status = .cancelled → C b
  exist : ∀ b, C b → ∃ r, db.bookings.find? b = some r

theorem CalendarInv.noDoubleBooking {db : Db} {C : BookingId → Prop} (h : CalendarInv db C) :
    db.NoDoubleBooking := by
  obtain ⟨R, hR⟩ := h.book
  have hholds : ∀ {b p d}, db.occupies b p d → b ∈ R.held ∧ (p, d) ∈ R.claim b := by
    intro b p d hb
    obtain ⟨r, hr, hlive, hp, hd⟩ := Db.occupies_iff.mp hb
    refine ⟨(hR.held b).mpr ⟨⟨r, hr⟩, h.live_not b r hr hlive⟩, ?_⟩
    rw [hR.claim b r hr]
    exact ⟨hp.symm, hd⟩
  constructor
  · intro b b' p d hb hb'
    exact R.holder_unique (hholds hb).1 (hholds hb').1 (hholds hb).2 (hholds hb').2
  · intro b p d hb
    exact (hR.taken p d).mp (R.covered b (hholds hb).1 (hholds hb).2)

/-- A database without bookings. -/
theorem CalendarInv.of_no_bookings {db : Db} (h : db.bookings.rows = []) :
    CalendarInv db fun b => db.statusOf b = some .cancelled := by
  have hnone : ∀ b, db.bookings.find? b = none := fun b => by
    unfold Table.find?
    rw [h]
    rfl
  refine ⟨⟨.none { x | db.availability x.1 x.2 = some bookedBlock }, ?_, ?_, ?_⟩, ?_, ?_, ?_⟩
  · intro b
    refine ⟨fun hb => absurd hb (Set.notMem_empty b), ?_⟩
    rintro ⟨⟨r, hr⟩, -⟩
    rw [hnone] at hr
    cases hr
  · intro b r hr
    rw [hnone] at hr
    cases hr
  · intro p d
    exact Iff.rfl
  · intro b r hr
    rw [hnone] at hr
    cases hr
  · intro b r hr
    rw [hnone] at hr
    cases hr
  · intro b hb
    unfold Db.statusOf at hb
    rw [hnone] at hb
    cases hb

/-! ## One transaction -/

section

variable {t : Tx} {db db' : Db} {C : BookingId → Prop}

/-- The bookings that have been cancelled, one state later. -/
def CancelledBy (C : BookingId → Prop) (db' : Db) (b : BookingId) : Prop :=
  C b ∨ db'.statusOf b = some .cancelled

/-- Inserting a booking on free nights reserves them. -/
theorem CalendarInv.inserted {isDelayedFlow : Bool} {input : CreateBookingInput} {row : Booking}
    (hinv : CalendarInv db C) (h : BookingInserted input isDelayedFlow row db db') :
    CalendarInv db' (CancelledBy C db') := by
  obtain ⟨R, hR⟩ := hinv.book
  have hfresh : db.bookings.find? row.id = none := by
    rw [h.id_fresh]
    exact Table.find?_freshKey _
  have hnotC : ¬ C row.id := fun hC => by
    obtain ⟨r, hr⟩ := hinv.exist _ hC
    rw [hfresh] at hr
    cases hr
  have hC : ∀ b, CancelledBy C db' b ↔ C b := by
    intro b
    refine ⟨fun hb => ?_, Or.inl⟩
    rcases hb with hb | hb
    · exact hb
    · obtain ⟨r, hr, hst⟩ := Db.statusOf_eq_some.mp hb
      rw [h.find] at hr
      split at hr
      · cases hr
        rw [h.pending] at hst
        cases hst
      · exact hinv.cancelled b r hr hst
  have hrow : ∀ {b r}, db'.bookings.find? b = some r → (b = row.id ∧ r = row) ∨
      (b ≠ row.id ∧ db.bookings.find? b = some r) := by
    intro b r hr
    rw [h.find] at hr
    split at hr
    · rename_i hb
      exact Or.inl ⟨hb, (Option.some.inj hr).symm⟩
    · rename_i hb
      exact Or.inr ⟨hb, hr⟩
  have hnotheld : row.id ∉ R.held := fun hheld => by
    obtain ⟨⟨r, hr⟩, -⟩ := (hR.held _).mp hheld
    rw [hfresh] at hr
    cases hr
  have hfree : Disjoint row.stay R.taken := by
    refine Set.disjoint_left.mpr fun x hx htaken => ?_
    have hbooked := (hR.taken x.1 x.2).mp htaken
    rw [hx.1] at hbooked
    exact h.free x.2 hx.2 hbooked
  refine ⟨⟨R.reserve row.id row.stay hnotheld hfree, ?_, ?_, ?_⟩, ?_, ?_, ?_⟩
  · intro b
    rw [hC]
    rw [Reservations.mem_reserve_held, hR.held, h.find]
    by_cases hb : b = row.id
    · subst hb
      simp [hnotC]
    · simp [hb]
  · intro b r hr
    rcases hrow hr with ⟨rfl, rfl⟩ | ⟨hb, hr⟩
    · exact Reservations.reserve_claim_self
    · exact (Reservations.reserve_claim_of_ne hb).trans (hR.claim b r hr)
  · intro p d
    rw [Reservations.mem_reserve_taken, hR.taken, h.booked]
    exact Iff.rfl
  · intro b r hr hlive
    rw [hC]
    rcases hrow hr with ⟨rfl, -⟩ | ⟨-, hr⟩
    · exact hnotC
    · exact hinv.live_not b r hr hlive
  · intro b r hr hst
    exact Or.inr (Db.statusOf_eq_some.mpr ⟨r, hr, hst⟩)
  · intro b hb
    obtain ⟨r, hr⟩ := hinv.exist b ((hC b).mp hb)
    rw [h.find]
    split
    · exact ⟨row, rfl⟩
    · exact ⟨r, hr⟩

/-- Cancelling a live booking releases its nights. -/
theorem CalendarInv.released {c : Booking} {set : Booking → Booking} (hinv : CalendarInv db C)
    (hfind : db.bookings.find? c.id = some c) (hlive : c.status.live)
    (hset : ∀ r, r.SameStay (set r) ∧ (set r).status = .cancelled)
    (hbookings : ∀ b, db'.bookings.find? b =
      if b = c.id then (db.bookings.find? b).map set else db.bookings.find? b)
    (hbooked : ∀ p d, db'.availability p d = some bookedBlock ↔
      db.availability p d = some bookedBlock ∧ ¬ (p = c.propertyId ∧ d ∈ c.nights)) :
    CalendarInv db' (CancelledBy C db') := by
  obtain ⟨R, hR⟩ := hinv.book
  have hself : db'.bookings.find? c.id = some (set c) := by
    rw [hbookings, if_pos rfl, hfind]
    rfl
  have hrow : ∀ {b r}, db'.bookings.find? b = some r → (b = c.id ∧ r = set c) ∨
      (b ≠ c.id ∧ db.bookings.find? b = some r) := by
    intro b r hr
    by_cases hb : b = c.id
    · subst hb
      rw [hself] at hr
      exact Or.inl ⟨rfl, (Option.some.inj hr).symm⟩
    · rw [hbookings, if_neg hb] at hr
      exact Or.inr ⟨hb, hr⟩
  have hC : ∀ b, CancelledBy C db' b ↔ C b ∨ b = c.id := by
    intro b
    constructor
    · rintro (hb | hb)
      · exact Or.inl hb
      · obtain ⟨r, hr, hst⟩ := Db.statusOf_eq_some.mp hb
        rcases hrow hr with ⟨hb, -⟩ | ⟨-, hr⟩
        · exact Or.inr hb
        · exact Or.inl (hinv.cancelled b r hr hst)
    · rintro (hb | rfl)
      · exact Or.inl hb
      · exact Or.inr (Db.statusOf_eq_some.mpr ⟨set c, hself, (hset c).2⟩)
  have hheld : c.id ∈ R.held := (hR.held _).mpr ⟨⟨c, hfind⟩, hinv.live_not _ c hfind hlive⟩
  refine ⟨⟨R.release c.id hheld, ?_, ?_, ?_⟩, ?_, ?_, ?_⟩
  · intro b
    rw [hC]
    rw [Reservations.mem_release_held, hR.held, hbookings]
    by_cases hb : b = c.id
    · simp [hb]
    · simp [hb]
  · intro b r hr
    show R.claim b = r.stay
    rcases hrow hr with ⟨rfl, rfl⟩ | ⟨-, hr⟩
    · rw [hR.claim _ c hfind, (hset c).1.stay]
    · exact hR.claim b r hr
  · intro p d
    rw [Reservations.mem_release_taken, hR.taken, hbooked, hR.claim _ c hfind]
    exact Iff.rfl
  · intro b r hr hlive'
    rw [hC]
    rcases hrow hr with ⟨-, rfl⟩ | ⟨hb, hr⟩
    · rw [(hset c).2] at hlive'
      cases hlive'
    · exact not_or.mpr ⟨hinv.live_not b r hr hlive', hb⟩
  · intro b r hr hst
    exact Or.inr (Db.statusOf_eq_some.mpr ⟨r, hr, hst⟩)
  · intro b hb
    rcases (hC b).mp hb with hb | rfl
    · obtain ⟨r, hr⟩ := hinv.exist b hb
      rw [hbookings, hr]
      split
      · exact ⟨_, rfl⟩
      · exact ⟨_, rfl⟩
    · exact ⟨_, hself⟩

/-- A status move keeps the book, unless it confirms a booking that was cancelled. -/
theorem CalendarInv.updated (hinv : CalendarInv db C) (hno : ∀ b, C b → ¬ reconfirms t b db)
    (hrows : Table.Rowwise (Moved t db) db.bookings db'.bookings)
    (hbooked : ∀ p d, db'.availability p d = some bookedBlock ↔
      db.availability p d = some bookedBlock) : CalendarInv db' (CancelledBy C db') := by
  obtain ⟨R, hR⟩ := hinv.book
  have hmove : ∀ {b r'}, db'.bookings.find? b = some r' → ∃ r, db.bookings.find? b = some r ∧
      r.SameStay r' ∧ StatusMove t db b r.status r'.status := by
    intro b r' hr'
    obtain ⟨r, hr, hstay, hst⟩ := hrows.to_find? hr'
    rw [show r.id = b from Table.key_of_find? hr] at hst
    exact ⟨r, hr, hstay, hst⟩
  have hC : ∀ b, CancelledBy C db' b ↔ C b := by
    intro b
    refine ⟨fun hb => ?_, Or.inl⟩
    rcases hb with hb | hb
    · exact hb
    · obtain ⟨r', hr', hst'⟩ := Db.statusOf_eq_some.mp hb
      obtain ⟨r, hr, -, hst⟩ := hmove hr'
      refine hinv.cancelled b r hr ?_
      rw [hst'] at hst
      generalize r.status = st at hst
      cases hst
      rfl
  have hexists : ∀ b, (∃ r, db'.bookings.find? b = some r) ↔ ∃ r, db.bookings.find? b = some r := by
    intro b
    constructor
    · rintro ⟨r', hr'⟩
      obtain ⟨r, hr, -⟩ := hmove hr'
      exact ⟨r, hr⟩
    · rintro ⟨r, hr⟩
      obtain ⟨r', hr', -⟩ := hrows.of_find? hr
      exact ⟨r', hr'⟩
  refine ⟨⟨R, ?_, ?_, ?_⟩, ?_, ?_, ?_⟩
  · intro b
    rw [hC, hexists, hR.held]
  · intro b r' hr'
    obtain ⟨r, hr, hstay, -⟩ := hmove hr'
    rw [hR.claim b r hr, hstay.stay]
  · intro p d
    rw [hbooked, hR.taken]
  · intro b r' hr' hlive
    rw [hC]
    obtain ⟨r, hr, -, hst⟩ := hmove hr'
    intro hb
    have hnot : ¬ r.status.live := fun hlive => hinv.live_not b r hr hlive hb
    generalize r.status = st, r'.status = st' at hst hlive hnot
    cases hst with
    | same => exact hnot hlive
    | paid => exact hnot rfl
    | completed => cases hlive
    | disputed => cases hlive
    | refunded => cases hlive
    | reconfirmed st refund htx hpartly => exact hno b hb ⟨refund, htx, hpartly⟩
  · intro b r hr hst
    exact Or.inr (Db.statusOf_eq_some.mpr ⟨r, hr, hst⟩)
  · intro b hb
    exact (hexists b).mpr (hinv.exist b ((hC b).mp hb))

end

/-- Every transaction that confirms no booking cancelled before keeps the invariant. -/
theorem CalendarInv.exec {t : Tx} {db : Db} {C : BookingId → Prop} (hinv : CalendarInv db C)
    (hno : ∀ b, C b → ¬ reconfirms t b db) : CalendarInv (t.exec db) (CancelledBy C (t.exec db)) := by
  cases t.effect db with
  | inserted isDelayedFlow input row h => exact hinv.inserted h
  | released c set hfind hlive hset hbookings hbooked =>
    exact hinv.released hfind hlive hset hbookings hbooked
  | updated hrows hbooked => exact hinv.updated hno hrows hbooked

/-! ## Whole runs -/

/-- Booking `b` was cancelled in some state of the run. -/
def EverCancelled (db : Db) (txs : List Tx) (b : BookingId) : Prop :=
  Once Tx.exec (fun db b => db.statusOf b = some .cancelled) db txs b

/-- No step of the run is a partial refund of a booking cancelled earlier in it. -/
def RevivesNoCancelled (db : Db) (txs : List Tx) : Prop :=
  ∀ pre t suf, txs = pre ++ t :: suf → ∀ b, EverCancelled db pre b →
    ¬ reconfirms t b (run Tx.exec db pre)

theorem RevivesNoCancelled.of_prefix {db : Db} {txs pre suf : List Tx}
    (h : RevivesNoCancelled db txs) (htxs : txs = pre ++ suf) : RevivesNoCancelled db pre := by
  intro pre' t suf' hpre b hb
  refine h pre' t (suf' ++ suf) ?_ b hb
  rw [htxs, hpre]
  simp

/-- From a database without bookings, every state of a run that revives no
cancelled booking is free of double bookings. -/
theorem noDoubleBooking_run {db : Db} {txs : List Tx} (hempty : db.bookings.rows = [])
    (hno : RevivesNoCancelled db txs) (pre suf : List Tx) (htxs : txs = pre ++ suf) :
    (run Tx.exec db pre).NoDoubleBooking := by
  have hinv : CalendarInv (run Tx.exec db pre) (EverCancelled db pre) :=
    run_invariant_once (G := fun db C t => ∀ b, C b → ¬ reconfirms t b db)
      (CalendarInv.of_no_bookings hempty) (fun _ _ _ hinv hno => hinv.exec hno)
      (hno.of_prefix htxs)
  exact hinv.noDoubleBooking

theorem revivesNoCancelled_of_guarded {db : Db} {txs : List Tx}
    (h : Guarded Tx.exec (fun db t => ∀ b, ¬ reconfirms t b db) db txs) :
    RevivesNoCancelled db txs :=
  fun pre t suf htxs b _ => guarded_iff.mp h pre t suf htxs b

/-- A guest pays, cancels in time for the whole price, is refunded, and the nights
are booked by somebody else. -/
def cancelledInTime : List Tx :=
  [ .createBooking 0 false (sampleRequest "a"),
    .upsertPayment 1 7 20000 "GBP",
    .paymentSucceeded 0 ⟨7, some 1, none, none, none⟩,
    .cancelBooking (90 * msPerDay) ⟨1, .guest⟩,
    .createBooking (90 * msPerDay) false (sampleRequest "b"),
    .insertRefund ⟨1, 1, some 7, 20000, "GBP", .guestCancellation, .guest⟩,
    .linkRefund 1 5,
    .refundEvent ⟨5, some 7, 20000, .succeeded⟩ ]

theorem cancelledInTime_noDoubleBooking :
    (run Tx.exec sampleDb cancelledInTime).NoDoubleBooking := by
  refine noDoubleBooking_run rfl (revivesNoCancelled_of_guarded ?_) cancelledInTime [] rfl
  have hother : ∀ {t : Tx} {db : Db}, (∀ refund, t ≠ .refundEvent refund) →
      ∀ b, ¬ reconfirms t b db := by
    rintro t db ht b ⟨refund, rfl, -⟩
    exact ht refund rfl
  refine ⟨hother ?_, hother ?_, hother ?_, hother ?_, hother ?_, hother ?_, hother ?_, ?_, trivial⟩
  iterate 7
    intro refund h
    cases h
  -- The refund covers the whole payment, so the event writes `refunded`.
  rintro b ⟨refund, h, -, -, payment, hpayment, rfl, hlt, -⟩
  cases h
  have hrow : (run Tx.exec sampleDb (cancelledInTime.take 7)).paymentByIntent 7 =
      some ⟨1, some 7, .paid, 20000, "GBP", none, none⟩ := by decide
  cases hrow.symm.trans hpayment
  exact absurd hlt (by decide)

/-- The same guest cancels late, for half the price. -/
def cancelledLate : List Tx :=
  [ .createBooking 0 false (sampleRequest "a"),
    .upsertPayment 1 7 20000 "GBP",
    .paymentSucceeded 0 ⟨7, some 1, none, none, none⟩,
    .cancelBooking (98 * msPerDay) ⟨1, .guest⟩,
    .createBooking (98 * msPerDay) false (sampleRequest "b"),
    .insertRefund ⟨1, 1, some 7, 10000, "GBP", .guestCancellation, .guest⟩,
    .linkRefund 1 5,
    .refundEvent ⟨5, some 7, 10000, .succeeded⟩ ]

/-- The refund of the first booking confirms it again, on nights the second one has. -/
theorem cancelledLate_doubleBooked : ¬ (run Tx.exec sampleDb cancelledLate).NoDoubleBooking := by
  intro h
  have hsame : (1 : BookingId) = 2 := h.unique 1 2 1 100 (by decide) (by decide)
  cases hsame

end HostPlatform
