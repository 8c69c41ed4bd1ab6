-- SUMMARY: The calls of `createBooking` with one idempotency key as a system: each call statement by statement, among the other transactions.
import HostPlatform.BookingUpdates
import HostPlatform.Lib.Transition

/-!
# Calls of `createBooking`

The transaction of `createBooking` reads committed data: what it looks up before it has
the advisory lock of the property may be outdated once it has the lock. Any number of
calls with one key and one input run here, each as the statements it executes, while
the rest of the program runs.
-/

namespace HostPlatform

open Lib (Table require)

/-! ## The statements of a call -/

/-- `SELECT * FROM bookings WHERE idempotency_key = $1`. -/
def Db.bookingByKey (db : Db) (idempotencyKey : String) : Option Booking :=
  (db.bookings.select fun row => row.idempotencyKey == idempotencyKey).head?

/-- A call up to its lookup: the booking to return, if there is one. -/
def lookUpKey (input : CreateBookingInput) (db : Db) : Except BookingError (Option CreatedBooking) := do
  checkRequest input
  return (db.bookingByKey input.idempotencyKey).map fun existing => ⟨mapBookingRow existing, none⟩

/-- A call from the advisory lock on, with the property it read before. -/
def reserveBooking (now : Int) (isDelayedFlow : Bool) (input : CreateBookingInput) (p : Property) (db : Db) :
    Except BookingError (CreatedBooking × Db) := do
  checkCalendar input db
  let feeConfig ← getActiveFeeConfig db
  let breakdown ← calculatePrice (pricingColumns p) (nightsBetween input.checkIn input.checkOut) feeConfig
  -- the unique index is met by the insert
  require ((db.bookingByKey input.idempotencyKey).isNone) uniqueViolation
  insertBooking (reserveNights db input.propertyId input.checkIn input.checkOut)
    (bookingRow now isDelayedFlow input p.hostId (policyRules db p)) breakdown fun _ => rfl

/-- Nothing else running, the statements are `createBooking`. -/
theorem createBooking_eq_statements (now : Int) (isDelayedFlow : Bool) (input : CreateBookingInput) (db : Db) :
    createBooking now isDelayedFlow input db = (do
      let found ← lookUpKey input db
      match found with
      | some existing => return (existing, db)
      | none =>
        let p ← bookableProperty now input db
        reserveBooking now isDelayedFlow input p db) := by
  unfold createBooking lookUpKey Db.bookingByKey
  cases checkRequest input with
  | error e => rfl
  | ok u =>
    cases hfound : db.bookings.select fun row => row.idempotencyKey == input.idempotencyKey with
    | cons existing rest => rfl
    | nil =>
      refine congrArg (bookableProperty now input db >>= ·) (funext fun p => ?_)
      unfold reserveBooking Db.bookingByKey
      rw [hfound]
      rfl

/-! ## What the statements find and commit -/

/-- `row` is a booking with the key. -/
def Db.HasKey (db : Db) (idempotencyKey : String) (row : Booking) : Prop :=
  row ∈ db.bookings.rows ∧ row.idempotencyKey = idempotencyKey

section

variable {db db' : Db} {key : String} {row : Booking}

theorem bookingByKey_eq_some (h : db.bookingByKey key = some row) : db.HasKey key row := by
  obtain ⟨hrow, hkey⟩ := List.mem_filter.mp (List.mem_of_mem_head? h)
  exact ⟨hrow, beq_iff_eq.mp hkey⟩

theorem bookingByKey_eq_none : db.bookingByKey key = none ↔ ∀ row, ¬ db.HasKey key row := by
  unfold Db.bookingByKey Table.select
  rw [List.head?_eq_none_iff, List.filter_eq_nil_iff]
  refine ⟨fun h row hrow => h row hrow.1 (beq_iff_eq.mpr hrow.2), fun h row hrow hkey => ?_⟩
  exact h row ⟨hrow, beq_iff_eq.mp hkey⟩

/-- At most one booking has the key. -/
def Db.OneWithKey (db : Db) (key : String) : Prop :=
  ∀ row row', db.HasKey key row → db.HasKey key row' → row = row'

theorem Db.OneWithKey.bookingByKey (h : db.OneWithKey key) (hrow : db.HasKey key row) :
    db.bookingByKey key = some row := by
  cases hfound : db.bookingByKey key with
  | none => exact absurd hrow (bookingByKey_eq_none.mp hfound row)
  | some r => rw [h r row (bookingByKey_eq_some hfound) hrow]

/-- A booking under a key that no booking had. -/
theorem Db.OneWithKey.append (h : db.OneWithKey key) (hunused : db.bookingByKey row.idempotencyKey = none)
    (hrows : db'.bookings.rows = db.bookings.rows ++ [row]) : db'.OneWithKey key := by
  have hcases : ∀ r, db'.HasKey key r → db.HasKey key r ∨ r = row := by
    intro r hr
    have hmem := hr.1
    rw [hrows, List.mem_append, List.mem_singleton] at hmem
    exact hmem.imp_left fun hold => ⟨hold, hr.2⟩
  have hnew : ∀ r, db.HasKey key r → ¬ db'.HasKey key row := by
    intro r hr hrow
    exact bookingByKey_eq_none.mp hunused r ⟨hr.1, hr.2.trans hrow.2.symm⟩
  intro r r' hr hr'
  rcases hcases r hr with hold | rfl
  · rcases hcases r' hr' with hold' | rfl
    · exact h r r' hold hold'
    · exact absurd hr' (hnew r hold)
  · rcases hcases r' hr' with hold' | rfl
    · exact absurd hr (hnew r' hold')
    · rfl

theorem lookUpKey_eq_error {input : CreateBookingInput} {e : BookingError}
    (h : lookUpKey input db = .error e) : checkRequest input = .error e := by
  unfold lookUpKey at h
  rcases Lib.bind_eq_error.mp h with hcheck | ⟨_, -, h⟩
  · exact hcheck
  · cases h

/-- What the locked part of a call commits: one booking, under a key no booking had. -/
theorem reserveBooking_eq_ok {now : Int} {isDelayedFlow : Bool} {input : CreateBookingInput} {p : Property}
    {created : CreatedBooking} (h : reserveBooking now isDelayedFlow input p db = .ok (created, db')) :
    db.bookingByKey input.idempotencyKey = none ∧
      ∃ row : Booking, row.idempotencyKey = input.idempotencyKey ∧ row.guestId = input.guestId ∧
        created.booking = mapBookingRow row ∧ db'.bookings.rows = db.bookings.rows ++ [row] := by
  unfold reserveBooking at h
  obtain ⟨_, -, h⟩ := Lib.bind_eq_ok.mp h
  obtain ⟨_, -, h⟩ := Lib.bind_eq_ok.mp h
  obtain ⟨_, -, h⟩ := Lib.bind_eq_ok.mp h
  obtain ⟨_, hunused, h⟩ := Lib.bind_eq_ok.mp h
  obtain ⟨rfl, priceComponents, -, rfl⟩ := insertBooking_eq_ok h
  exact ⟨Option.isNone_iff_eq_none.mp (Lib.require_eq_ok.mp hunused), _, rfl, rfl, rfl, rfl⟩

end

/-! ## State -/

/-- Where a call stands; `now` is the time its transaction began. -/
inductive BookingPhase where
  | lookedUp (now : Int)
  | checked (now : Int) (p : Property)
  | done (result : Except BookingError CreatedBooking)

structure BookingWorld where
  db : Db
  calls : Nat → Option BookingPhase

def BookingWorld.start (db : Db) : BookingWorld := ⟨db, fun _ => none⟩

inductive BookingLabel where
  | lookUp (call : Nat) (now : Int)
  | readProperty (call : Nat)
  | reserve (call : Nat) (isDelayedFlow : Bool)
  | crash (call : Nat)
  | transaction (t : Tx)

/-- The transaction is a whole call of `createBooking` with the key. -/
def Tx.createsKey (idempotencyKey : String) : Tx → Bool
  | .createBooking _ _ input => input.idempotencyKey == idempotencyKey
  | _ => false

/-! ## Steps -/

namespace BookingWorld

variable (input : CreateBookingInput)

def setCall (w : BookingWorld) (call : Nat) (phase : Option BookingPhase) : BookingWorld :=
  { w with calls := fun c => if c = call then phase else w.calls c }

def step (w : BookingWorld) : BookingLabel → BookingWorld
  | .lookUp call now =>
    match w.calls call with
    | none =>
      match lookUpKey input w.db with
      | .error e => w.setCall call (some (.done (.error e)))
      | .ok (some existing) => w.setCall call (some (.done (.ok existing)))
      | .ok none => w.setCall call (some (.lookedUp now))
    | some _ => w
  | .readProperty call =>
    match w.calls call with
    | some (.lookedUp now) =>
      match bookableProperty now input w.db with
      | .error e => w.setCall call (some (.done (.error e)))
      | .ok p => w.setCall call (some (.checked now p))
    | _ => w
  | .reserve call isDelayedFlow =>
    match w.calls call with
    | some (.checked now p) =>
      match reserveBooking now isDelayedFlow input p w.db with
      | .error e => w.setCall call (some (.done (.error e)))
      | .ok (created, db) => { w with db := db }.setCall call (some (.done (.ok created)))
    | _ => w
  | .crash call => w.setCall call none
  -- the calls with the key are the ones above
  | .transaction t => if t.createsKey input.idempotencyKey then w else { w with db := t.exec w.db }

end BookingWorld

/-! ## Keys of bookings -/

/-- No statement of the program updates `idempotency_key`. -/
theorem Booking.Updated.idempotencyKey {t : Tx} {r r' : Booking} (h : r.Updated t r') :
    r'.idempotencyKey = r.idempotencyKey := by
  cases h with
  | failed now attemptId claimToken details ht hpending =>
    unfold scheduleNextRetry establishGracePeriod
    split <;> rfl
  | _ => rfl

section

variable {db : Db} {key : String} {row : Booking}

theorem Tx.createsKey_eq_false {t : Tx}
    (ht : ∀ now isDelayedFlow input, t ≠ .createBooking now isDelayedFlow input) (key : String) :
    t.createsKey key = false := by
  cases t with
  | createBooking now isDelayedFlow input => exact absurd rfl (ht now isDelayedFlow input)
  | _ => rfl

/-- Another transaction gives no booking the key. -/
theorem Db.HasKey.of_exec {t : Tx} (ht : t.createsKey key = false) (h : (t.exec db).HasKey key row) :
    ∃ r, db.HasKey key r ∧ r.id = row.id := by
  rcases t.row_cases db (Table.find?_of_mem h.1) with
    ⟨r, hr, hupdated⟩ | ⟨-, now, isDelayedFlow, input, hostId, rules, rfl, hrow⟩
  · exact ⟨r, ⟨Table.mem_of_find? hr, hupdated.idempotencyKey.symm.trans h.2⟩, Table.key_of_find? hr⟩
  · have hkey : input.idempotencyKey = key := by
      rw [← h.2, hrow]
      rfl
    exact absurd (beq_iff_eq.mpr hkey) (Bool.eq_false_iff.mp ht)

/-- A booking keeps its key. -/
theorem Db.HasKey.exec (t : Tx) (h : db.HasKey key row) :
    ∃ r, (t.exec db).HasKey key r ∧ r.id = row.id := by
  obtain ⟨r, hr, hupdated⟩ := t.row_updated db (Table.find?_of_mem h.1)
  exact ⟨r, ⟨Table.mem_of_find? hr, hupdated.idempotencyKey.trans h.2⟩, Table.key_of_find? hr⟩

theorem Db.OneWithKey.exec {t : Tx} (ht : t.createsKey key = false) (h : db.OneWithKey key) :
    (t.exec db).OneWithKey key := by
  intro row row' hrow hrow'
  obtain ⟨r, hr, hid⟩ := hrow.of_exec ht
  obtain ⟨r', hr', hid'⟩ := hrow'.of_exec ht
  refine Table.key_inj hrow.1 hrow'.1 ?_
  show row.id = row'.id
  rw [← hid, ← hid', h r r' hr hr']

end

end HostPlatform
