-- SUMMARY: What a guest is told by `createBooking` depends on no other guest's booking, unless the key is another guest's.
import HostPlatform.BookingCalls
import HostPlatform.WorldDb

/-!
# Isolation between guests

The lookup by key is over the bookings of all guests. A key that another guest has used
finds that guest's booking, and the call returns it.
-/

namespace HostPlatform

open Lib (Table)
open Lib.Transition

/-! ## Reachable databases -/

/-- A database that transactions make of one without bookings; the tables other than
bookings and prices may be written by anything else, too. -/
inductive Db.Reachable : Db → Prop
  | start {db : Db} (hbookings : db.bookings.rows = []) (hprices : db.priceComponents.rows = []) :
      Reachable db
  | exec {db : Db} (t : Tx) (h : Reachable db) : Reachable (t.exec db)
  | edit {db db' : Db} (h : Reachable db) (hbookings : db'.bookings = db.bookings)
      (hprices : db'.priceComponents = db.priceComponents) : Reachable db'

/-! ## What is claimed -/

/-- The databases differ only in bookings of other guests on other properties, and in
what belongs to those. -/
structure Db.SameFor (guestId : UserId) (propertyId : PropertyId) (db db' : Db) : Prop where
  properties : db'.properties = db.properties
  feeConfigs : db'.feeConfigs = db.feeConfigs
  policies : db'.cancellationPolicies = db.cancellationPolicies
  availability : db'.availability propertyId = db.availability propertyId
  bookings : ∀ row : Booking, row.guestId = guestId ∨ row.propertyId = propertyId →
    (row ∈ db'.bookings.rows ↔ row ∈ db.bookings.rows)

/-- The answer, but for the id of the booking. -/
def CreatedBooking.withoutId (created : CreatedBooking) : CreatedBooking :=
  { created with booking := { created.booking with id := 0 } }

/-- What the caller is told, but for the id. -/
def bookingAnswer (now : Int) (isDelayedFlow : Bool) (input : CreateBookingInput) (db : Db) :
    Except BookingError CreatedBooking :=
  (createBooking now isDelayedFlow input db).map fun result => result.1.withoutId

/-- Every booking the call returns is the guest's. -/
def ReturnsOwn (now : Int) (isDelayedFlow : Bool) (input : CreateBookingInput) (db : Db) : Prop :=
  ∀ created db', createBooking now isDelayedFlow input db = .ok (created, db') →
    created.booking.guestId = input.guestId

/-- In both databases the call returns the guest's own booking, and it answers the same. -/
structure GuestIsolated (now : Int) (isDelayedFlow : Bool) (input : CreateBookingInput) (db db' : Db) :
    Prop where
  own : ReturnsOwn now isDelayedFlow input db
  own' : ReturnsOwn now isDelayedFlow input db'
  same : bookingAnswer now isDelayedFlow input db' = bookingAnswer now isDelayedFlow input db

/-- A request that passes its first checks has a key that no other guest has used. -/
def KeyNotOthers (input : CreateBookingInput) (db : Db) : Prop :=
  checkRequest input = .ok () → ∀ row, db.HasKey input.idempotencyKey row → row.guestId = input.guestId

/-! ## The constraints of the schema -/

/-- No two bookings have one key, and a price row belongs to a booking. -/
structure Db.Constrained (db : Db) : Prop where
  key : ∀ idempotencyKey, db.OneWithKey idempotencyKey
  price : ∀ b pc, db.priceComponents.find? b = some pc → ∃ row, db.bookings.find? b = some row

section

variable {now : Int} {isDelayedFlow : Bool} {input : CreateBookingInput} {db db' : Db}

/-- A call returns the booking it finds by key, or one of the guest under a new key. -/
theorem createBooking_row_cases {created : CreatedBooking}
    (h : createBooking now isDelayedFlow input db = .ok (created, db')) :
    checkRequest input = .ok () ∧
      ((∃ row, db.HasKey input.idempotencyKey row ∧ created.booking = mapBookingRow row ∧ db' = db) ∨
        db.bookingByKey input.idempotencyKey = none ∧
          ∃ row : Booking, row.idempotencyKey = input.idempotencyKey ∧ row.guestId = input.guestId ∧
            created.booking = mapBookingRow row ∧ db'.bookings.rows = db.bookings.rows ++ [row]) := by
  rw [createBooking_eq_statements] at h
  obtain ⟨found, hlookup, h⟩ := Lib.bind_eq_ok.mp h
  unfold lookUpKey at hlookup
  obtain ⟨_, hvalid, hfound⟩ := Lib.bind_eq_ok.mp hlookup
  refine ⟨hvalid, ?_⟩
  cases hkey : db.bookingByKey input.idempotencyKey with
  | some row =>
    rw [hkey] at hfound
    cases hfound
    cases h
    exact .inl ⟨row, bookingByKey_eq_some hkey, rfl, rfl⟩
  | none =>
    rw [hkey] at hfound
    cases hfound
    obtain ⟨p, -, h⟩ := Lib.bind_eq_ok.mp h
    exact .inr ⟨rfl, (reserveBooking_eq_ok h).2⟩

theorem Db.Constrained.of_no_bookings (hbookings : db.bookings.rows = [])
    (hprices : db.priceComponents.rows = []) : db.Constrained := by
  refine ⟨fun key row _ hrow => ?_, fun b pc hpc => ?_⟩
  · have hmem := hrow.1
    rw [hbookings] at hmem
    cases hmem
  · have hmem := Table.mem_of_find? hpc
    rw [hprices] at hmem
    cases hmem

theorem Db.Constrained.of_same (h : db.Constrained) (hbookings : db'.bookings = db.bookings)
    (hprices : db'.priceComponents = db.priceComponents) : db'.Constrained := by
  refine ⟨fun key row row' hrow hrow' => ?_, fun b pc hpc => ?_⟩
  · unfold Db.HasKey at hrow hrow'
    rw [hbookings] at hrow hrow'
    exact h.key key row row' hrow hrow'
  · rw [hprices] at hpc
    rw [hbookings]
    exact h.price b pc hpc

/-- A new booking has a key that no booking had, and a price row of its own. -/
theorem Db.Constrained.createBooking (h : db.Constrained) (now : Int) (isDelayedFlow : Bool)
    (input : CreateBookingInput) : ((Tx.createBooking now isDelayedFlow input).exec db).Constrained := by
  refine Lib.commit_of h fun created db' hok => ⟨fun key => ?_, fun b pc hpc => ?_⟩
  · obtain ⟨-, ⟨row, -, -, rfl⟩ | ⟨hunused, row, hkey, -, -, hrows⟩⟩ := createBooking_row_cases hok
    · exact h.key key
    · rw [← hkey] at hunused
      exact (h.key key).append hunused hrows
  · rcases createBooking_eq_ok hok with rfl | ⟨row, -, hrow⟩
    · exact h.price b pc hpc
    · obtain ⟨new, -, hprices⟩ := hrow.priced
      rw [hrow.find]
      rw [hprices] at hpc
      split
      · exact ⟨row, rfl⟩
      · rename_i hne
        rw [if_neg hne] at hpc
        exact h.price b pc hpc

theorem Db.Constrained.exec (h : db.Constrained) (t : Tx) : (t.exec db).Constrained := by
  by_cases ht : ∃ now isDelayedFlow input, t = .createBooking now isDelayedFlow input
  · obtain ⟨now, isDelayedFlow, input, rfl⟩ := ht
    exact h.createBooking now isDelayedFlow input
  · have ht : ∀ now isDelayedFlow input, t ≠ .createBooking now isDelayedFlow input :=
      fun now isDelayedFlow input heq => ht ⟨now, isDelayedFlow, input, heq⟩
    refine ⟨fun key => (h.key key).exec (Tx.createsKey_eq_false ht key), fun b pc hpc => ?_⟩
    rw [Tx.priceComponents_eq ht] at hpc
    obtain ⟨row, hrow⟩ := h.price b pc hpc
    obtain ⟨row', hrow', -⟩ := t.row_updated db hrow
    exact ⟨row', hrow'⟩

theorem Db.Reachable.constrained (h : db.Reachable) : db.Constrained := by
  induction h with
  | start hbookings hprices => exact .of_no_bookings hbookings hprices
  | exec t _ ih => exact ih.exec t
  | edit _ hbookings hprices ih => exact ih.of_same hbookings hprices

/-- The system reaches no other databases. -/
theorem Db.Reachable.run (h : db.Reachable) (ls : List Label) :
    (run World.step (World.start db) ls).db.Reachable := by
  obtain ⟨txs, htxs⟩ := World.run_db (World.start db) ls
  rw [htxs]
  exact run_invariant' (fun _ t h => .exec t h) h txs

/-! ## The guest's own booking -/

theorem returnsOwn_iff (hdb : db.Constrained) : ReturnsOwn now isDelayedFlow input db ↔ KeyNotOthers input db := by
  constructor
  · intro hown hvalid row hrow
    have hfound := (hdb.key input.idempotencyKey).bookingByKey hrow
    refine hown ⟨mapBookingRow row, none⟩ db ?_
    rw [createBooking_eq_statements]
    unfold lookUpKey
    rw [hvalid, hfound]
    rfl
  · intro hkey created db' hok
    obtain ⟨hvalid, ⟨row, hrow, hbooking, -⟩ | ⟨-, row, -, hguest, hbooking, -⟩⟩ := createBooking_row_cases hok
    · rw [hbooking]
      exact hkey hvalid row hrow
    · rw [hbooking]
      exact hguest

/-! ## The same answer -/

/-- The guest's booking under the key is in both databases, or in neither. -/
theorem Db.SameFor.bookingByKey (hsame : db.SameFor input.guestId input.propertyId db')
    (h' : db'.Constrained) (hvalid : checkRequest input = .ok ()) (hkey : KeyNotOthers input db)
    (hkey' : KeyNotOthers input db') :
    db'.bookingByKey input.idempotencyKey = db.bookingByKey input.idempotencyKey := by
  cases hfound : db.bookingByKey input.idempotencyKey with
  | some row =>
    have hrow := bookingByKey_eq_some hfound
    have hmem := (hsame.bookings row (.inl (hkey hvalid row hrow))).mpr hrow.1
    exact (h'.key _).bookingByKey ⟨hmem, hrow.2⟩
  | none =>
    refine bookingByKey_eq_none.mpr fun row hrow => ?_
    have hmem := (hsame.bookings row (.inl (hkey' hvalid row hrow))).mp hrow.1
    exact bookingByKey_eq_none.mp hfound row ⟨hmem, hrow.2⟩

/-- The insert of a price row cannot fail: the id is new. -/
theorem Db.Constrained.tryInsert (h : db.Constrained) (breakdown : PriceBreakdown) :
    ∃ priceComponents, db.priceComponents.tryInsert (priceComponentsRow breakdown db.bookings.freshKey) =
      some priceComponents := by
  cases hinsert : db.priceComponents.tryInsert (priceComponentsRow breakdown db.bookings.freshKey) with
  | some priceComponents => exact ⟨priceComponents, rfl⟩
  | none =>
    obtain ⟨pc, hpc⟩ := Option.isSome_iff_exists.mp (Table.isSome_of_tryInsert_eq_none hinsert)
    obtain ⟨row, hrow⟩ := h.price _ pc hpc
    cases hrow.symm.trans (Table.find?_freshKey db.bookings)

theorem insertBooking_of (db : Db) (row : BookingId → Booking) (hrow : ∀ id, Lib.key (row id) = id)
    {breakdown : PriceBreakdown} {priceComponents : Table PriceComponents}
    (h : db.priceComponents.tryInsert (priceComponentsRow breakdown db.bookings.freshKey) =
      some priceComponents) :
    insertBooking db row breakdown hrow =
      .ok (⟨mapBookingRow (row db.bookings.freshKey), some breakdown⟩,
        { db with bookings := db.bookings.insertNew row hrow, priceComponents := priceComponents }) := by
  simp only [insertBooking, h]

/-- The locked part answers with the row it inserts. -/
theorem Db.Constrained.reserveBooking (h : db.Constrained)
    (hunused : db.bookingByKey input.idempotencyKey = none) (p : Property) :
    (HostPlatform.reserveBooking now isDelayedFlow input p db).map (fun result => result.1.withoutId) = do
      checkCalendar input db
      let feeConfig ← getActiveFeeConfig db
      let breakdown ←
        calculatePrice (pricingColumns p) (nightsBetween input.checkIn input.checkOut) feeConfig
      return CreatedBooking.withoutId
        ⟨mapBookingRow (bookingRow now isDelayedFlow input p.hostId (policyRules db p) 0), some breakdown⟩ := by
  unfold HostPlatform.reserveBooking
  cases checkCalendar input db with
  | error e => rfl
  | ok u =>
    cases getActiveFeeConfig db with
    | error e => rfl
    | ok feeConfig =>
      cases hprice : calculatePrice (pricingColumns p) (nightsBetween input.checkIn input.checkOut) feeConfig with
      | error e =>
        simp only [bind, Except.bind, Except.map, hprice]
      | ok breakdown =>
        obtain ⟨priceComponents, hinsert⟩ := h.tryInsert breakdown
        have hrequire : Lib.require ((db.bookingByKey input.idempotencyKey).isNone = true) uniqueViolation =
            .ok () := by
          rw [hunused]
          rfl
        have hinserted := insertBooking_of (reserveNights db input.propertyId input.checkIn input.checkOut)
          (bookingRow now isDelayedFlow input p.hostId (policyRules db p)) (fun _ => rfl) hinsert
        simp only [bind, Except.bind, Except.map, hprice, hrequire, hinserted]
        rfl

/-- Other guests' bookings elsewhere do not change the answer. -/
theorem Db.SameFor.bookingAnswer (hsame : db.SameFor input.guestId input.propertyId db')
    (h : db.Constrained) (h' : db'.Constrained) (hkey : KeyNotOthers input db)
    (hkey' : KeyNotOthers input db') :
    bookingAnswer now isDelayedFlow input db' = bookingAnswer now isDelayedFlow input db := by
  unfold HostPlatform.bookingAnswer
  rw [createBooking_eq_statements, createBooking_eq_statements]
  unfold lookUpKey
  cases hvalid : checkRequest input with
  | error e => rfl
  | ok u =>
    have hfound := hsame.bookingByKey h' hvalid hkey hkey'
    rw [hfound]
    cases hunused : db.bookingByKey input.idempotencyKey with
    | some row => rfl
    | none =>
      rw [hunused] at hfound
      have hproperty : bookableProperty now input db' = bookableProperty now input db := by
        unfold bookableProperty
        rw [hsame.properties]
      simp only [bind, Except.bind, pure, Except.pure, Option.map_none, hproperty]
      cases bookableProperty now input db with
      | error e => rfl
      | ok p =>
        have hcalendar : checkCalendar input db' = checkCalendar input db := by
          unfold checkCalendar firstUnavailable
          rw [hsame.availability]
        have hfees : getActiveFeeConfig db' = getActiveFeeConfig db := by
          unfold getActiveFeeConfig
          rw [hsame.feeConfigs]
        refine (h'.reserveBooking hfound p).trans (Eq.trans ?_ (h.reserveBooking hunused p).symm)
        rw [hcalendar, hfees]
        -- the rules of the policy are no part of the answer
        rfl

end

/-! ## Isolation -/

/-- For two reachable databases that differ only in bookings of other guests on other
properties: the call is isolated exactly if its key is no other guest's in either. -/
theorem guestIsolated_iff (now : Int) (isDelayedFlow : Bool) (input : CreateBookingInput) (db db' : Db)
    (h : db.Reachable) (h' : db'.Reachable) (hsame : db.SameFor input.guestId input.propertyId db') :
    GuestIsolated now isDelayedFlow input db db' ↔ KeyNotOthers input db ∧ KeyNotOthers input db' := by
  constructor
  · intro hisolated
    exact ⟨(returnsOwn_iff h.constrained).mp hisolated.own, (returnsOwn_iff h'.constrained).mp hisolated.own'⟩
  · rintro ⟨hkey, hkey'⟩
    exact
      { own := (returnsOwn_iff h.constrained).mpr hkey
        own' := (returnsOwn_iff h'.constrained).mpr hkey'
        same := hsame.bookingAnswer h.constrained h'.constrained hkey hkey' }

/-! ## A key that another guest has used -/

/-- A platform with two properties. -/
def twoProperties : Db :=
  { sampleDb with properties := sampleDb.properties.insertNew sampleProperty key_sampleProperty }

/-- The first guest's request, for the second property. -/
def firstGuestRequest : CreateBookingInput := { sampleRequest "key" with propertyId := 2 }

def bookedElsewhere : Db := Tx.exec twoProperties (.createBooking 0 true firstGuestRequest)

/-- What another guest sends for the first property. -/
def otherGuestRequest (idempotencyKey : String) : CreateBookingInput :=
  { sampleRequest idempotencyKey with guestId := 2, guestName := "Other", guestEmail := "other@example.com" }

theorem twoProperties_reachable : twoProperties.Reachable := .start rfl rfl

theorem bookedElsewhere_rows :
    bookedElsewhere.bookings.rows = [bookingRow 0 true firstGuestRequest 1 defaultPolicyRules 1] := by rfl

theorem bookedElsewhere_sameFor : twoProperties.SameFor 2 1 bookedElsewhere where
  properties := rfl
  feeConfigs := rfl
  policies := rfl
  availability := by
    funext d
    rfl
  bookings row hrow := by
    rw [bookedElsewhere_rows]
    refine ⟨fun hmem => ?_, fun hmem => ?_⟩
    · cases List.mem_singleton.mp hmem
      rcases hrow with hguest | hproperty
      · cases hguest
      · cases hproperty
    · cases hmem

/-- Under a key of their own the other guest's call is isolated. -/
theorem ownKey_isolated :
    GuestIsolated 0 true (otherGuestRequest "other key") twoProperties bookedElsewhere := by
  refine (guestIsolated_iff 0 true (otherGuestRequest "other key") twoProperties bookedElsewhere
    twoProperties_reachable (.exec _ twoProperties_reachable) bookedElsewhere_sameFor).mpr ⟨?_, ?_⟩
  · intro _ row hrow
    cases hrow.1
  · intro _ row hrow
    have hmem := hrow.1
    rw [bookedElsewhere_rows] at hmem
    cases List.mem_singleton.mp hmem
    exact absurd hrow.2 (by decide)

/-- Under the first guest's key the other guest is given the first guest's booking. -/
theorem sharedKey_leaks :
    ¬ GuestIsolated 0 true (otherGuestRequest "key") twoProperties bookedElsewhere := by
  intro h
  have hanswer : createBooking 0 true (otherGuestRequest "key") bookedElsewhere =
      .ok (⟨mapBookingRow (bookingRow 0 true firstGuestRequest 1 defaultPolicyRules 1), none⟩,
        bookedElsewhere) := by rfl
  have hguest := h.own' _ _ hanswer
  exact absurd hguest (by decide)

end HostPlatform
