-- SUMMARY: Which properties that the search offers can be booked, and that the concierge offers the same.
import HostPlatform.Market
import HostPlatform.Safety.ReviewedListing

/-!
# What the search offers

The search repeats the checks of `createBooking` on status, compliance, capacity, stay
limits and nights. It does not look at the VAT rates, without which a stay has no price
under the launch fees.
-/

namespace HostPlatform

open Lib (Table)
open Lib.Transition

/-- The active fee configuration is the launch version. -/
def Db.LaunchActive (db : Db) : Prop :=
  (getActiveFeeConfig db).map FeeConfig.version = .ok launchFeeVersion

def Property.VatConfigured (p : Property) : Prop :=
  p.accommodationVatRate.isSome ∧ p.cleaningVatRate.isSome

def vatUnconfigured : BookingError := ⟨"ERROR", "Property VAT treatment is unconfigured"⟩

/-! ## The price -/

theorem calculatePrice_of_vatConfigured {p : Property} {nights : Int} {feeConfig : FeeConfig}
    (hnights : 0 < nights) (hvat : p.VatConfigured) :
    ∃ breakdown, calculatePrice (pricingColumns p) nights feeConfig = .ok breakdown := by
  obtain ⟨a, ha⟩ := Option.isSome_iff_exists.mp hvat.1
  obtain ⟨c, hc⟩ := Option.isSome_iff_exists.mp hvat.2
  simp only [calculatePrice, taxesMinor, pricingColumns, ha, hc, if_neg (by omega : ¬ nights ≤ 0)]
  split
  · rename_i hnone
    split at hnone <;> cases hnone
  · exact ⟨_, rfl⟩

theorem calculatePrice_of_not_vatConfigured {p : Property} {nights : Int} {feeConfig : FeeConfig}
    (hnights : 0 < nights) (hversion : feeConfig.version = launchFeeVersion) (hvat : ¬ p.VatConfigured) :
    calculatePrice (pricingColumns p) nights feeConfig = .error vatUnconfigured := by
  have htaxes : taxesMinor (pricingColumns p) (p.nightlyPrice.getD 0 * nights) feeConfig = none := by
    simp only [taxesMinor, pricingColumns, if_pos hversion]
    cases ha : p.accommodationVatRate with
    | none => rfl
    | some a =>
      cases hc : p.cleaningVatRate with
      | none => rfl
      | some c => exact absurd ⟨by simp [ha], by simp [hc]⟩ hvat
  simp only [calculatePrice, if_neg (by omega : ¬ nights ≤ 0)]
  simp only [pricingColumns] at htaxes ⊢
  rw [htaxes]
  rfl

/-! ## The booking -/

/-- The request is for the stay that was searched. -/
structure CreateBookingInput.For (input : CreateBookingInput) (p : PropertyId)
    (checkIn checkOut guests : Int) : Prop where
  property : input.propertyId = p
  checkIn : input.checkIn = checkIn
  checkOut : input.checkOut = checkOut
  guests : input.guests = guests

section

variable {now : Int} {isDelayedFlow : Bool} {input : CreateBookingInput} {db : Db}
  {row : SearchRow} {checkIn checkOut guests : Int}

/-- An offered stay passes every check on the property. -/
theorem bookableProperty_of_offered (hfor : input.For row.property.id checkIn checkOut guests)
    (hrow : db.properties.find? row.property.id = some row.property)
    (h : row.Offered db (currentDate now) checkIn checkOut guests) :
    bookableProperty now input db = .ok row.property := by
  obtain ⟨hproperty, hin, hout, hguests⟩ := hfor
  simp only [bookableProperty, hproperty, hrow, hin, hout, hguests]
  rw [Lib.require_of ⟨h.published, h.approved, h.evidence⟩, Lib.require_of h.capacity,
    Lib.require_of h.minStay, Lib.require_of h.maxStay]
  rfl

theorem checkCalendar_of_offered (hfor : input.For row.property.id checkIn checkOut guests)
    (h : row.Offered db (currentDate now) checkIn checkOut guests) :
    checkCalendar input db = .ok () := by
  simp only [checkCalendar, hfor.property, hfor.checkIn, hfor.checkOut, h.free]

theorem checkRequest_of_for {p : PropertyId} (hfor : input.For p checkIn checkOut guests)
    (hnights : checkIn < checkOut) (hguests : 1 ≤ guests) : checkRequest input = .ok () := by
  simp only [checkRequest, nightsBetween, hfor.checkIn, hfor.checkOut, hfor.guests]
  rw [Lib.require_of (by omega), Lib.require_of hguests]
  rfl

/-- A key that has a booking returns it. -/
theorem createBooking_of_key {booking : Booking} (hvalid : checkRequest input = .ok ())
    (hkey : db.bookingByKey input.idempotencyKey = some booking) :
    createBooking now isDelayedFlow input db = .ok (⟨mapBookingRow booking, none⟩, db) := by
  rw [createBooking_eq_statements]
  simp only [lookUpKey, hvalid, hkey, Lib.ok_bind]
  rfl

/-- Under a new key, an offered stay is booked at its price, or has none. -/
theorem createBooking_of_offered (hdb : db.Constrained)
    (hfor : input.For row.property.id checkIn checkOut guests)
    (hrow : db.properties.find? row.property.id = some row.property)
    (h : row.Offered db (currentDate now) checkIn checkOut guests) (hnights : checkIn < checkOut)
    (hguests : 1 ≤ guests) (hnew : db.bookingByKey input.idempotencyKey = none)
    {feeConfig : FeeConfig} (hfee : getActiveFeeConfig db = .ok feeConfig) :
    (createBooking now isDelayedFlow input db).map Prod.fst =
      (calculatePrice (pricingColumns row.property) (nightsBetween checkIn checkOut) feeConfig).map
        fun breakdown => ⟨mapBookingRow (bookingRow now isDelayedFlow input row.property.hostId
          (policyRules db row.property) db.bookings.freshKey), some breakdown⟩ := by
  rw [createBooking_eq_statements]
  simp only [lookUpKey, checkRequest_of_for hfor hnights hguests, hnew, Lib.ok_bind, Option.map_none, pure, Except.pure,
    bookableProperty_of_offered hfor hrow h, reserveBooking, checkCalendar_of_offered hfor h, hfee,
    Lib.require_of, Option.isNone_none, hfor.checkIn, hfor.checkOut]
  cases calculatePrice (pricingColumns row.property) (nightsBetween checkIn checkOut) feeConfig with
  | error e => rfl
  | ok breakdown =>
    obtain ⟨priceComponents, hinsert⟩ := hdb.tryInsert breakdown
    have hinserted := insertBooking_of (reserveNights db input.propertyId checkIn checkOut)
      (bookingRow now isDelayedFlow input row.property.hostId (policyRules db row.property))
      (fun _ => rfl) hinsert
    rw [Lib.ok_bind]
    exact congrArg (Except.map Prod.fst) hinserted

end

/-! ## What is offered and what is booked -/

section

variable (ilike : String → String → Bool)

/-- The concierge offers what the search offers. -/
def Market.ConciergeAgrees (m : Market) (today : Int) : Prop :=
  ∀ query, ∀ r ∈ m.listings.db.listings.rows,
    conciergeAdmits ilike m.bookingDb today query (m.searchRow r) =
      searchAdmits ilike m.bookingDb today query (m.searchRow r)

/-- `createBooking` returns: no check rejects the stay, and it has a price. -/
def Booked (now : Int) (isDelayedFlow : Bool) (input : CreateBookingInput) (db : Db) : Prop :=
  ∃ created db', createBooking now isDelayedFlow input db = .ok (created, db')

variable {ilike}

theorem Market.find?_property (m : Market) {r : Listing} (hr : r ∈ m.listings.db.listings.rows) :
    m.bookingDb.properties.find? (m.searchRow r).property.id = some (m.searchRow r).property :=
  (Table.find?_view m.listings.db.listings m.propertyRow (fun _ => rfl) r.id).trans
    (congrArg (Option.map m.propertyRow) (Table.find?_of_mem hr))

/-- The active configuration is the one bookings are priced at. -/
theorem Market.activeFeeConfig {m : Market} (h : m.db.LaunchActive) :
    ∃ feeConfig, getActiveFeeConfig m.bookingDb = .ok feeConfig ∧ feeConfig.version = launchFeeVersion := by
  have hactive : (getActiveFeeConfig m.bookingDb).map FeeConfig.version = .ok launchFeeVersion := h
  cases hfee : getActiveFeeConfig m.bookingDb with
  | error e =>
    rw [hfee] at hactive
    cases hactive
  | ok feeConfig =>
    rw [hfee] at hactive
    exact ⟨feeConfig, rfl, Except.ok.inj hactive⟩

theorem Market.Inv.conciergeAgrees {m : Market} (hinv : m.Inv) (today : Int) :
    m.ConciergeAgrees ilike today := by
  intro query r hr
  have hslug : (m.searchRow r).slug.isSome := hinv.slugs r.id r (Table.find?_of_mem hr)
  rw [Bool.eq_iff_iff, conciergeAdmits_iff]
  exact and_iff_left hslug

/-- In every state of the market under the launch fees, the concierge agrees with the
search, and a stay that the search offers can be booked exactly if the property's VAT rates
are set, or the key is one of an earlier booking. Otherwise no check rejects it, and pricing throws. -/
theorem offered_booked_iff {m : Market} (hfresh : m.Fresh) (ls : List MarketLabel)
    (hlaunch : (run Market.step m ls).db.LaunchActive) (now : Int) :
    (run Market.step m ls).ConciergeAgrees ilike (currentDate now) ∧
      ∀ (query : PropertySearchQuery) (checkIn checkOut guests : Int), query.checkIn = some checkIn →
        query.checkOut = some checkOut → query.guests = some guests →
        ∀ r ∈ (run Market.step m ls).listings.db.listings.rows,
          searchAdmits ilike (run Market.step m ls).bookingDb (currentDate now) query
            ((run Market.step m ls).searchRow r) →
          ∀ (isDelayedFlow : Bool) (input : CreateBookingInput), input.For r.id checkIn checkOut guests →
            (Booked now isDelayedFlow input (run Market.step m ls).bookingDb ↔
              ((run Market.step m ls).propertyRow r).VatConfigured ∨
                ∃ booking, (run Market.step m ls).db.HasKey input.idempotencyKey booking) ∧
            (¬ Booked now isDelayedFlow input (run Market.step m ls).bookingDb →
              createBooking now isDelayedFlow input (run Market.step m ls).bookingDb = .error vatUnconfigured) := by
  have hinv := hfresh.run_inv ls
  generalize run Market.step m ls = m at hlaunch hinv ⊢
  refine ⟨hinv.conciergeAgrees _, ?_⟩
  intro query checkIn checkOut guests hin hout hguests r hr hadmits isDelayedFlow input hfor
  have hoffered := offered_of_searchAdmits hin hout hguests hadmits
  have hdb : m.bookingDb.Constrained := hinv.constrained.of_same rfl rfl
  have hnights := query.datesOrdered checkIn checkOut hin hout
  have hcount := (query.guestsInBounds guests hguests).1
  have hrow := m.find?_property hr
  obtain ⟨feeConfig, hfee, hversion⟩ := Market.activeFeeConfig hlaunch
  cases hkey : m.bookingDb.bookingByKey input.idempotencyKey with
  | some booking =>
    have hreplayed : createBooking now isDelayedFlow input m.bookingDb =
        .ok (⟨mapBookingRow booking, none⟩, m.bookingDb) :=
      createBooking_of_key (checkRequest_of_for hfor hnights hcount) hkey
    have hbooked : Booked now isDelayedFlow input m.bookingDb := ⟨_, _, hreplayed⟩
    exact ⟨iff_of_true hbooked (.inr ⟨booking, bookingByKey_eq_some hkey⟩), absurd hbooked⟩
  | none =>
    have hnew : ¬ ∃ booking, m.db.HasKey input.idempotencyKey booking :=
      fun ⟨booking, hbooking⟩ => bookingByKey_eq_none.mp hkey booking hbooking
    rw [or_iff_left hnew]
    have hprice : (createBooking now isDelayedFlow input m.bookingDb).map Prod.fst = _ :=
      createBooking_of_offered hdb hfor hrow hoffered hnights hcount hkey hfee
    have hpositive : 0 < nightsBetween checkIn checkOut := by
      simpa [nightsBetween] using hnights
    have hthrows (hvat : ¬ (m.propertyRow r).VatConfigured) :
        createBooking now isDelayedFlow input m.bookingDb = .error vatUnconfigured := by
      rw [show (m.searchRow r).property = m.propertyRow r from rfl,
        calculatePrice_of_not_vatConfigured hpositive hversion hvat] at hprice
      cases hresult : createBooking now isDelayedFlow input m.bookingDb with
      | error e =>
        rw [hresult] at hprice
        cases hprice
        rfl
      | ok result =>
        rw [hresult] at hprice
        cases hprice
    have hbooks : (m.propertyRow r).VatConfigured → Booked now isDelayedFlow input m.bookingDb := by
      intro hvat
      obtain ⟨breakdown, hbreakdown⟩ : ∃ breakdown, calculatePrice (pricingColumns (m.propertyRow r))
          (nightsBetween checkIn checkOut) feeConfig = .ok breakdown :=
        calculatePrice_of_vatConfigured hpositive hvat
      rw [show (m.searchRow r).property = m.propertyRow r from rfl, hbreakdown] at hprice
      cases hok : createBooking now isDelayedFlow input m.bookingDb with
      | error e =>
        rw [hok] at hprice
        cases hprice
      | ok result => exact ⟨result.1, result.2, hok⟩
    refine ⟨⟨?_, hbooks⟩, fun hnot => hthrows (mt hbooks hnot)⟩
    rintro ⟨created, db', hok⟩
    by_contra hvat
    rw [hthrows hvat] at hok
    cases hok

end

/-! ## A published property without VAT rates -/

/-- A host without properties, and no fees yet. -/
def emptyMarket : Market :=
  { listings := .start sampleListingDb
    columns := fun _ => ⟨none, none, none⟩
    db := { sampleDb with properties := .empty, feeConfigs := [] } }

theorem emptyMarket_fresh : emptyMarket.Fresh := ⟨rfl, rfl, rfl⟩

/-- The launch fees are activated, and a listing is reviewed and published after that. -/
def publishedAfterLaunch : List MarketLabel :=
  [.seedFeeConfig 0, .activateLaunchFees 1] ++
    (approvedListing ++ patched { status := some .published }).map fun l => .listing l "mill-a1b2c3"

def searchedStay : PropertySearchQuery where
  city := some "York"
  district := none
  guests := some 2
  checkIn := some 100
  checkOut := some 102
  guestsInBounds := by simp
  datesTogether := rfl
  datesOrdered := by simp

/-- The listing that is offered for the searched stay. -/
def publishedListing : Listing :=
  ((run Market.step emptyMarket publishedAfterLaunch).listings.db.listings.find? 1).get (by decide)

theorem publishedListing_mem :
    publishedListing ∈ (run Market.step emptyMarket publishedAfterLaunch).listings.db.listings.rows :=
  Table.mem_of_find? (Option.some_get (by decide)).symm

/-- The search and the concierge offer the stay, and pricing refuses it. -/
theorem publishedListing_refused : emptyMarket.Fresh ∧
    (run Market.step emptyMarket publishedAfterLaunch).db.LaunchActive ∧
      searchAdmits (· == ·) (run Market.step emptyMarket publishedAfterLaunch).bookingDb 0 searchedStay
        ((run Market.step emptyMarket publishedAfterLaunch).searchRow publishedListing) ∧
      conciergeAdmits (· == ·) (run Market.step emptyMarket publishedAfterLaunch).bookingDb 0 searchedStay
        ((run Market.step emptyMarket publishedAfterLaunch).searchRow publishedListing) ∧
      createBooking 0 false (sampleRequest "a")
          (run Market.step emptyMarket publishedAfterLaunch).bookingDb =
        .error vatUnconfigured := by
  refine ⟨emptyMarket_fresh, rfl, by decide, by decide, rfl⟩

def vatConfiguredAfterLaunch : List MarketLabel :=
  publishedAfterLaunch ++ [.configureVat 1 (some 2000) (some 2000)]

/-- With its VAT rates set, the same stay is booked. -/
theorem publishedListing_booked :
    Booked 0 false (sampleRequest "a") (run Market.step emptyMarket vatConfiguredAfterLaunch).bookingDb := by
  have hiff := @offered_booked_iff (· == ·) emptyMarket emptyMarket_fresh vatConfiguredAfterLaunch rfl 0
  exact (hiff.2 searchedStay 100 102 2 rfl rfl rfl publishedListing publishedListing_mem (by decide) false
    (sampleRequest "a") ⟨rfl, rfl, rfl, rfl⟩).1.mpr (.inl ⟨rfl, rfl⟩)

end HostPlatform
