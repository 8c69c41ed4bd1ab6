-- SUMMARY: The listing system and the booking database as one system, with the operators' fee and VAT settings.
import HostPlatform.ListingEdits
import HostPlatform.Search.PropertySearch
import HostPlatform.Safety.GuestIsolation

/-!
# The market

Listing routes and booking transactions meet in the table `properties`. The listing
system owns its rows, the booking transactions read them.
-/

namespace HostPlatform

open Lib (Table)
open Lib.Transition

/-- The columns of `properties` that no listing route writes after the insert. -/
structure PropertyColumns where
  slug : Option String
  accommodationVatRate : Option Int
  cleaningVatRate : Option Int

structure Market where
  listings : Listings
  columns : PropertyId → PropertyColumns
  /-- The tables of the booking side; its `properties` and `hostProfiles` are not read. -/
  db : Db

inductive MarketLabel where
  /-- A step of the listing system; an insert draws the slug. -/
  | listing (l : ListingLabel) (slug : String)
  | booking (t : Tx)
  /-- `docs/launch-fees.md`: the VAT rates are set through the database. -/
  | configureVat (p : PropertyId) (accommodationVatRate cleaningVatRate : Option Int)
  | seedFeeConfig (now : Int)
  | activateLaunchFees (now : Int)

namespace Market

/-! ## The table `properties` -/

def complianceItems (m : Market) (p : PropertyId) : List ComplianceItem :=
  ComplianceCategory.all.filterMap fun category =>
    (m.listings.db.complianceItems p category).map fun item => ⟨item.applicability, item.validUntil⟩

def propertyRow (m : Market) (r : Listing) : Property :=
  { id := r.id
    hostId := r.hostId
    status := r.status
    complianceStatus := r.complianceStatus
    complianceItems := m.complianceItems r.id
    currency := r.content.currency
    nightlyPrice := r.content.nightlyPrice
    cleaningFee := r.content.cleaningFee
    accommodationVatRate := (m.columns r.id).accommodationVatRate
    cleaningVatRate := (m.columns r.id).cleaningVatRate
    maxGuests := r.content.maxGuests
    minStayNights := r.content.minStayNights
    maxStayNights := r.content.maxStayNights
    cancellationPolicyId := r.content.cancellationPolicyId }

/-- What the searches read of a listing. -/
def searchRow (m : Market) (r : Listing) : SearchRow :=
  { property := m.propertyRow r
    city := r.content.city
    district := r.content.district
    slug := (m.columns r.id).slug }

/-- The database as the booking transactions see it. -/
def bookingDb (m : Market) : Db :=
  { m.db with
    properties := m.listings.db.listings.view m.propertyRow
    hostProfiles := m.listings.db.hosts.view ListingHost.toHostProfile }

/-! ## Steps -/

/-- `slug TEXT UNIQUE`. -/
def slugTaken (m : Market) (slug : String) : Bool :=
  m.listings.db.listings.rows.any fun r => (m.columns r.id).slug == some slug

def stepListing (m : Market) (l : ListingLabel) (slug : String) : Market :=
  match l with
  | .createProperty hostId input =>
    match createPropertyForHost m.listings.db hostId input with
    | .error _ => m
    | .ok (p, _) =>
      if m.slugTaken slug then m
      else
        { m with
          listings := m.listings.step l
          columns := Function.update m.columns p ⟨some slug, none, none⟩ }
  | _ => { m with listings := m.listings.step l }

/-- The rates are `NULL` or between 0 and 1. -/
def validVatRate (rate : Option Int) : Bool := rate.all fun r => decide (0 ≤ r ∧ r ≤ rateScale)

def configureVat (m : Market) (p : PropertyId) (accommodationVatRate cleaningVatRate : Option Int) :
    Market :=
  if validVatRate accommodationVatRate ∧ validVatRate cleaningVatRate then
    { m with
      columns := Function.update m.columns p
        { m.columns p with
          accommodationVatRate := accommodationVatRate
          cleaningVatRate := cleaningVatRate } }
  else m

/-- `scripts/seedFeeConfig.ts`: `ON CONFLICT (version) DO NOTHING`. -/
def seedFeeConfig (m : Market) (now : Int) : Market :=
  if m.db.feeConfigs.any fun c => c.version == "v1" then m
  else { m with db := { m.db with feeConfigs := m.db.feeConfigs ++ [⟨"v1", 1200, 300, 500, now, true⟩] } }

/-- `scripts/activateLaunchFees.ts` expects the seeded configuration to be the active one. -/
def isSeededConfig (c : FeeConfig) : Bool :=
  c.version == "v1" && c.guestServiceFeeRate == 1200 && c.hostCommissionRate == 300 && c.taxRate == 500

/-- `scripts/activateLaunchFees.ts`: nothing changes while a published property has no VAT
rates, or when the launch version is already there. -/
def activateLaunchFees (m : Market) (now : Int) : Market :=
  let missing := m.bookingDb.properties.rows.any fun p =>
    decide (p.status = .published) && (p.accommodationVatRate.isNone || p.cleaningVatRate.isNone)
  match m.db.feeConfigs.filter FeeConfig.active with
  | [c] =>
    if !missing && isSeededConfig c
        && !(m.db.feeConfigs.any fun c => c.version == launchFeeVersion) then
      let closed := m.db.feeConfigs.map fun c =>
        if c.version = "v1" then { c with active := false } else c
      { m with
        db := { m.db with feeConfigs := closed ++ [⟨launchFeeVersion, 0, 1500, 0, now, true⟩] } }
    else m
  | _ => m

def step (m : Market) : MarketLabel → Market
  | .listing l slug => m.stepListing l slug
  | .booking t => { m with db := t.exec m.bookingDb }
  | .configureVat p accommodationVatRate cleaningVatRate =>
    m.configureVat p accommodationVatRate cleaningVatRate
  | .seedFeeConfig now => m.seedFeeConfig now
  | .activateLaunchFees now => m.activateLaunchFees now

/-! ## Invariants -/

/-- No properties, no bookings and no prices yet. -/
structure Fresh (m : Market) : Prop where
  listings : m.listings.db.listings.rows = []
  bookings : m.db.bookings.rows = []
  prices : m.db.priceComponents.rows = []

/-- Every listing has a slug, and the booking tables keep their constraints. -/
structure Inv (m : Market) : Prop where
  slugs : ∀ p r, m.listings.db.listings.find? p = some r → (m.columns p).slug.isSome
  constrained : m.db.Constrained

theorem Fresh.inv {m : Market} (h : m.Fresh) : m.Inv where
  slugs := by
    intro p r hr
    have hmem := Table.mem_of_find? hr
    rw [h.listings] at hmem
    cases hmem
  constrained := .of_no_bookings h.bookings h.prices

/-- No listing is new. -/
def KeepsListings (db db' : ListingDb) : Prop :=
  ∀ p, (db'.listings.find? p).isSome → (db.listings.find? p).isSome

theorem KeepsListings.of_edits {db db' : ListingDb} (h : db.Edits db') : KeepsListings db db' := by
  intro p hp
  obtain ⟨r', hr'⟩ := Option.isSome_iff_exists.mp hp
  obtain ⟨r, hr, -⟩ := h.rows.to_find? hr'
  simp [hr]

theorem KeepsListings.updateListing (db : ListingDb) (p : PropertyId) (f : Listing → Listing) (hf) :
    KeepsListings db (db.updateListing p f hf) := by
  intro q hq
  rw [ListingDb.find?_updateListing] at hq
  split at hq
  case isTrue heq => simpa [heq] using hq
  case isFalse => exact hq

theorem KeepsListings.transaction (db : ListingDb) (t : ListingTx) : KeepsListings db (t.exec db) := by
  by_cases ht : ∃ now p reviewer decision note, t = .reviewPilotListing now p reviewer decision note
  · obtain ⟨now, p, reviewer, decision, note, rfl⟩ := ht
    refine Lib.commit_of (fun _ hp => hp) fun report db' hreview => ?_
    obtain ⟨-, rfl⟩ := reviewPilotListing_eq_ok hreview
    exact .updateListing db p _ _
  · refine .of_edits (ListingTx.exec_edits db fun now p reviewer decision note heq => ht ?_)
    exact ⟨now, p, reviewer, decision, note, heq⟩

theorem KeepsListings.call (db : ListingDb) (now : Int) (call : PropertyCall) :
    KeepsListings db (stepPropertyCall db now call).2 := by
  by_cases hphase : call.phase = .update
  · rw [stepPropertyCall_update hphase]
    split
    · exact .updateListing db call.propertyId call.input.setListing fun _ => rfl
    · exact fun _ hp => hp
  · intro p hp
    rwa [listings_stepPropertyCall hphase] at hp

/-- Only `createPropertyForHost` inserts a listing. -/
theorem KeepsListings.step {s : Listings} {l : ListingLabel}
    (hl : ∀ hostId input, l ≠ .createProperty hostId input) : KeepsListings s.db (s.step l).db := by
  cases l with
  | transaction t => exact .transaction s.db t
  | createProperty hostId input => exact absurd rfl (hl hostId input)
  | updateProperty p input => exact fun _ hp => hp
  | callCrash c => exact fun _ hp => hp
  | call now c =>
    simp only [Listings.step, Listings.stepCall_db]
    cases s.calls.find? c with
    | none => exact fun _ hp => hp
    | some call => exact .call s.db now call

theorem createPropertyForHost_listings {db db' : ListingDb} {hostId : HostId} {input : PropertyInput}
    {p q : PropertyId} (h : createPropertyForHost db hostId input = .ok (p, db'))
    (hq : (db'.listings.find? q).isSome) : q = p ∨ (db.listings.find? q).isSome := by
  obtain ⟨-, content, -, rfl, rfl⟩ := createPropertyForHost_eq_ok.mp h
  rw [ListingDb.find?_insertListing] at hq
  split at hq
  case isTrue heq => exact .inl heq
  case isFalse => exact .inr hq

theorem createProperty_db {s : Listings} {hostId : HostId} {input : PropertyInput} {p : PropertyId}
    {db : ListingDb} (h : createPropertyForHost s.db hostId input = .ok (p, db)) :
    (s.createProperty hostId input).db = db := by
  simp only [Listings.createProperty, h]
  split <;> rfl

theorem Inv.listing {m : Market} (h : m.Inv) (l : ListingLabel) (slug : String) :
    (m.stepListing l slug).Inv := by
  have hkept : (∀ hostId input, l ≠ .createProperty hostId input) →
      Inv { m with listings := m.listings.step l } := by
    intro hl
    refine ⟨fun p r hr => ?_, h.constrained⟩
    obtain ⟨r', hr'⟩ := Option.isSome_iff_exists.mp
      (KeepsListings.step hl p (Option.isSome_of_eq_some hr))
    exact h.slugs p r' hr'
  cases l with
  | createProperty hostId input =>
    simp only [stepListing]
    split
    case h_1 => exact h
    case h_2 p db hcreated =>
      split
      · exact h
      · refine ⟨fun q r hr => ?_, h.constrained⟩
        simp only [Listings.step, createProperty_db hcreated] at hr
        by_cases hq : q = p
        · simp [hq]
        · have hold := createPropertyForHost_listings hcreated (Option.isSome_of_eq_some hr)
          obtain ⟨r', hr'⟩ := Option.isSome_iff_exists.mp (hold.resolve_left hq)
          simpa [hq] using h.slugs q r' hr'
  | _ => exact hkept fun _ _ heq => by cases heq

theorem Inv.step {m : Market} (h : m.Inv) (l : MarketLabel) : (m.step l).Inv := by
  cases l with
  | listing l slug => exact h.listing l slug
  | booking t => exact ⟨h.slugs, (h.constrained.of_same rfl rfl : m.bookingDb.Constrained).exec t⟩
  | configureVat p accommodationVatRate cleaningVatRate =>
    simp only [Market.step, configureVat]
    split
    case isFalse => exact h
    refine ⟨fun q r hr => ?_, h.constrained⟩
    have hslug := h.slugs q r hr
    by_cases hq : q = p
    · simpa [hq] using hq ▸ hslug
    · simpa [hq] using hslug
  | seedFeeConfig now =>
    simp only [Market.step, seedFeeConfig]
    split
    · exact h
    · exact ⟨h.slugs, h.constrained.of_same rfl rfl⟩
  | activateLaunchFees now =>
    simp only [Market.step, activateLaunchFees]
    split
    · split
      · exact ⟨h.slugs, h.constrained.of_same rfl rfl⟩
      · exact h
    · exact h

theorem Fresh.run_inv {m : Market} (h : m.Fresh) (ls : List MarketLabel) :
    (run Market.step m ls).Inv :=
  run_invariant' (fun _ l hinv => hinv.step l) h.inv ls

end Market

end HostPlatform
