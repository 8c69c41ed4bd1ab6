-- SUMMARY: The public routes of one property (`app/api/properties/[id]/route.ts` and its `availability/route.ts`), over the market and the day they are asked.
import HostPlatform.Market

/-!
# The routes of a property

Both routes find the property by its id or its slug and answer its own host whatever its state.
What makes it public is written down in each of them.
-/

namespace HostPlatform

open Lib (require)

/-- The `id` of the path, as `UUID_PATTERN` and `SLUG_PATTERN` take it. -/
inductive PathId where
  | uuid (p : PropertyId)
  | slug (slug : String)
  | invalid
  deriving DecidableEq, Repr

/-- `session.user`, as far as the routes read it. -/
structure SessionUser where
  hostProfileId : Option HostId
  deriving DecidableEq, Repr

def invalidPropertyId : ListingError := ⟨"INVALID_ID", 400, "Property id must be a valid UUID or slug."⟩

def propertyNotFound : ListingError := ⟨"PROPERTY_NOT_FOUND", 404, "Property not found."⟩

/-- A session that cannot be read counts as none. -/
def isOwningHost (session : Option SessionUser) (r : Listing) : Bool :=
  session.any fun user => user.hostProfileId == some r.hostId

/-! ## Answers -/

structure PublicPropertyImage where
  id : ImageId
  url : String
  altText : Option String
  sortOrder : Int
  isCover : Bool
  deriving DecidableEq, Repr

structure PublicCompliance where
  reviewStatus : String
  reviewedAt : Option Int
  reviewedCheckCount : Nat
  statement : String
  deriving DecidableEq, Repr

/-- The answer of the detail route. -/
structure PropertyDetail where
  id : PropertyId
  name : String
  slug : Option String
  description : Option String
  city : String
  district : Option String
  countryCode : Option String
  propertyType : Option String
  currency : String
  nightlyPrice : Option Int
  cleaningFee : Int
  maxGuests : Int
  bedrooms : Int
  bathrooms : Int
  minStayNights : Int
  maxStayNights : Int
  checkInTime : Int
  checkOutTime : Int
  houseRules : Option String
  compliance : PublicCompliance
  images : List PublicPropertyImage
  deriving DecidableEq, Repr

namespace Market

def findProperty (m : Market) : PathId → Option Listing
  | .uuid p => m.listings.db.listings.find? p
  | .slug slug => m.listings.db.listings.rows.find? fun r => (m.columns r.id).slug == some slug
  | .invalid => none

/-! ## The availability route -/

/-- `GET` of `availability/route.ts`. The dates are given by what is among them. -/
def getAvailability (m : Market) (today : Int) (session : Option SessionUser) (id : PathId) :
    Except ListingError (Int → Bool) := do
  require (id ≠ .invalid) invalidPropertyId
  let some r := m.findProperty id | throw propertyNotFound
  require (r.status = .published ∨ isOwningHost session r) propertyNotFound
  return fun date => decide (today ≤ date) &&
    (m.db.availability r.id date).any fun block => decide (block.status ≠ .available)

/-! ## The detail route -/

/-- `reviewed_compliance_checks`. -/
def reviewedComplianceChecks (m : Market) (today : Int) (p : PropertyId) : Nat :=
  (m.listings.db.itemsOf p).countP fun i =>
    decide (i.2.reviewStatus = .approved) && decide (i.2.applicability = .required) &&
      i.2.validUntil.all fun d => decide (today ≤ d)

def isPubliclyVisible (m : Market) (today : Int) (r : Listing) : Bool :=
  decide (r.status = .published) && decide (r.complianceStatus = .approved) &&
    !hasExpiredEvidence (m.propertyRow r) today

def publicCompliance (m : Market) (today : Int) (r : Listing) : PublicCompliance :=
  let current := decide (r.complianceStatus = .approved) && !hasExpiredEvidence (m.propertyRow r) today
  let reviewedChecks := m.reviewedComplianceChecks today r.id
  { reviewStatus :=
      if current && decide (0 < reviewedChecks) then "evidence_reviewed" else "owner_information_pending"
    reviewedAt := if current then r.complianceApprovedAt else none
    reviewedCheckCount := if current then reviewedChecks else 0
    statement :=
      if current then
        "The owner supplied compliance declarations and supporting evidence reviewed by HOST. The owner remains responsible for the property and for keeping all checks current."
      else "The property's compliance information has not yet completed HOST review." }

def propertyDetail (m : Market) (today : Int) (r : Listing) : PropertyDetail :=
  { id := r.id
    name := r.content.name
    slug := (m.columns r.id).slug
    description := r.content.description
    city := r.content.city
    district := r.content.district
    countryCode := r.content.countryCode
    propertyType := r.content.propertyType
    currency := r.content.currency
    nightlyPrice := r.content.nightlyPrice
    cleaningFee := r.content.cleaningFee
    maxGuests := r.content.maxGuests
    bedrooms := r.content.bedrooms
    bathrooms := r.content.bathrooms
    minStayNights := r.content.minStayNights
    maxStayNights := r.content.maxStayNights
    checkInTime := r.content.checkInTime
    checkOutTime := r.content.checkOutTime
    houseRules := r.content.houseRules
    compliance := m.publicCompliance today r
    images := (orderImages (m.listings.db.imagesOf r.id)).map fun i =>
      ⟨i.id, i.blobUrl, i.altText, i.sortOrder, i.isCover⟩ }

/-- `GET` of `[id]/route.ts`. -/
def getProperty (m : Market) (today : Int) (session : Option SessionUser) (id : PathId) :
    Except ListingError PropertyDetail := do
  require (id ≠ .invalid) invalidPropertyId
  let some r := m.findProperty id | throw propertyNotFound
  require (m.isPubliclyVisible today r ∨ isOwningHost session r) propertyNotFound
  return m.propertyDetail today r

/-! ## Who is answered -/

variable {m : Market} {today : Int} {session : Option SessionUser} {id : PathId}

theorem findProperty_valid {r : Listing} (h : m.findProperty id = some r) : id ≠ .invalid := by
  rintro rfl
  cases h

theorem getAvailability_eq_ok {dates : Int → Bool} (h : m.getAvailability today session id = .ok dates) :
    ∃ r, m.findProperty id = some r ∧ (r.status = .published ∨ isOwningHost session r) := by
  obtain ⟨-, -, h⟩ := Lib.bind_eq_ok.mp h
  cases hfind : m.findProperty id with
  | none =>
    rw [hfind] at h
    cases h
  | some r =>
    rw [hfind] at h
    obtain ⟨_, hshown, -⟩ := Lib.bind_eq_ok.mp h
    exact ⟨r, rfl, Lib.require_eq_ok.mp hshown⟩

theorem getAvailability_of_shown {r : Listing} (hfind : m.findProperty id = some r)
    (hshown : r.status = .published ∨ isOwningHost session r) :
    ∃ dates, m.getAvailability today session id = .ok dates := by
  unfold getAvailability
  rw [Lib.require_of (findProperty_valid hfind), Lib.ok_bind, hfind]
  dsimp only
  rw [Lib.require_of hshown]
  exact ⟨_, rfl⟩

theorem getProperty_eq_ok {detail : PropertyDetail} (h : m.getProperty today session id = .ok detail) :
    ∃ r, m.findProperty id = some r ∧ (m.isPubliclyVisible today r ∨ isOwningHost session r) ∧
      detail = m.propertyDetail today r := by
  obtain ⟨-, -, h⟩ := Lib.bind_eq_ok.mp h
  cases hfind : m.findProperty id with
  | none =>
    rw [hfind] at h
    cases h
  | some r =>
    rw [hfind] at h
    obtain ⟨_, hshown, h⟩ := Lib.bind_eq_ok.mp h
    cases h
    exact ⟨r, rfl, Lib.require_eq_ok.mp hshown, rfl⟩

theorem getProperty_of_shown {r : Listing} (hfind : m.findProperty id = some r)
    (hshown : m.isPubliclyVisible today r ∨ isOwningHost session r) :
    m.getProperty today session id = .ok (m.propertyDetail today r) := by
  unfold getProperty
  rw [Lib.require_of (findProperty_valid hfind), Lib.ok_bind, hfind]
  dsimp only
  rw [Lib.require_of hshown]
  rfl

/-- Whoever is shown the details gets the dates. -/
theorem getAvailability_of_getProperty {detail : PropertyDetail}
    (h : m.getProperty today session id = .ok detail) : ∃ dates, m.getAvailability today session id = .ok dates := by
  obtain ⟨r, hfind, hshown, -⟩ := getProperty_eq_ok h
  refine getAvailability_of_shown hfind (hshown.imp_left fun hvisible => ?_)
  simp only [isPubliclyVisible, Bool.and_eq_true, decide_eq_true_eq] at hvisible
  exact hvisible.1.1

end Market

end HostPlatform
