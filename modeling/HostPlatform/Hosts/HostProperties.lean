-- SUMMARY: Creating and editing a property as its host (`hostProperties.ts`), one step per database round trip.
import HostPlatform.Hosts.ListingReadiness

namespace HostPlatform

open Lib

/-- A request body: a field is `none` when it is not submitted. A submitted `null` is
`some none`. -/
structure PropertyInput where
  name : Option String := none
  propertyType : Option String := none
  description : Option String := none
  city : Option String := none
  district : Option String := none
  countryCode : Option String := none
  maxGuests : Option Int := none
  bedrooms : Option Int := none
  bathrooms : Option Int := none
  nightlyPrice : Option Int := none
  cleaningFee : Option Int := none
  currency : Option String := none
  minStayNights : Option Int := none
  maxStayNights : Option Int := none
  cancellationPolicyId : Option (Option Nat) := none
  addressLine1 : Option String := none
  addressLine2 : Option String := none
  postalTown : Option String := none
  county : Option String := none
  postcode : Option String := none
  latitude : Option (Option Int) := none
  longitude : Option (Option Int) := none
  checkInTime : Option Int := none
  checkOutTime : Option Int := none
  houseRules : Option String := none
  status : Option PropertyStatus := none
  amenityIds : Option (List AmenityId) := none
  deriving DecidableEq, Repr

/-- `toUpperCase`, of ASCII letters. -/
def toUpperCase (value : String) : String := String.ofList (value.toList.map Char.toUpper)

/-- `ST_MakePoint`, or `NULL` when a coordinate is missing. -/
def makePoint (latitude longitude : Option Int) : Option Point :=
  match latitude, longitude with
  | some latitude, some longitude => some ⟨latitude, longitude⟩
  | _, _ => none

/-! ## What the database refuses -/

/-- `TEXT` holds no NUL. -/
def fitsText (value : String) : Bool := !value.toList.contains (Char.ofNat 0)

/-- `CHAR(n)` drops no character but blanks. -/
def fitsChar (n : Nat) (value : String) : Bool :=
  fitsText value && (value.toList.drop n).all fun c => c == ' '

def fitsInteger (value : Int) : Bool := decide (-2 ^ 31 ≤ value ∧ value < 2 ^ 31)

/-- `NUMERIC(n, s)`, in units of its last digit. -/
def fitsNumeric (n : Nat) (value : Int) : Bool := decide (-10 ^ n < value ∧ value < 10 ^ n)

/-- Every submitted value fits its column. -/
def PropertyInput.fitsColumns (input : PropertyInput) : Bool :=
  [input.name, input.propertyType, input.description, input.city, input.district, input.addressLine1,
    input.addressLine2, input.postalTown, input.county, input.postcode, input.houseRules].all (Option.all fitsText)
  && input.countryCode.all (fitsChar 2)
  && input.currency.all (fitsChar 3)
  && [input.maxGuests, input.bedrooms, input.minStayNights, input.maxStayNights].all (Option.all fitsInteger)
  && input.bathrooms.all (fitsNumeric 4)
  && [input.nightlyPrice, input.cleaningFee].all (Option.all (fitsNumeric 12))

/-- `fk_properties_cancellation_policy`. The policy that the row has is not looked up again. -/
def ListingDb.knowsPolicy (db : ListingDb) (input : PropertyInput) (current : Option Nat) : Bool :=
  match input.cancellationPolicyId.join with
  | none => true
  | some policy => decide (policy ∈ db.cancellationPolicies ∨ current = some policy)

/-! ## Create -/

/-- The inserted content. `none`: a `NOT NULL` column without a default is not submitted. -/
def PropertyInput.insertedContent (input : PropertyInput) : Option ListingContent := do
  let name ← input.name
  let city ← input.city
  let maxGuests ← input.maxGuests
  let bedrooms ← input.bedrooms
  let bathrooms ← input.bathrooms
  return {
    name := name
    propertyType := input.propertyType
    description := input.description
    city := city
    district := input.district
    countryCode := input.countryCode.map toUpperCase
    maxGuests := maxGuests
    bedrooms := bedrooms
    bathrooms := bathrooms
    nightlyPrice := input.nightlyPrice
    cleaningFee := input.cleaningFee.getD 0
    currency := (input.currency.map toUpperCase).getD "GBP"
    minStayNights := input.minStayNights.getD 1
    maxStayNights := input.maxStayNights.getD 365
    cancellationPolicyId := input.cancellationPolicyId.join
    checkInTime := input.checkInTime.getD (15 * 60)
    checkOutTime := input.checkOutTime.getD (11 * 60)
    houseRules := input.houseRules
    addressLine1 := input.addressLine1
    addressLine2 := input.addressLine2
    postalTown := input.postalTown
    county := input.county
    postcode := input.postcode.map toUpperCase
    privateLocation := makePoint input.latitude.join input.longitude.join }

/-- The inserted row, with the defaults of the columns the statement does not name. -/
def newListing (hostId : HostId) (content : ListingContent) (status : PropertyStatus)
    (id : PropertyId) : Listing :=
  { id := id
    hostId := hostId
    status := status
    content := content
    complianceStatus := .notStarted
    complianceSubmittedAt := none
    complianceApprovedAt := none
    complianceApprovedBy := none
    complianceReviewNote := none
    pilotReviewStatus := .pending
    pilotReviewedAt := none
    pilotReviewedBy := none
    pilotReviewNote := none }

/-- `INSERT INTO properties`. -/
def ListingDb.insertListing (db : ListingDb) (hostId : HostId) (content : ListingContent)
    (status : PropertyStatus) : ListingDb :=
  { db with listings := db.listings.insertNew (newListing hostId content status) }

theorem ListingDb.find?_insertListing (db : ListingDb) (hostId : HostId) (content : ListingContent)
    (status : PropertyStatus) (p : PropertyId) :
    (db.insertListing hostId content status).listings.find? p =
      if p = db.listings.freshKey then some (newListing hostId content status db.listings.freshKey)
      else db.listings.find? p :=
  Table.find?_insertNew _ _ (fun _ => rfl) p

/-- `createPropertyForHost` up to its `INSERT`. The amenities are set by later statements. -/
def createPropertyForHost (db : ListingDb) (hostId : HostId) (input : PropertyInput) :
    Except ListingError (PropertyId × ListingDb) := do
  require (input.status ≠ some .published) (listingReadinessError [])
  require input.fitsColumns (.plain "value out of range for its column of relation \"properties\"")
  let some content := input.insertedContent
    | throw (.plain "null value in column of relation \"properties\" violates not-null constraint")
  require ((db.hosts.find? hostId).isSome ∧ db.knowsPolicy input none)
    (.plain "insert or update on table \"properties\" violates foreign key constraint")
  return (db.listings.freshKey, db.insertListing hostId content (input.status.getD .draft))

/-- The `INSERT` is not refused by the database. -/
structure ListingDb.AcceptsInsert (db : ListingDb) (hostId : HostId) (input : PropertyInput)
    (content : ListingContent) : Prop where
  fits : input.fitsColumns
  content : input.insertedContent = some content
  host : (db.hosts.find? hostId).isSome
  policy : db.knowsPolicy input none

theorem createPropertyForHost_eq_ok {db db' : ListingDb} {hostId : HostId} {input : PropertyInput} {p : PropertyId} :
    createPropertyForHost db hostId input = .ok (p, db') ↔
      input.status ≠ some .published ∧ ∃ content, db.AcceptsInsert hostId input content ∧
        p = db.listings.freshKey ∧ db' = db.insertListing hostId content (input.status.getD .draft) := by
  unfold createPropertyForHost
  simp only [bind_eq_ok, require_eq_ok, exists_and_left, exists_const]
  refine and_congr_right fun _ => ?_
  constructor
  · rintro ⟨hfits, h⟩
    split at h
    · rename_i content hcontent
      obtain ⟨_, hkeys, h⟩ := bind_eq_ok.mp h
      obtain ⟨hhost, hpolicy⟩ := require_eq_ok.mp hkeys
      cases h
      exact ⟨content, ⟨hfits, hcontent, hhost, hpolicy⟩, rfl, rfl⟩
    · cases h
  · rintro ⟨content, ⟨hfits, hcontent, hhost, hpolicy⟩, rfl, rfl⟩
    refine ⟨hfits, ?_⟩
    rw [hcontent]
    exact bind_eq_ok.mpr ⟨(), require_eq_ok.mpr ⟨hhost, hpolicy⟩, rfl⟩

/-! ## Update -/

/-- The `SET` clauses of the content columns: a field that is not submitted keeps its value. -/
def PropertyInput.setContent (input : PropertyInput) (c : ListingContent) : ListingContent where
  name := input.name.getD c.name
  propertyType := input.propertyType.or c.propertyType
  description := input.description.or c.description
  city := input.city.getD c.city
  district := input.district.or c.district
  countryCode := (input.countryCode.map toUpperCase).or c.countryCode
  maxGuests := input.maxGuests.getD c.maxGuests
  bedrooms := input.bedrooms.getD c.bedrooms
  bathrooms := input.bathrooms.getD c.bathrooms
  nightlyPrice := input.nightlyPrice.or c.nightlyPrice
  cleaningFee := input.cleaningFee.getD c.cleaningFee
  currency := (input.currency.map toUpperCase).getD c.currency
  minStayNights := input.minStayNights.getD c.minStayNights
  maxStayNights := input.maxStayNights.getD c.maxStayNights
  cancellationPolicyId := input.cancellationPolicyId.getD c.cancellationPolicyId
  checkInTime := input.checkInTime.getD c.checkInTime
  checkOutTime := input.checkOutTime.getD c.checkOutTime
  houseRules := input.houseRules.or c.houseRules
  addressLine1 := input.addressLine1.or c.addressLine1
  addressLine2 := input.addressLine2.or c.addressLine2
  postalTown := input.postalTown.or c.postalTown
  county := input.county.or c.county
  postcode := (input.postcode.map toUpperCase).or c.postcode
  privateLocation :=
    if input.latitude.isSome ∨ input.longitude.isSome then
      makePoint input.latitude.join input.longitude.join
    else c.privateLocation

/-- All `SET` clauses. An update without any is not sent, and would change nothing. -/
def PropertyInput.setListing (input : PropertyInput) (r : Listing) : Listing :=
  { r with
    content := input.setContent r.content
    status := input.status.getD r.status }

/-- Where a call of `updatePropertyForHost`, or the end of `createPropertyForHost`, stands:
the statement it sends next. Each of them commits on its own. -/
inductive PropertyPhase where
  | readStatus
  | assertCanPublish
  | update
  | clearAmenities
  | insertAmenities (rest : List AmenityId)
  deriving DecidableEq, Repr

structure PropertyCall where
  id : Nat
  propertyId : PropertyId
  input : PropertyInput
  phase : PropertyPhase
  deriving DecidableEq, Repr

instance : Keyed PropertyCall := ⟨PropertyCall.id⟩

/-- `updatePropertyForHost` looks at the property first only when it is to be published. -/
def PropertyInput.firstPhase (input : PropertyInput) : PropertyPhase :=
  if input.status = some .published then .readStatus else .update

/-- `DELETE FROM property_amenities WHERE property_id = $1`. -/
def ListingDb.clearAmenities (db : ListingDb) (p : PropertyId) : ListingDb :=
  { db with propertyAmenities := db.propertyAmenities.filter fun a => decide (a.1 ≠ p) }

/-- `INSERT INTO property_amenities .. ON CONFLICT DO NOTHING`. -/
def ListingDb.insertAmenity (db : ListingDb) (p : PropertyId) (a : AmenityId) : ListingDb :=
  { db with
    propertyAmenities :=
      if (p, a) ∈ db.propertyAmenities then db.propertyAmenities
      else db.propertyAmenities ++ [(p, a)] }

/-- The `UPDATE` is not refused by the database. -/
def ListingDb.acceptsUpdate (db : ListingDb) (p : PropertyId) (input : PropertyInput) : Bool :=
  input.fitsColumns && (db.listings.find? p).all fun r => db.knowsPolicy input r.content.cancellationPolicyId

/-- The next statement of a call. `none`: the call has returned, or has thrown. -/
def stepPropertyCall (db : ListingDb) (now : Int) (call : PropertyCall) :
    Option PropertyPhase × ListingDb :=
  match call.phase with
  | .readStatus =>
    if (db.listings.find? call.propertyId).map Listing.status = some .published then
      (some .update, db)
    else (some .assertCanPublish, db)
  | .assertCanPublish =>
    match assertListingReady db now call.propertyId with
    | .ok _ => (some .update, db)
    | .error _ => (none, db)
  | .update =>
    if db.acceptsUpdate call.propertyId call.input then
      (call.input.amenityIds.map fun _ => .clearAmenities,
        db.updateListing call.propertyId call.input.setListing)
    else (none, db)
  | .clearAmenities =>
    (some (.insertAmenities (call.input.amenityIds.getD [])), db.clearAmenities call.propertyId)
  | .insertAmenities [] => (none, db)
  | .insertAmenities (a :: rest) =>
    -- the foreign keys of `property_amenities`
    if a ∈ db.amenities ∧ (db.listings.find? call.propertyId).isSome then
      (some (.insertAmenities rest), db.insertAmenity call.propertyId a)
    else (none, db)

end HostPlatform
