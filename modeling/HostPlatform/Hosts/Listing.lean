-- SUMMARY: The listing tables (`properties`, `host_profiles`, `property_images`, `property_compliance_items`, amenities) and the triggers of migration 028 that withdraw a pilot approval.
import HostPlatform.Schema
import Mathlib.Data.List.Sort
import Mathlib.Data.Prod.Lex

/-!
# Listings

The columns of `properties` that the host and admin routes read and write, the
tables around it, and the two triggers that watch them. Prices are in minor
units, bathrooms in tenths, coordinates in millionths of a degree and times of
day in minutes.
-/

namespace HostPlatform

open Lib (Keyed Table)

abbrev ImageId := Nat
abbrev AmenityId := Nat

inductive PilotReviewStatus where
  | pending | approved | changesRequired
  deriving DecidableEq, Repr

/-! ## Rows -/

structure Point where
  latitude : Int
  longitude : Int
  deriving DecidableEq, Repr

/-- The columns of the listing that guests see or are hosted by: with
`compliance_status`, the columns the trigger of migration 028 compares. -/
structure ListingContent where
  name : String
  propertyType : Option String
  description : Option String
  city : String
  district : Option String
  countryCode : Option String
  maxGuests : Int
  bedrooms : Int
  bathrooms : Int
  nightlyPrice : Option Int
  cleaningFee : Int
  currency : String
  minStayNights : Int
  maxStayNights : Int
  cancellationPolicyId : Option Nat
  checkInTime : Int
  checkOutTime : Int
  houseRules : Option String
  addressLine1 : Option String
  addressLine2 : Option String
  postalTown : Option String
  county : Option String
  postcode : Option String
  privateLocation : Option Point
  deriving DecidableEq, Repr

structure Listing where
  id : PropertyId
  hostId : HostId
  status : PropertyStatus
  content : ListingContent
  complianceStatus : ComplianceStatus
  complianceSubmittedAt : Option Int
  complianceApprovedAt : Option Int
  complianceApprovedBy : Option UserId
  complianceReviewNote : Option String
  pilotReviewStatus : PilotReviewStatus
  pilotReviewedAt : Option Int
  pilotReviewedBy : Option UserId
  pilotReviewNote : Option String
  deriving DecidableEq, Repr

structure ListingHost extends HostProfile where
  userId : UserId
  hostAgreementVersion : Option String
  hostAgreementAcceptedAt : Option Int
  defaultPoliciesAcceptedAt : Option Int
  deriving Repr

structure PropertyImage where
  id : ImageId
  propertyId : PropertyId
  blobUrl : String
  blobPathname : String
  contentType : String
  sizeBytes : Int
  altText : Option String
  sortOrder : Int
  isCover : Bool
  createdByUserId : UserId
  createdAt : Int
  deriving DecidableEq, Repr

inductive ComplianceCategory where
  | authorityToList | fireSafety | gasSafety | electricalSafety | smokeCoAlarms
  | publicLiabilityInsurance | licencesPermissions
  deriving DecidableEq, Repr

inductive ItemReviewStatus where
  | notReviewed | approved | changesRequired
  deriving DecidableEq, Repr

structure ComplianceRecord where
  applicability : Applicability
  ownerDeclaredCompliant : Bool
  evidenceUrl : Option String
  evidenceReference : Option String
  validUntil : Option Int
  ownerNote : Option String
  ownerConfirmedAt : Option Int
  reviewStatus : ItemReviewStatus
  reviewedAt : Option Int
  reviewedBy : Option UserId
  reviewerNote : Option String
  deriving DecidableEq, Repr

instance : Keyed Listing := ⟨Listing.id⟩
instance : Keyed ListingHost := ⟨fun h => h.id⟩
instance : Keyed PropertyImage := ⟨PropertyImage.id⟩

/-- The tables. `property_compliance_items` has at most one row per property and
category (`UNIQUE (property_id, category)`), so it is a partial function. Of the amenities
and the cancellation policies only the ids are referred to. -/
structure ListingDb where
  listings : Table Listing
  hosts : Table ListingHost
  images : Table PropertyImage
  complianceItems : PropertyId → ComplianceCategory → Option ComplianceRecord
  amenities : List AmenityId
  cancellationPolicies : List Nat
  propertyAmenities : List (PropertyId × AmenityId)

/-- `Error`, and its subclasses with a code and an HTTP status of their own. -/
structure ListingError where
  code : String
  status : Nat
  message : String
  deriving DecidableEq, Repr

/-- `new Error(message)`, or an error of the database. -/
def ListingError.plain (message : String) : ListingError := ⟨"ERROR", 500, message⟩

/-! ## Triggers of migration 028 -/

/-- `invalidate_property_pilot_review`, `BEFORE UPDATE OF` the compared columns on
`properties`. An update of other columns leaves the compared ones equal, and then
the function returns `NEW` as it is. -/
def invalidatePropertyPilotReview (old new : Listing) : Listing :=
  if old.pilotReviewStatus = .approved ∧
      (old.content, old.complianceStatus) ≠ (new.content, new.complianceStatus) then
    { new with
      pilotReviewStatus := .pending
      pilotReviewedAt := none
      pilotReviewedBy := none
      pilotReviewNote := none
      status := if old.status = .published then .draft else new.status }
  else new

/-- The row `invalidate_property_image_pilot_review` leaves of an approved property. -/
def withdrawPilotReview (r : Listing) : Listing :=
  if r.pilotReviewStatus = .approved then
    { r with
      pilotReviewStatus := .pending
      pilotReviewedAt := none
      pilotReviewedBy := none
      pilotReviewNote := none
      status := if r.status = .published then .draft else r.status }
  else r

theorem invalidatePropertyPilotReview_id (old new : Listing) :
    (invalidatePropertyPilotReview old new).id = new.id := by
  unfold invalidatePropertyPilotReview
  split <;> rfl

theorem withdrawPilotReview_id (r : Listing) : (withdrawPilotReview r).id = r.id := by
  unfold withdrawPilotReview
  split <;> rfl

namespace ListingDb

/-- `UPDATE properties SET f WHERE id = $1`, through the `BEFORE UPDATE` trigger. -/
def updateListing (db : ListingDb) (p : PropertyId) (f : Listing → Listing)
    (hf : ∀ r, (f r).id = r.id := by intro r; rfl) : ListingDb :=
  { db with
    listings := db.listings.modify p (fun old => invalidatePropertyPilotReview old (f old))
      fun r => (invalidatePropertyPilotReview_id r (f r)).trans (hf r) }

/-- `invalidate_property_image_pilot_review`, `AFTER INSERT OR UPDATE OR DELETE`, for one
row of `property_images`. -/
def invalidatePropertyImagePilotReview (db : ListingDb) (image : PropertyImage) : ListingDb :=
  { db with
    listings := db.listings.modify image.propertyId withdrawPilotReview withdrawPilotReview_id }

/-- `FOR EACH ROW` of a statement, after its writes. -/
def afterImages (db : ListingDb) (rows : List PropertyImage) : ListingDb :=
  rows.foldl invalidatePropertyImagePilotReview db

/-! ## Statements on `property_images` -/

/-- `SELECT * FROM property_images WHERE property_id = $1`. -/
def imagesOf (db : ListingDb) (p : PropertyId) : List PropertyImage :=
  db.images.select fun i => decide (i.propertyId = p)

/-- `INSERT INTO property_images`. -/
def insertImage (db : ListingDb) (mk : ImageId → PropertyImage)
    (hmk : ∀ k, (mk k).id = k := by intro k; rfl) : ListingDb :=
  { db with images := db.images.insertNew mk hmk }.afterImages [mk db.images.freshKey]

/-- `UPDATE property_images SET f WHERE property_id = $1 AND cond`. -/
def updateImages (db : ListingDb) (p : PropertyId) (cond : PropertyImage → Bool)
    (f : PropertyImage → PropertyImage) (hf : ∀ i, (f i).id = i.id := by intro i; rfl) : ListingDb :=
  { db with images := db.images.updateWhere (fun i => decide (i.propertyId = p) && cond i) f hf
    }.afterImages ((db.imagesOf p).filter cond)

/-- `DELETE FROM property_images WHERE property_id = $1 AND cond`. -/
def deleteImages (db : ListingDb) (p : PropertyId) (cond : PropertyImage → Bool) : ListingDb :=
  { db with images := db.images.deleteWhere fun i => decide (i.propertyId = p) && cond i
    }.afterImages ((db.imagesOf p).filter cond)

end ListingDb

/-- `ORDER BY sort_order, created_at, id`. -/
def orderImages (images : List PropertyImage) : List PropertyImage :=
  images.insertionSort fun i j =>
    toLex (i.sortOrder, toLex (i.createdAt, i.id)) ≤ toLex (j.sortOrder, toLex (j.createdAt, j.id))

end HostPlatform
