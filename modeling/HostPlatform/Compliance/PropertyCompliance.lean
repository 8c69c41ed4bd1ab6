-- SUMMARY: The owner's compliance record of a property and its review (`propertyCompliance.ts`).
import HostPlatform.Hosts.ListingReadiness

namespace HostPlatform

open Lib

/-- The column text of a category. -/
def ComplianceCategory.text : ComplianceCategory → String
  | .authorityToList => "authority_to_list"
  | .fireSafety => "fire_safety"
  | .gasSafety => "gas_safety"
  | .electricalSafety => "electrical_safety"
  | .smokeCoAlarms => "smoke_co_alarms"
  | .publicLiabilityInsurance => "public_liability_insurance"
  | .licencesPermissions => "licences_permissions"

/-- `String(row.category).replace(/_/g, " ")`. -/
def ComplianceCategory.words (category : ComplianceCategory) : String :=
  String.ofList (category.text.toList.map fun c => if c = '_' then ' ' else c)

structure OwnerComplianceItem where
  category : ComplianceCategory
  applicability : Applicability
  ownerDeclaredCompliant : Bool
  evidenceUrl : Option String
  evidenceReference : Option String
  validUntil : Option Int
  ownerNote : Option String
  deriving DecidableEq, Repr

/-- An item that can be submitted, and approved: what the two queries count. -/
def ComplianceRecord.complete (item : ComplianceRecord) (today : Int) : Bool :=
  (decide (item.applicability = .notApplicable) &&
      decide (8 ≤ (item.evidenceReference.getD "").length)) ||
    (decide (item.applicability = .required) && item.ownerDeclaredCompliant &&
      item.evidenceUrl.isSome && item.validUntil.all fun d => decide (today ≤ d))

/-! ## The owner's record -/

/-- The row an item is inserted as, or overwrites the old one with. -/
def OwnerComplianceItem.record (now : Int) (item : OwnerComplianceItem) : ComplianceRecord :=
  let required := item.applicability = .required
  let declared := decide required && item.ownerDeclaredCompliant
  { applicability := item.applicability
    ownerDeclaredCompliant := declared
    evidenceUrl := if required then item.evidenceUrl.bind orNull else none
    evidenceReference := item.evidenceReference.bind orNull
    validUntil := if required then item.validUntil else none
    ownerNote := item.ownerNote.bind orNull
    ownerConfirmedAt := if declared then some now else none
    reviewStatus := .notReviewed
    reviewedAt := none
    reviewedBy := none
    reviewerNote := none }

/-- `CHECK (evidence_url ~ '^https://')`. -/
def ComplianceRecord.urlAllowed (item : ComplianceRecord) : Bool :=
  item.evidenceUrl.all fun url => url.toList.take 8 == "https://".toList

def ListingDb.setComplianceItem (db : ListingDb) (p : PropertyId) (category : ComplianceCategory)
    (item : ComplianceRecord) : ListingDb :=
  { db with
    complianceItems := fun q c =>
      if q = p ∧ c = category then some item else db.complianceItems q c }

/-- `INSERT .. ON CONFLICT (property_id, category) DO UPDATE`. -/
def upsertComplianceItem (now : Int) (p : PropertyId) (db : ListingDb) (item : OwnerComplianceItem) :
    Except ListingError ListingDb := do
  require (db.listings.find? p).isSome
    (.plain "insert or update on table \"property_compliance_items\" violates foreign key constraint")
  require (item.record now).urlAllowed
    (.plain "new row for relation \"property_compliance_items\" violates check constraint")
  return db.setComplianceItem p item.category (item.record now)

/-- The columns `saveOwnerCompliance` sets. -/
def Listing.setOwnerCompliance (now : Int) (submit : Bool) (r : Listing) : Listing :=
  { r with
    complianceStatus := if submit then .submitted else .inProgress
    complianceSubmittedAt := if submit then some now else r.complianceSubmittedAt
    complianceApprovedAt := none
    complianceApprovedBy := none }

def saveOwnerCompliance (db : ListingDb) (now : Int) (p : PropertyId)
    (items : List OwnerComplianceItem) (submit : Bool) :
    Except ListingError (ComplianceStatus × ListingDb) := do
  let db' ← items.foldlM (upsertComplianceItem now p) db
  if submit then
    let incomplete := (db'.itemsOf p).filter fun i => !i.2.complete (currentDate now)
    let names := ", ".intercalate (incomplete.map fun i => i.1.words)
    require incomplete.isEmpty
      (.plain s!"Complete these compliance items before submitting: {names}.")
  return (if submit then .submitted else .inProgress,
    db'.updateListing p (Listing.setOwnerCompliance now submit))

/-! ## The review -/

inductive ComplianceDecision where
  | approved | changesRequired
  deriving DecidableEq, Repr

def ComplianceDecision.status : ComplianceDecision → ComplianceStatus
  | .approved => .approved
  | .changesRequired => .changesRequired

def ComplianceDecision.itemStatus : ComplianceDecision → ItemReviewStatus
  | .approved => .approved
  | .changesRequired => .changesRequired

/-- `UPDATE property_compliance_items SET review_status .. WHERE property_id = $1`. -/
def ListingDb.reviewItems (db : ListingDb) (now : Int) (p : PropertyId) (reviewer : UserId)
    (decision : ComplianceDecision) (note : String) : ListingDb :=
  { db with
    complianceItems := fun q c =>
      if q = p then
        (db.complianceItems q c).map fun item =>
          { item with
            reviewStatus := decision.itemStatus
            reviewedAt := some now
            reviewedBy := some reviewer
            reviewerNote := some note }
      else db.complianceItems q c }

/-- The columns `reviewPropertyCompliance` sets. -/
def Listing.setComplianceReview (now : Int) (reviewer : UserId) (decision : ComplianceDecision)
    (note : String) (r : Listing) : Listing :=
  { r with
    complianceStatus := decision.status
    complianceApprovedAt := if decision = .approved then some now else none
    complianceApprovedBy := if decision = .approved then some reviewer else none
    complianceReviewNote := some note }

def reviewPropertyCompliance (db : ListingDb) (now : Int) (p : PropertyId) (reviewer : UserId)
    (decision : ComplianceDecision) (note : String) :
    Except ListingError (ComplianceStatus × ListingDb) := do
  let some listing := db.listings.find? p | throw (.plain "Property not found.")
  let some host := db.hosts.find? listing.hostId | throw (.plain "Property not found.")
  require (listing.complianceStatus = .submitted)
    (.plain "Only a submitted compliance record can be reviewed.")
  require (host.userId ≠ reviewer)
    (.plain "A property owner cannot review their own compliance submission.")
  if decision = .approved then
    let complete := (db.itemsOf p).filter fun i => i.2.complete (currentDate now)
    require (complete.length = ComplianceCategory.all.length)
      (.plain "This record is incomplete or contains expired evidence and cannot be approved.")
  return (decision.status,
    (db.reviewItems now p reviewer decision note).updateListing p
      (Listing.setComplianceReview now reviewer decision note))

end HostPlatform
