-- SUMMARY: The listing system: the listing tables, the property calls under way, and the steps of hosts and admins.
import HostPlatform.Compliance.PropertyCompliance
import HostPlatform.Hosts.HostProperties
import HostPlatform.Hosts.PropertyImages
import HostPlatform.Lib.Transition

/-!
# The listing system

Hosts edit their properties through calls that commit statement by statement;
every other operation is one transaction that locks the property. Any host,
admin or user may take any step: who may call what is checked by the routes.
-/

namespace HostPlatform

open Lib Lib.Transition

/-! ## Host profiles (`onboarding.ts`) -/

/-- `ensureHostProfile`. -/
def ensureHostProfile (db : ListingDb) (userId : UserId) : ListingDb :=
  if db.hosts.rows.any fun h => decide (h.userId = userId) then db
  else
    { db with
      hosts := db.hosts.insertNew fun id =>
        { id := id
          stripeConnectAccountId := none
          payoutAccountStatus := .notConnected
          userId := userId
          hostAgreementVersion := none
          hostAgreementAcceptedAt := none
          defaultPoliciesAcceptedAt := none } }

/-- `recordHostAgreementAcceptance`. -/
def recordHostAgreementAcceptance (db : ListingDb) (now : Int) (hostId : HostId) : ListingDb :=
  { db with
    hosts := db.hosts.modify hostId fun h =>
      { h with
        hostAgreementVersion := some currentHostAgreementVersion
        hostAgreementAcceptedAt := some now
        defaultPoliciesAcceptedAt := some now } }

/-- `UPDATE host_profiles SET payout_account_status = $2`. -/
def setPayoutAccountStatus (db : ListingDb) (hostId : HostId) (status : PayoutAccountStatus) : ListingDb :=
  { db with hosts := db.hosts.modify hostId fun h => { h with payoutAccountStatus := status } }

/-! ## Transactions -/

/-- What runs as one transaction, or is one statement. -/
inductive ListingTx where
  | ensureHostProfile (userId : UserId)
  | recordHostAgreementAcceptance (now : Int) (hostId : HostId)
  | setPayoutAccountStatus (hostId : HostId) (status : PayoutAccountStatus)
  | registerUploadedPropertyImage (now : Int) (p : PropertyId) (userId : UserId)
      (blob : UploadedPropertyBlob)
  | setPropertyImageCover (p : PropertyId) (imageId : ImageId) (userId : UserId)
  | updatePropertyImageAltText (p : PropertyId) (imageId : ImageId) (userId : UserId)
      (altText : Option String)
  | reorderPropertyImages (p : PropertyId) (imageIds : List ImageId) (userId : UserId)
  | deletePropertyImage (p : PropertyId) (imageId : ImageId) (userId : UserId)
  | saveOwnerCompliance (now : Int) (p : PropertyId) (items : List OwnerComplianceItem)
      (submit : Bool)
  | reviewPropertyCompliance (now : Int) (p : PropertyId) (reviewer : UserId)
      (decision : ComplianceDecision) (note : String)
  | reviewPilotListing (now : Int) (p : PropertyId) (reviewer : UserId)
      (decision : PilotReviewDecision) (note : String)

def ListingTx.exec (db : ListingDb) : ListingTx → ListingDb
  | .ensureHostProfile userId => HostPlatform.ensureHostProfile db userId
  | .recordHostAgreementAcceptance now hostId => HostPlatform.recordHostAgreementAcceptance db now hostId
  | .setPayoutAccountStatus hostId status => HostPlatform.setPayoutAccountStatus db hostId status
  | .registerUploadedPropertyImage now p userId blob =>
    commit db (HostPlatform.registerUploadedPropertyImage db now p userId blob)
  | .setPropertyImageCover p imageId userId =>
    commit db (HostPlatform.setPropertyImageCover db p imageId userId)
  | .updatePropertyImageAltText p imageId userId altText =>
    commit db (HostPlatform.updatePropertyImageAltText db p imageId userId altText)
  | .reorderPropertyImages p imageIds userId =>
    commit db (HostPlatform.reorderPropertyImages db p imageIds userId)
  | .deletePropertyImage p imageId userId =>
    commit db (HostPlatform.deletePropertyImage db p imageId userId)
  | .saveOwnerCompliance now p items submit =>
    commit db (HostPlatform.saveOwnerCompliance db now p items submit)
  | .reviewPropertyCompliance now p reviewer decision note =>
    commit db (HostPlatform.reviewPropertyCompliance db now p reviewer decision note)
  | .reviewPilotListing now p reviewer decision note =>
    commit db (HostPlatform.reviewPilotListing db now p reviewer decision note)

/-! ## The system -/

structure Listings where
  db : ListingDb
  calls : Table PropertyCall

inductive ListingLabel where
  | transaction (t : ListingTx)
  /-- `POST /api/host/properties`: the row is inserted. -/
  | createProperty (hostId : HostId) (input : PropertyInput)
  /-- `PATCH /api/host/properties/[id]` arrives. -/
  | updateProperty (p : PropertyId) (input : PropertyInput)
  /-- The next statement of a call under way. -/
  | call (now : Int) (c : Nat)
  /-- A call dies, or its next statement fails. -/
  | callCrash (c : Nat)

namespace Listings

def start (db : ListingDb) : Listings := ⟨db, .empty⟩

/-- `setPropertyAmenities` follows the `INSERT` if amenities were submitted. -/
def createProperty (s : Listings) (hostId : HostId) (input : PropertyInput) : Listings :=
  match createPropertyForHost s.db hostId input with
  | .error _ => s
  | .ok (p, db) =>
    if input.amenityIds.getD [] = [] then { s with db := db }
    else ⟨db, s.calls.insertNew fun c => ⟨c, p, input, .clearAmenities⟩⟩

def stepCall (s : Listings) (now : Int) (c : Nat) : Listings :=
  match s.calls.find? c with
  | none => s
  | some call =>
    match stepPropertyCall s.db now call with
    | (some phase, db) => ⟨db, s.calls.modify c fun call => { call with phase := phase }⟩
    | (none, db) => ⟨db, s.calls.deleteWhere fun call => decide (call.id = c)⟩

def step (s : Listings) : ListingLabel → Listings
  | .transaction t => { s with db := t.exec s.db }
  | .createProperty hostId input => s.createProperty hostId input
  | .updateProperty p input =>
    { s with calls := s.calls.insertNew fun c => ⟨c, p, input, input.firstPhase⟩ }
  | .call now c => s.stepCall now c
  | .callCrash c => { s with calls := s.calls.deleteWhere fun call => decide (call.id = c) }

end Listings

end HostPlatform
