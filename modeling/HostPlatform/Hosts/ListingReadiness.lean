-- SUMMARY: The ten readiness checks of a listing, the assertion made before publishing, and the pilot review (`listingReadiness.ts`).
import HostPlatform.Hosts.Listing
import HostPlatform.Lib.Outcome

namespace HostPlatform

open Lib

def currentHostAgreementVersion : String := "pilot-2026-09"

def minimumListingImageCount : Nat := 3

inductive ListingReadinessKey where
  | basicDetails | guestCapacity | pricing | stayPolicy | privateLocation | images
  | hostAgreement | payoutAccount | compliance | pilotReview
  deriving DecidableEq, Repr

structure ListingReadinessCheck where
  key : ListingReadinessKey
  label : String
  ready : Bool
  guidance : String
  deriving DecidableEq, Repr

structure ListingReadinessReport where
  propertyId : PropertyId
  ready : Bool
  checks : List ListingReadinessCheck
  missing : List ListingReadinessCheck
  deriving DecidableEq, Repr

/-- The row of the readiness query: the listing joined with its host, and the counts. -/
structure ReadinessRow where
  listing : Listing
  host : ListingHost
  imageCount : Nat
  coverCount : Nat
  complianceItemCount : Nat
  incompleteComplianceCount : Nat
  expiredComplianceCount : Nat

/-! ## Checks -/

/-- What `trim` removes: white space and line terminators. -/
def isTrimmed (c : Char) : Bool :=
  [9, 10, 11, 12, 13, 32, 160, 5760, 8232, 8233, 8239, 8287, 12288, 65279].contains c.toNat ||
    (8192 ≤ c.toNat && c.toNat ≤ 8202)

def hasText (value : Option String) : Bool :=
  value.any fun text => text.toList.any fun c => !isTrimmed c

/-- `numberAtLeast`: the value is not `NULL` and at least the minimum. -/
def numberAtLeast (value : Option Int) (minimum : Int) : Bool :=
  value.any fun n => decide (minimum ≤ n)

/-- The stay limits are `INTEGER NOT NULL` and the times of day `TIME NOT NULL`, so the checks
that they are integers and set are left out. -/
def buildChecks (row : ReadinessRow) : List ListingReadinessCheck :=
  let listing := row.listing.content
  [ { key := .basicDetails
      label := "Listing details"
      ready := hasText (some listing.name) && hasText listing.propertyType &&
        hasText listing.description && hasText (some listing.city) &&
        decide (listing.countryCode = some "GB")
      guidance := "Add the property name, type, description, GB country code and city." },
    { key := .guestCapacity
      label := "Guest capacity"
      ready := numberAtLeast (some listing.maxGuests) 1 && numberAtLeast (some listing.bedrooms) 0 &&
        numberAtLeast (some listing.bathrooms) 0
      guidance := "Confirm the maximum guest count, bedrooms and bathrooms." },
    { key := .pricing
      label := "Pricing"
      ready := numberAtLeast listing.nightlyPrice 1 && decide (listing.currency = "GBP")
      guidance := "Set a positive nightly price in GBP." },
    { key := .stayPolicy
      label := "Stay and cancellation policy"
      ready := decide (1 ≤ listing.minStayNights) && decide (listing.maxStayNights ≤ 365) &&
        decide (listing.minStayNights ≤ listing.maxStayNights) &&
        listing.cancellationPolicyId.isSome
      guidance :=
        "Set valid stay limits, check-in/check-out times and a cancellation policy." },
    { key := .privateLocation
      label := "Private address"
      -- the public point is derived from the private one by a trigger, and set exactly with it
      ready := hasText listing.addressLine1 && hasText listing.postalTown &&
        hasText listing.postcode && listing.privateLocation.isSome
      guidance := "Add the complete private address and exact map coordinates." },
    { key := .images
      label := "Property images"
      ready := decide (minimumListingImageCount ≤ row.imageCount) && decide (row.coverCount = 1)
      guidance := s!"Upload at least {minimumListingImageCount} property images and select one cover image." },
    { key := .hostAgreement
      label := "Host agreement"
      ready := decide (row.host.hostAgreementVersion = some currentHostAgreementVersion) &&
        row.host.hostAgreementAcceptedAt.isSome && row.host.defaultPoliciesAcceptedAt.isSome
      guidance := "Accept the current HOST host agreement and pilot policies." },
    { key := .payoutAccount
      label := "Stripe payout account"
      ready := decide (row.host.payoutAccountStatus = .active)
      guidance := "Complete Stripe onboarding until transfers are active." },
    { key := .compliance
      label := "Property compliance"
      ready := decide (row.listing.complianceStatus = .approved) &&
        decide (0 < row.complianceItemCount) && decide (row.incompleteComplianceCount = 0) &&
        decide (row.expiredComplianceCount = 0)
      guidance := "Submit all required compliance information and obtain HOST approval." },
    { key := .pilotReview
      label := "HOST pilot review"
      ready := decide (row.listing.pilotReviewStatus = .approved)
      guidance := "Wait for HOST to complete and approve the manual pilot review." } ]

/-! ## The report -/

/-- The categories in the order of their column texts. -/
def ComplianceCategory.all : List ComplianceCategory :=
  [ .authorityToList, .electricalSafety, .fireSafety, .gasSafety, .licencesPermissions,
    .publicLiabilityInsurance, .smokeCoAlarms ]

/-- `SELECT * FROM property_compliance_items WHERE property_id = $1 ORDER BY category`. -/
def ListingDb.itemsOf (db : ListingDb) (p : PropertyId) :
    List (ComplianceCategory × ComplianceRecord) :=
  ComplianceCategory.all.filterMap fun category =>
    (db.complianceItems p category).map fun item => (category, item)

/-- A row of `incomplete_compliance_count`. -/
def ComplianceRecord.incomplete (item : ComplianceRecord) : Bool :=
  decide (item.reviewStatus ≠ .approved) ||
    (decide (item.applicability = .required) &&
      (!item.ownerDeclaredCompliant || item.evidenceUrl.isNone)) ||
    (decide (item.applicability = .notApplicable) &&
      decide ((item.evidenceReference.getD "").length < 8))

/-- A row of `expired_compliance_count`. -/
def ComplianceRecord.expired (item : ComplianceRecord) (today : Int) : Bool :=
  decide (item.applicability = .required) && item.validUntil.any fun d => decide (d < today)

def ListingDb.readinessRow (db : ListingDb) (today : Int) (p : PropertyId) : Option ReadinessRow :=
  match db.listings.find? p with
  | none => none
  | some listing =>
    (db.hosts.find? listing.hostId).map fun host =>
      { listing := listing
        host := host
        imageCount := (db.imagesOf p).length
        coverCount := ((db.imagesOf p).filter PropertyImage.isCover).length
        complianceItemCount := (db.itemsOf p).length
        incompleteComplianceCount := ((db.itemsOf p).filter fun i => i.2.incomplete).length
        expiredComplianceCount := ((db.itemsOf p).filter fun i => i.2.expired today).length }

def reportOf (row : ReadinessRow) : ListingReadinessReport :=
  let checks := buildChecks row
  let missing := checks.filter fun check => !check.ready
  { propertyId := row.listing.id
    ready := missing.isEmpty
    checks := checks
    missing := missing }

def getListingReadiness (db : ListingDb) (now : Int) (p : PropertyId) : Option ListingReadinessReport :=
  (db.readinessRow (currentDate now) p).map reportOf

/-- `ListingReadinessError`. -/
def listingReadinessError (missing : List ListingReadinessCheck) : ListingError where
  code := "LISTING_NOT_READY"
  status := 409
  message :=
    if missing.isEmpty then "The listing is not ready to publish."
    else "Complete these listing requirements before publishing: " ++
      ", ".intercalate (missing.map ListingReadinessCheck.label) ++ "."

def assertListingReady (db : ListingDb) (now : Int) (p : PropertyId) :
    Except ListingError ListingReadinessReport :=
  match getListingReadiness db now p with
  | none => .error (.plain "Property not found.")
  | some report =>
    if report.ready then .ok report else .error (listingReadinessError report.missing)

/-! ## Pilot review -/

inductive PilotReviewDecision where
  | approved | changesRequired
  deriving DecidableEq, Repr

def PilotReviewDecision.status : PilotReviewDecision → PilotReviewStatus
  | .approved => .approved
  | .changesRequired => .changesRequired

/-- `value || null`. -/
def orNull (value : String) : Option String := if value = "" then none else some value

def trim (value : String) : String :=
  String.ofList ((value.toList.dropWhile isTrimmed).reverse.dropWhile isTrimmed).reverse

/-- The columns a pilot review sets. -/
def Listing.setPilotReview (now : Int) (reviewer : UserId) (decision : PilotReviewDecision)
    (note : String) (r : Listing) : Listing :=
  { r with
    pilotReviewStatus := decision.status
    pilotReviewedAt := some now
    pilotReviewedBy := some reviewer
    pilotReviewNote := orNull (trim note) }

def reviewPilotListing (db : ListingDb) (now : Int) (p : PropertyId) (reviewer : UserId)
    (decision : PilotReviewDecision) (note : String) :
    Except ListingError (ListingReadinessReport × ListingDb) := do
  let some report := getListingReadiness db now p | throw (.plain "Property not found.")
  if decision = .approved then
    let blockers := report.missing.filter fun check => decide (check.key ≠ .pilotReview)
    require blockers.isEmpty (listingReadinessError blockers)
  let db' := db.updateListing p (Listing.setPilotReview now reviewer decision note)
  let some updated := getListingReadiness db' now p | throw (.plain "Property not found.")
  return (updated, db')

end HostPlatform
