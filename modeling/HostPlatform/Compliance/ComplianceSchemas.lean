-- SUMMARY: What the routes of the compliance record admit (`schemas.ts`), and the calls they make.
import HostPlatform.Compliance.PropertyCompliance
import HostPlatform.Lib.CivilDate

namespace HostPlatform

open Lib

structure ValidationIssue where
  path : List String
  message : String
  deriving DecidableEq, Repr

/-- `validationErrorResponse`. -/
def validationErrorResponse (issues : List ValidationIssue) : ListingError where
  code := "INVALID_INPUT"
  status := 400
  message := "; ".intercalate (issues.map fun issue => ".".intercalate issue.path ++ ": " ++ issue.message)

def issueIf (c : Bool) (path : List String) (message : String) : List ValidationIssue :=
  if c then [⟨path, message⟩] else []

/-- `text.length`. -/
def utf16Length (text : String) : Nat :=
  (text.toList.map fun c => if 0x10000 ≤ c.toNat then 2 else 1).sum

/-- `.max(maximum)` of an optional text. -/
def maxIssue (path : List String) (maximum : Nat) (value : Option String) : List ValidationIssue :=
  issueIf (value.any fun text => decide (maximum < utf16Length text)) path
    s!"String must contain at most {maximum} character(s)"

/-! ## The owner's items -/

/-- An item of the request: an absent text and `null` are both `none`. -/
structure ComplianceItemBody where
  category : ComplianceCategory
  applicability : Applicability
  ownerDeclaredCompliant : Bool
  evidenceUrl : Option String
  evidenceReference : Option String
  validUntil : Option String
  ownerNote : Option String
  deriving DecidableEq, Repr

structure OwnerComplianceBody where
  submit : Bool
  items : List ComplianceItemBody
  deriving DecidableEq, Repr

def ComplianceItemBody.trimmed (item : ComplianceItemBody) : ComplianceItemBody :=
  { item with
    evidenceUrl := item.evidenceUrl.map trim
    evidenceReference := item.evidenceReference.map trim
    ownerNote := item.ownerNote.map trim }

/-- The numbers of a text matching `^\d{4}-\d{2}-\d{2}$`. -/
def dateNumbers (text : String) : Option (Nat × Nat × Nat) :=
  let number (cs : List Char) : Nat := cs.foldl (fun n c => n * 10 + (c.toNat - 48)) 0
  match text.toList with
  | [y₁, y₂, y₃, y₄, '-', m₁, m₂, '-', d₁, d₂] =>
    if [y₁, y₂, y₃, y₄, m₁, m₂, d₁, d₂].all Char.isDigit then
      some (number [y₁, y₂, y₃, y₄], number [m₁, m₂], number [d₁, d₂])
    else none
  | _ => none

/-- What the schema of one item refuses. -/
def complianceItemIssues (index : Nat) (item : ComplianceItemBody) : List ValidationIssue :=
  let at_ (field : String) : List String := ["items", toString index, field]
  maxIssue (at_ "evidenceUrl") 2048 item.evidenceUrl ++
    maxIssue (at_ "evidenceReference") 200 item.evidenceReference ++
    issueIf (item.validUntil.any fun text => decide (text ≠ "") && (dateNumbers text).isNone)
      (at_ "validUntil") "Invalid" ++
    maxIssue (at_ "ownerNote") 1000 item.ownerNote

def conditionallyApplicableComplianceCategories : List ComplianceCategory :=
  [.gasSafety, .licencesPermissions]

/-- `superRefine`, for one item. `validHttpsUrl` is `new URL(text).protocol === "https:"`, and
false where `URL` throws. -/
def complianceItemRefinements (validHttpsUrl : String → Bool) (submit : Bool) (index : Nat)
    (item : ComplianceItemBody) : List ValidationIssue :=
  issueIf (decide (item.applicability = .notApplicable) &&
      !conditionallyApplicableComplianceCategories.contains item.category)
      ["items", toString index, "applicability"] "This core compliance check is always required" ++
    issueIf (submit && decide (item.applicability = .required) && !validHttpsUrl (item.evidenceUrl.getD ""))
      ["items", toString index, "evidenceUrl"] "Enter a valid HTTPS evidence link"

def ownerComplianceIssues (validHttpsUrl : String → Bool) (submit : Bool) (items : List ComplianceItemBody) :
    List ValidationIssue :=
  issueIf (decide (items.length ≠ 7)) ["items"] "Array must contain exactly 7 element(s)" ++
    items.zipIdx.flatMap (fun i => complianceItemIssues i.2 i.1) ++
    issueIf (decide ((items.map ComplianceItemBody.category).dedup.length ≠ 7)) ["items"]
      "Each compliance category must appear exactly once" ++
    items.zipIdx.flatMap fun i => complianceItemRefinements validHttpsUrl submit i.2 i.1

/-- `ownerComplianceSchema`. -/
def ownerComplianceSchema (validHttpsUrl : String → Bool) (body : OwnerComplianceBody) :
    Except ListingError OwnerComplianceBody := do
  let items := body.items.map ComplianceItemBody.trimmed
  let issues := ownerComplianceIssues validHttpsUrl body.submit items
  require issues.isEmpty (validationErrorResponse issues)
  return { body with items := items }

/-- The text as the `date` column takes it: a date that exists, and there is no year 0. -/
def validUntilColumn (text : String) : Except ListingError Int :=
  match (dateNumbers text).bind fun n => CivilDate.ofNumbers? n.1 n.2.1 n.2.2 with
  | some date =>
    if date.year = 0 then .error (.plain "date/time field value out of range")
    else .ok date.toDays
  | none => .error (.plain "date/time field value out of range")

/-- The item with its date as a value of the column; the date of an item that does not apply is
never sent. -/
def ComplianceItemBody.columns (item : ComplianceItemBody) : Except ListingError OwnerComplianceItem := do
  let sent := if item.applicability = .required then item.validUntil.bind orNull else none
  let validUntil ← match sent with
    | some text => some <$> validUntilColumn text
    | none => pure none
  return {
    category := item.category
    applicability := item.applicability
    ownerDeclaredCompliant := item.ownerDeclaredCompliant
    evidenceUrl := item.evidenceUrl
    evidenceReference := item.evidenceReference
    validUntil := validUntil
    ownerNote := item.ownerNote }

/-- `PUT` of the owner's record: what the schema refuses is answered before any statement. -/
def putOwnerCompliance (validHttpsUrl : String → Bool) (db : ListingDb) (now : Int) (p : PropertyId)
    (body : OwnerComplianceBody) : Except ListingError (ComplianceStatus × ListingDb) := do
  let parsed ← ownerComplianceSchema validHttpsUrl body
  let items ← parsed.items.mapM ComplianceItemBody.columns
  saveOwnerCompliance db now p items parsed.submit

/-! ## The reviewer's decision -/

structure AdminComplianceReviewBody where
  decision : ComplianceDecision
  note : String
  deriving DecidableEq, Repr

/-- `adminComplianceReviewSchema`. -/
def adminComplianceReviewSchema (body : AdminComplianceReviewBody) :
    Except ListingError AdminComplianceReviewBody := do
  let note := trim body.note
  let issues :=
    issueIf (decide (utf16Length note < 8)) ["note"] "Review note must be at least 8 characters" ++
      maxIssue ["note"] 2000 (some note)
  require issues.isEmpty (validationErrorResponse issues)
  return { body with note := note }

/-- `PATCH` of the review. -/
def patchComplianceReview (db : ListingDb) (now : Int) (p : PropertyId) (reviewer : UserId)
    (body : AdminComplianceReviewBody) : Except ListingError (ComplianceStatus × ListingDb) := do
  let parsed ← adminComplianceReviewSchema body
  reviewPropertyCompliance db now p reviewer parsed.decision parsed.note

end HostPlatform
