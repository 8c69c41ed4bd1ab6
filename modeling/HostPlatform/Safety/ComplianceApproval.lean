-- SUMMARY: What an approved compliance record consists of in every reachable state, and what an approval and a save do to readiness.
import HostPlatform.Compliance.ComplianceSchemas
import HostPlatform.Safety.ReviewedListing

/-!
# Compliance approval

Completeness is asked three times: of the items that are there when the owner submits, of all
seven when the reviewer approves, and by the readiness query of the items that are not complete.
-/

namespace HostPlatform

open Lib Lib.Transition

/-! ## The three forms of completeness -/

namespace ComplianceRecord

variable {item : ComplianceRecord} {today : Int}

theorem incomplete_of_complete (h : item.complete today) (happroved : item.reviewStatus = .approved) :
    item.incomplete = false := by
  simp only [complete, Bool.or_eq_true, Bool.and_eq_true, decide_eq_true_eq] at h
  rcases h with ⟨hkind, hreference⟩ | ⟨⟨⟨hkind, hdeclared⟩, hurl⟩, -⟩
  · simp [incomplete, happroved, hkind, hreference]
  · simp [incomplete, happroved, hkind, hdeclared, hurl]

theorem expired_of_complete (h : item.complete today) : item.expired today = false := by
  simp only [complete, Bool.or_eq_true, Bool.and_eq_true, decide_eq_true_eq] at h
  rcases h with ⟨hkind, -⟩ | ⟨⟨⟨hkind, -⟩, -⟩, hvalid⟩
  · simp [expired, hkind]
  · cases hdate : item.validUntil with
    | none => simp [expired, hdate]
    | some d =>
      have hd : today ≤ d := by simpa [hdate] using hvalid
      simpa [expired, hkind, hdate] using hd

end ComplianceRecord

theorem ComplianceCategory.mem_all (category : ComplianceCategory) : category ∈ ComplianceCategory.all := by
  cases category <;> decide

theorem mem_itemsOf {db : ListingDb} {p : PropertyId} {i : ComplianceCategory × ComplianceRecord} :
    i ∈ db.itemsOf p ↔ db.complianceItems p i.1 = some i.2 := by
  unfold ListingDb.itemsOf
  rw [List.mem_filterMap]
  constructor
  · rintro ⟨category, -, h⟩
    obtain ⟨item, hitem, rfl⟩ := Option.map_eq_some_iff.mp h
    exact hitem
  · intro h
    exact ⟨i.1, i.1.mem_all, by rw [h]; rfl⟩

/-- As many complete items as there are categories: every category has one. -/
theorem complete_of_length {db : ListingDb} {p : PropertyId} {today : Int}
    (h : ((db.itemsOf p).filter fun i => i.2.complete today).length = ComplianceCategory.all.length)
    (category : ComplianceCategory) :
    ∃ item, db.complianceItems p category = some item ∧ item.complete today := by
  have hfilter := List.length_filter_le (fun i => i.2.complete today) (db.itemsOf p)
  have hitems : (db.itemsOf p).length ≤ ComplianceCategory.all.length := List.length_filterMap_le ..
  have hevery : (db.itemsOf p).length = ComplianceCategory.all.length := by omega
  have hcomplete := List.length_filter_eq_length_iff.mp (h.trans hevery.symm)
  obtain ⟨item, hitem⟩ : ∃ item, db.complianceItems p category = some item := by
    have hsome := List.filterMap_length_eq_length.mp hevery category category.mem_all
    rw [Option.isSome_map] at hsome
    exact Option.isSome_iff_exists.mp hsome
  exact ⟨item, hitem, hcomplete (category, item) (mem_itemsOf.mpr hitem)⟩

/-! ## The readiness check -/

/-- The check `compliance` of the readiness report. -/
def complianceReady (db : ListingDb) (now : Int) (p : PropertyId) : Option Bool :=
  (getListingReadiness db now p).bind fun report =>
    (report.checks.find? fun check => decide (check.key = .compliance)).map ListingReadinessCheck.ready

theorem complianceReady_eq (db : ListingDb) (now : Int) (p : PropertyId) :
    complianceReady db now p = (db.readinessRow (currentDate now) p).map fun row =>
      decide (row.listing.complianceStatus = .approved) && decide (0 < row.complianceItemCount) &&
        decide (row.incompleteComplianceCount = 0) && decide (row.expiredComplianceCount = 0) := by
  unfold complianceReady getListingReadiness
  cases db.readinessRow (currentDate now) p <;> rfl

/-- Nothing is ready but an approved record. -/
theorem approved_of_complianceReady {db : ListingDb} {now : Int} {p : PropertyId}
    (h : complianceReady db now p = some true) :
    ∃ listing, db.listings.find? p = some listing ∧ listing.complianceStatus = .approved := by
  rw [complianceReady_eq] at h
  obtain ⟨row, hrow, h⟩ := Option.map_eq_some_iff.mp h
  unfold ListingDb.readinessRow at hrow
  split at hrow
  · cases hrow
  · rename_i listing hlisting
    obtain ⟨host, -, rfl⟩ := Option.map_eq_some_iff.mp hrow
    simp only [Bool.and_eq_true, decide_eq_true_eq] at h
    exact ⟨listing, hlisting, h.1.1.1⟩

/-- All seven items are there, approved, and complete on the day. -/
def ListingDb.ItemsApproved (db : ListingDb) (p : PropertyId) (reviewer : UserId) (today : Int) : Prop :=
  ∀ category, ∃ item, db.complianceItems p category = some item ∧ item.reviewStatus = .approved ∧
    item.reviewedBy = some reviewer ∧ item.complete today

theorem complianceReady_of_approved {db : ListingDb} {now : Int} {p : PropertyId} {listing : Listing}
    {host : ListingHost} {reviewer : UserId} (hlisting : db.listings.find? p = some listing)
    (hhost : db.hosts.find? listing.hostId = some host) (happroved : listing.complianceStatus = .approved)
    (hitems : db.ItemsApproved p reviewer (currentDate now)) : complianceReady db now p = some true := by
  have hitem : ∀ i ∈ db.itemsOf p, i.2.incomplete = false ∧ i.2.expired (currentDate now) = false := by
    intro i hi
    obtain ⟨item, hitem, hreview, -, hcomplete⟩ := hitems i.1
    obtain rfl : i.2 = item := Option.some.inj ((mem_itemsOf.mp hi).symm.trans hitem)
    exact ⟨ComplianceRecord.incomplete_of_complete hcomplete hreview,
      ComplianceRecord.expired_of_complete hcomplete⟩
  have hcount : 0 < (db.itemsOf p).length := by
    obtain ⟨item, hfound, -⟩ := hitems .fireSafety
    exact List.length_pos_of_mem (mem_itemsOf (i := (.fireSafety, item)) |>.mpr hfound)
  have hincomplete : (db.itemsOf p).filter (fun i => i.2.incomplete) = [] :=
    List.filter_eq_nil_iff.mpr fun i hi => by simp [(hitem i hi).1]
  have hexpired : (db.itemsOf p).filter (fun i => i.2.expired (currentDate now)) = [] :=
    List.filter_eq_nil_iff.mpr fun i hi => by simp [(hitem i hi).2]
  rw [complianceReady_eq]
  unfold ListingDb.readinessRow
  simp [hlisting, hhost, happroved, hcount, hincomplete, hexpired]

/-! ## What the calls do -/

@[simp] theorem complianceStatus_invalidatePropertyPilotReview (old new : Listing) :
    (invalidatePropertyPilotReview old new).complianceStatus = new.complianceStatus := by
  unfold invalidatePropertyPilotReview
  split <;> rfl

@[simp] theorem complianceApprovedAt_invalidatePropertyPilotReview (old new : Listing) :
    (invalidatePropertyPilotReview old new).complianceApprovedAt = new.complianceApprovedAt := by
  unfold invalidatePropertyPilotReview
  split <;> rfl

@[simp] theorem complianceApprovedBy_invalidatePropertyPilotReview (old new : Listing) :
    (invalidatePropertyPilotReview old new).complianceApprovedBy = new.complianceApprovedBy := by
  unfold invalidatePropertyPilotReview
  split <;> rfl

@[simp] theorem hostId_invalidatePropertyPilotReview (old new : Listing) :
    (invalidatePropertyPilotReview old new).hostId = new.hostId := by
  unfold invalidatePropertyPilotReview
  split <;> rfl

theorem upsertComplianceItems_frame {now : Int} {p : PropertyId} {items : List OwnerComplianceItem}
    {db db' : ListingDb} (h : items.foldlM (upsertComplianceItem now p) db = .ok db') :
    db'.listings = db.listings ∧ db'.hosts = db.hosts ∧ ∀ q, q ≠ p → db'.complianceItems q = db.complianceItems q := by
  induction items generalizing db with
  | nil =>
    cases h
    exact ⟨rfl, rfl, fun _ _ => rfl⟩
  | cons item items ih =>
    obtain ⟨db₁, hitem, h⟩ := bind_eq_ok.mp h
    obtain ⟨-, -, hitem⟩ := bind_eq_ok.mp hitem
    obtain ⟨-, -, hitem⟩ := bind_eq_ok.mp hitem
    cases hitem
    obtain ⟨hlistings, hhosts, hothers⟩ := ih h
    refine ⟨hlistings, hhosts, fun q hq => (hothers q hq).trans ?_⟩
    funext category
    simp [ListingDb.setComplianceItem, hq]

theorem saveOwnerCompliance_eq_ok {db db' : ListingDb} {now : Int} {p : PropertyId}
    {items : List OwnerComplianceItem} {submit : Bool} {status : ComplianceStatus}
    (h : saveOwnerCompliance db now p items submit = .ok (status, db')) :
    ∃ db₁ : ListingDb, (db₁.listings = db.listings ∧ db₁.hosts = db.hosts ∧
      ∀ q, q ≠ p → db₁.complianceItems q = db.complianceItems q) ∧
      db' = db₁.updateListing p (Listing.setOwnerCompliance now submit) := by
  obtain ⟨db₁, hitems, h⟩ := bind_eq_ok.mp h
  refine ⟨db₁, upsertComplianceItems_frame hitems, ?_⟩
  cases submit with
  | false =>
    cases h
    rfl
  | true =>
    dsimp only [if_pos] at h
    obtain ⟨-, -, h⟩ := bind_eq_ok.mp h
    cases h
    rfl

/-- What a review that returns has found. -/
structure Reviewable (db : ListingDb) (now : Int) (p : PropertyId) (reviewer : UserId)
    (decision : ComplianceDecision) (listing : Listing) (host : ListingHost) : Prop where
  found : db.listings.find? p = some listing
  hosted : db.hosts.find? listing.hostId = some host
  submitted : listing.complianceStatus = .submitted
  notOwner : host.userId ≠ reviewer
  complete : decision = .approved → ∀ category, ∃ item,
    db.complianceItems p category = some item ∧ item.complete (currentDate now)

theorem reviewPropertyCompliance_eq_ok {db db' : ListingDb} {now : Int} {p : PropertyId} {reviewer : UserId}
    {decision : ComplianceDecision} {note : String} {status : ComplianceStatus}
    (h : reviewPropertyCompliance db now p reviewer decision note = .ok (status, db')) :
    (∃ listing host, Reviewable db now p reviewer decision listing host) ∧
      db' = (db.reviewItems now p reviewer decision note).updateListing p
        (Listing.setComplianceReview now reviewer decision note) := by
  unfold reviewPropertyCompliance at h
  split at h
  · rename_i listing hlisting
    split at h
    · rename_i host hhost
      obtain ⟨_, hsubmitted, h⟩ := bind_eq_ok.mp h
      obtain ⟨_, howner, h⟩ := bind_eq_ok.mp h
      split at h
      · dsimp only at h
        obtain ⟨_, hcomplete, h⟩ := bind_eq_ok.mp h
        cases h
        exact ⟨⟨listing, host, hlisting, hhost, require_eq_ok.mp hsubmitted, require_eq_ok.mp howner,
          fun _ => complete_of_length (require_eq_ok.mp hcomplete)⟩, rfl⟩
      · rename_i hdecision
        cases h
        exact ⟨⟨listing, host, hlisting, hhost, require_eq_ok.mp hsubmitted, require_eq_ok.mp howner,
          fun happroved => absurd happroved hdecision⟩, rfl⟩
    · cases h
  · cases h

/-! ## Runs -/

/-- The calls of the two routes. -/
inductive ComplianceCall where
  | saveOwnerCompliance (now : Int) (p : PropertyId) (body : OwnerComplianceBody)
  | reviewPropertyCompliance (now : Int) (p : PropertyId) (reviewer : UserId) (body : AdminComplianceReviewBody)

section Calls

variable (validHttpsUrl : String → Bool)

def ComplianceCall.result (db : ListingDb) : ComplianceCall → Except ListingError (ComplianceStatus × ListingDb)
  | .saveOwnerCompliance now p body => putOwnerCompliance validHttpsUrl db now p body
  | .reviewPropertyCompliance now p reviewer body => patchComplianceReview db now p reviewer body

def complianceStep (db : ListingDb) (c : ComplianceCall) : ListingDb := commit db (c.result validHttpsUrl db)

end Calls

/-- What a step leaves of the tables. -/
inductive ComplianceChange (db : ListingDb) (c : ComplianceCall) : ListingDb → Prop
  | same : ComplianceChange db c db
  | saved (db₁ : ListingDb) (now : Int) (p : PropertyId) (submit : Bool)
      (hframe : db₁.listings = db.listings ∧ db₁.hosts = db.hosts ∧
        ∀ q, q ≠ p → db₁.complianceItems q = db.complianceItems q) :
      ComplianceChange db c (db₁.updateListing p (Listing.setOwnerCompliance now submit))
  | reviewed (now : Int) (p : PropertyId) (reviewer : UserId) (body parsed : AdminComplianceReviewBody)
      (listing : Listing) (host : ListingHost) (hc : c = .reviewPropertyCompliance now p reviewer body)
      (hdecision : parsed.decision = body.decision)
      (h : Reviewable db now p reviewer parsed.decision listing host) :
      ComplianceChange db c ((db.reviewItems now p reviewer parsed.decision parsed.note).updateListing p
        (Listing.setComplianceReview now reviewer parsed.decision parsed.note))

theorem putOwnerCompliance_eq_ok {validHttpsUrl : String → Bool} {db db' : ListingDb} {now : Int} {p : PropertyId}
    {body : OwnerComplianceBody} {status : ComplianceStatus}
    (h : putOwnerCompliance validHttpsUrl db now p body = .ok (status, db')) :
    ∃ (db₁ : ListingDb) (submit : Bool), (db₁.listings = db.listings ∧ db₁.hosts = db.hosts ∧
      ∀ q, q ≠ p → db₁.complianceItems q = db.complianceItems q) ∧
      db' = db₁.updateListing p (Listing.setOwnerCompliance now submit) := by
  obtain ⟨parsed, -, h⟩ := bind_eq_ok.mp h
  obtain ⟨items, -, h⟩ := bind_eq_ok.mp h
  obtain ⟨db₁, hframe, hdb⟩ := saveOwnerCompliance_eq_ok h
  exact ⟨db₁, parsed.submit, hframe, hdb⟩

theorem patchComplianceReview_eq_ok {db db' : ListingDb} {now : Int} {p : PropertyId} {reviewer : UserId}
    {body : AdminComplianceReviewBody} {status : ComplianceStatus}
    (h : patchComplianceReview db now p reviewer body = .ok (status, db')) :
    ∃ parsed : AdminComplianceReviewBody, parsed.decision = body.decision ∧
      reviewPropertyCompliance db now p reviewer parsed.decision parsed.note = .ok (status, db') := by
  obtain ⟨parsed, hparsed, h⟩ := bind_eq_ok.mp h
  obtain ⟨-, -, hparsed⟩ := bind_eq_ok.mp hparsed
  cases hparsed
  exact ⟨{ body with note := trim body.note }, rfl, h⟩

theorem complianceStep_change (validHttpsUrl : String → Bool) (db : ListingDb) (c : ComplianceCall) :
    ComplianceChange db c (complianceStep validHttpsUrl db c) := by
  refine commit_of (P := fun db' : ListingDb => ComplianceChange db c db') .same fun status db' h => ?_
  cases c with
  | saveOwnerCompliance now p body =>
    obtain ⟨db₁, submit, hframe, rfl⟩ := putOwnerCompliance_eq_ok h
    exact .saved db₁ now p submit hframe
  | reviewPropertyCompliance now p reviewer body =>
    obtain ⟨parsed, hdecision, h⟩ := patchComplianceReview_eq_ok h
    obtain ⟨⟨listing, host, hreviewable⟩, rfl⟩ := reviewPropertyCompliance_eq_ok h
    exact .reviewed now p reviewer body parsed listing host rfl hdecision hreviewable

/-! ## Approved records -/

structure ComplianceApproval where
  propertyId : PropertyId
  reviewer : UserId
  now : Int

/-- The call approves the submitted record of a property whose host is another user. -/
def ApprovesSubmitted (db : ListingDb) (c : ComplianceCall) (a : ComplianceApproval) : Prop :=
  ∃ body listing host, c = .reviewPropertyCompliance a.now a.propertyId a.reviewer body ∧
    body.decision = .approved ∧ Reviewable db a.now a.propertyId a.reviewer .approved listing host

/-- The listing is as the approval left it. -/
structure ApprovedAs (db : ListingDb) (a : ComplianceApproval) (listing : Listing) : Prop where
  approvedAt : listing.complianceApprovedAt = some a.now
  approvedBy : listing.complianceApprovedBy = some a.reviewer
  notOwner : ∃ host, db.hosts.find? listing.hostId = some host ∧ host.userId ≠ a.reviewer
  items : db.ItemsApproved a.propertyId a.reviewer (currentDate a.now)

/-- Every approved listing is as an approval among these left it. -/
def ApprovedBy (db : ListingDb) (approvals : ComplianceApproval → Prop) : Prop :=
  ∀ p listing, db.listings.find? p = some listing → listing.complianceStatus = .approved →
    ∃ a, approvals a ∧ a.propertyId = p ∧ ApprovedAs db a listing

theorem itemsApproved_reviewItems {db : ListingDb} {now : Int} {p : PropertyId} {reviewer : UserId} {note : String}
    (hcomplete : ∀ category, ∃ item, db.complianceItems p category = some item ∧ item.complete (currentDate now)) :
    (db.reviewItems now p reviewer .approved note).ItemsApproved p reviewer (currentDate now) := by
  intro category
  obtain ⟨item, hitem, h⟩ := hcomplete category
  let reviewed : ComplianceRecord :=
    { item with
      reviewStatus := .approved
      reviewedAt := some now
      reviewedBy := some reviewer
      reviewerNote := some note }
  refine ⟨reviewed, ?_, rfl, rfl, h⟩
  simp only [ListingDb.reviewItems, if_true, hitem, Option.map_some]
  rfl

/-- What one call keeps: a save takes its record back to the owner, a review approves all seven items. -/
theorem approvedBy_step {validHttpsUrl : String → Bool} {db : ListingDb} {approvals : ComplianceApproval → Prop}
    (h : ApprovedBy db approvals) (c : ComplianceCall) :
    ApprovedBy (complianceStep validHttpsUrl db c) (fun a => approvals a ∨ ApprovesSubmitted db c a) := by
  have hchange := complianceStep_change validHttpsUrl db c
  intro p listing hlisting happroved
  generalize complianceStep validHttpsUrl db c = db' at hchange hlisting
  cases hchange with
  | same =>
    obtain ⟨a, ha, hp, hkept⟩ := h p listing hlisting happroved
    exact ⟨a, .inl ha, hp, hkept⟩
  | saved db₁ now q submit hframe =>
    obtain ⟨hlistings, hhosts, hitems⟩ := hframe
    rw [db₁.find?_updateListing q (Listing.setOwnerCompliance now submit) (fun _ => rfl), hlistings] at hlisting
    split at hlisting
    · obtain ⟨r, -, rfl⟩ := Option.map_eq_some_iff.mp hlisting
      rw [complianceStatus_invalidatePropertyPilotReview] at happroved
      cases submit <;> cases happroved
    · rename_i hq
      obtain ⟨a, ha, rfl, hkept⟩ := h p listing hlisting happroved
      refine ⟨a, .inl ha, rfl, hkept.approvedAt, hkept.approvedBy, ?_, ?_⟩
      · exact hhosts ▸ hkept.notOwner
      · intro category
        exact (hitems a.propertyId hq).symm ▸ hkept.items category
  | reviewed now q reviewer body parsed old host hc hdecision hreview =>
    have hfound := (db.reviewItems now q reviewer parsed.decision parsed.note).find?_updateListing q
      (Listing.setComplianceReview now reviewer parsed.decision parsed.note) (fun _ => rfl) p
    rw [hfound] at hlisting
    split at hlisting
    · rename_i hq
      subst hq
      obtain ⟨r, hr, rfl⟩ := Option.map_eq_some_iff.mp hlisting
      obtain rfl : old = r := Option.some.inj (hreview.found.symm.trans hr)
      rw [complianceStatus_invalidatePropertyPilotReview] at happroved
      have hyes : parsed.decision = .approved := by
        generalize parsed.decision = decision at happroved
        cases decision
        · rfl
        · cases happroved
      refine ⟨⟨p, reviewer, now⟩, .inr ⟨body, old, host, hc, hdecision ▸ hyes, hyes ▸ hreview⟩, rfl, ?_⟩
      constructor
      case approvedAt => simp [Listing.setComplianceReview, hyes]
      case approvedBy => simp [Listing.setComplianceReview, hyes]
      case notOwner =>
        rw [hostId_invalidatePropertyPilotReview]
        exact ⟨host, hreview.hosted, hreview.notOwner⟩
      case items =>
        rw [hyes]
        exact itemsApproved_reviewItems (hreview.complete hyes)
    · rename_i hq
      obtain ⟨a, ha, rfl, hkept⟩ := h p listing hlisting happroved
      refine ⟨a, .inl ha, rfl, hkept.approvedAt, hkept.approvedBy, hkept.notOwner, ?_⟩
      intro category
      obtain ⟨item, hitem, hrest⟩ := hkept.items category
      refine ⟨item, ?_, hrest⟩
      simp only [ListingDb.updateListing, ListingDb.reviewItems, if_neg hq]
      exact hitem

/-- A save that returns leaves nothing ready. -/
theorem not_complianceReady_saved {validHttpsUrl : String → Bool} {db db' : ListingDb} {now : Int} {p : PropertyId}
    {body : OwnerComplianceBody} {status : ComplianceStatus}
    (h : putOwnerCompliance validHttpsUrl db now p body = .ok (status, db')) (later : Int) :
    complianceReady db' later p ≠ some true := by
  obtain ⟨db₁, submit, -, rfl⟩ := putOwnerCompliance_eq_ok h
  intro hready
  obtain ⟨listing, hlisting, happroved⟩ := approved_of_complianceReady hready
  rw [db₁.find?_updateListing p (Listing.setOwnerCompliance now submit) (fun _ => rfl), if_pos rfl] at hlisting
  obtain ⟨r, -, rfl⟩ := Option.map_eq_some_iff.mp hlisting
  rw [complianceStatus_invalidatePropertyPilotReview] at happroved
  cases submit <;> cases happroved

theorem complianceReady_reviewed {db db' : ListingDb} {now : Int} {p : PropertyId} {reviewer : UserId}
    {body : AdminComplianceReviewBody} {status : ComplianceStatus} (hdecision : body.decision = .approved)
    (h : patchComplianceReview db now p reviewer body = .ok (status, db')) {later : Int}
    (hlater : currentDate later = currentDate now) : complianceReady db' later p = some true := by
  obtain ⟨parsed, hparsed, h⟩ := patchComplianceReview_eq_ok h
  rw [hparsed, hdecision] at h
  obtain ⟨⟨listing, host, hreview⟩, rfl⟩ := reviewPropertyCompliance_eq_ok h
  have hfound := (db.reviewItems now p reviewer .approved parsed.note).find?_updateListing p
    (Listing.setComplianceReview now reviewer .approved parsed.note) (fun _ => rfl) p
  rw [if_pos rfl] at hfound
  have hlisting := hfound.trans (congrArg (Option.map _) hreview.found)
  apply complianceReady_of_approved hlisting
  case hhost =>
    rw [hostId_invalidatePropertyPilotReview]
    exact hreview.hosted
  case happroved =>
    rw [complianceStatus_invalidatePropertyPilotReview]
    rfl
  case hitems =>
    rw [hlater]
    exact itemsApproved_reviewItems (hreview.complete rfl)

/-- What holds in a state the calls reach, and of the calls made in it. -/
structure ComplianceSound (validHttpsUrl : String → Bool) (db₀ : ListingDb) (cs : List ComplianceCall) : Prop where
  approved : ∀ p listing, (run (complianceStep validHttpsUrl) db₀ cs).listings.find? p = some listing →
    listing.complianceStatus = .approved →
      ∃ a, Did (complianceStep validHttpsUrl) ApprovesSubmitted db₀ cs a ∧ a.propertyId = p ∧
        ApprovedAs (run (complianceStep validHttpsUrl) db₀ cs) a listing
  reviewed : ∀ now p reviewer body status db', body.decision = .approved →
    (ComplianceCall.reviewPropertyCompliance now p reviewer body).result validHttpsUrl
        (run (complianceStep validHttpsUrl) db₀ cs) = .ok (status, db') →
      ∀ later, currentDate later = currentDate now → complianceReady db' later p = some true
  saved : ∀ now p body status db', (ComplianceCall.saveOwnerCompliance now p body).result validHttpsUrl
      (run (complianceStep validHttpsUrl) db₀ cs) = .ok (status, db') →
    ∀ later, complianceReady db' later p ≠ some true
  thrown : ∀ (c : ComplianceCall) (e : ListingError),
    c.result validHttpsUrl (run (complianceStep validHttpsUrl) db₀ cs) = .error e →
      complianceStep validHttpsUrl (run (complianceStep validHttpsUrl) db₀ cs) c =
        run (complianceStep validHttpsUrl) db₀ cs

theorem complianceSound (validHttpsUrl : String → Bool) (db : ListingDb)
    (hnone : ∀ p listing, db.listings.find? p = some listing → listing.complianceStatus ≠ .approved)
    (cs : List ComplianceCall) : ComplianceSound validHttpsUrl db cs where
  approved := by
    have hstart : ApprovedBy db fun _ => False := fun p listing hlisting happroved =>
      absurd happroved (hnone p listing hlisting)
    exact run_invariant_did (J := ApprovedBy) (G := fun _ _ _ => True) hstart
      (fun _ _ c h _ => approvedBy_step h c) (fun _ _ _ _ => trivial)
  reviewed now p reviewer body status db' hdecision h later hlater := complianceReady_reviewed hdecision h hlater
  saved now p body status db' h later := not_complianceReady_saved h later
  thrown c e h := congrArg (commit _) h

/-- The body with all seven items, each required and declared. -/
def sevenItems (evidenceUrl : String) (submit declared : Bool) : OwnerComplianceBody where
  submit := submit
  items := ComplianceCategory.all.map fun c => ⟨c, .required, declared, some evidenceUrl, none, none, none⟩

def httpsPrefix (text : String) : Bool := text.toList.take 8 == "https://".toList

/-- The record is submitted by the host and approved by another user. -/
def approvedRecord : List ComplianceCall :=
  [ .saveOwnerCompliance 4 1 (sevenItems "https://a" true true),
    .reviewPropertyCompliance 5 1 2 ⟨.approved, "complete"⟩ ]

theorem approvedRecord_sound :
    complianceReady (run (complianceStep httpsPrefix) createdListing approvedRecord) 6 1 = some true ∧
      ComplianceSound httpsPrefix createdListing approvedRecord := by
  have hnone : ∀ listing ∈ createdListing.listings.rows, listing.complianceStatus ≠ .approved := by decide
  exact ⟨by decide, complianceSound httpsPrefix createdListing
    (fun p listing hlisting => hnone listing (Table.mem_of_find? hlisting)) approvedRecord⟩

/-- A submission with nothing declared is admitted and throws: the approved record is ready as before. -/
theorem refusedSubmission_stillReady :
    (ownerComplianceSchema httpsPrefix (sevenItems "https://a" true false)).isOk = true ∧
      ¬ (complianceReady (run (complianceStep httpsPrefix) createdListing
        (approvedRecord ++ [.saveOwnerCompliance 7 1 (sevenItems "https://a" true false)])) 8 1 ≠ some true) := by
  refine ⟨by decide, fun h => ?_⟩
  exact h (by decide)

end HostPlatform
