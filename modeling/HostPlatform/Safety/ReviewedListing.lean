-- SUMMARY: Only reviewed content is published: exactly if every update that publishes finds the listing approved and leaves its content alone, and no published listing is sent back for changes.
import HostPlatform.ListingEdits

namespace HostPlatform

open Lib Lib.Transition

/-- What the reviews of a property approved, in their order. -/
def approvals (s : Listings) (ls : List ListingLabel) (p : PropertyId) : List ReviewedListing :=
  collect Listings.step (fun s l => s.approvedBy p l) s ls

/-- In every state of the run a published property is approved, and what was reviewed of it
is what its last approval approved. -/
def OnlyReviewedPublished (s : Listings) (ls : List ListingLabel) : Prop :=
  ∀ pre suf, ls = pre ++ suf → ∀ p r,
    (run Listings.step s pre).db.listings.find? p = some r → r.status = .published →
      r.pilotReviewStatus = .approved ∧
        (approvals s pre p).getLast? = some ((run Listings.step s pre).db.reviewed r)

/-- The update of a call that publishes finds the property published, or finds it approved and
submits no other content than it has. A review that requires changes finds the property
unpublished. -/
def PublishesApproved (s : Listings) : ListingLabel → Prop
  | .call _ c =>
    ∀ call ∈ s.calls.find? c, call.phase = .update → s.db.acceptsUpdate call.propertyId call.input →
      call.input.status = some .published → ∀ r ∈ s.db.listings.find? call.propertyId,
        r.status = .published ∨ r.pilotReviewStatus = .approved ∧ call.input.setContent r.content = r.content
  | .transaction (.reviewPilotListing _ p _ .changesRequired _) =>
    ∀ r ∈ s.db.listings.find? p, r.status ≠ .published
  | _ => True

instance (s : Listings) : ∀ l, Decidable (PublishesApproved s l)
  | .call _ c =>
    inferInstanceAs (Decidable (∀ call ∈ s.calls.find? c, call.phase = .update →
      s.db.acceptsUpdate call.propertyId call.input → call.input.status = some .published →
        ∀ r ∈ s.db.listings.find? call.propertyId,
          r.status = .published ∨ r.pilotReviewStatus = .approved ∧ call.input.setContent r.content = r.content))
  | .transaction (.reviewPilotListing _ p _ .changesRequired _) =>
    inferInstanceAs (Decidable (∀ r ∈ s.db.listings.find? p, r.status ≠ .published))
  | .transaction (.reviewPilotListing _ _ _ .approved _) => isTrue trivial
  | .transaction (.ensureHostProfile _) | .transaction (.recordHostAgreementAcceptance ..)
  | .transaction (.setPayoutAccountStatus ..) | .transaction (.registerUploadedPropertyImage ..)
  | .transaction (.setPropertyImageCover ..) | .transaction (.updatePropertyImageAltText ..)
  | .transaction (.reorderPropertyImages ..) | .transaction (.deletePropertyImage ..)
  | .transaction (.saveOwnerCompliance ..) | .transaction (.reviewPropertyCompliance ..)
  | .createProperty .. | .updateProperty .. | .callCrash _ => isTrue trivial

/-! ## The row a publishing update leaves -/

/-- The trigger lets an approval stand only over the content it was given for. -/
theorem setListing_approved {input : PropertyInput} {r : Listing}
    (h : (invalidatePropertyPilotReview r (input.setListing r)).pilotReviewStatus = .approved) :
    r.pilotReviewStatus = .approved ∧ input.setContent r.content = r.content ∧
      invalidatePropertyPilotReview r (input.setListing r) = input.setListing r := by
  by_cases hdrop : r.pilotReviewStatus = .approved ∧
      (r.content, r.complianceStatus) ≠ ((input.setListing r).content, (input.setListing r).complianceStatus)
  · unfold invalidatePropertyPilotReview at h
    rw [if_pos hdrop] at h
    cases h
  · have hrow : invalidatePropertyPilotReview r (input.setListing r) = input.setListing r := by
      unfold invalidatePropertyPilotReview
      rw [if_neg hdrop]
    rw [hrow] at h
    have happroved : r.pilotReviewStatus = .approved := h
    refine ⟨happroved, ?_, hrow⟩
    by_contra hcontent
    exact hdrop ⟨happroved, fun hsame => hcontent (Prod.mk.inj hsame).1.symm⟩

/-- `NEW.status` goes back to draft only when `OLD.status` was published. -/
theorem setListing_published_iff {input : PropertyInput} {r : Listing}
    (hstatus : input.status = some .published)
    (hr : r.status = .published → r.pilotReviewStatus = .approved) :
    ((invalidatePropertyPilotReview r (input.setListing r)).status = .published →
        (invalidatePropertyPilotReview r (input.setListing r)).pilotReviewStatus = .approved) ↔
      r.status = .published ∨
        r.pilotReviewStatus = .approved ∧ input.setContent r.content = r.content := by
  have hset : (input.setListing r).status = .published := by
    unfold PropertyInput.setListing
    rw [hstatus, Option.getD_some]
  constructor
  · intro h
    by_cases hpub : r.status = .published
    · exact .inl hpub
    · right
      have hnew : (invalidatePropertyPilotReview r (input.setListing r)).status = .published := by
        unfold invalidatePropertyPilotReview
        split <;> exact hset
      obtain ⟨happroved, hcontent, -⟩ := setListing_approved (h hnew)
      exact ⟨happroved, hcontent⟩
  · rintro (hpub | ⟨happroved, hcontent⟩) hnew
    · by_cases hdrop : r.pilotReviewStatus = .approved ∧ (r.content, r.complianceStatus) ≠
          ((input.setListing r).content, (input.setListing r).complianceStatus)
      · unfold invalidatePropertyPilotReview at hnew
        rw [if_pos hdrop] at hnew
        simp only [hpub, if_true] at hnew
        cases hnew
      · unfold invalidatePropertyPilotReview
        rw [if_neg hdrop]
        exact hr hpub
    · have hrow : invalidatePropertyPilotReview r (input.setListing r) = input.setListing r :=
        invalidatePropertyPilotReview_of_same hcontent rfl
      rw [hrow]
      exact happroved

/-! ## Approvals are of the content -/

/-- An approved listing is as its last approval found it, and every listing has its host. -/
structure Listings.Reviewed (s : Listings) (approved : PropertyId → List ReviewedListing) : Prop where
  approved : ∀ p r, s.db.listings.find? p = some r → r.pilotReviewStatus = .approved →
    (approved p).getLast? = some (s.db.reviewed r)
  hosted : ∀ p r, s.db.listings.find? p = some r → (s.db.hosts.find? r.hostId).isSome

theorem Listings.Reviewed.start {db : ListingDb} (hempty : db.listings.rows = []) :
    (Listings.start db).Reviewed fun _ => [] := by
  have hnone : ∀ p r, db.listings.find? p ≠ some r := by
    intro p r hr
    have hmem := Table.mem_of_find? hr
    rw [hempty] at hmem
    cases hmem
  constructor
  case approved => exact fun p r hr => absurd hr (hnone p r)
  case hosted => exact fun p r hr => absurd hr (hnone p r)

theorem Listings.Reviewed.step {s : Listings} {approved : PropertyId → List ReviewedListing}
    (hinv : s.Reviewed approved) (l : ListingLabel) :
    (s.step l).Reviewed fun p => approved p ++ (s.approvedBy p l).toList := by
  -- without an approval in the step, it is enough to trace an approved row back
  have hunreviewed (hnone : ∀ p, s.approvedBy p l = none)
      (hback : ∀ p r', (s.step l).db.listings.find? p = some r' → r'.pilotReviewStatus = .approved →
        ∃ r, s.db.listings.find? p = some r ∧ r.pilotReviewStatus = .approved ∧
          (s.step l).db.reviewed r' = s.db.reviewed r) :
      ∀ p r', (s.step l).db.listings.find? p = some r' → r'.pilotReviewStatus = .approved →
        (approved p ++ (s.approvedBy p l).toList).getLast? = some ((s.step l).db.reviewed r') := by
    intro p r' hr' happroved
    obtain ⟨r, hr, happroved₀, hsame⟩ := hback p r' hr' happroved
    rw [hnone p, Option.toList_none, List.append_nil, hsame]
    exact hinv.approved p r hr happroved₀
  cases s.step_leaves l with
  | edits hedits hnone =>
    constructor
    case approved =>
      refine hunreviewed hnone fun p r' hr' happroved => ?_
      obtain ⟨r, hr, -, hedit⟩ := hedits.rows.to_find? hr'
      cases hedit with
      | kept hpilot hreviewed hstatus => exact ⟨r, hr, hpilot ▸ happroved, hreviewed⟩
      | withdrawn hpilot hstatus => exact absurd happroved hpilot
    case hosted =>
      intro p r' hr'
      obtain ⟨r, hr, hhost, -⟩ := hedits.rows.to_find? hr'
      rw [hhost]
      exact hedits.hosts _ (hinv.hosted p r hr)
  | inserts hostId content status hstatus hhost hdb hnone =>
    have hrows : ∀ p r', (s.step l).db.listings.find? p = some r' →
        s.db.listings.find? p = some r' ∨ r' = newListing hostId content status s.db.listings.freshKey := by
      intro p r' hr'
      rw [hdb, ListingDb.find?_insertListing] at hr'
      split at hr'
      · exact .inr (Option.some.inj hr').symm
      · exact .inl hr'
    constructor
    case approved =>
      refine hunreviewed hnone fun p r' hr' happroved => ?_
      rcases hrows p r' hr' with hr | rfl
      · refine ⟨r', hr, happroved, ?_⟩
        rw [hdb]
        rfl
      · cases happroved
    case hosted =>
      intro p r' hr'
      rcases hrows p r' hr' with hr | rfl
      · rw [hdb]
        exact hinv.hosted p r' hr
      · rw [hdb]
        exact hhost
  | decides now p reviewer decision note r hl hr hdb happroved =>
    have hrow : ∀ q r', (s.step l).db.listings.find? q = some r' →
        q = p ∧ r' = Listing.setPilotReview now reviewer decision note r ∨
          q ≠ p ∧ s.db.listings.find? q = some r' := by
      intro q r' hr'
      rw [hdb] at hr'
      have hfind := (s.db.find?_updateListing p _ _ q).symm.trans hr'
      by_cases hq : q = p
      · rw [if_pos hq, hr, Option.map_some, invalidatePropertyPilotReview_setPilotReview] at hfind
        exact .inl ⟨hq, (Option.some.inj hfind).symm⟩
      · rw [if_neg hq] at hfind
        exact .inr ⟨hq, hfind⟩
    constructor
    case approved =>
      intro q r' hr' hpilot
      rw [happroved q]
      rcases hrow q r' hr' with ⟨rfl, rfl⟩ | ⟨hq, hold⟩
      · have hdecision : decision = .approved := by
          cases decision with
          | approved => rfl
          | changesRequired => cases hpilot
        rw [if_pos ⟨hdecision, rfl⟩, Option.toList_some, List.getLast?_append, hdb]
        rfl
      · rw [if_neg fun h => hq h.2.symm, Option.toList_none, List.append_nil, hdb]
        exact hinv.approved q r' hold hpilot
    case hosted =>
      intro q r' hr'
      rw [hdb]
      rcases hrow q r' hr' with ⟨rfl, rfl⟩ | ⟨hq, hold⟩
      · exact hinv.hosted q r hr
      · exact hinv.hosted q r' hold
  | publishes now c call hl hcall hphase haccepts hstatus hdb =>
    have hrow : ∀ q r', (s.step l).db.listings.find? q = some r' →
        (∃ r, s.db.listings.find? q = some r ∧
          r' = invalidatePropertyPilotReview r (call.input.setListing r)) ∨
          s.db.listings.find? q = some r' := by
      intro q r' hr'
      rw [hdb] at hr'
      have hfind := (s.db.find?_updateListing call.propertyId _ _ q).symm.trans hr'
      by_cases hq : q = call.propertyId
      · rw [if_pos hq, ← hq] at hfind
        obtain ⟨r, hr, hset⟩ := Option.map_eq_some_iff.mp hfind
        exact .inl ⟨r, hr, hset.symm⟩
      · rw [if_neg hq] at hfind
        exact .inr hfind
    constructor
    case approved =>
      refine hunreviewed (fun p => by rw [hl]; rfl) fun q r' hr' hpilot => ?_
      rcases hrow q r' hr' with ⟨r, hr, rfl⟩ | hr
      · obtain ⟨happroved, hcontent, hset⟩ := setListing_approved hpilot
        refine ⟨r, hr, happroved, ?_⟩
        rw [hset, hdb]
        exact congrArg (fun c => ReviewedListing.mk c r.complianceStatus (s.db.imagesOf r.id)) hcontent
      · refine ⟨r', hr, hpilot, ?_⟩
        rw [hdb]
        rfl
    case hosted =>
      intro q r' hr'
      rw [hdb]
      rcases hrow q r' hr' with ⟨r, hr, rfl⟩ | hr
      · have hhost : (invalidatePropertyPilotReview r (call.input.setListing r)).hostId = r.hostId := by
          unfold invalidatePropertyPilotReview
          split <;> rfl
        rw [hhost]
        exact hinv.hosted q r hr
      · exact hinv.hosted q r' hr

theorem reviewed_run {db : ListingDb} (hempty : db.listings.rows = []) (ls : List ListingLabel) :
    (run Listings.step (.start db) ls).Reviewed (approvals (.start db) ls) := by
  induction ls using List.reverseRecOn with
  | nil => exact .start hempty
  | append_singleton ls l ih =>
    rw [run_concat]
    have hcollect : approvals (.start db) (ls ++ [l]) = fun p => approvals (.start db) ls p ++
        ((run Listings.step (.start db) ls).approvedBy p l).toList := funext fun p => collect_concat
    rw [hcollect]
    exact ih.step l

/-! ## Published listings are approved -/

/-- Every published property is approved. -/
def ListingDb.PublishedApproved (db : ListingDb) : Prop :=
  ∀ p r, db.listings.find? p = some r → r.status = .published → r.pilotReviewStatus = .approved

theorem ListingDb.Edits.publishedApproved {db db' : ListingDb} (h : db.Edits db')
    (hpublished : db.PublishedApproved) : db'.PublishedApproved := by
  intro p r' hr' hstatus'
  obtain ⟨r, hr, -, hedit⟩ := h.rows.to_find? hr'
  cases hedit with
  | kept hpilot hreviewed hstatus =>
    rw [hpilot]
    exact hpublished p r hr (hstatus hstatus')
  | withdrawn hpilot hstatus =>
    obtain ⟨hpub, hnot⟩ := hstatus hstatus'
    exact absurd (hpublished p r hr hpub) hnot

/-- Only the updated row is to be looked at. -/
theorem ListingDb.publishedApproved_updateListing {db : ListingDb} (hpublished : db.PublishedApproved)
    (p : PropertyId) (f : Listing → Listing) (hf) :
    (db.updateListing p f hf).PublishedApproved ↔
      ∀ r ∈ db.listings.find? p, (invalidatePropertyPilotReview r (f r)).status = .published →
        (invalidatePropertyPilotReview r (f r)).pilotReviewStatus = .approved := by
  constructor
  · intro h r hr
    refine h p _ ((db.find?_updateListing p f hf p).trans ?_)
    rw [if_pos rfl, Option.mem_def.mp hr, Option.map_some]
  · intro h q r' hr'
    have hfind := (db.find?_updateListing p f hf q).symm.trans hr'
    by_cases hq : q = p
    · rw [if_pos hq] at hfind
      obtain ⟨r, hr, rfl⟩ := Option.map_eq_some_iff.mp hfind
      exact h r hr
    · rw [if_neg hq] at hfind
      exact hpublished q r' hfind

/-- A review that commits leaves published properties approved unless it requires changes
of one. -/
theorem setPilotReview_publishedApproved_iff {db : ListingDb} (hpublished : db.PublishedApproved)
    (now : Int) (p : PropertyId) (reviewer : UserId) (decision : PilotReviewDecision) (note : String) :
    (db.updateListing p (Listing.setPilotReview now reviewer decision note)).PublishedApproved ↔
      decision = .changesRequired → ∀ r ∈ db.listings.find? p, r.status ≠ .published := by
  refine (ListingDb.publishedApproved_updateListing hpublished p _ _).trans ?_
  simp only [invalidatePropertyPilotReview_setPilotReview]
  cases decision with
  | approved => exact ⟨nofun, fun _ _ _ _ => rfl⟩
  | changesRequired =>
    constructor
    · intro h _ r hr hstatus
      cases h r hr hstatus
    · intro h r hr hstatus
      exact absurd hstatus (h rfl r hr)

/-- Every other step leaves published properties approved. -/
theorem Listings.Leaves.publishedApproved {s : Listings} {l : ListingLabel} {db' : ListingDb}
    (h : s.Leaves l db') (hpublished : s.db.PublishedApproved)
    (hdecides : ∀ now p reviewer note,
      l ≠ .transaction (.reviewPilotListing now p reviewer .changesRequired note))
    (hpublishes : ∀ now c call, l = .call now c → s.calls.find? c = some call →
      call.phase = .update → s.db.acceptsUpdate call.propertyId call.input →
        call.input.status ≠ some .published) : db'.PublishedApproved := by
  cases h with
  | edits hedits hnone => exact hedits.publishedApproved hpublished
  | inserts hostId content status hstatus hhost hdb hnone =>
    intro p r hr hpub
    rw [hdb, ListingDb.find?_insertListing] at hr
    split at hr
    · cases hr
      exact absurd hpub hstatus
    · exact hpublished p r hr hpub
  | decides now p reviewer decision note r hl hr hdb happroved =>
    rw [hdb, setPilotReview_publishedApproved_iff hpublished]
    rintro rfl
    exact absurd hl (hdecides now p reviewer note)
  | publishes now c call hl hcall hphase haccepts hstatus hdb =>
    exact absurd hstatus (hpublishes now c call hl hcall hphase haccepts)

/-- A step keeps published properties approved exactly if it publishes what is approved. -/
theorem Listings.publishedApproved_step_iff {s : Listings} {approved : PropertyId → List ReviewedListing}
    (hinv : s.Reviewed approved) (hpublished : s.db.PublishedApproved) (l : ListingLabel) :
    (s.step l).db.PublishedApproved ↔ PublishesApproved s l := by
  have hleaves := s.step_leaves l
  cases l with
  | transaction t =>
    cases t with
    | reviewPilotListing now p reviewer decision note =>
      cases decision with
      | approved =>
        refine iff_of_true (hleaves.publishedApproved hpublished ?_ fun _ _ _ => ?_) trivial
        · intro _ _ _ _ h
          cases h
        · intro h
          cases h
      | changesRequired =>
        constructor
        · intro h r hr
          have hdb : (s.step (.transaction (.reviewPilotListing now p reviewer .changesRequired note))).db =
              s.db.updateListing p (Listing.setPilotReview now reviewer .changesRequired note) :=
            reviewPilotListing_changesRequired hr (hinv.hosted p r hr) now reviewer note
          rw [hdb, setPilotReview_publishedApproved_iff hpublished] at h
          exact h rfl r hr
        · intro h
          refine commit_of hpublished fun report db' hreview => ?_
          obtain ⟨-, rfl⟩ := reviewPilotListing_eq_ok hreview
          exact (setPilotReview_publishedApproved_iff hpublished ..).mpr fun _ => h
    | ensureHostProfile | recordHostAgreementAcceptance | setPayoutAccountStatus
    | registerUploadedPropertyImage | setPropertyImageCover | updatePropertyImageAltText
    | reorderPropertyImages | deletePropertyImage | saveOwnerCompliance | reviewPropertyCompliance =>
      refine iff_of_true (hleaves.publishedApproved hpublished ?_ fun _ _ _ => ?_) trivial
      · intro _ _ _ _ h
        cases h
      · intro h
        cases h
  | createProperty | updateProperty | callCrash =>
    refine iff_of_true (hleaves.publishedApproved hpublished ?_ fun _ _ _ => ?_) trivial
    · intro _ _ _ _ h
      cases h
    · intro h
      cases h
  | call now c =>
    by_cases hpub : ∃ call, s.calls.find? c = some call ∧ call.phase = .update ∧
        s.db.acceptsUpdate call.propertyId call.input ∧ call.input.status = some .published
    · obtain ⟨call, hcall, hphase, haccepts, hstatus⟩ := hpub
      have hdb : (s.step (.call now c)).db =
          s.db.updateListing call.propertyId call.input.setListing := by
        refine (s.stepCall_db now c).trans ?_
        simp only [hcall, stepPropertyCall_update hphase, if_pos haccepts]
      rw [hdb]
      refine (ListingDb.publishedApproved_updateListing hpublished _ _ _).trans ?_
      constructor
      · intro h call' hcall' hphase' haccepts' hstatus' r hr
        rw [hcall] at hcall'
        cases hcall'
        exact (setListing_published_iff hstatus (hpublished _ r hr)).mp (h r hr)
      · intro h r hr
        exact (setListing_published_iff hstatus (hpublished _ r hr)).mpr (h call hcall hphase haccepts hstatus r hr)
    · refine iff_of_true (hleaves.publishedApproved hpublished ?_ ?_) ?_
      · intro _ _ _ _ h
        cases h
      · intro now' c' call hl hcall hphase haccepts hstatus
        cases hl
        exact hpub ⟨call, hcall, hphase, haccepts, hstatus⟩
      · intro call hcall hphase haccepts hstatus
        exact absurd ⟨call, hcall, hphase, haccepts, hstatus⟩ hpub

/-! ## Whole runs -/

/-- From a database without properties, a run shows only reviewed content exactly if each of
its steps publishes what is approved. -/
theorem onlyReviewedPublished_iff {db : ListingDb} (hempty : db.listings.rows = [])
    (ls : List ListingLabel) :
    OnlyReviewedPublished (.start db) ls ↔ Guarded Listings.step PublishesApproved (.start db) ls := by
  have hnone : (Listings.start db).db.PublishedApproved := by
    intro p r hr
    have hmem : r ∈ db.listings.rows := Table.mem_of_find? hr
    rw [hempty] at hmem
    cases hmem
  have hrun : OnlyReviewedPublished (.start db) ls ↔
      ∀ pre suf, ls = pre ++ suf → (run Listings.step (.start db) pre).db.PublishedApproved := by
    constructor
    · intro h pre suf hls p r hr hstatus
      exact (h pre suf hls p r hr hstatus).1
    · intro h pre suf hls p r hr hstatus
      have happroved := h pre suf hls p r hr hstatus
      exact ⟨happroved, (reviewed_run hempty pre).approved p r hr happroved⟩
  rw [hrun]
  have hstep : ∀ (s : Listings) (l : ListingLabel), (∃ approved, s.Reviewed approved) →
      ∃ approved, (s.step l).Reviewed approved := fun s l ⟨approved, hinv⟩ => ⟨_, hinv.step l⟩
  have hiff : ∀ (s : Listings) (l : ListingLabel), (∃ approved, s.Reviewed approved) →
      s.db.PublishedApproved → ((s.step l).db.PublishedApproved ↔ PublishesApproved s l) :=
    fun s l ⟨approved, hinv⟩ hpublished => s.publishedApproved_step_iff hinv hpublished l
  exact always_iff_guarded hstep hiff ⟨_, .start hempty⟩ hnone

/-- A host who has accepted the agreement and is paid out, and no properties. -/
def sampleListingDb : ListingDb where
  listings := .empty
  hosts := ⟨[⟨⟨1, some 1, .active⟩, 1, some currentHostAgreementVersion, some 0, some 0⟩], by decide⟩
  images := .empty
  complianceItems := fun _ _ => none
  amenities := []
  cancellationPolicies := [1]
  propertyAmenities := []

def sampleListingInput : PropertyInput where
  name := some "Mill"
  propertyType := some "house"
  description := some "By the river"
  city := some "York"
  countryCode := some "gb"
  maxGuests := some 4
  bedrooms := some 2
  bathrooms := some 10
  nightlyPrice := some 9000
  cancellationPolicyId := some (some 1)
  addressLine1 := some "1 Mill Lane"
  postalTown := some "York"
  postcode := some "yo1 1aa"
  latitude := some (some 53958000)
  longitude := some (some (-1080000))

/-- The property is created, and nothing else. -/
def createdListing : ListingDb :=
  (run Listings.step (.start sampleListingDb) [.createProperty 1 sampleListingInput]).db

def sampleImage (n : Int) (url : String) : ListingLabel :=
  .transaction (.registerUploadedPropertyImage n 1 1 ⟨url, url, "image/jpeg", 1000⟩)

/-- The listing is completed, submitted, and approved by both reviews of another user. -/
def approvedListing : List ListingLabel :=
  [ .createProperty 1 sampleListingInput,
    sampleImage 1 "a", sampleImage 2 "b", sampleImage 3 "c",
    .transaction (.saveOwnerCompliance 4 1
      (ComplianceCategory.all.map fun c => ⟨c, .required, true, some "https://a", none, none, none⟩) true),
    .transaction (.reviewPropertyCompliance 5 1 2 .approved "complete"),
    .transaction (.reviewPilotListing 6 1 2 .approved "reviewed") ]

/-- A call runs to its update. -/
def patched (input : PropertyInput) : List ListingLabel :=
  [.updateProperty 1 input, .call 7 1, .call 7 1, .call 7 1]

/-- The approved listing is published, and unpublished by its next image. -/
def publishedThenExtended : List ListingLabel :=
  approvedListing ++ patched { status := some .published } ++ [sampleImage 8 "d"]

theorem publishedThenExtended_onlyReviewed :
    ((run Listings.step (.start sampleListingDb) publishedThenExtended.dropLast).db.listings.find? 1).map
        Listing.status = some .published ∧
      OnlyReviewedPublished (.start sampleListingDb) publishedThenExtended :=
  ⟨by decide, (onlyReviewedPublished_iff rfl publishedThenExtended).mpr (by decide)⟩

/-- The request that publishes the approved listing doubles its price as well. -/
def publishedWithNewPrice : List ListingLabel :=
  approvedListing ++ patched { nightlyPrice := some 18000, status := some .published }

/-- The listing is published at a price nobody reviewed, and its review is pending. -/
theorem publishedWithNewPrice_unreviewed :
    ¬ OnlyReviewedPublished (.start sampleListingDb) publishedWithNewPrice := by
  intro h
  have hreviewed := h publishedWithNewPrice [] rfl 1 _ (Option.some_get (by decide)).symm (by decide)
  exact absurd hreviewed.1 (by decide)

end HostPlatform
