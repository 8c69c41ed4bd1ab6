-- SUMMARY: Availability of hidden properties: when the availability route answers only for what the detail route shows, in a state, and over any run of the market through its days.
import HostPlatform.Safety.ComplianceApproval
import HostPlatform.Safety.SearchBooking
import HostPlatform.Search.PropertyRoutes

/-!
# Availability of hidden properties

The availability route asks whether a property is published, the detail route also for its
compliance record. Nothing keeps a published property approved and its evidence current: evidence
runs out, a host saves the record again, and a publishing request checks before it writes.
-/

namespace HostPlatform

open Lib Lib.Transition

/-! ## The market and its days -/

structure DatedMarket where
  market : Market
  /-- `CURRENT_DATE`. -/
  today : Int

inductive DatedLabel where
  | market (l : MarketLabel)
  | nextDay

def DatedMarket.step (s : DatedMarket) : DatedLabel → DatedMarket
  | .market l => { s with market := s.market.step l }
  | .nextDay => { s with today := s.today + 1 }

/-- Whoever gets the dates of a property is shown the property. -/
def DatedMarket.RevealsShown (s : DatedMarket) : Prop :=
  ∀ session id dates, s.market.getAvailability s.today session id = .ok dates →
    ∃ detail, s.market.getProperty s.today session id = .ok detail

/-! ## Published properties with a current record -/

/-- No required evidence of the property has expired. -/
def ListingDb.evidenceCurrent (db : ListingDb) (p : PropertyId) (today : Int) : Bool :=
  (db.itemsOf p).all fun i => !i.2.expired today

/-- Every published property is approved, and its evidence is current. -/
def ListingDb.PublishedCurrent (db : ListingDb) (today : Int) : Prop :=
  ∀ p r, db.listings.find? p = some r → r.status = .published →
    r.complianceStatus = .approved ∧ db.evidenceCurrent p today

theorem hasExpiredEvidence_propertyRow (m : Market) (r : Listing) (today : Int) :
    hasExpiredEvidence (m.propertyRow r) today = !m.listings.db.evidenceCurrent r.id today := by
  have hitems : m.complianceItems r.id =
      (m.listings.db.itemsOf r.id).map fun i => ⟨i.2.applicability, i.2.validUntil⟩ := by
    unfold Market.complianceItems ListingDb.itemsOf
    rw [List.map_filterMap]
    simp only [Option.map_map]
    rfl
  unfold hasExpiredEvidence Market.propertyRow ListingDb.evidenceCurrent
  rw [hitems, List.any_map, List.all_eq_not_any_not, Bool.not_not]
  simp only [Bool.not_not]
  rfl

theorem isPubliclyVisible_iff {m : Market} {today : Int} {r : Listing} :
    m.isPubliclyVisible today r ↔ r.status = .published ∧ r.complianceStatus = .approved ∧
      m.listings.db.evidenceCurrent r.id today := by
  unfold Market.isPubliclyVisible
  rw [hasExpiredEvidence_propertyRow, Bool.not_not]
  simp only [Bool.and_eq_true, decide_eq_true_eq, and_assoc]

/-- The caller without a session sees the difference if there is any. -/
theorem DatedMarket.revealsShown_iff {s : DatedMarket} :
    s.RevealsShown ↔ s.market.listings.db.PublishedCurrent s.today := by
  constructor
  · intro h p r hr hpublished
    have hfind : s.market.findProperty (.uuid p) = some r := hr
    obtain ⟨dates, hdates⟩ := Market.getAvailability_of_shown hfind (.inl hpublished)
    obtain ⟨detail, hdetail⟩ := h none (.uuid p) dates hdates
    obtain ⟨r', hr', hshown, -⟩ := Market.getProperty_eq_ok hdetail
    obtain rfl : r = r' := Option.some.inj (hr.symm.trans hr')
    have hvisible := isPubliclyVisible_iff.mp (hshown.resolve_right Bool.false_ne_true)
    rw [← Table.key_of_find? hr]
    exact hvisible.2
  · intro h session id dates hdates
    obtain ⟨r, hfind, hshown⟩ := Market.getAvailability_eq_ok hdates
    refine ⟨_, Market.getProperty_of_shown hfind (hshown.imp_left fun hpublished => ?_)⟩
    have hr : s.market.listings.db.listings.find? r.id = some r := by
      cases id with
      | uuid p =>
        have hkey : r.id = p := Table.key_of_find? hfind
        rw [hkey]
        exact hfind
      | slug slug => exact Table.find?_of_mem (List.mem_of_find?_eq_some hfind)
      | invalid => cases hfind
    exact isPubliclyVisible_iff.mpr ⟨hpublished, h r.id r hr hpublished⟩

/-! ## What a step must not do -/

/-- A publishing update finds the property published, or approved with current evidence. A save of
the compliance record that returns finds a published property with an approved pilot review, which
the trigger then withdraws with the publication. -/
def KeepsCurrent (s : Listings) (today : Int) : ListingLabel → Prop
  | .call _ c =>
    ∀ call ∈ s.calls.find? c, call.phase = .update → s.db.acceptsUpdate call.propertyId call.input →
      call.input.status = some .published → ∀ r ∈ s.db.listings.find? call.propertyId, r.status = .published ∨
        r.complianceStatus = .approved ∧ s.db.evidenceCurrent call.propertyId today
  | .transaction (.saveOwnerCompliance now p items submit) =>
    (saveOwnerCompliance s.db now p items submit).isOk →
      ∀ r ∈ s.db.listings.find? p, r.status = .published → r.pilotReviewStatus = .approved
  | _ => True

instance (s : Listings) (today : Int) : ∀ l, Decidable (KeepsCurrent s today l)
  | .call _ c =>
    inferInstanceAs (Decidable (∀ call ∈ s.calls.find? c, call.phase = .update →
      s.db.acceptsUpdate call.propertyId call.input → call.input.status = some .published → ∀ r ∈ s.db.listings.find? call.propertyId, r.status = .published ∨
        r.complianceStatus = .approved ∧ s.db.evidenceCurrent call.propertyId today))
  | .transaction (.saveOwnerCompliance now p items submit) =>
    inferInstanceAs (Decidable ((saveOwnerCompliance s.db now p items submit).isOk →
      ∀ r ∈ s.db.listings.find? p, r.status = .published → r.pilotReviewStatus = .approved))
  | .transaction (.ensureHostProfile _) | .transaction (.recordHostAgreementAcceptance ..)
  | .transaction (.setPayoutAccountStatus ..) | .transaction (.registerUploadedPropertyImage ..)
  | .transaction (.setPropertyImageCover ..) | .transaction (.updatePropertyImageAltText ..)
  | .transaction (.reorderPropertyImages ..) | .transaction (.deletePropertyImage ..)
  | .transaction (.reviewPropertyCompliance ..) | .transaction (.reviewPilotListing ..)
  | .createProperty .. | .updateProperty .. | .callCrash _ => isTrue trivial

/-- And when a day ends, no required evidence of a published property ends with it. -/
def DatedMarket.KeepsCurrent (s : DatedMarket) : DatedLabel → Prop
  | .nextDay =>
    ∀ r ∈ s.market.listings.db.listings.rows, r.status = .published →
      s.market.listings.db.evidenceCurrent r.id (s.today + 1)
  | .market (.listing l _) => HostPlatform.KeepsCurrent s.market.listings s.today l
  | .market _ => True

instance (s : DatedMarket) : ∀ l, Decidable (s.KeepsCurrent l)
  | .nextDay =>
    inferInstanceAs (Decidable (∀ r ∈ s.market.listings.db.listings.rows, r.status = .published →
      s.market.listings.db.evidenceCurrent r.id (s.today + 1)))
  | .market (.listing l _) => inferInstanceAs (Decidable (HostPlatform.KeepsCurrent s.market.listings s.today l))
  | .market (.booking _) | .market (.configureVat ..) | .market (.seedFeeConfig _)
  | .market (.activateLaunchFees _) => isTrue trivial

/-! ## Steps that leave the records alone -/

/-- The trigger withdraws the publication of an approved row whose compared columns change. -/
theorem published_invalidatePropertyPilotReview_iff {old new : Listing} :
    (invalidatePropertyPilotReview old new).status = .published ↔ new.status = .published ∧
      ¬ (old.status = .published ∧ old.pilotReviewStatus = .approved ∧
        (old.content, old.complianceStatus) ≠ (new.content, new.complianceStatus)) := by
  unfold invalidatePropertyPilotReview
  split
  · rename_i hchanged
    dsimp only
    split
    · rename_i hold
      exact iff_of_false nofun fun h => h.2 ⟨hold, hchanged⟩
    · rename_i hold
      exact (and_iff_left fun h => hold h.1).symm
  · rename_i hchanged
    exact (and_iff_left fun h => hchanged h.2).symm

namespace ListingDb

variable {db db' : ListingDb} {today : Int}

/-- No property is newly published, and published ones keep their compliance record. -/
structure KeepsRecords (db db' : ListingDb) : Prop where
  items : db'.complianceItems = db.complianceItems
  rows : ∀ p r', db'.listings.find? p = some r' → r'.status = .published →
    ∃ r, db.listings.find? p = some r ∧ r.status = .published ∧ r'.complianceStatus = r.complianceStatus

theorem KeepsRecords.of_same (hlistings : db'.listings = db.listings)
    (hitems : db'.complianceItems = db.complianceItems) : db.KeepsRecords db' where
  items := hitems
  rows _ r' hr' hpublished := ⟨r', hlistings ▸ hr', hpublished, rfl⟩

@[refl] theorem KeepsRecords.refl (db : ListingDb) : db.KeepsRecords db := .of_same rfl rfl

theorem evidenceCurrent_congr (hitems : db'.complianceItems = db.complianceItems) (p : PropertyId) :
    db'.evidenceCurrent p today = db.evidenceCurrent p today := by
  unfold evidenceCurrent itemsOf
  rw [hitems]

theorem KeepsRecords.publishedCurrent (h : db.KeepsRecords db') (hcurrent : db.PublishedCurrent today) :
    db'.PublishedCurrent today := by
  intro p r' hr' hpublished
  obtain ⟨r, hr, hwas, hcompliance⟩ := h.rows p r' hr' hpublished
  rw [hcompliance, evidenceCurrent_congr h.items]
  exact hcurrent p r hr hwas

/-- Columns of one row are set. -/
theorem KeepsRecords.updateListing (db : ListingDb) (p : PropertyId) (f : Listing → Listing)
    (hf : ∀ r, (f r).id = r.id) (hstatus : ∀ r, (f r).status = .published → r.status = .published)
    (hcompliance : ∀ r, (f r).complianceStatus = r.complianceStatus) :
    db.KeepsRecords (db.updateListing p f hf) where
  items := rfl
  rows q r' hr' hpublished := by
    have hfind := (db.find?_updateListing p f hf q).symm.trans hr'
    split at hfind
    · rename_i hq
      obtain ⟨r, hr, rfl⟩ := Option.map_eq_some_iff.mp hfind
      refine ⟨r, hq ▸ hr, hstatus r (published_invalidatePropertyPilotReview_iff.mp hpublished).1, ?_⟩
      rw [complianceStatus_invalidatePropertyPilotReview, hcompliance]
    · exact ⟨r', hfind, hpublished, rfl⟩

theorem complianceItems_afterImages (db : ListingDb) (rows : List PropertyImage) :
    (db.afterImages rows).complianceItems = db.complianceItems := by
  induction rows generalizing db with
  | nil => rfl
  | cons image rows ih => exact ih _

theorem GalleryWrites.compliance (h : db.GalleryWrites db') :
    db'.complianceItems = db.complianceItems ∧ ∀ p, (db'.listings.find? p).map Listing.complianceStatus =
      (db.listings.find? p).map Listing.complianceStatus := by
  induction h with
  | refl db => exact ⟨rfl, fun _ => rfl⟩
  | trans h h' ih ih' => exact ⟨ih'.1.trans ih.1, fun p => (ih'.2 p).trans (ih.2 p)⟩
  | images hrows hidle hother =>
    refine ⟨complianceItems_afterImages _ _, map_afterImages (fun r => ?_) _ _⟩
    unfold withdrawPilotReview
    split <;> rfl

theorem GalleryWrites.keepsRecords (h : db.GalleryWrites db') : db.KeepsRecords db' where
  items := h.compliance.1
  rows p r' hr' hpublished := by
    obtain ⟨r, hr, -, hedit⟩ := h.writes.edits.rows.to_find? hr'
    have hcompliance := h.compliance.2 p
    rw [hr, hr'] at hcompliance
    refine ⟨r, hr, ?_, Option.some.inj hcompliance⟩
    cases hedit with
    | kept hpilot hreviewed hstatus => exact hstatus hpublished
    | withdrawn hpilot hstatus => exact (hstatus hpublished).1

/-! ## Compliance records -/

theorem evidenceCurrent_reviewItems (db : ListingDb) (now : Int) (p : PropertyId) (reviewer : UserId)
    (decision : ComplianceDecision) (note : String) (q : PropertyId) :
    (db.reviewItems now p reviewer decision note).evidenceCurrent q today = db.evidenceCurrent q today := by
  have hitem : ∀ category, ((db.reviewItems now p reviewer decision note).complianceItems q category).map
      (ComplianceRecord.expired · today) = (db.complianceItems q category).map (ComplianceRecord.expired · today) := by
    intro category
    unfold reviewItems
    by_cases hq : q = p
    · simp only [if_pos hq, Option.map_map]
      rfl
    · simp only [if_neg hq]
  have hall : ∀ db : ListingDb, db.evidenceCurrent q today = ComplianceCategory.all.all fun category =>
      ((db.complianceItems q category).map (ComplianceRecord.expired · today)).all (! ·) := by
    intro db
    unfold evidenceCurrent itemsOf
    rw [List.all_filterMap]
    refine List.all_congr rfl fun category => ?_
    cases db.complianceItems q category <;> rfl
  rw [hall, hall]
  simp only [hitem]

/-- A record under review belongs to no published property. -/
theorem publishedCurrent_reviewed {now : Int} {p : PropertyId} {reviewer : UserId} {decision : ComplianceDecision}
    {note : String} {status : ComplianceStatus} (hcurrent : db.PublishedCurrent today)
    (h : reviewPropertyCompliance db now p reviewer decision note = .ok (status, db')) : db'.PublishedCurrent today := by
  obtain ⟨⟨listing, host, hreview⟩, rfl⟩ := reviewPropertyCompliance_eq_ok h
  intro q r' hr' hpublished
  have hfind := ((db.reviewItems now p reviewer decision note).find?_updateListing p
    (Listing.setComplianceReview now reviewer decision note) (fun _ => rfl) q).symm.trans hr'
  split at hfind
  · obtain ⟨r, hr, rfl⟩ := Option.map_eq_some_iff.mp hfind
    obtain rfl : listing = r := Option.some.inj (hreview.found.symm.trans hr)
    have hwas : listing.status = .published := (published_invalidatePropertyPilotReview_iff.mp hpublished).1
    have happroved := (hcurrent p listing hreview.found hwas).1
    rw [hreview.submitted] at happroved
    cases happroved
  · obtain ⟨happroved, hevidence⟩ := hcurrent q r' hfind hpublished
    refine ⟨happroved, ?_⟩
    rw [← evidenceCurrent_reviewItems db now p reviewer decision note] at hevidence
    exact hevidence

/-- A save that returns leaves a property published exactly if its pilot review is not approved, and
then not approved in its compliance. -/
theorem publishedCurrent_saved_iff {now : Int} {p : PropertyId} {items : List OwnerComplianceItem} {submit : Bool}
    {status : ComplianceStatus} (hcurrent : db.PublishedCurrent today)
    (h : saveOwnerCompliance db now p items submit = .ok (status, db')) :
    db'.PublishedCurrent today ↔
      ∀ r ∈ db.listings.find? p, r.status = .published → r.pilotReviewStatus = .approved := by
  obtain ⟨db₁, ⟨hlistings, -, hothers⟩, rfl⟩ := saveOwnerCompliance_eq_ok h
  have hfind := db₁.find?_updateListing p (Listing.setOwnerCompliance now submit) (fun _ => rfl)
  rw [hlistings] at hfind
  have hcompliance : ∀ r, (Listing.setOwnerCompliance now submit r).complianceStatus ≠ .approved := by
    intro r
    cases submit <;> nofun
  constructor
  · intro hafter r hr hpublished
    by_contra hpilot
    have hstays : (invalidatePropertyPilotReview r (Listing.setOwnerCompliance now submit r)).status = .published :=
      published_invalidatePropertyPilotReview_iff.mpr ⟨hpublished, fun h => hpilot h.2.1⟩
    have hrow := hfind p
    rw [if_pos rfl, Option.mem_def.mp hr, Option.map_some] at hrow
    have happroved := (hafter p _ hrow hstays).1
    rw [complianceStatus_invalidatePropertyPilotReview] at happroved
    exact hcompliance r happroved
  · intro hpilot q r' hr' hpublished
    have hrow := (hfind q).symm.trans hr'
    split at hrow
    · obtain ⟨r, hr, rfl⟩ := Option.map_eq_some_iff.mp hrow
      obtain ⟨hwas, hkept⟩ := published_invalidatePropertyPilotReview_iff.mp hpublished
      refine absurd ⟨hwas, hpilot r hr hwas, fun hsame => ?_⟩ hkept
      have happroved := (hcurrent p r hr hwas).1
      rw [(Prod.mk.inj hsame).2] at happroved
      exact hcompliance r happroved
    · rename_i hq
      obtain ⟨happroved, hevidence⟩ := hcurrent q r' hrow hpublished
      refine ⟨happroved, ?_⟩
      unfold evidenceCurrent itemsOf at hevidence ⊢
      simp only [updateListing, hothers q hq]
      exact hevidence

/-! ## Updates of a call -/

/-- The publishing update leaves the record of the row as it was, and publishes it. -/
theorem publishedCurrent_published_iff {p : PropertyId} {input : PropertyInput} (hcurrent : db.PublishedCurrent today)
    (hstatus : input.status = some .published) :
    (db.updateListing p input.setListing).PublishedCurrent today ↔
      ∀ r ∈ db.listings.find? p, r.status = .published ∨
        r.complianceStatus = .approved ∧ db.evidenceCurrent p today := by
  have hfind := db.find?_updateListing p input.setListing (fun _ => rfl)
  have hset : ∀ r, (input.setListing r).status = .published := by
    intro r
    unfold PropertyInput.setListing
    rw [hstatus]
    rfl
  constructor
  · intro hafter r hr
    refine or_iff_not_imp_left.mpr fun hunpublished => ?_
    have hpublished : (invalidatePropertyPilotReview r (input.setListing r)).status = .published :=
      published_invalidatePropertyPilotReview_iff.mpr ⟨hset r, fun h => hunpublished h.1⟩
    have hrow := hfind p
    rw [if_pos rfl, Option.mem_def.mp hr, Option.map_some] at hrow
    have hnow := hafter p _ hrow hpublished
    rw [complianceStatus_invalidatePropertyPilotReview] at hnow
    exact hnow
  · intro hfound q r' hr' hpublished
    have hrow := (hfind q).symm.trans hr'
    split at hrow
    · rename_i hq
      obtain ⟨r, hr, rfl⟩ := Option.map_eq_some_iff.mp hrow
      rw [complianceStatus_invalidatePropertyPilotReview, hq]
      exact (hfound r hr).elim (hcurrent p r hr) id
    · exact hcurrent q r' hrow hpublished

theorem complianceItems_stepPropertyCall (db : ListingDb) (now : Int) (call : PropertyCall) :
    (stepPropertyCall db now call).2.complianceItems = db.complianceItems := by
  unfold stepPropertyCall
  split
  · split <;> rfl
  · split <;> rfl
  · split <;> rfl
  · rfl
  · rfl
  · split <;> rfl

/-- Every other statement of a call. -/
theorem KeepsRecords.call (db : ListingDb) (now : Int) (call : PropertyCall)
    (h : call.phase = .update → db.acceptsUpdate call.propertyId call.input → call.input.status ≠ some .published) :
    db.KeepsRecords (stepPropertyCall db now call).2 := by
  by_cases hphase : call.phase = .update
  · rw [stepPropertyCall_update hphase]
    by_cases haccepts : db.acceptsUpdate call.propertyId call.input
    case neg => rw [if_neg haccepts]
    rw [if_pos haccepts]
    refine .updateListing db call.propertyId call.input.setListing (fun _ => rfl) (fun r hpublished => ?_) fun _ => rfl
    unfold PropertyInput.setListing at hpublished
    cases hinput : call.input.status with
    | none =>
      rw [hinput] at hpublished
      exact hpublished
    | some status =>
      rw [hinput] at hpublished
      exact absurd (hinput.trans (congrArg some hpublished)) (h hphase haccepts)
  · exact .of_same (listings_stepPropertyCall hphase) (complianceItems_stepPropertyCall db now call)

/-- Transactions but those on compliance records. -/
theorem KeepsRecords.exec (db : ListingDb) {t : ListingTx}
    (hsave : ∀ now p items submit, t ≠ .saveOwnerCompliance now p items submit)
    (hreview : ∀ now p reviewer decision note, t ≠ .reviewPropertyCompliance now p reviewer decision note) :
    db.KeepsRecords (t.exec db) := by
  have hgallery : ∀ {α : Type} {r : Except ListingError (α × ListingDb)},
      (∀ a db', r = .ok (a, db') → db.GalleryWrites db') → db.KeepsRecords (commit db r) := fun h =>
    commit_of (P := db.KeepsRecords) (.refl db) fun a db' hok => (h a db' hok).keepsRecords
  cases t with
  | ensureHostProfile userId =>
    simp only [ListingTx.exec, HostPlatform.ensureHostProfile]
    split
    · exact .refl db
    · exact .of_same rfl rfl
  | recordHostAgreementAcceptance | setPayoutAccountStatus => exact .of_same rfl rfl
  | registerUploadedPropertyImage => exact hgallery fun _ _ => registerUploadedPropertyImage_galleryWrites
  | setPropertyImageCover => exact hgallery fun _ _ => setPropertyImageCover_galleryWrites
  | updatePropertyImageAltText => exact hgallery fun _ _ => updatePropertyImageAltText_galleryWrites
  | reorderPropertyImages => exact hgallery fun _ _ => reorderPropertyImages_galleryWrites
  | deletePropertyImage => exact hgallery fun _ _ => deletePropertyImage_galleryWrites
  | saveOwnerCompliance now p items submit => exact absurd rfl (hsave now p items submit)
  | reviewPropertyCompliance now p reviewer decision note => exact absurd rfl (hreview now p reviewer decision note)
  | reviewPilotListing now p reviewer decision note =>
    refine commit_of (P := db.KeepsRecords) (.refl db) fun report db' h => ?_
    obtain ⟨-, rfl⟩ := reviewPilotListing_eq_ok h
    exact .updateListing db p _ _ (fun _ h => h) fun _ => rfl

/-- No inserted property is published. -/
theorem KeepsRecords.createProperty (s : Listings) (hostId : HostId) (input : PropertyInput) :
    s.db.KeepsRecords (s.createProperty hostId input).db := by
  unfold Listings.createProperty
  split
  · exact .refl s.db
  · rename_i p db h
    have hinserted : s.db.KeepsRecords db := by
      obtain ⟨hdraft, content, -, -, rfl⟩ := createPropertyForHost_eq_ok.mp h
      refine ⟨rfl, fun q r' hr' hpublished => ?_⟩
      rw [find?_insertListing] at hr'
      split at hr'
      · cases hr'
        refine absurd ?_ hdraft
        cases hstatus : input.status with
        | none =>
          rw [hstatus] at hpublished
          cases hpublished
        | some status =>
          rw [hstatus] at hpublished
          exact congrArg some hpublished
      · exact ⟨r', hr', hpublished, rfl⟩
    split
    · exact hinserted
    · exact hinserted

end ListingDb

/-! ## One step -/

/-- The save of a compliance record that throws changes nothing. -/
theorem Listings.publishedCurrent_save_iff {s : Listings} {today : Int} (hcurrent : s.db.PublishedCurrent today)
    (now : Int) (p : PropertyId) (items : List OwnerComplianceItem) (submit : Bool) :
    (s.step (.transaction (.saveOwnerCompliance now p items submit))).db.PublishedCurrent today ↔
      KeepsCurrent s today (.transaction (.saveOwnerCompliance now p items submit)) := by
  cases hsave : saveOwnerCompliance s.db now p items submit with
  | error e =>
    have hdb : (s.step (.transaction (.saveOwnerCompliance now p items submit))).db = s.db :=
      congrArg (commit s.db) hsave
    rw [hdb]
    refine iff_of_true hcurrent ?_
    dsimp only [KeepsCurrent]
    rw [hsave]
    rintro ⟨⟩
  | ok result =>
    have hdb : (s.step (.transaction (.saveOwnerCompliance now p items submit))).db = result.2 :=
      congrArg (commit s.db) hsave
    rw [hdb, ListingDb.publishedCurrent_saved_iff hcurrent hsave]
    dsimp only [KeepsCurrent]
    rw [hsave]
    exact ⟨fun h _ => h, fun h => h rfl⟩

/-- Of the steps of a call only the publishing update can break it. -/
theorem Listings.publishedCurrent_call_iff {s : Listings} {today : Int} (hcurrent : s.db.PublishedCurrent today)
    (now : Int) (c : Nat) :
    (s.step (.call now c)).db.PublishedCurrent today ↔ KeepsCurrent s today (.call now c) := by
  rw [show (s.step (.call now c)).db = (s.stepCall now c).db from rfl, s.stepCall_db]
  dsimp only [KeepsCurrent]
  cases hcall : s.calls.find? c with
  | none => exact iff_of_true hcurrent fun call hnone => absurd hnone (Option.not_mem_none call)
  | some call =>
    by_cases hpublishes : call.phase = .update ∧ s.db.acceptsUpdate call.propertyId call.input ∧
        call.input.status = some .published
    · obtain ⟨hphase, haccepts, hstatus⟩ := hpublishes
      dsimp only
      rw [stepPropertyCall_update hphase, if_pos haccepts, ListingDb.publishedCurrent_published_iff hcurrent hstatus]
      constructor
      · intro h call' hcall' _ _ _
        cases hcall'
        exact h
      · intro h
        exact h call rfl hphase haccepts hstatus
    · have hkept := ListingDb.KeepsRecords.call s.db now call fun hphase haccepts hstatus =>
        hpublishes ⟨hphase, haccepts, hstatus⟩
      refine iff_of_true (hkept.publishedCurrent hcurrent) ?_
      intro call' hcall' hphase haccepts hstatus
      cases hcall'
      exact absurd ⟨hphase, haccepts, hstatus⟩ hpublishes

theorem Listings.publishedCurrent_step_iff {s : Listings} {today : Int} (hcurrent : s.db.PublishedCurrent today)
    (l : ListingLabel) : (s.step l).db.PublishedCurrent today ↔ KeepsCurrent s today l := by
  have hexec : ∀ t : ListingTx, (∀ now p items submit, t ≠ .saveOwnerCompliance now p items submit) →
      (∀ now p reviewer decision note, t ≠ .reviewPropertyCompliance now p reviewer decision note) →
        (s.step (.transaction t)).db.PublishedCurrent today := fun t hsave hreview =>
    (ListingDb.KeepsRecords.exec s.db hsave hreview).publishedCurrent hcurrent
  cases l with
  | transaction t =>
    cases t with
    | saveOwnerCompliance now p items submit => exact publishedCurrent_save_iff hcurrent now p items submit
    | reviewPropertyCompliance now p reviewer decision note =>
      refine iff_of_true ?_ trivial
      exact commit_of (P := fun db => ListingDb.PublishedCurrent db today) hcurrent fun status db' h =>
        ListingDb.publishedCurrent_reviewed hcurrent h
    | ensureHostProfile | recordHostAgreementAcceptance | setPayoutAccountStatus
    | registerUploadedPropertyImage | setPropertyImageCover | updatePropertyImageAltText
    | reorderPropertyImages | deletePropertyImage | reviewPilotListing =>
      refine iff_of_true (hexec _ ?_ ?_) trivial
      · intro _ _ _ _ h
        cases h
      · intro _ _ _ _ _ h
        cases h
  | createProperty hostId input =>
    exact iff_of_true ((ListingDb.KeepsRecords.createProperty s hostId input).publishedCurrent hcurrent) trivial
  | updateProperty p input => exact iff_of_true hcurrent trivial
  | callCrash c => exact iff_of_true hcurrent trivial
  | call now c => exact publishedCurrent_call_iff hcurrent now c

namespace DatedMarket

theorem publishedCurrent_nextDay_iff {db : ListingDb} {today : Int} (hcurrent : db.PublishedCurrent today) :
    db.PublishedCurrent (today + 1) ↔
      ∀ r ∈ db.listings.rows, r.status = .published → db.evidenceCurrent r.id (today + 1) := by
  constructor
  · intro h r hr hpublished
    exact (h r.id r (Table.find?_of_mem hr) hpublished).2
  · intro h p r hr hpublished
    have hkey : r.id = p := Table.key_of_find? hr
    exact ⟨(hcurrent p r hr hpublished).1, hkey ▸ h r (Table.mem_of_find? hr) hpublished⟩

/-- An insert with a slug that is taken does nothing. -/
theorem stepListing_listings (m : Market) (l : ListingLabel) (slug : String) :
    (m.stepListing l slug).listings = m.listings.step l ∨
      (∃ hostId input, l = .createProperty hostId input) ∧ (m.stepListing l slug).listings = m.listings := by
  cases l with
  | createProperty hostId input =>
    dsimp only [Market.stepListing]
    split
    · exact .inr ⟨⟨hostId, input, rfl⟩, rfl⟩
    · split
      · exact .inr ⟨⟨hostId, input, rfl⟩, rfl⟩
      · exact .inl rfl
  | _ => exact .inl rfl

theorem publishedCurrent_step_iff {s : DatedMarket} (hcurrent : s.market.listings.db.PublishedCurrent s.today)
    (l : DatedLabel) : (s.step l).market.listings.db.PublishedCurrent (s.step l).today ↔ s.KeepsCurrent l := by
  cases l with
  | nextDay => exact publishedCurrent_nextDay_iff hcurrent
  | market l =>
    cases l with
    | listing l slug =>
      rcases stepListing_listings s.market l slug with hstep | ⟨⟨hostId, input, rfl⟩, hsame⟩
      · have hiff := Listings.publishedCurrent_step_iff hcurrent l
        rw [← hstep] at hiff
        exact hiff
      · refine iff_of_true ?_ trivial
        rw [← hsame] at hcurrent
        exact hcurrent
    | booking t => exact iff_of_true hcurrent trivial
    | configureVat p accommodationVatRate cleaningVatRate =>
      refine iff_of_true ?_ trivial
      dsimp only [step, Market.step, Market.configureVat]
      split
      · exact hcurrent
      · exact hcurrent
    | seedFeeConfig now =>
      refine iff_of_true ?_ trivial
      dsimp only [step, Market.step, Market.seedFeeConfig]
      split
      · exact hcurrent
      · exact hcurrent
    | activateLaunchFees now =>
      refine iff_of_true ?_ trivial
      dsimp only [step, Market.step, Market.activateLaunchFees]
      split
      · split
        · exact hcurrent
        · exact hcurrent
      · exact hcurrent

end DatedMarket

/-! ## Whole runs -/

/-- From a market without properties, the availability route answers only for what the detail route
shows, in every state of the run, exactly if every step keeps published properties current. -/
theorem revealsShown_run_iff {m : Market} (h : m.Fresh) (today : Int) (ls : List DatedLabel) :
    (∀ pre suf, ls = pre ++ suf → (run DatedMarket.step ⟨m, today⟩ pre).RevealsShown) ↔
      Guarded DatedMarket.step DatedMarket.KeepsCurrent ⟨m, today⟩ ls := by
  simp only [DatedMarket.revealsShown_iff]
  have hnone : m.listings.db.PublishedCurrent today := by
    intro p r hr
    have hmem := Table.mem_of_find? hr
    rw [h.listings] at hmem
    cases hmem
  have hstep : ∀ (s : DatedMarket) (l : DatedLabel), True → s.market.listings.db.PublishedCurrent s.today →
      ((s.step l).market.listings.db.PublishedCurrent (s.step l).today ↔ s.KeepsCurrent l) :=
    fun s l _ hcurrent => s.publishedCurrent_step_iff hcurrent l
  exact always_iff_guarded (fun _ _ _ => trivial) hstep trivial hnone

/-- The listing is reviewed with evidence that is valid until the day, and published. -/
def publishedUntil (day : Int) (input : PropertyInput) : List DatedLabel :=
  ([ .createProperty 1 sampleListingInput,
     sampleImage 1 "a", sampleImage 2 "b", sampleImage 3 "c",
     .transaction (.saveOwnerCompliance 4 1
       (ComplianceCategory.all.map fun c => ⟨c, .required, true, some "https://a", none, some day, none⟩) true),
     .transaction (.reviewPropertyCompliance 5 1 2 .approved "complete"),
     .transaction (.reviewPilotListing 6 1 2 .approved "reviewed") ] ++ patched input).map
    fun l => .market (.listing l "mill-a1b2c3")

def onlyPublished : PropertyInput := { status := some .published }

theorem publishedUntil_reveals :
    (run DatedMarket.step ⟨emptyMarket, 0⟩ (publishedUntil 1 onlyPublished ++ [.nextDay])).RevealsShown ∧
      ((run DatedMarket.step ⟨emptyMarket, 0⟩ (publishedUntil 1 onlyPublished ++ [.nextDay])).market.getAvailability 1
        none (.uuid 1)).isOk :=
  ⟨(revealsShown_run_iff emptyMarket_fresh 0 (publishedUntil 1 onlyPublished ++ [.nextDay])).mpr (by decide) _ []
    (List.append_nil _).symm, by decide⟩

/-- The host saves the compliance record of a listing that was published with a new price. -/
def publishedThenSaved : List DatedLabel :=
  publishedUntil 1 { nightlyPrice := some 18000, status := some .published } ++
    [.market (.listing (.transaction (.saveOwnerCompliance 8 1 [] false)) "mill-a1b2c3")]

/-- The dates are answered the day after the evidence has expired, and for a record that is in progress. -/
theorem publishedUntil_revealsHidden : emptyMarket.Fresh ∧
    ¬ (run DatedMarket.step ⟨emptyMarket, 0⟩ (publishedUntil 0 onlyPublished ++ [.nextDay])).RevealsShown ∧
      ¬ (run DatedMarket.step ⟨emptyMarket, 0⟩ publishedThenSaved).RevealsShown := by
  refine ⟨emptyMarket_fresh, ?_, ?_⟩
  · intro h
    obtain ⟨detail, hdetail⟩ := h none (.uuid 1) _ rfl
    cases hdetail
  · intro h
    obtain ⟨detail, hdetail⟩ := h none (.uuid 1) _ rfl
    cases hdetail

end HostPlatform
