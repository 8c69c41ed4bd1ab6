-- SUMMARY: What a step of the listing system does to a listing: an edit, which never publishes unreviewed content, an insertion, a pilot review, or the update of a call that publishes.
import HostPlatform.Listings

namespace HostPlatform

open Lib Lib.Transition

/-- What a pilot review looks at: the columns the trigger compares, and the gallery. -/
structure ReviewedListing where
  content : ListingContent
  complianceStatus : ComplianceStatus
  images : List PropertyImage
  deriving DecidableEq, Repr

def ListingDb.reviewed (db : ListingDb) (r : Listing) : ReviewedListing :=
  ⟨r.content, r.complianceStatus, db.imagesOf r.id⟩

/-! ## Edits -/

/-- A row that was not published, before and after: either what is reviewed of it and the
review are as they were, or it is not approved, and published only if it was so unapproved. -/
inductive Listing.Edit (db db' : ListingDb) (r r' : Listing) : Prop where
  | kept (hpilot : r'.pilotReviewStatus = r.pilotReviewStatus)
      (hreviewed : db'.reviewed r' = db.reviewed r)
      (hstatus : r'.status = .published → r.status = .published)
  | withdrawn (hpilot : r'.pilotReviewStatus ≠ .approved)
      (hstatus : r'.status = .published → r.status = .published ∧ r.pilotReviewStatus ≠ .approved)

@[refl] theorem Listing.Edit.refl (db : ListingDb) (r : Listing) : r.Edit db db r :=
  .kept rfl rfl fun h => h

theorem Listing.Edit.trans {db db' db'' : ListingDb} {r r' r'' : Listing} (h : r.Edit db db' r')
    (h' : r'.Edit db' db'' r'') : r.Edit db db'' r'' := by
  cases h with
  | kept hpilot hreviewed hstatus =>
    cases h' with
    | kept hpilot' hreviewed' hstatus' =>
      exact .kept (hpilot'.trans hpilot) (hreviewed'.trans hreviewed) fun h => hstatus (hstatus' h)
    | withdrawn hpilot' hstatus' =>
      refine .withdrawn hpilot' fun h => ?_
      obtain ⟨hpub, hnot⟩ := hstatus' h
      exact ⟨hstatus hpub, hpilot ▸ hnot⟩
  | withdrawn hpilot hstatus =>
    cases h' with
    | kept hpilot' hreviewed' hstatus' =>
      exact .withdrawn (hpilot' ▸ hpilot) fun h => hstatus (hstatus' h)
    | withdrawn hpilot' hstatus' =>
      exact .withdrawn hpilot' fun h => hstatus (hstatus' h).1

/-- The listings are edited in place, and no host is lost. -/
structure ListingDb.Edits (db db' : ListingDb) : Prop where
  rows : db.listings.Rowwise (fun r r' => r'.hostId = r.hostId ∧ r.Edit db db' r') db'.listings
  hosts : ∀ h, (db.hosts.find? h).isSome → (db'.hosts.find? h).isSome

@[simp] theorem content_invalidatePropertyPilotReview (old new : Listing) :
    (invalidatePropertyPilotReview old new).content = new.content := by
  unfold invalidatePropertyPilotReview
  split <;> rfl

namespace ListingDb

@[refl] theorem Edits.refl (db : ListingDb) : db.Edits db where
  rows := .refl (fun r => ⟨rfl, .refl db r⟩) _
  hosts := fun _ h => h

theorem Edits.trans {db db' db'' : ListingDb} (h : db.Edits db') (h' : db'.Edits db'') :
    db.Edits db'' where
  rows := by
    intro p
    cases hr'' : db''.listings.find? p with
    | none =>
      cases hr : db.listings.find? p with
      | none => exact .none
      | some r =>
        obtain ⟨r', hr', -⟩ := h.rows.of_find? hr
        obtain ⟨r'', hr, -⟩ := h'.rows.of_find? hr'
        rw [hr''] at hr
        cases hr
    | some r'' =>
      obtain ⟨r', hr', hhost', hedit'⟩ := h'.rows.to_find? hr''
      obtain ⟨r, hr, hhost, hedit⟩ := h.rows.to_find? hr'
      rw [hr]
      exact .some ⟨hhost'.trans hhost, hedit.trans hedit'⟩
  hosts := fun k hk => h'.hosts k (h.hosts k hk)

/-- Statements on other tables, galleries apart. -/
theorem Edits.of_same {db db' : ListingDb} (hlistings : db'.listings = db.listings)
    (himages : db'.images = db.images)
    (hhosts : ∀ h, (db.hosts.find? h).isSome → (db'.hosts.find? h).isSome) : db.Edits db' where
  rows := by
    rw [hlistings]
    refine .refl (fun r => ⟨rfl, .kept rfl ?_ fun h => h⟩) _
    simp only [reviewed, imagesOf, himages]
  hosts := hhosts

theorem find?_updateListing (db : ListingDb) (p : PropertyId) (f : Listing → Listing) (hf)
    (q : PropertyId) :
    (db.updateListing p f hf).listings.find? q =
      if q = p then (db.listings.find? p).map fun r => invalidatePropertyPilotReview r (f r)
      else db.listings.find? q :=
  Table.find?_modify _ _ _ (fun r => (invalidatePropertyPilotReview_id r (f r)).trans (hf r)) _

theorem content_updateListing (db : ListingDb) (p : PropertyId) (f : Listing → Listing) (hf)
    (hcontent : ∀ r, (f r).content = r.content) (q : PropertyId) :
    ((db.updateListing p f hf).listings.find? q).map Listing.content =
      (db.listings.find? q).map Listing.content := by
  rw [find?_updateListing]
  split
  · rename_i hq
    rw [hq, Option.map_map]
    refine Option.map_congr fun r _ => ?_
    simp [hcontent]
  · rfl

/-- Columns set without publishing and without a decision. -/
theorem Edits.updateListing (db : ListingDb) (p : PropertyId) (f : Listing → Listing)
    (hf : ∀ r, (f r).id = r.id) (hhost : ∀ r, (f r).hostId = r.hostId)
    (hpilot : ∀ r, (f r).pilotReviewStatus = r.pilotReviewStatus)
    (hstatus : ∀ r, (f r).status = .published → r.status = .published) :
    db.Edits (db.updateListing p f hf) where
  rows := by
    refine Table.Rowwise.modify (fun r => ⟨rfl, .kept rfl rfl fun h => h⟩)
      (fun r => (invalidatePropertyPilotReview_id r (f r)).trans (hf r)) fun r _ => ?_
    by_cases hdrop : r.pilotReviewStatus = .approved ∧
        (r.content, r.complianceStatus) ≠ ((f r).content, (f r).complianceStatus)
    · simp only [invalidatePropertyPilotReview, if_pos hdrop]
      refine ⟨hhost r, .withdrawn nofun fun h => ?_⟩
      by_cases hpub : r.status = .published
      · rw [if_pos hpub] at h
        cases h
      · rw [if_neg hpub] at h
        exact absurd (hstatus r h) hpub
    · simp only [invalidatePropertyPilotReview, if_neg hdrop]
      refine ⟨hhost r, ?_⟩
      by_cases happroved : r.pilotReviewStatus = .approved
      · have hsame : (r.content, r.complianceStatus) = ((f r).content, (f r).complianceStatus) := by
          by_contra hne
          exact hdrop ⟨happroved, hne⟩
        obtain ⟨hcontent, hcompliance⟩ := Prod.mk.inj hsame
        refine .kept (hpilot r) ?_ (hstatus r)
        simp only [reviewed, hf, hcontent, hcompliance, imagesOf, ListingDb.updateListing]
      · exact .withdrawn (by rw [hpilot]; exact happroved) fun h => ⟨hstatus r h, happroved⟩
  hosts := fun _ h => h

/-! ## Galleries -/

/-- A write on one gallery, and the trigger after its first row. -/
theorem Edits.withdraw {db db' : ListingDb} {image : PropertyImage}
    (hlistings : db'.listings = db.listings) (hhosts : db'.hosts = db.hosts)
    (himages : ∀ q, q ≠ image.propertyId → db'.imagesOf q = db.imagesOf q) :
    db.Edits (db'.invalidatePropertyImagePilotReview image) where
  rows := by
    intro q
    simp only [invalidatePropertyImagePilotReview, hlistings, Table.find?_modify]
    by_cases hq : q = image.propertyId
    · rw [if_pos hq, ← hq]
      cases hr : db.listings.find? q with
      | none => exact .none
      | some r =>
        refine .some ?_
        by_cases happroved : r.pilotReviewStatus = .approved
        · simp only [withdrawPilotReview, if_pos happroved]
          refine ⟨trivial, .withdrawn nofun fun h => ?_⟩
          by_cases hpub : r.status = .published
          · rw [if_pos hpub] at h
            cases h
          · rw [if_neg hpub] at h
            exact absurd h hpub
        · simp only [withdrawPilotReview, if_neg happroved]
          exact ⟨trivial, .withdrawn happroved fun h => ⟨h, happroved⟩⟩
    · rw [if_neg hq]
      cases hr : db.listings.find? q with
      | none => exact .none
      | some r =>
        refine .some ⟨rfl, .kept rfl ?_ fun h => h⟩
        have hid : r.id = q := Table.key_of_find? hr
        simp only [reviewed, hid]
        exact congrArg _ (himages q hq)
  hosts := fun h hh => by
    simp only [invalidatePropertyImagePilotReview, hhosts]
    exact hh

theorem Edits.afterImages (db : ListingDb) (rows : List PropertyImage) : db.Edits (db.afterImages rows) := by
  induction rows generalizing db with
  | nil => exact .refl db
  | cons image rows ih =>
    have hfirst : db.Edits (db.invalidatePropertyImagePilotReview image) := .withdraw rfl rfl fun _ _ => rfl
    exact hfirst.trans (ih _)

/-- The trigger runs for each written row, so that a write on a gallery is an edit. -/
theorem Edits.of_images {db : ListingDb} {images : Table PropertyImage} {p : PropertyId}
    {rows : List PropertyImage} (hrows : ∀ i ∈ rows, i.propertyId = p)
    (hidle : rows = [] → images = db.images)
    (hother : ∀ q, q ≠ p → { db with images := images }.imagesOf q = db.imagesOf q) :
    db.Edits ({ db with images := images }.afterImages rows) := by
  cases rows with
  | nil =>
    rw [hidle rfl]
    exact .refl db
  | cons image rows =>
    have hp : image.propertyId = p := hrows image List.mem_cons_self
    have hfirst : db.Edits ({ db with images := images }.invalidatePropertyImagePilotReview image) := by
      refine .withdraw rfl rfl fun q hq => ?_
      exact hother q (hp ▸ hq)
    exact hfirst.trans (.afterImages _ rows)

/-! ## What a transaction writes -/

/-- The writes of a transaction that is no pilot review: compliance columns, galleries, and
tables beside the listings. -/
inductive Writes : ListingDb → ListingDb → Prop
  | refl (db : ListingDb) : Writes db db
  | trans {db db' db'' : ListingDb} (h : Writes db db') (h' : Writes db' db'') : Writes db db''
  | compliance (db : ListingDb) (p : PropertyId) (f : Listing → Listing) (hf : ∀ r, (f r).id = r.id)
      (hkept : ∀ r, (f r).hostId = r.hostId ∧ (f r).content = r.content ∧ (f r).status = r.status ∧
        (f r).pilotReviewStatus = r.pilotReviewStatus) : Writes db (db.updateListing p f hf)
  | images {db : ListingDb} {images : Table PropertyImage} {p : PropertyId} {rows : List PropertyImage}
      (hrows : ∀ i ∈ rows, i.propertyId = p) (hidle : rows = [] → images = db.images)
      (hother : ∀ q, q ≠ p → { db with images := images }.imagesOf q = db.imagesOf q) :
      Writes db ({ db with images := images }.afterImages rows)
  | others {db db' : ListingDb} (hlistings : db'.listings = db.listings) (himages : db'.images = db.images)
      (hhosts : ∀ h, (db.hosts.find? h).isSome → (db'.hosts.find? h).isSome)
      (hamenities : db'.amenities = db.amenities)
      (hpropertyAmenities : db'.propertyAmenities = db.propertyAmenities) : Writes db db'

/-- The writes of a transaction on the images of a property. -/
inductive GalleryWrites : ListingDb → ListingDb → Prop
  | refl (db : ListingDb) : GalleryWrites db db
  | trans {db db' db'' : ListingDb} (h : GalleryWrites db db') (h' : GalleryWrites db' db'') : GalleryWrites db db''
  | images {db : ListingDb} {images : Table PropertyImage} {p : PropertyId} {rows : List PropertyImage}
      (hrows : ∀ i ∈ rows, i.propertyId = p) (hidle : rows = [] → images = db.images)
      (hother : ∀ q, q ≠ p → { db with images := images }.imagesOf q = db.imagesOf q) :
      GalleryWrites db ({ db with images := images }.afterImages rows)

theorem GalleryWrites.writes {db db' : ListingDb} (h : db.GalleryWrites db') : db.Writes db' := by
  induction h with
  | refl db => exact .refl db
  | trans h h' ih ih' => exact ih.trans ih'
  | images hrows hidle hother => exact .images hrows hidle hother

theorem Writes.edits {db db' : ListingDb} (h : db.Writes db') : db.Edits db' := by
  induction h with
  | refl db => exact .refl db
  | trans h h' ih ih' => exact ih.trans ih'
  | compliance db p f hf hkept =>
    refine .updateListing db p f hf (fun r => (hkept r).1) (fun r => (hkept r).2.2.2) fun r h => ?_
    rw [← (hkept r).2.2.1]
    exact h
  | images hrows hidle hother => exact .of_images hrows hidle hother
  | others hlistings himages hhosts hamenities hpropertyAmenities => exact .of_same hlistings himages hhosts

/-- What the trigger leaves of a row, it leaves of all rows. -/
theorem map_afterImages {α : Type} {f : Listing → α} (hf : ∀ r, f (withdrawPilotReview r) = f r) (db : ListingDb)
    (rows : List PropertyImage) (p : PropertyId) :
    ((db.afterImages rows).listings.find? p).map f = (db.listings.find? p).map f := by
  induction rows generalizing db with
  | nil => rfl
  | cons image rows ih =>
    refine (ih _).trans ?_
    simp only [invalidatePropertyImagePilotReview, Table.find?_modify]
    split
    · rename_i hp
      rw [hp, Option.map_map]
      exact Option.map_congr fun r _ => hf r
    · rfl

theorem content_afterImages (db : ListingDb) (rows : List PropertyImage) (p : PropertyId) :
    ((db.afterImages rows).listings.find? p).map Listing.content =
      (db.listings.find? p).map Listing.content :=
  map_afterImages (fun r => by unfold withdrawPilotReview; split <;> rfl) db rows p

theorem Writes.content {db db' : ListingDb} (h : db.Writes db') (p : PropertyId) :
    (db'.listings.find? p).map Listing.content = (db.listings.find? p).map Listing.content := by
  induction h with
  | refl db => rfl
  | trans h h' ih ih' => exact ih'.trans ih
  | compliance db q f hf hkept => exact content_updateListing db q f hf (fun r => (hkept r).2.1) p
  | images hrows hidle hother => exact content_afterImages _ _ p
  | others hlistings himages hhosts hamenities hpropertyAmenities => rw [hlistings]

@[simp] theorem amenities_afterImages (db : ListingDb) (rows : List PropertyImage) :
    (db.afterImages rows).amenities = db.amenities := by
  induction rows generalizing db with
  | nil => rfl
  | cons image rows ih => exact ih _

@[simp] theorem propertyAmenities_afterImages (db : ListingDb) (rows : List PropertyImage) :
    (db.afterImages rows).propertyAmenities = db.propertyAmenities := by
  induction rows generalizing db with
  | nil => rfl
  | cons image rows ih => exact ih _

theorem Writes.amenities {db db' : ListingDb} (h : db.Writes db') :
    db'.amenities = db.amenities ∧ db'.propertyAmenities = db.propertyAmenities := by
  induction h with
  | refl db => exact ⟨rfl, rfl⟩
  | trans h h' ih ih' => exact ⟨ih'.1.trans ih.1, ih'.2.trans ih.2⟩
  | compliance db p f hf hkept => exact ⟨rfl, rfl⟩
  | images hrows hidle hother => exact ⟨amenities_afterImages _ _, propertyAmenities_afterImages _ _⟩
  | others hlistings himages hhosts hamenities hpropertyAmenities => exact ⟨hamenities, hpropertyAmenities⟩

/-- What the statements over `property_images` leave in the gallery of a property. -/
theorem imagesOf_insertNew (db : ListingDb) (mk : ImageId → PropertyImage) (hmk : ∀ k, (mk k).id = k) (p : PropertyId) :
    { db with images := db.images.insertNew mk hmk }.imagesOf p =
      db.imagesOf p ++ if (mk db.images.freshKey).propertyId = p then [mk db.images.freshKey] else [] := by
  simp only [imagesOf, Table.select, Table.rows_insertNew, List.filter_append]
  congr 1
  by_cases hp : (mk db.images.freshKey).propertyId = p
  · simp [hp]
  · simp [hp]

theorem imagesOf_updateWhere (db : ListingDb) (q : PropertyId) (cond : PropertyImage → Bool)
    (f : PropertyImage → PropertyImage) (hf : ∀ i, (f i).id = i.id)
    (hproperty : ∀ i, (f i).propertyId = i.propertyId) (p : PropertyId) :
    { db with images := db.images.updateWhere (fun i => decide (i.propertyId = q) && cond i) f hf }.imagesOf p =
      (db.imagesOf p).map fun i => if q = p ∧ cond i then f i else i := by
  simp only [imagesOf, Table.select, Table.rows_updateWhere]
  induction db.images.rows with
  | nil => rfl
  | cons i rows ih =>
    rw [List.map_cons, List.filter_cons, List.filter_cons, ih]
    by_cases hp : i.propertyId = p
    · by_cases hq : q = p
      · by_cases hcond : cond i
        · simp [hp, hq, hcond, hproperty]
        · simp [hp, hq, hcond]
      · have hne : p ≠ q := fun h => hq h.symm
        simp [hp, hq, hne]
    · by_cases hq : i.propertyId = q
      · have hne : q ≠ p := fun h => hp (hq.trans h)
        by_cases hcond : cond i
        · simp [hcond, hproperty, hq, hne]
        · simp [hcond, hq, hne]
      · simp [hp, hq]

theorem imagesOf_deleteWhere (db : ListingDb) (q : PropertyId) (cond : PropertyImage → Bool) (p : PropertyId) :
    { db with images := db.images.deleteWhere fun i => decide (i.propertyId = q) && cond i }.imagesOf p =
      (db.imagesOf p).filter fun i => !(decide (q = p) && cond i) := by
  simp only [imagesOf, Table.select, Table.rows_deleteWhere, List.filter_filter]
  refine List.filter_congr fun i _ => ?_
  by_cases hp : i.propertyId = p
  · simp [hp, eq_comm]
  · simp [hp]

theorem GalleryWrites.insertImage (db : ListingDb) (mk : ImageId → PropertyImage) (hmk : ∀ k, (mk k).id = k) :
    db.GalleryWrites (db.insertImage mk hmk) := by
  refine .images (p := (mk db.images.freshKey).propertyId) ?_ nofun ?_
  · intro i hi
    rw [List.mem_singleton.mp hi]
  · intro q hq
    rw [imagesOf_insertNew, if_neg (Ne.symm hq), List.append_nil]

theorem mem_imagesOf {db : ListingDb} {p : PropertyId} {i : PropertyImage} :
    i ∈ db.imagesOf p ↔ i ∈ db.images.rows ∧ i.propertyId = p := by
  simp [imagesOf, Table.select]

/-- The rows a statement with `WHERE property_id = $1 AND cond` writes. -/
theorem written_eq_nil {db : ListingDb} {p : PropertyId} {cond : PropertyImage → Bool}
    (h : (db.imagesOf p).filter cond = []) {i : PropertyImage} (hi : i ∈ db.images.rows) :
    (decide (i.propertyId = p) && cond i) = false := by
  rw [List.filter_eq_nil_iff] at h
  by_cases hp : i.propertyId = p
  · have hcond := h i (mem_imagesOf.mpr ⟨hi, hp⟩)
    simp [hp, hcond]
  · simp [hp]

theorem GalleryWrites.updateImages (db : ListingDb) (p : PropertyId) (cond : PropertyImage → Bool)
    (f : PropertyImage → PropertyImage) (hf : ∀ i, (f i).id = i.id)
    (hproperty : ∀ i, (f i).propertyId = i.propertyId := by intro i; rfl) :
    db.GalleryWrites (db.updateImages p cond f hf) := by
  refine .images (p := p) ?_ ?_ ?_
  · intro i hi
    exact (mem_imagesOf.mp (List.mem_filter.mp hi).1).2
  · intro hnone
    refine Table.updateWhere_eq_self _ fun i hi hwritten => ?_
    rw [written_eq_nil hnone hi] at hwritten
    cases hwritten
  · intro q hq
    rw [imagesOf_updateWhere db p cond f hf hproperty]
    simp [Ne.symm hq]

theorem GalleryWrites.deleteImages (db : ListingDb) (p : PropertyId) (cond : PropertyImage → Bool) :
    db.GalleryWrites (db.deleteImages p cond) := by
  refine .images (p := p) ?_ ?_ ?_
  · intro i hi
    exact (mem_imagesOf.mp (List.mem_filter.mp hi).1).2
  · intro hnone
    apply Table.ext
    rw [Table.rows_deleteWhere, List.filter_eq_self]
    intro i hi
    rw [written_eq_nil hnone hi]
    rfl
  · intro q hq
    rw [imagesOf_deleteWhere]
    simp [Ne.symm hq]

end ListingDb

/-! ## Transactions -/

theorem registerUploadedPropertyImage_galleryWrites {db db' : ListingDb} {now : Int} {p : PropertyId}
    {userId : UserId} {blob : UploadedPropertyBlob} {image : PropertyImage}
    (h : registerUploadedPropertyImage db now p userId blob = .ok (image, db')) : db.GalleryWrites db' := by
  obtain ⟨-, -, h⟩ := bind_eq_ok.mp h
  cases hexisting : db.images.rows.find? fun i => decide (i.blobUrl = blob.url) with
  | some existing =>
    simp only [hexisting] at h
    obtain ⟨-, -, h⟩ := bind_eq_ok.mp h
    cases h
    exact .refl db
  | none =>
    simp only [hexisting] at h
    obtain ⟨-, -, h⟩ := bind_eq_ok.mp h
    obtain ⟨-, -, h⟩ := bind_eq_ok.mp h
    obtain ⟨-, -, h⟩ := bind_eq_ok.mp h
    cases h
    exact .insertImage db _ _

theorem setPropertyImageCover_galleryWrites {db db' : ListingDb} {p : PropertyId} {imageId : ImageId}
    {userId : UserId} {image : PropertyImage}
    (h : setPropertyImageCover db p imageId userId = .ok (image, db')) : db.GalleryWrites db' := by
  obtain ⟨-, -, h⟩ := bind_eq_ok.mp h
  dsimp only at h
  obtain ⟨written, -, h⟩ := bind_eq_ok.mp h
  cases h
  exact (ListingDb.GalleryWrites.updateImages db _ _ _ _).trans (.updateImages _ _ _ _ _)

theorem updatePropertyImageAltText_galleryWrites {db db' : ListingDb} {p : PropertyId} {imageId : ImageId}
    {userId : UserId} {altText : Option String} {image : PropertyImage}
    (h : updatePropertyImageAltText db p imageId userId altText = .ok (image, db')) : db.GalleryWrites db' := by
  obtain ⟨-, -, h⟩ := bind_eq_ok.mp h
  dsimp only at h
  obtain ⟨written, -, h⟩ := bind_eq_ok.mp h
  cases h
  exact .updateImages db _ _ _ _

theorem setSortOrders_galleryWrites (db : ListingDb) (p : PropertyId) (sortOrder : Int) (imageIds : List ImageId) :
    db.GalleryWrites (setSortOrders p db sortOrder imageIds) := by
  induction imageIds generalizing db sortOrder with
  | nil => exact .refl db
  | cons imageId rest ih =>
    unfold setSortOrders
    exact (ListingDb.GalleryWrites.updateImages db _ _ _ _).trans (ih _ _)

theorem reorderPropertyImages_galleryWrites {db db' : ListingDb} {p : PropertyId} {imageIds : List ImageId}
    {userId : UserId} {images : List PropertyImage}
    (h : reorderPropertyImages db p imageIds userId = .ok (images, db')) : db.GalleryWrites db' := by
  obtain ⟨-, -, h⟩ := bind_eq_ok.mp h
  obtain ⟨-, -, h⟩ := bind_eq_ok.mp h
  cases h
  exact setSortOrders_galleryWrites db p 0 imageIds

theorem deletePropertyImage_galleryWrites {db db' : ListingDb} {p : PropertyId} {imageId : ImageId}
    {userId : UserId} {url : String}
    (h : deletePropertyImage db p imageId userId = .ok (url, db')) : db.GalleryWrites db' := by
  obtain ⟨image, -, h⟩ := bind_eq_ok.mp h
  have hdeleted := ListingDb.GalleryWrites.deleteImages db p fun i => decide (i.id = imageId)
  dsimp only at h
  split at h
  · split at h
    · cases h
      exact hdeleted.trans (.updateImages _ _ _ _ _)
    · cases h
      exact hdeleted
  · cases h
    exact hdeleted

/-- The items of a compliance record are no part of the listing. -/
theorem upsertComplianceItems_writes {now : Int} {p : PropertyId} {items : List OwnerComplianceItem}
    {db db' : ListingDb} (h : items.foldlM (upsertComplianceItem now p) db = .ok db') : db.Writes db' := by
  induction items generalizing db with
  | nil =>
    cases h
    exact .refl _
  | cons item items ih =>
    obtain ⟨db₁, hitem, h⟩ := bind_eq_ok.mp h
    obtain ⟨-, -, hitem⟩ := bind_eq_ok.mp hitem
    obtain ⟨-, -, hitem⟩ := bind_eq_ok.mp hitem
    cases hitem
    have hset : db.Writes (db.setComplianceItem p item.category (item.record now)) :=
      .others rfl rfl (fun _ h => h) rfl rfl
    exact hset.trans (ih h)

theorem saveOwnerCompliance_writes {db db' : ListingDb} {now : Int} {p : PropertyId}
    {items : List OwnerComplianceItem} {submit : Bool} {status : ComplianceStatus}
    (h : saveOwnerCompliance db now p items submit = .ok (status, db')) : db.Writes db' := by
  obtain ⟨db₁, hitems, h⟩ := bind_eq_ok.mp h
  have hupdate : db.Writes (db₁.updateListing p (Listing.setOwnerCompliance now submit)) :=
    (upsertComplianceItems_writes hitems).trans
      (.compliance db₁ p (Listing.setOwnerCompliance now submit) _ fun _ => ⟨rfl, rfl, rfl, rfl⟩)
  cases submit with
  | false =>
    cases h
    exact hupdate
  | true =>
    dsimp only [if_pos] at h
    obtain ⟨-, -, h⟩ := bind_eq_ok.mp h
    cases h
    exact hupdate

theorem reviewPropertyCompliance_writes {db db' : ListingDb} {now : Int} {p : PropertyId}
    {reviewer : UserId} {decision : ComplianceDecision} {note : String} {status : ComplianceStatus}
    (h : reviewPropertyCompliance db now p reviewer decision note = .ok (status, db')) :
    db.Writes db' := by
  have hitems : db.Writes (db.reviewItems now p reviewer decision note) := .others rfl rfl (fun _ h => h) rfl rfl
  have hupdate : db.Writes ((db.reviewItems now p reviewer decision note).updateListing p
      (Listing.setComplianceReview now reviewer decision note)) :=
    hitems.trans (.compliance _ p (Listing.setComplianceReview now reviewer decision note) _
      fun _ => ⟨rfl, rfl, rfl, rfl⟩)
  unfold reviewPropertyCompliance at h
  split at h
  · split at h
    · obtain ⟨-, -, h⟩ := bind_eq_ok.mp h
      obtain ⟨-, -, h⟩ := bind_eq_ok.mp h
      split at h
      · dsimp only at h
        obtain ⟨-, -, h⟩ := bind_eq_ok.mp h
        cases h
        exact hupdate
      · cases h
        exact hupdate
    · cases h
  · cases h

theorem ListingTx.exec_writes (db : ListingDb) {t : ListingTx}
    (ht : ∀ now p reviewer decision note, t ≠ .reviewPilotListing now p reviewer decision note) :
    db.Writes (t.exec db) := by
  have hcommit : ∀ {α : Type} {r : Except ListingError (α × ListingDb)},
      (∀ a db', r = .ok (a, db') → db.Writes db') → db.Writes (commit db r) := fun h =>
    commit_of (.refl db) h
  cases t with
  | ensureHostProfile userId =>
    simp only [exec, HostPlatform.ensureHostProfile]
    split
    · exact .refl db
    · refine .others rfl rfl (fun h hh => ?_) rfl rfl
      rw [Table.find?_insertNew]
      split
      · rfl
      · exact hh
  | recordHostAgreementAcceptance now hostId =>
    refine .others rfl rfl (fun h hh => ?_) rfl rfl
    simp only [exec, HostPlatform.recordHostAgreementAcceptance, Table.modify, Table.find?_updateWhere,
      Option.isSome_map]
    exact hh
  | setPayoutAccountStatus hostId status =>
    refine .others rfl rfl (fun h hh => ?_) rfl rfl
    simp only [exec, HostPlatform.setPayoutAccountStatus, Table.modify, Table.find?_updateWhere,
      Option.isSome_map]
    exact hh
  | registerUploadedPropertyImage now p userId blob =>
    exact hcommit fun _ _ h => (registerUploadedPropertyImage_galleryWrites h).writes
  | setPropertyImageCover p imageId userId => exact hcommit fun _ _ h => (setPropertyImageCover_galleryWrites h).writes
  | updatePropertyImageAltText p imageId userId altText =>
    exact hcommit fun _ _ h => (updatePropertyImageAltText_galleryWrites h).writes
  | reorderPropertyImages p imageIds userId => exact hcommit fun _ _ h => (reorderPropertyImages_galleryWrites h).writes
  | deletePropertyImage p imageId userId => exact hcommit fun _ _ h => (deletePropertyImage_galleryWrites h).writes
  | saveOwnerCompliance now p items submit => exact hcommit fun _ _ => saveOwnerCompliance_writes
  | reviewPropertyCompliance now p reviewer decision note =>
    exact hcommit fun _ _ => reviewPropertyCompliance_writes
  | reviewPilotListing now p reviewer decision note => exact absurd rfl (ht now p reviewer decision note)

/-- Every transaction but a pilot review is an edit. -/
theorem ListingTx.exec_edits (db : ListingDb) {t : ListingTx}
    (ht : ∀ now p reviewer decision note, t ≠ .reviewPilotListing now p reviewer decision note) :
    db.Edits (t.exec db) :=
  (ListingTx.exec_writes db ht).edits

/-! ## Pilot reviews -/

/-- A review sets no column that the trigger compares. -/
theorem invalidatePropertyPilotReview_of_same {old new : Listing} (hcontent : new.content = old.content)
    (hcompliance : new.complianceStatus = old.complianceStatus) :
    invalidatePropertyPilotReview old new = new := by
  unfold invalidatePropertyPilotReview
  rw [if_neg]
  rintro ⟨-, hne⟩
  exact hne (by rw [hcontent, hcompliance])

theorem invalidatePropertyPilotReview_setPilotReview (now : Int) (reviewer : UserId)
    (decision : PilotReviewDecision) (note : String) (r : Listing) :
    invalidatePropertyPilotReview r (r.setPilotReview now reviewer decision note) =
      r.setPilotReview now reviewer decision note :=
  invalidatePropertyPilotReview_of_same rfl rfl

theorem getListingReadiness_isSome {db : ListingDb} {now : Int} {p : PropertyId} :
    (getListingReadiness db now p).isSome ↔
      ∃ r, db.listings.find? p = some r ∧ (db.hosts.find? r.hostId).isSome := by
  unfold getListingReadiness ListingDb.readinessRow
  cases hr : db.listings.find? p with
  | none => simp
  | some r => simp

/-- What a review that commits found, and leaves. -/
theorem reviewPilotListing_eq_ok {db db' : ListingDb} {now : Int} {p : PropertyId} {reviewer : UserId}
    {decision : PilotReviewDecision} {note : String} {report : ListingReadinessReport}
    (h : reviewPilotListing db now p reviewer decision note = .ok (report, db')) :
    (∃ r, db.listings.find? p = some r) ∧
      db' = db.updateListing p (Listing.setPilotReview now reviewer decision note) := by
  unfold reviewPilotListing at h
  split at h
  · rename_i report₀ hreport
    have hsome : (getListingReadiness db now p).isSome := by rw [hreport]; rfl
    obtain ⟨r, hr, -⟩ := getListingReadiness_isSome.mp hsome
    refine ⟨⟨r, hr⟩, ?_⟩
    split at h
    · dsimp only at h
      obtain ⟨-, -, h⟩ := bind_eq_ok.mp h
      split at h
      · cases h
        rfl
      · cases h
    · dsimp only at h
      split at h
      · cases h
        rfl
      · cases h
  · cases h

/-- Changes can be required of every listing. -/
theorem reviewPilotListing_changesRequired {db : ListingDb} {p : PropertyId} {r : Listing}
    (hr : db.listings.find? p = some r) (hhost : (db.hosts.find? r.hostId).isSome) (now : Int)
    (reviewer : UserId) (note : String) :
    commit db (reviewPilotListing db now p reviewer .changesRequired note) =
      db.updateListing p (Listing.setPilotReview now reviewer .changesRequired note) := by
  have hfind : (db.updateListing p
      (Listing.setPilotReview now reviewer .changesRequired note)).listings.find? p =
      some (Listing.setPilotReview now reviewer .changesRequired note r) := by
    refine (db.find?_updateListing p _ _ p).trans ?_
    rw [if_pos rfl, hr, Option.map_some]
    exact congrArg some (invalidatePropertyPilotReview_setPilotReview ..)
  have hbefore : (getListingReadiness db now p).isSome := getListingReadiness_isSome.mpr ⟨r, hr, hhost⟩
  have hafter : (getListingReadiness (db.updateListing p
      (Listing.setPilotReview now reviewer .changesRequired note)) now p).isSome :=
    getListingReadiness_isSome.mpr ⟨_, hfind, hhost⟩
  obtain ⟨report, hreport⟩ := Option.isSome_iff_exists.mp hbefore
  obtain ⟨updated, hupdated⟩ := Option.isSome_iff_exists.mp hafter
  unfold reviewPilotListing
  simp only [hreport, hupdated]
  rfl

/-! ## Steps -/

/-- The `UPDATE` of a call writes its row, unless it is refused. -/
theorem stepPropertyCall_update {db : ListingDb} {now : Int} {call : PropertyCall} (hphase : call.phase = .update) :
    (stepPropertyCall db now call).2 =
      if db.acceptsUpdate call.propertyId call.input then db.updateListing call.propertyId call.input.setListing
      else db := by
  unfold stepPropertyCall
  rw [hphase]
  dsimp only
  split <;> rfl

theorem find?_stepPropertyCall_update {db : ListingDb} {now : Int} {call : PropertyCall}
    (hphase : call.phase = .update) (haccepts : db.acceptsUpdate call.propertyId call.input) (p : PropertyId) :
    (stepPropertyCall db now call).2.listings.find? p =
      if p = call.propertyId then
        (db.listings.find? call.propertyId).map fun r => invalidatePropertyPilotReview r (call.input.setListing r)
      else db.listings.find? p := by
  rw [stepPropertyCall_update hphase, if_pos haccepts]
  exact db.find?_updateListing call.propertyId call.input.setListing (fun _ => rfl) p

/-- Only the `UPDATE` of a call writes the listings. -/
theorem listings_stepPropertyCall {db : ListingDb} {now : Int} {call : PropertyCall} (hphase : call.phase ≠ .update) :
    (stepPropertyCall db now call).2.listings = db.listings := by
  unfold stepPropertyCall
  split
  · split <;> rfl
  · split <;> rfl
  · contradiction
  · rfl
  · rfl
  · split <;> rfl

/-- What the step approves of the property: its state when the review commits. -/
def Listings.approvedBy (s : Listings) (p : PropertyId) : ListingLabel → Option ReviewedListing
  | .transaction (.reviewPilotListing now q reviewer .approved note) =>
    match reviewPilotListing s.db now q reviewer .approved note with
    | .ok _ => if q = p then (s.db.listings.find? p).map s.db.reviewed else none
    | .error _ => none
  | _ => none

/-- The tables after a step. -/
inductive Listings.Leaves (s : Listings) (l : ListingLabel) (db' : ListingDb) : Prop where
  | edits (hedits : s.db.Edits db') (hnone : ∀ p, s.approvedBy p l = none)
  | inserts (hostId : HostId) (content : ListingContent) (status : PropertyStatus)
      (hstatus : status ≠ .published) (hhost : (s.db.hosts.find? hostId).isSome)
      (hdb : db' = s.db.insertListing hostId content status)
      (hnone : ∀ p, s.approvedBy p l = none)
  | decides (now : Int) (p : PropertyId) (reviewer : UserId) (decision : PilotReviewDecision)
      (note : String) (r : Listing)
      (hl : l = .transaction (.reviewPilotListing now p reviewer decision note))
      (hr : s.db.listings.find? p = some r)
      (hdb : db' = s.db.updateListing p (Listing.setPilotReview now reviewer decision note))
      (happroved : ∀ q, s.approvedBy q l =
        if decision = .approved ∧ p = q then some (s.db.reviewed r) else none)
  | publishes (now : Int) (c : Nat) (call : PropertyCall) (hl : l = .call now c)
      (hcall : s.calls.find? c = some call) (hphase : call.phase = .update)
      (haccepts : s.db.acceptsUpdate call.propertyId call.input)
      (hstatus : call.input.status = some .published)
      (hdb : db' = s.db.updateListing call.propertyId call.input.setListing)

theorem Listings.createProperty_leaves (s : Listings) (hostId : HostId) (input : PropertyInput) :
    s.Leaves (.createProperty hostId input) (s.createProperty hostId input).db := by
  unfold createProperty
  split
  · exact .edits (.refl _) fun _ => rfl
  · rename_i p db h
    have hdb : s.Leaves (.createProperty hostId input) db := by
      obtain ⟨hdraft, content, haccepts, -, rfl⟩ := createPropertyForHost_eq_ok.mp h
      refine .inserts hostId content _ ?_ haccepts.host rfl fun _ => rfl
      cases hstatus : input.status with
      | none => nofun
      | some status =>
        rintro rfl
        exact hdraft hstatus
    split
    · exact hdb
    · exact hdb

theorem Listings.stepCall_db (s : Listings) (now : Int) (c : Nat) :
    (s.stepCall now c).db =
      match s.calls.find? c with
      | none => s.db
      | some call => (stepPropertyCall s.db now call).2 := by
  unfold stepCall
  cases s.calls.find? c with
  | none => rfl
  | some call =>
    dsimp only
    split <;> rename_i hstep <;> rw [hstep]

theorem Listings.stepCall_leaves (s : Listings) (now : Int) (c : Nat) :
    s.Leaves (.call now c) (s.stepCall now c).db := by
  rw [s.stepCall_db]
  cases hcall : s.calls.find? c with
  | none => exact .edits (.refl _) fun _ => rfl
  | some call =>
    dsimp only
    have hedits : s.db.Edits (stepPropertyCall s.db now call).2 →
        s.Leaves (.call now c) (stepPropertyCall s.db now call).2 := fun h => .edits h fun _ => rfl
    by_cases hphase : call.phase = .update
    · rw [stepPropertyCall_update hphase] at hedits ⊢
      by_cases haccepts : s.db.acceptsUpdate call.propertyId call.input
      case neg =>
        rw [if_neg haccepts] at hedits ⊢
        exact hedits (.refl _)
      rw [if_pos haccepts] at hedits ⊢
      by_cases hstatus : call.input.status = some .published
      · exact .publishes now c call rfl hcall hphase haccepts hstatus rfl
      · apply hedits
        refine .updateListing _ _ _ _ (fun _ => rfl) (fun _ => rfl) fun r h => ?_
        -- a submitted status is not `published`, and one that is not submitted stays
        unfold PropertyInput.setListing at h
        cases hinput : call.input.status with
        | none =>
          rw [hinput] at h
          exact h
        | some status =>
          rw [hinput] at h hstatus
          exact absurd (congrArg some h) hstatus
    unfold stepPropertyCall at hedits ⊢
    cases hother : call.phase with
    | readStatus =>
      simp only [hother] at hedits ⊢
      apply hedits
      split <;> rfl
    | assertCanPublish =>
      simp only [hother] at hedits ⊢
      apply hedits
      split <;> rfl
    | update => exact absurd hother hphase
    | clearAmenities =>
      simp only [hother] at hedits ⊢
      exact hedits (.of_same rfl rfl fun _ h => h)
    | insertAmenities rest =>
      cases rest with
      | nil =>
        simp only [hother] at hedits ⊢
        exact hedits (.refl _)
      | cons a rest =>
        simp only [hother] at hedits ⊢
        apply hedits
        split
        · exact .of_same rfl rfl fun _ h => h
        · exact .refl _

theorem Listings.review_leaves (s : Listings) (now : Int) (p : PropertyId) (reviewer : UserId)
    (decision : PilotReviewDecision) (note : String) :
    s.Leaves (.transaction (.reviewPilotListing now p reviewer decision note))
      (commit s.db (reviewPilotListing s.db now p reviewer decision note)) := by
  cases hreview : reviewPilotListing s.db now p reviewer decision note with
  | error e =>
    refine .edits (.refl _) fun q => ?_
    cases decision with
    | approved => simp only [approvedBy, hreview]
    | changesRequired => rfl
  | ok result =>
    obtain ⟨⟨r, hr⟩, hdb⟩ := reviewPilotListing_eq_ok hreview
    refine .decides now p reviewer decision note r rfl hr hdb fun q => ?_
    cases decision with
    | approved =>
      simp only [approvedBy, hreview, true_and]
      by_cases hq : p = q
      · rw [if_pos hq, if_pos hq, ← hq, hr, Option.map_some]
      · rw [if_neg hq, if_neg hq]
    | changesRequired =>
      rw [if_neg nofun]
      rfl

theorem Listings.transaction_leaves (s : Listings) (t : ListingTx) :
    s.Leaves (.transaction t) (t.exec s.db) := by
  have hedits : (∀ now p reviewer decision note,
      t ≠ .reviewPilotListing now p reviewer decision note) →
      (∀ p, s.approvedBy p (.transaction t) = none) → s.Leaves (.transaction t) (t.exec s.db) :=
    fun ht => .edits (ListingTx.exec_edits s.db ht)
  cases t with
  | reviewPilotListing now p reviewer decision note =>
    exact s.review_leaves now p reviewer decision note
  | ensureHostProfile | recordHostAgreementAcceptance | setPayoutAccountStatus
  | registerUploadedPropertyImage | setPropertyImageCover | updatePropertyImageAltText
  | reorderPropertyImages | deletePropertyImage | saveOwnerCompliance | reviewPropertyCompliance =>
    refine hedits ?_ fun _ => rfl
    intro _ _ _ _ _ h
    cases h

theorem Listings.step_leaves (s : Listings) (l : ListingLabel) : s.Leaves l (s.step l).db := by
  cases l with
  | transaction t => exact s.transaction_leaves t
  | createProperty hostId input => exact s.createProperty_leaves hostId input
  | updateProperty p input => exact .edits (.refl _) fun _ => rfl
  | call now c => exact s.stepCall_leaves now c
  | callCrash c => exact .edits (.refl _) fun _ => rfl

end HostPlatform
