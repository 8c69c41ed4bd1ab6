-- SUMMARY: What holds of a gallery over any calls on it: its size, its cover, its order, and what a reordering does.
import HostPlatform.Safety.ReviewedListing

/-!
# Galleries

Five calls write the gallery of a property, each in one transaction. What holds of the images as a
list is proved first, for lists; the calls then are operations on them.
-/

namespace HostPlatform

open Lib Lib.Transition

/-! ## Lists of images -/

/-- At most thirty images, one cover if there is any image, and no two images at one place. -/
structure IsGallery (images : List PropertyImage) : Prop where
  bounded : images.length ≤ maxPropertyImages
  cover : images.countP PropertyImage.isCover = if images = [] then 0 else 1
  orders : (images.map PropertyImage.sortOrder).Nodup

namespace IsGallery

variable {images : List PropertyImage}

theorem nil : IsGallery [] where
  bounded := Nat.zero_le _
  cover := rfl
  orders := List.nodup_nil

theorem lt_nextSortOrder {images : List PropertyImage} {i : PropertyImage} (hi : i ∈ images) :
    i.sortOrder < nextSortOrder images := by
  have hle : ∀ (l : List Int) (b : Int), b ≤ l.foldl max b ∧ ∀ n ∈ l, n ≤ l.foldl max b := by
    intro l
    induction l with
    | nil => simp
    | cons a l ih =>
      intro b
      obtain ⟨hbase, hrest⟩ := ih (max b a)
      refine ⟨le_trans (le_max_left b a) hbase, fun n hn => ?_⟩
      rcases List.mem_cons.mp hn with rfl | hn
      · exact le_trans (le_max_right b n) hbase
      · exact hrest n hn
  exact Int.lt_add_one_of_le ((hle _ _).2 _ (List.mem_map_of_mem hi))

/-- The first image is the cover, and every image is placed after the others. -/
theorem append (h : IsGallery images) (hfull : images.length < maxPropertyImages) {image : PropertyImage}
    (horder : image.sortOrder = nextSortOrder images) (hcover : image.isCover = images.isEmpty) :
    IsGallery (images ++ [image]) where
  bounded := by
    rw [List.length_append]
    exact hfull
  cover := by
    rw [List.countP_append, h.cover, List.countP_singleton, hcover]
    cases images <;> simp
  orders := by
    rw [List.map_append, List.nodup_append]
    refine ⟨h.orders, by simp, fun n hn m hm => ?_⟩
    obtain ⟨i, hi, rfl⟩ := List.mem_map.mp hn
    simp only [List.map_cons, List.map_nil, List.mem_singleton] at hm
    rw [hm, horder]
    exact ne_of_lt (lt_nextSortOrder hi)

/-- A change that leaves the cover and the order. -/
theorem map_same (h : IsGallery images) {f : PropertyImage → PropertyImage}
    (hcover : ∀ i, (f i).isCover = i.isCover) (horder : ∀ i, (f i).sortOrder = i.sortOrder) :
    IsGallery (images.map f) where
  bounded := by simpa using h.bounded
  cover := by
    rw [List.countP_map]
    simpa [Function.comp_def, hcover] using h.cover
  orders := by
    rw [List.map_map]
    simpa [Function.comp_def, horder] using h.orders

end IsGallery

/-- The image with an id is apart from the rest. -/
theorem perm_image_cons {images : List PropertyImage} (hids : (images.map PropertyImage.id).Nodup)
    {image : PropertyImage} (hi : image ∈ images) :
    images.Perm (image :: images.filter fun i => !decide (i.id = image.id)) := by
  have herase : images.erase image = images.filter fun i => !decide (i.id = image.id) := by
    rw [hids.of_map.erase_eq_filter]
    refine List.filter_congr fun i hmem => ?_
    by_cases hid : i.id = image.id
    · simp [List.inj_on_of_nodup_map hids hmem hi hid]
    · have hne : i ≠ image := fun h => hid (by rw [h])
      simp [hid, hne]
  rw [← herase]
  exact List.perm_cons_erase hi

/-- One image of several becomes the cover. -/
theorem countP_setCover {images : List PropertyImage} (hids : (images.map PropertyImage.id).Nodup)
    {image : PropertyImage} (hi : image ∈ images) :
    images.countP (fun i => decide (i.id = image.id)) = 1 := by
  rw [(perm_image_cons hids hi).countP_eq, List.countP_cons, List.countP_filter]
  simp

namespace IsGallery

variable {images : List PropertyImage}

theorem setCover (h : IsGallery images) (hids : (images.map PropertyImage.id).Nodup) {image : PropertyImage}
    (hi : image ∈ images) :
    IsGallery (images.map fun i => { i with isCover := decide (i.id = image.id) }) where
  bounded := by simpa using h.bounded
  cover := by
    have hne : images ≠ [] := List.ne_nil_of_mem hi
    rw [List.countP_map]
    simpa [Function.comp_def, hne] using countP_setCover hids hi
  orders := by
    rw [List.map_map]
    exact h.orders

/-- The images without one that is not the cover. -/
theorem filter_other (h : IsGallery images) (hids : (images.map PropertyImage.id).Nodup) {image : PropertyImage}
    (hi : image ∈ images) (hcover : image.isCover = false) :
    IsGallery (images.filter fun i => !decide (i.id = image.id)) where
  bounded := (List.length_filter_le _ _).trans h.bounded
  cover := by
    have hperm := (perm_image_cons hids hi).countP_eq PropertyImage.isCover
    have hne : images ≠ [] := List.ne_nil_of_mem hi
    rw [h.cover, if_neg hne, List.countP_cons_of_neg (by simp [hcover])] at hperm
    rw [← hperm, if_neg]
    intro hnil
    rw [hnil] at hperm
    cases hperm
  orders := h.orders.sublist (List.filter_sublist.map _)

/-- The images without the cover: the given one of the others becomes it. -/
theorem filter_cover (h : IsGallery images) (hids : (images.map PropertyImage.id).Nodup) {image first : PropertyImage}
    (hi : image ∈ images) (hcover : image.isCover)
    (hfirst : first ∈ images.filter fun i => !decide (i.id = image.id)) :
    IsGallery ((images.filter fun i => !decide (i.id = image.id)).map fun i =>
      if i.id = first.id then { i with isCover := true } else i) where
  bounded := by simpa using (List.length_filter_le _ _).trans h.bounded
  cover := by
    have hperm := (perm_image_cons hids hi).countP_eq PropertyImage.isCover
    have hne : images ≠ [] := List.ne_nil_of_mem hi
    rw [h.cover, if_neg hne, List.countP_cons_of_pos hcover, Nat.right_eq_add] at hperm
    have hnone : ∀ i ∈ images.filter fun i => !decide (i.id = image.id), i.isCover = false := by
      simpa using List.countP_eq_zero.mp hperm
    have hids' : ((images.filter fun i => !decide (i.id = image.id)).map PropertyImage.id).Nodup :=
      hids.sublist (List.filter_sublist.map _)
    have hone := countP_setCover hids' hfirst
    rw [List.countP_map, if_neg (by simpa using List.ne_nil_of_mem hfirst), ← hone]
    refine List.countP_congr fun i hmem => ?_
    by_cases hid : i.id = first.id
    · simp [hid]
    · simp [hid, hnone i hmem]
  orders := by
    rw [List.map_map]
    have hsame : (PropertyImage.sortOrder ∘ fun i : PropertyImage =>
        if i.id = first.id then { i with isCover := true } else i) = PropertyImage.sortOrder := by
      funext i
      simp only [Function.comp]
      split <;> rfl
    rw [hsame]
    exact h.orders.sublist (List.filter_sublist.map _)

/-- New places for all images, in the order of their ids in a list. -/
theorem place (h : IsGallery images) (hids : (images.map PropertyImage.id).Nodup) {ids : List ImageId}
    (hperm : ids.Perm (images.map PropertyImage.id)) :
    IsGallery (images.map fun i => { i with sortOrder := (ids.idxOf i.id : Int) }) where
  bounded := by simpa using h.bounded
  cover := by
    rw [List.countP_map]
    simpa [Function.comp_def] using h.cover
  orders := by
    rw [List.map_map]
    have hplaces : (images.map fun i => (ids.idxOf i.id : Int)).Nodup := by
      rw [List.nodup_map_iff_inj_on hids.of_map]
      intro i hi j hj hsame
      have hmem : i.id ∈ ids := hperm.mem_iff.mpr (List.mem_map_of_mem hi)
      have hid : i.id = j.id := (List.idxOf_inj hmem).mp (by exact_mod_cast hsame)
      exact List.inj_on_of_nodup_map hids hi hj hid
    exact hplaces

end IsGallery

/-- Images placed by a list of ids are listed in its order. -/
theorem orderImages_place {images : List PropertyImage} (hids : (images.map PropertyImage.id).Nodup)
    {ids : List ImageId} (hperm : ids.Perm (images.map PropertyImage.id)) :
    (orderImages (images.map fun i => { i with sortOrder := (ids.idxOf i.id : Int) })).map PropertyImage.id = ids := by
  have hnodup : ids.Nodup := hperm.nodup_iff.mpr hids
  set placed := images.map fun i => { i with sortOrder := (ids.idxOf i.id : Int) } with hplaced
  have hlisted : (orderImages placed).Perm placed := List.perm_insertionSort _ _
  have hsame : placed.map PropertyImage.id = images.map PropertyImage.id := by
    rw [hplaced, List.map_map]
    rfl
  have hantisymm : ∀ a b : ImageId, a ∈ (orderImages placed).map PropertyImage.id → b ∈ ids →
      ids.idxOf a ≤ ids.idxOf b → ids.idxOf b ≤ ids.idxOf a → a = b := by
    intro a b ha hb hab hba
    have hmem : a ∈ ids := by
      rw [hperm.mem_iff, ← hsame]
      exact (hlisted.map _).mem_iff.mp ha
    exact (List.idxOf_inj hmem).mp (le_antisymm hab hba)
  refine List.Perm.eq_of_pairwise hantisymm ?_ ?_ ?_
  · rw [List.pairwise_map]
    refine (List.pairwise_insertionSort _ placed).imp_of_mem ?_
    intro i j hi hj hle
    obtain ⟨i', -, rfl⟩ := List.mem_map.mp (hlisted.mem_iff.mp hi)
    obtain ⟨j', -, rfl⟩ := List.mem_map.mp (hlisted.mem_iff.mp hj)
    have hle' : (ids.idxOf i'.id : Int) ≤ (ids.idxOf j'.id : Int) := by
      have hfirst := Prod.Lex.le_iff.mp hle
      simp only [ofLex_toLex] at hfirst
      omega
    exact_mod_cast hle'
  · rw [List.pairwise_iff_getElem]
    intro i j hi hj hij
    rw [hnodup.idxOf_getElem, hnodup.idxOf_getElem]
    exact hij.le
  · exact (hlisted.map _).trans (hsame ▸ hperm.symm)

/-! ## The gallery of a property -/

namespace ListingDb

variable (db : ListingDb)

@[simp] theorem images_afterImages (rows : List PropertyImage) : (db.afterImages rows).images = db.images := by
  induction rows generalizing db with
  | nil => rfl
  | cons image rows ih => exact ih _

@[simp] theorem hosts_afterImages (rows : List PropertyImage) : (db.afterImages rows).hosts = db.hosts := by
  induction rows generalizing db with
  | nil => rfl
  | cons image rows ih => exact ih _

theorem nodup_imagesOf (p : PropertyId) : ((db.imagesOf p).map PropertyImage.id).Nodup :=
  db.images.nodup.sublist (List.filter_sublist.map _)

theorem imagesOf_afterImages (rows : List PropertyImage) (p : PropertyId) :
    (db.afterImages rows).imagesOf p = db.imagesOf p := by
  rw [imagesOf, imagesOf, images_afterImages]

theorem imagesOf_insertImage (mk : ImageId → PropertyImage) (hmk) (p : PropertyId) :
    (db.insertImage mk hmk).imagesOf p =
      db.imagesOf p ++ if (mk db.images.freshKey).propertyId = p then [mk db.images.freshKey] else [] :=
  (imagesOf_afterImages _ _ p).trans (db.imagesOf_insertNew mk hmk p)

theorem imagesOf_updateImages (q : PropertyId) (cond : PropertyImage → Bool) (f : PropertyImage → PropertyImage) (hf)
    (hproperty : ∀ i, (f i).propertyId = i.propertyId) (p : PropertyId) :
    (db.updateImages q cond f hf).imagesOf p =
      (db.imagesOf p).map fun i => if q = p ∧ cond i then f i else i :=
  (imagesOf_afterImages _ _ p).trans (db.imagesOf_updateWhere q cond f hf hproperty p)

theorem imagesOf_deleteImages (q : PropertyId) (cond : PropertyImage → Bool) (p : PropertyId) :
    (db.deleteImages q cond).imagesOf p = (db.imagesOf p).filter fun i => !(decide (q = p) && cond i) :=
  (imagesOf_afterImages _ _ p).trans (db.imagesOf_deleteWhere q cond p)

end ListingDb

theorem imagesOf_setSortOrders (p : PropertyId) (db : ListingDb) (n : Int) {ids : List ImageId} (hids : ids.Nodup)
    (q : PropertyId) :
    (setSortOrders p db n ids).imagesOf q =
      (db.imagesOf q).map fun i =>
        if p = q ∧ i.id ∈ ids then { i with sortOrder := n + (ids.idxOf i.id : Int) } else i := by
  induction ids generalizing db n with
  | nil => simp [setSortOrders]
  | cons a rest ih =>
    obtain ⟨hnot, hrest⟩ := List.nodup_cons.mp hids
    rw [setSortOrders, ih _ _ hrest,
      ListingDb.imagesOf_updateImages db p (fun i => decide (i.id = a)) (fun i => { i with sortOrder := n })
        (fun _ => rfl) (fun _ => rfl), List.map_map]
    refine List.map_congr_left fun i _ => ?_
    by_cases hp : p = q
    · by_cases hid : i.id = a
      · simp [hp, hid, hnot]
      · have hne : a ≠ i.id := fun h => hid h.symm
        by_cases hmem : i.id ∈ rest
        · simp [hp, hid, hmem, List.idxOf_cons_ne _ hne]
          ring
        · simp [hp, hid, hmem]
    · simp [hp]

/-! ## Calls -/

/-- The calls that write a gallery. -/
inductive GalleryCall where
  | registerUploadedPropertyImage (now : Int) (p : PropertyId) (userId : UserId) (blob : UploadedPropertyBlob)
  | setPropertyImageCover (p : PropertyId) (imageId : ImageId) (userId : UserId)
  | updatePropertyImageAltText (p : PropertyId) (imageId : ImageId) (userId : UserId) (altText : Option String)
  | reorderPropertyImages (p : PropertyId) (imageIds : List ImageId) (userId : UserId)
  | deletePropertyImage (p : PropertyId) (imageId : ImageId) (userId : UserId)
  deriving Repr

def GalleryCall.tx : GalleryCall → ListingTx
  | .registerUploadedPropertyImage now p userId blob => .registerUploadedPropertyImage now p userId blob
  | .setPropertyImageCover p imageId userId => .setPropertyImageCover p imageId userId
  | .updatePropertyImageAltText p imageId userId altText => .updatePropertyImageAltText p imageId userId altText
  | .reorderPropertyImages p imageIds userId => .reorderPropertyImages p imageIds userId
  | .deletePropertyImage p imageId userId => .deletePropertyImage p imageId userId

/-- What a call commits, or the error it throws. -/
def GalleryCall.result (db : ListingDb) : GalleryCall → Except ListingError ListingDb
  | .registerUploadedPropertyImage now p userId blob =>
    (HostPlatform.registerUploadedPropertyImage db now p userId blob).map Prod.snd
  | .setPropertyImageCover p imageId userId => (HostPlatform.setPropertyImageCover db p imageId userId).map Prod.snd
  | .updatePropertyImageAltText p imageId userId altText =>
    (HostPlatform.updatePropertyImageAltText db p imageId userId altText).map Prod.snd
  | .reorderPropertyImages p imageIds userId => (HostPlatform.reorderPropertyImages db p imageIds userId).map Prod.snd
  | .deletePropertyImage p imageId userId => (HostPlatform.deletePropertyImage db p imageId userId).map Prod.snd

def galleryStep (db : ListingDb) (c : GalleryCall) : ListingDb := c.tx.exec db

theorem galleryStep_eq (db : ListingDb) (c : GalleryCall) :
    galleryStep db c = match c.result db with
      | .ok db' => db'
      | .error _ => db := by
  have hcommit : ∀ {α : Type} (r : Except ListingError (α × ListingDb)),
      commit db r = match r.map Prod.snd with
        | .ok db' => db'
        | .error _ => db := by
    intro α r
    cases r <;> rfl
  cases c with
  | registerUploadedPropertyImage | setPropertyImageCover | updatePropertyImageAltText | reorderPropertyImages
  | deletePropertyImage => exact hcommit _

/-- A call either leaves the images of the property, or changes them in one of five ways. -/
inductive GalleryChange (images : List PropertyImage) : List PropertyImage → Prop
  | same : GalleryChange images images
  | append (image : PropertyImage) (hfull : images.length < maxPropertyImages)
      (horder : image.sortOrder = nextSortOrder images) (hcover : image.isCover = images.isEmpty) :
      GalleryChange images (images ++ [image])
  | cover (image : PropertyImage) (hi : image ∈ images) :
      GalleryChange images (images.map fun i => { i with isCover := decide (i.id = image.id) })
  | altText (imageId : ImageId) (altText : Option String) :
      GalleryChange images (images.map fun i => if i.id = imageId then { i with altText := altText } else i)
  | place (ids : List ImageId) (hperm : ids.Perm (images.map PropertyImage.id)) :
      GalleryChange images (images.map fun i => { i with sortOrder := (ids.idxOf i.id : Int) })
  | delete (image : PropertyImage) (hi : image ∈ images) (hcover : image.isCover = false) :
      GalleryChange images (images.filter fun i => !decide (i.id = image.id))
  | deleteLast (image : PropertyImage) (hnone : images.filter (fun i => !decide (i.id = image.id)) = []) :
      GalleryChange images (images.filter fun i => !decide (i.id = image.id))
  | deleteCover (image first : PropertyImage) (hi : image ∈ images) (hcover : image.isCover)
      (hfirst : first ∈ images.filter fun i => !decide (i.id = image.id)) :
      GalleryChange images ((images.filter fun i => !decide (i.id = image.id)).map fun i =>
        if i.id = first.id then { i with isCover := true } else i)

theorem GalleryChange.isGallery {images images' : List PropertyImage}
    (hchange : GalleryChange images images') (h : IsGallery images)
    (hids : (images.map PropertyImage.id).Nodup) : IsGallery images' := by
  cases hchange with
  | same => exact h
  | append image hfull horder hcover => exact h.append hfull horder hcover
  | cover image hi => exact h.setCover hids hi
  | altText imageId altText =>
    apply h.map_same
    · intro i
      split <;> rfl
    · intro i
      split <;> rfl
  | place ids hperm => exact h.place hids hperm
  | delete image hi hcover => exact h.filter_other hids hi hcover
  | deleteLast image hnone =>
    rw [hnone]
    exact .nil
  | deleteCover image first hi hcover hfirst => exact h.filter_cover hids hi hcover hfirst

/-! ### What each call does -/

theorem getOwnedImage_eq_ok {db : ListingDb} {p : PropertyId} {imageId : ImageId} {userId : UserId}
    {image : PropertyImage} (h : getOwnedImage db p imageId userId = .ok image) :
    image ∈ db.imagesOf p ∧ image.id = imageId := by
  obtain ⟨-, -, h⟩ := bind_eq_ok.mp h
  split at h
  · rename_i image' hfound
    cases h
    exact ⟨List.mem_of_find?_eq_some hfound, by simpa using List.find?_some hfound⟩
  · cases h

/-- The ids a reordering accepts. -/
theorem reorder_condition_iff {imageIds existingIds : List ImageId} (hnodup : existingIds.Nodup) :
    (imageIds.length = existingIds.length ∧ imageIds.Nodup ∧ existingIds ⊆ imageIds) ↔
      imageIds.Perm existingIds := by
  constructor
  · rintro ⟨hlength, -, hsubset⟩
    exact ((hnodup.subperm hsubset).perm_of_length_le hlength.le).symm
  · intro hperm
    exact ⟨hperm.length_eq, hperm.nodup_iff.mpr hnodup, hperm.symm.subset⟩

theorem ids_orderImages (images : List PropertyImage) :
    ((orderImages images).map PropertyImage.id).Perm (images.map PropertyImage.id) :=
  (List.perm_insertionSort _ _).map _

theorem nodup_orderImages (db : ListingDb) (p : PropertyId) :
    ((orderImages (db.imagesOf p)).map PropertyImage.id).Nodup :=
  (ids_orderImages _).nodup_iff.mpr (db.nodup_imagesOf p)

/-- A reordering places the images by the list of ids. -/
theorem imagesOf_reorder {db : ListingDb} {p : PropertyId} {imageIds : List ImageId}
    (hperm : imageIds.Perm ((db.imagesOf p).map PropertyImage.id)) :
    (setSortOrders p db 0 imageIds).imagesOf p =
      (db.imagesOf p).map fun i => { i with sortOrder := (imageIds.idxOf i.id : Int) } := by
  rw [imagesOf_setSortOrders p db 0 (hperm.nodup_iff.mpr (db.nodup_imagesOf p))]
  refine List.map_congr_left fun i hi => ?_
  have hmem : i.id ∈ imageIds := hperm.mem_iff.mpr (List.mem_map_of_mem hi)
  simp [hmem]

section Changes

variable {db db' : ListingDb} {p : PropertyId} {userId : UserId} {imageId : ImageId}

theorem registerUploadedPropertyImage_change {now : Int} {blob : UploadedPropertyBlob} {image : PropertyImage}
    (h : registerUploadedPropertyImage db now p userId blob = .ok (image, db')) (q : PropertyId) :
    GalleryChange (db.imagesOf q) (db'.imagesOf q) := by
  obtain ⟨-, -, h⟩ := bind_eq_ok.mp h
  cases hexisting : db.images.rows.find? fun i => decide (i.blobUrl = blob.url) with
  | some existing =>
    simp only [hexisting] at h
    obtain ⟨-, -, h⟩ := bind_eq_ok.mp h
    cases h
    exact .same
  | none =>
    simp only [hexisting] at h
    obtain ⟨_, hfull, h⟩ := bind_eq_ok.mp h
    obtain ⟨-, -, h⟩ := bind_eq_ok.mp h
    obtain ⟨-, -, h⟩ := bind_eq_ok.mp h
    cases h
    rw [ListingDb.imagesOf_insertImage]
    by_cases hq : p = q
    · subst hq
      rw [if_pos rfl]
      exact .append _ (require_eq_ok.mp hfull) rfl rfl
    · rw [if_neg hq, List.append_nil]
      exact .same

theorem setPropertyImageCover_change {image : PropertyImage}
    (h : setPropertyImageCover db p imageId userId = .ok (image, db')) (q : PropertyId) :
    GalleryChange (db.imagesOf q) (db'.imagesOf q) := by
  obtain ⟨owned, howned, h⟩ := bind_eq_ok.mp h
  obtain ⟨hmem, rfl⟩ := getOwnedImage_eq_ok howned
  obtain ⟨written, -, h⟩ := bind_eq_ok.mp h
  cases h
  rw [ListingDb.imagesOf_updateImages _ p (fun i => decide (i.id = owned.id)) (fun i => { i with isCover := true })
      (fun _ => rfl) (fun _ => rfl),
    ListingDb.imagesOf_updateImages db p PropertyImage.isCover (fun i => { i with isCover := false })
      (fun _ => rfl) (fun _ => rfl), List.map_map]
  by_cases hq : p = q
  · subst hq
    have hset : (db.imagesOf p).map ((fun i => if p = p ∧ decide (i.id = owned.id) = true then { i with isCover := true }
        else i) ∘ fun i => if p = p ∧ i.isCover = true then { i with isCover := false } else i) =
        (db.imagesOf p).map fun i => { i with isCover := decide (i.id = owned.id) } := by
      refine List.map_congr_left fun i _ => ?_
      obtain ⟨id, _, _, _, _, _, _, _, isCover, _, _⟩ := i
      by_cases hid : id = owned.id
      · cases isCover <;> simp [hid]
      · cases isCover <;> simp [hid]
    rw [hset]
    exact .cover owned hmem
  · simp only [hq, false_and, if_false, Function.comp_def, List.map_id']
    exact .same

theorem updatePropertyImageAltText_change {altText : Option String} {image : PropertyImage}
    (h : updatePropertyImageAltText db p imageId userId altText = .ok (image, db')) (q : PropertyId) :
    GalleryChange (db.imagesOf q) (db'.imagesOf q) := by
  obtain ⟨-, -, h⟩ := bind_eq_ok.mp h
  obtain ⟨written, -, h⟩ := bind_eq_ok.mp h
  cases h
  rw [ListingDb.imagesOf_updateImages db p (fun i => decide (i.id = imageId)) (fun i => { i with altText := altText })
    (fun _ => rfl) (fun _ => rfl)]
  by_cases hq : p = q
  · subst hq
    simp only [true_and, decide_eq_true_eq]
    exact .altText imageId altText
  · simp only [hq, false_and, if_false, List.map_id']
    exact .same

theorem reorderPropertyImages_change {imageIds : List ImageId} {images : List PropertyImage}
    (h : reorderPropertyImages db p imageIds userId = .ok (images, db')) (q : PropertyId) :
    GalleryChange (db.imagesOf q) (db'.imagesOf q) := by
  obtain ⟨-, -, h⟩ := bind_eq_ok.mp h
  obtain ⟨_, hcondition, h⟩ := bind_eq_ok.mp h
  cases h
  have hperm := ((reorder_condition_iff (nodup_orderImages db p)).mp (require_eq_ok.mp hcondition)).trans
    (ids_orderImages _)
  by_cases hq : p = q
  · subst hq
    rw [imagesOf_reorder hperm]
    exact .place imageIds hperm
  · rw [imagesOf_setSortOrders p db 0 (hperm.nodup_iff.mpr (db.nodup_imagesOf p))]
    simp only [hq, false_and, if_false, List.map_id']
    exact .same

theorem deletePropertyImage_change {url : String}
    (h : deletePropertyImage db p imageId userId = .ok (url, db')) (q : PropertyId) :
    GalleryChange (db.imagesOf q) (db'.imagesOf q) := by
  obtain ⟨image, howned, h⟩ := bind_eq_ok.mp h
  obtain ⟨hmem, rfl⟩ := getOwnedImage_eq_ok howned
  have hdeleted := db.imagesOf_deleteImages p (fun i => decide (i.id = image.id))
  dsimp only at h
  by_cases hq : p = q
  · subst hq
    have hrest : (db.deleteImages p fun i => decide (i.id = image.id)).imagesOf p =
        (db.imagesOf p).filter fun i => !decide (i.id = image.id) := by simpa using hdeleted p
    split at h
    · rename_i hcover
      split at h
      · rename_i first hfirst
        cases h
        have hfirst' : first ∈ (db.imagesOf p).filter fun i => !decide (i.id = image.id) := by
          rw [← hrest]
          exact (List.perm_insertionSort _ _).mem_iff.mp (List.mem_of_mem_head? hfirst)
        rw [ListingDb.imagesOf_updateImages _ p (fun i => decide (i.id = first.id)) (fun i => { i with isCover := true })
          (fun _ => rfl) (fun _ => rfl), hrest]
        simp only [true_and, decide_eq_true_eq]
        exact .deleteCover image first hmem hcover hfirst'
      · rename_i hnone
        cases h
        rw [hrest] at hnone ⊢
        refine .deleteLast image ?_
        have hperm : (orderImages ((db.imagesOf p).filter fun i => !decide (i.id = image.id))).Perm _ :=
          List.perm_insertionSort _ _
        rw [List.head?_eq_none_iff.mp hnone] at hperm
        exact hperm.nil_eq.symm
    · rename_i hcover
      cases h
      rw [hrest]
      exact .delete image hmem (by simpa using hcover)
  · have hsame : (db.deleteImages p fun i => decide (i.id = image.id)).imagesOf q = db.imagesOf q := by
      rw [hdeleted q]
      simp [hq]
    split at h
    · split at h
      · cases h
        rw [ListingDb.imagesOf_updateImages _ p _ (fun i => { i with isCover := true }) (fun _ => rfl) (fun _ => rfl),
          hsame]
        simp only [hq, false_and, if_false, List.map_id']
        exact .same
      · cases h
        rw [hsame]
        exact .same
    · cases h
      rw [hsame]
      exact .same

end Changes

theorem galleryStep_change (db : ListingDb) (c : GalleryCall) (q : PropertyId) :
    GalleryChange (db.imagesOf q) ((galleryStep db c).imagesOf q) := by
  have hcommit : ∀ {α : Type} {r : Except ListingError (α × ListingDb)},
      (∀ a db', r = .ok (a, db') → GalleryChange (db.imagesOf q) (db'.imagesOf q)) →
        GalleryChange (db.imagesOf q) ((commit db r).imagesOf q) := fun h =>
    commit_of (P := fun db' : ListingDb => GalleryChange (db.imagesOf q) (db'.imagesOf q)) .same h
  cases c with
  | registerUploadedPropertyImage now p userId blob =>
    exact hcommit fun _ _ h => registerUploadedPropertyImage_change h q
  | setPropertyImageCover p imageId userId => exact hcommit fun _ _ h => setPropertyImageCover_change h q
  | updatePropertyImageAltText p imageId userId altText =>
    exact hcommit fun _ _ h => updatePropertyImageAltText_change h q
  | reorderPropertyImages p imageIds userId => exact hcommit fun _ _ h => reorderPropertyImages_change h q
  | deletePropertyImage p imageId userId => exact hcommit fun _ _ h => deletePropertyImage_change h q

theorem isGallery_run {db : ListingDb} {p : PropertyId} (h : IsGallery (db.imagesOf p)) (cs : List GalleryCall) :
    IsGallery ((run galleryStep db cs).imagesOf p) :=
  run_invariant' (I := fun db => IsGallery (db.imagesOf p))
    (fun db c h => (galleryStep_change db c p).isGallery h (db.nodup_imagesOf p)) h cs

/-! ## Reordering -/

/-- The user is the host of the property. -/
def ListingDb.Owns (db : ListingDb) (p : PropertyId) (userId : UserId) : Prop :=
  ∃ listing, db.listings.find? p = some listing ∧
    ∃ host, db.hosts.find? listing.hostId = some host ∧ host.userId = userId

theorem assertPropertyOwnership_eq_ok {db : ListingDb} {p : PropertyId} {userId : UserId} :
    assertPropertyOwnership db p userId = .ok () ↔ db.Owns p userId := by
  unfold assertPropertyOwnership
  rw [require_eq_ok, Option.any_eq_true]
  simp [ListingDb.Owns, Option.any_eq_true]

/-- Writes on galleries move no property to another host. -/
theorem owns_afterImages {db : ListingDb} {p : PropertyId} {userId : UserId} (h : db.Owns p userId)
    (rows : List PropertyImage) : (db.afterImages rows).Owns p userId := by
  induction rows generalizing db with
  | nil => exact h
  | cons image rows ih =>
    apply ih
    obtain ⟨listing, hlisting, host, hhost, huser⟩ := h
    have hwithdrawn : (withdrawPilotReview listing).hostId = listing.hostId := by
      unfold withdrawPilotReview
      split <;> rfl
    by_cases hp : p = image.propertyId
    · refine ⟨withdrawPilotReview listing, ?_, host, ?_, huser⟩
      · rw [ListingDb.invalidatePropertyImagePilotReview, Table.find?_modify, if_pos hp, ← hp, hlisting]
        rfl
      · rw [hwithdrawn]
        exact hhost
    · refine ⟨listing, ?_, host, hhost, huser⟩
      rw [ListingDb.invalidatePropertyImagePilotReview, Table.find?_modify, if_neg hp]
      exact hlisting

theorem ListingDb.Owns.congr_images {db : ListingDb} {p : PropertyId} {userId : UserId} (h : db.Owns p userId)
    (images : Table PropertyImage) : { db with images := images }.Owns p userId := h

theorem owns_setSortOrders {p q : PropertyId} {userId : UserId} (ids : List ImageId) {db : ListingDb}
    (h : db.Owns p userId) (n : Int) : (setSortOrders q db n ids).Owns p userId := by
  induction ids generalizing db n with
  | nil => exact h
  | cons a rest ih =>
    apply ih
    exact owns_afterImages (ListingDb.Owns.congr_images h _) _

section Reorder

variable {db db' : ListingDb} {p : PropertyId} {imageIds : List ImageId} {userId : UserId}

theorem reorder_accepted_iff :
    (imageIds.length = ((orderImages (db.imagesOf p)).map PropertyImage.id).length ∧ imageIds.Nodup ∧
      (orderImages (db.imagesOf p)).map PropertyImage.id ⊆ imageIds) ↔
        imageIds.Perm ((db.imagesOf p).map PropertyImage.id) :=
  (reorder_condition_iff (nodup_orderImages db p)).trans
    ⟨fun h => h.trans (ids_orderImages _), fun h => h.trans (ids_orderImages _).symm⟩

/-- A reordering succeeds for the owner and a permutation of the gallery, and for nothing else. -/
theorem reorderPropertyImages_eq_ok {images : List PropertyImage} :
    reorderPropertyImages db p imageIds userId = .ok (images, db') ↔
      (db.Owns p userId ∧ imageIds.Perm ((db.imagesOf p).map PropertyImage.id)) ∧
        orderImages ((setSortOrders p db 0 imageIds).imagesOf p) = images ∧ setSortOrders p db 0 imageIds = db' := by
  rw [← assertPropertyOwnership_eq_ok, ← reorder_accepted_iff]
  unfold reorderPropertyImages
  constructor
  · intro h
    obtain ⟨_, howner, h⟩ := bind_eq_ok.mp h
    obtain ⟨_, hcondition, h⟩ := bind_eq_ok.mp h
    cases h
    exact ⟨⟨howner, require_eq_ok.mp hcondition⟩, rfl, rfl⟩
  · rintro ⟨⟨howner, hcondition⟩, rfl, rfl⟩
    exact bind_eq_ok.mpr ⟨(), howner, bind_eq_ok.mpr ⟨(), require_eq_ok.mpr hcondition, rfl⟩⟩

theorem reorderPropertyImages_isOk_iff :
    (∃ db', (GalleryCall.reorderPropertyImages p imageIds userId).result db = .ok db') ↔
      db.Owns p userId ∧ imageIds.Perm ((db.imagesOf p).map PropertyImage.id) := by
  constructor
  · rintro ⟨db', h⟩
    cases hresult : reorderPropertyImages db p imageIds userId with
    | ok result => exact (reorderPropertyImages_eq_ok.mp hresult).1
    | error e =>
      rw [GalleryCall.result, hresult] at h
      cases h
  · intro h
    refine ⟨setSortOrders p db 0 imageIds, ?_⟩
    rw [GalleryCall.result, reorderPropertyImages_eq_ok.mpr ⟨h, rfl, rfl⟩]
    rfl

/-- After a reordering the images are listed in the order given. -/
theorem listPropertyImages_reorder (howner : db.Owns p userId)
    (hperm : imageIds.Perm ((db.imagesOf p).map PropertyImage.id)) :
    (listPropertyImages (setSortOrders p db 0 imageIds) p userId).map (List.map PropertyImage.id) = .ok imageIds := by
  have hordered := orderImages_place (db.nodup_imagesOf p) hperm
  unfold listPropertyImages
  rw [assertPropertyOwnership_eq_ok.mpr (owns_setSortOrders imageIds howner 0), imagesOf_reorder hperm]
  exact congrArg Except.ok hordered

end Reorder

/-! ## Every reachable gallery -/

/-- What holds of a property's gallery in a state, and of the calls made in it. -/
structure GalleryKept (db : ListingDb) (p : PropertyId) : Prop where
  gallery : IsGallery (db.imagesOf p)
  /-- Exactly the host's permutations of the gallery are accepted. -/
  reorder : ∀ imageIds userId,
    (∃ db', (GalleryCall.reorderPropertyImages p imageIds userId).result db = .ok db') ↔
      db.Owns p userId ∧ imageIds.Perm ((db.imagesOf p).map PropertyImage.id)
  listing : ∀ imageIds userId db', (GalleryCall.reorderPropertyImages p imageIds userId).result db = .ok db' →
    (listPropertyImages (galleryStep db (.reorderPropertyImages p imageIds userId)) p userId).map
      (List.map PropertyImage.id) = .ok imageIds
  thrown : ∀ (c : GalleryCall) (e : ListingError), c.result db = .error e → galleryStep db c = db

/-- From an empty gallery on, every state any calls reach keeps the gallery. -/
theorem gallery_reachable (db : ListingDb) (p : PropertyId) (hempty : db.imagesOf p = []) (cs : List GalleryCall) :
    GalleryKept (run galleryStep db cs) p where
  gallery := by
    apply isGallery_run
    rw [hempty]
    exact .nil
  reorder imageIds userId := reorderPropertyImages_isOk_iff
  listing imageIds userId db' h := by
    obtain ⟨howner, hperm⟩ := reorderPropertyImages_isOk_iff.mp ⟨db', h⟩
    have hresult := reorderPropertyImages_eq_ok.mpr ⟨⟨howner, hperm⟩, rfl, rfl⟩
    have hstep : galleryStep (run galleryStep db cs) (.reorderPropertyImages p imageIds userId) =
        setSortOrders p (run galleryStep db cs) 0 imageIds := by
      rw [galleryStep_eq, GalleryCall.result, hresult]
      rfl
    rw [hstep]
    exact listPropertyImages_reorder howner hperm
  thrown c e h := by rw [galleryStep_eq, h]

def uploaded (n : Int) (userId : UserId) (url : String) : GalleryCall :=
  .registerUploadedPropertyImage n 1 userId ⟨url, url, "image/jpeg", 1000⟩

/-- The cover of three images is moved to the last and deleted; a stranger's upload is refused. -/
def coverDeleted : List GalleryCall :=
  [ uploaded 1 1 "a", uploaded 2 1 "b", uploaded 3 2 "c", uploaded 4 1 "d", .setPropertyImageCover 1 3 1,
    .reorderPropertyImages 1 [3, 2, 1] 1, .deletePropertyImage 1 3 1 ]

theorem coverDeleted_kept :
    (orderImages ((run galleryStep createdListing coverDeleted).imagesOf 1)).map (fun i => (i.id, i.isCover)) =
        [(2, true), (1, false)] ∧
      GalleryKept (run galleryStep createdListing coverDeleted) 1 :=
  ⟨by decide, gallery_reachable createdListing 1 (by decide) coverDeleted⟩

/-- Another user gives the ids of the two images, each once, and is told that there is no such property. -/
theorem reordered_byStranger :
    ¬ (((GalleryCall.reorderPropertyImages 1 [1, 2] 2).result (run galleryStep createdListing coverDeleted)).isOk = true ↔
      [1, 2].Perm (((run galleryStep createdListing coverDeleted).imagesOf 1).map PropertyImage.id)) := by
  intro h
  have haccepted := h.mpr (by decide)
  exact absurd haccepted (by decide)

end HostPlatform
