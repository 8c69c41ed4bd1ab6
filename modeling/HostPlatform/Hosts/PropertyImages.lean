-- SUMMARY: The image gallery of a property (`propertyImages.ts`).
import HostPlatform.Hosts.Listing
import HostPlatform.Lib.Outcome

namespace HostPlatform

open Lib

def maxPropertyImages : Nat := 30

structure UploadedPropertyBlob where
  url : String
  pathname : String
  contentType : String
  size : Int
  deriving DecidableEq, Repr

/-! ## Access -/

def assertPropertyOwnership (db : ListingDb) (p : PropertyId) (userId : UserId) :
    Except ListingError Unit :=
  let owned := (db.listings.find? p).any fun listing =>
    (db.hosts.find? listing.hostId).any fun host => decide (host.userId = userId)
  require owned
    ⟨"PROPERTY_NOT_FOUND", 404, "Property not found or you do not have access to it."⟩

def getOwnedImage (db : ListingDb) (p : PropertyId) (imageId : ImageId) (userId : UserId) :
    Except ListingError PropertyImage := do
  assertPropertyOwnership db p userId
  match (db.imagesOf p).find? fun i => decide (i.id = imageId) with
  | some image => return image
  | none => throw ⟨"PROPERTY_IMAGE_NOT_FOUND", 404, "Property image not found."⟩

/-- The image of the property as a transaction that has just written it returns it. -/
def writtenImage (db : ListingDb) (imageId : ImageId) : Except ListingError PropertyImage :=
  match db.images.find? imageId with
  | some image => .ok image
  | none => .error ⟨"PROPERTY_IMAGE_NOT_FOUND", 404, "Property image not found."⟩

/-- `listPropertyImages`. -/
def listPropertyImages (db : ListingDb) (p : PropertyId) (userId : UserId) :
    Except ListingError (List PropertyImage) := do
  assertPropertyOwnership db p userId
  return orderImages (db.imagesOf p)

/-! ## Upload -/

/-- The `CHECK` constraints on an uploaded row. -/
def UploadedPropertyBlob.allowed (blob : UploadedPropertyBlob) : Bool :=
  ["image/jpeg", "image/png", "image/webp"].contains blob.contentType &&
    decide (0 < blob.size) && decide (blob.size ≤ 10485760)

/-- `COALESCE(MAX(sort_order), -1) + 1`. -/
def nextSortOrder (images : List PropertyImage) : Int :=
  (images.map PropertyImage.sortOrder).foldl max (-1) + 1

def registerUploadedPropertyImage (db : ListingDb) (now : Int) (p : PropertyId) (userId : UserId)
    (blob : UploadedPropertyBlob) : Except ListingError (PropertyImage × ListingDb) := do
  assertPropertyOwnership db p userId
  match db.images.rows.find? fun i => decide (i.blobUrl = blob.url) with
  | some existing =>
    require (existing.propertyId = p)
      ⟨"PROPERTY_IMAGE_CONFLICT", 409,
        "This uploaded image is already registered to another property."⟩
    return (existing, db)
  | none =>
    let images := db.imagesOf p
    require (images.length < maxPropertyImages)
      ⟨"PROPERTY_IMAGE_LIMIT_REACHED", 409,
        s!"A property can have no more than {maxPropertyImages} images."⟩
    require blob.allowed
      (.plain "new row for relation \"property_images\" violates check constraint")
    require (db.images.rows.all fun i => decide (i.blobPathname ≠ blob.pathname))
      (.plain "duplicate key value violates unique constraint")
    let row (id : ImageId) : PropertyImage :=
      { id := id
        propertyId := p
        blobUrl := blob.url
        blobPathname := blob.pathname
        contentType := blob.contentType
        sizeBytes := blob.size
        altText := none
        sortOrder := nextSortOrder images
        isCover := images.isEmpty
        createdByUserId := userId
        createdAt := now }
    return (row db.images.freshKey, db.insertImage row)

/-! ## Changes -/

def setPropertyImageCover (db : ListingDb) (p : PropertyId) (imageId : ImageId) (userId : UserId) :
    Except ListingError (PropertyImage × ListingDb) := do
  let _ ← getOwnedImage db p imageId userId
  let cleared := db.updateImages p PropertyImage.isCover fun i => { i with isCover := false }
  let db' := cleared.updateImages p (fun i => decide (i.id = imageId)) fun i => { i with isCover := true }
  return (← writtenImage db' imageId, db')

def updatePropertyImageAltText (db : ListingDb) (p : PropertyId) (imageId : ImageId)
    (userId : UserId) (altText : Option String) : Except ListingError (PropertyImage × ListingDb) := do
  let _ ← getOwnedImage db p imageId userId
  let db' := db.updateImages p (fun i => decide (i.id = imageId)) fun i => { i with altText := altText }
  return (← writtenImage db' imageId, db')

/-- `for (const [sortOrder, imageId] of imageIds.entries())`, from the index on. -/
def setSortOrders (p : PropertyId) : ListingDb → Int → List ImageId → ListingDb
  | db, _, [] => db
  | db, sortOrder, imageId :: rest =>
    let db' := db.updateImages p (fun i => decide (i.id = imageId)) fun i => { i with sortOrder := sortOrder }
    setSortOrders p db' (sortOrder + 1) rest

def reorderPropertyImages (db : ListingDb) (p : PropertyId) (imageIds : List ImageId)
    (userId : UserId) : Except ListingError (List PropertyImage × ListingDb) := do
  assertPropertyOwnership db p userId
  let existingIds := (orderImages (db.imagesOf p)).map PropertyImage.id
  require (imageIds.length = existingIds.length ∧ imageIds.Nodup ∧ existingIds ⊆ imageIds)
    ⟨"INVALID_PROPERTY_IMAGE_ORDER", 400,
      "The image order must contain every property image exactly once."⟩
  let db' := setSortOrders p db 0 imageIds
  return (orderImages (db'.imagesOf p), db')

def deletePropertyImage (db : ListingDb) (p : PropertyId) (imageId : ImageId) (userId : UserId) :
    Except ListingError (String × ListingDb) := do
  let image ← getOwnedImage db p imageId userId
  let deleted := db.deleteImages p fun i => decide (i.id = imageId)
  if image.isCover then
    match (orderImages (deleted.imagesOf p)).head? with
    | some first =>
      return (image.blobUrl,
        deleted.updateImages p (fun i => decide (i.id = first.id)) fun i => { i with isCover := true })
    | none => return (image.blobUrl, deleted)
  else
    return (image.blobUrl, deleted)

end HostPlatform
