-- SUMMARY: Reviews of completed stays and the rating of a property that is computed from them (`createReview`, `recalculatePropertyRating`).
import HostPlatform.Schema
import HostPlatform.Lib.Table
import HostPlatform.Lib.Outcome
import HostPlatform.Lib.Rounding

/-!
# Reviews

A review is tied to a completed booking of its guest. The rating of a property is the
average of its published reviews, kept in hundredths, and their number.
-/

namespace HostPlatform

open Lib (Keyed Table require roundDiv)

/-! ## Rows -/

/-- What a review needs of a booking. -/
structure StayRow where
  id : BookingId
  guestId : UserId
  propertyId : PropertyId
  status : BookingStatus
  deriving DecidableEq, Repr

instance : Keyed StayRow := ⟨StayRow.id⟩

inductive ReviewStatus where
  | published | flagged | removed
  deriving DecidableEq, Repr

structure Review where
  id : Nat
  bookingId : BookingId
  propertyId : PropertyId
  guestId : UserId
  overall : Int
  cleanliness : Option Int
  locationRating : Option Int
  accuracy : Option Int
  communication : Option Int
  comfort : Option Int
  body : Option String
  status : ReviewStatus
  deriving DecidableEq, Repr

structure RatedProperty where
  id : PropertyId
  /-- In hundredths. -/
  rating : Option Int
  reviewCount : Nat
  deriving DecidableEq, Repr

instance : Keyed RatedProperty := ⟨RatedProperty.id⟩

structure ReviewDb where
  bookings : Table StayRow
  reviews : List Review
  properties : Table RatedProperty

/-! ## The aggregate -/

def publishedReviews (reviews : List Review) (propertyId : PropertyId) : List Review :=
  reviews.filter fun r => decide (r.propertyId = propertyId ∧ r.status = .published)

/-- `AVG(overall)::NUMERIC(3,2)`, null of no row. -/
def avgRating (reviews : List Review) : Option Int :=
  if reviews = [] then none else some (roundDiv (100 * (reviews.map Review.overall).sum) reviews.length)

def RatedProperty.rate (reviews : List Review) (p : RatedProperty) : RatedProperty :=
  { p with rating := avgRating reviews, reviewCount := reviews.length }

/-! ## `createReview` -/

structure CreateReviewInput where
  bookingId : BookingId
  guestId : UserId
  overall : Int
  cleanliness : Option Int
  location : Option Int
  accuracy : Option Int
  communication : Option Int
  comfort : Option Int
  body : Option String
  deriving DecidableEq, Repr

inductive ReviewError where
  | bookingNotFound
  | notYourBooking
  | notCompleted
  | alreadyExists
  /-- A `CHECK` of the table fails. -/
  | checkViolation
  /-- The connection is gone. -/
  | connectionLost
  deriving DecidableEq, Repr

/-- The errors that `createReview` words itself. -/
def ReviewError.message : ReviewError → Option String
  | .bookingNotFound => some "Booking not found"
  | .notYourBooking => some "This booking doesn't belong to you"
  | .notCompleted => some "Reviews can only be left after a completed stay"
  | .alreadyExists => some "A review already exists for this booking"
  | .checkViolation | .connectionLost => none

/-- The booking, as it is locked, and the checks of it. -/
def reviewableStay (input : CreateReviewInput) (bookings : Table StayRow) : Except ReviewError StayRow := do
  match bookings.find? input.bookingId with
  | none => throw .bookingNotFound
  | some b =>
    require (b.guestId = input.guestId) .notYourBooking
    require (b.status = .completed) .notCompleted
    return b

def hasReview (reviews : List Review) (bookingId : BookingId) : Bool :=
  reviews.any fun r => decide (r.bookingId = bookingId)

/-- `CHECK (.. BETWEEN 1 AND 5)`, which null passes. -/
def inRange (rating : Int) : Bool := decide (1 ≤ rating ∧ rating ≤ 5)

def Review.checked (r : Review) : Bool :=
  inRange r.overall && r.cleanliness.all inRange && r.locationRating.all inRange && r.accuracy.all inRange
    && r.communication.all inRange && r.comfort.all inRange

def reviewRow (id : Nat) (input : CreateReviewInput) (b : StayRow) : Review where
  id := id
  bookingId := input.bookingId
  propertyId := b.propertyId
  guestId := input.guestId
  overall := input.overall
  cleanliness := input.cleanliness
  locationRating := input.location
  accuracy := input.accuracy
  communication := input.communication
  comfort := input.comfort
  body := input.body
  status := .published

/-- The insertion: the unique index on the booking, and the checks. -/
def insertReview (row : Review) (reviews : List Review) : Except ReviewError Unit := do
  require (row.checked) .checkViolation
  -- 23505, in the words of the check before
  require (!hasReview reviews row.bookingId) .alreadyExists

/-- What the transaction commits. -/
def ReviewDb.addReview (db : ReviewDb) (row : Review) (aggregated : List Review) : ReviewDb :=
  { db with
    reviews := db.reviews ++ [row]
    properties := db.properties.modify row.propertyId (RatedProperty.rate aggregated) }

def createReview (id : Nat) (input : CreateReviewInput) (db : ReviewDb) :
    Except ReviewError (Review × ReviewDb) := do
  let b ← reviewableStay input db.bookings
  require (!hasReview db.reviews input.bookingId) .alreadyExists
  let review := reviewRow id input b
  insertReview review db.reviews
  return (review, db.addReview review (publishedReviews (db.reviews ++ [review]) b.propertyId))

theorem createReview_of_unreviewed {id : Nat} {input : CreateReviewInput} {db : ReviewDb} {b : StayRow}
    (hstay : reviewableStay input db.bookings = .ok b) (hnone : hasReview db.reviews input.bookingId = false) :
    createReview id input db = (do
      insertReview (reviewRow id input b) db.reviews
      return (reviewRow id input b, db.addReview (reviewRow id input b)
        (publishedReviews (db.reviews ++ [reviewRow id input b]) b.propertyId))) := by
  rw [createReview, hstay, Lib.ok_bind, hnone]
  rfl

end HostPlatform
