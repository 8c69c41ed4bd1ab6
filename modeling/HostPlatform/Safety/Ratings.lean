-- SUMMARY: Each booking has at most one review in every run of concurrent `createReview` calls, and ratings match the reviews where no call commits an outdated aggregate.
import HostPlatform.Reviews.ReviewCalls

/-!
# Ratings match reviews

The lock of a booking keeps other calls from the booking, so that one review of it is
committed at most. Nothing keeps them from the property: between the aggregate of a call
and its commit another review of the property may be committed, which the rating misses.
-/

namespace HostPlatform

open Lib (Exclusive Free Table)
open Lib.Transition (Guarded run)

variable {n : Nat}

/-! ## The properties -/

def ReviewDb.OneReviewEach (db : ReviewDb) : Prop := (db.reviews.map Review.bookingId).Nodup

/-- Rating and number of reviews of every property are those of its published reviews. -/
def ReviewDb.RatingsMatch (db : ReviewDb) : Prop :=
  ∀ p ∈ db.properties.rows, p.rating = avgRating (publishedReviews db.reviews p.id) ∧
    p.reviewCount = (publishedReviews db.reviews p.id).length

/-- No call is in progress. -/
def ReviewWorld.Quiescent (w : ReviewWorld n) : Prop := ∀ i, (w.calls i).inProgress = false

/-- What the call has aggregated is what the published reviews of its property are, its own
among them: no other was committed since. -/
def ReviewCall.Fresh (reviews : List Review) : ReviewCall → Prop
  | .rated row seen => seen = publishedReviews (reviews ++ [row]) row.propertyId
  | _ => True

/-- A call that is about to commit is fresh. -/
def CommitsFresh (w : ReviewWorld n) : ReviewLabel n → Prop
  | .statement i => (w.calls i).Fresh w.db.reviews
  | _ => True

/-! ## One review of each booking -/

theorem hasReview_eq_false {reviews : List Review} {bookingId : BookingId} :
    hasReview reviews bookingId = false ↔ bookingId ∉ reviews.map Review.bookingId := by
  simp [hasReview]

/-- What the locks of the bookings keep. -/
structure ReviewInv (w : ReviewWorld n) : Prop where
  one : w.db.OneReviewEach
  locks : Exclusive ReviewCall.bookingLock w.calls
  unreviewed : ∀ i k, (w.calls i).reviewing = some k → hasReview w.db.reviews k = false

theorem ReviewCall.bookingLock_of_reviewing {c : ReviewCall} {k : BookingId} (h : c.reviewing = some k) :
    c.bookingLock = some k := by
  cases c <;> simp_all [reviewing, bookingLock]

theorem ReviewInv.step {w : ReviewWorld n} (h : ReviewInv w) (l : ReviewLabel n) :
    ReviewInv (reviewStep w l) := by
  have hmove := reviewStep_move w l
  generalize reviewStep w l = w' at hmove
  cases hmove with
  | bookings => exact ⟨h.one, h.locks, h.unreviewed⟩
  | @moves _ i c lock reviewing =>
    refine ⟨h.one, h.locks.update lock, fun j k hk => ?_⟩
    simp only [ReviewWorld.set, Function.update_apply] at hk
    split at hk
    · exact (reviewing k hk).elim (h.unreviewed i k) id
    · exact h.unreviewed j k hk
  | @commits i row seen call =>
    have hrow : (w.calls i).reviewing = some row.bookingId := by rw [call]; rfl
    have hnew := hasReview_eq_false.mp (h.unreviewed i row.bookingId hrow)
    refine ⟨?_, h.locks.update (by simp [ReviewCall.bookingLock]), fun j k hk => ?_⟩
    · simpa [ReviewDb.OneReviewEach, ReviewDb.addReview, List.nodup_append] using
        ⟨h.one, fun r hr heq => hnew (heq ▸ List.mem_map_of_mem hr)⟩
    · simp only [ReviewWorld.set, Function.update_apply] at hk
      split at hk
      case isTrue => cases hk
      case isFalse hji =>
        have hne : k ≠ row.bookingId := by
          rintro rfl
          exact hji (h.locks i row.bookingId (ReviewCall.bookingLock_of_reviewing hrow) j
            (ReviewCall.bookingLock_of_reviewing hk))
        have hold := hasReview_eq_false.mp (h.unreviewed j k hk)
        rw [hasReview_eq_false]
        simpa [ReviewDb.addReview, hne] using hold

theorem ReviewInv.start {w : ReviewWorld n} (hone : w.db.OneReviewEach) (hidle : ∀ i, w.calls i = .idle) :
    ReviewInv w :=
  ⟨hone, Lib.exclusive_of_none fun i => by rw [hidle i]; rfl, fun i k hk => by rw [hidle i] at hk; cases hk⟩

/-! ## Ratings -/

theorem publishedReviews_append_of_ne {reviews : List Review} {row : Review} {propertyId : PropertyId}
    (h : propertyId ≠ row.propertyId) :
    publishedReviews (reviews ++ [row]) propertyId = publishedReviews reviews propertyId := by
  simp [publishedReviews, List.filter_append, h.symm]

theorem ratingsMatch_step {w : ReviewWorld n} (h : w.db.RatingsMatch) {l : ReviewLabel n}
    (hfresh : CommitsFresh w l) : (reviewStep w l).db.RatingsMatch := by
  have hmove := reviewStep_move w l
  generalize reviewStep w l = w' at hmove
  cases hmove with
  | moves => exact h
  | bookings => exact h
  | @commits i row seen call =>
    have hseen : seen = publishedReviews (w.db.reviews ++ [row]) row.propertyId := by
      simpa [CommitsFresh, call, ReviewCall.Fresh] using hfresh
    intro p hp
    rcases (Table.mem_modify (f := RatedProperty.rate seen) fun _ => rfl).mp hp with ⟨p, -, hid, rfl⟩ | ⟨hp, hid⟩
    · have hid : p.id = row.propertyId := hid
      simp [RatedProperty.rate, ReviewDb.addReview, hid, ← hseen]
    · have hne : p.id ≠ row.propertyId := hid
      have hold := h p hp
      simpa [ReviewDb.addReview, publishedReviews_append_of_ne hne] using hold

/-- Where no call commits an outdated aggregate, ratings match the reviews in every state,
with calls in progress or not; each booking has at most one review. -/
theorem ratings_match {w : ReviewWorld n} (hone : w.db.OneReviewEach) (hmatch : w.db.RatingsMatch)
    (hidle : ∀ i, w.calls i = .idle) {labels : List (ReviewLabel n)}
    (hfresh : Guarded reviewStep CommitsFresh w labels) :
    (run reviewStep w labels).db.RatingsMatch ∧ (run reviewStep w labels).db.OneReviewEach := by
  have hinv : ReviewInv (run reviewStep w labels) :=
    Lib.Transition.run_invariant' (fun _ l hw => hw.step l) (ReviewInv.start hone hidle) labels
  exact ⟨Lib.Transition.run_invariant (I := fun w => w.db.RatingsMatch)
    (fun _ _ h hfresh => ratingsMatch_step h hfresh) hmatch hfresh, hinv.one⟩

/-! ## Two stays at one property -/

instance (db : ReviewDb) : Decidable db.RatingsMatch :=
  inferInstanceAs (Decidable (∀ p ∈ db.properties.rows, _ ∧ _))

instance (db : ReviewDb) : Decidable db.OneReviewEach :=
  inferInstanceAs (Decidable (List.Nodup _))

instance (w : ReviewWorld n) : Decidable w.Quiescent := inferInstanceAs (Decidable (∀ _, _ = _))

instance (reviews : List Review) (c : ReviewCall) : Decidable (c.Fresh reviews) :=
  match c with
  | .rated _ _ => inferInstanceAs (Decidable (_ = _))
  | .idle | .begun _ _ | .locked _ _ _ | .unreviewed _ _ _ | .inserted _ | .aggregated _ _ | .returned _
  | .failed _ => isTrue trivial

instance (w : ReviewWorld n) (l : ReviewLabel n) : Decidable (CommitsFresh w l) :=
  match l with
  | .statement i => inferInstanceAs (Decidable ((w.calls i).Fresh w.db.reviews))
  | .call _ _ _ | .connectionLost _ | .bookingStatus _ _ => isTrue trivial

def twoStays : ReviewWorld 2 where
  db := ⟨⟨[⟨1, 1, 7, .completed⟩, ⟨2, 2, 7, .completed⟩], by decide⟩, [], ⟨[⟨7, none, 0⟩], by decide⟩⟩
  calls _ := .idle

section

local instance twoReviewers : NeZero 2 := ⟨two_ne_zero⟩

def twoReviews : List (ReviewLabel 2) :=
  [.call 0 10 ⟨1, 1, 5, none, none, none, none, none, none⟩,
    .call 1 20 ⟨2, 2, 2, none, none, none, none, none, none⟩]

/-- The calls run one after the other. -/
def oneByOne : List (ReviewLabel 2) :=
  twoReviews ++ List.replicate 6 (.statement 0) ++ List.replicate 6 (.statement 1)

theorem oneByOne_match : (run reviewStep twoStays oneByOne).db.RatingsMatch ∧
    (run reviewStep twoStays oneByOne).db.OneReviewEach :=
  ratings_match (by decide) (by decide) (fun _ => rfl) (by decide)

/-- Both calls aggregate before either commits. -/
def bothAggregate : List (ReviewLabel 2) :=
  twoReviews ++ List.replicate 4 (.statement 0) ++ List.replicate 4 (.statement 1)
    ++ List.replicate 2 (.statement 0) ++ List.replicate 2 (.statement 1)

end

theorem bothAggregate_mismatch : (run reviewStep twoStays bothAggregate).Quiescent ∧
    ¬ (run reviewStep twoStays bothAggregate).db.RatingsMatch := by decide

end HostPlatform
