-- SUMMARY: Concurrent calls of `createReview` as a system: each call statement by statement under READ COMMITTED, with the row locks it takes.
import HostPlatform.Reviews.CreateReview
import HostPlatform.Lib.Locks
import HostPlatform.Lib.Transition

/-!
# Calls of `createReview`

A statement reads what is committed, and what its own transaction has written. The lock of
the booking is held from the first statement, the lock of the property from the update of
its rating, both up to the commit. A statement that waits for a lock leaves the state as it is.
-/

namespace HostPlatform

open Lib (Exclusive Free Table require)
open Lib.Transition (run)

/-- A call by the last statement it has executed. -/
inductive ReviewCall where
  | idle
  /-- `BEGIN`. -/
  | begun (id : Nat) (input : CreateReviewInput)
  /-- The booking is locked and checked. -/
  | locked (id : Nat) (input : CreateReviewInput) (b : StayRow)
  /-- There was no review of the booking. -/
  | unreviewed (id : Nat) (input : CreateReviewInput) (b : StayRow)
  | inserted (row : Review)
  /-- The published reviews that the aggregate is of, the call's own among them. -/
  | aggregated (row : Review) (seen : List Review)
  | rated (row : Review) (seen : List Review)
  | returned (row : Review)
  | failed (e : ReviewError)
  deriving DecidableEq, Repr

namespace ReviewCall

def inProgress : ReviewCall → Bool
  | .idle | .returned _ | .failed _ => false
  | _ => true

/-- The booking whose row is locked. -/
def bookingLock : ReviewCall → Option BookingId
  | .locked _ input _ | .unreviewed _ input _ => some input.bookingId
  | .inserted row | .aggregated row _ | .rated row _ => some row.bookingId
  | _ => none

/-- The property whose row is locked. -/
def propertyLock : ReviewCall → Option PropertyId
  | .rated row _ => some row.propertyId
  | _ => none

/-- The booking that was found without a review. -/
def reviewing : ReviewCall → Option BookingId
  | .unreviewed _ input _ => some input.bookingId
  | .inserted row | .aggregated row _ | .rated row _ => some row.bookingId
  | _ => none

end ReviewCall

/-- Some calls on one database. -/
structure ReviewWorld (n : Nat) where
  db : ReviewDb
  calls : Fin n → ReviewCall

inductive ReviewLabel (n : Nat) where
  | call (i : Fin n) (id : Nat) (input : CreateReviewInput)
  /-- The next statement of a call. -/
  | statement (i : Fin n)
  | connectionLost (i : Fin n)
  /-- Another transaction sets the status of a booking. -/
  | bookingStatus (id : BookingId) (status : BookingStatus)
  deriving DecidableEq, Repr

variable {n : Nat}

def ReviewWorld.set (w : ReviewWorld n) (i : Fin n) (c : ReviewCall) : ReviewWorld n :=
  { w with calls := Function.update w.calls i c }

@[simp] theorem ReviewWorld.set_calls_self (w : ReviewWorld n) (i : Fin n) (c : ReviewCall) :
    (w.set i c).calls i = c := Function.update_self ..

@[simp] theorem ReviewWorld.set_db (w : ReviewWorld n) (i : Fin n) (c : ReviewCall) :
    (w.set i c).db = w.db := rfl

@[simp] theorem ReviewWorld.set_set (w : ReviewWorld n) (i : Fin n) (c c' : ReviewCall) :
    (w.set i c).set i c' = w.set i c' := by simp [set]

def nextStatement (w : ReviewWorld n) (i : Fin n) : ReviewWorld n :=
  match w.calls i with
  | .begun id input =>
    if Free ReviewCall.bookingLock w.calls i input.bookingId then
      match reviewableStay input w.db.bookings with
      | .error e => w.set i (.failed e)
      | .ok b => w.set i (.locked id input b)
    else w
  | .locked id input b =>
    if hasReview w.db.reviews input.bookingId then w.set i (.failed .alreadyExists)
    else w.set i (.unreviewed id input b)
  | .unreviewed id input b =>
    -- only committed rows are met by the unique index: the booking is locked
    match insertReview (reviewRow id input b) w.db.reviews with
    | .error e => w.set i (.failed e)
    | .ok () => w.set i (.inserted (reviewRow id input b))
  | .inserted row => w.set i (.aggregated row (publishedReviews (w.db.reviews ++ [row]) row.propertyId))
  | .aggregated row seen =>
    if Free ReviewCall.propertyLock w.calls i row.propertyId then w.set i (.rated row seen) else w
  | .rated row seen => { w.set i (.returned row) with db := w.db.addReview row seen }
  | .idle | .returned _ | .failed _ => w

def reviewStep (w : ReviewWorld n) : ReviewLabel n → ReviewWorld n
  | .call i id input => if w.calls i = .idle then w.set i (.begun id input) else w
  | .statement i => nextStatement w i
  | .connectionLost i => if (w.calls i).inProgress then w.set i (.failed .connectionLost) else w
  | .bookingStatus id status =>
    if ∀ i, (w.calls i).bookingLock ≠ some id then
      { w with db := { w.db with bookings := w.db.bookings.modify id fun b => { b with status := status } } }
    else w

/-! ## What a step does -/

/-- A call moves on, taking no lock that another holds and no booking that has a review; or
it commits; or a booking changes. -/
inductive ReviewMove (w : ReviewWorld n) : ReviewLabel n → ReviewWorld n → Prop where
  | moves {l : ReviewLabel n} {i : Fin n} {c : ReviewCall}
      (lock : ∀ k, c.bookingLock = some k →
        (w.calls i).bookingLock = some k ∨ Free ReviewCall.bookingLock w.calls i k)
      (reviewing : ∀ k, c.reviewing = some k →
        (w.calls i).reviewing = some k ∨ hasReview w.db.reviews k = false) :
      ReviewMove w l (w.set i c)
  | commits {i : Fin n} {row : Review} {seen : List Review} (call : w.calls i = .rated row seen) :
      ReviewMove w (.statement i) { w.set i (.returned row) with db := w.db.addReview row seen }
  | bookings {l : ReviewLabel n} {bookings : Table StayRow} :
      ReviewMove w l { w with db := { w.db with bookings := bookings } }

theorem ReviewMove.stays (w : ReviewWorld n) (l : ReviewLabel n) : ReviewMove w l w :=
  @ReviewMove.bookings n w l w.db.bookings

/-- A call that gives up. -/
theorem ReviewMove.gives_up {w : ReviewWorld n} {l : ReviewLabel n} {i : Fin n} {c : ReviewCall}
    (hlock : c.bookingLock = none) (hreviewing : c.reviewing = none) : ReviewMove w l (w.set i c) :=
  .moves (by simp [hlock]) (by simp [hreviewing])

theorem nextStatement_move (w : ReviewWorld n) (i : Fin n) :
    ReviewMove w (.statement i) (nextStatement w i) := by
  unfold nextStatement
  split
  case h_1 id input hcall =>
    split
    case isTrue hfree =>
      split
      · exact .gives_up rfl rfl
      · refine .moves ?_ (by simp [ReviewCall.reviewing])
        rintro k ⟨⟩
        exact .inr hfree
    case isFalse => exact .stays w _
  case h_2 id input b hcall =>
    split
    case isTrue => exact .gives_up rfl rfl
    case isFalse hnone =>
      refine .moves ?_ ?_
      · rintro k ⟨⟩
        exact .inl (by rw [hcall]; rfl)
      · rintro k ⟨⟩
        exact .inr (by simpa using hnone)
  case h_3 id input b hcall =>
    split
    · exact .gives_up rfl rfl
    · refine .moves ?_ ?_
      · rintro k ⟨⟩
        exact .inl (by rw [hcall]; rfl)
      · rintro k ⟨⟩
        exact .inl (by rw [hcall]; rfl)
  case h_4 row hcall =>
    refine .moves ?_ ?_
    · rintro k ⟨⟩
      exact .inl (by rw [hcall]; rfl)
    · rintro k ⟨⟩
      exact .inl (by rw [hcall]; rfl)
  case h_5 row seen hcall =>
    split
    case isTrue =>
      refine .moves ?_ ?_
      · rintro k ⟨⟩
        exact .inl (by rw [hcall]; rfl)
      · rintro k ⟨⟩
        exact .inl (by rw [hcall]; rfl)
    case isFalse => exact .stays w _
  case h_6 row seen hcall => exact .commits hcall
  all_goals exact .stays w _

theorem reviewStep_move (w : ReviewWorld n) (l : ReviewLabel n) : ReviewMove w l (reviewStep w l) := by
  cases l with
  | call i id input =>
    simp only [reviewStep]
    split
    · exact .gives_up rfl rfl
    · exact .stays w _
  | statement i => exact nextStatement_move w i
  | connectionLost i =>
    simp only [reviewStep]
    split
    · exact .gives_up rfl rfl
    · exact .stays w _
  | bookingStatus id status =>
    simp only [reviewStep]
    split
    · exact .bookings
    · exact .stays w _

/-! ## One call alone -/

/-- Once a call is over, its statements do nothing. -/
theorem run_statements_over {w : ReviewWorld n} {i : Fin n} (h : (w.calls i).inProgress = false) (k : Nat) :
    run reviewStep w (List.replicate k (.statement i)) = w := by
  induction k with
  | zero => rfl
  | succ k ih =>
    have hstep : reviewStep w (.statement i) = w := by
      cases hcall : w.calls i <;> simp [hcall, ReviewCall.inProgress] at h <;>
        simp [reviewStep, nextStatement, hcall]
    rw [List.replicate_succ, Lib.Transition.run_cons, hstep, ih]

/-- No other call holding a lock, the statements of a call are `createReview`. -/
theorem run_statements {w : ReviewWorld n} {i : Fin n} {id : Nat} {input : CreateReviewInput}
    (hcall : w.calls i = .begun id input)
    (halone : ∀ j, j ≠ i → (w.calls j).bookingLock = none ∧ (w.calls j).propertyLock = none) :
    run reviewStep w (List.replicate 6 (.statement i)) =
      match createReview id input w.db with
      | .ok (row, db) => { w.set i (.returned row) with db := db }
      | .error e => w.set i (.failed e) := by
  have hbooking : ∀ c k, Free ReviewCall.bookingLock (w.set i c).calls i k := by
    intro c k j hj
    by_contra hne
    simp [ReviewWorld.set, hne, (halone j hne).1] at hj
  have hproperty : ∀ c k, Free ReviewCall.propertyLock (w.set i c).calls i k := by
    intro c k j hj
    by_contra hne
    simp [ReviewWorld.set, hne, (halone j hne).2] at hj
  have hw : w = w.set i (.begun id input) := by simp [ReviewWorld.set, ← hcall]
  have hfailed : ∀ e k, run reviewStep (w.set i (.failed e)) (List.replicate k (.statement i)) = w.set i (.failed e) :=
    fun e k => run_statements_over (by simp [ReviewCall.inProgress]) k
  rw [hw, List.replicate_succ, Lib.Transition.run_cons]
  simp only [reviewStep, nextStatement, ReviewWorld.set_calls_self, ReviewWorld.set_db, hbooking, if_true,
    ReviewWorld.set_set]
  cases hstay : reviewableStay input w.db.bookings with
  | error e =>
    have hcreate : createReview id input w.db = .error e := by rw [createReview, hstay]; rfl
    rw [hcreate]
    exact hfailed e 5
  | ok b =>
    rw [List.replicate_succ, Lib.Transition.run_cons]
    simp only [reviewStep, nextStatement, ReviewWorld.set_calls_self, ReviewWorld.set_db, ReviewWorld.set_set]
    by_cases hreview : hasReview w.db.reviews input.bookingId = true
    · have hcreate : createReview id input w.db = .error .alreadyExists := by
        rw [createReview, hstay, Lib.ok_bind, hreview]
        rfl
      simp only [hcreate, hreview, if_true]
      exact hfailed _ 4
    · rw [Bool.not_eq_true] at hreview
      simp only [hreview, Bool.false_eq_true, if_false]
      rw [List.replicate_succ, Lib.Transition.run_cons]
      simp only [reviewStep, nextStatement, ReviewWorld.set_calls_self, ReviewWorld.set_db, ReviewWorld.set_set]
      cases hinsert : insertReview (reviewRow id input b) w.db.reviews with
      | error e =>
        have hcreate : createReview id input w.db = .error e := by
          rw [createReview_of_unreviewed hstay hreview, hinsert]
          rfl
        rw [hcreate]
        exact hfailed e 3
      | ok u =>
        have hcreate : createReview id input w.db = .ok (reviewRow id input b, w.db.addReview (reviewRow id input b)
            (publishedReviews (w.db.reviews ++ [reviewRow id input b]) b.propertyId)) := by
          rw [createReview_of_unreviewed hstay hreview, hinsert]
          rfl
        rw [hcreate]
        simp only [List.replicate_succ, List.replicate_zero, Lib.Transition.run_cons, Lib.Transition.run_nil,
          reviewStep, nextStatement, ReviewWorld.set_calls_self, ReviewWorld.set_db, ReviewWorld.set_set,
          hproperty, if_true]
        rfl
end HostPlatform
