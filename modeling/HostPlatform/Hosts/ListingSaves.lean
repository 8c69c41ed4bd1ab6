-- SUMMARY: Calls that save a listing, with their outcome: each of their statements is answered or fails, and several calls may run at once.
import HostPlatform.ListingEdits

/-!
# Saving a listing

`createPropertyForHost` and `updatePropertyForHost` are run here up to their outcome. A
statement that fails has no effect, and ends its call.
-/

namespace HostPlatform

/-- The tables, with the column `properties.updated_at` beside them. -/
structure SavedDb extends ListingDb where
  updatedAt : PropertyId → Option Int

/-- Where a call stands: before the `INSERT` of a creation, before another statement, or ended. -/
inductive SaveStatus where
  | inserting (hostId : HostId)
  | sending (phase : PropertyPhase)
  | returned
  | thrown
  deriving DecidableEq, Repr

structure SaveCall where
  propertyId : PropertyId
  input : PropertyInput
  status : SaveStatus
  deriving DecidableEq, Repr

/-- The `UPDATE` has `SET` clauses. -/
def PropertyInput.setsColumns (input : PropertyInput) : Bool :=
  decide (input ≠ { amenityIds := input.amenityIds })

/-- The last statement of a call has been answered, and was not refused. -/
def SaveCall.returnsAfter (db : SavedDb) (call : SaveCall) : PropertyPhase → Bool
  | .update => db.acceptsUpdate call.propertyId call.input && call.input.amenityIds.isNone
  | .insertAmenities [] => true
  | _ => false

/-- `updated_at = NOW()`. -/
def SavedDb.stamp (db : SavedDb) (now : Int) (p : PropertyId) : SavedDb :=
  { db with updatedAt := fun q => if q = p then some now else db.updatedAt q }

/-- The `UPDATE` writes the row. -/
def SaveCall.writesRow (db : SavedDb) (call : SaveCall) (phase : PropertyPhase) : Bool :=
  decide (phase = .update) && call.input.setsColumns && (db.listings.find? call.propertyId).isSome
    && db.acceptsUpdate call.propertyId call.input

@[simp] theorem SaveCall.writesRow_of_ne (db : SavedDb) (call : SaveCall) {phase : PropertyPhase} (h : phase ≠ .update) :
    call.writesRow db phase = false := by
  simp [writesRow, h]

/-- The next statement of an update, or of a creation after its `INSERT`. -/
def SaveCall.send (db : SavedDb) (now : Int) (call : SaveCall) (phase : PropertyPhase) : SaveStatus × SavedDb :=
  let stamped := if call.writesRow db phase then db.stamp now call.propertyId else db
  match stepPropertyCall db.toListingDb now ⟨0, call.propertyId, call.input, phase⟩ with
  | (some next, listingDb) => (.sending next, { stamped with toListingDb := listingDb })
  | (none, listingDb) =>
    (if call.returnsAfter db phase then .returned else .thrown, { stamped with toListingDb := listingDb })

/-- The next statement of a call is answered. -/
def SaveCall.step (db : SavedDb) (now : Int) (call : SaveCall) : SaveCall × SavedDb :=
  match call.status with
  | .inserting hostId =>
    match createPropertyForHost db.toListingDb hostId call.input with
    | .error _ => ({ call with status := .thrown }, db)
    | .ok (p, listingDb) =>
      let status := if call.input.amenityIds.getD [] = [] then .returned else .sending .clearAmenities
      ({ call with propertyId := p, status := status }, { db with toListingDb := listingDb }.stamp now p)
  | .sending phase =>
    let (status, db') := call.send db now phase
    ({ call with status := status }, db')
  | .returned | .thrown => (call, db)

/-- The call is about to send a statement. -/
def SaveCall.atStatement (call : SaveCall) : Bool :=
  match call.status with
  | .inserting _ => true
  | .sending .update => call.input.setsColumns
  | .sending (.insertAmenities []) => false
  | .sending _ => true
  | .returned | .thrown => false

/-! ## Runs -/

structure Saves where
  db : SavedDb
  calls : List SaveCall

/-- The next statement of a call is answered, at a reading of the clock, or fails. -/
inductive SaveLabel where
  | answered (i : Nat) (now : Int)
  | failed (i : Nat)
  deriving DecidableEq, Repr

namespace Saves

def step (s : Saves) : SaveLabel → Saves
  | .answered i now =>
    match s.calls[i]? with
    | none => s
    | some call => ⟨(call.step s.db now).2, s.calls.set i (call.step s.db now).1⟩
  | .failed i =>
    match s.calls[i]? with
    | none => s
    | some call =>
      if call.atStatement then ⟨s.db, s.calls.set i { call with status := .thrown }⟩ else s

/-- `createPropertyForHost` is called. The property it inserts has the next key. -/
def create (db : SavedDb) (hostId : HostId) (input : PropertyInput) : Saves :=
  ⟨db, [⟨db.listings.freshKey, input, .inserting hostId⟩]⟩

def updateCall (p : PropertyId) (input : PropertyInput) : SaveCall := ⟨p, input, .sending input.firstPhase⟩

/-- `updatePropertyForHost` is called. -/
def update (db : SavedDb) (p : PropertyId) (input : PropertyInput) : Saves := ⟨db, [updateCall p input]⟩

/-- `updatePropertyForHost` is called twice on a property. -/
def updates (db : SavedDb) (p : PropertyId) (input₁ input₂ : PropertyInput) : Saves :=
  ⟨db, [updateCall p input₁, updateCall p input₂]⟩

end Saves

/-! ## What a statement does -/

/-- The property has the amenity. -/
def SavedDb.HasAmenity (db : SavedDb) (p : PropertyId) (a : AmenityId) : Prop := (p, a) ∈ db.propertyAmenities

instance (db : SavedDb) (p : PropertyId) (a : AmenityId) : Decidable (db.HasAmenity p a) :=
  inferInstanceAs (Decidable ((p, a) ∈ db.propertyAmenities))

/-- The `UPDATE` leaves the amenities, and the row as well if it has no `SET` clause. -/
structure SavedDb.Updated (db : SavedDb) (p : PropertyId) (input : PropertyInput) (db' : SavedDb) : Prop where
  amenities : db'.amenities = db.amenities
  propertyAmenities : db'.propertyAmenities = db.propertyAmenities
  listed : (db'.listings.find? p).isSome = (db.listings.find? p).isSome
  row : input.setsColumns = false →
    db'.listings.find? p = db.listings.find? p ∧ db'.updatedAt p = db.updatedAt p

def SavedDb.cleared (db : SavedDb) (p : PropertyId) : SavedDb :=
  { db with toListingDb := db.toListingDb.clearAmenities p }

def SavedDb.withAmenity (db : SavedDb) (p : PropertyId) (a : AmenityId) : SavedDb :=
  { db with toListingDb := db.toListingDb.insertAmenity p a }

@[simp] theorem SavedDb.hasAmenity_cleared (db : SavedDb) (p : PropertyId) (a : AmenityId) :
    ¬ (db.cleared p).HasAmenity p a := by
  simp [HasAmenity, cleared, ListingDb.clearAmenities]

@[simp] theorem SavedDb.hasAmenity_withAmenity (db : SavedDb) (p : PropertyId) (a b : AmenityId) :
    (db.withAmenity p b).HasAmenity p a ↔ db.HasAmenity p a ∨ a = b := by
  simp only [HasAmenity, withAmenity, ListingDb.insertAmenity]
  split
  · rename_i hb
    constructor
    · exact .inl
    · rintro (h | rfl)
      · exact h
      · exact hb
  · simp

/-- All that an answered statement can do. -/
inductive SaveCall.Sends (db : SavedDb) (now : Int) (call : SaveCall) :
    PropertyPhase → SaveStatus → SavedDb → Prop
  | published (h : (db.listings.find? call.propertyId).map Listing.status = some .published) :
      Sends db now call .readStatus (.sending .update) db
  | unpublished (h : (db.listings.find? call.propertyId).map Listing.status ≠ some .published) :
      Sends db now call .readStatus (.sending .assertCanPublish) db
  | ready (report : ListingReadinessReport)
      (h : assertListingReady db.toListingDb now call.propertyId = .ok report) :
      Sends db now call .assertCanPublish (.sending .update) db
  | refused (e : ListingError) (h : assertListingReady db.toListingDb now call.propertyId = .error e) :
      Sends db now call .assertCanPublish .thrown db
  | rejected (h : db.acceptsUpdate call.propertyId call.input = false) : Sends db now call .update .thrown db
  | updates (haccepts : db.acceptsUpdate call.propertyId call.input) (db' : SavedDb) (h : db.Updated call.propertyId call.input db')
      (hstamp : call.input.setsColumns → (db.listings.find? call.propertyId).isSome →
        db'.updatedAt call.propertyId = some now) :
      Sends db now call .update
        (if call.input.amenityIds.isSome then .sending .clearAmenities else .returned) db'
  | clears : Sends db now call .clearAmenities (.sending (.insertAmenities (call.input.amenityIds.getD [])))
      (db.cleared call.propertyId)
  | ends : Sends db now call (.insertAmenities []) .returned db
  | inserts (a : AmenityId) (rest : List AmenityId) (ha : a ∈ db.amenities)
      (hlisted : (db.listings.find? call.propertyId).isSome) :
      Sends db now call (.insertAmenities (a :: rest)) (.sending (.insertAmenities rest))
        (db.withAmenity call.propertyId a)
  | violates (a : AmenityId) (rest : List AmenityId)
      (h : ¬ (a ∈ db.amenities ∧ (db.listings.find? call.propertyId).isSome)) :
      Sends db now call (.insertAmenities (a :: rest)) .thrown db

theorem PropertyInput.setListing_of_no_columns {input : PropertyInput} (h : input.setsColumns = false)
    (r : Listing) : invalidatePropertyPilotReview r (input.setListing r) = r := by
  have hinput : input = { amenityIds := input.amenityIds } := by simpa [setsColumns] using h
  have hsame : input.setListing r = r := by
    rw [hinput]
    simp [setListing, setContent]
  simp [hsame, invalidatePropertyPilotReview]

/-- The row the `UPDATE` writes, with its `updated_at`. -/
def SavedDb.updated (db : SavedDb) (now : Int) (p : PropertyId) (input : PropertyInput) : SavedDb :=
  { (if input.setsColumns ∧ (db.listings.find? p).isSome then db.stamp now p else db) with
    toListingDb := db.updateListing p input.setListing }

theorem SaveCall.send_update_accepted {db : SavedDb} {call : SaveCall}
    (haccepts : db.acceptsUpdate call.propertyId call.input) (now : Int) :
    call.send db now .update =
      (if call.input.amenityIds.isSome then .sending .clearAmenities else .returned,
        db.updated now call.propertyId call.input) := by
  cases hids : call.input.amenityIds <;>
    simp [send, stepPropertyCall, writesRow, returnsAfter, SavedDb.updated, haccepts, hids]

theorem SaveCall.send_update_rejected {db : SavedDb} {call : SaveCall}
    (hrejects : db.acceptsUpdate call.propertyId call.input = false) (now : Int) :
    call.send db now .update = (.thrown, db) := by
  simp [send, stepPropertyCall, writesRow, returnsAfter, hrejects]

theorem SavedDb.Updated.updated (db : SavedDb) (now : Int) (p : PropertyId) (input : PropertyInput) :
    db.Updated p input (db.updated now p input) := by
  have hfind : (db.updated now p input).listings.find? p =
      (db.listings.find? p).map fun r => invalidatePropertyPilotReview r (input.setListing r) := by
    refine (db.find?_updateListing p input.setListing (fun _ => rfl) p).trans ?_
    rw [if_pos rfl]
  constructor
  case amenities => rfl
  case propertyAmenities => rfl
  case listed => simp [hfind]
  case row =>
    intro hcolumns
    rw [hfind]
    simp [SavedDb.updated, hcolumns, PropertyInput.setListing_of_no_columns hcolumns]

theorem SaveCall.send_update (db : SavedDb) (now : Int) (call : SaveCall) :
    SaveCall.Sends db now call .update (call.send db now .update).1 (call.send db now .update).2 := by
  cases haccepts : db.acceptsUpdate call.propertyId call.input with
  | false =>
    rw [send_update_rejected haccepts]
    exact .rejected haccepts
  | true =>
    rw [send_update_accepted haccepts]
    refine .updates haccepts _ (.updated db now call.propertyId call.input) fun hcolumns hlisted => ?_
    simp [SavedDb.updated, hcolumns, hlisted, SavedDb.stamp]

theorem SaveCall.sends_send (db : SavedDb) (now : Int) (call : SaveCall) (phase : PropertyPhase) :
    SaveCall.Sends db now call phase (call.send db now phase).1 (call.send db now phase).2 := by
  cases phase with
  | update => exact call.send_update db now
  | readStatus =>
    by_cases h : (db.listings.find? call.propertyId).map Listing.status = some .published
    · have hsend : call.send db now .readStatus = (.sending .update, db) := by simp [send, stepPropertyCall, h]
      rw [hsend]
      exact .published h
    · have hsend : call.send db now .readStatus = (.sending .assertCanPublish, db) := by
        simp [send, stepPropertyCall, h]
      rw [hsend]
      exact .unpublished h
  | assertCanPublish =>
    cases h : assertListingReady db.toListingDb now call.propertyId with
    | ok report =>
      have hsend : call.send db now .assertCanPublish = (.sending .update, db) := by
        simp [send, stepPropertyCall, h]
      rw [hsend]
      exact .ready report h
    | error e =>
      have hsend : call.send db now .assertCanPublish = (.thrown, db) := by
        simp [send, stepPropertyCall, h, returnsAfter]
      rw [hsend]
      exact .refused e h
  | clearAmenities => exact .clears
  | insertAmenities ids =>
    cases ids with
    | nil => exact .ends
    | cons a rest =>
      by_cases h : a ∈ db.amenities ∧ (db.listings.find? call.propertyId).isSome
      · have hsend : call.send db now (.insertAmenities (a :: rest)) =
            (.sending (.insertAmenities rest), db.withAmenity call.propertyId a) := by
          simp [send, stepPropertyCall, h, SavedDb.withAmenity]
        rw [hsend]
        exact .inserts a rest h.1 h.2
      · have hsend : call.send db now (.insertAmenities (a :: rest)) = (.thrown, db) := by
          simp [send, stepPropertyCall, h, returnsAfter]
        rw [hsend]
        exact .violates a rest h

end HostPlatform
