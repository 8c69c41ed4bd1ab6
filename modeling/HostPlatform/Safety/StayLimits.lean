-- SUMMARY: When the stay limits of a property stay in order over any creations and partial updates.
import HostPlatform.Safety.ReviewedListing

/-!
# Stay limits

The schemas compare the two limits of one request body. An update merges the body into the
stored columns, and nothing compares the limits it leaves.
-/

namespace HostPlatform

open Lib Lib.Transition

/-! ## The schemas -/

/-- `stayRangeIsValid` (`schemas.ts`). -/
def PropertyInput.stayRangeIsValid (data : PropertyInput) : Bool :=
  match data.minStayNights, data.maxStayNights with
  | some minStayNights, some maxStayNights => decide (minStayNights ≤ maxStayNights)
  | _, _ => true

/-- `z.coerce.number().int().min(1).max(365).optional()`. -/
def stayNightsField (nights : Option Int) : Bool := nights.all fun n => decide (1 ≤ n ∧ n ≤ 365)

/-- What `createPropertySchema` and `updatePropertySchema` check of the stay limits. -/
def PropertyInput.stayLimitsParse (input : PropertyInput) : Bool :=
  stayNightsField input.minStayNights && stayNightsField input.maxStayNights && input.stayRangeIsValid

namespace Listings

/-- A step behind the routes: a body that does not parse is answered 400. -/
def routed (s : Listings) : ListingLabel → Listings
  | .createProperty hostId input =>
    if input.stayLimitsParse then s.step (.createProperty hostId input) else s
  | .updateProperty p input => if input.stayLimitsParse then s.step (.updateProperty p input) else s
  | .transaction t => s.step (.transaction t)
  | .call now c => s.step (.call now c)
  | .callCrash c => s.step (.callCrash c)

end Listings

/-! ## Lengths of stay -/

/-- `createBooking` takes a stay of this length. -/
def ListingContent.Bookable (c : ListingContent) (nights : Int) : Prop :=
  1 ≤ nights ∧ c.minStayNights ≤ nights ∧ nights ≤ c.maxStayNights

/-- The limits of every property are in order, and a published one can be booked. -/
structure ListingDb.StayConsistent (db : ListingDb) : Prop where
  ordered : ∀ p r, db.listings.find? p = some r → r.content.minStayNights ≤ r.content.maxStayNights
  bookable : ∀ p r, db.listings.find? p = some r → r.status = .published → ∃ nights, r.content.Bookable nights

/-- What the `UPDATE` of a call leaves of the limits of its property is in order. -/
def MergesInOrder (s : Listings) : ListingLabel → Prop
  | .call _ c => ∀ call ∈ s.calls.find? c, call.phase = .update → s.db.acceptsUpdate call.propertyId call.input →
      ∀ r ∈ s.db.listings.find? call.propertyId,
        call.input.minStayNights.getD r.content.minStayNights ≤
          call.input.maxStayNights.getD r.content.maxStayNights
  | _ => True

instance (s : Listings) : ∀ l, Decidable (MergesInOrder s l)
  | .call _ c =>
    inferInstanceAs (Decidable (∀ call ∈ s.calls.find? c, call.phase = .update →
      s.db.acceptsUpdate call.propertyId call.input → ∀ r ∈ s.db.listings.find? call.propertyId,
        call.input.minStayNights.getD r.content.minStayNights ≤
          call.input.maxStayNights.getD r.content.maxStayNights))
  | .transaction _ | .createProperty _ _ | .updateProperty _ _ | .callCrash _ => isTrue trivial

/-! ## What a step makes of the content of a property -/

variable {s : Listings}

/-- The content is as it was, inserted, or merged by the `UPDATE` of a call. -/
inductive Listings.ContentStep (s : Listings) (l : ListingLabel) (p : PropertyId) : ListingContent → Prop
  | same (r : Listing) (hr : s.db.listings.find? p = some r) : ContentStep s l p r.content
  | inserted (hostId : HostId) (input : PropertyInput) (content : ListingContent)
      (hl : l = .createProperty hostId input) (hcontent : input.insertedContent = some content) :
      ContentStep s l p content
  | merged (now : Int) (c : Nat) (call : PropertyCall) (r : Listing) (hl : l = .call now c)
      (hcall : s.calls.find? c = some call) (hphase : call.phase = .update)
      (haccepts : s.db.acceptsUpdate call.propertyId call.input) (hp : p = call.propertyId)
      (hr : s.db.listings.find? call.propertyId = some r) :
      ContentStep s l p (call.input.setContent r.content)

theorem ListingTx.exec_content (db : ListingDb) (t : ListingTx) (p : PropertyId) :
    ((t.exec db).listings.find? p).map Listing.content = (db.listings.find? p).map Listing.content := by
  by_cases ht : ∃ now q reviewer decision note, t = .reviewPilotListing now q reviewer decision note
  · obtain ⟨now, q, reviewer, decision, note, rfl⟩ := ht
    refine commit_of (P := fun db' : ListingDb => (db'.listings.find? p).map Listing.content =
      (db.listings.find? p).map Listing.content) rfl fun report db' h => ?_
    obtain ⟨-, rfl⟩ := reviewPilotListing_eq_ok h
    exact db.content_updateListing q (Listing.setPilotReview now reviewer decision note) (fun _ => rfl)
      (fun _ => rfl) p
  · refine (ListingTx.exec_writes db fun now q reviewer decision note heq => ht ?_).content p
    exact ⟨now, q, reviewer, decision, note, heq⟩

theorem Listings.ContentStep.of_same {l : ListingLabel} {p : PropertyId} {db : ListingDb} {r' : Listing}
    (hsame : (db.listings.find? p).map Listing.content = (s.db.listings.find? p).map Listing.content)
    (hr' : db.listings.find? p = some r') : s.ContentStep l p r'.content := by
  rw [hr', Option.map_some, eq_comm, Option.map_eq_some_iff] at hsame
  obtain ⟨r, hr, hcontent⟩ := hsame
  rw [← hcontent]
  exact .same r hr

theorem Listings.content_step (s : Listings) (l : ListingLabel) {p : PropertyId} {r' : Listing}
    (hr' : (s.step l).db.listings.find? p = some r') : s.ContentStep l p r'.content := by
  cases l with
  | transaction t => exact .of_same (ListingTx.exec_content s.db t p) hr'
  | updateProperty q input => exact .same r' hr'
  | callCrash c => exact .same r' hr'
  | createProperty hostId input =>
    cases hcreate : createPropertyForHost s.db hostId input with
    | error e =>
      simp only [step, createProperty, hcreate] at hr'
      exact .same r' hr'
    | ok result =>
      obtain ⟨q, db⟩ := result
      have hdb : (s.step (.createProperty hostId input)).db = db := by
        simp only [step, createProperty, hcreate]
        split <;> rfl
      rw [hdb] at hr'
      obtain ⟨-, content, haccepts, -, rfl⟩ := createPropertyForHost_eq_ok.mp hcreate
      rw [ListingDb.find?_insertListing] at hr'
      split at hr'
      · cases hr'
        exact .inserted hostId input content rfl haccepts.content
      · exact .same r' hr'
  | call now c =>
    simp only [step, stepCall_db] at hr'
    cases hcall : s.calls.find? c with
    | none =>
      rw [hcall] at hr'
      exact .same r' hr'
    | some call =>
      simp only [hcall] at hr'
      by_cases hphase : call.phase = .update
      · by_cases haccepts : s.db.acceptsUpdate call.propertyId call.input
        case neg =>
          rw [stepPropertyCall_update hphase, if_neg haccepts] at hr'
          exact .same r' hr'
        rw [find?_stepPropertyCall_update hphase haccepts] at hr'
        split at hr'
        · rename_i hp
          rw [Option.map_eq_some_iff] at hr'
          obtain ⟨r, hr, rfl⟩ := hr'
          rw [content_invalidatePropertyPilotReview]
          exact .merged now c call r rfl hcall hphase haccepts hp hr
        · exact .same r' hr'
      · rw [listings_stepPropertyCall hphase] at hr'
        exact .same r' hr'

/-! ## The invariant -/

/-- Every body under way parses, and no minimum is below one night. -/
structure Listings.Parsed (s : Listings) : Prop where
  calls : ∀ call ∈ s.calls.rows, call.input.stayLimitsParse
  minimum : ∀ p r, s.db.listings.find? p = some r → 1 ≤ r.content.minStayNights

theorem PropertyInput.inserted_limits {input : PropertyInput} (h : input.stayLimitsParse)
    {content : ListingContent} (hcontent : input.insertedContent = some content) :
    1 ≤ content.minStayNights ∧ content.minStayNights ≤ content.maxStayNights := by
  simp only [insertedContent, Option.bind_eq_bind, Option.bind_eq_some_iff, Option.pure_def,
    Option.some.injEq] at hcontent
  obtain ⟨_, -, _, -, _, -, _, -, _, -, rfl⟩ := hcontent
  simp only [stayLimitsParse, Bool.and_eq_true, stayNightsField, stayRangeIsValid] at h
  cases hmin : input.minStayNights <;> cases hmax : input.maxStayNights <;> simp_all

theorem PropertyInput.one_le_minimum {input : PropertyInput} (h : input.stayLimitsParse) {n : Int} (hn : 1 ≤ n) :
    1 ≤ input.minStayNights.getD n := by
  simp only [stayLimitsParse, Bool.and_eq_true, stayNightsField] at h
  cases hmin : input.minStayNights with
  | none => exact hn
  | some m => simp_all

theorem Listings.calls_step (h : ∀ call ∈ s.calls.rows, call.input.stayLimitsParse) (l : ListingLabel)
    (hl : ∀ hostId p input, l = .createProperty hostId input ∨ l = .updateProperty p input → input.stayLimitsParse) :
    ∀ call ∈ (s.step l).calls.rows, call.input.stayLimitsParse := by
  intro call hcall
  cases l with
  | transaction t => exact h call hcall
  | updateProperty p input =>
    rcases List.mem_append.mp hcall with hcall | hcall
    · exact h call hcall
    · cases List.mem_singleton.mp hcall
      exact hl 0 p input (.inr rfl)
  | callCrash c => exact h call (List.mem_of_mem_filter hcall)
  | createProperty hostId input =>
    simp only [step, createProperty] at hcall
    split at hcall
    · exact h call hcall
    · split at hcall
      · exact h call hcall
      · rcases List.mem_append.mp hcall with hcall | hcall
        · exact h call hcall
        · cases List.mem_singleton.mp hcall
          exact hl hostId 0 input (.inl rfl)
  | call now c =>
    simp only [step, stepCall] at hcall
    split at hcall
    · exact h call hcall
    · split at hcall
      · rcases (Table.mem_modify (by intro call; rfl)).mp hcall with ⟨call', hcall', -, rfl⟩ | ⟨hcall, -⟩
        · exact h call' hcall'
        · exact h call hcall
      · exact h call (List.mem_of_mem_filter hcall)

/-- A step behind the routes does nothing, or parsed its body if it has one. -/
theorem Listings.routed_cases (s : Listings) (l : ListingLabel) :
    s.routed l = s ∧ MergesInOrder s l ∨
      s.routed l = s.step l ∧
        ∀ hostId p input, l = .createProperty hostId input ∨ l = .updateProperty p input → input.stayLimitsParse := by
  cases l with
  | createProperty hostId input =>
    cases hparse : input.stayLimitsParse with
    | true =>
      refine .inr ⟨by simp [routed, hparse], fun _ _ _ hl => ?_⟩
      rcases hl with hl | hl <;> cases hl
      exact hparse
    | false => exact .inl ⟨by simp [routed, hparse], trivial⟩
  | updateProperty p input =>
    cases hparse : input.stayLimitsParse with
    | true =>
      refine .inr ⟨by simp [routed, hparse], fun _ _ _ hl => ?_⟩
      rcases hl with hl | hl <;> cases hl
      exact hparse
    | false => exact .inl ⟨by simp [routed, hparse], trivial⟩
  | transaction | call | callCrash =>
    refine .inr ⟨rfl, fun _ _ _ hl => ?_⟩
    rcases hl with hl | hl <;> cases hl

theorem Listings.Parsed.routed (h : s.Parsed) (l : ListingLabel) : (s.routed l).Parsed := by
  rcases s.routed_cases l with ⟨hsame, -⟩ | ⟨hstep, hparse⟩
  · rw [hsame]
    exact h
  · rw [hstep]
    refine ⟨calls_step h.calls l hparse, fun p r hr => ?_⟩
    have hcontent := s.content_step l hr
    generalize r.content = content at hcontent
    cases hcontent with
    | same r hr => exact h.minimum p r hr
    | inserted hostId input content hl hcontent =>
      exact (PropertyInput.inserted_limits (hparse hostId 0 input (.inl hl)) hcontent).1
    | merged now c call r hl hcall hphase haccepts hp hr =>
      exact PropertyInput.one_le_minimum (h.calls call (Table.mem_of_find? hcall)) (h.minimum _ r hr)

/-- Limits in order leave a length of stay that can be booked. -/
theorem Listings.Parsed.consistent (h : s.Parsed)
    (hordered : ∀ p r, s.db.listings.find? p = some r → r.content.minStayNights ≤ r.content.maxStayNights) :
    s.db.StayConsistent :=
  ⟨hordered, fun p r hr _ => ⟨_, h.minimum p r hr, le_rfl, hordered p r hr⟩⟩

theorem Listings.stayConsistent_routed_iff (h : s.Parsed) (hconsistent : s.db.StayConsistent) (l : ListingLabel) :
    (s.routed l).db.StayConsistent ↔ MergesInOrder s l := by
  rcases s.routed_cases l with ⟨hsame, hmerges⟩ | ⟨hstep, hparse⟩
  · rw [hsame]
    exact ⟨fun _ => hmerges, fun _ => hconsistent⟩
  constructor
  · intro hnext
    cases l with
    | call now c =>
      intro call hcall hphase haccepts r hr
      have hr' : (s.step (.call now c)).db.listings.find? call.propertyId =
          some (invalidatePropertyPilotReview r (call.input.setListing r)) := by
        have hcall : s.calls.find? c = some call := hcall
        have hr : s.db.listings.find? call.propertyId = some r := hr
        simp only [step, stepCall_db, hcall]
        rw [find?_stepPropertyCall_update hphase haccepts, if_pos rfl, hr]
        rfl
      rw [hstep] at hnext
      have hordered := hnext.ordered _ _ hr'
      rw [content_invalidatePropertyPilotReview] at hordered
      exact hordered
    | transaction | createProperty | updateProperty | callCrash => trivial
  · intro hmerges
    refine (h.routed l).consistent fun p r hr => ?_
    rw [hstep] at hr
    have hcontent := s.content_step l hr
    clear hr
    generalize r.content = content at hcontent
    cases hcontent with
    | same r hr => exact hconsistent.ordered p r hr
    | inserted hostId input content hl hcontent =>
      exact (PropertyInput.inserted_limits (hparse hostId 0 input (.inl hl)) hcontent).2
    | merged now c call r hl hcall hphase haccepts hp hr =>
      subst hl
      exact hmerges call hcall hphase haccepts r hr

/-- From properties with limits in order, they are in order in every state of a run exactly if
each `UPDATE` of the run leaves the merged ones in order. -/
theorem stayConsistent_iff {db : ListingDb}
    (hdb : ∀ r ∈ db.listings.rows, 1 ≤ r.content.minStayNights ∧ r.content.minStayNights ≤ r.content.maxStayNights)
    (ls : List ListingLabel) :
    (∀ pre suf, ls = pre ++ suf → (run Listings.routed (.start db) pre).db.StayConsistent) ↔
      Guarded Listings.routed MergesInOrder (.start db) ls := by
  have hparsed : (Listings.start db).Parsed := by
    constructor
    case calls => simp [Listings.start]
    case minimum => exact fun p r hr => (hdb r (Table.mem_of_find? hr)).1
  exact always_iff_guarded (I := Listings.Parsed) (fun s l h => h.routed l)
    (fun s l h hconsistent => s.stayConsistent_routed_iff h hconsistent l) hparsed
    (hparsed.consistent fun p r hr => (hdb r (Table.mem_of_find? hr)).2)

/-- The longest stay is raised before the shortest. -/
def limitsRaised : List ListingLabel :=
  [.createProperty 1 { sampleListingInput with maxStayNights := some 5 }] ++
    patched { maxStayNights := some 20 } ++ [.updateProperty 1 { minStayNights := some 10 }, .call 8 1]

theorem limitsRaised_consistent :
    (run Listings.routed (.start sampleListingDb) limitsRaised).db.StayConsistent :=
  (stayConsistent_iff (by decide) limitsRaised).mpr (by decide) limitsRaised [] (List.append_nil _).symm

/-- An approved listing of at most five nights is published with a minimum of ten. -/
def publishedWithLongStays : List ListingLabel :=
  [.createProperty 1 { sampleListingInput with maxStayNights := some 5 }] ++ approvedListing.tail ++
    patched { minStayNights := some 10, status := some .published }

/-- The listing is published, and no length of stay can be booked. -/
theorem publishedWithLongStays_unbookable :
    ((run Listings.routed (.start sampleListingDb) publishedWithLongStays).db.listings.find? 1).map
        (fun r => (r.status, r.content.minStayNights, r.content.maxStayNights)) = some (.published, 10, 5) ∧
      ¬ (run Listings.routed (.start sampleListingDb) publishedWithLongStays).db.StayConsistent := by
  refine ⟨by decide, fun h => ?_⟩
  exact absurd (h.ordered 1 _ (Option.some_get (by decide)).symm) (by decide)

end HostPlatform
