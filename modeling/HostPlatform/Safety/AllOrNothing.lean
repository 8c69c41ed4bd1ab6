-- SUMMARY: When saving a listing is all or nothing, and what two updates at once leave of its amenities.
import HostPlatform.Hosts.ListingSaves
import HostPlatform.Safety.ReviewedListing

/-!
# Half-saved listings

The statements of `createPropertyForHost` and `updatePropertyForHost` commit one by one.
A call that fails after its first write leaves it, and of two calls each may delete what the
other has inserted, and insert what the other has deleted.
-/

namespace HostPlatform

open Lib Lib.Transition

/-! ## One call -/

/-- The row of the property, or its absence, and its amenities are as they were. -/
structure SavedDb.Kept (db : SavedDb) (p : PropertyId) (db' : SavedDb) : Prop where
  row : db'.listings.find? p = db.listings.find? p
  updatedAt : db'.updatedAt p = db.updatedAt p
  amenities : ∀ a, db'.HasAmenity p a ↔ db.HasAmenity p a

/-- The amenities are the given ones, if any are given. -/
def SavedDb.Saved (db : SavedDb) (p : PropertyId) (input : PropertyInput) (db' : SavedDb) : Prop :=
  ∀ a, db'.HasAmenity p a ↔
    match input.amenityIds with
    | some ids => a ∈ ids
    | none => db.HasAmenity p a

/-- Wherever a call ends with an error, it has changed nothing. -/
def ThrowsUnchanged (s : Saves) (p : PropertyId) : Prop :=
  ∀ ls, ∀ c ∈ (run Saves.step s ls).calls, c.status = .thrown → s.db.Kept p (run Saves.step s ls).db

/-- Wherever a call returns, it has saved the amenities. -/
def ReturnsSaved (s : Saves) (p : PropertyId) : Prop :=
  ∀ ls, ∀ c ∈ (run Saves.step s ls).calls, c.status = .returned → s.db.Saved p c.input (run Saves.step s ls).db

/-! ## When the first write is the last -/

/-- The `INSERT` is refused: by the check before it, by a value that does not fit its column or is
missing, or by the foreign key of the host or of the cancellation policy. -/
def InsertRefused (db : SavedDb) (hostId : HostId) (input : PropertyInput) : Prop :=
  input.status = some .published ∨ input.fitsColumns = false ∨ input.insertedContent = none ∨
    db.hosts.find? hostId = none ∨ db.knowsPolicy input none = false

/-- The `UPDATE` is refused: by a value that does not fit its column, or by the foreign key of a
cancellation policy that the row does not have already. -/
def UpdateRejected (db : SavedDb) (p : PropertyId) (input : PropertyInput) : Prop :=
  db.acceptsUpdate p input = false

/-- The property is to be published, and is not ready for it at any time. -/
def PublishRefused (db : SavedDb) (p : PropertyId) (input : PropertyInput) : Prop :=
  input.status = some .published ∧ (db.listings.find? p).map Listing.status ≠ some .published ∧
    ∀ now report, assertListingReady db.toListingDb now p ≠ .ok report

/-- Of a delete and inserts, only the last statement that is sent can change the amenities: nothing is
inserted, or nothing is deleted and the first insert is the last, or violates the foreign key. -/
def ReplacesAtOnce (db : SavedDb) (p : PropertyId) (ids : List AmenityId) : Prop :=
  ids = [] ∨ (∀ a, ¬ db.HasAmenity p a) ∧ ∃ a rest, ids = a :: rest ∧ (rest = [] ∨ a ∉ db.amenities)

/-- The first statement of the update that changes anything is its last one. -/
def UpdatesAtOnce (db : SavedDb) (p : PropertyId) (input : PropertyInput) : Prop :=
  PublishRefused db p input ∨ UpdateRejected db p input ∨
    ∀ ids, input.amenityIds = some ids → input.setsColumns = false ∧ ReplacesAtOnce db p ids

/-! ## After the first write -/

/-- What is left of the row after the first write: all of it if that was `quiet`. -/
structure SavedDb.RowAfter (quiet : Prop) (p : PropertyId) (db db' : SavedDb) : Prop where
  amenities : db'.amenities = db.amenities
  listed : (db'.listings.find? p).isSome
  row : quiet → db'.listings.find? p = db.listings.find? p ∧ db'.updatedAt p = db.updatedAt p

/-- A call that is past its first write, and what it has done of the amenities. -/
inductive Saving.Progress (quiet : Prop) (past : List AmenityId → Prop) (db : SavedDb) (p : PropertyId)
    (input : PropertyInput) : PropertyPhase → SavedDb → Prop
  | clearing {db' : SavedDb} (ids : List AmenityId) (hids : input.amenityIds = some ids) (hpast : past ids)
      (hset : db'.propertyAmenities = db.propertyAmenities) (hrow : db.RowAfter quiet p db') :
      Progress quiet past db p input .clearAmenities db'
  | inserting {db' : SavedDb} (done rest : List AmenityId) (hids : input.amenityIds = some (done ++ rest))
      (hpast : past (done ++ rest)) (hset : ∀ a, db'.HasAmenity p a ↔ a ∈ done)
      (hdone : ∀ a ∈ done, a ∈ db.amenities) (hrow : db.RowAfter quiet p db') :
      Progress quiet past db p input (.insertAmenities rest) db'

inductive Saving (quiet : Prop) (past : List AmenityId → Prop) (db : SavedDb) (p : PropertyId)
    (input : PropertyInput) : SaveStatus → SavedDb → Prop
  | sending {db' : SavedDb} (phase : PropertyPhase) (h : Saving.Progress quiet past db p input phase db') :
      Saving quiet past db p input (.sending phase) db'
  | returned {db' : SavedDb} (hsaved : db.Saved p input db') : Saving quiet past db p input .returned db'
  | thrown {db' : SavedDb} (phase : PropertyPhase) (h : Saving.Progress quiet past db p input phase db')
      (hphase : phase ≠ .insertAmenities []) : Saving quiet past db p input .thrown db'

variable {quiet : Prop} {past : List AmenityId → Prop} {db db' : SavedDb} {p : PropertyId} {input : PropertyInput}

theorem Saving.Progress.send {phase : PropertyPhase} (h : Saving.Progress quiet past db p input phase db')
    {now : Int} {status' : SaveStatus} {db'' : SavedDb} {status : SaveStatus}
    (hsends : SaveCall.Sends db' now ⟨p, input, status⟩ phase status' db'') :
    Saving quiet past db p input status' db'' := by
  cases h with
  | clearing ids hids hpast hset hrow =>
    cases hsends with
    | clears =>
      refine .sending _ ?_
      simp only [hids, Option.getD_some]
      apply Saving.Progress.inserting []
      case hids => exact hids
      case hpast => exact hpast
      case hset => simp
      case hdone => simp
      case hrow => exact ⟨hrow.amenities, hrow.listed, hrow.row⟩
  | inserting done _ hids hpast hset hdone hrow =>
    cases hsends with
    | ends =>
      refine .returned fun a => ?_
      simpa [hids] using hset a
    | inserts a rest ha hlisted =>
      refine .sending _ ?_
      have hsplit : done ++ a :: rest = (done ++ [a]) ++ rest := by simp
      apply Saving.Progress.inserting (done ++ [a])
      case hids => rw [← hsplit, hids]
      case hpast => rwa [← hsplit]
      case hset => simp [hset]
      case hdone =>
        intro b hb
        rcases List.mem_append.mp hb with hb | hb
        · exact hdone b hb
        · rw [List.mem_singleton.mp hb, ← hrow.amenities]
          exact ha
      case hrow => exact ⟨hrow.amenities, hrow.listed, hrow.row⟩
    | violates a rest hunknown => exact .thrown _ (.inserting done _ hids hpast hset hdone hrow) nofun

theorem Saving.fail {status : SaveStatus} (h : Saving quiet past db p input status db')
    (hstatement : SaveCall.atStatement ⟨p, input, status⟩) : Saving quiet past db p input .thrown db' := by
  cases h with
  | sending phase hprogress =>
    refine .thrown phase hprogress ?_
    rintro rfl
    cases hstatement
  | returned hsaved => cases hstatement
  | thrown phase hprogress hphase => cases hstatement

/-- A call that has failed past its first write has changed nothing, if only its last statement could. -/
theorem Saving.kept (h : Saving quiet past db p input .thrown db')
    (honce : ∀ ids, input.amenityIds = some ids → past ids → quiet ∧ ReplacesAtOnce db p ids) : db.Kept p db' := by
  cases h with
  | thrown phase hprogress hphase =>
    cases hprogress with
    | clearing ids hids hpast hset hrow =>
      obtain ⟨hrow, hupdatedAt⟩ := hrow.row (honce ids hids hpast).1
      exact ⟨hrow, hupdatedAt, fun a => by rw [SavedDb.HasAmenity, hset, SavedDb.HasAmenity]⟩
    | inserting done rest hids hpast hset hdone hrow =>
      obtain ⟨hquiet, hreplaces⟩ := honce _ hids hpast
      obtain ⟨hrow, hupdatedAt⟩ := hrow.row hquiet
      refine ⟨hrow, hupdatedAt, fun a => ?_⟩
      have hrest : rest ≠ [] := by
        rintro rfl
        exact hphase rfl
      rcases hreplaces with hnone | ⟨hempty, b, rest', hcons, hlast⟩
      · simp [hrest] at hnone
      · -- the statement that failed is the first insert
        have hdone' : done = [] := by
          cases done with
          | nil => rfl
          | cons b' done =>
            obtain ⟨rfl, rfl⟩ := List.cons.inj hcons
            have hb := hdone b' List.mem_cons_self
            simp [hrest, hb] at hlast
        simp [hset, hdone', hempty]

/-! ## One update -/

/-- The phases of an update up to its first write, the last of them only if it goes ahead. -/
def OpensUpdate (db : SavedDb) (p : PropertyId) (input : PropertyInput) (phase : PropertyPhase) : Prop :=
  phase = .readStatus ∨ phase = .assertCanPublish ∨ phase = .update ∧ ¬ PublishRefused db p input

/-- The states a single update runs through. -/
inductive UpdateState (db : SavedDb) (p : PropertyId) (input : PropertyInput) : Saves → Prop
  | opening (phase : PropertyPhase) (hphase : OpensUpdate db p input phase) :
      UpdateState db p input ⟨db, [⟨p, input, .sending phase⟩]⟩
  | refused : UpdateState db p input ⟨db, [⟨p, input, .thrown⟩]⟩
  | saving {db' : SavedDb} (status : SaveStatus)
      (h : Saving (input.setsColumns = false) (fun _ => ¬ PublishRefused db p input ∧ ¬ UpdateRejected db p input)
        db p input status db') :
      UpdateState db p input ⟨db', [⟨p, input, status⟩]⟩

theorem UpdateState.update (db : SavedDb) (p : PropertyId) (input : PropertyInput) :
    UpdateState db p input (.update db p input) := by
  refine .opening input.firstPhase ?_
  unfold PropertyInput.firstPhase
  split
  · exact .inl rfl
  · rename_i hstatus
    exact .inr (.inr ⟨rfl, fun h => hstatus h.1⟩)

theorem UpdateState.send (hlisted : (db.listings.find? p).isSome) {phase : PropertyPhase}
    (hphase : OpensUpdate db p input phase) {now : Int} {status : SaveStatus}
    (hsends : SaveCall.Sends db now ⟨p, input, .sending phase⟩ phase status db') :
    UpdateState db p input ⟨db', [⟨p, input, status⟩]⟩ := by
  cases hsends with
  | published h => exact .opening .update (.inr (.inr ⟨rfl, fun hrefused => hrefused.2.1 h⟩))
  | unpublished h => exact .opening .assertCanPublish (.inr (.inl rfl))
  | ready report h => exact .opening .update (.inr (.inr ⟨rfl, fun hrefused => hrefused.2.2 now report h⟩))
  | refused e h => exact .refused
  | rejected h => exact .refused
  | updates haccepts _ hupdated hstamp =>
    have hpast : ¬ PublishRefused db p input ∧ ¬ UpdateRejected db p input :=
      ⟨by simpa [OpensUpdate] using hphase, by simpa [UpdateRejected] using haccepts⟩
    refine .saving _ ?_
    cases hids : input.amenityIds with
    | none =>
      refine .returned fun a => ?_
      simp [hids, SavedDb.HasAmenity, hupdated.propertyAmenities]
    | some ids =>
      refine .sending _ (.clearing ids hids hpast hupdated.propertyAmenities ?_)
      exact ⟨hupdated.amenities, hupdated.listed.trans hlisted, hupdated.row⟩
  | clears => simp [OpensUpdate] at hphase
  | ends => simp [OpensUpdate] at hphase
  | inserts a rest ha hlisted => simp [OpensUpdate] at hphase
  | violates a rest h => simp [OpensUpdate] at hphase

theorem UpdateState.step (hlisted : (db.listings.find? p).isSome) {s : Saves} (h : UpdateState db p input s)
    (l : SaveLabel) : UpdateState db p input (s.step l) := by
  cases l with
  | answered i now =>
    cases i with
    | succ i => cases h <;> constructor <;> assumption
    | zero =>
      cases h with
      | opening phase hphase => exact send hlisted hphase (SaveCall.sends_send db now ⟨p, input, _⟩ phase)
      | refused => exact .refused
      | saving status h =>
        cases h with
        | sending phase hprogress =>
          exact .saving _ (hprogress.send (SaveCall.sends_send _ now ⟨p, input, _⟩ phase))
        | returned hsaved => exact .saving _ (.returned hsaved)
        | thrown phase hprogress hphase => exact .saving _ (.thrown phase hprogress hphase)
  | failed i =>
    cases i with
    | succ i => cases h <;> constructor <;> assumption
    | zero =>
      cases h with
      | opening phase hphase =>
        simp only [Saves.step, List.getElem?_cons_zero]
        split
        · exact .refused
        · exact .opening phase hphase
      | refused => exact .refused
      | saving status h =>
        simp only [Saves.step, List.getElem?_cons_zero]
        split
        · rename_i hstatement
          exact .saving _ (h.fail hstatement)
        · exact .saving status h

theorem UpdateState.run (input : PropertyInput) (hlisted : (db.listings.find? p).isSome) (ls : List SaveLabel) :
    UpdateState db p input (run Saves.step (.update db p input) ls) :=
  run_invariant' (fun _ l h => h.step hlisted l) (.update db p input) ls

theorem update_returnsSaved (hlisted : (db.listings.find? p).isSome) : ReturnsSaved (.update db p input) p := by
  intro ls c hc hreturned
  have h := UpdateState.run input hlisted ls
  generalize run Saves.step (.update db p input) ls = s at h hc
  cases h with
  | opening phase hphase =>
    cases List.mem_singleton.mp hc
    cases hreturned
  | refused =>
    cases List.mem_singleton.mp hc
    cases hreturned
  | saving status h =>
    cases List.mem_singleton.mp hc
    cases hreturned
    cases h with
    | returned hsaved => exact hsaved

theorem update_throwsUnchanged (hlisted : (db.listings.find? p).isSome) (h : UpdatesAtOnce db p input) :
    ThrowsUnchanged (.update db p input) p := by
  intro ls c hc hthrown
  have hstate := UpdateState.run input hlisted ls
  generalize Lib.Transition.run Saves.step (.update db p input) ls = s at hstate hc
  have hsame : db.Kept p db := ⟨rfl, rfl, fun _ => Iff.rfl⟩
  cases hstate with
  | opening phase hphase => exact hsame
  | refused => exact hsame
  | saving status hsaving =>
    cases List.mem_singleton.mp hc
    cases hthrown
    refine hsaving.kept fun ids hids hpast => ?_
    rcases h with hrefused | hrejected | honce
    · exact absurd hrefused hpast.1
    · exact absurd hrejected hpast.2
    · exact honce ids hids

/-! ### Runs of an update that fail half-way -/

/-- The single update, before a statement. -/
def updating (db : SavedDb) (p : PropertyId) (input : PropertyInput) (phase : PropertyPhase) : Saves :=
  ⟨db, [⟨p, input, .sending phase⟩]⟩

theorem updating_update {ids : List AmenityId} (hids : input.amenityIds = some ids)
    (haccepts : ¬ UpdateRejected db p input) (stamp : Int) :
    ∃ db', (updating db p input .update).step (.answered 0 stamp) = updating db' p input .clearAmenities ∧
      db.Updated p input db' ∧
      (input.setsColumns → (db.listings.find? p).isSome → db'.updatedAt p = some stamp) := by
  have hsend : SaveCall.send db stamp ⟨p, input, .sending .update⟩ .update =
      (.sending .clearAmenities, db.updated stamp p input) := by
    rw [SaveCall.send_update_accepted (by simpa [UpdateRejected] using haccepts)]
    simp [hids]
  refine ⟨db.updated stamp p input, ?_, .updated db stamp p input, fun hcolumns hlisted => ?_⟩
  · simp only [updating, Saves.step, SaveCall.step, List.getElem?_cons_zero, List.set_cons_zero, hsend]
  · simp [SavedDb.updated, hcolumns, hlisted, SavedDb.stamp]

/-- An update that is not refused gets to its amenities. -/
theorem reaches_clearing (hnot : ¬ PublishRefused db p input) (haccepts : ¬ UpdateRejected db p input)
    {ids : List AmenityId} (hids : input.amenityIds = some ids) (stamp : Int) :
    ∃ ls db', run Saves.step (.update db p input) ls = updating db' p input .clearAmenities ∧
      db.Updated p input db' ∧
      (input.setsColumns → (db.listings.find? p).isSome → db'.updatedAt p = some stamp) := by
  obtain ⟨db', hstep, hupdated, hstamp⟩ := updating_update hids haccepts stamp
  by_cases hstatus : input.status = some .published
  · have hfirst : Saves.update db p input = updating db p input .readStatus := by
      simp [Saves.update, Saves.updateCall, PropertyInput.firstPhase, hstatus, updating]
    by_cases hpublished : (db.listings.find? p).map Listing.status = some .published
    · refine ⟨[.answered 0 0, .answered 0 stamp], db', ?_, hupdated, hstamp⟩
      have hread : (updating db p input .readStatus).step (.answered 0 0) = updating db p input .update := by
        simp [updating, Saves.step, SaveCall.step, SaveCall.send, stepPropertyCall, hpublished]
      rw [hfirst, run_cons, run_cons, run_nil, hread, hstep]
    · have hready : ∃ now report, assertListingReady db.toListingDb now p = .ok report := by
        by_contra hnone
        push Not at hnone
        exact hnot ⟨hstatus, hpublished, hnone⟩
      obtain ⟨now, report, hready⟩ := hready
      refine ⟨[.answered 0 0, .answered 0 now, .answered 0 stamp], db', ?_, hupdated, hstamp⟩
      have hread : (updating db p input .readStatus).step (.answered 0 0) = updating db p input .assertCanPublish := by
        simp [updating, Saves.step, SaveCall.step, SaveCall.send, stepPropertyCall, hpublished]
      have hcheck : (updating db p input .assertCanPublish).step (.answered 0 now) = updating db p input .update := by
        simp [updating, Saves.step, SaveCall.step, SaveCall.send, stepPropertyCall, hready]
      rw [hfirst, run_cons, run_cons, run_cons, run_nil, hread, hcheck, hstep]
  · refine ⟨[.answered 0 stamp], db', ?_, hupdated, hstamp⟩
    have hfirst : Saves.update db p input = updating db p input .update := by
      simp [Saves.update, Saves.updateCall, PropertyInput.firstPhase, hstatus, updating]
    rw [hfirst, run_cons, run_nil, hstep]

/-- If every failure changes nothing, a statement that fails finds everything as it was. -/
theorem ThrowsUnchanged.at_statement (h : ThrowsUnchanged (.update db p input) p) {ls : List SaveLabel}
    {phase : PropertyPhase} (hrun : run Saves.step (.update db p input) ls = updating db' p input phase)
    (hphase : phase = .clearAmenities ∨ ∃ a rest, phase = .insertAmenities (a :: rest)) : db.Kept p db' := by
  have hfails : run Saves.step (.update db p input) (ls ++ [.failed 0]) = ⟨db', [⟨p, input, .thrown⟩]⟩ := by
    rw [run_concat, hrun]
    rcases hphase with rfl | ⟨a, rest, rfl⟩
    · rfl
    · rfl
  have hkept := h (ls ++ [.failed 0]) ⟨p, input, .thrown⟩
  rw [hfails] at hkept
  exact hkept List.mem_cons_self rfl

theorem updatesAtOnce_of_throwsUnchanged (hlisted : (db.listings.find? p).isSome)
    (h : ThrowsUnchanged (.update db p input) p) : UpdatesAtOnce db p input := by
  by_cases hrefused : PublishRefused db p input
  · exact .inl hrefused
  by_cases hrejected : UpdateRejected db p input
  · exact .inr (.inl hrejected)
  refine .inr (.inr fun ids hids => ?_)
  obtain ⟨ls, db', hrun, hupdated, hstamp⟩ := reaches_clearing hrefused hrejected hids ((db.updatedAt p).getD 0 + 1)
  have hkept := h.at_statement hrun (.inl rfl)
  constructor
  · by_contra hcolumns
    have hupdatedAt := hkept.updatedAt
    rw [hstamp (by simpa using hcolumns) hlisted] at hupdatedAt
    cases hold : db.updatedAt p with
    | none => simp [hold] at hupdatedAt
    | some old => simp [hold] at hupdatedAt
  · cases ids with
    | nil => exact .inl rfl
    | cons a rest =>
      have hclears : run Saves.step (.update db p input) (ls ++ [.answered 0 0]) =
          updating (db'.cleared p) p input (.insertAmenities (a :: rest)) := by
        rw [run_concat, hrun]
        simp [updating, Saves.step, SaveCall.step, SaveCall.send, stepPropertyCall, hids, SavedDb.cleared]
      have hkept := h.at_statement hclears (.inr ⟨a, rest, rfl⟩)
      have hempty : ∀ a, ¬ db.HasAmenity p a := fun a ha =>
        SavedDb.hasAmenity_cleared db' p a ((hkept.amenities a).mpr ha)
      refine .inr ⟨hempty, a, rest, rfl, ?_⟩
      by_contra hlast
      push Not at hlast
      obtain ⟨hrest, ha⟩ := hlast
      obtain ⟨b, rest, rfl⟩ := List.exists_cons_of_ne_nil hrest
      have hlisted' : ((db'.cleared p).listings.find? p).isSome := hupdated.listed.trans hlisted
      have ha' : a ∈ (db'.cleared p).amenities := by
        have hamenities : (db'.cleared p).amenities = db.amenities := hupdated.amenities
        rwa [hamenities]
      have hinserts : run Saves.step (.update db p input) (ls ++ [.answered 0 0] ++ [.answered 0 0]) =
          updating ((db'.cleared p).withAmenity p a) p input (.insertAmenities (b :: rest)) := by
        rw [run_concat, hclears]
        simp [updating, Saves.step, SaveCall.step, SaveCall.send, stepPropertyCall, ha', hlisted', SavedDb.withAmenity]
      have hhas := (h.at_statement hinserts (.inr ⟨b, rest, rfl⟩)).amenities a
      exact hempty a (hhas.mp (by simp))

/-! ## One creation -/

theorem createPropertyForHost_cases (db : SavedDb) (hostId : HostId) (input : PropertyInput) :
    InsertRefused db hostId input ∧ (∃ e, createPropertyForHost db.toListingDb hostId input = .error e) ∨
      ¬ InsertRefused db hostId input ∧ ∃ content, createPropertyForHost db.toListingDb hostId input =
        .ok (db.listings.freshKey, db.insertListing hostId content (input.status.getD .draft)) := by
  cases hcreate : createPropertyForHost db.toListingDb hostId input with
  | ok result =>
    obtain ⟨p, db'⟩ := result
    obtain ⟨hdraft, content, haccepts, rfl, rfl⟩ := createPropertyForHost_eq_ok.mp hcreate
    have hhost := Option.isSome_iff_ne_none.mp haccepts.host
    refine .inr ⟨?_, content, rfl⟩
    simp [InsertRefused, hdraft, haccepts.fits, haccepts.content, hhost, haccepts.policy]
  | error e =>
    refine .inl ⟨?_, e, rfl⟩
    by_contra hnot
    simp only [InsertRefused, not_or, Bool.not_eq_false] at hnot
    obtain ⟨hdraft, hfits, hcontent, hhost, hpolicy⟩ := hnot
    obtain ⟨content, hcontent⟩ := Option.ne_none_iff_exists'.mp hcontent
    have haccepts : db.AcceptsInsert hostId input content :=
      ⟨hfits, hcontent, Option.isSome_iff_ne_none.mpr hhost, hpolicy⟩
    rw [createPropertyForHost_eq_ok.mpr ⟨hdraft, content, haccepts, rfl, rfl⟩] at hcreate
    cases hcreate

variable {hostId : HostId}

/-- The property a creation inserts. -/
def createdKey (db : SavedDb) : PropertyId := db.listings.freshKey

/-- The states a single creation runs through. -/
inductive CreateState (db : SavedDb) (hostId : HostId) (input : PropertyInput) : Saves → Prop
  | opening : CreateState db hostId input ⟨db, [⟨createdKey db, input, .inserting hostId⟩]⟩
  | refused : CreateState db hostId input ⟨db, [⟨createdKey db, input, .thrown⟩]⟩
  | inserted {db' : SavedDb} (hids : input.amenityIds.getD [] = [])
      (hset : db'.propertyAmenities = db.propertyAmenities) :
      CreateState db hostId input ⟨db', [⟨createdKey db, input, .returned⟩]⟩
  | saving {db' : SavedDb} (status : SaveStatus)
      (h : Saving False (fun ids => ids ≠ [] ∧ ¬ InsertRefused db hostId input) db (createdKey db) input status db') :
      CreateState db hostId input ⟨db', [⟨createdKey db, input, status⟩]⟩

theorem CreateState.insert (now : Int) :
    CreateState db hostId input ((Saves.create db hostId input).step (.answered 0 now)) := by
  rcases createPropertyForHost_cases db hostId input with ⟨-, e, hcreate⟩ | ⟨haccepted, content, hcreate⟩
  · simp only [Saves.create, Saves.step, List.getElem?_cons_zero, List.set_cons_zero, SaveCall.step, hcreate]
    exact .refused
  · simp only [Saves.create, Saves.step, List.getElem?_cons_zero, List.set_cons_zero, SaveCall.step, hcreate]
    split
    · rename_i hnone
      exact .inserted hnone rfl
    · rename_i hsome
      obtain ⟨ids, hids⟩ : ∃ ids, input.amenityIds = some ids := by
        cases hids : input.amenityIds with
        | none => simp [hids] at hsome
        | some ids => exact ⟨ids, rfl⟩
      refine .saving _ (.sending _ (.clearing ids hids ⟨?_, haccepted⟩ rfl ⟨rfl, ?_, False.elim⟩))
      · simpa [hids] using hsome
      · simp [SavedDb.stamp, ListingDb.find?_insertListing, createdKey]

theorem CreateState.step {s : Saves} (h : CreateState db hostId input s) (l : SaveLabel) :
    CreateState db hostId input (s.step l) := by
  cases l with
  | answered i now =>
    cases i with
    | succ i => cases h <;> constructor <;> assumption
    | zero =>
      cases h with
      | opening => exact .insert now
      | refused => exact .refused
      | inserted hids hset => exact .inserted hids hset
      | saving status h =>
        cases h with
        | sending phase hprogress =>
          exact .saving _ (hprogress.send (SaveCall.sends_send _ now ⟨createdKey db, input, _⟩ phase))
        | returned hsaved => exact .saving _ (.returned hsaved)
        | thrown phase hprogress hphase => exact .saving _ (.thrown phase hprogress hphase)
  | failed i =>
    cases i with
    | succ i => cases h <;> constructor <;> assumption
    | zero =>
      cases h with
      | opening => exact .refused
      | refused => exact .refused
      | inserted hids hset => exact .inserted hids hset
      | saving status h =>
        simp only [Saves.step, List.getElem?_cons_zero]
        split
        · rename_i hstatement
          exact .saving _ (h.fail hstatement)
        · exact .saving status h

theorem CreateState.run (db : SavedDb) (hostId : HostId) (input : PropertyInput) (ls : List SaveLabel) :
    CreateState db hostId input (run Saves.step (.create db hostId input) ls) :=
  run_invariant' (fun _ l h => h.step l) .opening ls

/-- The foreign key of `property_amenities`. -/
def SavedDb.AmenitiesListed (db : SavedDb) : Prop :=
  ∀ x ∈ db.propertyAmenities, (db.listings.find? x.1).isSome

instance (db : SavedDb) : Decidable db.AmenitiesListed :=
  inferInstanceAs (Decidable (∀ x ∈ db.propertyAmenities, (db.listings.find? x.1).isSome))

theorem create_returnsSaved (hdb : db.AmenitiesListed) : ReturnsSaved (.create db hostId input) (createdKey db) := by
  intro ls c hc hreturned
  have h := CreateState.run db hostId input ls
  generalize Lib.Transition.run Saves.step (.create db hostId input) ls = s at h hc
  cases h with
  | opening =>
    cases List.mem_singleton.mp hc
    cases hreturned
  | refused =>
    cases List.mem_singleton.mp hc
    cases hreturned
  | inserted hids hset =>
    cases List.mem_singleton.mp hc
    intro a
    have hnone : ¬ db.HasAmenity (createdKey db) a := by
      intro ha
      have hlisted := hdb _ ha
      simp [createdKey] at hlisted
    cases hgiven : input.amenityIds with
    | none => simp [SavedDb.HasAmenity, hset, Saves.create]
    | some ids =>
      have hempty : ids = [] := by simpa [hgiven] using hids
      simpa [hgiven, hempty, SavedDb.HasAmenity, hset] using hnone
  | saving status h =>
    cases List.mem_singleton.mp hc
    cases hreturned
    cases h with
    | returned hsaved => exact hsaved

theorem create_throwsUnchanged_iff :
    ThrowsUnchanged (.create db hostId input) (createdKey db) ↔
      input.amenityIds.getD [] = [] ∨ InsertRefused db hostId input := by
  constructor
  · intro h
    rcases createPropertyForHost_cases db hostId input with ⟨hrefused, -⟩ | ⟨-, content, hcreate⟩
    · exact .inr hrefused
    refine .inl ?_
    by_contra hids
    -- the first statement after the `INSERT` fails
    have hrow := (h [.answered 0 0, .failed 0] ⟨createdKey db, input, .thrown⟩ (by
      simp [Saves.create, Saves.step, SaveCall.step, hcreate, hids, SaveCall.atStatement, createdKey]) rfl).row
    simp [Saves.create, Saves.step, SaveCall.step, hcreate, hids, SaveCall.atStatement, createdKey, SavedDb.stamp,
      ListingDb.find?_insertListing] at hrow
  · intro h ls c hc hthrown
    have hstate := CreateState.run db hostId input ls
    generalize Lib.Transition.run Saves.step (.create db hostId input) ls = s at hstate hc
    have hsame : db.Kept (createdKey db) db := ⟨rfl, rfl, fun _ => Iff.rfl⟩
    cases hstate with
    | opening => exact hsame
    | refused => exact hsame
    | inserted hids hset =>
      cases List.mem_singleton.mp hc
      cases hthrown
    | saving status hsaving =>
      cases List.mem_singleton.mp hc
      cases hthrown
      refine hsaving.kept fun ids hids hpast => ?_
      rcases h with hnone | hrefused
      · exact absurd (by simpa [hids] using hnone) hpast.1
      · exact absurd hrefused hpast.2

/-! ## Two updates at once -/

/-- The amenities a call has still to insert. -/
def SaveCall.rest (c : SaveCall) : List AmenityId :=
  match c.status with
  | .sending (.insertAmenities rest) => rest
  | _ => []

/-- The call has deleted the amenities of its property. -/
def SaveCall.hasCleared (c : SaveCall) : Bool :=
  match c.status with
  | .sending (.insertAmenities _) => true
  | .returned => c.input.amenityIds.isSome
  | _ => false

def SameIds (ids ids' : List AmenityId) : Prop := ids ⊆ ids' ∧ ids' ⊆ ids

instance (ids ids' : List AmenityId) : Decidable (SameIds ids ids') :=
  inferInstanceAs (Decidable (ids ⊆ ids' ∧ ids' ⊆ ids))

/-- The amenities are the ones given by a call, or as they were if none gives any. -/
def SavedByOne (db : SavedDb) (p : PropertyId) (s : Saves) : Prop :=
  (∃ c ∈ s.calls, ∃ ids, c.input.amenityIds = some ids ∧ ∀ a, s.db.HasAmenity p a ↔ a ∈ ids) ∨
    (∀ c ∈ s.calls, c.input.amenityIds = none) ∧ ∀ a, s.db.HasAmenity p a ↔ db.HasAmenity p a

/-- A call that deletes the amenities while another one is inserting: its own ones and those the
other has left are, together, the ones given by a call. -/
def ClearsForOne (s : Saves) : SaveLabel → Prop
  | .answered i _ => ∀ c ∈ s.calls[i]?, c.status = .sending .clearAmenities →
      ∀ c' ∈ s.calls, c'.rest ≠ [] →
        ∃ c'' ∈ s.calls, ∃ ids ∈ c''.input.amenityIds, SameIds (c.input.amenityIds.getD [] ++ c'.rest) ids
  | .failed _ => True

instance (s : Saves) : ∀ l, Decidable (ClearsForOne s l)
  | .answered i _ =>
    inferInstanceAs (Decidable (∀ c ∈ s.calls[i]?, c.status = .sending .clearAmenities →
      ∀ c' ∈ s.calls, c'.rest ≠ [] →
        ∃ c'' ∈ s.calls, ∃ ids ∈ c''.input.amenityIds, SameIds (c.input.amenityIds.getD [] ++ c'.rest) ids))
  | .failed _ => isTrue trivial

/-! ### A call and another one -/

variable {c o : SaveCall}

/-- What the property will have once the inserts under way are done. -/
def Pending (p : PropertyId) (db : SavedDb) (c o : SaveCall) (a : AmenityId) : Prop :=
  db.HasAmenity p a ∨ a ∈ c.rest ∨ a ∈ o.rest

def PendingFor (p : PropertyId) (db : SavedDb) (c o : SaveCall) (giver : SaveCall) : Prop :=
  ∃ ids, giver.input.amenityIds = some ids ∧ ∀ a, Pending p db c o a ↔ a ∈ ids

/-- Once a call has deleted the amenities, they will be the ones given by a call. -/
def Settling (p : PropertyId) (db : SavedDb) (c o : SaveCall) : Prop :=
  c.hasCleared ∨ o.hasCleared → PendingFor p db c o c ∨ PendingFor p db c o o

theorem Pending.symm {a : AmenityId} : Pending p db c o a ↔ Pending p db o c a := by
  simp [Pending, or_comm]

theorem Settling.symm : Settling p db c o ↔ Settling p db o c := by
  simp only [Settling, PendingFor, Pending.symm (c := c) (o := o)]
  rw [or_comm (a := (c.hasCleared : Prop)), or_comm (b := ∃ ids, o.input.amenityIds = some ids ∧ _)]

/-- Two updates of a property under way. -/
structure Pair (db₀ : SavedDb) (p : PropertyId) (db : SavedDb) (c o : SaveCall) : Prop where
  property : c.propertyId = p
  property' : o.propertyId = p
  update : ∀ hostId, c.status ≠ .inserting hostId
  update' : ∀ hostId, o.status ≠ .inserting hostId
  given : c.status = .sending .clearAmenities ∨ c.hasCleared → c.input.amenityIds.isSome
  given' : o.status = .sending .clearAmenities ∨ o.hasCleared → o.input.amenityIds.isSome
  untouched : c.hasCleared = false → o.hasCleared = false → ∀ a, db.HasAmenity p a ↔ db₀.HasAmenity p a
  single : c.hasCleared = false ∨ o.hasCleared = false → Settling p db c o

theorem Pair.symm {db₀ : SavedDb} (h : Pair db₀ p db c o) : Pair db₀ p db o c where
  property := h.property'
  property' := h.property
  update := h.update'
  update' := h.update
  given := h.given'
  given' := h.given
  untouched ho hc := h.untouched hc ho
  single hnot := Settling.symm.mp (h.single hnot.symm)

/-- A statement that leaves what is pending, and is no delete. -/
theorem Pair.same {db₀ : SavedDb} (h : Pair db₀ p db c o) {status : SaveStatus} {db' : SavedDb}
    (hpending : ∀ a, Pending p db' { c with status := status } o a ↔ Pending p db c o a)
    (hcleared : SaveCall.hasCleared { c with status := status } = c.hasCleared)
    (hupdate : ∀ hostId, status ≠ .inserting hostId)
    (hgiven : status = .sending .clearAmenities → c.input.amenityIds.isSome)
    (hset : c.hasCleared = false → ∀ a, db'.HasAmenity p a ↔ db.HasAmenity p a) :
    Pair db₀ p db' { c with status := status } o ∧
      (Settling p db' { c with status := status } o ↔ Settling p db c o) := by
  have hsettling : Settling p db' { c with status := status } o ↔ Settling p db c o := by
    simp only [Settling, PendingFor, hpending, hcleared]
  refine ⟨?_, hsettling⟩
  constructor
  case property => exact h.property
  case property' => exact h.property'
  case update => exact hupdate
  case update' => exact h.update'
  case given =>
    rw [hcleared]
    rintro (hstatus | hc)
    · exact hgiven hstatus
    · exact h.given (.inr hc)
  case given' => exact h.given'
  case untouched =>
    intro hc ho a
    rw [hcleared] at hc
    exact (hset hc a).trans (h.untouched hc ho a)
  case single =>
    rw [hcleared, hsettling]
    exact h.single

/-- What is required of a delete. -/
def ClearsFor (c o : SaveCall) (giver : SaveCall) : Prop :=
  ∃ ids, giver.input.amenityIds = some ids ∧ SameIds (c.input.amenityIds.getD [] ++ o.rest) ids

theorem hasCleared_of_rest (h : c.rest ≠ []) : c.hasCleared := by
  unfold SaveCall.rest at h
  unfold SaveCall.hasCleared
  split at h
  · rename_i rest hstatus
    simp [hstatus]
  · exact absurd rfl h

theorem Pair.clear {db₀ : SavedDb} (h : Pair db₀ p db c o) (hstatus : c.status = .sending .clearAmenities) :
    let c' : SaveCall := { c with status := .sending (.insertAmenities (c.input.amenityIds.getD [])) }
    Pair db₀ p (db.cleared p) c' o ∧
      (Settling p (db.cleared p) c' o ↔
        Settling p db c o ∧ (o.rest ≠ [] → ClearsFor c o c ∨ ClearsFor c o o)) := by
  intro c'
  obtain ⟨ids, hids⟩ := Option.isSome_iff_exists.mp (h.given (.inl hstatus))
  have hnot : c.hasCleared = false := by simp [SaveCall.hasCleared, hstatus]
  have hpending : ∀ a, Pending p (db.cleared p) c' o a ↔ a ∈ c.input.amenityIds.getD [] ++ o.rest := by
    intro a
    simp [Pending, SaveCall.rest, c']
  have hfor : ∀ giver, PendingFor p (db.cleared p) c' o giver ↔ ClearsFor c o giver := by
    intro giver
    simp only [PendingFor, hpending, ClearsFor, SameIds, List.subset_def]
    refine exists_congr fun ids => and_congr_right fun _ => ?_
    exact ⟨fun hsame => ⟨fun ha => (hsame _).mp ha, fun ha => (hsame _).mpr ha⟩, fun hsame a => ⟨hsame.1, hsame.2⟩⟩
  have hsettling : Settling p (db.cleared p) c' o ↔ ClearsFor c o c ∨ ClearsFor c o o := by
    have hcleared : c'.hasCleared = true := rfl
    have hinput : PendingFor p (db.cleared p) c' o c' ↔ ClearsFor c o c := hfor c
    simp [Settling, hcleared, hinput, hfor]
  have hrest : o.rest = [] → ClearsFor c o c := by
    intro hrest
    exact ⟨ids, hids, by simp [hids, hrest, SameIds]⟩
  constructor
  · constructor
    case property => exact h.property
    case property' => exact h.property'
    case update => nofun
    case update' => exact h.update'
    case given => exact fun _ => h.given (.inl hstatus)
    case given' => exact h.given'
    case untouched => nofun
    case single =>
      intro hone
      rw [hsettling]
      rcases hone with hc | ho
      · cases hc
      · refine .inl (hrest ?_)
        by_contra hne
        rw [hasCleared_of_rest hne] at ho
        cases ho
  · rw [hsettling]
    constructor
    · exact fun hclears => ⟨h.single (.inl hnot), fun _ => hclears⟩
    · rintro ⟨-, hclears⟩
      by_cases hnone : o.rest = []
      · exact .inl (hrest hnone)
      · exact hclears hnone

/-- An answered statement of one of the calls, if that does not throw. -/
theorem Pair.send {db₀ : SavedDb} (h : Pair db₀ p db c o) {phase : PropertyPhase} (hphase : c.status = .sending phase)
    {now : Int} {status : SaveStatus} {db' : SavedDb} (hsends : SaveCall.Sends db now c phase status db')
    (hok : status ≠ .thrown) :
    Pair db₀ p db' { c with status := status } o ∧
      (Settling p db' { c with status := status } o ↔
        Settling p db c o ∧ (phase = .clearAmenities → o.rest ≠ [] → ClearsFor c o c ∨ ClearsFor c o o)) := by
  have hquiet : ∀ {A B : Prop}, phase ≠ .clearAmenities → A ∧ (B ↔ Settling p db c o) →
      A ∧ (B ↔ Settling p db c o ∧ (phase = .clearAmenities → o.rest ≠ [] → ClearsFor c o c ∨ ClearsFor c o o)) := by
    rintro A B hne ⟨hpair, hsettling⟩
    exact ⟨hpair, by simp [hsettling, hne]⟩
  cases hsends with
  | clears =>
    obtain rfl : c.propertyId = p := h.property
    simpa using h.clear hphase
  | published hpublished =>
    refine hquiet nofun (h.same ?_ ?_ nofun nofun fun _ _ => Iff.rfl)
    · simp [Pending, SaveCall.rest, hphase]
    · simp [SaveCall.hasCleared, hphase]
  | unpublished hunpublished =>
    refine hquiet nofun (h.same ?_ ?_ nofun nofun fun _ _ => Iff.rfl)
    · simp [Pending, SaveCall.rest, hphase]
    · simp [SaveCall.hasCleared, hphase]
  | ready report hready =>
    refine hquiet nofun (h.same ?_ ?_ nofun nofun fun _ _ => Iff.rfl)
    · simp [Pending, SaveCall.rest, hphase]
    · simp [SaveCall.hasCleared, hphase]
  | refused e hrefused => exact absurd rfl hok
  | rejected hrejected => exact absurd rfl hok
  | updates haccepts _ hupdated hstamp =>
    have hset : ∀ a, db'.HasAmenity p a ↔ db.HasAmenity p a := fun a => by
      unfold SavedDb.HasAmenity
      rw [hupdated.propertyAmenities]
    by_cases hgiven : c.input.amenityIds.isSome
    · rw [if_pos hgiven] at hok ⊢
      refine hquiet nofun (h.same ?_ ?_ nofun (fun _ => hgiven) fun _ => hset)
      · simp [Pending, SaveCall.rest, hphase, hset]
      · simp [SaveCall.hasCleared, hphase]
    · rw [if_neg hgiven] at hok ⊢
      refine hquiet nofun (h.same ?_ ?_ nofun nofun fun _ => hset)
      · simp [Pending, SaveCall.rest, hphase, hset]
      · simpa [SaveCall.hasCleared, hphase] using hgiven
  | ends =>
    have hcleared : c.hasCleared = true := by simp [SaveCall.hasCleared, hphase]
    refine hquiet nofun (h.same ?_ ?_ nofun nofun fun _ _ => Iff.rfl)
    · simp [Pending, SaveCall.rest, hphase]
    · rw [hcleared]
      exact h.given (.inr hcleared)
  | inserts a rest ha hlisted =>
    have hcleared : c.hasCleared = true := by simp [SaveCall.hasCleared, hphase]
    refine hquiet nofun (h.same ?_ ?_ nofun nofun fun hnot => ?_)
    · intro b
      simp only [Pending, SaveCall.rest, hphase, h.property, SavedDb.hasAmenity_withAmenity, List.mem_cons]
      rw [or_assoc, or_assoc (b := b ∈ rest)]
    · rw [hcleared]
      rfl
    · rw [hcleared] at hnot
      cases hnot
  | violates a rest hunknown => exact absurd rfl hok

/-! ### Runs of two updates -/

/-- The two calls of a state, each a pair with the other. -/
inductive TwoCalls (db₀ : SavedDb) (p : PropertyId) : Saves → Prop
  | mk {db : SavedDb} (c o : SaveCall) (h : Pair db₀ p db c o) : TwoCalls db₀ p ⟨db, [c, o]⟩

def NoneThrown (s : Saves) : Prop := ∀ c ∈ s.calls, c.status ≠ .thrown

/-- Once a call has deleted the amenities, they will be the ones given by a call. -/
def SettlesForOne (p : PropertyId) (s : Saves) : Prop :=
  ∀ c o, s.calls = [c, o] → Settling p s.db c o

theorem SaveCall.step_of_thrown {call : SaveCall} (h : call.status = .thrown) (db : SavedDb) (now : Int) :
    call.step db now = (call, db) := by
  simp [SaveCall.step, h]

theorem NoneThrown.of_step {s : Saves} {l : SaveLabel} (h : NoneThrown (s.step l)) : NoneThrown s := by
  intro c hc hthrown
  obtain ⟨i, hi⟩ := List.mem_iff_getElem?.mp hc
  cases l with
  | answered j now =>
    simp only [Saves.step] at h
    split at h
    · exact h c hc hthrown
    · rename_i call hcall
      by_cases hij : j = i
      · subst hij
        cases hi.symm.trans hcall
        refine h c ?_ hthrown
        rw [SaveCall.step_of_thrown hthrown]
        exact List.mem_set (List.getElem?_eq_some_iff.mp hi).1 _
      · refine h c (List.mem_of_getElem? (i := i) ?_) hthrown
        exact (List.getElem?_set_ne hij).trans hi
  | failed j =>
    simp only [Saves.step] at h
    split at h
    · exact h c hc hthrown
    · rename_i call hcall
      split at h
      · exact h { call with status := .thrown } (List.mem_set (List.getElem?_eq_some_iff.mp hcall).1 _) rfl
      · exact h c hc hthrown

theorem clearsForOne_iff {now : Int} (hc : c.status = .sending .clearAmenities) :
    ClearsForOne ⟨db, [c, o]⟩ (.answered 0 now) ↔ (o.rest ≠ [] → ClearsFor c o c ∨ ClearsFor c o o) := by
  have hrest : c.rest = [] := by simp [SaveCall.rest, hc]
  simp [ClearsForOne, hc, hrest, ClearsFor]

/-- A step of one of the calls, if it does not throw. -/
theorem Pair.answered {db₀ : SavedDb} {now : Int} (h : Pair db₀ p db c o)
    (hok : (c.step db now).1.status ≠ .thrown) :
    Pair db₀ p (c.step db now).2 (c.step db now).1 o ∧
      (Settling p (c.step db now).2 (c.step db now).1 o ↔
        Settling p db c o ∧ ClearsForOne ⟨db, [c, o]⟩ (.answered 0 now)) := by
  cases hstatus : c.status with
  | inserting hostId => exact absurd hstatus (h.update hostId)
  | sending phase =>
    have hsends := SaveCall.sends_send db now c phase
    have hstep : c.step db now = ({ c with status := (c.send db now phase).1 }, (c.send db now phase).2) := by
      simp [SaveCall.step, hstatus]
    rw [hstep] at hok ⊢
    obtain ⟨hpair, hsettling⟩ := h.send hstatus hsends hok
    refine ⟨hpair, hsettling.trans (and_congr_right fun _ => ?_)⟩
    by_cases hphase : phase = .clearAmenities
    · rw [clearsForOne_iff (by rw [hstatus, hphase])]
      simp [hphase]
    · simp [ClearsForOne, hstatus, hphase]
  | returned =>
    have hstep : c.step db now = (c, db) := by simp [SaveCall.step, hstatus]
    rw [hstep]
    exact ⟨h, by simp [ClearsForOne, hstatus]⟩
  | thrown =>
    have hstep : c.step db now = (c, db) := by simp [SaveCall.step, hstatus]
    rw [hstep]
    exact ⟨h, by simp [ClearsForOne, hstatus]⟩

theorem clearsForOne_swap {now : Int} :
    ClearsForOne ⟨db, [c, o]⟩ (.answered 1 now) ↔ ClearsForOne ⟨db, [o, c]⟩ (.answered 0 now) := by
  simp [ClearsForOne, or_comm]

theorem settlesForOne_iff : SettlesForOne p ⟨db, [c, o]⟩ ↔ Settling p db c o := by
  constructor
  · intro h
    exact h c o rfl
  · rintro h c' o' ⟨⟩
    exact h

theorem TwoCalls.step {db₀ : SavedDb} {s : Saves} (h : TwoCalls db₀ p s) (l : SaveLabel)
    (hok : NoneThrown (s.step l)) :
    TwoCalls db₀ p (s.step l) ∧ (SettlesForOne p (s.step l) ↔ SettlesForOne p s ∧ ClearsForOne s l) := by
  obtain ⟨c, o, hpair⟩ := h
  rename_i db
  match l with
  | .answered 0 now =>
    obtain ⟨hnext, hsettling⟩ := hpair.answered (hok _ List.mem_cons_self)
    refine ⟨.mk _ _ hnext, ?_⟩
    rw [settlesForOne_iff, ← hsettling]
    exact settlesForOne_iff
  | .answered 1 now =>
    have hgoing : (o.step db now).1.status ≠ .thrown := hok _ (by simp [Saves.step])
    obtain ⟨hnext, hsettling⟩ := hpair.symm.answered hgoing
    refine ⟨.mk _ _ hnext.symm, ?_⟩
    rw [settlesForOne_iff, clearsForOne_swap, Settling.symm, ← hsettling, Settling.symm]
    exact settlesForOne_iff
  | .answered (i + 2) now => exact ⟨.mk c o hpair, by simp [Saves.step, ClearsForOne]⟩
  | .failed i =>
    have hsame : (⟨db, [c, o]⟩ : Saves).step (.failed i) = ⟨db, [c, o]⟩ := by
      simp only [Saves.step] at hok ⊢
      split
      · rfl
      · rename_i call hcall
        rw [hcall] at hok
        simp only at hok
        split at hok
        · exact absurd rfl (hok { call with status := .thrown } (List.mem_set (List.getElem?_eq_some_iff.mp hcall).1 _))
        · rename_i hnot
          rw [if_neg hnot]
    rw [hsame]
    exact ⟨.mk c o hpair, by simp [ClearsForOne]⟩

/-- When both updates have returned, the amenities are the ones given by one of them exactly if
each delete of the run was for one. -/
theorem updates_savedByOne_iff {input₁ input₂ : PropertyInput} (ls : List SaveLabel)
    (hreturned : ∀ c ∈ (run Saves.step (.updates db p input₁ input₂) ls).calls, c.status = .returned) :
    SavedByOne db p (run Saves.step (.updates db p input₁ input₂) ls) ↔
      Guarded Saves.step ClearsForOne (.updates db p input₁ input₂) ls := by
  have hfirst : ∀ input : PropertyInput, input.firstPhase = .readStatus ∨ input.firstPhase = .update := by
    intro input
    unfold PropertyInput.firstPhase
    split
    · exact .inl rfl
    · exact .inr rfl
  have hnotCleared : ∀ input, (Saves.updateCall p input).hasCleared = false := by
    intro input
    rcases hfirst input with hphase | hphase <;> simp [SaveCall.hasCleared, Saves.updateCall, hphase]
  have hnotClearing : ∀ input, (Saves.updateCall p input).status ≠ .sending .clearAmenities := by
    intro input
    rcases hfirst input with hphase | hphase <;> simp [Saves.updateCall, hphase]
  have hpair : Pair db p db (Saves.updateCall p input₁) (Saves.updateCall p input₂) := by
    constructor
    case property => rfl
    case property' => rfl
    case update => nofun
    case update' => nofun
    case given => simp [hnotCleared, hnotClearing]
    case given' => simp [hnotCleared, hnotClearing]
    case untouched => exact fun _ _ _ => Iff.rfl
    case single => simp [Settling, hnotCleared]
  have hnone : NoneThrown (run Saves.step (.updates db p input₁ input₂) ls) := by
    intro c hc hthrown
    rw [hreturned c hc] at hthrown
    cases hthrown
  have hrun : TwoCalls db p (run Saves.step (.updates db p input₁ input₂) ls) ∧
      (SettlesForOne p (run Saves.step (.updates db p input₁ input₂) ls) ↔
        Guarded Saves.step ClearsForOne (.updates db p input₁ input₂) ls) :=
    end_iff_guarded (I := NoneThrown) (fun s l h => h.of_step) (fun s l h hok => (h.step l hok).1)
      (fun s l h hok => (h.step l hok).2) (.mk _ _ hpair)
      (settlesForOne_iff.mpr (hpair.single (.inl (hnotCleared input₁)))) hnone
  obtain ⟨hend, hguarded⟩ := hrun
  rw [← hguarded]
  generalize run Saves.step (.updates db p input₁ input₂) ls = s at hend hreturned
  obtain ⟨c, o, hpair⟩ := hend
  rename_i db'
  have hc : c.status = .returned := hreturned c (by simp)
  have ho : o.status = .returned := hreturned o (by simp)
  have hpending : ∀ a, Pending p db' c o a ↔ db'.HasAmenity p a := by simp [Pending, SaveCall.rest, hc, ho]
  have hcleared : ∀ {x : SaveCall}, x.status = .returned → x.hasCleared = x.input.amenityIds.isSome := by
    intro x hx
    simp [SaveCall.hasCleared, hx]
  rw [settlesForOne_iff]
  simp only [SavedByOne, List.mem_cons, List.not_mem_nil, or_false, exists_eq_or_imp, exists_eq_left,
    forall_eq_or_imp, forall_eq, Settling, PendingFor, hpending, hcleared hc, hcleared ho]
  constructor
  · rintro (hone | ⟨⟨hcnone, honone⟩, -⟩) hsome
    · exact hone
    · simp [hcnone, honone] at hsome
  · intro hsettles
    by_cases hsome : c.input.amenityIds.isSome ∨ o.input.amenityIds.isSome
    · exact .inl (hsettles hsome)
    · right
      simp only [not_or, Bool.not_eq_true, Option.isSome_eq_false_iff, Option.isNone_iff_eq_none] at hsome
      refine ⟨hsome, hpair.untouched ?_ ?_⟩
      · simp [hcleared hc, hsome.1]
      · simp [hcleared ho, hsome.2]

/-! ## All or nothing -/

/-- A property with amenity 1 of two. -/
def sampleSavedDb : SavedDb :=
  (run Saves.step (.create ⟨{ sampleListingDb with amenities := [1, 2] }, fun _ => none⟩ 1
    { sampleListingInput with amenityIds := some [1] }) (List.replicate 4 (.answered 0 5))).db

/-- Both calls run to their end, the first one before the second. -/
def updatedInTurn : List SaveLabel := List.replicate 4 (.answered 0 6) ++ List.replicate 4 (.answered 1 7)

/-- An update to a cancellation policy that does not exist. -/
def unknownPolicy : PropertyInput := { cancellationPolicyId := some (some 9), amenityIds := some [2] }

/-- An update of the price and of the amenities, one of which does not exist. -/
def unknownAmenity : PropertyInput := { nightlyPrice := some 18000, amenityIds := some [2, 99] }

/-- Both delete, then both insert. -/
def updatedAtOnce : List SaveLabel :=
  [.answered 0 6, .answered 1 6, .answered 0 6, .answered 1 6] ++ List.replicate 2 (.answered 0 7) ++
    List.replicate 2 (.answered 1 7)

def halfSaved : Saves :=
  run Saves.step (.update sampleSavedDb 1 unknownAmenity) (List.replicate 4 (.answered 0 6))

def bothSaved : Saves :=
  run Saves.step (.updates sampleSavedDb 1 { amenityIds := some [1] } { amenityIds := some [2] }) updatedAtOnce

end HostPlatform
