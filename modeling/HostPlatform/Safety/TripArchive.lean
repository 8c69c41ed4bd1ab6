-- SUMMARY: Which runs keep every booking that occupies nights in the guest's list of trips.
import HostPlatform.Booking.TripArchive
import HostPlatform.Safety.GuestStatus
import HostPlatform.Safety.TerminalStates

/-!
# Archived trips

Only an ended booking can be removed from the trip history, so that no guest loses track of a
stay. The partial refund of an archived booking confirms it again, and leaves it archived.
-/

namespace HostPlatform

open Lib (Table commit)
open Lib.Transition

/-- The booking has been removed from the trip history. -/
def Db.isArchived (db : Db) (b : BookingId) : Prop :=
  ∃ r, db.bookings.find? b = some r ∧ r.archivedAt.isSome

/-- Every booking that occupies nights is in the list of its guest's trips. -/
def Db.ListsLive (now : Int) (db : Db) : Prop :=
  ∀ r ∈ db.bookings.rows, r.status.live → ∃ v ∈ listBookingsForGuest db now r.guestId false, v.id = r.id

theorem Db.listsLive_iff {now : Int} {db : Db} : db.ListsLive now ↔ ∀ b, db.isLive b → ¬ db.isArchived b := by
  constructor
  · rintro h b ⟨st, hst, hlive⟩ ⟨r, hr, harchived⟩
    obtain ⟨r', hr', rfl⟩ := Db.statusOf_eq_some.mp hst
    obtain rfl := Option.some.inj (hr'.symm.trans hr)
    obtain ⟨v, hv, hid⟩ := h r' (Table.mem_of_find? hr') hlive
    obtain ⟨c, hc, ⟨-, hshown⟩, rfl⟩ := mem_listBookingsForGuest.mp hv
    obtain rfl : c = r' := Table.key_inj hc (Table.mem_of_find? hr') hid
    rcases hshown with hall | hnone
    · cases hall
    · rw [hnone] at harchived
      cases harchived
  · intro h r hr hlive
    have hfind : db.bookings.find? r.id = some r := Table.find?_of_mem hr
    have hshown : r.archivedAt = none := by
      have hnot := h r.id ⟨r.status, Db.statusOf_eq_some.mpr ⟨r, hfind, rfl⟩, hlive⟩
      cases harchived : r.archivedAt with
      | none => rfl
      | some t => exact absurd ⟨r, hfind, by rw [harchived]; rfl⟩ hnot
    exact ⟨_, mem_listBookingsForGuest.mpr ⟨r, hr, ⟨rfl, .inr hshown⟩, rfl⟩, rfl⟩

/-! ## Steps -/

/-- An update leaves the archive date, or archives and cancels. -/
theorem Booking.Updated.archivedAt {t : Tx} {r r' : Booking} (h : r.Updated t r') :
    r'.archivedAt = r.archivedAt ∨ r'.archivedAt.isSome ∧ r'.status = .cancelled := by
  cases h with
  | discarded now => exact .inr ⟨rfl, rfl⟩
  | unsettled now attemptId claimToken status details ht hpending =>
    unfold establishGracePeriod
    split <;> exact .inl rfl
  | failed now attemptId claimToken details ht hpending =>
    unfold scheduleNextRetry establishGracePeriod
    split <;> exact .inl rfl
  | _ => exact .inl rfl

theorem tripStep_archive_cases (db : Db) (now : Int) (bookingId : BookingId) (guestId : UserId) :
    tripStep db (.archiveBooking now bookingId guestId) = db ∨
      ∃ r, db.bookings.find? bookingId = some r ∧ r.status ∈ archivableStatuses ∧
        tripStep db (.archiveBooking now bookingId guestId) = setArchived now bookingId db := by
  show commit db (archiveBooking now bookingId guestId db) = db ∨ ∃ r, _ ∧ _ ∧
    commit db (archiveBooking now bookingId guestId db) = setArchived now bookingId db
  cases harchive : archiveBooking now bookingId guestId db with
  | error e => exact .inl rfl
  | ok p =>
    obtain ⟨id, db'⟩ := p
    obtain ⟨r, hr, hstatus, rfl⟩ := archiveBooking_eq_ok harchive
    exact .inr ⟨r, hr, hstatus, rfl⟩

/-- A guest's archiving leaves every status. -/
theorem statusOf_archive (db : Db) (now : Int) (bookingId : BookingId) (guestId : UserId) (b : BookingId) :
    (tripStep db (.archiveBooking now bookingId guestId)).statusOf b = db.statusOf b := by
  rcases tripStep_archive_cases db now bookingId guestId with hsame | ⟨r, -, -, hset⟩
  · rw [hsame]
  · rw [hset]
    unfold Db.statusOf
    rw [find?_setArchived]
    split
    · rw [Option.map_map]
      rfl
    · rfl

/-- An archived booking stays archived. -/
theorem isArchived_step {db : Db} {b : BookingId} (h : db.isArchived b) (s : TripStep) :
    (tripStep db s).isArchived b := by
  obtain ⟨r, hr, harchived⟩ := h
  cases s with
  | tx t =>
    obtain ⟨r', hr', -⟩ := (t.effect db).row hr
    refine ⟨r', hr', ?_⟩
    rcases t.row_cases db hr' with ⟨r₀, hr₀, hupdated⟩ | ⟨hnone, -⟩
    · obtain rfl := Option.some.inj (hr.symm.trans hr₀)
      rcases hupdated.archivedAt with hsame | ⟨hset, -⟩
      · rw [hsame]
        exact harchived
      · exact hset
    · rw [hr] at hnone
      cases hnone
  | archiveBooking now bookingId guestId =>
    rcases tripStep_archive_cases db now bookingId guestId with hsame | ⟨r₀, -, -, hset⟩
    · rw [hsame]
      exact ⟨r, hr, harchived⟩
    · rw [hset]
      by_cases hb : b = bookingId
      · refine ⟨{ r with archivedAt := some now }, ?_, rfl⟩
        rw [find?_setArchived, if_pos hb, hr]
        rfl
      · exact ⟨r, by rw [find?_setArchived, if_neg hb, hr], harchived⟩

/-- What is archived by a step has ended. -/
theorem isTerminal_of_archived {db : Db} {b : BookingId} (hbefore : ¬ db.isArchived b) {s : TripStep}
    (hafter : (tripStep db s).isArchived b) : (tripStep db s).isTerminal b := by
  obtain ⟨r', hr', harchived⟩ := hafter
  cases s with
  | tx t =>
    rcases t.row_cases db hr' with ⟨r, hr, hupdated⟩ | ⟨-, now, isDelayedFlow, input, hostId, rules, -, rfl⟩
    · rcases hupdated.archivedAt with hsame | ⟨-, hcancelled⟩
      · exact absurd ⟨r, hr, hsame ▸ harchived⟩ hbefore
      · exact ⟨.cancelled, Db.statusOf_eq_some.mpr ⟨r', hr', hcancelled⟩, rfl⟩
    · cases harchived
  | archiveBooking now bookingId guestId =>
    have hstatus := statusOf_archive db now bookingId guestId b
    rcases tripStep_archive_cases db now bookingId guestId with hsame | ⟨r₀, hr₀, harchivable, hset⟩
    · rw [hsame] at hr'
      exact absurd ⟨r', hr', harchived⟩ hbefore
    · by_cases hb : b = bookingId
      · refine ⟨r₀.status, hstatus.trans (Db.statusOf_eq_some.mpr ⟨r₀, hb ▸ hr₀, rfl⟩), ?_⟩
        exact terminal_of_archivable harchivable
      · rw [hset, find?_setArchived, if_neg hb] at hr'
        exact absurd ⟨r', hr', harchived⟩ hbefore

/-- No booking is a draft. -/
def Db.NoDrafts (db : Db) : Prop := ∀ b, db.statusOf b ≠ some .draft

theorem Db.NoDrafts.step {db : Db} (h : db.NoDrafts) (s : TripStep) : (tripStep db s).NoDrafts := by
  intro b hdraft
  cases s with
  | archiveBooking now bookingId guestId =>
    rw [statusOf_archive] at hdraft
    exact h b hdraft
  | tx t =>
    obtain ⟨r', hr', hstatus⟩ := Db.statusOf_eq_some.mp hdraft
    cases hr : db.bookings.find? b with
    | none =>
      obtain ⟨isDelayedFlow, input, hinserted, -⟩ := (t.effect db).new_row hr hr'
      rw [hinserted.pending] at hstatus
      cases hstatus
    | some r =>
      obtain ⟨r₁, hr₁, -, hmove⟩ := (t.effect db).row hr
      obtain rfl := Option.some.inj (hr'.symm.trans hr₁)
      have hr_draft : r.status ≠ .draft := fun hr_status => h b (Db.statusOf_eq_some.mpr ⟨r, hr, hr_status⟩)
      rcases hmove with hmove | ⟨-, hcancelled⟩
      · rw [hstatus] at hmove
        generalize r.status = st at hmove hr_draft
        cases hmove
        exact hr_draft rfl
      · rw [hcancelled] at hstatus
        cases hstatus

/-- The partial refund of an archived booking. -/
def ConfirmsNoArchived (db : Db) (s : TripStep) : Prop :=
  ∀ t b, s = .tx t → db.isArchived b → ¬ reconfirms t b db

/-- A step takes a live booking from the list exactly if it confirms an archived one. -/
theorem listsLive_step_iff {now : Int} {db : Db} (hdrafts : db.NoDrafts) (h : db.ListsLive now) (s : TripStep) :
    (tripStep db s).ListsLive now ↔ ConfirmsNoArchived db s := by
  rw [Db.listsLive_iff] at h ⊢
  constructor
  · rintro hafter t b rfl harchived hre
    have ⟨r, hr, _⟩ := harchived
    have hsome : (db.statusOf b).isSome := by rw [Db.statusOf_eq_some.mpr ⟨r, hr, rfl⟩]; rfl
    exact hafter b ⟨.confirmed, statusOf_exec_of_reconfirms hre hsome, rfl⟩ (isArchived_step harchived _)
  · rintro hnone b ⟨st, hst, hlive⟩ harchived
    have hended : (tripStep db s).isTerminal b := by
      by_cases hbefore : db.isArchived b
      · have ⟨r, hr, _⟩ := hbefore
        have hstatus : db.statusOf b = some r.status := Db.statusOf_eq_some.mpr ⟨r, hr, rfl⟩
        have hterminal : db.isTerminal b := by
          refine ⟨r.status, hstatus, ?_⟩
          have hnot_live : ¬ r.status.live := fun hlive => h b ⟨r.status, hstatus, hlive⟩ hbefore
          have hnot_draft : r.status ≠ .draft := fun hdraft => hdrafts b (hdraft ▸ hstatus)
          generalize r.status = st at hnot_live hnot_draft
          cases st with
          | draft => exact absurd rfl hnot_draft
          | pendingPayment | confirmed => exact absurd rfl hnot_live
          | cancelled | completed | refunded | disputed => rfl
        cases s with
        | tx t => exact isTerminal_exec hterminal (hnone t b rfl hbefore)
        | archiveBooking at' bookingId guestId =>
          obtain ⟨st', hst', hterm⟩ := hterminal
          exact ⟨st', (statusOf_archive db at' bookingId guestId b).trans hst', hterm⟩
      · exact isTerminal_of_archived hbefore harchived
    obtain ⟨st', hst', hterm⟩ := hended
    obtain rfl := Option.some.inj (hst.symm.trans hst')
    exact BookingStatus.not_live_of_terminal hterm hlive

/-- A run from an empty table keeps every live booking in the list of its guest's trips exactly if none
of its steps is the partial refund of an archived booking. -/
theorem listsLive_iff_guarded (now : Int) {db : Db} (hdb : db.bookings.rows = []) (steps : List TripStep) :
    (∀ pre suf, steps = pre ++ suf → (run tripStep db pre).ListsLive now) ↔
      Guarded tripStep ConfirmsNoArchived db steps := by
  have hnone : ∀ b, db.bookings.find? b = none := fun b => by
    unfold Table.find?
    rw [hdb]
    rfl
  refine always_iff_guarded (I := Db.NoDrafts) (P := Db.ListsLive now) (fun _ s h => h.step s)
    (fun _ s hdrafts h => listsLive_step_iff hdrafts h s) (fun b hdraft => ?_) fun r hr => ?_
  · obtain ⟨r, hr, -⟩ := Db.statusOf_eq_some.mp hdraft
    rw [hnone] at hr
    cases hr
  · rw [hdb] at hr
    cases hr

/-- A cancelled booking is removed before its refund is confirmed. -/
def removedBeforeRefund : List TripStep :=
  (cancelledThenRefunded.take 6).map TripStep.tx ++
    [.archiveBooking (98 * msPerDay) 1 1, .tx (.refundEvent ⟨5, some 7, 10000, .succeeded⟩)]

/-- The stay is on again, and out of the list. -/
theorem removedBeforeRefund_hides : ¬ Guarded tripStep ConfirmsNoArchived sampleDb removedBeforeRefund := by
  intro hguarded
  have hlists := (listsLive_iff_guarded 0 rfl removedBeforeRefund).mpr hguarded removedBeforeRefund [] (by simp)
  have harchived : ((run tripStep sampleDb removedBeforeRefund).bookings.find? 1).any fun r => r.archivedAt.isSome := by
    decide
  exact Db.listsLive_iff.mp hlists 1 ⟨.confirmed, by decide, rfl⟩ ((Option.any_eq_true _ _).mp harchived)

end HostPlatform
