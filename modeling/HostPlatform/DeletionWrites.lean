-- SUMMARY: What the writes of a deletion do to bookings, guests and users, and that no name is left after them.
import HostPlatform.AccountDeletions

/-!
# Deletion writes

Whichever statements a deletion has sent, its commit keeps every stay and all money as they are. Two
statements take the name away, from the rows they found.
-/

namespace HostPlatform

open Lib (Table commitWrites)

/-- The row carries nothing of its guest. -/
def Booking.Anonymous (r : Booking) : Prop :=
  r.guestName = deletedGuest ∧ r.guestEmail = anonymousEmail r.guestId ∧ r.guestPhone = none

/-- The write covers all bookings of the user. -/
def DeletionWrite.FindsBookings (w : DeletionWrite) (d : Deletion) (s : Accounts) : Prop :=
  ∀ r ∈ s.world.db.bookings.rows, r.guestId = d.userId → r.id ∈ w.rows

/-- The write covers all guests of bookings of the user. -/
def DeletionWrite.FindsGuests (w : DeletionWrite) (d : Deletion) (s : Accounts) : Prop :=
  ∀ g ∈ s.bookingGuests.rows, s.guestOf g.bookingId = some d.userId → g.id ∈ w.rows

theorem anonymised_anonymous {r : Booking} {u : UserId} (h : r.guestId = u) : (r.anonymised u).Anonymous := by
  subst h
  exact ⟨rfl, rfl, rfl⟩

namespace Accounts

def BookingsAnonymous (s : Accounts) (u : UserId) : Prop :=
  ∀ r ∈ s.world.db.bookings.rows, r.guestId = u → r.Anonymous

def GuestsAnonymous (s : Accounts) (u : UserId) : Prop :=
  ∀ g ∈ s.bookingGuests.rows, s.guestOf g.bookingId = some u → g.fullName = deletedGuest

/-! ## Any writes -/

/-- What the writes of a deletion do, whichever they are. -/
structure Rewrites (d : Deletion) (s s' : Accounts) : Prop where
  now : s'.now = s.now
  sweeps : s'.sweeps = s.sweeps
  payments : s'.world.db.payments = s.world.db.payments
  paymentAttempts : s'.world.db.paymentAttempts = s.world.db.paymentAttempts
  bookings : Table.Rowwise (fun r r' : Booking => r'.guestId = r.guestId ∧ r'.checkOut = r.checkOut ∧
    r'.status = r.status ∧ (r.Anonymous → r'.Anonymous)) s.world.db.bookings s'.world.db.bookings
  guests : Table.Rowwise (fun g g' : BookingGuest => g'.bookingId = g.bookingId ∧
    (g.fullName = deletedGuest → g'.fullName = deletedGuest)) s.bookingGuests s'.bookingGuests
  deleted : ∀ u, s'.Deleted u → s.Deleted u ∨ u = d.userId

namespace Rewrites

variable {d : Deletion} {s s' s'' : Accounts}

/-- A write to other tables, or to other columns. -/
theorem of_same (hworld : s'.world = s.world) (hnow : s'.now = s.now) (hprofiles : s'.users.profiles = s.users.profiles)
    (hguests : s'.bookingGuests = s.bookingGuests) (hsweeps : s'.sweeps = s.sweeps) : Rewrites d s s' where
  now := hnow
  sweeps := hsweeps
  payments := by rw [hworld]
  paymentAttempts := by rw [hworld]
  bookings := by
    rw [hworld]
    exact .refl (fun r => ⟨rfl, rfl, rfl, id⟩) _
  guests := by
    rw [hguests]
    exact .refl (fun g => ⟨rfl, id⟩) _
  deleted u := by
    unfold Deleted
    rw [hprofiles]
    exact .inl

theorem refl (d : Deletion) (s : Accounts) : Rewrites d s s := of_same rfl rfl rfl rfl rfl

theorem trans (h : Rewrites d s s') (h' : Rewrites d s' s'') : Rewrites d s s'' where
  now := h'.now.trans h.now
  sweeps := h'.sweeps.trans h.sweeps
  payments := h'.payments.trans h.payments
  paymentAttempts := h'.paymentAttempts.trans h.paymentAttempts
  bookings := h.bookings.trans (fun _ _ _ hab hbc => ⟨hbc.1.trans hab.1, hbc.2.1.trans hab.2.1,
    hbc.2.2.1.trans hab.2.2.1, hbc.2.2.2 ∘ hab.2.2.2⟩) h'.bookings
  guests := h.guests.trans (fun _ _ _ hab hbc => ⟨hbc.1.trans hab.1, hbc.2 ∘ hab.2⟩) h'.guests
  deleted u hu := by
    rcases h'.deleted u hu with hu | hu
    · exact h.deleted u hu
    · exact .inr hu

theorem guestOf (h : Rewrites d s s') (b : BookingId) : s'.guestOf b = s.guestOf b := by
  unfold Accounts.guestOf
  cases hr : s.world.db.bookings.find? b with
  | some r =>
    obtain ⟨r', hr', hguest, -⟩ := h.bookings.of_find? hr
    rw [hr']
    exact congrArg some hguest
  | none =>
    cases hr' : s'.world.db.bookings.find? b with
    | none => rfl
    | some r' =>
      obtain ⟨r, hr₀, -⟩ := h.bookings.to_find? hr'
      rw [hr] at hr₀
      cases hr₀

theorem bookingsAnonymous (h : Rewrites d s s') {u : UserId} (hs : s.BookingsAnonymous u) :
    s'.BookingsAnonymous u := by
  intro r' hr' hguest
  obtain ⟨r, hr, hguest', -, -, hkeep⟩ := h.bookings.to_find? (Table.find?_of_mem hr')
  exact hkeep (hs r (Table.mem_of_find? hr) (hguest'.symm.trans hguest))

theorem guestsAnonymous (h : Rewrites d s s') {u : UserId} (hs : s.GuestsAnonymous u) : s'.GuestsAnonymous u := by
  intro g' hg' hguest
  obtain ⟨g, hg, hbooking, hkeep⟩ := h.guests.to_find? (Table.find?_of_mem hg')
  rw [h.guestOf, hbooking] at hguest
  exact hkeep (hs g (Table.mem_of_find? hg) hguest)

/-- No booking and no guest of one is new to a write. -/
theorem findsBookings (h : Rewrites d s s') {w : DeletionWrite} (hw : w.FindsBookings d s) :
    w.FindsBookings d s' := by
  intro r' hr' hguest
  obtain ⟨r, hr, hguest', -⟩ := h.bookings.to_find? (Table.find?_of_mem hr')
  rw [show r'.id = r.id from (Table.key_of_find? hr).symm]
  exact hw r (Table.mem_of_find? hr) (hguest'.symm.trans hguest)

theorem findsGuests (h : Rewrites d s s') {w : DeletionWrite} (hw : w.FindsGuests d s) : w.FindsGuests d s' := by
  intro g' hg' hguest
  obtain ⟨g, hg, hbooking, -⟩ := h.guests.to_find? (Table.find?_of_mem hg')
  rw [h.guestOf, hbooking] at hguest
  rw [show g'.id = g.id from (Table.key_of_find? hg).symm]
  exact hw g (Table.mem_of_find? hg) hguest

end Rewrites

theorem execWrite_rewrites (d : Deletion) (w : DeletionWrite) (s : Accounts) : Rewrites d s (execWrite d w s) := by
  unfold execWrite
  split
  · exact .of_same rfl rfl rfl rfl rfl
  · exact .of_same rfl rfl rfl rfl rfl
  · refine { Rewrites.refl d s with bookings := ?_ }
    refine Table.Rowwise.updateWhere (fun _ => ⟨rfl, rfl, rfl, fun h => h⟩) (by intro r; rfl) fun r _ hfound => ?_
    have hguest : r.guestId = d.userId := beq_iff_eq.mp (Bool.and_eq_true_iff.mp hfound).1
    exact ⟨rfl, rfl, rfl, fun _ => anonymised_anonymous hguest⟩
  · refine { Rewrites.refl d s with guests := ?_ }
    exact Table.Rowwise.updateWhere (fun _ => ⟨rfl, fun h => h⟩) (by intro g; rfl) fun _ _ _ =>
      ⟨rfl, fun _ => rfl⟩
  · exact .of_same rfl rfl rfl rfl rfl
  · exact .of_same rfl rfl rfl rfl rfl
  · exact .of_same rfl rfl rfl rfl rfl
  · refine { Rewrites.refl d s with now := rfl, deleted := fun u hu => ?_ }
    obtain ⟨p, hp, hdeleted⟩ := hu
    by_cases hu : u = d.userId
    · exact .inr hu
    · refine .inl ⟨p, ?_, hdeleted⟩
      have hfind := Table.find?_modify s.users.profiles d.userId (UserProfile.anonymised d.startedAt)
        (UserProfile.id_anonymised d.startedAt) u
      rw [if_neg hu] at hfind
      exact hfind.symm.trans hp
  · exact .of_same rfl rfl rfl rfl rfl

theorem commitWrites_rewrites (d : Deletion) (s : Accounts) (writes : List DeletionWrite) :
    Rewrites d s (commitWrites (execWrite d) s writes) :=
  Lib.commitWrites_relates (R := Rewrites d) (Rewrites.refl d) Rewrites.trans (fun w s => execWrite_rewrites d w s) s
    writes

/-! ## The writes of one transaction -/

/-- The statements a transaction has sent are the first of its own, and the two that take away the
name have found all rows of the user. -/
structure Planned (s : Accounts) (d : Deletion) (blocker : Option String) (writes : List DeletionWrite)
    (rest : List DeletionStatement) : Prop where
  statements : writes.map DeletionWrite.statement ++ rest = deletionStatements blocker
  bookings : blocker = none → ∀ w ∈ writes, w.statement = .anonymiseBookings → w.FindsBookings d s
  guests : blocker = none → ∀ w ∈ writes, w.statement = .anonymiseBookingGuests → w.FindsGuests d s

variable {s : Accounts}

/-- The rows a statement has just found are all there are. -/
theorem Planned.append {d : Deletion} {blocker : Option String} {writes : List DeletionWrite}
    {statement : DeletionStatement} {rest : List DeletionStatement}
    (h : s.Planned d blocker writes (statement :: rest)) :
    s.Planned d blocker (writes ++ [⟨statement, s.rowsFound d statement⟩]) rest where
  statements := by
    rw [List.map_append, List.append_assoc]
    exact h.statements
  bookings hnone w hw hstatement r hr hguest := by
    rcases List.mem_append.mp hw with hw | hw
    · exact h.bookings hnone w hw hstatement r hr hguest
    · obtain rfl := List.mem_singleton.mp hw
      obtain rfl : statement = .anonymiseBookings := hstatement
      exact List.mem_map.mpr ⟨r, List.mem_filter.mpr ⟨hr, beq_iff_eq.mpr hguest⟩, rfl⟩
  guests hnone w hw hstatement g hg hguest := by
    rcases List.mem_append.mp hw with hw | hw
    · exact h.guests hnone w hw hstatement g hg hguest
    · obtain rfl := List.mem_singleton.mp hw
      obtain rfl : statement = .anonymiseBookingGuests := hstatement
      exact List.mem_map.mpr ⟨g, List.mem_filter.mpr ⟨hg, beq_iff_eq.mpr hguest⟩, rfl⟩

/-- The statement on `bookings` takes the name away from the rows it found. -/
theorem execWrite_bookings {d : Deletion} {w : DeletionWrite} (hw : w.statement = .anonymiseBookings)
    (hfound : w.FindsBookings d s) : (execWrite d w s).BookingsAnonymous d.userId := by
  intro r' hr' hguest
  simp only [execWrite, hw, setBookings] at hr'
  obtain ⟨r, hr, rfl⟩ := (Table.mem_updateWhere (by intro r; rfl)).mp hr'
  split
  · rename_i hcond
    exact anonymised_anonymous (beq_iff_eq.mp (Bool.and_eq_true_iff.mp hcond).1)
  · rename_i hcond
    rw [if_neg hcond] at hguest
    exact absurd (by rw [hguest, beq_self_eq_true, decide_eq_true (hfound r hr hguest)]; rfl) hcond

theorem execWrite_guests {d : Deletion} {w : DeletionWrite} (hw : w.statement = .anonymiseBookingGuests)
    (hfound : w.FindsGuests d s) : (execWrite d w s).GuestsAnonymous d.userId := by
  intro g' hg' hguest
  rw [(execWrite_rewrites d w s).guestOf] at hguest
  simp only [execWrite, hw] at hg'
  obtain ⟨g, hg, rfl⟩ := (Table.mem_updateWhere (by intro r; rfl)).mp hg'
  split
  · rfl
  · rename_i hcond
    rw [if_neg hcond] at hguest
    exact absurd (by rw [hguest, beq_self_eq_true, decide_eq_true (hfound g hg hguest)]; rfl) hcond

theorem Planned.mem {d : Deletion} {blocker : Option String} {writes : List DeletionWrite}
    (h : s.Planned d blocker writes []) {statement : DeletionStatement}
    (hmem : statement ∈ deletionStatements blocker) : ∃ w ∈ writes, w.statement = statement := by
  rw [← h.statements, List.append_nil] at hmem
  exact List.mem_map.mp hmem

theorem commitWrites_bookings {d : Deletion} {writes : List DeletionWrite} (hplan : s.Planned d none writes []) :
    (commitWrites (execWrite d) s writes).BookingsAnonymous d.userId := by
  obtain ⟨w, hw, hstatement⟩ := hplan.mem (show DeletionStatement.anonymiseBookings ∈ _ by decide)
  exact Lib.commitWrites_establishes (I := fun s => w.FindsBookings d s) (P := fun s => s.BookingsAnonymous d.userId)
    (fun w' s hfound => (execWrite_rewrites d w' s).findsBookings hfound)
    (fun w' s hs => (execWrite_rewrites d w' s).bookingsAnonymous hs)
    (fun s hfound => execWrite_bookings hstatement hfound) (hplan.bookings rfl w hw hstatement) hw

theorem commitWrites_guests {d : Deletion} {writes : List DeletionWrite} (hplan : s.Planned d none writes []) :
    (commitWrites (execWrite d) s writes).GuestsAnonymous d.userId := by
  obtain ⟨w, hw, hstatement⟩ := hplan.mem (show DeletionStatement.anonymiseBookingGuests ∈ _ by decide)
  exact Lib.commitWrites_establishes (I := fun s => w.FindsGuests d s) (P := fun s => s.GuestsAnonymous d.userId)
    (fun w' s hfound => (execWrite_rewrites d w' s).findsGuests hfound)
    (fun w' s hs => (execWrite_rewrites d w' s).guestsAnonymous hs)
    (fun s hfound => execWrite_guests hstatement hfound) (hplan.guests rfl w hw hstatement) hw

/-! ## The commit -/

/-- Whoever a commit deletes was let pass by the blocker. -/
theorem commitDeletion_deleted {id : Nat} {d : Deletion} {blocker : Option String} {writes : List DeletionWrite}
    (hplan : s.Planned d blocker writes []) {u : UserId} (hu : (s.commitDeletion id d blocker writes).Deleted u) :
    s.Deleted u ∨ blocker = none ∧ u = d.userId := by
  cases blocker with
  | some reason =>
    left
    have hstatements := hplan.statements
    rw [List.append_nil] at hstatements
    obtain ⟨w, rfl, hw⟩ := List.map_eq_singleton_iff.mp hstatements
    have hcommit : commitWrites (execWrite d) s [w] = execWrite d w s := rfl
    simp only [commitDeletion, hcommit, execWrite, hw] at hu
    exact hu
  | none =>
    rcases (commitWrites_rewrites d s writes).deleted u hu with hu | hu
    · exact .inl hu
    · exact .inr ⟨rfl, hu⟩

theorem commitDeletion_inPhase {id : Nat} {d : Deletion} {blocker : Option String} {writes : List DeletionWrite}
    {phase : PrivacySweepPhase} (h : (s.commitDeletion id d blocker writes).InPhase phase) :
    s.InPhase phase ∨ phase = .idle ∨ phase = .recording := by
  have hsweeps : (commitWrites (execWrite d) s writes).sweeps = s.sweeps := (commitWrites_rewrites d s writes).sweeps
  cases blocker with
  | some reason =>
    rcases inPhase_updateSweep h with ⟨w, hw, hphase⟩ | ⟨w, -, -, rfl⟩
    · exact .inl ⟨w, hsweeps ▸ hw, hphase⟩
    · exact .inr (.inl rfl)
  | none =>
    rcases inPhase_updateSweep h with ⟨w, hw, hphase⟩ | ⟨w, -, -, rfl⟩
    · exact .inl ⟨w, hsweeps ▸ hw, hphase⟩
    · exact .inr (.inr rfl)

end Accounts

end HostPlatform
