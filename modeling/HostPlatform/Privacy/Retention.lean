-- SUMMARY: Who may be deleted, the statements of a deletion, and what each of them finds and writes (`retention.ts`).
import HostPlatform.Lib.PendingWrites
import HostPlatform.Privacy.Accounts

/-!
# Retention

A deletion is one transaction. Each of its statements locks the rows it finds, and the next one is
sent when it has answered. What they write is seen by others when the transaction commits.
-/

namespace HostPlatform

open Lib (Table commitWrites js)

namespace Accounts

/-! ## `deletionBlocker` -/

/-- `active_booking`. -/
def activeBooking (s : Accounts) (today : Int) (userId : UserId) : Bool :=
  s.world.db.bookings.rows.any fun b =>
    b.guestId == userId && decide (today ≤ b.checkOut ∧ b.status ≠ .cancelled ∧ b.status ≠ .completed)

/-- `unresolved_payment`. -/
def unresolvedPayment (s : Accounts) (userId : UserId) : Bool :=
  s.world.db.bookings.rows.any fun b =>
    b.guestId == userId && (s.world.db.payments.find? b.id).any fun p =>
      decide (p.status = .pending ∨ p.status = .processing ∨ p.status = .disputed)

def deletionBlocker (s : Accounts) (today : Int) (userId : UserId) : Option String :=
  if userId ∈ s.adminUserIds then some "Administrator accounts require a controlled offboarding review."
  else if userId ∈ s.hostUserIds then
    some "Host accounts require property and payout offboarding before deletion."
  else if s.activeBooking today userId then
    some "An upcoming or active booking must finish or be cancelled first."
  else if s.unresolvedPayment userId then some "A payment or dispute is still unresolved."
  else none

/-- Nothing stands in the way that `deletionBlocker` looks at. -/
structure Unblocked (s : Accounts) (today : Int) (userId : UserId) : Prop where
  admin : userId ∉ s.adminUserIds
  host : userId ∉ s.hostUserIds
  booking : s.activeBooking today userId = false
  payment : s.unresolvedPayment userId = false

theorem deletionBlocker_eq_none {s : Accounts} {today : Int} {userId : UserId} :
    s.deletionBlocker today userId = none ↔ s.Unblocked today userId := by
  constructor
  · intro h
    unfold deletionBlocker at h
    split at h
    · cases h
    rename_i hadmin
    split at h
    · cases h
    rename_i hhost
    split at h
    · cases h
    rename_i hbooking
    split at h
    · cases h
    rename_i hpayment
    exact ⟨hadmin, hhost, Bool.not_eq_true _ ▸ hbooking, Bool.not_eq_true _ ▸ hpayment⟩
  · intro h
    unfold deletionBlocker
    rw [if_neg h.admin, if_neg h.host, h.booking, h.payment]
    rfl

end Accounts

/-! ## Statements -/

/-- The statements after `deletionBlocker`. -/
def deletionStatements : Option String → List DeletionStatement
  | some reason => [.markBlocked reason]
  | none =>
    [ .markProcessing,
      .anonymiseBookings,
      .anonymiseBookingGuests,
      .clearReferences .messages,
      .clearReferences .auditLog,
      .clearReferences .securityEvents,
      .deleteOwned .notifications,
      .deleteOwned .notificationPreferences,
      .deleteOwned .savedProperties,
      .deleteOwned .guestProfiles,
      .deleteCredentials .accountRecoveryCodes,
      .deleteCredentials .authSessions,
      .deleteOwned .webauthnCredentials,
      .deleteOwned .webauthnChallenges,
      .deleteCredentials .passkeyLoginTokens,
      .deleteCredentials .passwordResetTokens,
      .deleteOwned .emailVerificationTokens,
      .anonymiseUser,
      .markCompleted ]

def deletedGuest : String := "Deleted guest"

def retainedCategories : List String :=
  ["booking transaction records", "financial ledger records", "legally necessary correspondence"]

def Booking.anonymised (userId : UserId) (b : Booking) : Booking :=
  { b with guestName := deletedGuest, guestEmail := anonymousEmail userId, guestPhone := none }

namespace Accounts

/-- The rows a statement finds. -/
def rowsFound (s : Accounts) (d : Deletion) : DeletionStatement → List Nat
  | .markBlocked _ | .markProcessing | .markCompleted => [d.requestId]
  | .anonymiseBookings => (s.world.db.bookings.select fun b => b.guestId == d.userId).map Booking.id
  | .anonymiseBookingGuests =>
    (s.bookingGuests.select fun g => s.guestOf g.bookingId == some d.userId).map BookingGuest.id
  | .clearReferences t => ((s.references t).select fun r => r.userId == some d.userId).map ReferenceRow.id
  | .deleteOwned t => ((s.owned t).select fun r => r.userId == d.userId).map OwnedRow.id
  | .deleteCredentials t => ((s.users.auth.rows t).select fun c => c.userId == d.userId).map Credential.secret
  | .anonymiseUser => [d.userId]

def setBookings (s : Accounts) (bookings : Table Booking) : Accounts :=
  { s with world := { s.world with db := { s.world.db with bookings := bookings } } }

def updateRequest (s : Accounts) (requestId : Nat) (f : PrivacyRequest → PrivacyRequest)
    (hf : ∀ r, (f r).id = r.id := by intro r; rfl) : Accounts :=
  { s with privacyRequests := s.privacyRequests.modify requestId f hf }

/-- What a statement writes into the rows it found. -/
def execWrite (d : Deletion) (w : DeletionWrite) (s : Accounts) : Accounts :=
  match w.statement with
  | .markBlocked reason =>
    s.updateRequest d.requestId fun r => { r with status := .blocked, blockedReason := some reason }
  | .markProcessing => s.updateRequest d.requestId fun r => { r with status := .processing }
  | .anonymiseBookings =>
    s.setBookings <| s.world.db.bookings.updateWhere
      (fun b => b.guestId == d.userId && decide (b.id ∈ w.rows)) (Booking.anonymised d.userId) fun _ => rfl
  | .anonymiseBookingGuests =>
    { s with
      bookingGuests := s.bookingGuests.updateWhere
        (fun g => s.guestOf g.bookingId == some d.userId && decide (g.id ∈ w.rows))
        (fun g => { g with fullName := deletedGuest }) fun _ => rfl }
  | .clearReferences t =>
    { s with
      references := Function.update s.references t <| (s.references t).updateWhere
        (fun r => r.userId == some d.userId && decide (r.id ∈ w.rows))
        (fun r => { r with userId := none }) fun _ => rfl }
  | .deleteOwned t =>
    { s with
      owned := Function.update s.owned t <| (s.owned t).deleteWhere fun r =>
        r.userId == d.userId && decide (r.id ∈ w.rows) }
  | .deleteCredentials t =>
    { s with
      users := s.users.deleteCredentials t fun c => c.userId == d.userId && decide (c.secret ∈ w.rows) }
  | .anonymiseUser => { s with users := s.users.anonymise d.userId d.startedAt }
  | .markCompleted =>
    s.updateRequest d.requestId fun r =>
      { r with
        status := .completed
        completedAt := some d.startedAt
        retainedCategories := retainedCategories }

/-- The writes of a deletion that nothing comes between. -/
def deletionWrites (s : Accounts) (d : Deletion) : List DeletionWrite :=
  (deletionStatements none).map fun statement => ⟨statement, s.rowsFound d statement⟩

/-! ## Credentials -/

theorem auth_execWrite (d : Deletion) (w : DeletionWrite) (s : Accounts) :
    (execWrite d w s).users.auth =
      match w.statement with
      | .deleteCredentials t =>
        s.users.auth.deleteRows t fun c => c.userId == d.userId && decide (c.secret ∈ w.rows)
      | .anonymiseUser => s.users.auth.modifyUser d.userId Account.anonymised Account.id_anonymised
      | _ => s.users.auth := by
  unfold execWrite
  cases w.statement with
  | _ => rfl

end Accounts

theorem AuthDb.deleteRows_congr {db : AuthDb} {t : CredentialTable} {p q : Credential → Bool}
    (h : ∀ c ∈ (db.rows t).rows, p c = q c) : db.deleteRows t p = db.deleteRows t q := by
  have hrows : (db.rows t).deleteWhere p = (db.rows t).deleteWhere q :=
    Table.ext (List.filter_congr fun c hc => by rw [h c hc])
  unfold deleteRows
  simp only [hrows]

theorem AuthDb.modifyUser_congr {db : AuthDb} {id : UserId} {f g : Account → Account} {hf hg}
    (h : ∀ u, u.id = id → f u = g u) : db.modifyUser id f hf = db.modifyUser id g hg := by
  have hrows : db.users.modify id f hf = db.users.modify id g hg := by
    refine Table.ext (List.map_congr_left fun u _ => ?_)
    split
    · rename_i hid
      exact h u (beq_iff_eq.mp hid)
    · rfl
  unfold modifyUser
  simp only [hrows]

namespace Accounts

/-- A deletion takes the credentials away as `deleteAccount` does. -/
theorem auth_commitWrites (s : Accounts) (d : Deletion) :
    (commitWrites (execWrite d) s (s.deletionWrites d)).users.auth =
      deleteAccount d.userId (js (anonymousEmail d.userId)) s.users.auth := by
  have hfound : ∀ (t : CredentialTable) (db : AuthDb), db.rows t = s.users.auth.rows t →
      db.deleteRows t (fun c => c.userId == d.userId &&
        decide (c.secret ∈ s.rowsFound d (.deleteCredentials t))) =
      db.deleteRows t fun c => c.userId == d.userId := by
    intro t db hrows
    refine AuthDb.deleteRows_congr fun c hc => ?_
    cases huser : c.userId == d.userId with
    | false => rfl
    | true =>
      have hmem : c.secret ∈ s.rowsFound d (.deleteCredentials t) :=
        List.mem_map.mpr ⟨c, List.mem_filter.mpr ⟨hrows ▸ hc, huser⟩, rfl⟩
      rw [decide_eq_true hmem]
      rfl
  simp only [commitWrites, deletionWrites, deletionStatements, List.map, List.foldl, auth_execWrite]
  rw [hfound .accountRecoveryCodes, hfound .authSessions, hfound .passkeyLoginTokens, hfound .passwordResetTokens]
  · refine AuthDb.modifyUser_congr fun u hu => ?_
    rw [← hu]
    rfl
  -- The tables are different ones, so each still has its rows.
  · rfl
  · rfl
  · rfl
  · rfl

end Accounts

end HostPlatform
