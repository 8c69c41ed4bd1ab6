-- SUMMARY: Users with all columns a deletion writes, their privacy requests (migration 022), and the rows that name them.
import HostPlatform.Auth.Credentials
import HostPlatform.World

/-!
# Accounts

The columns of `users` are in two tables: those the authentication routes use, and the rest. The
clock of the database is that of the credentials, in seconds.
-/

namespace HostPlatform

open Lib (Keyed Table js)

/-! ## Users -/

inductive UserStatus where
  | active | suspended | deleted
  deriving DecidableEq, Repr

/-- The columns of `users` beside those of `Account`. -/
structure UserProfile where
  id : UserId
  status : UserStatus
  phone : Option String
  fullName : Option String
  authProvider : String
  failedLoginCount : Nat
  failedLoginWindowStartedAt : Option Nat
  loginLockedUntil : Option Nat
  deletedAt : Option Nat
  deriving DecidableEq, Repr

instance : Keyed UserProfile := ⟨UserProfile.id⟩

structure Users where
  auth : AuthDb
  profiles : Table UserProfile
  /-- The two tables have the same users, and one status. -/
  agree : ∀ id, (auth.users.find? id).map Account.active =
    (profiles.find? id).map fun p => decide (p.status = .active)

namespace Users

/-- A sign-in begins a session. -/
def issueSession (u : Users) (userId : UserId) : Users where
  auth := u.auth.issue .authSessions userId (days 30)
  profiles := u.profiles
  agree := u.agree

def wait (u : Users) (elapsed : Nat) : Users where
  auth := u.auth.wait elapsed
  profiles := u.profiles
  agree := u.agree

def deleteCredentials (u : Users) (t : CredentialTable) (p : Credential → Bool) : Users where
  auth := u.auth.deleteRows t p
  profiles := u.profiles
  agree := u.agree

end Users

/-- The address of a deleted user. -/
def anonymousEmail (userId : UserId) : String := s!"deleted-{userId}@deleted.invalid"

/-- The columns the last statement on `users` sets. -/
def Account.anonymised (u : Account) : Account :=
  { u with
    email := js (anonymousEmail u.id)
    passwordHash := none
    active := false
    sessionVersion := u.sessionVersion + 1 }

def UserProfile.anonymised (now : Nat) (p : UserProfile) : UserProfile :=
  { p with
    status := .deleted
    phone := none
    fullName := none
    authProvider := "deleted"
    failedLoginCount := 0
    failedLoginWindowStartedAt := none
    loginLockedUntil := none
    deletedAt := some now }

theorem Account.id_anonymised (u : Account) : u.anonymised.id = u.id := rfl

theorem UserProfile.id_anonymised (now : Nat) (p : UserProfile) : (p.anonymised now).id = p.id := rfl

def Users.anonymise (u : Users) (userId : UserId) (now : Nat) : Users where
  auth := u.auth.modifyUser userId Account.anonymised Account.id_anonymised
  profiles := u.profiles.modify userId (UserProfile.anonymised now) (UserProfile.id_anonymised now)
  agree := by
    intro id
    simp only [AuthDb.users_modifyUser, Table.find?_modify]
    split
    · have hagree := u.agree userId
      cases hp : u.profiles.find? userId with
      | none =>
        rw [hp, Option.map_none, Option.map_eq_none_iff] at hagree
        rw [hagree]
        rfl
      | some p =>
        rw [hp] at hagree
        obtain ⟨a, ha, -⟩ := Option.map_eq_some_iff.mp hagree
        rw [ha]
        rfl
    · exact u.agree id

/-! ## Rows that name a user -/

inductive PrivacyRequestType where
  | export | deletion
  deriving DecidableEq, Repr

inductive PrivacyRequestStatus where
  | pending | processing | completed | cancelled | blocked
  deriving DecidableEq, Repr

structure PrivacyRequest where
  id : Nat
  userId : UserId
  requestType : PrivacyRequestType
  status : PrivacyRequestStatus
  requestedAt : Nat
  executeAfter : Option Nat
  completedAt : Option Nat
  blockedReason : Option String
  retainedCategories : List String
  deriving DecidableEq, Repr

/-- `booking_guests`. -/
structure BookingGuest where
  id : Nat
  bookingId : BookingId
  fullName : String
  isPrimary : Bool
  deriving DecidableEq, Repr

/-- Tables whose rows are deleted with their user. -/
inductive OwnedTable where
  | notifications
  | notificationPreferences
  | savedProperties
  | guestProfiles
  | webauthnCredentials
  | webauthnChallenges
  | emailVerificationTokens
  deriving DecidableEq, Repr

structure OwnedRow where
  id : Nat
  userId : UserId
  deriving DecidableEq, Repr

/-- Tables whose rows stay without their user. -/
inductive ReferenceTable where
  | messages
  | auditLog
  | securityEvents
  deriving DecidableEq, Repr

structure ReferenceRow where
  id : Nat
  userId : Option UserId
  deriving DecidableEq, Repr

instance : Keyed PrivacyRequest := ⟨PrivacyRequest.id⟩
instance : Keyed BookingGuest := ⟨BookingGuest.id⟩
instance : Keyed OwnedRow := ⟨OwnedRow.id⟩
instance : Keyed ReferenceRow := ⟨ReferenceRow.id⟩

/-! ## Requests and sweeps under way -/

/-- The requests of a signed-in user. -/
inductive AccountRequest where
  /-- `POST /api/bookings`. -/
  | book (input : CreateBookingInput)
  /-- `POST /api/account/privacy`. -/
  | requestDeletion (confirmation : String) (password : Option Password)
  /-- `DELETE /api/account/privacy`. -/
  | cancelDeletion

/-- Where a request is whose session was accepted. -/
inductive AccountPhase where
  | booking (input : CreateBookingInput)
  | confirming (confirmation : String) (password : Option Password)
  | askingBlocker
  | inserting
  | cancelling
  /-- The answer is settled, its security event is not written. -/
  | recording

def AccountRequest.phase : AccountRequest → AccountPhase
  | .book input => .booking input
  | .requestDeletion confirmation password => .confirming confirmation password
  | .cancelDeletion => .cancelling

structure AccountCall where
  id : Nat
  userId : UserId
  phase : AccountPhase

/-- The transaction on one request; `startedAt` is its `NOW()`. -/
structure Deletion where
  requestId : Nat
  userId : UserId
  startedAt : Nat
  deriving DecidableEq, Repr

inductive DeletionStatement where
  | markBlocked (reason : String)
  | markProcessing
  | anonymiseBookings
  | anonymiseBookingGuests
  | clearReferences (t : ReferenceTable)
  | deleteOwned (t : OwnedTable)
  | deleteCredentials (t : CredentialTable)
  | anonymiseUser
  | markCompleted
  deriving DecidableEq, Repr

/-- A statement and the rows it found. -/
structure DeletionWrite where
  statement : DeletionStatement
  rows : List Nat
  deriving DecidableEq, Repr

inductive PrivacySweepPhase where
  | idle
  /-- `BEGIN`. -/
  | begun (requestId startedAt : Nat)
  /-- The request is locked and pending. -/
  | locked (d : Deletion)
  | writing (d : Deletion) (blocker : Option String) (writes : List DeletionWrite)
      (rest : List DeletionStatement)
  /-- A deletion is committed, its security event is not. -/
  | recording
  deriving DecidableEq, Repr

/-- A call of `executeDuePrivacyDeletions`. -/
structure PrivacySweep where
  id : Nat
  considered : Nat
  completed : Nat
  blocked : Nat
  due : List Nat
  phase : PrivacySweepPhase
  deriving DecidableEq, Repr

instance : Keyed AccountCall := ⟨AccountCall.id⟩
instance : Keyed PrivacySweep := ⟨PrivacySweep.id⟩

/-- The booking system and everything around its users. -/
structure Accounts where
  world : World
  users : Users
  /-- `host_profiles.user_id`. -/
  hostUserIds : List UserId
  /-- `admin_roles.user_id`. -/
  adminUserIds : List UserId
  privacyRequests : Table PrivacyRequest
  bookingGuests : Table BookingGuest
  owned : OwnedTable → Table OwnedRow
  references : ReferenceTable → Table ReferenceRow
  calls : Table AccountCall
  sweeps : Table PrivacySweep

/-- `CURRENT_DATE`, when the clock of the database shows `now`. -/
def dateAt (now : Nat) : Int := currentDate (now * 1000)

namespace Accounts

/-- `NOW()`. -/
def now (s : Accounts) : Nat := s.users.auth.now

def today (s : Accounts) : Int := dateAt s.now

/-- `users.status = 'deleted'`. -/
def Deleted (s : Accounts) (userId : UserId) : Prop :=
  ∃ p, s.users.profiles.find? userId = some p ∧ p.status = .deleted

/-- The guest of a booking. -/
def guestOf (s : Accounts) (b : BookingId) : Option UserId := (s.world.db.bookings.find? b).map Booking.guestId

end Accounts

end HostPlatform
