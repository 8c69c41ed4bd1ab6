-- SUMMARY: The authentication system: concurrent calls statement by statement under READ COMMITTED, their row locks and crashes, and the other steps that issue and revoke credentials.
import HostPlatform.Auth.Credentials
import HostPlatform.Lib.Locks
import HostPlatform.Lib.Transition

/-!
# Calls that consume credentials

`confirmPasswordReset` commits each of its statements. The other calls are transactions: what
they write is seen at the commit, and `SELECT .. FOR UPDATE` locks the rows it reads up to
then. An insert with a user's id needs the row of the user not to be locked, as does an
update of that row; a statement that waits for a lock leaves the state as it is.
-/

namespace HostPlatform

open Lib (Exclusive Free)

/-- An authorised sign-in whose session is not yet begun. -/
structure SignIn where
  userId : UserId
  sessionVersion : Nat
  deriving DecidableEq, Repr

/-- A call by the last statement it has executed. -/
inductive AuthCall where
  | idle
  | confirming (token : Nat) (newPassword : Password)
  | tokenFound (token : Nat) (userId : UserId) (newPassword : Password)
  | passwordReset (token : Nat) (userId : UserId)
  | tokenUsed (token : Nat) (userId : UserId)
  | resetDone (token : Nat)
  /-- The process stopped after the password update. -/
  | resetStopped (token : Nat)
  | authorizing (token : Nat)
  | loginLocked (token : Nat) (user : SignIn)
  | recovering (email : Lib.JsString) (code : Nat)
  | codeLocked (code : Nat) (userId : UserId)
  | changing (userId : UserId) (currentPassword newPassword : Password)
  | passwordLocked (userId : UserId) (newPassword : Password)
  | generating (userId : UserId) (password : Password) (leapYear : Bool)
  | passwordChecked (userId : UserId) (leapYear : Bool)
  | returned
  | failed
  deriving DecidableEq, Repr

namespace AuthCall

/-- The user whose row is locked. -/
def userLock : AuthCall → Option UserId
  | .loginLocked _ user => some user.userId
  | .codeLocked _ userId | .passwordLocked userId _ => some userId
  | _ => none

/-- The credential whose row is locked. -/
def secretLock : AuthCall → Option (CredentialTable × Nat)
  | .loginLocked token _ => some (.passkeyLoginTokens, token)
  | .codeLocked code _ => some (.accountRecoveryCodes, code)
  | _ => none

/-- The reset token that the call has set a password with. -/
def changedWith : AuthCall → Option Nat
  | .passwordReset token _ | .tokenUsed token _ | .resetDone token | .resetStopped token => some token
  | _ => none

/-- The process stops: an open transaction is rolled back. -/
def crash : AuthCall → AuthCall
  | .idle => .idle
  | .returned => .returned
  | .resetDone token => .resetDone token
  | .passwordReset token _ | .tokenUsed token _ | .resetStopped token => .resetStopped token
  | _ => .failed

end AuthCall

structure AuthWorld (n : Nat) where
  db : AuthDb
  calls : Fin n → AuthCall
  signIns : List SignIn
  cookies : List Cookie

inductive AuthLabel (n : Nat) where
  | clock (elapsed : Nat)
  | requestPasswordReset (email : Lib.JsString)
  /-- The passkey of a user was verified. -/
  | passkeyVerified (userId : UserId)
  /-- A password or Google sign-in: the version of the user's sessions is read. -/
  | signIn (userId : UserId)
  /-- The session of a sign-in is begun. -/
  | jwt (k : Nat)
  /-- A sign-out, the revocation of other sessions or of inactive ones. -/
  | revoked (sessionIds : List Nat)
  | revokeSessions (userId : UserId)
  | deleteAccount (userId : UserId) (anonymousEmail : Lib.JsString)
  | purge
  | confirmPasswordReset (i : Fin n) (token : Nat) (newPassword : Password)
  | authorize (i : Fin n) (passkeyToken : Nat)
  | recoverySignIn (i : Fin n) (email : Lib.JsString) (code : Nat)
  | changePassword (i : Fin n) (cookie : Cookie) (currentPassword newPassword : Password)
  | recoveryCodes (i : Fin n) (cookie : Cookie) (password : Password) (leapYear : Bool)
  /-- The next statement of a call. -/
  | statement (i : Fin n)
  | crash (i : Fin n)
  deriving DecidableEq, Repr

variable {n : Nat}

namespace AuthWorld

/-- Before anything is issued. A user who registers later on is in the table from the start. -/
def start (n : Nat) (users : Lib.Table Account) (now : Nat) : AuthWorld n where
  db := ⟨users, fun _ => .empty, now, 0, fun _ _ hc => absurd hc List.not_mem_nil⟩
  calls _ := .idle
  signIns := []
  cookies := []

def set (w : AuthWorld n) (i : Fin n) (c : AuthCall) : AuthWorld n :=
  { w with calls := Function.update w.calls i c }

@[simp] theorem set_db (w : AuthWorld n) (i : Fin n) (c : AuthCall) : (w.set i c).db = w.db := rfl

@[simp] theorem set_calls (w : AuthWorld n) (i : Fin n) (c : AuthCall) :
    (w.set i c).calls = Function.update w.calls i c := rfl

/-- The row of the user is not locked. -/
def Unlocked (w : AuthWorld n) (userId : UserId) : Prop := ∀ i, (w.calls i).userLock ≠ some userId

instance (w : AuthWorld n) (userId : UserId) : Decidable (w.Unlocked userId) :=
  inferInstanceAs (Decidable (∀ _, _ ≠ _))

/-- The call may lock the row of the user and that of the credential. -/
def MayLock (w : AuthWorld n) (i : Fin n) (userId : UserId) (e : CredentialTable × Nat) : Prop :=
  Free AuthCall.userLock w.calls i userId ∧ Free AuthCall.secretLock w.calls i e

instance (w : AuthWorld n) (i : Fin n) (userId : UserId) (e : CredentialTable × Nat) :
    Decidable (w.MayLock i userId e) :=
  inferInstanceAs (Decidable (_ ∧ _))

end AuthWorld

def nextAuthStatement (w : AuthWorld n) (i : Fin n) : AuthWorld n :=
  match w.calls i with
  | .confirming token newPassword =>
    match findResetToken token w.db with
    | none => w.set i .failed
    | some t => w.set i (.tokenFound token t.userId newPassword)
  | .tokenFound token userId newPassword =>
    if Free AuthCall.userLock w.calls i userId then
      { w.set i (.passwordReset token userId) with db := resetPassword userId newPassword w.db }
    else w
  | .passwordReset token userId =>
    { w.set i (.tokenUsed token userId) with
      db := w.db.use .passwordResetTokens fun t => t.secret == token }
  | .tokenUsed token userId =>
    { w.set i (.resetDone token) with
      db := w.db.use .passwordResetTokens fun t => t.userId == userId && t.usedAt.isNone }
  | .authorizing token =>
    match findLoginToken token w.db with
    | none => w.set i .failed
    | some u =>
      if w.MayLock i u.id (.passkeyLoginTokens, token) then
        w.set i (.loginLocked token ⟨u.id, u.sessionVersion⟩)
      else w
  | .loginLocked token user =>
    { w.set i .returned with
      db := w.db.use .passkeyLoginTokens fun t => t.secret == token
      signIns := user :: w.signIns }
  | .recovering email code =>
    match findRecoveryCode email code w.db with
    | none => w.set i .failed
    | some u =>
      if w.MayLock i u.id (.accountRecoveryCodes, code) then w.set i (.codeLocked code u.id) else w
  | .codeLocked code userId =>
    { w.set i .returned with
      db := (w.db.use .accountRecoveryCodes fun c => c.secret == code).issue .passkeyLoginTokens userId 60 }
  | .changing userId currentPassword newPassword =>
    match w.db.activeUser? userId with
    | none => w.set i .failed
    | some u =>
      if Free AuthCall.userLock w.calls i userId then
        if u.passwordHash = some currentPassword ∧ newPassword ≠ currentPassword then
          w.set i (.passwordLocked userId newPassword)
        else w.set i .failed
      else w
  | .passwordLocked userId newPassword =>
    { w.set i .returned with db := changePassword userId newPassword w.db }
  | .generating userId password leapYear =>
    match w.db.activeUser? userId with
    | none => w.set i .failed
    | some u =>
      if u.passwordHash = some password then w.set i (.passwordChecked userId leapYear) else w.set i .failed
  | .passwordChecked userId leapYear =>
    if w.Unlocked userId then
      { w.set i .returned with db := generateRecoveryCodes userId leapYear w.db }
    else w
  | .idle | .resetDone _ | .resetStopped _ | .returned | .failed => w

/-- A call begins. -/
def AuthWorld.begin (w : AuthWorld n) (i : Fin n) (c : AuthCall) : AuthWorld n :=
  if w.calls i = .idle then w.set i c else w

/-- A call of a route that requires a session begins. -/
def AuthWorld.beginWith (w : AuthWorld n) (i : Fin n) (cookie : Cookie) (c : AuthCall) : AuthWorld n :=
  w.begin i (if cookie ∈ w.cookies ∧ requireSession cookie w.db then c else .failed)

def authStep (w : AuthWorld n) : AuthLabel n → AuthWorld n
  | .clock elapsed => { w with db := w.db.wait elapsed }
  | .requestPasswordReset email =>
    match w.db.users.rows.find? fun u => sameEmail u.email email && u.active with
    | none => w
    | some u =>
      if w.Unlocked u.id then { w with db := w.db.issue .passwordResetTokens u.id (minutes 30) } else w
  | .passkeyVerified userId =>
    if (w.db.users.find? userId).isSome ∧ w.Unlocked userId then
      { w with db := w.db.issue .passkeyLoginTokens userId 60 }
    else w
  | .signIn userId =>
    match w.db.users.find? userId with
    | none => w
    | some u => { w with signIns := ⟨userId, u.sessionVersion⟩ :: w.signIns }
  | .jwt k =>
    match w.signIns[k]? with
    | none => w
    | some s =>
      if w.Unlocked s.userId then
        { w with
          db := w.db.issue .authSessions s.userId (days 30)
          signIns := w.signIns.eraseIdx k
          cookies := ⟨s.userId, s.sessionVersion, w.db.drawn⟩ :: w.cookies }
      else w
  | .revoked sessionIds => { w with db := w.db.revoke .authSessions fun s => s.secret ∈ sessionIds }
  | .revokeSessions userId => if w.Unlocked userId then { w with db := revokeSessions userId w.db } else w
  | .deleteAccount userId anonymousEmail =>
    if w.Unlocked userId then { w with db := deleteAccount userId anonymousEmail w.db } else w
  | .purge => { w with db := purgeExpiredSecurityData w.db }
  | .confirmPasswordReset i token newPassword => w.begin i (.confirming token newPassword)
  | .authorize i passkeyToken => w.begin i (.authorizing passkeyToken)
  | .recoverySignIn i email code => w.begin i (.recovering email code)
  | .changePassword i cookie currentPassword newPassword =>
    w.beginWith i cookie (.changing cookie.userId currentPassword newPassword)
  | .recoveryCodes i cookie password leapYear => w.beginWith i cookie (.generating cookie.userId password leapYear)
  | .statement i => nextAuthStatement w i
  | .crash i => w.set i (w.calls i).crash

/-- The credential by which a step sets a password or lets somebody in. -/
def authorises (w : AuthWorld n) : AuthLabel n → Option (CredentialTable × Nat)
  | .statement i =>
    match w.calls i with
    | .tokenFound token userId _ =>
      if Free AuthCall.userLock w.calls i userId then some (.passwordResetTokens, token) else none
    | .loginLocked token _ => some (.passkeyLoginTokens, token)
    | .codeLocked code _ => some (.accountRecoveryCodes, code)
    | _ => none
  | _ => none

/-! ## What a step does -/

/-- What a call has read holds. -/
def AuthCall.Sound (db : AuthDb) : AuthCall → Prop
  | .tokenFound token _ _ => token < db.drawn
  | .loginLocked token user => token < db.drawn ∧ db.Reached user.userId user.sessionVersion
  | .codeLocked code _ => code < db.drawn
  | _ => True

inductive AuthMove (w : AuthWorld n) : AuthLabel n → AuthWorld n → Prop where
  /-- No call takes part: credentials are issued or revoked, or time passes. -/
  | apart {l : AuthLabel n} {db : AuthDb} {signIns : List SignIn} {cookies : List Cookie}
      (decays : w.db.Decays db) (quiet : authorises w l = none)
      (known : ∀ s ∈ signIns, s ∈ w.signIns ∨ db.Reached s.userId s.sessionVersion)
      (issued : ∀ c ∈ cookies, c ∈ w.cookies ∨
        c.sessionId < db.drawn ∧ ⟨c.userId, c.sessionVersion⟩ ∈ w.signIns) :
      AuthMove w l ⟨db, w.calls, signIns, cookies⟩
  /-- A call moves on; it locks a credential that can be used and that no other has locked. -/
  | moves {l : AuthLabel n} {i : Fin n} {c : AuthCall} (quiet : authorises w l = none)
      (changed : c.changedWith = (w.calls i).changedWith) (sound : c.Sound w.db)
      (lock : ∀ t k, c.secretLock = some (t, k) →
        Free AuthCall.secretLock w.calls i (t, k) ∧ (w.db.usable? t k).isSome) :
      AuthMove w l (w.set i c)
  /-- A call commits, but not by a credential. -/
  | commits {l : AuthLabel n} {i : Fin n} {c : AuthCall} {db : AuthDb} (quiet : authorises w l = none)
      (changed : c.changedWith = (w.calls i).changedWith) (decays : w.db.Decays db) (sound : c.Sound db)
      (lock : c.secretLock = none) : AuthMove w l { w.set i c with db := db }
  | resets {i : Fin n} {token : Nat} {userId : UserId} {newPassword : Password}
      (call : w.calls i = .tokenFound token userId newPassword)
      (auth : authorises w (.statement i) = some (.passwordResetTokens, token)) :
      AuthMove w (.statement i)
        { w.set i (.passwordReset token userId) with db := resetPassword userId newPassword w.db }
  | signsIn {i : Fin n} {token : Nat} {user : SignIn} (call : w.calls i = .loginLocked token user) :
      AuthMove w (.statement i) { w.set i .returned with
        db := w.db.use .passkeyLoginTokens fun t => t.secret == token
        signIns := user :: w.signIns }
  | recovers {i : Fin n} {code : Nat} {userId : UserId} (call : w.calls i = .codeLocked code userId) :
      AuthMove w (.statement i) { w.set i .returned with
        db := (w.db.use .accountRecoveryCodes fun c => c.secret == code).issue .passkeyLoginTokens userId 60 }

namespace AuthMove

variable {w : AuthWorld n} {l : AuthLabel n}

theorem stays (quiet : authorises w l = none) : AuthMove w l w :=
  .apart (.refl _) quiet (fun _ => .inl) (fun _ => .inl)

theorem db {db : AuthDb} (decays : w.db.Decays db) (quiet : authorises w l = none) :
    AuthMove w l { w with db := db } :=
  .apart decays quiet (fun _ => .inl) (fun _ => .inl)

/-- A call moves on without a lock. -/
theorem unlocked {i : Fin n} {c : AuthCall} (quiet : authorises w l = none)
    (changed : c.changedWith = (w.calls i).changedWith) (sound : c.Sound w.db) (lock : c.secretLock = none) :
    AuthMove w l (w.set i c) :=
  .moves quiet changed sound (by simp [lock])

end AuthMove

@[simp] theorem AuthCall.changedWith_crash (c : AuthCall) : c.crash.changedWith = c.changedWith := by
  cases c <;> rfl

@[simp] theorem AuthCall.secretLock_crash (c : AuthCall) : c.crash.secretLock = none := by
  cases c <;> rfl

theorem AuthCall.sound_crash (db : AuthDb) (c : AuthCall) : c.crash.Sound db := by
  cases c <;> trivial

theorem begin_move {w : AuthWorld n} {l : AuthLabel n} {i : Fin n} {c : AuthCall}
    (quiet : authorises w l = none) (changed : c.changedWith = none) (sound : c.Sound w.db)
    (lock : c.secretLock = none) : AuthMove w l (w.begin i c) := by
  unfold AuthWorld.begin
  split
  case isTrue hidle => exact .unlocked quiet (by rw [hidle, changed]; rfl) sound lock
  case isFalse => exact .stays quiet

theorem beginWith_move {w : AuthWorld n} {l : AuthLabel n} {i : Fin n} {cookie : Cookie} {c : AuthCall}
    (quiet : authorises w l = none) (changed : c.changedWith = none) (sound : c.Sound w.db)
    (lock : c.secretLock = none) : AuthMove w l (w.beginWith i cookie c) := by
  unfold AuthWorld.beginWith
  split
  · exact begin_move quiet changed sound lock
  · exact begin_move quiet rfl trivial rfl

theorem usable?_of_findLoginToken {token : Nat} {db : AuthDb} {u : Account}
    (h : findLoginToken token db = some u) :
    (db.usable? .passkeyLoginTokens token).isSome ∧ db.users.find? u.id = some u := by
  simp only [findLoginToken, Option.bind_eq_bind, Option.bind_eq_some_iff] at h
  obtain ⟨c, hc, hu⟩ := h
  have hid := AuthDb.id_of_activeUser? hu
  exact ⟨by simp [hc], hid ▸ (Option.filter_eq_some_iff.mp hu).1⟩

theorem usable?_of_findRecoveryCode {email : Lib.JsString} {code : Nat} {db : AuthDb} {u : Account}
    (h : findRecoveryCode email code db = some u) : (db.usable? .accountRecoveryCodes code).isSome := by
  simp only [findRecoveryCode, Option.bind_eq_bind, Option.bind_eq_some_iff] at h
  obtain ⟨c, hc, -⟩ := h
  simp [hc]

theorem lt_drawn_of_isSome {db : AuthDb} {t : CredentialTable} {k : Nat} (h : (db.usable? t k).isSome) :
    k < db.drawn := by
  obtain ⟨c, hc⟩ := Option.isSome_iff_exists.mp h
  exact AuthDb.lt_drawn_of_usable? hc

theorem nextAuthStatement_move (w : AuthWorld n) (i : Fin n) :
    AuthMove w (.statement i) (nextAuthStatement w i) := by
  have hquiet : ∀ c, w.calls i = c → (∀ token userId newPassword, c ≠ .tokenFound token userId newPassword) →
      c.secretLock = none → authorises w (.statement i) = none := by
    rintro c hc hne hlock
    cases c <;> simp_all [authorises, AuthCall.secretLock]
  cases hcall : w.calls i with
  | idle | resetDone | resetStopped | returned | failed =>
    simp only [nextAuthStatement, hcall]
    exact .stays (hquiet _ hcall nofun rfl)
  | confirming token newPassword =>
    have quiet := hquiet _ hcall nofun rfl
    simp only [nextAuthStatement, hcall]
    cases hfind : findResetToken token w.db with
    | none => exact .unlocked quiet (by rw [hcall]; rfl) trivial rfl
    | some t => exact .unlocked quiet (by rw [hcall]; rfl) (AuthDb.lt_drawn_of_usable? hfind) rfl
  | tokenFound token userId newPassword =>
    simp only [nextAuthStatement, hcall]
    split
    case isTrue hfree => exact .resets hcall (by simp [authorises, hcall, hfree])
    case isFalse hfree => exact .stays (by simp [authorises, hcall, hfree])
  | passwordReset token userId =>
    simp only [nextAuthStatement, hcall]
    exact .commits (hquiet _ hcall nofun rfl) (by rw [hcall]; rfl) AuthDb.decays_use trivial rfl
  | tokenUsed token userId =>
    simp only [nextAuthStatement, hcall]
    exact .commits (hquiet _ hcall nofun rfl) (by rw [hcall]; rfl) AuthDb.decays_use trivial rfl
  | authorizing token =>
    have quiet := hquiet _ hcall nofun rfl
    simp only [nextAuthStatement, hcall]
    cases hfind : findLoginToken token w.db with
    | none => exact .unlocked quiet (by rw [hcall]; rfl) trivial rfl
    | some u =>
      obtain ⟨husable, huser⟩ := usable?_of_findLoginToken hfind
      simp only
      split
      case isTrue hmay =>
        refine .moves quiet (by rw [hcall]; rfl) ⟨lt_drawn_of_isSome husable, u, huser, le_refl _⟩ ?_
        rintro _ _ ⟨⟩
        exact ⟨hmay.2, husable⟩
      case isFalse => exact .stays quiet
  | loginLocked token user =>
    simp only [nextAuthStatement, hcall]
    exact .signsIn hcall
  | recovering email code =>
    have quiet := hquiet _ hcall nofun rfl
    simp only [nextAuthStatement, hcall]
    cases hfind : findRecoveryCode email code w.db with
    | none => exact .unlocked quiet (by rw [hcall]; rfl) trivial rfl
    | some u =>
      have husable := usable?_of_findRecoveryCode hfind
      simp only
      split
      case isTrue hmay =>
        refine .moves quiet (by rw [hcall]; rfl) (lt_drawn_of_isSome husable) ?_
        rintro _ _ ⟨⟩
        exact ⟨hmay.2, husable⟩
      case isFalse => exact .stays quiet
  | codeLocked code userId =>
    simp only [nextAuthStatement, hcall]
    exact .recovers hcall
  | changing userId currentPassword newPassword =>
    have quiet := hquiet _ hcall nofun rfl
    have changed : ∀ c : AuthCall, c.changedWith = none → c.changedWith = (w.calls i).changedWith := by
      intro c hc
      rw [hc, hcall]
      rfl
    simp only [nextAuthStatement, hcall]
    cases w.db.activeUser? userId with
    | none => exact .unlocked quiet (changed _ rfl) trivial rfl
    | some u =>
      simp only
      split
      case isTrue =>
        split
        · exact .unlocked quiet (changed _ rfl) trivial rfl
        · exact .unlocked quiet (changed _ rfl) trivial rfl
      case isFalse => exact .stays quiet
  | passwordLocked userId newPassword =>
    simp only [nextAuthStatement, hcall]
    exact .commits (hquiet _ hcall nofun rfl) (by rw [hcall]; rfl) (changePassword_decays _ _ _) trivial rfl
  | generating userId password leapYear =>
    have quiet := hquiet _ hcall nofun rfl
    simp only [nextAuthStatement, hcall]
    cases w.db.activeUser? userId with
    | none => exact .unlocked quiet (by rw [hcall]; rfl) trivial rfl
    | some u =>
      simp only
      split
      · exact .unlocked quiet (by rw [hcall]; rfl) trivial rfl
      · exact .unlocked quiet (by rw [hcall]; rfl) trivial rfl
  | passwordChecked userId leapYear =>
    have quiet := hquiet _ hcall nofun rfl
    simp only [nextAuthStatement, hcall]
    split
    · exact .commits quiet (by rw [hcall]; rfl) (generateRecoveryCodes_decays _ _ _) trivial rfl
    · exact .stays quiet

theorem authStep_move (w : AuthWorld n) (l : AuthLabel n) : AuthMove w l (authStep w l) := by
  cases l with
  | clock elapsed => exact .db (AuthDb.decays_wait elapsed) rfl
  | requestPasswordReset email =>
    simp only [authStep]
    split
    · exact .stays rfl
    · split
      · exact .db (AuthDb.decays_issue _ _) rfl
      · exact .stays rfl
  | passkeyVerified userId =>
    simp only [authStep]
    split
    · exact .db (AuthDb.decays_issue _ _) rfl
    · exact .stays rfl
  | signIn userId =>
    simp only [authStep]
    cases hu : w.db.users.find? userId with
    | none => exact .stays rfl
    | some u =>
      refine .apart (.refl _) rfl (fun s hs => ?_) (fun _ => .inl)
      rcases List.mem_cons.mp hs with rfl | hs
      · exact .inr ⟨u, hu, le_refl _⟩
      · exact .inl hs
  | jwt k =>
    simp only [authStep]
    cases hs : w.signIns[k]? with
    | none => exact .stays rfl
    | some s =>
      simp only
      split
      case isTrue =>
        refine .apart (AuthDb.decays_issue _ _) rfl (fun _ h => .inl (List.mem_of_mem_eraseIdx h)) (fun c hc => ?_)
        rcases List.mem_cons.mp hc with rfl | hc
        · exact .inr ⟨Nat.lt_succ_self _, List.mem_of_getElem? hs⟩
        · exact .inl hc
      case isFalse => exact .stays rfl
  | revoked sessionIds => exact .db AuthDb.decays_revoke rfl
  | revokeSessions userId =>
    simp only [authStep]
    split
    · exact .db (revokeSessions_decays _ _) rfl
    · exact .stays rfl
  | deleteAccount userId anonymousEmail =>
    simp only [authStep]
    split
    · exact .db (deleteAccount_decays _ _ _) rfl
    · exact .stays rfl
  | purge => exact .db (purgeExpiredSecurityData_decays _) rfl
  | confirmPasswordReset i token newPassword => exact begin_move rfl rfl trivial rfl
  | authorize i passkeyToken => exact begin_move rfl rfl trivial rfl
  | recoverySignIn i email code => exact begin_move rfl rfl trivial rfl
  | changePassword i cookie currentPassword newPassword => exact beginWith_move rfl rfl trivial rfl
  | recoveryCodes i cookie password leapYear => exact beginWith_move rfl rfl trivial rfl
  | statement i => exact nextAuthStatement_move w i
  | crash i =>
    exact .unlocked rfl (AuthCall.changedWith_crash _) (AuthCall.sound_crash _ _) (AuthCall.secretLock_crash _)

theorem AuthMove.decays {w w' : AuthWorld n} {l : AuthLabel n} (h : AuthMove w l w') : w.db.Decays w'.db := by
  cases h with
  | apart decays | commits _ _ decays => exact decays
  | moves => exact .refl _
  | resets => exact resetPassword_decays _ _ _
  | signsIn => exact AuthDb.decays_use
  | recovers => exact AuthDb.decays_use.trans (AuthDb.decays_issue _ _)

theorem authStep_decays (w : AuthWorld n) (l : AuthLabel n) : w.db.Decays (authStep w l).db :=
  (authStep_move w l).decays

theorem run_decays (w : AuthWorld n) (labels : List (AuthLabel n)) :
    w.db.Decays (Lib.Transition.run authStep w labels).db := by
  induction labels generalizing w with
  | nil => exact .refl _
  | cons l labels ih => exact (authStep_decays w l).trans (ih _)

/-! ## What every step keeps -/

theorem AuthCall.Sound.later {db db' : AuthDb} (hdecays : db.Decays db') {c : AuthCall} (h : c.Sound db) :
    c.Sound db' := by
  cases c with
  | tokenFound | codeLocked => exact lt_of_lt_of_le h hdecays.drawn
  | loginLocked => exact ⟨lt_of_lt_of_le h.1 hdecays.drawn, hdecays.reached h.2⟩
  | _ => trivial

structure AuthInv (w : AuthWorld n) : Prop where
  sound : ∀ i, (w.calls i).Sound w.db
  signIns : ∀ s ∈ w.signIns, w.db.Reached s.userId s.sessionVersion
  cookies : ∀ c ∈ w.cookies, (Presented.session c).IssuedBy w.db
  locks : Exclusive AuthCall.secretLock w.calls

theorem AuthInv.start (users : Lib.Table Account) (now : Nat) : AuthInv (AuthWorld.start n users now) where
  sound _ := trivial
  signIns _ hs := absurd hs List.not_mem_nil
  cookies _ hc := absurd hc List.not_mem_nil
  locks := Lib.exclusive_of_none fun _ => rfl

theorem AuthInv.update {w : AuthWorld n} (h : AuthInv w) {i : Fin n} {c : AuthCall} {db : AuthDb}
    (hdecays : w.db.Decays db) (hsound : c.Sound db)
    (hlock : ∀ e, c.secretLock = some e → Free AuthCall.secretLock w.calls i e) :
    AuthInv { w.set i c with db := db } where
  sound j := by
    simp only [AuthWorld.set, Function.update_apply]
    split
    · exact hsound
    · exact (h.sound j).later hdecays
  signIns s hs := hdecays.reached (h.signIns s hs)
  cookies c hc := hdecays.issuedBy (h.cookies c hc)
  locks := h.locks.update fun e he => .inr (hlock e he)

theorem AuthInv.step {w : AuthWorld n} (h : AuthInv w) (l : AuthLabel n) : AuthInv (authStep w l) := by
  have hmove := authStep_move w l
  generalize authStep w l = w' at hmove
  cases hmove with
  | apart decays quiet known issued =>
    refine ⟨fun i => (h.sound i).later decays, fun s hs => ?_, fun c hc => ?_, h.locks⟩
    · exact (known s hs).elim (fun hs => decays.reached (h.signIns s hs)) id
    · rcases issued c hc with hc | ⟨hid, hs⟩
      · exact decays.issuedBy (h.cookies c hc)
      · exact ⟨hid, decays.reached (h.signIns _ hs)⟩
  | moves _ _ sound lock => exact h.update (.refl _) sound fun e he => (lock e.1 e.2 he).1
  | commits _ _ decays sound lock => exact h.update decays sound (by simp [lock])
  | resets => exact h.update (resetPassword_decays _ _ _) trivial nofun
  | @signsIn i token user call =>
    have hnext := h.update (i := i) (c := .returned)
      (AuthDb.decays_use (t := .passkeyLoginTokens) (p := fun t => t.secret == token)) trivial nofun
    have huser : w.db.Reached user.userId user.sessionVersion := (call ▸ h.sound i :).2
    refine ⟨hnext.sound, fun s hs => ?_, hnext.cookies, hnext.locks⟩
    rcases List.mem_cons.mp hs with rfl | hs
    · exact AuthDb.decays_use.reached huser
    · exact hnext.signIns s hs
  | recovers => exact h.update (AuthDb.decays_use.trans (AuthDb.decays_issue _ _)) trivial nofun

theorem AuthInv.run {w : AuthWorld n} (h : AuthInv w) (labels : List (AuthLabel n)) :
    AuthInv (Lib.Transition.run authStep w labels) :=
  Lib.Transition.run_invariant' (fun _ l hw => hw.step l) h labels

/-! ## One account

Several concrete runs are those of one user. -/

/-- A users table with one active row, and its password. -/
def oneAccount (passwordHash : Option Password) : Lib.Table Account :=
  ⟨[⟨1, Lib.js "a", true, passwordHash, 1⟩], List.nodup_singleton _⟩

/-- The cookie of the user's first sign-in. -/
def ownCookie : Cookie := ⟨1, 1, 0⟩

end HostPlatform
