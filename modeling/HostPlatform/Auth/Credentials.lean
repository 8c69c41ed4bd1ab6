-- SUMMARY: Sessions, login tokens, reset tokens and recovery codes: their tables, the checks that accept them, the statements of the routes, and that no statement makes an old credential better.
import HostPlatform.Schema
import HostPlatform.Lib.JsString
import HostPlatform.Lib.Table

/-!
# Credentials

A session, a passkey login token, a password-reset token and a recovery code are rows of four
tables of one shape. A table holds the hash of what is presented, and a session its id; these
are random and never drawn twice, so that they are numbered here in the order they are drawn.
Times are in seconds.
-/

namespace HostPlatform

open Lib (Keyed Table)

inductive CredentialTable where
  | authSessions
  | passkeyLoginTokens
  | passwordResetTokens
  | accountRecoveryCodes
  deriving DecidableEq, Repr

structure Credential where
  secret : Nat
  userId : UserId
  expiresAt : Nat
  /-- `used_at`; of a session, `revoked_at`. -/
  usedAt : Option Nat
  deriving DecidableEq, Repr

instance : Keyed Credential := ⟨Credential.secret⟩

/-- `used_at IS NULL AND expires_at > NOW()`. -/
def Credential.usable (now : Nat) (c : Credential) : Bool := c.usedAt.isNone && now < c.expiresAt

/-- What `bcrypt` reads of a password: it compares equal with the hash of itself only. -/
abbrev Password := Nat

structure Account where
  id : UserId
  email : Lib.JsString
  /-- `status = 'active'`. -/
  active : Bool
  passwordHash : Option Password
  sessionVersion : Nat
  deriving DecidableEq, Repr

instance : Keyed Account := ⟨Account.id⟩

/-- What a signed-in browser holds. -/
structure Cookie where
  userId : UserId
  sessionVersion : Nat
  sessionId : Nat
  deriving DecidableEq, Repr

structure AuthDb where
  users : Table Account
  rows : CredentialTable → Table Credential
  now : Nat
  /-- How many secrets have been drawn. -/
  drawn : Nat
  drawn_lt : ∀ t, ∀ c ∈ (rows t).rows, c.secret < drawn

namespace AuthDb

/-! ## Statements -/

def setRows (db : AuthDb) (t : CredentialTable) (rows : Table Credential)
    (h : ∀ c ∈ rows.rows, c.secret < db.drawn) : AuthDb where
  users := db.users
  rows := Function.update db.rows t rows
  now := db.now
  drawn := db.drawn
  drawn_lt := by
    intro t' c hc
    simp only [Function.update_apply] at hc
    split at hc
    · exact h c hc
    · exact db.drawn_lt t' c hc

/-- `INSERT` with a secret that was just drawn. -/
def issue (db : AuthDb) (t : CredentialTable) (userId : UserId) (ttl : Nat) : AuthDb where
  users := db.users
  rows := Function.update db.rows t
    ((db.rows t).insert ⟨db.drawn, userId, db.now + ttl, none⟩ fun c hc => Nat.ne_of_lt (db.drawn_lt t c hc))
  now := db.now
  drawn := db.drawn + 1
  drawn_lt := by
    intro t' c hc
    simp only [Function.update_apply] at hc
    split at hc
    · rcases List.mem_append.mp hc with hc | hc
      · exact Nat.lt_succ_of_lt (db.drawn_lt t c hc)
      · rw [List.mem_singleton.mp hc]
        exact Nat.lt_succ_self _
    · exact Nat.lt_succ_of_lt (db.drawn_lt t' c hc)

def updateRows (db : AuthDb) (t : CredentialTable) (p : Credential → Bool) (f : Credential → Credential)
    (hf : ∀ c, (f c).secret = c.secret := by intro c; rfl) : AuthDb :=
  db.setRows t ((db.rows t).updateWhere p f hf) <| by
    intro c hc
    obtain ⟨c', hc', rfl⟩ := (Table.mem_updateWhere hf).mp hc
    split
    · rw [hf]
      exact db.drawn_lt t c' hc'
    · exact db.drawn_lt t c' hc'

/-- `SET used_at = NOW()`. -/
def use (db : AuthDb) (t : CredentialTable) (p : Credential → Bool) : AuthDb :=
  db.updateRows t p fun c => { c with usedAt := some db.now }

/-- `SET revoked_at = COALESCE(revoked_at, NOW())`. -/
def revoke (db : AuthDb) (t : CredentialTable) (p : Credential → Bool) : AuthDb :=
  db.updateRows t p fun c => { c with usedAt := c.usedAt.or (some db.now) }

def deleteRows (db : AuthDb) (t : CredentialTable) (p : Credential → Bool) : AuthDb :=
  db.setRows t ((db.rows t).deleteWhere p) fun c hc => db.drawn_lt t c (List.mem_of_mem_filter hc)

def modifyUser (db : AuthDb) (id : UserId) (f : Account → Account)
    (hf : ∀ u, (f u).id = u.id := by intro u; rfl) : AuthDb where
  users := db.users.modify id f hf
  rows := db.rows
  now := db.now
  drawn := db.drawn
  drawn_lt := db.drawn_lt

def wait (db : AuthDb) (elapsed : Nat) : AuthDb where
  users := db.users
  rows := db.rows
  now := db.now + elapsed
  drawn := db.drawn
  drawn_lt := db.drawn_lt

@[simp] theorem users_use (db : AuthDb) (t : CredentialTable) (p) : (db.use t p).users = db.users := rfl
@[simp] theorem users_revoke (db : AuthDb) (t : CredentialTable) (p) : (db.revoke t p).users = db.users := rfl
@[simp] theorem users_deleteRows (db : AuthDb) (t : CredentialTable) (p) : (db.deleteRows t p).users = db.users := rfl
@[simp] theorem users_modifyUser (db : AuthDb) (id : UserId) (f : Account → Account) (hf) :
    (db.modifyUser id f hf).users = db.users.modify id f hf := rfl

/-! ## Checks -/

def usable? (db : AuthDb) (t : CredentialTable) (secret : Nat) : Option Credential :=
  ((db.rows t).find? secret).filter fun c => c.usable db.now

def activeUser? (db : AuthDb) (id : UserId) : Option Account :=
  (db.users.find? id).filter Account.active

end AuthDb

/-- Whether the session of the cookie is accepted. -/
def requireSession (cookie : Cookie) (db : AuthDb) : Bool :=
  match db.users.find? cookie.userId with
  | none => false
  | some u => u.active && u.sessionVersion == cookie.sessionVersion &&
      (db.usable? .authSessions cookie.sessionId).any fun s => s.userId == u.id

/-- The look-up of `confirmPasswordReset`. -/
def findResetToken (token : Nat) (db : AuthDb) : Option Credential := db.usable? .passwordResetTokens token

/-- The look-up of `authorize`. -/
def findLoginToken (token : Nat) (db : AuthDb) : Option Account := do
  let plt ← db.usable? .passkeyLoginTokens token
  db.activeUser? plt.userId

def sameEmail (email email' : Lib.JsString) : Bool :=
  Lib.JsString.toLowerCase email == Lib.JsString.toLowerCase email'

/-- The look-up of the recovery sign-in. -/
def findRecoveryCode (email : Lib.JsString) (code : Nat) (db : AuthDb) : Option Account := do
  let arc ← db.usable? .accountRecoveryCodes code
  let u ← db.activeUser? arc.userId
  if sameEmail u.email (Lib.JsString.trim email) then some u else none

/-- What is presented to the code that checks credentials. -/
inductive Presented where
  | session (cookie : Cookie)
  | resetToken (token : Nat)
  | loginToken (token : Nat)
  | recoveryCode (email : Lib.JsString) (code : Nat)

/-- The user it is accepted for, if it is accepted. -/
def AuthDb.accepts (db : AuthDb) : Presented → Option UserId
  | .session cookie => if requireSession cookie db then some cookie.userId else none
  | .resetToken token => (findResetToken token db).map Credential.userId
  | .loginToken token => (findLoginToken token db).map Account.id
  | .recoveryCode email code => (findRecoveryCode email code db).map Account.id

theorem AuthDb.lt_drawn_of_usable? {db : AuthDb} {t : CredentialTable} {k : Nat} {c : Credential}
    (h : db.usable? t k = some c) : k < db.drawn := by
  have hfind := (Option.filter_eq_some_iff.mp h).1
  exact Table.key_of_find? hfind ▸ db.drawn_lt t c (Table.mem_of_find? hfind)

/-- What can be used after an update of `used_at` is not among the rows updated. -/
theorem AuthDb.usable?_use {db : AuthDb} {t : CredentialTable} {p : Credential → Bool} {k : Nat} {c : Credential}
    (h : (db.use t p).usable? t k = some c) : p c = false := by
  obtain ⟨hfind, husable⟩ := Option.filter_eq_some_iff.mp h
  simp only [use, updateRows, setRows, Function.update_self, Table.find?_updateWhere, Option.map_eq_some_iff] at hfind
  obtain ⟨c', -, rfl⟩ := hfind
  split at husable
  case isTrue => simp [Credential.usable] at husable
  case isFalse hp => simp [hp]

theorem AuthDb.usable?_deleteRows {db : AuthDb} {t : CredentialTable} {p : Credential → Bool} {k : Nat}
    {c : Credential} (h : (db.deleteRows t p).usable? t k = some c) : p c = false := by
  have hfind := (Option.filter_eq_some_iff.mp h).1
  simp only [deleteRows, setRows, Function.update_self] at hfind
  exact (Table.find?_deleteWhere_eq_some.mp hfind).2

theorem AuthDb.usable?_deleteRows_of_ne {db : AuthDb} {t t' : CredentialTable} (h : t' ≠ t)
    (p : Credential → Bool) (k : Nat) : (db.deleteRows t p).usable? t' k = db.usable? t' k := by
  simp [usable?, deleteRows, setRows, h]

theorem AuthDb.secret_of_usable? {db : AuthDb} {t : CredentialTable} {k : Nat} {c : Credential}
    (h : db.usable? t k = some c) : c.secret = k :=
  Table.key_of_find? (Option.filter_eq_some_iff.mp h).1

theorem AuthDb.id_of_activeUser? {db : AuthDb} {id : UserId} {u : Account} (h : db.activeUser? id = some u) :
    u.id = id :=
  Table.key_of_find? (Option.filter_eq_some_iff.mp h).1

/-! ## Routes -/

def minutes (n : Nat) : Nat := 60 * n
def days (n : Nat) : Nat := 24 * 60 * 60 * n

/-- The password update of `confirmPasswordReset`. -/
def resetPassword (userId : UserId) (passwordHash : Password) (db : AuthDb) : AuthDb :=
  db.modifyUser userId fun u =>
    { u with passwordHash := some passwordHash, sessionVersion := u.sessionVersion + 1 }

/-- What the account password route commits. -/
def changePassword (userId : UserId) (passwordHash : Password) (db : AuthDb) : AuthDb :=
  ((((db.modifyUser userId fun u =>
      { u with passwordHash := some passwordHash, sessionVersion := u.sessionVersion + 1 }).revoke
    .authSessions fun s => s.userId == userId).use
    .passwordResetTokens fun t => t.userId == userId && t.usedAt.isNone).deleteRows
    .accountRecoveryCodes fun c => c.userId == userId).deleteRows
    .passkeyLoginTokens fun t => t.userId == userId

/-- What `performAdminSecurityAction` commits for `revoke_sessions`. -/
def revokeSessions (userId : UserId) (db : AuthDb) : AuthDb :=
  (db.revoke .authSessions fun s => s.userId == userId && s.usedAt.isNone).modifyUser userId fun u =>
    { u with sessionVersion := u.sessionVersion + 1 }

/-- What the recovery-codes route commits. A year has 365 or 366 days. -/
def generateRecoveryCodes (userId : UserId) (leapYear : Bool) (db : AuthDb) : AuthDb :=
  (fun db => db.issue .accountRecoveryCodes userId (days (if leapYear then 366 else 365)))^[10]
    (db.deleteRows .accountRecoveryCodes fun c => c.userId == userId)

/-- What `executeDuePrivacyDeletions` commits for a user. -/
def deleteAccount (userId : UserId) (anonymousEmail : Lib.JsString) (db : AuthDb) : AuthDb :=
  ((((db.deleteRows .accountRecoveryCodes fun c => c.userId == userId).deleteRows
    .authSessions fun c => c.userId == userId).deleteRows
    .passkeyLoginTokens fun c => c.userId == userId).deleteRows
    .passwordResetTokens fun c => c.userId == userId).modifyUser userId fun u =>
    { u with email := anonymousEmail, passwordHash := none, active := false, sessionVersion := u.sessionVersion + 1 }

/-- `expires_at < NOW() - d OR used_at < NOW() - d`. -/
def Credential.outdated (now d : Nat) (c : Credential) : Bool :=
  c.expiresAt + d < now || c.usedAt.any fun used => used + d < now

def purgeExpiredSecurityData (db : AuthDb) : AuthDb :=
  ((db.deleteRows .passkeyLoginTokens (Credential.outdated db.now (days 1))).deleteRows
    .passwordResetTokens (Credential.outdated db.now (days 7))).deleteRows
    .authSessions (Credential.outdated db.now (days 30))

/-! ## Credentials only get worse -/

/-- A row of `users` later on. -/
structure Account.Later (u u' : Account) : Prop where
  version : u.sessionVersion ≤ u'.sessionVersion
  active : u'.active = true → u.active = true ∧ u.email = u'.email

/-- A credential later on. -/
structure Credential.Later (c c' : Credential) : Prop where
  userId : c.userId = c'.userId
  expiresAt : c.expiresAt = c'.expiresAt
  unused : c'.usedAt = none → c.usedAt = none

theorem Account.Later.refl (u : Account) : u.Later u := ⟨le_refl _, fun h => ⟨h, rfl⟩⟩

theorem Account.Later.trans {u v w : Account} (h : u.Later v) (h' : v.Later w) : u.Later w where
  version := le_trans h.version h'.version
  active hw := ⟨(h.active (h'.active hw).1).1, (h.active (h'.active hw).1).2.trans (h'.active hw).2⟩

theorem Credential.Later.refl (c : Credential) : c.Later c := ⟨rfl, rfl, id⟩

theorem Credential.Later.trans {c d e : Credential} (h : c.Later d) (h' : d.Later e) : c.Later e :=
  ⟨h.userId.trans h'.userId, h.expiresAt.trans h'.expiresAt, fun he => h.unused (h'.unused he)⟩

namespace AuthDb

/-- In `db'`, nothing drawn before `db` is better than it was in `db`. -/
structure Decays (db db' : AuthDb) : Prop where
  now : db.now ≤ db'.now
  drawn : db.drawn ≤ db'.drawn
  users : Table.Rowwise Account.Later db.users db'.users
  rows : ∀ t k c', k < db.drawn → (db'.rows t).find? k = some c' →
    ∃ c, (db.rows t).find? k = some c ∧ c.Later c'

variable {db db' db'' : AuthDb} {t : CredentialTable} {p : Credential → Bool}

theorem Decays.refl (db : AuthDb) : db.Decays db :=
  ⟨le_refl _, le_refl _, .refl Account.Later.refl _, fun _ _ c' _ h => ⟨c', h, .refl c'⟩⟩

theorem Decays.trans (h : db.Decays db') (h' : db'.Decays db'') : db.Decays db'' where
  now := le_trans h.now h'.now
  drawn := le_trans h.drawn h'.drawn
  users := h.users.trans (fun _ _ _ => Account.Later.trans) h'.users
  rows := by
    intro t k c'' hk hc''
    obtain ⟨c', hc', hlater'⟩ := h'.rows t k c'' (lt_of_lt_of_le hk h.drawn) hc''
    obtain ⟨c, hc, hlater⟩ := h.rows t k c' hk hc'
    exact ⟨c, hc, hlater.trans hlater'⟩

theorem decays_setRows {rows : Table Credential} (h) (hrows : ∀ k c', rows.find? k = some c' →
    ∃ c, (db.rows t).find? k = some c ∧ c.Later c') : db.Decays (db.setRows t rows h) where
  now := le_refl _
  drawn := le_refl _
  users := .refl Account.Later.refl _
  rows := by
    intro t' k c' _ hc'
    simp only [setRows, Function.update_apply] at hc'
    split at hc'
    case isTrue htt => exact htt ▸ hrows k c' hc'
    case isFalse => exact ⟨c', hc', .refl c'⟩

theorem decays_issue (userId : UserId) (ttl : Nat) : db.Decays (db.issue t userId ttl) where
  now := le_refl _
  drawn := Nat.le_succ _
  users := .refl Account.Later.refl _
  rows := by
    intro t' k c' hk hc'
    simp only [issue, Function.update_apply] at hc'
    split at hc'
    case isTrue htt =>
      have hne : k ≠ Lib.key (⟨db.drawn, userId, db.now + ttl, none⟩ : Credential) := Nat.ne_of_lt hk
      rw [Table.find?_insert, if_neg hne] at hc'
      exact ⟨c', htt ▸ hc', .refl c'⟩
    case isFalse => exact ⟨c', hc', .refl c'⟩

theorem decays_iterate {f : AuthDb → AuthDb} (h : ∀ db : AuthDb, db.Decays (f db)) (k : Nat) (db : AuthDb) :
    db.Decays (f^[k] db) := by
  induction k generalizing db with
  | zero => exact .refl db
  | succ k ih => exact (h db).trans (ih _)

theorem decays_updateRows {f : Credential → Credential} (hf) (h : ∀ c : Credential, c.Later (f c)) :
    db.Decays (db.updateRows t p f hf) := by
  refine decays_setRows _ fun k c' hc' => ?_
  rw [Table.find?_updateWhere, Option.map_eq_some_iff] at hc'
  obtain ⟨c, hc, rfl⟩ := hc'
  refine ⟨c, hc, ?_⟩
  split
  · exact h c
  · exact .refl c

theorem decays_use : db.Decays (db.use t p) := decays_updateRows _ fun _ => ⟨rfl, rfl, nofun⟩

theorem decays_revoke : db.Decays (db.revoke t p) :=
  decays_updateRows _ fun c => ⟨rfl, rfl, by cases h : c.usedAt <;> simp⟩

theorem decays_deleteRows : db.Decays (db.deleteRows t p) :=
  decays_setRows _ fun _ c' hc' => ⟨c', (Table.find?_deleteWhere_eq_some.mp hc').1, .refl c'⟩

theorem decays_modifyUser {id : UserId} {f : Account → Account} (hf) (h : ∀ u : Account, u.Later (f u)) :
    db.Decays (db.modifyUser id f hf) :=
  ⟨le_refl _, le_refl _, .modify Account.Later.refl hf fun u _ => h u, fun _ _ c' _ hc' => ⟨c', hc', .refl c'⟩⟩

theorem decays_wait (elapsed : Nat) : db.Decays (db.wait elapsed) :=
  ⟨Nat.le_add_right _ _, le_refl _, .refl Account.Later.refl _, fun _ _ c' _ hc' => ⟨c', hc', .refl c'⟩⟩

end AuthDb

open AuthDb (decays_deleteRows decays_issue decays_iterate decays_modifyUser decays_revoke decays_use)

theorem resetPassword_decays (userId : UserId) (passwordHash : Password) (db : AuthDb) :
    db.Decays (resetPassword userId passwordHash db) :=
  decays_modifyUser _ fun _ => ⟨Nat.le_succ _, fun h => ⟨h, rfl⟩⟩

theorem changePassword_decays (userId : UserId) (passwordHash : Password) (db : AuthDb) :
    db.Decays (changePassword userId passwordHash db) :=
  (resetPassword_decays userId passwordHash db).trans <|
    decays_revoke.trans <| decays_use.trans <| decays_deleteRows.trans decays_deleteRows

theorem revokeSessions_decays (userId : UserId) (db : AuthDb) : db.Decays (revokeSessions userId db) :=
  decays_revoke.trans <| decays_modifyUser _ fun _ => ⟨Nat.le_succ _, fun h => ⟨h, rfl⟩⟩

theorem generateRecoveryCodes_decays (userId : UserId) (leapYear : Bool) (db : AuthDb) :
    db.Decays (generateRecoveryCodes userId leapYear db) :=
  decays_deleteRows.trans (decays_iterate (fun _ => decays_issue userId _) 10 _)

theorem deleteAccount_decays (userId : UserId) (anonymousEmail : Lib.JsString) (db : AuthDb) :
    db.Decays (deleteAccount userId anonymousEmail db) :=
  decays_deleteRows.trans <| decays_deleteRows.trans <| decays_deleteRows.trans <|
    decays_deleteRows.trans <| decays_modifyUser _ fun _ => ⟨Nat.le_succ _, nofun⟩

theorem purgeExpiredSecurityData_decays (db : AuthDb) : db.Decays (purgeExpiredSecurityData db) :=
  decays_deleteRows.trans <| decays_deleteRows.trans decays_deleteRows

namespace AuthDb.Decays

variable {db db' : AuthDb} (h : db.Decays db')
include h

theorem usable? {t : CredentialTable} {k : Nat} {c' : Credential} (hk : k < db.drawn)
    (hc' : db'.usable? t k = some c') : ∃ c, db.usable? t k = some c ∧ c.Later c' := by
  obtain ⟨hfind, husable⟩ := Option.filter_eq_some_iff.mp hc'
  obtain ⟨c, hc, hlater⟩ := h.rows t k c' hk hfind
  refine ⟨c, Option.filter_eq_some_iff.mpr ⟨hc, ?_⟩, hlater⟩
  simp only [Credential.usable, Bool.and_eq_true, Option.isNone_iff_eq_none, decide_eq_true_eq] at husable ⊢
  exact ⟨hlater.unused husable.1, hlater.expiresAt ▸ lt_of_le_of_lt h.now husable.2⟩

theorem activeUser? {id : UserId} {u' : Account} (hu' : db'.activeUser? id = some u') :
    ∃ u, db.activeUser? id = some u ∧ u.Later u' := by
  obtain ⟨hfind, hactive⟩ := Option.filter_eq_some_iff.mp hu'
  obtain ⟨u, hu, hlater⟩ := h.users.to_find? hfind
  exact ⟨u, Option.filter_eq_some_iff.mpr ⟨hu, (hlater.active hactive).1⟩, hlater⟩

end AuthDb.Decays

/-- The version of the user's sessions has come that far. -/
def AuthDb.Reached (db : AuthDb) (userId : UserId) (version : Nat) : Prop :=
  ∃ u, db.users.find? userId = some u ∧ version ≤ u.sessionVersion

theorem AuthDb.Decays.reached {db db' : AuthDb} (h : db.Decays db') {userId : UserId} {version : Nat}
    (hr : db.Reached userId version) : db'.Reached userId version := by
  obtain ⟨u, hu, hversion⟩ := hr
  obtain ⟨u', hu', hlater⟩ := h.users.of_find? hu
  exact ⟨u', hu', le_trans hversion hlater.version⟩

/-- What can have been issued up to the state `db`: a secret drawn, a version reached. -/
def Presented.IssuedBy (db : AuthDb) : Presented → Prop
  | .session cookie => cookie.sessionId < db.drawn ∧ db.Reached cookie.userId cookie.sessionVersion
  | .resetToken secret | .loginToken secret | .recoveryCode _ secret => secret < db.drawn

theorem AuthDb.Decays.issuedBy {db db' : AuthDb} (h : db.Decays db') {p : Presented} (hp : p.IssuedBy db) :
    p.IssuedBy db' := by
  cases p with
  | session cookie => exact ⟨lt_of_lt_of_le hp.1 h.drawn, h.reached hp.2⟩
  | resetToken | loginToken | recoveryCode => exact lt_of_lt_of_le hp h.drawn

/-- What is accepted later on was accepted all along. -/
theorem AuthDb.Decays.accepts {db db' : AuthDb} (h : db.Decays db') {p : Presented} (hp : p.IssuedBy db)
    {userId : UserId} (hacc : db'.accepts p = some userId) : db.accepts p = some userId := by
  cases p with
  | session cookie =>
    obtain ⟨hid, u, hu, hversion⟩ := hp
    obtain ⟨u', hu', hlater⟩ := h.users.of_find? hu
    simp only [AuthDb.accepts, requireSession, hu, hu', Option.ite_none_right_eq_some, Bool.and_eq_true,
      beq_iff_eq, Option.any_eq_true] at hacc ⊢
    obtain ⟨⟨⟨hactive, hsame⟩, s', hs', hown⟩, huser⟩ := hacc
    obtain ⟨s, hs, hslater⟩ := h.usable? hid hs'
    have hids : u.id = u'.id := (Table.key_of_find? hu).trans (Table.key_of_find? hu').symm
    refine ⟨⟨⟨(hlater.active hactive).1, ?_⟩, s, hs, ?_⟩, huser⟩
    · exact le_antisymm (hsame ▸ hlater.version) hversion
    · rw [hslater.userId, hown, hids]
  | resetToken token =>
    simp only [AuthDb.accepts, findResetToken, Option.map_eq_some_iff] at hacc ⊢
    obtain ⟨c', hc', huser⟩ := hacc
    obtain ⟨c, hc, hlater⟩ := h.usable? hp hc'
    exact ⟨c, hc, hlater.userId.trans huser⟩
  | loginToken token =>
    simp only [AuthDb.accepts, findLoginToken, Option.map_eq_some_iff, Option.bind_eq_bind,
      Option.bind_eq_some_iff] at hacc ⊢
    obtain ⟨u', ⟨c', hc', hu'⟩, huser⟩ := hacc
    obtain ⟨c, hc, hlater⟩ := h.usable? hp hc'
    obtain ⟨u, hu, hulater⟩ := h.activeUser? hu'
    refine ⟨u, ⟨c, hc, hlater.userId ▸ hu⟩, ?_⟩
    rw [AuthDb.id_of_activeUser? hu, ← AuthDb.id_of_activeUser? hu', huser]
  | recoveryCode email code =>
    simp only [AuthDb.accepts, findRecoveryCode, Option.map_eq_some_iff, Option.bind_eq_bind,
      Option.bind_eq_some_iff, Option.ite_none_right_eq_some, Option.some.injEq] at hacc ⊢
    obtain ⟨_, ⟨c', hc', u', hu', hemail, rfl⟩, huser⟩ := hacc
    obtain ⟨c, hc, hlater⟩ := h.usable? hp hc'
    obtain ⟨u, hu, hulater⟩ := h.activeUser? hu'
    have hactive : u'.active = true := (Option.filter_eq_some_iff.mp hu').2
    refine ⟨u, ⟨c, hc, u, hlater.userId ▸ hu, (hulater.active hactive).2 ▸ hemail, rfl⟩, ?_⟩
    rw [AuthDb.id_of_activeUser? hu, ← AuthDb.id_of_activeUser? hu', huser]

end HostPlatform
