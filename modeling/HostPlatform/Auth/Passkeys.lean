-- SUMMARY: Passkeys: the tables of challenges and passkeys, the ceremonies of registration and sign-in and the removal of a passkey, statement by statement beside the rest of the authentication system.
import HostPlatform.Auth.CredentialCalls

/-!
# Passkeys

A ceremony answers a challenge that an earlier request drew. The sign-in and the
registration read the challenge, verify the answer in the process, and then begin a
transaction whose first statement uses the challenge up; a removal counts the sign-in methods
and deletes in one transaction. What the WebAuthn library verifies is a parameter. The rest of
the authentication system takes its own steps between the statements.
-/

namespace HostPlatform

open Lib (Free JsString Keyed Table js)

/-! ## Tables -/

inductive ChallengePurpose where
  | registration
  | authentication
  deriving DecidableEq, Repr

/-- A row of `webauthn_challenges`. -/
structure Challenge where
  id : Nat
  userId : Option UserId
  challenge : JsString
  purpose : ChallengePurpose
  expiresAt : Nat
  usedAt : Option Nat
  deriving DecidableEq, Repr

instance : Keyed Challenge := ⟨Challenge.id⟩

namespace Challenge

/-- `used_at IS NULL AND expires_at > NOW()`. -/
def usable (now : Nat) (c : Challenge) : Bool := c.usedAt.isNone && now < c.expiresAt

/-- `SET used_at = NOW()`. -/
def use (now : Nat) (c : Challenge) : Challenge := { c with usedAt := some now }

theorem key_use (now : Nat) (c : Challenge) : Lib.key (c.use now) = Lib.key c := rfl

/-- `expires_at < NOW() - INTERVAL '1 day' OR used_at < NOW() - INTERVAL '1 day'`. -/
def outdated (now : Nat) (c : Challenge) : Bool :=
  c.expiresAt + days 1 < now || c.usedAt.any fun used => used + days 1 < now

end Challenge

/-- A row of `webauthn_credentials`. -/
structure Passkey where
  id : Nat
  userId : UserId
  credentialId : JsString
  publicKey : JsString
  counter : Nat
  transports : List JsString
  label : JsString
  lastUsedAt : Option Nat
  deriving DecidableEq, Repr

instance : Keyed Passkey := ⟨Passkey.id⟩

/-- `SET counter = $2, last_used_at = NOW()`. -/
def Passkey.count (newCounter now : Nat) (p : Passkey) : Passkey :=
  { p with counter := newCounter, lastUsedAt := some now }

theorem Passkey.key_count (newCounter now : Nat) (p : Passkey) : Lib.key (p.count newCounter now) = Lib.key p := rfl

/-- `registrationInfo.credential` of a verified registration. -/
structure WebAuthnCredential where
  id : JsString
  publicKey : JsString
  counter : Nat
  transports : Option (List JsString)
  deriving DecidableEq, Repr

/-- The answer of an authenticator: the id of its credential, and the rest of the object. -/
structure AuthenticationResponse where
  id : JsString
  rest : JsString
  deriving DecidableEq, Repr

/-- The library's verification of an answer to a challenge, at the origin and the relying
party of the deployment and with user verification required. -/
structure WebAuthn where
  verifyRegistrationResponse : JsString → JsString → Option WebAuthnCredential
  /-- The new counter. -/
  verifyAuthenticationResponse : AuthenticationResponse → JsString → Passkey → Option Nat

structure WebAuthnDb where
  challenges : Table Challenge
  passkeys : Table Passkey
  /-- How many ids have been drawn. -/
  drawn : Nat
  challenge_lt : ∀ c ∈ challenges.rows, c.id < drawn
  passkey_lt : ∀ p ∈ passkeys.rows, p.id < drawn

namespace WebAuthnDb

def empty : WebAuthnDb where
  challenges := .empty
  passkeys := .empty
  drawn := 0
  challenge_lt _ hc := absurd hc List.not_mem_nil
  passkey_lt _ hp := absurd hp List.not_mem_nil

def setChallenges (db : WebAuthnDb) (t : Table Challenge) (h : ∀ c ∈ t.rows, c.id < db.drawn) : WebAuthnDb where
  challenges := t
  passkeys := db.passkeys
  drawn := db.drawn
  challenge_lt := h
  passkey_lt := db.passkey_lt

def setPasskeys (db : WebAuthnDb) (t : Table Passkey) (h : ∀ p ∈ t.rows, p.id < db.drawn) : WebAuthnDb where
  challenges := db.challenges
  passkeys := t
  drawn := db.drawn
  challenge_lt := db.challenge_lt
  passkey_lt := h

/-- `INSERT INTO webauthn_challenges`; the text of a challenge is unique. -/
def issueChallenge (db : WebAuthnDb) (userId : Option UserId) (challenge : JsString) (purpose : ChallengePurpose)
    (now : Nat) : Option WebAuthnDb :=
  if db.challenges.rows.any fun c => c.challenge == challenge then none
  else some {
    challenges := db.challenges.insert ⟨db.drawn, userId, challenge, purpose, now + minutes 10, none⟩
      fun c hc => Nat.ne_of_lt (db.challenge_lt c hc)
    passkeys := db.passkeys
    drawn := db.drawn + 1
    challenge_lt := by
      intro c hc
      rcases List.mem_append.mp hc with hc | hc
      · exact Nat.lt_succ_of_lt (db.challenge_lt c hc)
      · rw [List.mem_singleton.mp hc]
        exact Nat.lt_succ_self _
    passkey_lt := fun p hp => Nat.lt_succ_of_lt (db.passkey_lt p hp) }

def useChallenges (db : WebAuthnDb) (now : Nat) (p : Challenge → Bool) : WebAuthnDb :=
  db.setChallenges (db.challenges.updateWhere p (Challenge.use now) (Challenge.key_use now)) <| by
    intro c hc
    obtain ⟨c', hc', rfl⟩ := (Table.mem_updateWhere (Challenge.key_use now)).mp hc
    split
    · exact db.challenge_lt c' hc'
    · exact db.challenge_lt c' hc'

def deleteChallenges (db : WebAuthnDb) (p : Challenge → Bool) : WebAuthnDb :=
  db.setChallenges (db.challenges.deleteWhere p) fun c hc => db.challenge_lt c (List.mem_of_mem_filter hc)

def deletePasskeys (db : WebAuthnDb) (p : Passkey → Bool) : WebAuthnDb :=
  db.setPasskeys (db.passkeys.deleteWhere p) fun q hq => db.passkey_lt q (List.mem_of_mem_filter hq)

/-- `body.label?.trim().slice(0, 80) || "Passkey"`. -/
def passkeyLabel (label : Option JsString) : JsString :=
  match label.map fun l => (Lib.JsString.trim l).take 80 with
  | none | some [] => js "Passkey"
  | some l => l

/-- `INSERT INTO webauthn_credentials`; `credential_id` is unique. -/
def addPasskey (db : WebAuthnDb) (userId : UserId) (credential : WebAuthnCredential) (label : Option JsString) :
    Option WebAuthnDb :=
  if db.passkeys.rows.any fun p => p.credentialId == credential.id then none
  else some {
    challenges := db.challenges
    passkeys := db.passkeys.insert ⟨db.drawn, userId, credential.id, credential.publicKey, credential.counter,
      credential.transports.getD [], passkeyLabel label, none⟩ fun p hp => Nat.ne_of_lt (db.passkey_lt p hp)
    drawn := db.drawn + 1
    challenge_lt := fun c hc => Nat.lt_succ_of_lt (db.challenge_lt c hc)
    passkey_lt := by
      intro p hp
      rcases List.mem_append.mp hp with hp | hp
      · exact Nat.lt_succ_of_lt (db.passkey_lt p hp)
      · rw [List.mem_singleton.mp hp]
        exact Nat.lt_succ_self _ }

def countPasskey (db : WebAuthnDb) (id : Option Nat) (newCounter now : Nat) : WebAuthnDb :=
  db.setPasskeys (db.passkeys.updateWhere (fun p => some p.id == id) (Passkey.count newCounter now)
      (Passkey.key_count newCounter now)) <| by
    intro p hp
    obtain ⟨p', hp', rfl⟩ := (Table.mem_updateWhere (Passkey.key_count newCounter now)).mp hp
    split
    · exact db.passkey_lt p' hp'
    · exact db.passkey_lt p' hp'

def findPasskey (db : WebAuthnDb) (credentialId : JsString) : Option Passkey :=
  db.passkeys.rows.find? fun p => p.credentialId == credentialId

/-- `COUNT(wc.id)`. -/
def passkeyCount (db : WebAuthnDb) (userId : UserId) : Nat :=
  (db.passkeys.select fun p => p.userId == userId).length

/-! ### Frames -/

section

variable {db db' : WebAuthnDb}

theorem issueChallenge_passkeys {userId : Option UserId} {challenge : JsString} {purpose : ChallengePurpose}
    {now : Nat}
    (h : db.issueChallenge userId challenge purpose now = some db') : db'.passkeys = db.passkeys := by
  unfold issueChallenge at h
  split at h
  · cases h
  · cases h
    rfl

theorem addPasskey_frame {userId : UserId} {credential : WebAuthnCredential} {label : Option JsString}
    (h : db.addPasskey userId credential label = some db') :
    db'.challenges = db.challenges ∧ db'.drawn = db.drawn + 1 := by
  unfold addPasskey at h
  split at h
  · cases h
  · cases h
    exact ⟨rfl, rfl⟩

end

end WebAuthnDb

/-! ## Calls -/

/-- A call by the last statement it has executed. -/
inductive PasskeyCall where
  | idle
  | starting (userId : UserId) (challenge : JsString)
  | verifying (challengeId : Nat) (response : AuthenticationResponse)
  | challengeRead (challengeId : Nat) (challenge : Option JsString) (response : AuthenticationResponse)
  | verified (challengeId : Nat) (passkey : Passkey) (newCounter : Nat)
  | consumed (challengeId : Nat) (passkey : Passkey) (newCounter : Nat)
  /-- With the row that the counter was written to. -/
  | counted (challengeId : Nat) (passkey : Passkey) (newCounter : Nat) (row : Option Nat)
  | registering (userId : UserId) (challengeId : Nat) (response : JsString) (label : Option JsString)
  | registrationVerified (userId : UserId) (challengeId : Nat) (credential : WebAuthnCredential)
      (label : Option JsString)
  | registrationConsumed (userId : UserId) (challengeId : Nat) (credential : WebAuthnCredential)
      (label : Option JsString)
  | removing (userId : UserId) (passkeyId : Nat)
  | methodsCounted (userId : UserId) (passkeyId : Nat)
  | returned
  | failed (status : Nat) (message : JsString)
  | stopped
  deriving DecidableEq, Repr

namespace PasskeyCall

/-- The challenge whose row is locked. -/
def challengeLock : PasskeyCall → Option Nat
  | .consumed challengeId _ _ | .counted challengeId _ _ _ | .registrationConsumed _ challengeId _ _ => some challengeId
  | _ => none

/-- The passkey whose row is locked. -/
def passkeyLock : PasskeyCall → Option Nat
  | .counted _ _ _ row => row
  | _ => none

def signInFailed : PasskeyCall := .failed 400 (js "Passkey sign-in failed or expired.")
def notAdded : PasskeyCall := .failed 400 (js "Passkey could not be added.")

/-- The process stops: an open transaction is rolled back. -/
def crash : PasskeyCall → PasskeyCall
  | .idle => .idle
  | .returned => .returned
  | .failed status message => .failed status message
  | _ => .stopped

end PasskeyCall

structure PasskeyWorld (n m : Nat) where
  auth : AuthWorld n
  db : WebAuthnDb
  calls : Fin m → PasskeyCall

inductive PasskeyLabel (n m : Nat) where
  /-- A step of the rest of the authentication system. -/
  | auth (l : AuthLabel n)
  | authenticationOptions (challenge : JsString)
  | registrationOptions (i : Fin m) (cookie : Cookie) (challenge : JsString)
  | authenticate (i : Fin m) (challengeId : Option Nat) (response : Option AuthenticationResponse)
  | register (i : Fin m) (cookie : Cookie) (challengeId : Option Nat) (response : Option JsString)
      (label : Option JsString)
  | removePasskey (i : Fin m) (cookie : Cookie) (id : Option Nat)
  | purgeChallenges
  /-- The next statement of a call. -/
  | statement (i : Fin m)
  | crash (i : Fin m)
  deriving DecidableEq, Repr

variable {n m : Nat}

namespace PasskeyWorld

/-- Before anything is issued. -/
def start (n m : Nat) (users : Table Account) (now : Nat) : PasskeyWorld n m where
  auth := .start n users now
  db := .empty
  calls _ := .idle

def now (w : PasskeyWorld n m) : Nat := w.auth.db.now

def set (w : PasskeyWorld n m) (i : Fin m) (c : PasskeyCall) : PasskeyWorld n m :=
  { w with calls := Function.update w.calls i c }

@[simp] theorem set_db (w : PasskeyWorld n m) (i : Fin m) (c : PasskeyCall) : (w.set i c).db = w.db := rfl
@[simp] theorem set_calls (w : PasskeyWorld n m) (i : Fin m) (c : PasskeyCall) :
    (w.set i c).calls = Function.update w.calls i c := rfl

/-- No call holds the lock of a challenge of this kind. -/
def ChallengesFree (w : PasskeyWorld n m) (p : Challenge → Bool) : Prop :=
  ∀ i, ((w.calls i).challengeLock.bind w.db.challenges.find?).any p = false

/-- No call holds the lock of a passkey of this kind. -/
def PasskeysFree (w : PasskeyWorld n m) (p : Passkey → Bool) : Prop :=
  ∀ i, ((w.calls i).passkeyLock.bind w.db.passkeys.find?).any p = false

instance (w : PasskeyWorld n m) (p : Challenge → Bool) : Decidable (w.ChallengesFree p) :=
  inferInstanceAs (Decidable (∀ _, _ = false))

instance (w : PasskeyWorld n m) (p : Passkey → Bool) : Decidable (w.PasskeysFree p) :=
  inferInstanceAs (Decidable (∀ _, _ = false))

/-- A call begins. -/
def begin (w : PasskeyWorld n m) (i : Fin m) (c : PasskeyCall) : PasskeyWorld n m :=
  if w.calls i = .idle then w.set i c else w

/-- A call of a route that requires a session begins. -/
def beginWith (w : PasskeyWorld n m) (i : Fin m) (cookie : Cookie) (c : PasskeyCall) : PasskeyWorld n m :=
  w.begin i <|
    if cookie ∈ w.auth.cookies then
      if requireSession cookie w.auth.db then c
      else .failed 401 (js "Your session has expired. Please sign in again.")
    else .failed 401 (js "Not signed in")

/-- `UPDATE webauthn_challenges SET used_at = NOW() WHERE id = $1 AND used_at IS NULL`, the
first statement of a transaction: a row that another transaction has locked is waited for. -/
def consume (w : PasskeyWorld n m) (i : Fin m) (challengeId : Nat) (locked unavailable : PasskeyCall) :
    PasskeyWorld n m :=
  match w.db.challenges.find? challengeId with
  | none => w.set i unavailable
  | some c =>
    if c.usedAt.isSome then w.set i unavailable
    else if Free PasskeyCall.challengeLock w.calls i challengeId then w.set i locked
    else w

end PasskeyWorld

def nextPasskeyStatement (webauthn : WebAuthn) (w : PasskeyWorld n m) (i : Fin m) : PasskeyWorld n m :=
  match w.calls i with
  | .starting userId challenge =>
    if w.auth.Unlocked userId then
      match w.db.issueChallenge (some userId) challenge .registration w.now with
      | none => w.set i (.failed 500 (js "Unable to start passkey setup."))
      | some db => { w.set i .returned with db := db }
    else w
  | .verifying challengeId response =>
    let row := (w.db.challenges.find? challengeId).filter fun c => c.purpose == .authentication && c.usable w.now
    w.set i (.challengeRead challengeId (row.map Challenge.challenge) response)
  | .challengeRead challengeId challenge response =>
    let row := (w.db.findPasskey response.id).filter fun p => (w.auth.db.activeUser? p.userId).isSome
    match challenge, row with
    | some challenge, some passkey =>
      match webauthn.verifyAuthenticationResponse response challenge passkey with
      | none => w.set i .signInFailed
      | some newCounter => w.set i (.verified challengeId passkey newCounter)
    | _, _ => w.set i .signInFailed
  | .verified challengeId passkey newCounter =>
    w.consume i challengeId (.consumed challengeId passkey newCounter) .signInFailed
  | .consumed challengeId passkey newCounter =>
    match w.db.findPasskey passkey.credentialId with
    | none => w.set i (.counted challengeId passkey newCounter none)
    | some row =>
      if Free PasskeyCall.passkeyLock w.calls i row.id then
        w.set i (.counted challengeId passkey newCounter (some row.id))
      else w
  | .counted challengeId passkey newCounter row =>
    if w.auth.Unlocked passkey.userId then
      { w.set i .returned with
        auth := authStep w.auth (.passkeyVerified passkey.userId)
        db := (w.db.useChallenges w.now fun c => c.id == challengeId).countPasskey row newCounter w.now }
    else w
  | .registering userId challengeId response label =>
    let row := (w.db.challenges.find? challengeId).filter fun c =>
      c.userId == some userId && c.purpose == .registration && c.usable w.now
    match row with
    | none => w.set i (.failed 400 (js "Passkey setup expired. Try again."))
    | some c =>
      match webauthn.verifyRegistrationResponse response c.challenge with
      | none => w.set i .notAdded
      | some credential => w.set i (.registrationVerified userId challengeId credential label)
  | .registrationVerified userId challengeId credential label =>
    w.consume i challengeId (.registrationConsumed userId challengeId credential label) .notAdded
  | .registrationConsumed userId challengeId credential label =>
    if w.auth.Unlocked userId then
      match (w.db.useChallenges w.now fun c => c.id == challengeId).addPasskey userId credential label with
      | none => w.set i .notAdded
      | some db => { w.set i .returned with db := db }
    else w
  | .removing userId passkeyId =>
    match w.auth.db.users.find? userId with
    | none => w.set i (.failed 404 (js "Account not found."))
    | some u =>
      if u.passwordHash.isNone && w.db.passkeyCount userId ≤ 1 then
        w.set i (.failed 409 (js "Add a password or another passkey before removing your final sign-in method."))
      else w.set i (.methodsCounted userId passkeyId)
  | .methodsCounted userId passkeyId =>
    match (w.db.passkeys.find? passkeyId).filter fun p => p.userId == userId with
    | none => w.set i (.failed 404 (js "Passkey not found."))
    | some _ =>
      if w.PasskeysFree fun p => p.id == passkeyId then
        { w.set i .returned with db := w.db.deletePasskeys fun p => p.id == passkeyId && p.userId == userId }
      else w
  | .idle | .returned | .failed _ _ | .stopped => w

/-- A step of the rest of the system. A password change uses the user's challenges up, and a
deletion deletes the user's challenges and passkeys; both wait for locked rows. A passkey is
verified by a ceremony only. -/
def PasskeyWorld.authStep (w : PasskeyWorld n m) (l : AuthLabel n) : PasskeyWorld n m :=
  match l with
  | .passkeyVerified _ => w
  | .deleteAccount userId anonymousEmail =>
    if w.auth.Unlocked userId ∧ (w.PasskeysFree fun p => p.userId == userId) ∧
        w.ChallengesFree fun c => c.userId == some userId then
      { w with
        auth := HostPlatform.authStep w.auth (.deleteAccount userId anonymousEmail)
        db := (w.db.deletePasskeys fun p => p.userId == userId).deleteChallenges fun c => c.userId == some userId }
    else w
  | .statement i =>
    match w.auth.calls i with
    | .passwordLocked userId _ =>
      if w.ChallengesFree fun c => c.userId == some userId && c.usedAt.isNone then
        { w with
          auth := HostPlatform.authStep w.auth (.statement i)
          db := w.db.useChallenges w.now fun c => c.userId == some userId && c.usedAt.isNone }
      else w
    | _ => { w with auth := HostPlatform.authStep w.auth (.statement i) }
  | l => { w with auth := HostPlatform.authStep w.auth l }

def passkeyStep (webauthn : WebAuthn) (w : PasskeyWorld n m) : PasskeyLabel n m → PasskeyWorld n m
  | .auth l => w.authStep l
  | .authenticationOptions challenge =>
    match w.db.issueChallenge none challenge .authentication w.now with
    | none => w
    | some db => { w with db := db }
  | .registrationOptions i cookie challenge => w.beginWith i cookie (.starting cookie.userId challenge)
  | .authenticate i challengeId response =>
    w.begin i <|
      match challengeId, response with
      | some challengeId, some response => .verifying challengeId response
      | _, _ => .signInFailed
  | .register i cookie challengeId response label =>
    w.beginWith i cookie <|
      match challengeId, response with
      | some challengeId, some response => .registering cookie.userId challengeId response label
      | _, _ => .failed 400 (js "Invalid passkey response.")
  | .removePasskey i cookie id =>
    w.beginWith i cookie <|
      match id with
      | some id => .removing cookie.userId id
      | none => .failed 400 (js "Choose a passkey to remove.")
  | .purgeChallenges =>
    if w.ChallengesFree (Challenge.outdated w.now) then
      { w with db := w.db.deleteChallenges (Challenge.outdated w.now) }
    else w
  | .statement i => nextPasskeyStatement webauthn w i
  | .crash i => w.set i (w.calls i).crash

/-- The challenge that a step answers for good: with a login token or with a new passkey. -/
def answers (w : PasskeyWorld n m) : PasskeyLabel n m → Option Nat
  | .statement i =>
    match w.calls i with
    | .counted challengeId passkey _ _ => if w.auth.Unlocked passkey.userId then some challengeId else none
    | .registrationConsumed userId challengeId credential label =>
      if w.auth.Unlocked userId ∧ ((w.db.useChallenges w.now fun c => c.id == challengeId).addPasskey userId
          credential label).isSome then some challengeId else none
    | _ => none
  | _ => none

/-- The passkey by which a step signs somebody in. -/
def signsIn (w : PasskeyWorld n m) : PasskeyLabel n m → Option (Nat × Passkey)
  | .statement i =>
    match w.calls i with
    | .counted challengeId passkey _ _ =>
      if w.auth.Unlocked passkey.userId then some (challengeId, passkey) else none
    | _ => none
  | _ => none

/-! ## What a step does -/

/-- The cookie is of a signed-in browser and its session is accepted. -/
def PasskeyWorld.SignedIn (w : PasskeyWorld n m) (cookie : Cookie) : Prop :=
  cookie ∈ w.auth.cookies ∧ requireSession cookie w.auth.db = true

/-- The user has another way to sign in than one of the passkeys. -/
def PasskeyWorld.Spare (w : PasskeyWorld n m) (userId : UserId) : Prop :=
  (∃ u, w.auth.db.users.find? userId = some u ∧ u.passwordHash.isSome) ∨ 2 ≤ w.db.passkeyCount userId

namespace PasskeyCall

/-- The call has ended. -/
def Ended : PasskeyCall → Prop
  | .idle | .returned | .failed _ _ | .stopped => True
  | _ => False

end PasskeyCall

/-- A step by which a call goes on and nothing is written. -/
inductive Follows (webauthn : WebAuthn) (w : PasskeyWorld n m) (i : Fin m) : PasskeyLabel n m → PasskeyCall → Prop
  | ends {l : PasskeyLabel n m} {c : PasskeyCall} (ended : c.Ended) : Follows webauthn w i l c
  | starts (cookie : Cookie) (challenge : JsString) :
      Follows webauthn w i (.registrationOptions i cookie challenge) (.starting cookie.userId challenge)
  | answers (challengeId : Nat) (response : AuthenticationResponse) :
      Follows webauthn w i (.authenticate i (some challengeId) (some response)) (.verifying challengeId response)
  | registers {cookie : Cookie} (signedIn : w.SignedIn cookie) (challengeId : Nat) (response : JsString)
      (label : Option JsString) :
      Follows webauthn w i (.register i cookie (some challengeId) (some response) label)
        (.registering cookie.userId challengeId response label)
  | removes {cookie : Cookie} (signedIn : w.SignedIn cookie) (passkeyId : Nat) :
      Follows webauthn w i (.removePasskey i cookie (some passkeyId)) (.removing cookie.userId passkeyId)
  | reads {challengeId : Nat} {response : AuthenticationResponse} {challenge : Option JsString}
      (call : w.calls i = .verifying challengeId response)
      (usable : ∀ text, challenge = some text → ∃ row, w.db.challenges.find? challengeId = some row ∧
        row.purpose = .authentication ∧ row.usable w.now = true ∧ row.challenge = text) :
      Follows webauthn w i (.statement i) (.challengeRead challengeId challenge response)
  | accepts {challengeId : Nat} {response : AuthenticationResponse} {challenge : JsString} {passkey : Passkey}
      {newCounter : Nat} (call : w.calls i = .challengeRead challengeId (some challenge) response)
      (found : w.db.findPasskey response.id = some passkey) (active : (w.auth.db.activeUser? passkey.userId).isSome)
      (verified : webauthn.verifyAuthenticationResponse response challenge passkey = some newCounter) :
      Follows webauthn w i (.statement i) (.verified challengeId passkey newCounter)
  | consumes {challengeId : Nat} {passkey : Passkey} {newCounter : Nat}
      (call : w.calls i = .verified challengeId passkey newCounter)
      (unused : ∃ row, w.db.challenges.find? challengeId = some row ∧ row.usedAt = none)
      (free : Free PasskeyCall.challengeLock w.calls i challengeId) :
      Follows webauthn w i (.statement i) (.consumed challengeId passkey newCounter)
  | counts {challengeId : Nat} {passkey : Passkey} {newCounter : Nat} (row : Option Nat)
      (call : w.calls i = .consumed challengeId passkey newCounter) :
      Follows webauthn w i (.statement i) (.counted challengeId passkey newCounter row)
  | registrationAccepts {userId : UserId} {challengeId : Nat} {response : JsString} {label : Option JsString}
      {row : Challenge} {credential : WebAuthnCredential}
      (call : w.calls i = .registering userId challengeId response label)
      (found : w.db.challenges.find? challengeId = some row) (own : row.userId = some userId)
      (purpose : row.purpose = .registration) (usable : row.usable w.now = true)
      (verified : webauthn.verifyRegistrationResponse response row.challenge = some credential) :
      Follows webauthn w i (.statement i) (.registrationVerified userId challengeId credential label)
  | registrationConsumes {userId : UserId} {challengeId : Nat} {credential : WebAuthnCredential}
      {label : Option JsString} (call : w.calls i = .registrationVerified userId challengeId credential label)
      (unused : ∃ row, w.db.challenges.find? challengeId = some row ∧ row.usedAt = none)
      (free : Free PasskeyCall.challengeLock w.calls i challengeId) :
      Follows webauthn w i (.statement i) (.registrationConsumed userId challengeId credential label)
  | countsMethods {userId : UserId} {passkeyId : Nat} (call : w.calls i = .removing userId passkeyId)
      (spare : w.Spare userId) : Follows webauthn w i (.statement i) (.methodsCounted userId passkeyId)

inductive PasskeyMove (webauthn : WebAuthn) (w : PasskeyWorld n m) : PasskeyLabel n m → PasskeyWorld n m → Prop
  | stays {l : PasskeyLabel n m} (quiet : answers w l = none) : PasskeyMove webauthn w l w
  | moves {l : PasskeyLabel n m} {i : Fin m} {c : PasskeyCall} (quiet : answers w l = none)
      (follows : Follows webauthn w i l c) : PasskeyMove webauthn w l (w.set i c)
  | auth (l : AuthLabel n) : PasskeyMove webauthn w (.auth l) { w with auth := authStep w.auth l }
  | changesPassword (l : AuthLabel n) {p : Challenge → Bool} (free : w.ChallengesFree p) :
      PasskeyMove webauthn w (.auth l)
        { w with auth := authStep w.auth l, db := w.db.useChallenges w.now p }
  | deletes (userId : UserId) (anonymousEmail : JsString) (unlocked : w.auth.Unlocked userId)
      (free : w.ChallengesFree fun c => c.userId == some userId) :
      PasskeyMove webauthn w (.auth (.deleteAccount userId anonymousEmail))
        { w with
          auth := authStep w.auth (.deleteAccount userId anonymousEmail)
          db := (w.db.deletePasskeys fun p => p.userId == userId).deleteChallenges fun c => c.userId == some userId }
  | purges {p : Challenge → Bool} (free : w.ChallengesFree p) :
      PasskeyMove webauthn w .purgeChallenges { w with db := w.db.deleteChallenges p }
  | asks {challenge : JsString} {db : WebAuthnDb}
      (issued : w.db.issueChallenge none challenge .authentication w.now = some db) :
      PasskeyMove webauthn w (.authenticationOptions challenge) { w with db := db }
  | asksOwner {i : Fin m} {userId : UserId} {challenge : JsString} {db : WebAuthnDb}
      (call : w.calls i = .starting userId challenge)
      (issued : w.db.issueChallenge (some userId) challenge .registration w.now = some db) :
      PasskeyMove webauthn w (.statement i) { w.set i .returned with db := db }
  | signsIn {i : Fin m} {challengeId : Nat} {passkey : Passkey} {newCounter : Nat} {row : Option Nat}
      (call : w.calls i = .counted challengeId passkey newCounter row)
      (answered : answers w (.statement i) = some challengeId) :
      PasskeyMove webauthn w (.statement i)
        { w.set i .returned with
          auth := authStep w.auth (.passkeyVerified passkey.userId)
          db := (w.db.useChallenges w.now fun c => c.id == challengeId).countPasskey row newCounter w.now }
  | adds {i : Fin m} {userId : UserId} {challengeId : Nat} {credential : WebAuthnCredential}
      {label : Option JsString} {db : WebAuthnDb}
      (call : w.calls i = .registrationConsumed userId challengeId credential label)
      (answered : answers w (.statement i) = some challengeId)
      (added : (w.db.useChallenges w.now fun c => c.id == challengeId).addPasskey userId credential label = some db) :
      PasskeyMove webauthn w (.statement i) { w.set i .returned with db := db }
  | removes {i : Fin m} {userId : UserId} {passkeyId : Nat} (call : w.calls i = .methodsCounted userId passkeyId) :
      PasskeyMove webauthn w (.statement i)
        { w.set i .returned with db := w.db.deletePasskeys fun p => p.id == passkeyId && p.userId == userId }

section

variable {webauthn : WebAuthn} {w : PasskeyWorld n m} {i : Fin m}

theorem PasskeyCall.ended_crash (c : PasskeyCall) : c.crash.Ended := by
  cases c <;> trivial

theorem passkey_begin_move {l : PasskeyLabel n m} {c : PasskeyCall} (quiet : answers w l = none)
    (follows : Follows webauthn w i l c) : PasskeyMove webauthn w l (w.begin i c) := by
  unfold PasskeyWorld.begin
  split
  · exact .moves quiet follows
  · exact .stays quiet

theorem passkey_beginWith_move {l : PasskeyLabel n m} {cookie : Cookie} {c : PasskeyCall} (quiet : answers w l = none)
    (follows : w.SignedIn cookie → Follows webauthn w i l c) : PasskeyMove webauthn w l (w.beginWith i cookie c) := by
  unfold PasskeyWorld.beginWith
  split
  case isTrue hcookie =>
    split
    case isTrue hsession => exact passkey_begin_move quiet (follows ⟨hcookie, hsession⟩)
    case isFalse => exact passkey_begin_move quiet (.ends trivial)
  case isFalse => exact passkey_begin_move quiet (.ends trivial)

theorem consume_move {challengeId : Nat} {locked unavailable : PasskeyCall} {l : PasskeyLabel n m}
    (quiet : answers w l = none) (ended : unavailable.Ended)
    (follows : (∃ row, w.db.challenges.find? challengeId = some row ∧ row.usedAt = none) →
      Free PasskeyCall.challengeLock w.calls i challengeId → Follows webauthn w i l locked) :
    PasskeyMove webauthn w l (w.consume i challengeId locked unavailable) := by
  unfold PasskeyWorld.consume
  cases hfind : w.db.challenges.find? challengeId with
  | none => exact .moves quiet (.ends ended)
  | some row =>
    simp only
    split
    case isTrue => exact .moves quiet (.ends ended)
    case isFalse hunused =>
      split
      case isTrue hfree => exact .moves quiet (follows ⟨row, hfind, by simpa using hunused⟩ hfree)
      case isFalse => exact .stays quiet

theorem spare_of_counted {userId : UserId} {u : Account} (hfind : w.auth.db.users.find? userId = some u)
    (h : ¬ (u.passwordHash.isNone && decide (w.db.passkeyCount userId ≤ 1)) = true) : w.Spare userId := by
  simp only [Bool.and_eq_true, Option.isNone_iff_eq_none, decide_eq_true_eq, not_and_or] at h
  rcases h with hpassword | hcount
  · exact .inl ⟨u, hfind, Option.isSome_iff_ne_none.mpr hpassword⟩
  · exact .inr (by omega)

theorem nextPasskeyStatement_move (webauthn : WebAuthn) (w : PasskeyWorld n m) (i : Fin m) :
    PasskeyMove webauthn w (.statement i) (nextPasskeyStatement webauthn w i) := by
  unfold nextPasskeyStatement
  split
  case h_1 userId challenge hcall =>
    have quiet : answers w (.statement i) = none := by simp only [answers, hcall]
    split
    · split
      · exact .moves quiet (.ends trivial)
      case h_2 hissued => exact .asksOwner hcall hissued
    · exact .stays quiet
  case h_2 challengeId response hcall =>
    refine .moves (by simp only [answers, hcall]) (.reads hcall fun text htext => ?_)
    obtain ⟨row, hrow, rfl⟩ := Option.map_eq_some_iff.mp htext
    obtain ⟨hfind, hcheck⟩ := Option.filter_eq_some_iff.mp hrow
    simp only [Bool.and_eq_true, beq_iff_eq] at hcheck
    exact ⟨row, hfind, hcheck.1, hcheck.2, rfl⟩
  case h_3 challengeId challenge response hcall =>
    have quiet : answers w (.statement i) = none := by simp only [answers, hcall]
    simp only
    split
    case h_1 text passkey _ hrow =>
      obtain ⟨hfound, hactive⟩ := Option.filter_eq_some_iff.mp hrow
      split
      · exact .moves quiet (.ends trivial)
      case h_2 hverified => exact .moves quiet (.accepts hcall hfound hactive hverified)
    · exact .moves quiet (.ends trivial)
  case h_4 challengeId passkey newCounter hcall =>
    exact consume_move (by simp only [answers, hcall]) trivial (.consumes hcall)
  case h_5 challengeId passkey newCounter hcall =>
    have quiet : answers w (.statement i) = none := by simp only [answers, hcall]
    split
    · exact .moves quiet (.counts none hcall)
    case h_2 row _ =>
      split
      · exact .moves quiet (.counts (some row.id) hcall)
      · exact .stays quiet
  case h_6 challengeId passkey newCounter row hcall =>
    split
    case isTrue hunlocked => exact .signsIn hcall (by simp only [answers, hcall, hunlocked, if_true])
    case isFalse hlocked => exact .stays (by simp only [answers, hcall, hlocked, if_false])
  case h_7 userId challengeId response label hcall =>
    have quiet : answers w (.statement i) = none := by simp only [answers, hcall]
    simp only
    split
    · exact .moves quiet (.ends trivial)
    case h_2 row hrow =>
      obtain ⟨hfind, hcheck⟩ := Option.filter_eq_some_iff.mp hrow
      simp only [Bool.and_eq_true, beq_iff_eq] at hcheck
      split
      · exact .moves quiet (.ends trivial)
      case h_2 hverified =>
        exact .moves quiet (.registrationAccepts hcall hfind hcheck.1.1 hcheck.1.2 hcheck.2 hverified)
  case h_8 userId challengeId credential label hcall =>
    exact consume_move (by simp only [answers, hcall]) trivial (.registrationConsumes hcall)
  case h_9 userId challengeId credential label hcall =>
    split
    case isTrue hunlocked =>
      split
      case h_1 hadded => exact .moves (by simp [answers, hcall, hadded]) (.ends trivial)
      case h_2 hadded => exact .adds hcall (by simp [answers, hcall, hunlocked, hadded]) hadded
    case isFalse hlocked => exact .stays (by simp [answers, hcall, hlocked])
  case h_10 userId passkeyId hcall =>
    have quiet : answers w (.statement i) = none := by simp only [answers, hcall]
    split
    · exact .moves quiet (.ends trivial)
    case h_2 u hfind =>
      split
      case isTrue => exact .moves quiet (.ends trivial)
      case isFalse hmethods => exact .moves quiet (.countsMethods hcall (spare_of_counted hfind hmethods))
  case h_11 userId passkeyId hcall =>
    have quiet : answers w (.statement i) = none := by simp only [answers, hcall]
    split
    · exact .moves quiet (.ends trivial)
    · split
      · exact .removes hcall
      · exact .stays quiet
  all_goals
    rename_i hcall
    exact .stays (by simp only [answers, hcall])

theorem authStep_passkey_move (webauthn : WebAuthn) (w : PasskeyWorld n m) (l : AuthLabel n) :
    PasskeyMove webauthn w (.auth l) (w.authStep l) := by
  unfold PasskeyWorld.authStep
  split
  · exact .stays rfl
  · split
    case isTrue hfree => exact .deletes _ _ hfree.1 hfree.2.2
    case isFalse => exact .stays rfl
  · split
    · split
      case isTrue hfree => exact .changesPassword _ hfree
      case isFalse => exact .stays rfl
    · exact .auth _
  · exact .auth _

theorem passkeyStep_move (webauthn : WebAuthn) (w : PasskeyWorld n m) (l : PasskeyLabel n m) :
    PasskeyMove webauthn w l (passkeyStep webauthn w l) := by
  cases l with
  | auth l => exact authStep_passkey_move webauthn w l
  | authenticationOptions challenge =>
    simp only [passkeyStep]
    split
    · exact .stays rfl
    case h_2 hissued => exact .asks hissued
  | registrationOptions i cookie challenge => exact passkey_beginWith_move rfl fun _ => .starts cookie challenge
  | authenticate i challengeId response =>
    refine passkey_begin_move rfl ?_
    split
    · exact .answers _ _
    · exact .ends trivial
  | register i cookie challengeId response label =>
    refine passkey_beginWith_move rfl fun hsignedIn => ?_
    split
    · exact .registers hsignedIn _ _ label
    · exact .ends trivial
  | removePasskey i cookie id =>
    refine passkey_beginWith_move rfl fun hsignedIn => ?_
    split
    · exact .removes hsignedIn _
    · exact .ends trivial
  | purgeChallenges =>
    simp only [passkeyStep]
    split
    case isTrue hfree => exact .purges hfree
    case isFalse => exact .stays rfl
  | statement i => exact nextPasskeyStatement_move webauthn w i
  | crash i => exact .moves rfl (.ends (PasskeyCall.ended_crash _))

/-- The rest of the system takes steps of its own only: a sign-in by a passkey is its step of a
verified passkey. -/
theorem passkeyRun_auth (webauthn : WebAuthn) (w : PasskeyWorld n m) (as : List (PasskeyLabel n m)) :
    ∃ labels, (Lib.Transition.run (passkeyStep webauthn) w as).auth = Lib.Transition.run authStep w.auth labels := by
  induction as generalizing w with
  | nil => exact ⟨[], rfl⟩
  | cons l as ih =>
    obtain ⟨labels, hlabels⟩ := ih (passkeyStep webauthn w l)
    rw [Lib.Transition.run_cons, hlabels]
    have hmove := passkeyStep_move webauthn w l
    generalize passkeyStep webauthn w l = w' at hmove
    cases hmove with
    | stays | moves | purges | asks | asksOwner | adds | removes => exact ⟨labels, rfl⟩
    | auth a | changesPassword a => exact ⟨a :: labels, rfl⟩
    | deletes userId anonymousEmail => exact ⟨.deleteAccount userId anonymousEmail :: labels, rfl⟩
    | @signsIn i challengeId passkey => exact ⟨.passkeyVerified passkey.userId :: labels, rfl⟩

end

end HostPlatform
