-- SUMMARY: A WebAuthn challenge is answered at most once, and every sign-in with a passkey goes back to a registration by its owner and to an answer that verifies.
import HostPlatform.Auth.Passkeys

/-!
# Ceremonies

The update that uses a challenge up holds the lock of its row to the end of the transaction,
so that no other transaction sees the row unused and takes it. What a call has read and
verified stays true of the past of the run.
-/

namespace HostPlatform

open Lib (Exclusive Free JsString Table js)
open Lib.Transition

variable {n m : Nat}

/-! ## The tables -/

/-- What a step does to the tables: rows are used up or deleted, or one is drawn. -/
structure WebAuthnDb.Step (now : Nat) (db db' : WebAuthnDb) : Prop where
  drawn : db.drawn ≤ db'.drawn
  challenge : ∀ k row', db'.challenges.find? k = some row' →
    (∃ row, db.challenges.find? k = some row ∧ (row' = row ∨ row' = row.use now)) ∨
      k = db.drawn ∧ row'.expiresAt = now + minutes 10

/-- Every passkey is one that was there, up to its counter. -/
def WebAuthnDb.KeysFrom (db db' : WebAuthnDb) : Prop :=
  ∀ p' ∈ db'.passkeys.rows, ∃ p ∈ db.passkeys.rows,
    p'.userId = p.userId ∧ p'.credentialId = p.credentialId ∧ p'.publicKey = p.publicKey

/-- The challenge can be used up. -/
def WebAuthnDb.Unused (db : WebAuthnDb) (k : Nat) : Prop :=
  ∃ row, db.challenges.find? k = some row ∧ row.usedAt = none

namespace WebAuthnDb

variable {db db' db'' : WebAuthnDb} {now k : Nat}

namespace Step

theorem refl (now : Nat) (db : WebAuthnDb) : Step now db db :=
  ⟨le_refl _, fun _ row' h => .inl ⟨row', h, .inl rfl⟩⟩

theorem useChallenges (now : Nat) (db : WebAuthnDb) (p : Challenge → Bool) :
    Step now db (db.useChallenges now p) where
  drawn := le_refl _
  challenge k row' h := by
    left
    simp only [WebAuthnDb.useChallenges, setChallenges, Table.find?_updateWhere, Option.map_eq_some_iff] at h
    obtain ⟨row, hrow, rfl⟩ := h
    refine ⟨row, hrow, ?_⟩
    split
    · exact .inr rfl
    · exact .inl rfl

theorem deleteChallenges (now : Nat) (db : WebAuthnDb) (p : Challenge → Bool) :
    Step now db (db.deleteChallenges p) where
  drawn := le_refl _
  challenge _ row' h := .inl ⟨row', (Table.find?_deleteWhere_eq_some.mp h).1, .inl rfl⟩

theorem issueChallenge {userId : Option UserId} {challenge : JsString} {purpose : ChallengePurpose}
    (h : db.issueChallenge userId challenge purpose now = some db') : Step now db db' := by
  unfold WebAuthnDb.issueChallenge at h
  split at h
  · cases h
  · cases h
    refine ⟨Nat.le_succ _, fun k row' hrow => ?_⟩
    simp only [Table.find?_insert] at hrow
    split at hrow
    case isTrue hk =>
      cases hrow
      exact .inr ⟨hk, rfl⟩
    case isFalse => exact .inl ⟨row', hrow, .inl rfl⟩

/-- A statement that leaves the challenges alone. -/
theorem then_same (h : Step now db db') (hdrawn : db'.drawn ≤ db''.drawn) (hsame : db''.challenges = db'.challenges) :
    Step now db db'' :=
  ⟨h.drawn.trans hdrawn, fun k row' hrow => h.challenge k row' (hsame ▸ hrow)⟩

end Step

theorem KeysFrom.refl (db : WebAuthnDb) : KeysFrom db db :=
  fun p hp => ⟨p, hp, rfl, rfl, rfl⟩

theorem KeysFrom.deletePasskeys (db : WebAuthnDb) (p : Passkey → Bool) : KeysFrom db (db.deletePasskeys p) :=
  fun q hq => ⟨q, List.mem_of_mem_filter hq, rfl, rfl, rfl⟩

theorem KeysFrom.countPasskey (db : WebAuthnDb) (row : Option Nat) (newCounter now : Nat) :
    KeysFrom db (db.countPasskey row newCounter now) := by
  intro q hq
  obtain ⟨p, hp, rfl⟩ := (Table.mem_updateWhere (Passkey.key_count newCounter now)).mp hq
  refine ⟨p, hp, ?_⟩
  split
  · exact ⟨rfl, rfl, rfl⟩
  · exact ⟨rfl, rfl, rfl⟩

/-- A new passkey is the verified credential of its user. -/
theorem mem_of_addPasskey {userId : UserId} {credential : WebAuthnCredential} {label : Option JsString}
    (h : db.addPasskey userId credential label = some db') {p : Passkey} (hp : p ∈ db'.passkeys.rows) :
    p ∈ db.passkeys.rows ∨
      p.userId = userId ∧ p.credentialId = credential.id ∧ p.publicKey = credential.publicKey := by
  unfold addPasskey at h
  split at h
  · cases h
  · cases h
    refine (List.mem_append.mp hp).imp_right fun hnew => ?_
    rw [List.mem_singleton.mp hnew]
    exact ⟨rfl, rfl, rfl⟩

namespace Unused

theorem useChallenges (h : db.Unused k) (now : Nat) {p : Challenge → Bool}
    (hp : ∀ row, db.challenges.find? k = some row → p row = false) : (db.useChallenges now p).Unused k := by
  obtain ⟨row, hrow, hunused⟩ := h
  refine ⟨row, ?_, hunused⟩
  simp [WebAuthnDb.useChallenges, setChallenges, hrow, hp row hrow]

theorem deleteChallenges (h : db.Unused k) {p : Challenge → Bool}
    (hp : ∀ row, db.challenges.find? k = some row → p row = false) : (db.deleteChallenges p).Unused k := by
  obtain ⟨row, hrow, hunused⟩ := h
  exact ⟨row, Table.find?_deleteWhere_eq_some.mpr ⟨hrow, hp row hrow⟩, hunused⟩

theorem issueChallenge (h : db.Unused k) {userId : Option UserId} {challenge : JsString}
    {purpose : ChallengePurpose} (hissued : db.issueChallenge userId challenge purpose now = some db') :
    db'.Unused k := by
  obtain ⟨row, hrow, hunused⟩ := h
  have hlt := db.challenge_lt row (Table.mem_of_find? hrow)
  have hid : row.id = k := Table.key_of_find? hrow
  unfold WebAuthnDb.issueChallenge at hissued
  split at hissued
  · cases hissued
  · cases hissued
    refine ⟨row, ?_, hunused⟩
    rw [Table.find?_insert, if_neg fun hk => ?_]
    · exact hrow
    · exact absurd (hid.trans hk) (Nat.ne_of_lt hlt)

end Unused

end WebAuthnDb

theorem passkeyStep_db (webauthn : WebAuthn) (w : PasskeyWorld n m) (l : PasskeyLabel n m) :
    w.db.Step w.now (passkeyStep webauthn w l).db := by
  have hmove := passkeyStep_move webauthn w l
  generalize passkeyStep webauthn w l = w' at hmove
  cases hmove with
  | stays | moves | auth => exact .refl _ _
  | changesPassword => exact .useChallenges _ _ _
  | deletes userId =>
    have h := WebAuthnDb.Step.deleteChallenges w.now (w.db.deletePasskeys fun p => p.userId == userId)
      fun c => c.userId == some userId
    exact ⟨h.drawn, h.challenge⟩
  | purges => exact .deleteChallenges _ _ _
  | asks issued => exact .issueChallenge issued
  | asksOwner _ issued => exact .issueChallenge issued
  | signsIn => exact (WebAuthnDb.Step.useChallenges _ _ _).then_same (le_refl _) rfl
  | adds _ _ added =>
    obtain ⟨hsame, hdrawn⟩ := WebAuthnDb.addPasskey_frame added
    exact (WebAuthnDb.Step.useChallenges _ _ _).then_same ((Nat.le_succ _).trans hdrawn.ge) hsame
  | removes => exact (WebAuthnDb.Step.refl _ _).then_same (le_refl _) rfl

/-! ## Locks -/

/-- Whoever holds the lock of a challenge holds it alone, and the challenge is unused. -/
structure PasskeyInv (w : PasskeyWorld n m) : Prop where
  locks : Exclusive PasskeyCall.challengeLock w.calls
  unused : ∀ i k, (w.calls i).challengeLock = some k → w.db.Unused k

namespace PasskeyInv

variable {webauthn : WebAuthn} {w : PasskeyWorld n m}

theorem start (users : Table Account) (now : Nat) : PasskeyInv (.start n m users now) where
  locks := Lib.exclusive_of_none fun _ => rfl
  unused i k h := by cases h

/-- No call moves; the challenges of the calls that hold locks stay unused. -/
theorem apart (h : PasskeyInv w) {auth : AuthWorld n} {db : WebAuthnDb}
    (hunused : ∀ i k, (w.calls i).challengeLock = some k → w.db.Unused k → db.Unused k) :
    PasskeyInv ⟨auth, db, w.calls⟩ :=
  ⟨h.locks, fun i k hk => hunused i k hk (h.unused i k hk)⟩

/-- A call ends; what the others hold stays unused. -/
theorem ended (h : PasskeyInv w) {i : Fin m} {c : PasskeyCall} (hc : c.challengeLock = none) {auth : AuthWorld n}
    {db : WebAuthnDb}
    (hunused : ∀ j k, j ≠ i → (w.calls j).challengeLock = some k → w.db.Unused k → db.Unused k) :
    PasskeyInv ⟨auth, db, Function.update w.calls i c⟩ where
  locks := h.locks.update fun k hk => by rw [hc] at hk; cases hk
  unused j k hk := by
    simp only [Function.update_apply] at hk
    split at hk
    case isTrue =>
      rw [hc] at hk
      cases hk
    case isFalse hj => exact hunused j k hj hk (h.unused j k hk)

/-- A call goes on with the lock it has, or with one that is free. -/
theorem goesOn (h : PasskeyInv w) {i : Fin m} {c : PasskeyCall}
    (hlock : ∀ k, c.challengeLock = some k → (w.calls i).challengeLock = some k ∨
      Free PasskeyCall.challengeLock w.calls i k ∧ w.db.Unused k) : PasskeyInv (w.set i c) where
  locks := h.locks.update fun k hk => (hlock k hk).imp_right And.left
  unused j k hk := by
    simp only [PasskeyWorld.set_calls, Function.update_apply] at hk
    split at hk
    case isTrue => exact (hlock k hk).elim (h.unused i k) And.right
    case isFalse => exact h.unused j k hk

theorem challengeLock_of_ended {c : PasskeyCall} (h : c.Ended) : c.challengeLock = none := by
  cases c with
  | idle | returned | failed | stopped => rfl
  | _ => cases h

theorem follows (h : PasskeyInv w) {l : PasskeyLabel n m} {i : Fin m} {c : PasskeyCall}
    (hfollows : Follows webauthn w i l c) : PasskeyInv (w.set i c) := by
  refine h.goesOn fun k hk => ?_
  cases hfollows with
  | ends ended =>
    rw [challengeLock_of_ended ended] at hk
    cases hk
  | consumes _ unused free | registrationConsumes _ unused free =>
    cases hk
    exact .inr ⟨free, unused⟩
  | counts _ call =>
    cases hk
    exact .inl (by rw [call]; rfl)
  | _ => cases hk

theorem eq_false_of_free {p : Challenge → Bool} (hfree : w.ChallengesFree p) {i : Fin m} {k : Nat}
    (hk : (w.calls i).challengeLock = some k) {row : Challenge} (hrow : w.db.challenges.find? k = some row) :
    p row = false := by
  have := hfree i
  rwa [hk, Option.bind_some, hrow, Option.any_some] at this

theorem step (h : PasskeyInv w) (webauthn : WebAuthn) (l : PasskeyLabel n m) :
    PasskeyInv (passkeyStep webauthn w l) := by
  have hmove := passkeyStep_move webauthn w l
  generalize passkeyStep webauthn w l = w' at hmove
  cases hmove with
  | stays => exact h
  | moves _ hfollows => exact h.follows hfollows
  | auth => exact h.apart fun _ _ _ => id
  | changesPassword _ hfree =>
    exact h.apart fun i k hk hunused => hunused.useChallenges w.now fun row hrow => eq_false_of_free hfree hk hrow
  | deletes userId _ _ hfree =>
    refine h.apart fun i k hk hunused => ?_
    have hleft : (w.db.deletePasskeys fun p => p.userId == userId).Unused k := hunused
    exact hleft.deleteChallenges fun row hrow => eq_false_of_free hfree hk hrow
  | purges hfree =>
    exact h.apart fun i k hk hunused => hunused.deleteChallenges fun row hrow => eq_false_of_free hfree hk hrow
  | asks issued => exact h.apart fun _ _ _ hunused => hunused.issueChallenge issued
  | asksOwner _ issued => exact h.ended rfl fun _ _ _ _ hunused => hunused.issueChallenge issued
  | @signsIn i challengeId _ _ _ call =>
    refine h.ended rfl fun j k hj hk hunused => ?_
    have hother : ∀ row, w.db.challenges.find? k = some row → (row.id == challengeId) = false := by
      intro row hrow
      have hid : row.id = k := Table.key_of_find? hrow
      refine beq_eq_false_iff_ne.mpr fun heq => hj (h.locks i challengeId (by rw [call]; rfl) j ?_)
      rw [hk, ← hid, heq]
    exact hunused.useChallenges w.now hother
  | @adds i _ challengeId _ _ db call _ added =>
    refine h.ended rfl fun j k hj hk hunused => ?_
    have hother : ∀ row, w.db.challenges.find? k = some row → (row.id == challengeId) = false := by
      intro row hrow
      have hid : row.id = k := Table.key_of_find? hrow
      refine beq_eq_false_iff_ne.mpr fun heq => hj (h.locks i challengeId (by rw [call]; rfl) j ?_)
      rw [hk, ← hid, heq]
    obtain ⟨row, hrow, hnone⟩ := hunused.useChallenges w.now hother
    exact ⟨row, (WebAuthnDb.addPasskey_frame added).1 ▸ hrow, hnone⟩
  | removes => exact h.ended rfl fun _ _ _ _ => id

theorem run (webauthn : WebAuthn) (users : Table Account) (now : Nat) (as : List (PasskeyLabel n m)) :
    PasskeyInv (run (passkeyStep webauthn) (.start n m users now) as) :=
  run_invariant' (fun _ l h => h.step webauthn l) (.start users now) as

end PasskeyInv

/-! ## Answered once -/

/-- The challenge has been drawn and can no longer be used up. -/
def WebAuthnDb.Spent (db : WebAuthnDb) (k : Nat) : Prop :=
  k < db.drawn ∧ ∀ row, db.challenges.find? k = some row → row.usedAt.isSome

theorem WebAuthnDb.Spent.step {db db' : WebAuthnDb} {now k : Nat} (h : db.Spent k) (hstep : db.Step now db') :
    db'.Spent k := by
  refine ⟨lt_of_lt_of_le h.1 hstep.drawn, fun row' hrow' => ?_⟩
  rcases hstep.challenge k row' hrow' with ⟨row, hrow, rfl | rfl⟩ | ⟨rfl, -⟩
  · exact h.2 row' hrow
  · rfl
  · exact absurd h.1 (lt_irrefl _)

theorem WebAuthnDb.Unused.not_spent {db : WebAuthnDb} {k : Nat} (h : db.Unused k) : ¬ db.Spent k := by
  rintro ⟨-, hused⟩
  obtain ⟨row, hrow, hnone⟩ := h
  have := hused row hrow
  rw [hnone] at this
  cases this

theorem WebAuthnDb.Unused.spent_of_use {db db' : WebAuthnDb} {now k : Nat} (h : db.Unused k)
    (hdrawn : db.drawn ≤ db'.drawn)
    (hsame : db'.challenges = (db.useChallenges now fun c => c.id == k).challenges) : db'.Spent k := by
  obtain ⟨row, hrow, -⟩ := h
  have hid : row.id = k := Table.key_of_find? hrow
  refine ⟨?_, fun row' hrow' => ?_⟩
  · exact lt_of_lt_of_le (hid ▸ db.challenge_lt row (Table.mem_of_find? hrow)) hdrawn
  · rw [hsame] at hrow'
    simp only [WebAuthnDb.useChallenges, WebAuthnDb.setChallenges, Table.find?_updateWhere, hrow, Option.map_some,
      hid, BEq.rfl, if_true, Option.some.injEq] at hrow'
    rw [← hrow']
    rfl

/-- What a step answers is unused before and spent after. -/
theorem answers_spends (webauthn : WebAuthn) {w : PasskeyWorld n m} (h : PasskeyInv w) {l : PasskeyLabel n m}
    {challengeId : Nat} (hanswers : answers w l = some challengeId) :
    w.db.Unused challengeId ∧ (passkeyStep webauthn w l).db.Spent challengeId := by
  have hmove := passkeyStep_move webauthn w l
  generalize passkeyStep webauthn w l = w' at hmove
  cases hmove with
  | stays quiet | moves quiet =>
    rw [quiet] at hanswers
    cases hanswers
  | auth | changesPassword | deletes | purges | asks => cases hanswers
  | asksOwner call | removes call => simp [answers, call] at hanswers
  | @signsIn i _ _ _ _ call answered =>
    cases answered.symm.trans hanswers
    have hunused := h.unused i challengeId (by rw [call]; rfl)
    exact ⟨hunused, hunused.spent_of_use (le_refl _) rfl⟩
  | @adds i _ _ _ _ db call answered added =>
    cases answered.symm.trans hanswers
    have hunused := h.unused i challengeId (by rw [call]; rfl)
    obtain ⟨hsame, hdrawn⟩ := WebAuthnDb.addPasskey_frame added
    exact ⟨hunused, hunused.spent_of_use ((Nat.le_succ _).trans hdrawn.ge) hsame⟩

/-- Over any interleaving of calls, password changes, deletions, purges and crashes, a
challenge lets somebody in or adds a passkey at most once, whatever it was drawn for. -/
theorem challenge_answered_once (webauthn : WebAuthn) (users : Table Account) (now : Nat)
    (as : List (PasskeyLabel n m)) :
    (collect (passkeyStep webauthn) answers (.start n m users now) as).Nodup := by
  have hrun : (collect (passkeyStep webauthn) answers (.start n m users now) as).Nodup ∧
      ∀ k ∈ collect (passkeyStep webauthn) answers (.start n m users now) as,
        (run (passkeyStep webauthn) (.start n m users now) as).db.Spent k := by
    induction as using List.reverseRecOn with
    | nil => exact ⟨List.nodup_nil, fun k hk => absurd hk List.not_mem_nil⟩
    | append_singleton as l ih =>
      obtain ⟨hnodup, hspent⟩ := ih
      have hinv := PasskeyInv.run webauthn users now as
      rw [collect_concat, run_concat]
      have hkept : ∀ k ∈ collect (passkeyStep webauthn) answers (.start n m users now) as,
          (passkeyStep webauthn (run (passkeyStep webauthn) (.start n m users now) as) l).db.Spent k :=
        fun k hk => (hspent k hk).step (passkeyStep_db webauthn _ l)
      cases hanswers : answers (run (passkeyStep webauthn) (.start n m users now) as) l with
      | none =>
        rw [Option.toList_none, List.append_nil]
        exact ⟨hnodup, hkept⟩
      | some challengeId =>
        obtain ⟨hunused, hnow⟩ := answers_spends webauthn hinv hanswers
        rw [Option.toList_some]
        refine ⟨List.nodup_append.mpr ⟨hnodup, List.nodup_singleton _, fun a ha b hb hab => ?_⟩, fun k hk => ?_⟩
        · cases List.mem_singleton.mp hb
          exact hunused.not_spent (hspent _ (hab ▸ ha))
        · rcases List.mem_append.mp hk with hk | hk
          · exact hkept k hk
          · rw [List.mem_singleton.mp hk]
            exact hnow
  exact hrun.1

/-! ## Where a sign-in comes from -/

/-- The sign-in may read this challenge. -/
def PasskeyWorld.Readable (w : PasskeyWorld n m) (row : Challenge) : Prop :=
  w.db.challenges.find? row.id = some row ∧ row.purpose = .authentication ∧ row.usable w.now = true

/-- The next challenge, if it is drawn now. -/
def PasskeyWorld.Draws (w : PasskeyWorld n m) (row : Challenge) : Prop :=
  row.id = w.db.drawn ∧ row.expiresAt = w.now + minutes 10

/-- The passkey of this credential, with an active owner. -/
def PasskeyWorld.Holds (w : PasskeyWorld n m) (x : JsString × Passkey) : Prop :=
  w.db.findPasskey x.1 = some x.2 ∧ (w.auth.db.activeUser? x.2.userId).isSome

/-- The user, signed in, sent an answer to this challenge. -/
def PasskeyWorld.Registers (userId : UserId) (challengeId : Nat) (w : PasskeyWorld n m) (l : PasskeyLabel n m)
    (response : JsString) : Prop :=
  ∃ i cookie label, l = .register i cookie (some challengeId) (some response) label ∧ w.SignedIn cookie ∧
    cookie.userId = userId

/-- The registration may read this challenge of the user. -/
def PasskeyWorld.Offers (userId : UserId) (w : PasskeyWorld n m) (row : Challenge) : Prop :=
  w.db.challenges.find? row.id = some row ∧ row.userId = some userId ∧ row.purpose = .registration ∧
    row.usable w.now = true

section

variable (webauthn : WebAuthn) (s : PasskeyWorld n m) (as : List (PasskeyLabel n m))

/-- The user, signed in, answered a challenge of their own with this credential. -/
def Enrolled (userId : UserId) (credential : WebAuthnCredential) : Prop :=
  ∃ row response, Once (passkeyStep webauthn) (PasskeyWorld.Offers userId) s as row ∧
    Did (passkeyStep webauthn) (PasskeyWorld.Registers userId row.id) s as response ∧
    webauthn.verifyRegistrationResponse response row.challenge = some credential

/-- Somebody answered a sign-in challenge, at most ten minutes after it was drawn, by a passkey
that its owner enrolled. -/
def Authenticated (challengeId : Nat) (passkey : Passkey) : Prop :=
  ∃ row response newCounter, row.id = challengeId ∧ Once (passkeyStep webauthn) PasskeyWorld.Draws s as row ∧
    Once (passkeyStep webauthn) PasskeyWorld.Readable s as row ∧
    Once (passkeyStep webauthn) PasskeyWorld.Holds s as (response.id, passkey) ∧
    webauthn.verifyAuthenticationResponse response row.challenge passkey = some newCounter ∧
    ∃ credential, Enrolled webauthn s as passkey.userId credential ∧ passkey.credentialId = credential.id ∧
      passkey.publicKey = credential.publicKey

/-- What a call knows of the past. -/
def PasskeyCall.Past : PasskeyCall → Prop
  | .challengeRead challengeId (some challenge) _ => ∃ row, row.id = challengeId ∧ row.challenge = challenge ∧
      Once (passkeyStep webauthn) PasskeyWorld.Draws s as row ∧
      Once (passkeyStep webauthn) PasskeyWorld.Readable s as row
  | .verified challengeId passkey _ | .consumed challengeId passkey _ | .counted challengeId passkey _ _ =>
    Authenticated webauthn s as challengeId passkey
  | .registering userId challengeId response _ =>
    Did (passkeyStep webauthn) (PasskeyWorld.Registers userId challengeId) s as response
  | .registrationVerified userId _ credential _ | .registrationConsumed userId _ credential _ =>
    Enrolled webauthn s as userId credential
  | _ => True

structure PasskeyPast : Prop where
  drawn : ∀ k row, (run (passkeyStep webauthn) s as).db.challenges.find? k = some row →
    Once (passkeyStep webauthn) PasskeyWorld.Draws s as row
  passkeys : ∀ p ∈ (run (passkeyStep webauthn) s as).db.passkeys.rows, ∃ credential,
    Enrolled webauthn s as p.userId credential ∧ p.credentialId = credential.id ∧ p.publicKey = credential.publicKey
  calls : ∀ i, ((run (passkeyStep webauthn) s as).calls i).Past webauthn s as

end

section

variable {webauthn : WebAuthn} {s : PasskeyWorld n m} {as : List (PasskeyLabel n m)} {l : PasskeyLabel n m}

theorem Enrolled.append {userId : UserId} {credential : WebAuthnCredential}
    (h : Enrolled webauthn s as userId credential) : Enrolled webauthn s (as ++ [l]) userId credential := by
  obtain ⟨row, response, hoffers, hregisters, hverified⟩ := h
  exact ⟨row, response, once_concat.mpr (.inl hoffers), hregisters.append _, hverified⟩

theorem Authenticated.append {challengeId : Nat} {passkey : Passkey}
    (h : Authenticated webauthn s as challengeId passkey) :
    Authenticated webauthn s (as ++ [l]) challengeId passkey := by
  obtain ⟨row, response, newCounter, hid, hdraws, hreadable, hholds, hverified, credential, henrolled, hkey⟩ := h
  exact ⟨row, response, newCounter, hid, once_concat.mpr (.inl hdraws), once_concat.mpr (.inl hreadable),
    once_concat.mpr (.inl hholds), hverified, credential, henrolled.append, hkey⟩

theorem PasskeyCall.Past.append {c : PasskeyCall} (h : c.Past webauthn s as) : c.Past webauthn s (as ++ [l]) := by
  cases c with
  | challengeRead challengeId challenge response =>
    cases challenge with
    | none => trivial
    | some challenge =>
      obtain ⟨row, hid, htext, hdraws, hreadable⟩ := h
      exact ⟨row, hid, htext, once_concat.mpr (.inl hdraws), once_concat.mpr (.inl hreadable)⟩
  | verified | consumed | counted => exact Authenticated.append h
  | registering => exact Did.append h _
  | registrationVerified | registrationConsumed => exact Enrolled.append h
  | _ => trivial

theorem once_now {β : Type} {φ : PasskeyWorld n m → β → Prop} {x : β}
    (h : φ (run (passkeyStep webauthn) s as) x) : Once (passkeyStep webauthn) φ s as x :=
  ⟨as, [], (List.append_nil as).symm, h⟩

theorem PasskeyCall.past_of_ended {c : PasskeyCall} (h : c.Ended) : c.Past webauthn s as := by
  cases c with
  | idle | returned | failed | stopped => trivial
  | _ => cases h

/-- What a call that goes on knows. -/
theorem PasskeyPast.follows (h : PasskeyPast webauthn s as) {i : Fin m} {c : PasskeyCall}
    (hfollows : Follows webauthn (run (passkeyStep webauthn) s as) i l c) : c.Past webauthn s (as ++ [l]) := by
  have hcall := h.calls i
  cases hfollows with
  | ends ended => exact PasskeyCall.past_of_ended ended
  | starts | answers | removes | countsMethods => trivial
  | registers signedIn challengeId response label =>
    exact did_concat.mpr (.inr ⟨i, _, label, rfl, signedIn, rfl⟩)
  | @reads challengeId response challenge call usable =>
    cases challenge with
    | none => trivial
    | some text =>
      obtain ⟨row, hrow, hpurpose, husable, htext⟩ := usable text rfl
      have hid : row.id = challengeId := Table.key_of_find? hrow
      exact ⟨row, hid, htext, once_concat.mpr (.inl (h.drawn _ row hrow)),
        once_concat.mpr (.inl (once_now ⟨hid ▸ hrow, hpurpose, husable⟩))⟩
  | @accepts challengeId response challenge passkey newCounter call found active verified =>
    rw [call] at hcall
    obtain ⟨row, hid, rfl, hdraws, hreadable⟩ := hcall
    obtain ⟨credential, henrolled, hkey⟩ := h.passkeys passkey (List.mem_of_find?_eq_some found)
    exact Authenticated.append ⟨row, response, newCounter, hid, hdraws, hreadable, once_now ⟨found, active⟩,
      verified, credential, henrolled, hkey⟩
  | consumes call | counts _ call =>
    rw [call] at hcall
    exact Authenticated.append hcall
  | @registrationAccepts userId challengeId response label row credential call found own purpose usable verified =>
    rw [call] at hcall
    have hid : row.id = challengeId := Table.key_of_find? found
    subst hid
    exact Enrolled.append ⟨row, response, once_now ⟨found, own, purpose, usable⟩, hcall, verified⟩
  | registrationConsumes call =>
    rw [call] at hcall
    exact Enrolled.append hcall

/-- Whose key a passkey has after a step: that of a passkey before it, or of the registration
that the step completes. -/
theorem mem_passkeys_of_move {w w' : PasskeyWorld n m} (hmove : PasskeyMove webauthn w l w') {p : Passkey}
    (hp : p ∈ w'.db.passkeys.rows) :
    (∃ q ∈ w.db.passkeys.rows, p.userId = q.userId ∧ p.credentialId = q.credentialId ∧ p.publicKey = q.publicKey) ∨
      ∃ i challengeId credential label, w.calls i = .registrationConsumed p.userId challengeId credential label ∧
        p.credentialId = credential.id ∧ p.publicKey = credential.publicKey := by
  cases hmove with
  | stays | moves | auth | changesPassword | purges => exact .inl ⟨p, hp, rfl, rfl, rfl⟩
  | deletes userId => exact .inl (WebAuthnDb.KeysFrom.deletePasskeys w.db (fun q => q.userId == userId) p hp)
  | asks issued | asksOwner _ issued => exact .inl ⟨p, WebAuthnDb.issueChallenge_passkeys issued ▸ hp, rfl, rfl, rfl⟩
  | @signsIn i challengeId passkey newCounter row =>
    exact .inl (WebAuthnDb.KeysFrom.countPasskey (w.db.useChallenges w.now fun c => c.id == challengeId) row newCounter
      w.now p hp)
  | @adds i userId challengeId credential label _ call _ added =>
    rcases WebAuthnDb.mem_of_addPasskey added hp with hp | ⟨rfl, hkey⟩
    · exact .inl ⟨p, hp, rfl, rfl, rfl⟩
    · exact .inr ⟨i, challengeId, credential, label, call, hkey⟩
  | @removes i userId passkeyId =>
    exact .inl (WebAuthnDb.KeysFrom.deletePasskeys w.db (fun q => q.id == passkeyId && q.userId == userId) p hp)

theorem PasskeyPast.start (webauthn : WebAuthn) (users : Table Account) (now : Nat) :
    PasskeyPast webauthn (.start n m users now) [] where
  drawn k row h := by cases h
  passkeys p h := by cases h
  calls i := trivial

/-- The calls of the next state, if at most one has moved and the one that has ended. -/
theorem PasskeyPast.calls_ended (h : PasskeyPast webauthn s as) {i j : Fin m} :
    (Function.update (run (passkeyStep webauthn) s as).calls i .returned j).Past webauthn s (as ++ [l]) := by
  rw [Function.update_apply]
  split
  · trivial
  · exact (h.calls j).append

theorem PasskeyPast.step (h : PasskeyPast webauthn s as) (l : PasskeyLabel n m) :
    PasskeyPast webauthn s (as ++ [l]) := by
  have hdb := passkeyStep_db webauthn (run (passkeyStep webauthn) s as) l
  have hmove := passkeyStep_move webauthn (run (passkeyStep webauthn) s as) l
  constructor
  · intro k row' hrow'
    rw [run_concat] at hrow'
    rcases hdb.challenge k row' hrow' with ⟨row, hrow, rfl | rfl⟩ | ⟨hk, hexpires⟩
    · exact once_concat.mpr (.inl (h.drawn k row' hrow))
    · obtain ⟨pre, suf, has, hdraws⟩ := h.drawn k row hrow
      exact once_concat.mpr (.inl ⟨pre, suf, has, hdraws⟩)
    · have hid : row'.id = k := Table.key_of_find? hrow'
      exact once_concat.mpr (.inl (once_now ⟨hid.trans hk, hexpires⟩))
  · intro p hp
    rw [run_concat] at hp
    rcases mem_passkeys_of_move hmove hp with ⟨q, hq, huser, hid, hkey⟩ | ⟨i, _, credential, _, call, hkey⟩
    · obtain ⟨credential, henrolled, hcredential⟩ := h.passkeys q hq
      exact ⟨credential, huser ▸ henrolled.append, hid.trans hcredential.1, hkey.trans hcredential.2⟩
    · have hcall := h.calls i
      rw [call] at hcall
      exact ⟨credential, Enrolled.append hcall, hkey⟩
  · intro i
    rw [run_concat]
    generalize passkeyStep webauthn (run (passkeyStep webauthn) s as) l = w' at hmove
    cases hmove with
    | stays | auth | changesPassword | deletes | purges | asks => exact (h.calls i).append
    | @moves _ j c _ follows =>
      simp only [PasskeyWorld.set_calls, Function.update_apply]
      split
      · exact h.follows follows
      · exact (h.calls i).append
    | asksOwner | signsIn | adds | removes => exact h.calls_ended

theorem PasskeyPast.run (webauthn : WebAuthn) (users : Table Account) (now : Nat) (as : List (PasskeyLabel n m)) :
    PasskeyPast webauthn (.start n m users now) as := by
  induction as using List.reverseRecOn with
  | nil => exact .start webauthn users now
  | append_singleton as l ih => exact ih.step l

end

/-- Whoever is signed in by a passkey has answered a challenge of the last ten minutes, with a
signature that verifies under a key that the owner of the account enrolled while signed in. -/
theorem passkeySignIn_authenticated (webauthn : WebAuthn) (users : Table Account) (now : Nat)
    (as : List (PasskeyLabel n m)) (l : PasskeyLabel n m) {challengeId : Nat} {passkey : Passkey}
    (hsigns : signsIn (run (passkeyStep webauthn) (.start n m users now) as) l = some (challengeId, passkey)) :
    Authenticated webauthn (.start n m users now) as challengeId passkey := by
  have hcalls := (PasskeyPast.run webauthn users now as).calls
  cases l with
  | statement i =>
    have hcall := hcalls i
    cases hstate : (run (passkeyStep webauthn) (.start n m users now) as).calls i with
    | counted =>
      simp only [signsIn, hstate, Option.ite_none_right_eq_some, Option.some.injEq, Prod.mk.injEq] at hsigns
      obtain ⟨-, rfl, rfl⟩ := hsigns
      rw [hstate] at hcall
      exact hcall
    | _ => simp only [signsIn, hstate, reduceCtorEq] at hsigns
  | _ => cases hsigns

/-! ## One sign-in -/

/-- An authenticator whose answers are the texts of the challenges. -/
def echoWebAuthn : WebAuthn where
  verifyRegistrationResponse response challenge := if response = challenge then some ⟨js "key", [], 0, none⟩ else none
  verifyAuthenticationResponse response challenge passkey :=
    if response.rest = challenge then some (passkey.counter + 1) else none

/-- A user signs in, enrols a passkey and uses it. -/
def firstPasskey : List (PasskeyLabel 0 3) :=
  [.auth (.signIn 1), .auth (.jwt 0), .registrationOptions 0 ownCookie (js "a"), .statement 0,
    .register 1 ownCookie (some 0) (some (js "a")) none, .statement 1, .statement 1, .statement 1,
    .authenticationOptions (js "b"), .authenticate 2 (some 2) (some ⟨js "key", js "b"⟩), .statement 2, .statement 2,
    .statement 2, .statement 2]

theorem firstPasskey_authenticated : ∃ passkey : Passkey, passkey.userId = 1 ∧
    Authenticated echoWebAuthn (.start 0 3 (oneAccount none) 0) firstPasskey 2 passkey :=
  ⟨⟨1, 1, js "key", [], 0, [], js "Passkey", none⟩, rfl,
    passkeySignIn_authenticated echoWebAuthn (oneAccount none) 0 firstPasskey (.statement 2) (by decide)⟩

end HostPlatform
