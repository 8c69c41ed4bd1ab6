-- SUMMARY: When the removal of passkeys leaves a user a way to sign in.
import HostPlatform.Auth.Passkeys

/-!
# The last sign-in method

A removal counts the password and the passkeys of its user and then deletes, in a transaction
that locks nothing it has counted. Two removals of one user that both count before either
deletes can take the last two passkeys; apart from that no step takes the last method.
-/

namespace HostPlatform

open Lib (JsString Table js)
open Lib.Transition

variable {n m : Nat}

/-! ## Passwords -/

/-- An account later on: as long as it is active it has the password it had, or another. -/
def Account.KeepsPassword (u u' : Account) : Prop :=
  u'.active = true → u.active = true ∧ (u.passwordHash.isSome → u'.passwordHash.isSome)

theorem Account.KeepsPassword.refl (u : Account) : u.KeepsPassword u := fun h => ⟨h, fun h' => h'⟩

namespace AuthDb

variable {db : AuthDb}

theorem keeps_users {db' : AuthDb} (h : db'.users = db.users) :
    Table.Rowwise Account.KeepsPassword db.users db'.users := by
  rw [h]
  exact .refl Account.KeepsPassword.refl _

theorem keeps_modifyUser {id : UserId} {f : Account → Account} (hf) (h : ∀ u : Account, u.KeepsPassword (f u)) :
    Table.Rowwise Account.KeepsPassword db.users (db.modifyUser id f hf).users :=
  .modify Account.KeepsPassword.refl hf fun u _ => h u

end AuthDb

open AuthDb (keeps_modifyUser keeps_users)

theorem resetPassword_keepsPasswords (userId : UserId) (passwordHash : Password) (db : AuthDb) :
    Table.Rowwise Account.KeepsPassword db.users (resetPassword userId passwordHash db).users :=
  keeps_modifyUser _ fun _ h => ⟨h, fun _ => rfl⟩

theorem nextAuthStatement_keepsPasswords (w : AuthWorld n) (i : Fin n) :
    Table.Rowwise Account.KeepsPassword w.db.users (nextAuthStatement w i).db.users := by
  unfold nextAuthStatement
  split
  case h_2 =>
    split
    · exact resetPassword_keepsPasswords _ _ _
    · exact keeps_users rfl
  case h_10 userId newPassword _ => exact resetPassword_keepsPasswords userId newPassword w.db
  all_goals repeat' split
  all_goals exact keeps_users rfl

/-- No step takes a password from an account that stays active. -/
theorem authStep_keepsPasswords (w : AuthWorld n) (l : AuthLabel n) :
    Table.Rowwise Account.KeepsPassword w.db.users (authStep w l).db.users := by
  have hbegin : ∀ i c, (w.begin i c).db.users = w.db.users := by
    intro i c
    unfold AuthWorld.begin
    split
    · rfl
    · rfl
  cases l with
  | statement i => exact nextAuthStatement_keepsPasswords w i
  | revokeSessions userId =>
    simp only [authStep]
    split
    · exact keeps_modifyUser _ fun _ h => ⟨h, id⟩
    · exact keeps_users rfl
  | deleteAccount userId anonymousEmail =>
    simp only [authStep]
    split
    · refine keeps_modifyUser _ fun u h => ?_
      cases h
    · exact keeps_users rfl
  | requestPasswordReset | passkeyVerified | signIn | jwt =>
    simp only [authStep]
    repeat' split
    all_goals exact keeps_users rfl
  | clock | revoked | purge | crash => exact keeps_users rfl
  | confirmPasswordReset | authorize | recoverySignIn => exact keeps_users (hbegin _ _)
  | changePassword | recoveryCodes => exact keeps_users (hbegin _ _)

/-! ## Passkeys of a user -/

namespace WebAuthnDb

variable {db db' : WebAuthnDb} {userId : UserId}

theorem passkeyCount_eq (hsame : db'.passkeys = db.passkeys) : db'.passkeyCount userId = db.passkeyCount userId := by
  unfold passkeyCount
  rw [hsame]

theorem passkeyCount_countPasskey (db : WebAuthnDb) (row : Option Nat) (newCounter now : Nat) :
    (db.countPasskey row newCounter now).passkeyCount userId = db.passkeyCount userId := by
  have howner : ∀ p : Passkey, ((if some p.id == row then p.count newCounter now else p).userId == userId) =
      (p.userId == userId) := by
    intro p
    split
    · rfl
    · rfl
  simp only [passkeyCount, countPasskey, setPasskeys, Table.select, Table.rows_updateWhere, List.filter_map,
    Function.comp_def, howner, List.length_map]

theorem passkeyCount_addPasskey {owner : UserId} {credential : WebAuthnCredential} {label : Option JsString}
    (h : db.addPasskey owner credential label = some db') : db.passkeyCount userId ≤ db'.passkeyCount userId := by
  unfold addPasskey at h
  split at h
  · cases h
  · cases h
    simp only [passkeyCount, Table.select, Table.rows_insert, List.filter_append, List.length_append]
    exact Nat.le_add_right _ _

/-- A deletion that spares the user. -/
theorem passkeyCount_deletePasskeys (db : WebAuthnDb) {p : Passkey → Bool}
    (hother : ∀ q : Passkey, q.userId = userId → p q = false) :
    (db.deletePasskeys p).passkeyCount userId = db.passkeyCount userId := by
  simp only [passkeyCount, deletePasskeys, setPasskeys, Table.select, Table.rows_deleteWhere, List.filter_filter]
  refine congrArg List.length (List.filter_congr fun q _ => ?_)
  cases howner : q.userId == userId with
  | false => rfl
  | true => simp [hother q (beq_iff_eq.mp howner)]

/-- A removal takes at most one passkey. -/
theorem passkeyCount_le_remove (db : WebAuthnDb) (passkeyId : Nat) (userId owner : UserId) :
    db.passkeyCount userId ≤
      (db.deletePasskeys fun p => p.id == passkeyId && p.userId == owner).passkeyCount userId + 1 := by
  have hsplit := List.length_eq_length_filter_add (l := db.passkeys.select fun p => p.userId == userId)
    fun p => p.id == passkeyId && p.userId == owner
  have hremoved : ((db.passkeys.select fun p => p.userId == userId).filter
      fun p => p.id == passkeyId && p.userId == owner).length ≤ 1 := by
    have hsub : ((db.passkeys.select fun p => p.userId == userId).filter
        fun p => p.id == passkeyId && p.userId == owner).length ≤
        (db.passkeys.select fun p => Lib.key p == passkeyId).length := by
      rw [Table.select, List.filter_filter]
      refine (List.monotone_filter_right _ fun p hp => ?_).length_le
      simp only [Bool.and_eq_true] at hp
      exact hp.1.1
    refine hsub.trans ?_
    rw [Table.select_key]
    cases db.passkeys.find? passkeyId with
    | none => exact Nat.zero_le 1
    | some p => exact le_rfl
  have hkept : (db.deletePasskeys fun p => p.id == passkeyId && p.userId == owner).passkeyCount userId =
      ((db.passkeys.select fun p => p.userId == userId).filter
        fun p => !(p.id == passkeyId && p.userId == owner)).length := by
    simp only [passkeyCount, deletePasskeys, setPasskeys, Table.select, Table.rows_deleteWhere, List.filter_filter]
    exact congrArg List.length (List.filter_congr fun p _ => Bool.and_comm _ _)
  rw [hkept]
  change (db.passkeys.select fun p => p.userId == userId).length ≤ _
  omega

end WebAuthnDb

/-! ## Removals -/

/-- The user has a password or a passkey. -/
def PasskeyWorld.HasMethod (w : PasskeyWorld n m) (userId : UserId) : Prop :=
  (∃ u, w.auth.db.users.find? userId = some u ∧ u.passwordHash.isSome) ∨ 0 < w.db.passkeyCount userId

def PasskeyWorld.Active (w : PasskeyWorld n m) (userId : UserId) : Prop :=
  ∃ u, w.auth.db.users.find? userId = some u ∧ u.active = true

/-- The user of a removal that has counted and not yet deleted. -/
def PasskeyCall.counting : PasskeyCall → Option UserId
  | .methodsCounted userId _ => some userId
  | _ => none

/-- The user of a removal that counts in this step. -/
def countsFor (w : PasskeyWorld n m) : PasskeyLabel n m → Option UserId
  | .statement i =>
    match w.calls i with
    | .removing userId _ => some userId
    | _ => none
  | _ => none

/-- No removal counts while another of the same user is about to delete. -/
def removalsApart (w : PasskeyWorld n m) (l : PasskeyLabel n m) : Prop :=
  countsFor w l = none ∨ ∀ j, (w.calls j).counting ≠ countsFor w l

instance (w : PasskeyWorld n m) (l : PasskeyLabel n m) : Decidable (removalsApart w l) :=
  inferInstanceAs (Decidable (_ ∨ ∀ _, _))

/-- A removal that has counted is the only one of its user, and the user can spare a passkey. -/
structure MethodsInv (w : PasskeyWorld n m) : Prop where
  alone : Lib.Exclusive PasskeyCall.counting w.calls
  spare : ∀ i userId, (w.calls i).counting = some userId → w.Active userId → w.Spare userId

/-- What a step leaves a user who stays active. -/
structure KeepsMethods (w w' : PasskeyWorld n m) (userId : UserId) (taken : Nat) : Prop where
  active : w'.Active userId → w.Active userId
  password : w'.Active userId → (∃ u, w.auth.db.users.find? userId = some u ∧ u.passwordHash.isSome) →
    ∃ u, w'.auth.db.users.find? userId = some u ∧ u.passwordHash.isSome
  passkeys : w'.Active userId → w.db.passkeyCount userId ≤ w'.db.passkeyCount userId + taken

namespace KeepsMethods

variable {w w' : PasskeyWorld n m} {userId : UserId}

theorem of_users (husers : Table.Rowwise Account.KeepsPassword w.auth.db.users w'.auth.db.users) {taken : Nat}
    (hpasskeys : w'.Active userId → w.db.passkeyCount userId ≤ w'.db.passkeyCount userId + taken) :
    KeepsMethods w w' userId taken where
  active := by
    rintro ⟨u', hfind', hactive⟩
    obtain ⟨u, hfind, hkeeps⟩ := husers.to_find? hfind'
    exact ⟨u, hfind, (hkeeps hactive).1⟩
  password := by
    rintro ⟨u', hfind', hactive⟩ ⟨u, hfind, hpassword⟩
    obtain ⟨v, hv, hkeeps⟩ := husers.to_find? hfind'
    cases hv.symm.trans hfind
    exact ⟨u', hfind', (hkeeps hactive).2 hpassword⟩
  passkeys := hpasskeys

theorem of_same (hauth : w'.auth = w.auth) (hpasskeys : w.db.passkeyCount userId ≤ w'.db.passkeyCount userId) :
    KeepsMethods w w' userId 0 :=
  .of_users (by rw [hauth]; exact keeps_users rfl) fun _ => hpasskeys

theorem hasMethod (h : KeepsMethods w w' userId 0) (hactive : w'.Active userId) (hmethod : w.HasMethod userId) :
    w'.HasMethod userId := by
  refine hmethod.imp (h.password hactive) fun hcount => ?_
  have := h.passkeys hactive
  omega

theorem spare (h : KeepsMethods w w' userId 0) (hactive : w'.Active userId) (hspare : w.Spare userId) :
    w'.Spare userId := by
  refine hspare.imp (h.password hactive) fun hcount => ?_
  have := h.passkeys hactive
  omega

theorem hasMethod_of_spare (h : KeepsMethods w w' userId 1) (hactive : w'.Active userId) (hspare : w.Spare userId) :
    w'.HasMethod userId := by
  refine hspare.imp (h.password hactive) fun hcount => ?_
  have := h.passkeys hactive
  omega

end KeepsMethods

/-- The account of a deletion is no longer active. -/
theorem not_active_deleteAccount {w w' : PasskeyWorld n m} {userId : UserId} {anonymousEmail : JsString}
    (hunlocked : w.auth.Unlocked userId) (hauth : w'.auth = authStep w.auth (.deleteAccount userId anonymousEmail)) :
    ¬ w'.Active userId := by
  rintro ⟨u, hfind, hactive⟩
  rw [hauth] at hfind
  simp only [authStep, if_pos hunlocked, deleteAccount, AuthDb.users_modifyUser, Table.find?_modify, if_true,
    AuthDb.users_deleteRows, Option.map_eq_some_iff] at hfind
  obtain ⟨v, -, rfl⟩ := hfind
  cases hactive

/-- A step takes no method, but that a removal takes one passkey of its user. -/
theorem move_keepsMethods {webauthn : WebAuthn} {w w' : PasskeyWorld n m} {l : PasskeyLabel n m}
    (hmove : PasskeyMove webauthn w l w') (userId : UserId) :
    KeepsMethods w w' userId 0 ∨
      ∃ i passkeyId, w.calls i = .methodsCounted userId passkeyId ∧ w'.calls = Function.update w.calls i .returned ∧
        KeepsMethods w w' userId 1 := by
  cases hmove with
  | stays | moves | purges => exact .inl (.of_same rfl le_rfl)
  | auth l | changesPassword l => exact .inl (.of_users (authStep_keepsPasswords w.auth l) fun _ => le_rfl)
  | deletes owner anonymousEmail unlocked =>
    refine .inl (.of_users (authStep_keepsPasswords w.auth _) fun hactive => ?_)
    by_cases howner : owner = userId
    · subst howner
      exact absurd hactive (not_active_deleteAccount unlocked rfl)
    · refine (WebAuthnDb.passkeyCount_deletePasskeys w.db (p := fun p => p.userId == owner) fun q hq => ?_).ge
      rw [hq]
      exact beq_eq_false_iff_ne.mpr (Ne.symm howner)
  | asks issued | asksOwner _ issued =>
    exact .inl (.of_same rfl (WebAuthnDb.passkeyCount_eq (WebAuthnDb.issueChallenge_passkeys issued)).ge)
  | @signsIn i challengeId passkey newCounter row =>
    refine .inl (.of_users (authStep_keepsPasswords w.auth _) fun _ => ?_)
    exact (WebAuthnDb.passkeyCount_countPasskey (w.db.useChallenges w.now fun c => c.id == challengeId) row newCounter
      w.now).ge
  | @adds i owner challengeId credential label db _ _ added =>
    have hcount :
        (w.db.useChallenges w.now fun c => c.id == challengeId).passkeyCount userId ≤ db.passkeyCount userId :=
      WebAuthnDb.passkeyCount_addPasskey added
    exact .inl (.of_same rfl hcount)
  | @removes i owner passkeyId call =>
    by_cases howner : owner = userId
    · subst howner
      have hcount := w.db.passkeyCount_le_remove passkeyId owner owner
      refine .inr ⟨i, passkeyId, call, rfl, ?_⟩
      refine KeepsMethods.of_users ?_ ?_
      · exact .refl Account.KeepsPassword.refl _
      · exact fun _ => hcount
    · refine .inl (.of_same rfl (WebAuthnDb.passkeyCount_deletePasskeys w.db fun q hq => ?_).ge)
      rw [hq, beq_eq_false_iff_ne.mpr (Ne.symm howner), Bool.and_false]

/-- The calls that have counted and not yet deleted, after a step. -/
theorem counting_of_move {webauthn : WebAuthn} {w w' : PasskeyWorld n m} {l : PasskeyLabel n m}
    (hmove : PasskeyMove webauthn w l w') (hapart : removalsApart w l) {i : Fin m} {userId : UserId}
    (hi : (w'.calls i).counting = some userId) :
    (w.calls i).counting = some userId ∨
      (∀ j, (w.calls j).counting ≠ some userId) ∧ w.Spare userId ∧ w'.auth = w.auth ∧ w'.db = w.db ∧
        w'.calls = Function.update w.calls i (w'.calls i) := by
  have hended : ∀ j, (Function.update w.calls j .returned i).counting = some userId →
      (w.calls i).counting = some userId := by
    intro j hj
    rw [Function.update_apply] at hj
    split at hj
    · cases hj
    · exact hj
  cases hmove with
  | stays | auth | changesPassword | deletes | purges | asks => exact .inl hi
  | asksOwner | signsIn | adds | removes => exact .inl (hended _ hi)
  | @moves _ j c _ follows =>
    simp only [PasskeyWorld.set_calls, Function.update_apply] at hi
    split at hi
    case isFalse => exact .inl hi
    case isTrue hij =>
      subst hij
      cases follows with
      | countsMethods call spare =>
        cases hi
        simp only [removalsApart, countsFor, call, reduceCtorEq, false_or] at hapart
        exact .inr ⟨hapart, spare, rfl, rfl, by simp⟩
      | @ends _ c ended =>
        cases c with
        | idle | returned | failed | stopped => cases hi
        | _ => cases ended
      | _ => cases hi

namespace MethodsInv

theorem start (users : Table Account) (now : Nat) : MethodsInv (PasskeyWorld.start n m users now) where
  alone := Lib.exclusive_of_none fun _ => rfl
  spare i userId h := by cases h

theorem step {webauthn : WebAuthn} {w : PasskeyWorld n m} {l : PasskeyLabel n m} (h : MethodsInv w)
    (hapart : removalsApart w l) : MethodsInv (passkeyStep webauthn w l) := by
  have hmove := passkeyStep_move webauthn w l
  generalize passkeyStep webauthn w l = w' at hmove
  constructor
  · intro i userId hi j hj
    rcases counting_of_move hmove hapart hi with hi' | ⟨hnone, -, -, -, hcalls⟩
    · rcases counting_of_move hmove hapart hj with hj' | ⟨hnone, -⟩
      · exact h.alone i userId hi' j hj'
      · exact absurd hi' (hnone i)
    · by_contra hne
      rw [hcalls, Function.update_of_ne hne] at hj
      exact hnone j hj
  · intro i userId hi hactive
    rcases counting_of_move hmove hapart hi with hi' | ⟨-, hspare, hauth, hdb, -⟩
    · rcases move_keepsMethods hmove userId with hkeeps | ⟨j, passkeyId, hcall, hcalls, -⟩
      · exact hkeeps.spare hactive (h.spare i userId hi' (hkeeps.active hactive))
      · -- The removal that deletes is this one, and it has ended.
        have hij : j = i := h.alone i userId hi' j (by rw [hcall]; rfl)
        rw [hcalls, hij, Function.update_self] at hi
        cases hi
    · unfold PasskeyWorld.Spare at hspare ⊢
      rwa [hauth, hdb]

end MethodsInv

/-- As long as no two removals of one user overlap between their count and their deletion, a
user who has a password or a passkey keeps one of them up to the deletion of the account. -/
theorem removals_leave_method (webauthn : WebAuthn) (users : Table Account) (now : Nat)
    (pre suf : List (PasskeyLabel n m)) (userId : UserId)
    (hapart : Guarded (passkeyStep webauthn) removalsApart (.start n m users now) (pre ++ suf))
    (hmethod : (run (passkeyStep webauthn) (.start n m users now) pre).HasMethod userId)
    (hactive : (run (passkeyStep webauthn) (.start n m users now) (pre ++ suf)).Active userId) :
    (run (passkeyStep webauthn) (.start n m users now) (pre ++ suf)).HasMethod userId := by
  obtain ⟨hpre, hsuf⟩ := guarded_append.mp hapart
  have hinv : MethodsInv (run (passkeyStep webauthn) (.start n m users now) pre) :=
    run_invariant (fun _ _ h hl => h.step hl) (.start users now) hpre
  rw [run_append] at hactive ⊢
  -- The property that every step keeps: no method is missing while the account is active.
  have hrun := run_invariant (I := fun w => MethodsInv w ∧ (w.Active userId → w.HasMethod userId))
    (fun w l h hl => ?_) ⟨hinv, fun _ => hmethod⟩ hsuf
  · exact hrun.2 hactive
  · have hmove := passkeyStep_move webauthn w l
    refine ⟨h.1.step hl, fun hactive' => ?_⟩
    rcases move_keepsMethods hmove userId with hkeeps | ⟨i, passkeyId, hcall, -, hkeeps⟩
    · exact hkeeps.hasMethod hactive' (h.2 (hkeeps.active hactive'))
    · exact hkeeps.hasMethod_of_spare hactive'
        (h.1.spare i userId (by rw [hcall]; rfl) (hkeeps.active hactive'))

/-! ## Two removals -/

/-- An authenticator that makes a credential of each challenge it answers. -/
def namingWebAuthn : WebAuthn where
  verifyRegistrationResponse response challenge :=
    if response = challenge then some ⟨challenge, [], 0, none⟩ else none
  verifyAuthenticationResponse _ _ _ := none

/-- The user adds two passkeys: their ids are 1 and 3. -/
def twoPasskeys : List (PasskeyLabel 0 6) :=
  [.auth (.signIn 1), .auth (.jwt 0),
    .registrationOptions 0 ownCookie (js "a"), .statement 0,
    .register 1 ownCookie (some 0) (some (js "a")) none, .statement 1, .statement 1, .statement 1,
    .registrationOptions 2 ownCookie (js "b"), .statement 2,
    .register 3 ownCookie (some 2) (some (js "b")) none, .statement 3, .statement 3, .statement 3]

/-- One removal after the other: the second is refused. -/
def removalsInTurn : List (PasskeyLabel 0 6) :=
  [.removePasskey 4 ownCookie (some 1), .statement 4, .statement 4,
    .removePasskey 5 ownCookie (some 3), .statement 5, .statement 5]

theorem removalsInTurn_leave_method :
    (run (passkeyStep namingWebAuthn) (.start 0 6 (oneAccount none) 0) (twoPasskeys ++ removalsInTurn)).HasMethod 1 :=
  removals_leave_method namingWebAuthn (oneAccount none) 0 twoPasskeys removalsInTurn 1 (by decide) (.inr (by decide))
    ⟨⟨1, js "a", true, none, 1⟩, by decide, rfl⟩

/-- Both count before either deletes. -/
def removalsAtOnce : List (PasskeyLabel 0 6) :=
  [.removePasskey 4 ownCookie (some 1), .removePasskey 5 ownCookie (some 3), .statement 4, .statement 5,
    .statement 4, .statement 5]

example :
    (run (passkeyStep namingWebAuthn) (.start 0 6 (oneAccount none) 0)
      (twoPasskeys ++ removalsAtOnce)).db.passkeyCount 1 = 0 := by
  decide

end HostPlatform
