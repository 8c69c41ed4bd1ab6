-- SUMMARY: The account password route revokes every credential issued before it; a reset does exactly if the user has nothing else that is accepted when it completes.
import HostPlatform.Auth.CredentialCalls

/-!
# A password change revokes

Both ways of changing a password raise the version of the user's sessions. The account
password route also deletes recovery codes and login tokens and spends the reset tokens, in
one transaction. `confirmPasswordReset` spends the reset tokens only.
-/

namespace HostPlatform

open Lib.Transition (Guarded run)

variable {n : Nat}

/-- The user whose password change a step completes. -/
def completes (w : AuthWorld n) : AuthLabel n → Option UserId
  | .statement i =>
    match w.calls i with
    | .passwordLocked userId _ | .tokenUsed _ userId => some userId
    | _ => none
  | _ => none

/-- What has been issued up to now. -/
def AuthWorld.Issued (w : AuthWorld n) : Presented → Prop
  | .session cookie => cookie ∈ w.cookies
  | .resetToken secret | .loginToken secret | .recoveryCode _ secret => secret < w.db.drawn

/-- Once a password change of a user has completed, nothing that was issued before is
accepted for the user. -/
def ChangeRevokes (w : AuthWorld n) (labels : List (AuthLabel n)) : Prop :=
  ∀ pre l mid suf, labels = pre ++ l :: (mid ++ suf) → ∀ userId, completes (run authStep w pre) l = some userId →
    ∀ p, (run authStep w (pre ++ [l])).Issued p → (run authStep w (pre ++ l :: mid)).db.accepts p ≠ some userId

/-- When a reset completes, nothing but reset tokens is accepted for the user. -/
def ResetsWithNothingLeft (w : AuthWorld n) (l : AuthLabel n) : Prop :=
  ∀ i token userId, l = .statement i → w.calls i = .tokenUsed token userId →
    ∀ p, w.Issued p → w.db.accepts p = some userId → ∃ t, p = .resetToken t

theorem AuthInv.issuedBy {w : AuthWorld n} (h : AuthInv w) {p : Presented} (hp : w.Issued p) : p.IssuedBy w.db := by
  cases p with
  | session cookie => exact h.cookies cookie hp
  | resetToken | loginToken | recoveryCode => exact hp

/-! ## The account password route -/

theorem accepts_loginToken {db : AuthDb} {token : Nat} {userId : UserId}
    (h : db.accepts (.loginToken token) = some userId) :
    ∃ c, db.usable? .passkeyLoginTokens token = some c ∧ c.userId = userId := by
  simp only [AuthDb.accepts, findLoginToken, Option.map_eq_some_iff, Option.bind_eq_bind,
    Option.bind_eq_some_iff] at h
  obtain ⟨u, ⟨c, hc, hu⟩, hid⟩ := h
  exact ⟨c, hc, (AuthDb.id_of_activeUser? hu).symm.trans hid⟩

theorem accepts_recoveryCode {db : AuthDb} {email : Lib.JsString} {code : Nat} {userId : UserId}
    (h : db.accepts (.recoveryCode email code) = some userId) :
    ∃ c, db.usable? .accountRecoveryCodes code = some c ∧ c.userId = userId := by
  simp only [AuthDb.accepts, findRecoveryCode, Option.map_eq_some_iff, Option.bind_eq_bind,
    Option.bind_eq_some_iff, Option.ite_none_right_eq_some, Option.some.injEq] at h
  obtain ⟨_, ⟨c, hc, u, hu, -, rfl⟩, hid⟩ := h
  exact ⟨c, hc, (AuthDb.id_of_activeUser? hu).symm.trans hid⟩

theorem accepts_resetToken {db : AuthDb} {token : Nat} {userId : UserId}
    (h : db.accepts (.resetToken token) = some userId) :
    ∃ c, db.usable? .passwordResetTokens token = some c ∧ c.userId = userId :=
  Option.map_eq_some_iff.mp h

/-- A reset token that is still usable when the unused ones of a user are spent is another user's. -/
theorem usable?_of_tokens_used {db : AuthDb} {token : Nat} {userId : UserId} {c : Credential}
    (hc : (db.use .passwordResetTokens fun t => t.userId == userId && t.usedAt.isNone).usable?
      .passwordResetTokens token = some c) : c.userId ≠ userId := by
  intro hid
  have hunused : c.usedAt.isNone = true :=
    (Bool.and_eq_true _ _ ▸ (Option.filter_eq_some_iff.mp hc).2 : _ ∧ _).1
  simpa [hid, hunused] using AuthDb.usable?_use hc

theorem not_requireSession_changePassword {userId : UserId} {passwordHash : Password} {db : AuthDb} {cookie : Cookie}
    (huser : cookie.userId = userId) (hreached : db.Reached cookie.userId cookie.sessionVersion) :
    requireSession cookie (changePassword userId passwordHash db) = false := by
  obtain ⟨u, hu, hversion⟩ := hreached
  have hfind : (changePassword userId passwordHash db).users.find? cookie.userId =
      some { u with passwordHash := some passwordHash, sessionVersion := u.sessionVersion + 1 } := by
    simp [changePassword, ← huser, hu]
  have hne : u.sessionVersion + 1 ≠ cookie.sessionVersion := Nat.ne_of_gt (Nat.lt_succ_of_le hversion)
  simp [requireSession, hfind, hne]

/-- The account password route leaves nothing of the user that is accepted. -/
theorem changePassword_revokes {userId : UserId} {passwordHash : Password} {db : AuthDb} {p : Presented}
    (hp : p.IssuedBy db) : (changePassword userId passwordHash db).accepts p ≠ some userId := by
  intro hacc
  cases p with
  | session cookie =>
    simp only [AuthDb.accepts, Option.ite_none_right_eq_some, Option.some.injEq] at hacc
    obtain ⟨haccepted, huser⟩ := hacc
    rw [not_requireSession_changePassword huser hp.2] at haccepted
    cases haccepted
  | resetToken token =>
    obtain ⟨c, hc, hid⟩ := accepts_resetToken hacc
    rw [changePassword, AuthDb.usable?_deleteRows_of_ne (by decide), AuthDb.usable?_deleteRows_of_ne (by decide)] at hc
    exact usable?_of_tokens_used hc hid
  | loginToken token =>
    obtain ⟨c, hc, hid⟩ := accepts_loginToken hacc
    simpa [hid] using AuthDb.usable?_deleteRows hc
  | recoveryCode email code =>
    obtain ⟨c, hc, hid⟩ := accepts_recoveryCode hacc
    rw [changePassword, AuthDb.usable?_deleteRows_of_ne (by decide)] at hc
    simpa [hid] using AuthDb.usable?_deleteRows hc

/-! ## The reset -/

/-- The last statement of a reset leaves no reset token of the user. -/
theorem use_resetTokens_revokes {userId : UserId} {db : AuthDb} {token : Nat} :
    (db.use .passwordResetTokens fun t => t.userId == userId && t.usedAt.isNone).accepts (.resetToken token) ≠
      some userId := by
  intro hacc
  obtain ⟨c, hc, hid⟩ := accepts_resetToken hacc
  exact usable?_of_tokens_used hc hid

/-- It does not change whether anything else is accepted. -/
theorem accepts_use_resetTokens {db : AuthDb} {q : Credential → Bool} {p : Presented}
    (hp : ∀ t, p ≠ .resetToken t) : (db.use .passwordResetTokens q).accepts p = db.accepts p := by
  cases p with
  | resetToken token => exact absurd rfl (hp token)
  | session | loginToken | recoveryCode => rfl

/-! ## Runs -/

theorem completes_eq_some {w : AuthWorld n} {l : AuthLabel n} {userId : UserId} (h : completes w l = some userId) :
    ∃ i, l = .statement i ∧
      ((∃ pw, w.calls i = .passwordLocked userId pw) ∨ ∃ token, w.calls i = .tokenUsed token userId) := by
  cases l with
  | statement i =>
    refine ⟨i, rfl, ?_⟩
    cases hcall : w.calls i <;> simp_all [completes]
  | _ => cases h

/-- A step that completes a password change issues nothing. -/
theorem issued_of_completes {w : AuthWorld n} {l : AuthLabel n} {userId : UserId} (h : completes w l = some userId)
    {p : Presented} : (authStep w l).Issued p ↔ w.Issued p := by
  obtain ⟨i, rfl, ⟨pw, hcall⟩ | ⟨token, hcall⟩⟩ := completes_eq_some h
  all_goals cases p <;> simp only [authStep, nextAuthStatement, hcall] <;> rfl

/-- When a password change has completed, nothing that was issued is accepted; of a reset,
exactly if nothing but reset tokens was accepted before. -/
theorem revoked_iff {w : AuthWorld n} (hinv : AuthInv w) (l : AuthLabel n) :
    (∀ userId, completes w l = some userId → ∀ p, w.Issued p → (authStep w l).db.accepts p ≠ some userId) ↔
      ResetsWithNothingLeft w l := by
  constructor
  · rintro h i token userId rfl hcall p hp hacc
    by_contra hne
    push Not at hne
    have hstep := h userId (by simp [completes, hcall]) p hp
    simp only [authStep, nextAuthStatement, hcall] at hstep
    exact hstep ((accepts_use_resetTokens hne).trans hacc)
  · intro h userId hcompletes p hp hacc
    obtain ⟨i, rfl, ⟨pw, hcall⟩ | ⟨token, hcall⟩⟩ := completes_eq_some hcompletes
    · simp only [authStep, nextAuthStatement, hcall] at hacc
      exact changePassword_revokes (hinv.issuedBy hp) hacc
    · simp only [authStep, nextAuthStatement, hcall] at hacc
      by_cases hreset : ∃ t, p = .resetToken t
      · obtain ⟨t, rfl⟩ := hreset
        exact use_resetTokens_revokes hacc
      · push Not at hreset
        have hbefore : w.db.accepts p = some userId := (accepts_use_resetTokens hreset).symm.trans hacc
        obtain ⟨t, ht⟩ := h i token userId rfl hcall p hp hbefore
        exact hreset t ht

/-- In every run, password changes revoke what was issued before them exactly if nothing
but reset tokens of the user is accepted when a reset completes. -/
theorem changeRevokes_iff (users : Lib.Table Account) (now : Nat) (labels : List (AuthLabel n)) :
    ChangeRevokes (.start n users now) labels ↔
      Guarded authStep ResetsWithNothingLeft (.start n users now) labels := by
  have hinv : ∀ pre : List (AuthLabel n), AuthInv (run authStep (.start n users now) pre) :=
    (AuthInv.start users now).run
  rw [Lib.Transition.guarded_iff]
  constructor
  · intro h pre l suf hlabels
    refine (revoked_iff (hinv pre) l).mp fun userId hcompletes p hp => ?_
    have hnow := h pre l [] suf (by simp [hlabels]) userId hcompletes p
    rw [Lib.Transition.run_concat] at hnow
    exact hnow ((issued_of_completes hcompletes).mpr hp)
  · intro h pre l mid suf hlabels userId hcompletes p hp hacc
    rw [Lib.Transition.run_concat] at hp
    have hnext : AuthInv (authStep (run authStep (.start n users now) pre) l) := (hinv pre).step l
    have hrevoked := (revoked_iff (hinv pre) l).mpr (h pre l (mid ++ suf) hlabels) userId hcompletes p
      ((issued_of_completes hcompletes).mp hp)
    rw [Lib.Transition.run_append, Lib.Transition.run_cons] at hacc
    exact hrevoked ((run_decays _ mid).accepts (hnext.issuedBy hp) hacc)

/-! ## A reset leaves a recovery code -/

/-- A user who has recovery codes resets the password; they are the secrets 1 to 10. -/
def resetWithCodes : List (AuthLabel 2) :=
  [.signIn 1, .jwt 0, .recoveryCodes 0 ownCookie 7 false, .statement 0, .statement 0, .requestPasswordReset (Lib.js "a"),
    .confirmPasswordReset 1 11 8, .statement 1, .statement 1, .statement 1]

theorem resetWithCodes_accepted :
    ¬ ChangeRevokes (.start 2 (oneAccount (some 7)) 0) (resetWithCodes ++ [.statement 1]) := by
  intro h
  have hcompletes : completes (run authStep (.start 2 (oneAccount (some 7)) 0) resetWithCodes)
      (.statement 1) = some 1 := by
    decide +kernel
  have hdrawn : 1 < (run authStep (.start 2 (oneAccount (some 7)) 0)
      (resetWithCodes ++ [.statement 1])).db.drawn := by
    decide +kernel
  have haccepted : (run authStep (.start 2 (oneAccount (some 7)) 0)
      (resetWithCodes ++ [.statement 1])).db.accepts
      (.recoveryCode (Lib.js "a") 1) = some 1 := by
    decide +kernel
  exact h resetWithCodes (.statement 1) [] [] rfl 1 hcompletes (.recoveryCode (Lib.js "a") 1) hdrawn haccepted

end HostPlatform
