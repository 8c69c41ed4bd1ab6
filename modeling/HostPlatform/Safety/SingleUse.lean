-- SUMMARY: Login tokens and recovery codes are used once in every run; reset tokens are exactly if each password is set by a token that is spent already.
import HostPlatform.Auth.CredentialCalls

/-!
# Single use

A passkey login token and a recovery code are marked as used in the transaction that lets
somebody in, their row locked. `confirmPasswordReset` looks its token up, sets the password
and marks the token by separate statements, so that after the password is set the token is
still valid: for another call, and for good if the process stops there.
-/

namespace HostPlatform

open Lib (Exclusive Free)
open Lib.Transition (Guarded collect run)

variable {n : Nat}

/-- Each credential authorises once at most, and a reset token that has set a password is
valid in no later state. -/
structure SingleUse (w : AuthWorld n) (labels : List (AuthLabel n)) : Prop where
  once : ∀ t k, (collect authStep authorises w labels).count (t, k) ≤ 1
  spent : ∀ pre suf, labels = pre ++ suf → ∀ token,
    (.passwordResetTokens, token) ∈ collect authStep authorises w pre →
      findResetToken token (run authStep w pre).db = none

/-- A password is set by a reset token only when the token is not valid any more, and no
other call has set a password with it. -/
def SetsAfterSpent (w : AuthWorld n) (l : AuthLabel n) : Prop :=
  ∀ token, authorises w l = some (.passwordResetTokens, token) →
    findResetToken token w.db = none ∧ ∀ i, (w.calls i).changedWith ≠ some token

/-! ## One credential -/

/-- The credential was used once at most, and if it was, it is not valid any more. -/
structure Spent (db : AuthDb) (used : List (CredentialTable × Nat)) (e : CredentialTable × Nat) : Prop where
  once : used.count e ≤ 1
  dead : e ∈ used → e.2 < db.drawn ∧ db.usable? e.1 e.2 = none

theorem AuthDb.Decays.unusable {db db' : AuthDb} (h : db.Decays db') {t : CredentialTable} {k : Nat}
    (hk : k < db.drawn) (hnone : db.usable? t k = none) : db'.usable? t k = none := by
  cases hc : db'.usable? t k with
  | none => rfl
  | some c' =>
    obtain ⟨c, hc, -⟩ := h.usable? hk hc
    rw [hnone] at hc
    cases hc

namespace Spent

variable {db db' : AuthDb} {used : List (CredentialTable × Nat)} {e e' : CredentialTable × Nat}

theorem nil (db : AuthDb) (e : CredentialTable × Nat) : Spent db [] e := ⟨by simp, by simp⟩

theorem later (h : Spent db used e) (hdecays : db.Decays db') : Spent db' used e where
  once := h.once
  dead he := ⟨lt_of_lt_of_le (h.dead he).1 hdecays.drawn, hdecays.unusable (h.dead he).1 (h.dead he).2⟩

theorem other (h : Spent db used e) (hne : e ≠ e') : Spent db (used ++ [e']) e where
  once := by simpa [List.count_append, hne.symm] using h.once
  dead he := h.dead (by simpa [hne] using he)

theorem new (hnew : e ∉ used) (hdrawn : e.2 < db.drawn) (hdead : db.usable? e.1 e.2 = none) :
    Spent db (used ++ [e]) e where
  once := by simp [List.count_append, List.count_eq_zero_of_not_mem hnew]
  dead _ := ⟨hdrawn, hdead⟩

end Spent

theorem unusable_use (db : AuthDb) (t : CredentialTable) (k : Nat) :
    (db.use t fun c => c.secret == k).usable? t k = none := by
  cases hc : (db.use t fun c => c.secret == k).usable? t k with
  | none => rfl
  | some c => simpa [AuthDb.secret_of_usable? hc] using AuthDb.usable?_use hc

/-! ## Login tokens and recovery codes -/

/-- What is locked is not used yet. -/
def LockedUnused (calls : Fin n → AuthCall) (used : List (CredentialTable × Nat)) : Prop :=
  ∀ i e, (calls i).secretLock = some e → e ∉ used

theorem LockedUnused.update {calls : Fin n → AuthCall} {used : List (CredentialTable × Nat)}
    (h : LockedUnused calls used) {i : Fin n} {c : AuthCall} (hc : ∀ e, c.secretLock = some e → e ∉ used) :
    LockedUnused (Function.update calls i c) used := by
  intro j e he
  simp only [Function.update_apply] at he
  split at he
  · exact hc e he
  · exact h j e he

theorem AuthCall.secretLock_ne {c : AuthCall} {e : CredentialTable × Nat} (h : c.secretLock = some e) :
    e.1 ≠ .passwordResetTokens := by
  cases c <;> simp_all [secretLock] <;> simp [← h]

/-- The commit of a call that uses the credential it has locked. -/
theorem LockedUnused.commit {w : AuthWorld n} (h : AuthInv w) {used : List (CredentialTable × Nat)}
    (hlocked : LockedUnused w.calls used) {i : Fin n} {e : CredentialTable × Nat}
    (hlock : (w.calls i).secretLock = some e) :
    LockedUnused (Function.update w.calls i .returned) (used ++ [e]) := by
  intro j e' he'
  simp only [Function.update_apply] at he'
  split at he'
  case isTrue => cases he'
  case isFalse hji =>
    have hne : e' ≠ e := by
      rintro rfl
      exact hji (h.locks i e' hlock j he')
    simpa [hne] using hlocked j e' he'

theorem AuthCall.lt_drawn_of_secretLock {db : AuthDb} {c : AuthCall} (hsound : c.Sound db)
    {e : CredentialTable × Nat} (h : c.secretLock = some e) : e.2 < db.drawn := by
  cases c <;> cases h
  · exact hsound.1
  · exact hsound

/-- Nothing but reset tokens has been used twice or is still valid. -/
structure LoginsSpent (w : AuthWorld n) (used : List (CredentialTable × Nat)) : Prop where
  inv : AuthInv w
  spent : ∀ e, e.1 ≠ .passwordResetTokens → Spent w.db used e
  locked : LockedUnused w.calls used

theorem LoginsSpent.commit {w w' : AuthWorld n} {used : List (CredentialTable × Nat)}
    (h : LoginsSpent w used) {l : AuthLabel n} (hstep : authStep w l = w') (hdecays : w.db.Decays w'.db)
    {i : Fin n} {e : CredentialTable × Nat} (hlock : (w.calls i).secretLock = some e)
    (hcalls : w'.calls = Function.update w.calls i .returned) (hdead : w'.db.usable? e.1 e.2 = none) :
    LoginsSpent w' (used ++ [e]) where
  inv := hstep ▸ h.inv.step l
  spent e' hkind := by
    by_cases hne : e' = e
    · subst hne
      have hdrawn := AuthCall.lt_drawn_of_secretLock (h.inv.sound i) hlock
      exact .new (h.locked i e' hlock) (lt_of_lt_of_le hdrawn hdecays.drawn) hdead
    · exact ((h.spent e' hkind).later hdecays).other hne
  locked := hcalls ▸ .commit h.inv h.locked hlock

theorem LoginsSpent.step {w : AuthWorld n} {used : List (CredentialTable × Nat)} (h : LoginsSpent w used)
    (l : AuthLabel n) : LoginsSpent (authStep w l) (used ++ (authorises w l).toList) := by
  have hinv := h.inv.step l
  have hmove := authStep_move w l
  generalize hstep : authStep w l = w' at hmove hinv
  cases hmove with
  | apart decays quiet =>
    rw [quiet]
    simpa using ⟨hinv, fun e he => (h.spent e he).later decays, h.locked⟩
  | @moves _ i c quiet _ _ lock =>
    rw [quiet]
    refine ⟨hinv, by simpa using h.spent, ?_⟩
    refine LockedUnused.update (by simpa using h.locked) fun e he hused => ?_
    have hdead := ((h.spent e (AuthCall.secretLock_ne he)).dead (by simpa using hused)).2
    simpa [hdead] using (lock e.1 e.2 he).2
  | commits quiet _ decays _ lock =>
    rw [quiet]
    refine ⟨hinv, fun e he => by simpa using (h.spent e he).later decays, ?_⟩
    exact LockedUnused.update (by simpa using h.locked) (by simp [lock])
  | @resets i token userId newPassword call auth =>
    rw [auth]
    refine ⟨hinv, fun e he => ?_, ?_⟩
    · have hne : e ≠ (.passwordResetTokens, token) := fun heq => he (by rw [heq])
      exact ((h.spent e he).later (resetPassword_decays userId newPassword w.db)).other hne
    · refine LockedUnused.update (fun j e he => ?_) nofun
      have hne : e ≠ (.passwordResetTokens, token) := fun heq => AuthCall.secretLock_ne he (by rw [heq])
      simpa [hne] using h.locked j e he
  | @signsIn i token user call =>
    have hauth : authorises w (.statement i) = some (.passkeyLoginTokens, token) := by simp [authorises, call]
    rw [hauth]
    exact h.commit hstep AuthDb.decays_use (by rw [call]; rfl) rfl (unusable_use _ _ _)
  | @recovers i code userId call =>
    have hauth : authorises w (.statement i) = some (.accountRecoveryCodes, code) := by simp [authorises, call]
    have hdrawn : code < w.db.drawn := (call ▸ h.inv.sound i :)
    rw [hauth]
    refine h.commit hstep (AuthDb.decays_use.trans (AuthDb.decays_issue _ _)) (by rw [call]; rfl) rfl ?_
    exact (AuthDb.decays_issue _ _).unusable hdrawn (unusable_use _ _ _)

theorem LoginsSpent.start (users : Lib.Table Account) (now : Nat) :
    LoginsSpent (AuthWorld.start n users now) [] where
  inv := .start users now
  spent e _ := .nil _ e
  locked _ _ he := by cases he

/-- In every run, a login token and a recovery code let somebody in once at most. -/
theorem LoginsSpent.run (users : Lib.Table Account) (now : Nat) (labels : List (AuthLabel n)) :
    LoginsSpent (run authStep (.start n users now) labels) (collect authStep authorises (.start n users now) labels) :=
  Lib.Transition.run_invariant_collect (G := fun _ _ => True) (LoginsSpent.start users now)
    (fun _ _ l h _ => h.step l) (Lib.Transition.guarded_true labels)

/-! ## Reset tokens -/

/-- The calls know the reset tokens that have set a password. -/
def CallsKnow (w : AuthWorld n) (used : List (CredentialTable × Nat)) : Prop :=
  ∀ token, (.passwordResetTokens, token) ∈ used ↔ ∃ i, (w.calls i).changedWith = some token

theorem exists_update_iff {calls : Fin n → AuthCall} {i : Fin n} {c : AuthCall}
    (h : c.changedWith = (calls i).changedWith) (token : Nat) :
    (∃ j, (Function.update calls i c j).changedWith = some token) ↔ ∃ j, (calls j).changedWith = some token := by
  refine exists_congr fun j => ?_
  simp only [Function.update_apply]
  split
  case isTrue hji => rw [h, hji]
  case isFalse => rfl

theorem CallsKnow.step {w : AuthWorld n} {used : List (CredentialTable × Nat)} (h : CallsKnow w used)
    (l : AuthLabel n) : CallsKnow (authStep w l) (used ++ (authorises w l).toList) := by
  have hmove := authStep_move w l
  generalize authStep w l = w' at hmove
  intro token
  cases hmove with
  | apart _ quiet => simpa [quiet] using h token
  | moves quiet changed => simpa [quiet, exists_update_iff changed] using h token
  | commits quiet changed => simpa [quiet, exists_update_iff changed] using h token
  | @resets i used userId newPassword call auth =>
    simp only [auth, Option.toList_some, List.mem_append, List.mem_singleton, Prod.mk.injEq, true_and, h token,
      AuthWorld.set_calls]
    constructor
    · rintro (⟨j, hj⟩ | rfl)
      · refine ⟨j, ?_⟩
        have hne : j ≠ i := by
          rintro rfl
          simp [call, AuthCall.changedWith] at hj
        simpa [Function.update_apply, hne] using hj
      · exact ⟨i, by simp [AuthCall.changedWith]⟩
    · rintro ⟨j, hj⟩
      simp only [Function.update_apply] at hj
      split at hj
      · exact .inr (Option.some.inj hj).symm
      · exact .inl ⟨j, hj⟩
  | @signsIn i token' user call =>
    have hchanged : AuthCall.returned.changedWith = (w.calls i).changedWith := by rw [call]; rfl
    simpa [authorises, call, exists_update_iff hchanged] using h token
  | @recovers i code userId call =>
    have hchanged : AuthCall.returned.changedWith = (w.calls i).changedWith := by rw [call]; rfl
    simpa [authorises, call, exists_update_iff hchanged] using h token

theorem CallsKnow.run (users : Lib.Table Account) (now : Nat) (labels : List (AuthLabel n)) :
    CallsKnow (run authStep (.start n users now) labels) (collect authStep authorises (.start n users now) labels) :=
  Lib.Transition.run_invariant_collect (G := fun _ _ => True) (fun _ => by simp [AuthWorld.start, AuthCall.changedWith])
    (fun _ _ l h _ => h.step l) (Lib.Transition.guarded_true labels)

/-- A step that sets a password by a reset token leaves the tokens as they are. -/
theorem step_of_resets {w : AuthWorld n} {l : AuthLabel n} {token : Nat}
    (h : authorises w l = some (.passwordResetTokens, token)) (hinv : AuthInv w) :
    token < w.db.drawn ∧ findResetToken token (authStep w l).db = findResetToken token w.db := by
  have hmove := authStep_move w l
  generalize authStep w l = w' at hmove
  cases hmove with
  | apart _ quiet | moves quiet | commits quiet => simp [quiet] at h
  | @resets i token' userId newPassword call auth =>
    obtain rfl : token' = token := by simpa [auth] using h
    exact ⟨(call ▸ hinv.sound i :), rfl⟩
  | signsIn call | recovers call => simp [authorises, call] at h

theorem resetSpent_step {w : AuthWorld n} {used : List (CredentialTable × Nat)} (hinv : AuthInv w)
    (hknow : CallsKnow w used) {token : Nat} (h : Spent w.db used (.passwordResetTokens, token))
    {l : AuthLabel n} (hguard : SetsAfterSpent w l) :
    Spent (authStep w l).db (used ++ (authorises w l).toList) (.passwordResetTokens, token) := by
  have hdecays := authStep_decays w l
  cases hauth : authorises w l with
  | none => simpa using h.later hdecays
  | some e =>
    by_cases hne : (.passwordResetTokens, token) = e
    · subst hne
      obtain ⟨hdead, hothers⟩ := hguard token hauth
      obtain ⟨hdrawn, hsame⟩ := step_of_resets hauth hinv
      have hnew : (.passwordResetTokens, token) ∉ used := fun hused =>
        let ⟨i, hi⟩ := (hknow token).mp hused
        hothers i hi
      exact .new hnew (lt_of_lt_of_le hdrawn hdecays.drawn) (hsame.trans hdead)
    · exact (h.later hdecays).other hne

/-- Where every password is set by a token that is spent, each token is used once. -/
theorem resetSpent_run (users : Lib.Table Account) (now : Nat) {labels : List (AuthLabel n)}
    (hguard : Guarded authStep SetsAfterSpent (.start n users now) labels) (token : Nat) :
    Spent (run authStep (.start n users now) labels).db (collect authStep authorises (.start n users now) labels)
      (.passwordResetTokens, token) :=
  (Lib.Transition.run_invariant_collect
    (J := fun w used => AuthInv w ∧ CallsKnow w used ∧ Spent w.db used (.passwordResetTokens, token))
    ⟨.start users now, fun _ => by simp [AuthWorld.start, AuthCall.changedWith], .nil _ _⟩
    (fun _ _ l h hguard => ⟨h.1.step l, h.2.1.step l, resetSpent_step h.1 h.2.1 h.2.2 hguard⟩) hguard).2.2

/-- In every run, login tokens and recovery codes are used once at most; and every
credential is, reset tokens being spent when they have set a password, exactly if each step
that sets a password by a reset token finds it spent. -/
theorem singleUse_iff (users : Lib.Table Account) (now : Nat) (labels : List (AuthLabel n)) :
    (∀ t k, t ≠ .passwordResetTokens →
      (collect authStep authorises (.start n users now) labels).count (t, k) ≤ 1) ∧
    (SingleUse (.start n users now) labels ↔ Guarded authStep SetsAfterSpent (.start n users now) labels) := by
  have hlogins : ∀ t k, t ≠ .passwordResetTokens →
      (collect authStep authorises (.start n users now) labels).count (t, k) ≤ 1 :=
    fun t k ht => ((LoginsSpent.run users now labels).spent (t, k) ht).once
  refine ⟨hlogins, fun h => ?_, fun hguard => ⟨fun t k => ?_, fun pre suf hlabels token hused => ?_⟩⟩
  · refine Lib.Transition.guarded_iff.mpr fun pre l suf hlabels token hauth => ?_
    have hinv : AuthInv (run authStep (.start n users now) pre) := (AuthInv.start users now).run pre
    have hcollect : collect authStep authorises (.start n users now) (pre ++ [l]) = _ :=
      Lib.Transition.collect_concat
    refine ⟨?_, fun i hi => ?_⟩
    · have hspent := h.spent (pre ++ [l]) suf (by simp [hlabels]) token (by simp [hcollect, hauth])
      rw [Lib.Transition.run_concat] at hspent
      exact (step_of_resets hauth hinv).2 ▸ hspent
    · have hused := (CallsKnow.run users now pre token).mpr ⟨i, hi⟩
      have hall : labels = (pre ++ [l]) ++ suf := by simp [hlabels]
      have honce := h.once .passwordResetTokens token
      rw [hall, Lib.Transition.collect_append, hcollect, hauth] at honce
      have hpos := List.count_pos_iff.mpr hused
      simp only [List.count_append, Option.toList_some, List.count_singleton_self] at honce
      omega
  · by_cases ht : t = .passwordResetTokens
    · exact ht ▸ (resetSpent_run users now hguard k).once
    · exact hlogins t k ht
  · subst hlabels
    exact ((resetSpent_run users now (Lib.Transition.guarded_append.mp hguard).1 token).dead hused).2

/-! ## A reset that stops -/

section

local instance twoResets : NeZero 2 := ⟨two_ne_zero⟩

/-- The process stops after the password was set; the token then sets another. -/
def stoppedReset : List (AuthLabel 2) :=
  [.requestPasswordReset (Lib.js "a"), .confirmPasswordReset 0 0 8, .statement 0, .statement 0, .crash 0,
    .confirmPasswordReset 1 0 9, .statement 1, .statement 1]

end

theorem stoppedReset_twice : ¬ SingleUse (.start 2 (oneAccount (some 7)) 0) stoppedReset := by
  intro h
  have htwice : (collect authStep authorises (.start 2 (oneAccount (some 7)) 0) stoppedReset).count
      (.passwordResetTokens, 0) = 2 := by
    decide +kernel
  have honce := h.once .passwordResetTokens 0
  omega

end HostPlatform
