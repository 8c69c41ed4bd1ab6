-- SUMMARY: The lock of an account bounds guessing: after ten wrong passwords of one counting window no password is accepted for 15 minutes, and no 15 minutes without a login see more than 19 wrong passwords evaluated.
import HostPlatform.Auth.PasswordLogin

namespace HostPlatform

open Lib.Transition

variable {requireEmailVerification : Bool}

/-! ## The history of an account -/

/-- The wrong passwords evaluated outside a lock, and the logins, in their order. -/
def loginEvents (requireEmailVerification : Bool) (user : LoginUser) (attempts : List LoginAttempt) :
    List LoginEvent :=
  collect (LoginUser.attempt requireEmailVerification) (LoginUser.event requireEmailVerification) user attempts

/-- The counting window after one more event, as the times of its wrong passwords. The first of
them opened it. -/
def LoginEvent.count (window : List Int) : LoginEvent → List Int
  | .accepted _ => []
  | .wrong time =>
    match window with
    | [] => [time]
    | opened :: _ => if opened + lockoutMs < time then [time] else window ++ [time]

/-- The wrong passwords evaluated since the one that opened the current window, itself included:
none of them later than 15 minutes after it, and no login between them. -/
def countingWindow (events : List LoginEvent) : List Int := events.foldl LoginEvent.count []

/-- A wrong password in the closed 15 minutes from `start`. -/
def LoginEvent.wrongWithin (start : Int) : LoginEvent → Bool
  | .wrong time => decide (start ≤ time ∧ time ≤ start + lockoutMs)
  | .accepted _ => false

namespace LoginUser

/-! ## The columns and the window -/

/-- The columns of the row count the window. -/
structure Counts (user : LoginUser) (window : List Int) : Prop where
  count : user.failedLoginCount = window.length
  opened : user.failedLoginWindowStartedAt = window.head?

theorem Clear.counts {user : LoginUser} (h : user.Clear) : user.Counts [] := ⟨h.count, h.window⟩

theorem Counts.recordFailure {user : LoginUser} {window : List Int} (h : user.Counts window) (now : Int) :
    (user.recordFailure now).Counts (LoginEvent.count window (.wrong now)) := by
  cases window with
  | nil =>
    have hover : user.windowOver now = true := by simp [windowOver, h.opened]
    constructor
    case count => simp [LoginUser.recordFailure, nextFailedCount, hover, LoginEvent.count]
    case opened => simp [LoginUser.recordFailure, hover, LoginEvent.count]
  | cons opened window =>
    have hover : user.windowOver now = decide (opened + lockoutMs < now) := by
      simp [windowOver, h.opened, lt_sub_iff_add_lt]
    by_cases hnew : opened + lockoutMs < now
    · constructor
      case count => simp [LoginUser.recordFailure, nextFailedCount, hover, hnew, LoginEvent.count]
      case opened => simp [LoginUser.recordFailure, hover, hnew, LoginEvent.count]
    · constructor
      case count => simp [LoginUser.recordFailure, nextFailedCount, hover, hnew, LoginEvent.count, h.count]
      case opened => simp [LoginUser.recordFailure, hover, hnew, LoginEvent.count, h.opened]

theorem Counts.attempt {user : LoginUser} {events : List LoginEvent}
    (h : user.Counts (countingWindow events)) (a : LoginAttempt) :
    (user.attempt requireEmailVerification a).Counts
      (countingWindow (events ++ (user.event requireEmailVerification a).toList)) := by
  unfold countingWindow
  rw [List.foldl_append]
  cases user.attempted requireEmailVerification a with
  | wrong hlocked huser he =>
    rw [huser, he]
    exact h.recordFailure a.time
  | accepted hlocked huser he =>
    rw [huser, he]
    exact user.clearFailures_clear.counts
  | refused huser he =>
    rw [huser, he]
    exact h

theorem counts_run (requireEmailVerification : Bool) {user : LoginUser} (h : user.Clear) (attempts : List LoginAttempt) :
    (run (attempt requireEmailVerification) user attempts).Counts
      (countingWindow (loginEvents requireEmailVerification user attempts)) :=
  run_invariant_collect (J := fun user events => Counts user (countingWindow events)) h.counts
    (fun _ _ a hcounts _ => hcounts.attempt a) (guarded_true attempts)

/-! ## While the lock is on -/

theorem attempt_of_locked {user : LoginUser} {a : LoginAttempt} (h : user.locked a.time = true) :
    user.attempt requireEmailVerification a = user ∧ user.accepts requireEmailVerification a = false := by
  unfold attempt accepts authorize
  split
  · simp [h, Except.isOk, Except.toBool]
  · exact ⟨rfl, rfl⟩

theorem locked_of_lt {user : LoginUser} {lockedUntil now : Int}
    (hlock : user.loginLockedUntil = some lockedUntil) (hnow : now < lockedUntil) :
    user.locked now = true := by
  simp [locked, hlock, hnow]

theorem run_of_locked (requireEmailVerification : Bool) {user : LoginUser} {lockedUntil : Int}
    (hlock : user.loginLockedUntil = some lockedUntil) {attempts : List LoginAttempt}
    (hbefore : ∀ a ∈ attempts, a.time < lockedUntil) :
    run (attempt requireEmailVerification) user attempts = user := by
  induction attempts with
  | nil => rfl
  | cons a attempts ih =>
    have hstay : user.attempt requireEmailVerification a = user :=
      (attempt_of_locked (locked_of_lt hlock (hbefore a List.mem_cons_self))).1
    rw [run_cons, hstay]
    exact ih fun b hb => hbefore b (List.mem_cons_of_mem a hb)

/-- The tenth wrong password of a window sets the lock. -/
theorem lock_of_tenth {user : LoginUser} {a : LoginAttempt} {window : List Int}
    (hwrong : user.evaluatesWrong a = true)
    (hcounts : (user.attempt requireEmailVerification a).Counts window)
    (htenth : failedLoginLimit ≤ window.length) :
    (user.attempt requireEmailVerification a).loginLockedUntil = some (a.time + lockoutMs) := by
  have hevent : user.event requireEmailVerification a = some (.wrong a.time) := by simp [event, hwrong]
  cases user.attempted requireEmailVerification a with
  | wrong hlocked huser he =>
    rw [huser] at hcounts ⊢
    have hcount : user.nextFailedCount a.time = window.length := hcounts.count
    simp [recordFailure, hcount, htenth]
  | accepted hlocked huser he => simp [hevent] at he
  | refused huser he => simp [hevent] at he

/-! ## Fifteen minutes without a login -/

/-- Where an account stands in the closed 15 minutes from `start` after `n` wrong passwords in
them: by when its window opened, and whether it is locked to the end. -/
inductive Stage (start : Int) (user : LoginUser) (n : Nat) : Prop where
  /-- No wrong password yet, and the window is of before. -/
  | before (hn : n = 0)
      (hopened : ∀ w ∈ user.failedLoginWindowStartedAt, w < start ∧ 1 ≤ user.failedLoginCount)
  /-- The window is of before, and so was its first wrong password. -/
  | old (w : Int) (hw : user.failedLoginWindowStartedAt = some w) (hbefore : w < start)
      (hstill : start ≤ w + lockoutMs) (hn : n + 1 ≤ user.failedLoginCount) (hcount : user.failedLoginCount ≤ 9)
  | oldLocked (w lockedUntil : Int) (hw : user.failedLoginWindowStartedAt = some w) (hbefore : w < start)
      (hstill : start ≤ w + lockoutMs) (hlock : user.loginLockedUntil = some lockedUntil)
      (huntil : start + lockoutMs ≤ lockedUntil) (hn : n ≤ 9)
  | same (hw : user.failedLoginWindowStartedAt = some start) (hn : n ≤ user.failedLoginCount)
      (hcount : user.failedLoginCount ≤ 9)
  | sameLocked (lockedUntil : Int) (hw : user.failedLoginWindowStartedAt = some start)
      (hcount : user.failedLoginCount = 10) (hlock : user.loginLockedUntil = some lockedUntil)
      (huntil : start + lockoutMs ≤ lockedUntil) (hn : n ≤ 10)
  /-- Up to nine wrong passwords, then a window of after `start`. -/
  | new (w : Int) (hw : user.failedLoginWindowStartedAt = some w) (hafter : start < w)
      (hn : n ≤ 9 + user.failedLoginCount) (hcount : user.failedLoginCount ≤ 9)
  | locked (lockedUntil : Int) (hlock : user.loginLockedUntil = some lockedUntil)
      (huntil : start + lockoutMs < lockedUntil) (hn : n ≤ 19)

theorem Stage.le {start : Int} {user : LoginUser} {n : Nat} (h : user.Stage start n) : n ≤ 19 := by
  cases h <;> omega

theorem not_locked {user : LoginUser} {lockedUntil now : Int} (h : user.locked now = false)
    (hlock : user.loginLockedUntil = some lockedUntil) : lockedUntil ≤ now := by
  simpa [locked, hlock] using h

theorem windowOver_iff {user : LoginUser} {w now : Int} (hw : user.failedLoginWindowStartedAt = some w) :
    user.windowOver now = true ↔ w + lockoutMs < now := by
  simp [windowOver, hw, lt_sub_iff_add_lt]

/-- A wrong password that opens a window in the 15 minutes. -/
theorem Stage.opens {start now : Int} {user : LoginUser} {n : Nat} (h : user.Stage start n)
    (hover : user.windowOver now = true) (hstart : start ≤ now) (hend : now ≤ start + lockoutMs)
    (hlocked : user.locked now = false) : (user.recordFailure now).Stage start (n + 1) := by
  have hcount : (user.recordFailure now).failedLoginCount = 1 := by
    simp [recordFailure, nextFailedCount, hover]
  have hwindow : (user.recordFailure now).failedLoginWindowStartedAt = some now := by
    simp [recordFailure, hover]
  cases h with
  | before hn hopened =>
    rcases hstart.eq_or_lt with rfl | hafter
    · exact .same hwindow (by omega) (by omega)
    · exact .new now hwindow hafter (by omega) (by omega)
  | old w hw hbefore hstill hn hle =>
    have := (windowOver_iff hw).mp hover
    exact .new now hwindow (by omega) (by omega) (by omega)
  | oldLocked w lockedUntil hw hbefore hstill hlock huntil hn =>
    have := (windowOver_iff hw).mp hover
    exact .new now hwindow (by omega) (by omega) (by omega)
  | same hw => 
    have := (windowOver_iff hw).mp hover
    omega
  | sameLocked lockedUntil hw =>
    have := (windowOver_iff hw).mp hover
    omega
  | new w hw =>
    have := (windowOver_iff hw).mp hover
    omega
  | locked lockedUntil hlock =>
    have := not_locked hlocked hlock
    omega

/-- A wrong password that is counted in the window there is. -/
theorem Stage.counted {start now : Int} {user : LoginUser} {n : Nat} (h : user.Stage start n)
    (hopened : ∀ w ∈ user.failedLoginWindowStartedAt, w ≤ now) (hover : user.windowOver now = false)
    (hstart : start ≤ now) (hend : now ≤ start + lockoutMs) (hlocked : user.locked now = false) :
    (user.recordFailure now).Stage start (n + 1) := by
  have hpos : 0 < lockoutMs := by decide
  have hcount : (user.recordFailure now).failedLoginCount = user.failedLoginCount + 1 := by
    simp [recordFailure, nextFailedCount, hover]
  have hwindow : (user.recordFailure now).failedLoginWindowStartedAt = user.failedLoginWindowStartedAt := by
    simp [recordFailure, hover]
  have hlock : 9 ≤ user.failedLoginCount →
      (user.recordFailure now).loginLockedUntil = some (now + lockoutMs) := by
    intro h9
    simp [recordFailure, nextFailedCount, hover, failedLoginLimit, h9]
  have hwithin : ∀ w, user.failedLoginWindowStartedAt = some w → now ≤ w + lockoutMs := by
    intro w hw
    by_contra hlate
    have hlater : user.windowOver now = true := (windowOver_iff hw).mpr (by omega)
    simp [hlater] at hover
  cases h with
  | before hn hold =>
    cases hw : user.failedLoginWindowStartedAt with
    | none => simp [windowOver, hw] at hover
    | some w =>
      obtain ⟨hbefore, hone⟩ := hold w hw
      have := hwithin w hw
      by_cases h9 : 9 ≤ user.failedLoginCount
      · exact .oldLocked w _ (hwindow.trans hw) hbefore (by omega) (hlock h9) (by omega) (by omega)
      · exact .old w (hwindow.trans hw) hbefore (by omega) (by omega) (by omega)
  | old w hw hbefore hstill hn hle =>
    by_cases h9 : 9 ≤ user.failedLoginCount
    · exact .oldLocked w _ (hwindow.trans hw) hbefore hstill (hlock h9) (by omega) (by omega)
    · exact .old w (hwindow.trans hw) hbefore hstill (by omega) (by omega)
  | oldLocked w lockedUntil hw hbefore hstill hl huntil hn =>
    -- the lock ends with the 15 minutes, and the window is over by then
    have := not_locked hlocked hl
    have := hwithin w hw
    omega
  | same hw hn hle =>
    by_cases h9 : 9 ≤ user.failedLoginCount
    · exact .sameLocked _ (hwindow.trans hw) (by omega) (hlock h9) (by omega) (by omega)
    · exact .same (hwindow.trans hw) (by omega) (by omega)
  | sameLocked lockedUntil hw hten hl huntil hn =>
    have := not_locked hlocked hl
    exact .locked _ (hlock (by omega)) (by omega) (by omega)
  | new w hw hafter hn hle =>
    by_cases h9 : 9 ≤ user.failedLoginCount
    · have := hopened w hw
      exact .locked _ (hlock h9) (by omega) (by omega)
    · exact .new w (hwindow.trans hw) hafter (by omega) (by omega)
  | locked lockedUntil hl huntil hn =>
    have := not_locked hlocked hl
    omega

theorem Stage.wrong {start now : Int} {user : LoginUser} {n : Nat} (h : user.Stage start n)
    (hopened : ∀ w ∈ user.failedLoginWindowStartedAt, w ≤ now) (hstart : start ≤ now)
    (hend : now ≤ start + lockoutMs) (hlocked : user.locked now = false) :
    (user.recordFailure now).Stage start (n + 1) := by
  cases hover : user.windowOver now with
  | true => exact h.opens hover hstart hend hlocked
  | false => exact h.counted hopened hover hstart hend hlocked

theorem recordFailure_opened {user : LoginUser} {now : Int}
    (hopened : ∀ w ∈ user.failedLoginWindowStartedAt, w ≤ now) :
    ∀ w ∈ (user.recordFailure now).failedLoginWindowStartedAt, w ≤ now := by
  intro w hw
  simp only [recordFailure, Option.mem_def] at hw
  split at hw
  · exact (Option.some.inj hw).ge
  · exact hopened w hw

/-- Before the 15 minutes begin, none of their wrong passwords has been seen. -/
theorem Stage.before_recordFailure {start now : Int} {user : LoginUser}
    (hopened : ∀ w ∈ user.failedLoginWindowStartedAt, w ≤ now) (hbefore : now < start) :
    (user.recordFailure now).Stage start 0 := by
  refine .before rfl fun w hw => ⟨?_, ?_⟩
  · exact (recordFailure_opened hopened w hw).trans_lt hbefore
  · simp only [recordFailure, nextFailedCount]
    split <;> omega

/-- The account after the attempts up to `now`, if no login was in the 15 minutes from `start`. -/
structure Bounded (start now : Int) (user : LoginUser) (events : List LoginEvent) : Prop where
  opened : ∀ w ∈ user.failedLoginWindowStartedAt, w ≤ now
  early : now < start → events.countP (LoginEvent.wrongWithin start) = 0
  stage : now ≤ start + lockoutMs → user.Stage start (events.countP (LoginEvent.wrongWithin start))
  le : events.countP (LoginEvent.wrongWithin start) ≤ 19

theorem Clear.bounded {user : LoginUser} (h : user.Clear) (start now : Int) :
    user.Bounded start now [] where
  opened := by simp [h.window]
  early := fun _ => rfl
  stage := fun _ => .before rfl (by simp [h.window])
  le := by simp

theorem Bounded.mono {start now now' : Int} {user : LoginUser} {events : List LoginEvent}
    (h : user.Bounded start now events) (hnow : now ≤ now') : user.Bounded start now' events where
  opened := fun w hw => (h.opened w hw).trans hnow
  early := fun hlt => h.early (by omega)
  stage := fun hle => h.stage (by omega)
  le := h.le

theorem Bounded.attempt {start : Int} {user : LoginUser} {events : List LoginEvent} {a : LoginAttempt}
    (h : user.Bounded start a.time events)
    (hnone : user.event requireEmailVerification a = some (.accepted a.time) →
      ¬ (start ≤ a.time ∧ a.time ≤ start + lockoutMs)) :
    (user.attempt requireEmailVerification a).Bounded start a.time
      (events ++ (user.event requireEmailVerification a).toList) := by
  cases user.attempted requireEmailVerification a with
  | wrong hlocked huser he =>
    rw [huser, he]
    by_cases hwithin : start ≤ a.time ∧ a.time ≤ start + lockoutMs
    · have hcount : (events ++ (some (LoginEvent.wrong a.time)).toList).countP (LoginEvent.wrongWithin start) =
          events.countP (LoginEvent.wrongWithin start) + 1 := by
        simp [LoginEvent.wrongWithin, hwithin]
      have hstage := (h.stage hwithin.2).wrong h.opened hwithin.1 hwithin.2 hlocked
      rw [← hcount] at hstage
      exact ⟨recordFailure_opened h.opened, fun hlt => by omega, fun _ => hstage, hstage.le⟩
    · have hcount : (events ++ (some (LoginEvent.wrong a.time)).toList).countP (LoginEvent.wrongWithin start) =
          events.countP (LoginEvent.wrongWithin start) := by
        simp [LoginEvent.wrongWithin, hwithin]
      refine ⟨recordFailure_opened h.opened, ?_, fun hle => ?_, ?_⟩
      · exact fun hlt => hcount.trans (h.early hlt)
      · have hlt : a.time < start := by omega
        rw [hcount, h.early hlt]
        exact .before_recordFailure h.opened hlt
      · exact hcount.trans_le h.le
  | accepted hlocked huser he =>
    rw [huser, he]
    have hcount : (events ++ (some (LoginEvent.accepted a.time)).toList).countP (LoginEvent.wrongWithin start) =
        events.countP (LoginEvent.wrongWithin start) := by
      simp [LoginEvent.wrongWithin]
    have hwithout := hnone he
    refine ⟨by simp [clearFailures], ?_, fun hle => ?_, ?_⟩
    · exact fun hlt => hcount.trans (h.early hlt)
    · refine .before (hcount.trans (h.early (by omega))) ?_
      simp [clearFailures]
    · exact hcount.trans_le h.le
  | refused huser he =>
    rw [huser, he]
    simpa using h

theorem bounded_run {user : LoginUser} (h : user.Clear) {start : Int} {attempts : List LoginAttempt}
    (hsorted : attempts.Pairwise fun a b => a.time ≤ b.time)
    (hnone : ∀ time, LoginEvent.accepted time ∈ loginEvents requireEmailVerification user attempts →
      ¬ (start ≤ time ∧ time ≤ start + lockoutMs)) {now : Int} (hnow : ∀ a ∈ attempts, a.time ≤ now) :
    (run (attempt requireEmailVerification) user attempts).Bounded start now
      (loginEvents requireEmailVerification user attempts) := by
  induction attempts using List.reverseRecOn generalizing now with
  | nil => exact h.bounded start now
  | append_singleton attempts a ih =>
    obtain ⟨hpre, -, hlast⟩ := List.pairwise_append.mp hsorted
    have hevents : loginEvents requireEmailVerification user (attempts ++ [a]) =
        loginEvents requireEmailVerification user attempts ++
          ((run (attempt requireEmailVerification) user attempts).event requireEmailVerification a).toList :=
      collect_concat
    rw [hevents] at hnone
    have hbounded := ih hpre (fun time htime => hnone time (List.mem_append_left _ htime))
      fun b hb => hlast b hb a (List.mem_singleton_self a)
    rw [run_concat, hevents]
    refine (hbounded.attempt fun he => hnone a.time ?_).mono (hnow a (by simp))
    simp [he]

end LoginUser

/-! ## The lock bounds guessing -/

theorem exists_time_le (attempts : List LoginAttempt) : ∃ now, ∀ a ∈ attempts, a.time ≤ now := by
  induction attempts with
  | nil => exact ⟨0, by simp⟩
  | cons a attempts ih =>
    obtain ⟨now, hnow⟩ := ih
    refine ⟨max a.time now, fun b hb => ?_⟩
    rcases List.mem_cons.mp hb with rfl | hb
    · exact le_max_left _ _
    · exact (hnow b hb).trans (le_max_right _ _)

/-- The attempts are evaluated one after another, on an account whose counters start clear. -/
theorem login_lockout (requireEmailVerification : Bool) {user : LoginUser} (hclear : user.Clear)
    (attempts : List LoginAttempt)
    (hsorted : attempts.Pairwise fun a b => a.time ≤ b.time) :
    (∀ pre a mid b suf, attempts = pre ++ a :: mid ++ b :: suf →
      (run (LoginUser.attempt requireEmailVerification) user pre).evaluatesWrong a = true →
      failedLoginLimit ≤
        (countingWindow (loginEvents requireEmailVerification user (pre ++ [a]))).length →
      b.time < a.time + lockoutMs →
      (run (LoginUser.attempt requireEmailVerification) user (pre ++ a :: mid)).accepts
        requireEmailVerification b = false) ∧
    ∀ start,
      (∀ time, LoginEvent.accepted time ∈ loginEvents requireEmailVerification user attempts →
        ¬ (start ≤ time ∧ time ≤ start + lockoutMs)) →
      (loginEvents requireEmailVerification user attempts).countP (LoginEvent.wrongWithin start) ≤ 19 := by
  constructor
  · rintro pre a mid b suf rfl hwrong htenth hb
    have hcounts := LoginUser.counts_run requireEmailVerification hclear (pre ++ [a])
    rw [run_concat] at hcounts
    have hlock := LoginUser.lock_of_tenth hwrong hcounts htenth
    have hmid : ∀ c ∈ mid, c.time < a.time + lockoutMs := by
      intro c hc
      have hle := (List.pairwise_append.mp hsorted).2.2 c (by simp [hc]) b List.mem_cons_self
      exact hle.trans_lt hb
    rw [run_append, run_cons, LoginUser.run_of_locked requireEmailVerification hlock hmid]
    exact (LoginUser.attempt_of_locked (LoginUser.locked_of_lt hlock hb)).2
  · intro start hnone
    obtain ⟨now, hnow⟩ := exists_time_le attempts
    exact (LoginUser.bounded_run hclear hsorted hnone hnow).le

/-- An account with a password, and nothing counted. -/
def sampleLoginUser : LoginUser where
  id := 1
  email := []
  active := true
  passwordHash := some 7
  sessionVersion := 1
  emailVerified := true
  failedLoginCount := 0
  failedLoginWindowStartedAt := none
  loginLockedUntil := none

/-- A wrong password opens a window, nine more lock the account, and ten more follow the moment
the lock ends: the window is over by then. The right password comes with the last of them. -/
def sampleGuesses : List LoginAttempt :=
  ⟨-1, 0⟩ :: List.replicate 9 ⟨0, 0⟩ ++ List.replicate 10 ⟨900000, 0⟩ ++ [⟨900000, 7⟩]

/-- The right password is refused, and all of the 19 wrong ones were evaluated. -/
theorem sampleGuesses_bounded :
    (run (LoginUser.attempt false) sampleLoginUser sampleGuesses.dropLast).accepts false ⟨900000, 7⟩ = false ∧
      (loginEvents false sampleLoginUser sampleGuesses).countP (LoginEvent.wrongWithin 0) = 19 := by
  have hclear : sampleLoginUser.Clear := ⟨rfl, rfl, rfl⟩
  have hlockout := login_lockout false hclear sampleGuesses (by decide)
  have hevents : loginEvents false sampleLoginUser sampleGuesses =
      .wrong (-1) :: (List.replicate 9 (.wrong 0) ++ List.replicate 10 (.wrong 900000)) := by decide
  refine ⟨?_, le_antisymm (hlockout.2 0 (by simp [hevents])) (by decide)⟩
  exact hlockout.1 (sampleGuesses.take 19) ⟨900000, 0⟩ [] ⟨900000, 7⟩ [] rfl (by decide) (by decide) (by decide)

end HostPlatform
