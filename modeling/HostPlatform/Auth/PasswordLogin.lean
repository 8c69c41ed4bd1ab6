-- SUMMARY: Signing in with a password (`authOptions.ts`): the failure counter of an account, the window it counts in, and the lock; and what a sequence of attempts leaves of them.
import HostPlatform.Auth.CredentialCalls

/-!
# Signing in with a password

The attempts on one account are evaluated one after another, each at one reading of the
clock, in milliseconds. The window is spoken of twice: as the columns of `users` hold it, and
as the wrong passwords of the history that fall into it.
-/

namespace HostPlatform

open Lib.Transition

def failedLoginLimit : Nat := 10

/-- `INTERVAL '15 minutes'`: the length of the counting window, and of the lock. -/
def lockoutMs : Int := 15 * msPerMinute

/-- The columns of `users` that `authorize` reads and writes. -/
structure LoginUser extends Account where
  emailVerified : Bool
  failedLoginCount : Nat
  failedLoginWindowStartedAt : Option Int
  loginLockedUntil : Option Int
  deriving DecidableEq, Repr

/-- The `reason` of the failure event. -/
inductive LoginFailure where
  | invalidCredentials | temporarilyLocked | emailNotVerified
  deriving DecidableEq, Repr

namespace LoginUser

/-! ## Statements -/

/-- `login_locked_until` is set and still to come. -/
def locked (user : LoginUser) (now : Int) : Bool :=
  user.loginLockedUntil.any fun lockedUntil => decide (now < lockedUntil)

/-- The condition of the three `CASE` expressions: there is no window, or it is over. -/
def windowOver (user : LoginUser) (now : Int) : Bool :=
  user.failedLoginWindowStartedAt.all fun startedAt => decide (startedAt < now - lockoutMs)

/-- The value the first `CASE` expression sets, and the third compares. -/
def nextFailedCount (user : LoginUser) (now : Int) : Nat :=
  if user.windowOver now then 1 else user.failedLoginCount + 1

/-- The `UPDATE` after a wrong password. Every expression in it reads the old row. -/
def recordFailure (user : LoginUser) (now : Int) : LoginUser :=
  { user with
    failedLoginCount := user.nextFailedCount now
    failedLoginWindowStartedAt :=
      if user.windowOver now then some now else user.failedLoginWindowStartedAt
    loginLockedUntil :=
      if failedLoginLimit ≤ user.nextFailedCount now then some (now + lockoutMs)
      else user.loginLockedUntil }

/-- The `UPDATE` of a successful login. -/
def clearFailures (user : LoginUser) : LoginUser :=
  { user with
    failedLoginCount := 0
    failedLoginWindowStartedAt := none
    loginLockedUntil := none }

/-- Nothing is counted: as an account starts, and as a successful login, a new password and
an administrator's unlocking leave it. -/
structure Clear (user : LoginUser) : Prop where
  count : user.failedLoginCount = 0
  window : user.failedLoginWindowStartedAt = none
  lock : user.loginLockedUntil = none

theorem clearFailures_clear (user : LoginUser) : user.clearFailures.Clear := ⟨rfl, rfl, rfl⟩

end LoginUser

/-! ## Authorizing -/

/-- `authorize` with a password, of the user the email selects. `bcrypt.compare` comes before
the lock is looked at, and its result is used after it. -/
def authorize (requireEmailVerification : Bool) (user : LoginUser) (now : Int) (password : Password) :
    Except LoginFailure SignIn × LoginUser :=
  match user.active, user.passwordHash with
  | true, some hash =>
    let valid := decide (password = hash)
    if user.locked now then (.error .temporarilyLocked, user)
    else if !valid then (.error .invalidCredentials, user.recordFailure now)
    else if requireEmailVerification && !user.emailVerified then (.error .emailNotVerified, user)
    else (.ok ⟨user.id, user.sessionVersion⟩, user.clearFailures)
  | _, _ => (.error .invalidCredentials, user)

structure LoginAttempt where
  time : Int
  password : Password
  deriving DecidableEq, Repr

/-- What is seen of an attempt: a wrong password evaluated outside a lock, or a login. -/
inductive LoginEvent where
  | wrong (time : Int)
  | accepted (time : Int)
  deriving DecidableEq, Repr

namespace LoginUser

/-- A wrong password is evaluated, and no lock is on. -/
def evaluatesWrong (user : LoginUser) (a : LoginAttempt) : Bool :=
  user.active && user.passwordHash.any (fun hash => decide (a.password ≠ hash)) && !user.locked a.time

variable (requireEmailVerification : Bool)

def accepts (user : LoginUser) (a : LoginAttempt) : Bool :=
  (authorize requireEmailVerification user a.time a.password).1.isOk

def attempt (user : LoginUser) (a : LoginAttempt) : LoginUser :=
  (authorize requireEmailVerification user a.time a.password).2

def event (user : LoginUser) (a : LoginAttempt) : Option LoginEvent :=
  if user.evaluatesWrong a then some (.wrong a.time)
  else if user.accepts requireEmailVerification a then some (.accepted a.time)
  else none

/-- What an attempt does, by its event. -/
inductive Attempted (user : LoginUser) (a : LoginAttempt) (user' : LoginUser) (e : Option LoginEvent) :
    Prop where
  | wrong (hlocked : user.locked a.time = false) (huser : user' = user.recordFailure a.time)
      (he : e = some (.wrong a.time))
  | accepted (hlocked : user.locked a.time = false) (huser : user' = user.clearFailures)
      (he : e = some (.accepted a.time))
  | refused (huser : user' = user) (he : e = none)

theorem attempted (user : LoginUser) (a : LoginAttempt) :
    user.Attempted a (user.attempt requireEmailVerification a) (user.event requireEmailVerification a) := by
  unfold attempt event accepts evaluatesWrong authorize
  cases hactive : user.active with
  | false => exact .refused rfl rfl
  | true =>
    cases hhash : user.passwordHash with
    | none => exact .refused rfl rfl
    | some hash =>
      cases hlocked : user.locked a.time with
      | true => exact .refused (by simp) (by simp [Except.isOk, Except.toBool])
      | false =>
        by_cases hvalid : a.password = hash
        · by_cases hemail : (requireEmailVerification && !user.emailVerified) = true
          · exact .refused (by simp [hvalid, hemail]) (by simp [hvalid, hemail, Except.isOk, Except.toBool])
          · refine .accepted hlocked ?_ ?_
            · simp [hvalid, hemail]
            · simp [hvalid, hemail, Except.isOk, Except.toBool]
        · exact .wrong hlocked (by simp [hvalid]) (by simp [hvalid])

end LoginUser

end HostPlatform
