-- SUMMARY: What the middleware lets through: trusted origins on the protected paths, and the local rate limits over all runs of requests.
import HostPlatform.Middleware
import HostPlatform.Lib.Transition

/-!
# Requests that pass

The limiters that a request meets are one or none, and a client of a limiter has a bucket of
its own, so that what passes for it is what a single bucket admits at the times of its own
requests.
-/

namespace HostPlatform

open Lib (JsString js)
open Lib.FixedWindow
open Lib.Transition

/-! ## Paths -/

/-- Of two paths that a text starts with, one starts with the other. -/
theorem isPrefixOf_total {path path' text : JsString} (h : path.isPrefixOf text) (h' : path'.isPrefixOf text) :
    path.isPrefixOf path' ∨ path'.isPrefixOf path := by
  simp only [List.isPrefixOf_iff_prefix] at h h' ⊢
  exact List.prefix_or_prefix_of_prefix h h'

/-- Lists of paths none of which starts with one of the other have no request in common. -/
theorem not_under_of_apart {paths paths' : List JsString} {request : RequestHead}
    (hapart : ∀ path ∈ paths, ∀ path' ∈ paths', (path.isPrefixOf path' || path'.isPrefixOf path) = false)
    (h : under paths request = true) : under paths' request = false := by
  obtain ⟨path, hpath, hstarts⟩ := List.any_eq_true.mp h
  refine List.any_eq_false.mpr fun path' hpath' hstarts' => ?_
  have hno := hapart path hpath path' hpath'
  rw [Bool.or_eq_false_iff] at hno
  rcases isPrefixOf_total hstarts hstarts' with hpre | hpre
  · rw [hno.1] at hpre
    cases hpre
  · rw [hno.2] at hpre
    cases hpre

theorem under_of_eq {paths : List JsString} {request : RequestHead} {pathname : JsString}
    (h : request.pathname = pathname) : under paths request = paths.any fun path => path.isPrefixOf pathname := by
  rw [under, h]

/-- A request meets one limiter at most. -/
theorem limitersOf_cases (request : RequestHead) : limitersOf request = [] ∨ ∃ l, limitersOf request = [l] := by
  unfold limitersOf
  by_cases hplain : request.pathname ∈ [js "/api/newsletter", js "/api/contact", js "/api/ai/concierge"]
  · have hauth : under authPaths request = false := by
      rw [under_of_eq rfl]
      revert hplain
      generalize request.pathname = pathname
      revert pathname
      decide
    have hfinancial : under financialPaths request = false := by
      rw [under_of_eq rfl]
      revert hplain
      generalize request.pathname = pathname
      revert pathname
      decide
    have hother : js "/api/newsletter" ≠ js "/api/contact" ∧ js "/api/newsletter" ≠ js "/api/ai/concierge" ∧
        js "/api/contact" ≠ js "/api/ai/concierge" := by decide
    simp only [List.mem_cons, List.not_mem_nil, or_false] at hplain
    rcases hplain with h | h | h
    · cases hpost : request.method == js "POST" <;> simp [h, hauth, hfinancial, hother.1, hother.2.1]
    · cases hpost : request.method == js "POST" <;> simp [h, hauth, hfinancial, hother.1.symm, hother.2.2]
    · cases hpost : request.method == js "POST" <;> simp [h, hauth, hfinancial, hother.2.1.symm, hother.2.2.symm]
  · simp only [List.mem_cons, List.not_mem_nil, or_false, not_or] at hplain
    simp only [beq_eq_false_iff_ne.mpr hplain.1, beq_eq_false_iff_ne.mpr hplain.2.1,
      beq_eq_false_iff_ne.mpr hplain.2.2, Bool.false_and, Bool.false_eq_true, if_false, List.nil_append]
    split
    · exact .inr ⟨_, rfl⟩
    · split
      · exact .inr ⟨_, rfl⟩
      · exact .inl rfl

/-! ## Origins -/

/-- The paths whose mutating requests are limited for every client. -/
def protectedPaths : List JsString := authPaths ++ financialPaths

theorem unit_of_under {request : RequestHead} (h : under protectedPaths request = true) :
    (request.pathname[5]?.map Lib.Pattern.foldUnit) ≠ some 72 := by
  obtain ⟨path, hpath, hstarts⟩ := List.any_eq_true.mp h
  obtain ⟨rest, hrest⟩ := List.isPrefixOf_iff_prefix.mp hstarts
  have hunit : ∀ path ∈ protectedPaths, 5 < path.length ∧ path[5]?.map Lib.Pattern.foldUnit ≠ some 72 := by decide
  obtain ⟨hlength, hne⟩ := hunit path hpath
  rwa [← hrest, List.getElem?_append_left hlength]

theorem not_blobUpload_of_under {request : RequestHead} (h : under protectedPaths request = true) :
    isBlobUploadPath request.pathname = false := by
  by_contra hblob
  simp only [Bool.not_eq_false, isBlobUploadPath, Bool.and_eq_true] at hblob
  have hfold := beq_iff_eq.mp hblob.1.1.1.1
  have hunit := congrArg (fun text : JsString => text[5]?) hfold
  simp only [List.getElem?_map, List.getElem?_take] at hunit
  exact unit_of_under h hunit

/-- No path of the protected groups is exempt. -/
theorem not_exempt_of_under {request : RequestHead} (h : under protectedPaths request = true) :
    isExemptMutation request = false := by
  have hwebhooks : under [js "/api/webhooks/"] request = false := not_under_of_apart (by decide) h
  have hcron : (request.pathname == js "/api/cron/sweep") = false := by
    refine beq_eq_false_iff_ne.mpr fun heq => ?_
    rw [under_of_eq heq] at h
    revert h
    decide
  have hauth : (under [js "/api/auth/"] request && !under authPaths request) = false := by
    rw [under, protectedPaths, List.any_append, Bool.or_eq_true] at h
    rcases h with h | h
    · rw [Bool.and_eq_false_iff]
      exact .inr (by rw [under, h]; rfl)
    · have hfinancial : under financialPaths request = true := h
      rw [not_under_of_apart (by decide) hfinancial, Bool.false_and]
  simp only [isExemptMutation, not_blobUpload_of_under h, hwebhooks, hcron, hauth, Bool.or_false]

theorem under_api_of_under {request : RequestHead} (h : under protectedPaths request = true) :
    under [js "/api/"] request = true := by
  obtain ⟨path, hpath, hstarts⟩ := List.any_eq_true.mp h
  have hapi : ∀ path ∈ protectedPaths, (js "/api/").isPrefixOf path = true := by decide
  have hprefix := hapi path hpath
  rw [List.isPrefixOf_iff_prefix] at hstarts hprefix
  rw [under, List.any_cons, List.any_nil, Bool.or_false, List.isPrefixOf_iff_prefix]
  exact hprefix.trans hstarts

/-- A request that changes something on a protected path passes with a trusted origin only. -/
theorem protectedRequest_trusted (d : Deployment) (now : Nat) (distributed : DistributedAnswer)
    (request : RequestHead) (buckets : Buckets) (hmutating : mutating request = true)
    (hunder : under protectedPaths request = true) {noindex : Bool}
    (hnext : (middleware d now distributed request buckets).1 = .next noindex) : trustedOrigin d request = true := by
  by_contra huntrusted
  unfold middleware at hnext
  rw [hmutating, under_api_of_under hunder, not_exempt_of_under hunder, Bool.not_eq_true _ |>.mp huntrusted] at hnext
  cases hnext

/-- A password sign-in from the site itself. -/
def ownSignIn : RequestHead :=
  ⟨js "POST", js "/api/auth/callback/credentials", some (js "https://host.example"), js "https://host.example", none,
    none⟩

theorem ownSignIn_trusted : trustedOrigin ⟨false, false, none, false⟩ ownSignIn = true :=
  protectedRequest_trusted ⟨false, false, none, false⟩ 0 (fun _ => false) ownSignIn (fun _ => none) (by decide)
    (by decide) (by decide : _ = MiddlewareOutcome.next false)

/-! ## One client of one limiter -/

theorem limiterKey_inj {l l' : Limiter} {ip ip' : JsString} (h : l.key ip = l'.key ip') : l = l' ∧ ip = ip' := by
  cases l <;> cases l' <;> simp_all [Limiter.key, Limiter.name, js, Lib.JsString.ofChar]

structure Visit where
  now : Nat
  request : RequestHead
  distributed : DistributedAnswer

namespace Visit

variable (d : Deployment) (l : Limiter) (ip : JsString)

def step (buckets : Buckets) (v : Visit) : Buckets := (middleware d v.now v.distributed v.request buckets).2

def passes (buckets : Buckets) (v : Visit) : Bool :=
  (middleware d v.now v.distributed v.request buckets).1.isNext

/-- The request is one of this client's to the limiter. -/
def isOf (v : Visit) : Bool := limitersOf v.request == [l] && clientIp v.request == ip

/-- The request is counted in the bucket of the client. -/
def counted (v : Visit) : Bool :=
  v.isOf l ip && !(mutating v.request && under [js "/api/"] v.request && !isExemptMutation v.request &&
    !trustedOrigin d v.request) && !d.redis && !(d.production || d.requireDistributed)

/-- The times at which requests of the client pass. -/
def passed (visits : List Visit) : List Nat :=
  collect (step d) (fun buckets v => if v.isOf l ip && v.passes d buckets then some v.now else none) (fun _ => none)
    visits

variable {d l ip}

/-- What the middleware does with a request of one limiter. -/
theorem middleware_of_limiter {request : RequestHead} (h : limitersOf request = [l]) (now : Nat)
    (distributed : DistributedAnswer) (buckets : Buckets) :
    middleware d now distributed request buckets =
      if mutating request && under [js "/api/"] request && !isExemptMutation request && !trustedOrigin d request then
        (.rejected 403 (js "INVALID_ORIGIN") (js "Request origin was not accepted."), buckets)
      else
        ((passLimiter d now distributed (clientIp request) l buckets).1.getD
            (.next (under [js "/api/admin"] request)),
          (passLimiter d now distributed (clientIp request) l buckets).2) := by
  unfold middleware
  rw [h]
  split
  · rfl
  · unfold passLimiters
    cases hpass : passLimiter d now distributed (clientIp request) l buckets with
    | mk outcome buckets =>
      cases outcome with
      | some outcome => rfl
      | none => rfl

theorem isNext_getD (allowed : Bool) (status : Nat) (code message : JsString) (noindex : Bool) :
    ((if allowed then none else some (MiddlewareOutcome.rejected status code message)).getD
      (MiddlewareOutcome.next noindex)).isNext = allowed := by
  cases allowed with
  | true => rfl
  | false => rfl

/-- A request that is counted is one more of the client's bucket. -/
theorem step_of_counted {v : Visit} (h : v.counted d l ip = true) (buckets : Buckets) :
    v.step d buckets = Function.update buckets (l.key ip)
        (some (hit l.limit l.windowMs v.now (buckets (l.key ip))).2) ∧
      v.passes d buckets = (hit l.limit l.windowMs v.now (buckets (l.key ip))).1 ∧ v.isOf l ip = true := by
  simp only [counted, isOf, Bool.and_eq_true, Bool.not_eq_true', beq_iff_eq] at h
  obtain ⟨⟨⟨⟨hlimiter, hip⟩, horigin⟩, hredis⟩, hlocal⟩ := h
  have hmiddleware := middleware_of_limiter (d := d) hlimiter v.now v.distributed buckets
  rw [horigin, if_neg Bool.false_ne_true, passLimiter, hredis, hlocal, hip] at hmiddleware
  simp only [Bool.false_eq_true, if_false, localLimit] at hmiddleware
  refine ⟨by rw [step, hmiddleware], ?_, by simp [isOf, hlimiter, hip]⟩
  rw [passes, hmiddleware]
  exact isNext_getD _ _ _ _ _

/-- The other requests leave the bucket alone, and none of the client's passes among them. -/
theorem step_of_not_counted {v : Visit} (h : v.counted d l ip = false) (buckets : Buckets) :
    v.step d buckets (l.key ip) = buckets (l.key ip) ∧
      (d.redis = false → v.isOf l ip = true → v.passes d buckets = false) := by
  rcases limitersOf_cases v.request with hnone | ⟨l', hlimiter⟩
  · have hmiddleware : (middleware d v.now v.distributed v.request buckets).2 = buckets := by
      unfold middleware
      rw [hnone]
      split
      · rfl
      · rfl
    exact ⟨congrFun hmiddleware _, fun _ hof => by simp [isOf, hnone] at hof⟩
  · have hmiddleware := middleware_of_limiter (d := d) hlimiter v.now v.distributed buckets
    by_cases horigin : (mutating v.request && under [js "/api/"] v.request && !isExemptMutation v.request &&
        !trustedOrigin d v.request) = true
    · rw [if_pos horigin] at hmiddleware
      exact ⟨by rw [step, hmiddleware], fun _ _ => by rw [passes, hmiddleware]; rfl⟩
    · rw [if_neg horigin, passLimiter] at hmiddleware
      cases hredis : d.redis with
      | true =>
        rw [hredis, if_pos rfl] at hmiddleware
        exact ⟨by rw [step, hmiddleware], fun h => by cases h⟩
      | false =>
        rw [hredis, if_neg Bool.false_ne_true] at hmiddleware
        cases hclosed : d.production || d.requireDistributed with
        | true =>
          rw [hclosed, if_pos rfl] at hmiddleware
          exact ⟨by rw [step, hmiddleware], fun _ _ => by rw [passes, hmiddleware]; rfl⟩
        | false =>
          have hother : ¬ (l' = l ∧ clientIp v.request = ip) := by
            rintro ⟨rfl, rfl⟩
            simp [counted, isOf, hlimiter, Bool.not_eq_true _ |>.mp horigin, hredis, hclosed] at h
          rw [hclosed, if_neg Bool.false_ne_true] at hmiddleware
          refine ⟨?_, fun _ hof => ?_⟩
          · rw [step, hmiddleware]
            exact Function.update_of_ne (fun hkey => hother (limiterKey_inj hkey.symm)) _ _
          · simp only [isOf, hlimiter, Bool.and_eq_true, beq_iff_eq, List.cons.injEq, and_true] at hof
            exact absurd hof hother

/-- The times at which the bucket of the client is asked. -/
def times (d : Deployment) (l : Limiter) (ip : JsString) (visits : List Visit) : List Nat :=
  (visits.filter (counted d l ip)).map Visit.now

theorem times_cons_of_counted {v : Visit} (h : v.counted d l ip = true) (visits : List Visit) :
    times d l ip (v :: visits) = v.now :: times d l ip visits := by
  rw [times, List.filter_cons_of_pos h, List.map_cons, times]

theorem times_cons_of_not_counted {v : Visit} (h : v.counted d l ip = false) (visits : List Visit) :
    times d l ip (v :: visits) = times d l ip visits := by
  rw [times, List.filter_cons_of_neg (by simp [h]), times]

theorem run_bucket (visits : List Visit) (buckets : Buckets) :
    run (step d) buckets visits (l.key ip) = after l.limit l.windowMs (buckets (l.key ip)) (times d l ip visits) := by
  induction visits generalizing buckets with
  | nil => rfl
  | cons v visits ih =>
    rw [run_cons, ih]
    cases hcounted : v.counted d l ip with
    | true =>
      rw [(step_of_counted hcounted buckets).1, Function.update_self, times_cons_of_counted hcounted]
      rfl
    | false => rw [(step_of_not_counted hcounted buckets).1, times_cons_of_not_counted hcounted]

/-- What passes for a client is what its bucket admits. -/
theorem passed_eq (hredis : d.redis = false) (visits : List Visit) (buckets : Buckets) :
    collect (step d) (fun buckets v => if v.isOf l ip && v.passes d buckets then some v.now else none) buckets visits =
      admitted l.limit l.windowMs (buckets (l.key ip)) (times d l ip visits) := by
  induction visits generalizing buckets with
  | nil => rfl
  | cons v visits ih =>
    rw [collect, ih]
    cases hcounted : v.counted d l ip with
    | true =>
      obtain ⟨hstep, hpasses, hof⟩ := step_of_counted hcounted buckets
      rw [hstep, Function.update_self, times_cons_of_counted hcounted, admitted, hpasses, hof]
      congr 1
      cases (hit l.limit l.windowMs v.now (buckets (l.key ip))).1 with
      | true => rfl
      | false => rfl
    | false =>
      obtain ⟨hstep, hpasses⟩ := step_of_not_counted hcounted buckets
      rw [hstep, times_cons_of_not_counted hcounted]
      cases hof : v.isOf l ip with
      | true => rw [hpasses hredis hof]; rfl
      | false => rfl

theorem sorted_times {visits : List Visit} (hsorted : (visits.map Visit.now).Pairwise (· ≤ ·)) :
    (times d l ip visits).Pairwise (· ≤ ·) :=
  hsorted.sublist (List.filter_sublist.map Visit.now)

end Visit

theorem Limiter.one_le_limit (l : Limiter) : 1 ≤ l.limit := by
  cases l <;> decide

/-- Where the process counts itself, in any `k` windows' time at most `k + 1` times the limit of
requests of one client pass a limiter, whatever else is requested in between. -/
theorem passed_le (d : Deployment) (hredis : d.redis = false) (l : Limiter) (ip : JsString) {visits : List Visit}
    (hsorted : (visits.map Visit.now).Pairwise (· ≤ ·)) (x k : Nat) :
    between x (x + k * l.windowMs) (Visit.passed d l ip visits) ≤ (k + 1) * l.limit := by
  rw [Visit.passed, Visit.passed_eq hredis]
  exact between_admitted_le l.one_le_limit (Visit.sorted_times hsorted) x k

/-! ## Refusals -/

theorem counted_of_refused {d : Deployment} (hredis : d.redis = false) {l : Limiter} {ip : JsString} {v : Visit}
    (hof : v.isOf l ip = true) {buckets : Buckets} {code message : JsString}
    (hrefused : (middleware d v.now v.distributed v.request buckets).1 = .rejected 429 code message) :
    v.counted d l ip = true := by
  have hlimiter : limitersOf v.request = [l] := by
    simp only [Visit.isOf, Bool.and_eq_true, beq_iff_eq] at hof
    exact hof.1
  rw [Visit.middleware_of_limiter hlimiter] at hrefused
  split at hrefused
  · cases hrefused
  case isFalse horigin =>
    rw [passLimiter, hredis] at hrefused
    cases hclosed : d.production || d.requireDistributed with
    | true =>
      rw [hclosed] at hrefused
      cases hrefused
    | false =>
      simp only [Visit.counted, hof, Bool.not_eq_true _ |>.mp horigin, hredis, hclosed, Bool.not_false,
        Bool.and_true]

/-- A client is refused only if a whole limit of its requests passed within the last window's time. -/
theorem limit_le_passed_of_refused (d : Deployment) (hredis : d.redis = false) (l : Limiter) (ip : JsString)
    {visits : List Visit} (hsorted : (visits.map Visit.now).Pairwise (· ≤ ·)) (v : Visit)
    (hof : v.isOf l ip = true) {code message : JsString}
    (hrefused : (middleware d v.now v.distributed v.request (run (Visit.step d) (fun _ => none) visits)).1 =
      .rejected 429 code message) :
    l.limit ≤ (Visit.passed d l ip visits).countP fun t => decide (v.now ≤ t + l.windowMs) := by
  obtain ⟨-, hpasses, -⟩ := Visit.step_of_counted (counted_of_refused hredis hof hrefused)
    (run (Visit.step d) (fun _ => none) visits)
  rw [Visit.run_bucket, Visit.passes, hrefused] at hpasses
  rw [Visit.passed, Visit.passed_eq hredis]
  exact limit_le_of_refused l.one_le_limit (Visit.sorted_times hsorted) hpasses.symm

/-! ## Six questions -/

def localDeployment : Deployment := ⟨false, false, none, false⟩

/-- A question to the operator from the site itself. -/
def contactVisit (now : Nat) : Visit :=
  ⟨now, ⟨js "POST", js "/api/contact", some (js "https://host.example"), js "https://host.example",
    some (js "198.51.100.7, 10.0.0.1"), none⟩, fun _ => false⟩

theorem fiveContacts_passed :
    between 0 900000
      (Visit.passed localDeployment .contact (js "198.51.100.7") ([1, 2, 3, 4, 5].map contactVisit)) ≤ 10 :=
  passed_le localDeployment rfl .contact (js "198.51.100.7") (by decide) 0 1

theorem sixthContact_refused :
    5 ≤ (Visit.passed localDeployment .contact (js "198.51.100.7") ([1, 2, 3, 4, 5].map contactVisit)).countP
      fun t => decide (6 ≤ t + 900000) := by
  have hrefused : (middleware localDeployment 6 (fun _ => false) (contactVisit 6).request
      (run (Visit.step localDeployment) (fun _ => none) ([1, 2, 3, 4, 5].map contactVisit))).1 =
      .rejected 429 (js "RATE_LIMITED") (Limiter.tooMany .contact) := by decide
  exact limit_le_passed_of_refused localDeployment rfl .contact (js "198.51.100.7") (by decide) (contactVisit 6)
    (by decide) hrefused

end HostPlatform
