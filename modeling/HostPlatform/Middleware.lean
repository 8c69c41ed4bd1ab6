-- SUMMARY: The middleware in front of every route: the check of a request's origin and the rate limits.
import HostPlatform.Calendar.ExportedEvents
import HostPlatform.Lib.FixedWindow
import HostPlatform.Lib.Pattern

/-!
# Middleware

A mutating request to the API needs a trusted origin unless its path is exempt, and a request
to one of five groups of paths is counted for its client. Where a distributed limiter is set up
it answers; a production deployment without one refuses; otherwise the process counts in
windows of its own memory.
-/

namespace HostPlatform

open Lib (JsString js)
open Lib.FixedWindow (Bucket hit)
open Lib.JsString (comma trim)

/-! ## Requests -/

/-- What the middleware reads of a request. -/
structure RequestHead where
  method : JsString
  pathname : JsString
  origin : Option JsString
  /-- `nextUrl.origin`. -/
  ownOrigin : JsString
  forwardedFor : Option JsString
  realIp : Option JsString
  deriving DecidableEq, Repr

/-- What it reads of the environment. -/
structure Deployment where
  production : Bool
  /-- `SECURITY_REQUIRE_DISTRIBUTED_RATE_LIMIT === "true"`. -/
  requireDistributed : Bool
  /-- The origin of `APP_URL`, where that is set and a URL. -/
  appOrigin : Option JsString
  /-- The address and the token of Redis are set. -/
  redis : Bool
  deriving DecidableEq, Repr

def clientIp (request : RequestHead) : JsString :=
  match request.forwardedFor, request.realIp with
  | some forwarded, _ => trim (forwarded.takeWhile (· != comma))
  | none, some ip => ip
  | none, none => js "unknown"

def authPaths : List JsString :=
  [js "/api/auth/register", js "/api/auth/password-reset/request", js "/api/auth/password-reset/confirm",
    js "/api/auth/email-verification/confirm", js "/api/auth/recovery-code", js "/api/auth/callback/credentials",
    js "/api/account/recovery-codes", js "/api/account/password", js "/api/account/privacy"]

def financialPaths : List JsString :=
  [js "/api/payments/", js "/api/bookings", js "/api/admin/refunds", js "/api/admin/security/actions"]

def mutating (request : RequestHead) : Bool :=
  [js "POST", js "PUT", js "PATCH", js "DELETE"].contains request.method

/-- `pathname` starts with one of the paths. -/
def under (paths : List JsString) (request : RequestHead) : Bool :=
  paths.any fun path => path.isPrefixOf request.pathname

/-- Equal but for the case of ASCII letters, as under the flag `i`. -/
def sameFolded (text other : JsString) : Bool :=
  text.map Lib.Pattern.foldUnit == other.map Lib.Pattern.foldUnit

/-- `BLOB_UPLOAD_PATH`: the upload of images to a property with a UUID of the versions 1 to 5. -/
def isBlobUploadPath (pathname : JsString) : Bool :=
  sameFolded (pathname.take 21) (js "/api/host/properties/") && isUuid ((pathname.drop 21).take 36) &&
    (pathname[35]?.any fun u => 49 ≤ u && u ≤ 53) && (pathname[40]?.any fun u => (js "89abAB").contains u) &&
    sameFolded (pathname.drop 57) (js "/images/upload")

def isExemptMutation (request : RequestHead) : Bool :=
  isBlobUploadPath request.pathname || under [js "/api/webhooks/"] request ||
    request.pathname == js "/api/cron/sweep" || (under [js "/api/auth/"] request && !under authPaths request)

def trustedOrigin (d : Deployment) (request : RequestHead) : Bool :=
  match request.origin with
  | none | some [] => false
  | some origin => origin == request.ownOrigin || d.appOrigin == some origin

/-! ## Limits -/

/-- The limiters, each with a prefix of its own. -/
inductive Limiter where
  | newsletter
  | contact
  | ai
  | auth
  | financial
  deriving DecidableEq, Repr

namespace Limiter

def limit : Limiter → Nat
  | .newsletter | .contact | .auth => 5
  | .ai => 12
  | .financial => 20

/-- In milliseconds. -/
def windowMs : Limiter → Nat
  | .newsletter => 60 * 60000
  | _ => 15 * 60000

def name : Limiter → JsString
  | .newsletter => js "newsletter"
  | .contact => js "contact"
  | .ai => js "ai"
  | .auth => js "auth"
  | .financial => js "financial"

/-- The key of a client. -/
def key (l : Limiter) (ip : JsString) : JsString := l.name ++ js ":" ++ ip

def unavailable : Limiter → JsString
  | .newsletter => js "Newsletter service is temporarily unavailable."
  | .contact => js "Contact service is temporarily unavailable."
  | _ => js "Security service is temporarily unavailable."

def tooMany : Limiter → JsString
  | .newsletter => js "Too many subscription requests. Try again later."
  | .contact => js "Too many contact requests. Try again later."
  | .ai => js "The concierge has received too many questions. Try again later."
  | .auth | .financial => js "Too many attempts. Try again later."

end Limiter

/-- The limiters that a request passes, in their order. -/
def limitersOf (request : RequestHead) : List Limiter :=
  let post := request.method == js "POST"
  (if request.pathname == js "/api/newsletter" && post then [.newsletter] else []) ++
    (if request.pathname == js "/api/contact" && post then [.contact] else []) ++
    (if request.pathname == js "/api/ai/concierge" && post then [.ai] else []) ++
    (if mutating request && under authPaths request then [.auth]
      else if under financialPaths request && mutating request then [.financial] else [])

inductive MiddlewareOutcome where
  | rejected (status : Nat) (code message : JsString)
  /-- The route answers; its answer is not indexed under `/api/admin`. -/
  | next (noindex : Bool)
  deriving DecidableEq, Repr

def MiddlewareOutcome.isNext : MiddlewareOutcome → Bool
  | .next _ => true
  | .rejected .. => false

/-- The local buckets by their keys. -/
abbrev Buckets := JsString → Option Bucket

/-- `localLimit`. -/
def localLimit (key : JsString) (limit windowMs now : Nat) (buckets : Buckets) : Bool × Buckets :=
  let (allowed, bucket) := hit limit windowMs now (buckets key)
  (allowed, Function.update buckets key (some bucket))

/-- The answer of the distributed limiters to this request. -/
abbrev DistributedAnswer := Limiter → Bool

/-- Whether a limiter lets the request pass, and the rejection if it does not. -/
def passLimiter (d : Deployment) (now : Nat) (distributed : DistributedAnswer) (ip : JsString) (l : Limiter)
    (buckets : Buckets) : Option MiddlewareOutcome × Buckets :=
  let tooMany := some (.rejected 429 (js "RATE_LIMITED") l.tooMany)
  if d.redis then (if distributed l then none else tooMany, buckets)
  else if d.production || d.requireDistributed then
    (some (.rejected 503 (js "SECURITY_NOT_CONFIGURED") l.unavailable), buckets)
  else
    let (allowed, buckets) := localLimit (l.key ip) l.limit l.windowMs now buckets
    (if allowed then none else tooMany, buckets)

/-- The limiters one after the other: the first rejection counts. -/
def passLimiters (d : Deployment) (now : Nat) (distributed : DistributedAnswer) (ip : JsString) :
    List Limiter → Buckets → Option MiddlewareOutcome × Buckets
  | [], buckets => (none, buckets)
  | l :: ls, buckets =>
    match passLimiter d now distributed ip l buckets with
    | (some outcome, buckets) => (some outcome, buckets)
    | (none, buckets) => passLimiters d now distributed ip ls buckets

def middleware (d : Deployment) (now : Nat) (distributed : DistributedAnswer) (request : RequestHead)
    (buckets : Buckets) : MiddlewareOutcome × Buckets :=
  if mutating request && under [js "/api/"] request && !isExemptMutation request && !trustedOrigin d request then
    (.rejected 403 (js "INVALID_ORIGIN") (js "Request origin was not accepted."), buckets)
  else
    match passLimiters d now distributed (clientIp request) (limitersOf request) buckets with
    | (some outcome, buckets) => (outcome, buckets)
    | (none, buckets) => (.next (under [js "/api/admin"] request), buckets)

end HostPlatform
