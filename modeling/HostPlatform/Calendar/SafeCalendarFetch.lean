-- SUMMARY: The address checks of a calendar URL and the fetch that follows its redirects (`safeCalendarFetch.ts`).
import HostPlatform.Lib.JsString
import HostPlatform.Lib.Outcome

/-!
# Fetching a calendar

`fetchCalendar` checks every URL of a redirect chain and then requests it. The
check looks the host name up; the HTTP client that is asked for the URL looks it
up again, so the two answers of the network are separate inputs here.
-/

namespace HostPlatform

open Lib (JsString js require)
open Lib.JsString

def maxCalendarBytes : Nat := 2 * 1024 * 1024

def maxRedirects : Nat := 3

structure CalendarFetchError where
  message : JsString
  deriving DecidableEq

/-! ## Addresses -/

def hexValue (s : JsString) : Nat :=
  s.foldl (fun n u => n * 16 + (if isDigit u then u - 48 else if 97 ≤ u then u - 87 else u - 55)) 0

/-- A decimal byte without leading zeros. -/
def isIPv4Part (part : JsString) : Bool :=
  part != [] && part.all isDigit && part.length ≤ 3 && digitsValue part ≤ 255
    && (part.length == 1 || part.head? != some 48)

def isIPv4 (address : JsString) : Bool :=
  let parts := address.splitOn dot
  parts.length == 4 && parts.all isIPv4Part

/-- The number of 16-bit groups in a part of an IPv6 address without `::`; a
dotted IPv4 address may end it and counts for two. -/
def ipv6Groups (allowIPv4 : Bool) (part : JsString) : Option Nat :=
  let segments := part.splitOn colon
  let isGroup (s : JsString) : Bool := s != [] && s.length ≤ 4 && s.all isHexDigit
  if part = [] then some 0
  else if segments.all isGroup then some segments.length
  else if allowIPv4 && segments.dropLast.all isGroup && isIPv4 (segments.getLast?.getD []) then
    some (segments.length + 1)
  else none

/-- The text before the first `::` and the text after it. -/
def splitDoubleColon : JsString → Option (JsString × JsString)
  | a :: b :: s =>
    if a = colon ∧ b = colon then some ([], s)
    else (splitDoubleColon (b :: s)).map fun p => (a :: p.1, p.2)
  | _ => none

def percent : Nat := 37

/-- A zone index, `%eth0`, may end an IPv6 address. -/
def isZone (zone : JsString) : Bool :=
  zone != [] && zone.all fun u =>
    isDigit u || (97 ≤ u && u ≤ 122) || (65 ≤ u && u ≤ 90) || u == hyphen || u == dot || u == colon

def isIPv6 (address : JsString) : Bool :=
  let body := address.takeWhile fun u => u != percent
  let zone := address.drop body.length
  let zoneOk := zone == [] || isZone (zone.drop 1)
  zoneOk && match splitDoubleColon body with
    | none => ipv6Groups true body == some 8
    | some (left, right) =>
      match ipv6Groups false left, ipv6Groups true right with
      | some a, some b => a + b ≤ 7
      | _, _ => false

/-- `isIP` of `node:net`. -/
def isIP (address : JsString) : Nat := if isIPv4 address then 4 else if isIPv6 address then 6 else 0

/-- `Number(part)` of a part of an address: digits, or a text that is no number. -/
def number? (part : JsString) : Option Nat :=
  if part.all isDigit then some (digitsValue part) else none

def parseIpv4 (address : JsString) : Option (List Nat) :=
  let parts := address.splitOn dot
  if parts.length ≠ 4 then none
  else parts.mapM fun part => (number? part).filter fun n => n ≤ 255

def isBlockedIpv4 (address : JsString) : Bool :=
  match parseIpv4 address with
  | some [a, b, c, _] =>
    a == 0 || a == 10 || a == 127 || (a == 100 && 64 ≤ b && b ≤ 127) || (a == 169 && b == 254)
      || (a == 172 && 16 ≤ b && b ≤ 31) || (a == 192 && b == 0) || (a == 192 && b == 168)
      || (a == 192 && b == 0 && c == 2) || (a == 198 && (b == 18 || b == 19))
      || (a == 198 && b == 51 && c == 100) || (a == 203 && b == 0 && c == 113) || 224 ≤ a
  | _ => true

/-- `Number.parseInt(segment, 16)`. -/
def parseHex (segment : JsString) : Option Nat :=
  let digits := segment.takeWhile isHexDigit
  if digits = [] then none else some (hexValue digits)

def isBlockedIpv6 (address : JsString) : Bool :=
  let normalized := (toLowerCase address).takeWhile fun u => u != percent
  if normalized == js "::" || normalized == js "::1" then true
  else if (js "::ffff:").isPrefixOf normalized then isBlockedIpv4 (normalized.drop 7)
  else
    let firstSegment := normalized.takeWhile fun u => u != colon
    match parseHex (if firstSegment = [] then js "0" else firstSegment) with
    | none => true
    | some firstValue =>
      (0xfc00 ≤ firstValue && firstValue ≤ 0xfdff) || (0xfe80 ≤ firstValue && firstValue ≤ 0xfebf)
        || (0xff00 ≤ firstValue && firstValue ≤ 0xffff) || (js "2001:db8:").isPrefixOf normalized

def isBlockedNetworkAddress (address : JsString) : Bool :=
  if isIP address = 4 then isBlockedIpv4 address
  else if isIP address = 6 then isBlockedIpv6 address
  else true

/-! ## URLs -/

/-- The parts of a `URL` the code reads. -/
structure Url where
  href : JsString
  protocol : JsString
  username : JsString
  password : JsString
  hostname : JsString
  port : JsString
  deriving DecidableEq

/-- The `URL` constructor: `none` where it throws. -/
structure UrlParser where
  parse : JsString → Option Url
  /-- `new URL(location, base)`. -/
  resolve : JsString → Url → Option Url

def dropLeading (u : Nat) (s : JsString) : JsString := if s.head? = some u then s.drop 1 else s

def dropTrailing (u : Nat) (s : JsString) : JsString := if s.getLast? = some u then s.dropLast else s

def normalizeHostname (hostname : JsString) : JsString :=
  dropTrailing dot (dropTrailing 93 (dropLeading 91 (toLowerCase hostname)))

def hostnameAllowed (hostname : JsString) : Bool :=
  hostname != [] && hostname != js "localhost" && !(js ".localhost").isSuffixOf hostname
    && !(js ".local").isSuffixOf hostname && !(js ".internal").isSuffixOf hostname
    && !(js ".lan").isSuffixOf hostname

/-- The addresses the check looks at; `resolver` is `none` where the lookup fails. -/
def checkedAddresses (resolver : JsString → Option (List JsString)) (hostname : JsString) :
    Except CalendarFetchError (List JsString) :=
  if isIP hostname ≠ 0 then .ok [hostname]
  else match resolver hostname with
    | none => .error ⟨js "Calendar URL hostname could not be resolved"⟩
    | some addresses => .ok addresses

def assertSafeCalendarUrl (urls : UrlParser) (resolver : JsString → Option (List JsString))
    (rawUrl : JsString) : Except CalendarFetchError Url :=
  match urls.parse rawUrl with
  | none => .error ⟨js "Enter a valid HTTPS calendar URL"⟩
  | some url => do
    require (url.protocol = js "https:") ⟨js "Calendar URL must use HTTPS"⟩
    require (url.username = [] ∧ url.password = [])
      ⟨js "Calendar URL must not contain embedded credentials"⟩
    require (url.port = [] ∨ url.port = js "443")
      ⟨js "Calendar URL must use the standard HTTPS port"⟩
    let hostname := normalizeHostname url.hostname
    require (hostnameAllowed hostname = true) ⟨js "Calendar URL hostname is not allowed"⟩
    let addresses ← checkedAddresses resolver hostname
    require (addresses ≠ []) ⟨js "Calendar URL hostname could not be resolved"⟩
    require (addresses.any isBlockedNetworkAddress = false)
      ⟨js "Calendar URL resolves to a private or reserved network"⟩
    return url

/-! ## Requests and responses -/

/-- A request as it is sent, with the address the client connected to. -/
structure Request where
  url : Url
  address : JsString
  ifNoneMatch : Option JsString
  ifModifiedSince : Option JsString
  deriving DecidableEq

inductive Body where
  | none
  /-- The bytes that arrive, and what they decode to. -/
  | bytes (byteLength : Nat) (text : JsString)
  /-- The stream breaks off. -/
  | broken
  deriving DecidableEq

structure Response where
  status : Nat
  etag : Option JsString
  lastModified : Option JsString
  location : Option JsString
  contentType : Option JsString
  /-- `Number(..)` of the header, where it is finite. -/
  contentLength : Option Nat
  body : Body
  deriving DecidableEq

/-- What the network does in each round of the loop: the answer to the lookup of the
check, the address the client connects to, and the response. -/
structure Network where
  resolver : Nat → JsString → Option (List JsString)
  connect : Nat → JsString → Option JsString
  respond : Nat → Request → Option Response

structure CalendarFetchOptions where
  etag : Option JsString
  lastModified : Option JsString
  deriving DecidableEq

inductive CalendarFetchResult where
  | notModified (etag lastModified : Option JsString)
  | modified (body : JsString) (etag lastModified : Option JsString)
  deriving DecidableEq

/-- What `fetchCalendar` throws: its own error, or one of the runtime. -/
inductive FetchFailure where
  | calendarFetch (error : CalendarFetchError)
  | runtime
  deriving DecidableEq

def fetchFailed (message : JsString) : FetchFailure := .calendarFetch ⟨message⟩

def tooLarge : FetchFailure := fetchFailed (js "Calendar response is larger than 2 MB")

def readLimitedBody (response : Response) : Except FetchFailure JsString := do
  require (response.contentLength.all (fun n => n ≤ maxCalendarBytes) = true) tooLarge
  match response.body with
  | .none => return []
  | .broken => .error .runtime
  | .bytes byteLength text =>
    require (byteLength ≤ maxCalendarBytes) tooLarge
    return text

def isRedirect (status : Nat) : Bool := [301, 302, 303, 307, 308].contains status

/-- `text` occurs in `s`. -/
def includesText (text s : JsString) : Bool := s.tails.any text.isPrefixOf

/-- A response that is neither `304` nor a redirect. -/
def readResponse (response : Response) : Except FetchFailure CalendarFetchResult := do
  require (200 ≤ response.status ∧ response.status ≤ 299)
    (fetchFailed (js s!"Calendar provider returned HTTP {response.status}"))
  let contentType := toLowerCase (response.contentType.getD [])
  require (includesText (js "text/html") contentType = false
      ∧ includesText (js "application/xhtml") contentType = false)
    (fetchFailed (js "Calendar URL returned a web page instead of an iCalendar file"))
  let body ← readLimitedBody response
  return .modified body response.etag response.lastModified

/-- How a round of the loop ends. -/
inductive RoundEnd where
  | done (result : Except FetchFailure CalendarFetchResult)
  | redirect (currentUrl : JsString)

/-- A response in round `redirectCount` to a request for `safeUrl`. -/
def answerRound (urls : UrlParser) (redirectCount : Nat) (safeUrl : Url) (response : Response) :
    RoundEnd :=
  if response.status = 304 then .done (.ok (.notModified response.etag response.lastModified))
  else if isRedirect response.status then
    if redirectCount = maxRedirects then
      .done (.error (fetchFailed (js "Calendar URL redirected too many times")))
    else match response.location.filter fun s => s != [] with
      | none => .done (.error (fetchFailed (js "Calendar provider returned an invalid redirect")))
      | some location =>
        match urls.resolve location safeUrl with
        | none => .done (.error .runtime)
        | some next => .redirect next.href
  else .done (readResponse response)

/-- The request for a checked URL: an empty validator is not sent. -/
def makeRequest (options : CalendarFetchOptions) (safeUrl : Url) (address : JsString) : Request :=
  { url := safeUrl
    address := address
    ifNoneMatch := options.etag.filter fun s => s != []
    ifModifiedSince := options.lastModified.filter fun s => s != [] }

/-- One round of the loop: the request it sends, if it sends one, and its end. -/
def fetchRound (urls : UrlParser) (net : Network) (options : CalendarFetchOptions)
    (redirectCount : Nat) (currentUrl : JsString) : Option Request × RoundEnd :=
  match assertSafeCalendarUrl urls (net.resolver redirectCount) currentUrl with
  | .error e => (none, .done (.error (.calendarFetch e)))
  | .ok safeUrl =>
    match net.connect redirectCount safeUrl.hostname with
    | none => (none, .done (.error (fetchFailed (js "Calendar provider could not be reached"))))
    | some address =>
      let request := makeRequest options safeUrl address
      match net.respond redirectCount request with
      | none =>
        (some request, .done (.error (fetchFailed (js "Calendar provider could not be reached"))))
      | some response => (some request, answerRound urls redirectCount safeUrl response)

/-- The requests a fetch sent, in order, and what it returned or threw. -/
structure Fetch where
  requests : List Request
  result : Except FetchFailure CalendarFetchResult

/-- The loop, with the number of rounds it may still run. -/
def fetchLoop (urls : UrlParser) (net : Network) (options : CalendarFetchOptions) :
    Nat → Nat → JsString → Fetch
  | 0, _, _ => ⟨[], .error (fetchFailed (js "Calendar URL redirected too many times"))⟩
  | rounds + 1, redirectCount, currentUrl =>
    match fetchRound urls net options redirectCount currentUrl with
    | (request, .done result) => ⟨request.toList, result⟩
    | (request, .redirect next) =>
      let rest := fetchLoop urls net options rounds (redirectCount + 1) next
      ⟨request.toList ++ rest.requests, rest.result⟩

def fetchCalendar (urls : UrlParser) (net : Network) (rawUrl : JsString)
    (options : CalendarFetchOptions) : Fetch :=
  fetchLoop urls net options (maxRedirects + 1) 0 rawUrl

/-! ## One URL

The concrete fetches of this development are of it. -/

def sampleUrl : Url :=
  { href := js "https://calendar.example/1.ics"
    protocol := js "https:"
    username := []
    password := []
    hostname := js "calendar.example"
    port := [] }

/-- Every text parses as that URL, and no redirect resolves. -/
def sampleUrls : UrlParser := ⟨fun _ => some sampleUrl, fun _ _ => none⟩

end HostPlatform
