-- SUMMARY: A calendar fetch reaches a blocked address exactly when a host name that passed the check is looked up differently for the connection.
import HostPlatform.Calendar.SafeCalendarFetch

/-!
# Addresses a calendar fetch reaches

Every request of a fetch belongs to a round of the redirect chain, is made for a URL
that passed the check of that round, and goes where the client's own lookup leads.
For an IP literal the two lookups agree; for a name they need not.
-/

namespace HostPlatform

open Lib (JsString js)
open Lib.JsString

/-- What is assumed of the client: it connects to an address its own lookup returns,
and the lookup of an IP literal returns the literal. -/
structure ClientConnects (net : Network) (lookup : Nat → JsString → List JsString) : Prop where
  connects : ∀ n hostname address, net.connect n hostname = some address → address ∈ lookup n hostname
  literal : ∀ n hostname, isIP (normalizeHostname hostname) ≠ 0 →
    lookup n hostname = [normalizeHostname hostname]

section

variable {urls : UrlParser} {net : Network} {options : CalendarFetchOptions} {rawUrl : JsString}

/-- The chain of redirects: the URL each round starts with. -/
inductive Reached (urls : UrlParser) (net : Network) (options : CalendarFetchOptions)
    (rawUrl : JsString) : Nat → JsString → Prop
  | start : Reached urls net options rawUrl 0 rawUrl
  | redirect {n : Nat} {url next : JsString} (h : Reached urls net options rawUrl n url)
      (hround : (fetchRound urls net options n url).2 = .redirect next) :
      Reached urls net options rawUrl (n + 1) next

/-! ## The check -/

theorem assertSafeCalendarUrl_eq_ok {resolver : JsString → Option (List JsString)} {url : Url}
    (h : assertSafeCalendarUrl urls resolver rawUrl = .ok url) :
    ∃ addresses, checkedAddresses resolver (normalizeHostname url.hostname) = .ok addresses ∧
      addresses.any isBlockedNetworkAddress = false := by
  unfold assertSafeCalendarUrl at h
  split at h
  · cases h
  · obtain ⟨_, -, h⟩ := Lib.bind_eq_ok.mp h
    obtain ⟨_, -, h⟩ := Lib.bind_eq_ok.mp h
    obtain ⟨_, -, h⟩ := Lib.bind_eq_ok.mp h
    obtain ⟨_, -, h⟩ := Lib.bind_eq_ok.mp h
    obtain ⟨addresses, haddresses, h⟩ := Lib.bind_eq_ok.mp h
    obtain ⟨_, -, h⟩ := Lib.bind_eq_ok.mp h
    obtain ⟨_, hblocked, h⟩ := Lib.bind_eq_ok.mp h
    cases h
    exact ⟨addresses, haddresses, Lib.require_eq_ok.mp hblocked⟩

/-- An IP literal that passes the check is not blocked. -/
theorem literal_not_blocked {resolver : JsString → Option (List JsString)} {url : Url}
    (h : assertSafeCalendarUrl urls resolver rawUrl = .ok url)
    (hliteral : isIP (normalizeHostname url.hostname) ≠ 0) :
    isBlockedNetworkAddress (normalizeHostname url.hostname) = false := by
  obtain ⟨addresses, haddresses, hblocked⟩ := assertSafeCalendarUrl_eq_ok h
  unfold checkedAddresses at haddresses
  rw [if_pos hliteral] at haddresses
  cases haddresses
  simpa using hblocked

/-! ## Rounds -/

/-- A round whose URL passes the check and whose client connects sends a request. -/
theorem fetchRound_request {n : Nat} {url address : JsString} {safeUrl : Url}
    (hsafe : assertSafeCalendarUrl urls (net.resolver n) url = .ok safeUrl)
    (hconnect : net.connect n safeUrl.hostname = some address) :
    (fetchRound urls net options n url).1 = some (makeRequest options safeUrl address) := by
  unfold fetchRound
  rw [hsafe]
  simp only [hconnect]
  split
  · rfl
  · rfl

/-- The request of a round: its URL passed the check, its address is the client's. -/
theorem fetchRound_request_iff {n : Nat} {url : JsString} {request : Request} :
    (fetchRound urls net options n url).1 = some request ↔
      ∃ safeUrl address, assertSafeCalendarUrl urls (net.resolver n) url = .ok safeUrl ∧
        net.connect n safeUrl.hostname = some address ∧
        request = makeRequest options safeUrl address := by
  constructor
  · intro h
    cases hsafe : assertSafeCalendarUrl urls (net.resolver n) url with
    | error e =>
      unfold fetchRound at h
      rw [hsafe] at h
      cases h
    | ok safeUrl =>
      cases hconnect : net.connect n safeUrl.hostname with
      | none =>
        unfold fetchRound at h
        rw [hsafe] at h
        simp only [hconnect] at h
        cases h
      | some address =>
        rw [fetchRound_request hsafe hconnect] at h
        cases h
        exact ⟨safeUrl, address, rfl, hconnect, rfl⟩
  · rintro ⟨safeUrl, address, hsafe, hconnect, rfl⟩
    exact fetchRound_request hsafe hconnect

/-- The last round redirects nowhere. -/
theorem fetchRound_redirect_lt {n : Nat} {url next : JsString}
    (h : (fetchRound urls net options n url).2 = .redirect next) : n ≠ maxRedirects := by
  rintro rfl
  unfold fetchRound at h
  split at h
  · cases h
  · split at h
    · cases h
    · dsimp only at h
      split at h
      · cases h
      · unfold answerRound at h
        split at h
        · cases h
        · rw [if_pos rfl] at h
          split at h <;> cases h

theorem Reached.le {n : Nat} {url : JsString} (h : Reached urls net options rawUrl n url) :
    n ≤ maxRedirects := by
  induction h with
  | start => exact Nat.zero_le _
  | redirect h hround ih => exact Nat.lt_of_le_of_ne ih (fetchRound_redirect_lt hround)

/-! ## The loop -/

/-- The requests of the loop are those of the rounds of the chain. -/
theorem mem_fetchLoop {rounds n : Nat} {url : JsString} {request : Request}
    (hreached : Reached urls net options rawUrl n url) :
    request ∈ (fetchLoop urls net options rounds n url).requests →
      ∃ m v, Reached urls net options rawUrl m v ∧
        (fetchRound urls net options m v).1 = some request := by
  induction rounds generalizing n url with
  | zero =>
    intro h
    cases h
  | succ rounds ih =>
    intro h
    unfold fetchLoop at h
    split at h
    · rename_i sent result hround
      exact ⟨n, url, hreached, by rw [hround]; exact Option.mem_toList.mp h⟩
    · rename_i sent next hround
      rcases List.mem_append.mp h with hsent | hrest
      · exact ⟨n, url, hreached, by rw [hround]; exact Option.mem_toList.mp hsent⟩
      · exact ih (.redirect hreached (by rw [hround])) hrest

/-- The loop that starts at round `n` sends what it still has rounds for. -/
theorem fetchLoop_subset {rounds n : Nat} {url next : JsString}
    (hround : (fetchRound urls net options n url).2 = .redirect next) {request : Request}
    (h : request ∈ (fetchLoop urls net options rounds (n + 1) next).requests) :
    request ∈ (fetchLoop urls net options (rounds + 1) n url).requests := by
  rw [fetchLoop]
  split
  · rename_i sent result heq
    rw [heq] at hround
    cases hround
  · rename_i sent next' heq
    rw [heq] at hround
    cases hround
    exact List.mem_append_right _ h

theorem fetchLoop_first {rounds n : Nat} {url : JsString} {request : Request}
    (h : (fetchRound urls net options n url).1 = some request) :
    request ∈ (fetchLoop urls net options (rounds + 1) n url).requests := by
  rw [fetchLoop]
  split
  · rename_i sent result heq
    rw [heq] at h
    exact Option.mem_toList.mpr h
  · rename_i sent next heq
    rw [heq] at h
    exact List.mem_append_left _ (Option.mem_toList.mpr h)

/-- Every round of the chain is a round of the loop. -/
theorem Reached.mem_requests {n : Nat} {url : JsString} (h : Reached urls net options rawUrl n url)
    {request : Request} :
    request ∈ (fetchLoop urls net options (maxRedirects + 1 - n) n url).requests →
      request ∈ (fetchCalendar urls net rawUrl options).requests := by
  induction h with
  | start => exact id
  | redirect h hround ih =>
    rename_i m url next
    intro hmem
    have hlt : m < maxRedirects := Nat.lt_of_le_of_ne h.le (fetchRound_redirect_lt hround)
    have hrounds : maxRedirects + 1 - m = maxRedirects + 1 - (m + 1) + 1 := by omega
    apply ih
    rw [hrounds]
    exact fetchLoop_subset hround hmem

theorem mem_requests_iff {request : Request} :
    request ∈ (fetchCalendar urls net rawUrl options).requests ↔
      ∃ n url, Reached urls net options rawUrl n url ∧
        (fetchRound urls net options n url).1 = some request := by
  constructor
  · exact mem_fetchLoop .start
  · rintro ⟨n, url, hreached, hrequest⟩
    apply hreached.mem_requests
    have hrounds : maxRedirects + 1 - n = maxRedirects - n + 1 := by
      have := hreached.le
      omega
    rw [hrounds]
    exact fetchLoop_first hrequest

end

/-! ## Blocked addresses -/

/-- A host name of the chain that passes the check is given a blocked address when
the client looks it up for its connection. -/
def Rebound (urls : UrlParser) (net : Network) (rawUrl : JsString) (options : CalendarFetchOptions) :
    Prop :=
  ∃ n url safeUrl address, Reached urls net options rawUrl n url ∧
    assertSafeCalendarUrl urls (net.resolver n) url = .ok safeUrl ∧
    isIP (normalizeHostname safeUrl.hostname) = 0 ∧
    net.connect n safeUrl.hostname = some address ∧ isBlockedNetworkAddress address = true

/-- Every request of a fetch goes to an address that is not blocked exactly when no
host name is rebound between its check and its connection. -/
theorem requestsUnblocked_iff (urls : UrlParser) (net : Network) (lookup : Nat → JsString → List JsString)
    (hclient : ClientConnects net lookup) (rawUrl : JsString) (options : CalendarFetchOptions) :
    (∀ request ∈ (fetchCalendar urls net rawUrl options).requests,
      isBlockedNetworkAddress request.address = false) ↔ ¬ Rebound urls net rawUrl options := by
  constructor
  · rintro h ⟨n, url, safeUrl, address, hreached, hsafe, -, hconnect, hblocked⟩
    have hrequest := h (makeRequest options safeUrl address)
      (mem_requests_iff.mpr ⟨n, url, hreached,
        fetchRound_request_iff.mpr ⟨safeUrl, address, hsafe, hconnect, rfl⟩⟩)
    rw [show (makeRequest options safeUrl address).address = address from rfl, hblocked] at hrequest
    cases hrequest
  · intro h request hmem
    obtain ⟨n, url, hreached, hround⟩ := mem_requests_iff.mp hmem
    obtain ⟨safeUrl, address, hsafe, hconnect, rfl⟩ := fetchRound_request_iff.mp hround
    show isBlockedNetworkAddress address = false
    by_cases hname : isIP (normalizeHostname safeUrl.hostname) = 0
    · rw [← Bool.not_eq_true]
      intro hblocked
      exact h ⟨n, url, safeUrl, address, hreached, hsafe, hname, hconnect, hblocked⟩
    · -- the client looks an IP literal up as the address that was checked
      have haddress := hclient.connects n _ _ hconnect
      rw [hclient.literal n _ hname, List.mem_singleton] at haddress
      rw [haddress]
      exact literal_not_blocked hsafe hname

/-! ## A name that is rebound -/

/-- The name is public when it is checked and `address` when the client connects. -/
def reboundNetwork (address : JsString) : Network :=
  { resolver := fun _ _ => some [js "93.184.216.34"]
    connect := fun _ hostname =>
      if isIP (normalizeHostname hostname) = 0 then some address else some (normalizeHostname hostname)
    respond := fun _ _ => none }

def reboundLookup (address : JsString) (_ : Nat) (hostname : JsString) : List JsString :=
  if isIP (normalizeHostname hostname) = 0 then [address] else [normalizeHostname hostname]

theorem reboundNetwork_connects (address : JsString) :
    ClientConnects (reboundNetwork address) (reboundLookup address) where
  connects n hostname connected h := by
    simp only [reboundNetwork] at h
    unfold reboundLookup
    split at h
    · rename_i hname
      cases h
      rw [if_pos hname]
      exact List.mem_singleton.mpr rfl
    · rename_i hname
      cases h
      rw [if_neg hname]
      exact List.mem_singleton.mpr rfl
  literal n hostname h := if_neg h

/-- A fetch whose name keeps its public address sends a request, and to no blocked one. -/
theorem publicNetwork_unblocked :
    (fetchCalendar sampleUrls (reboundNetwork (js "93.184.216.34")) sampleUrl.href ⟨none, none⟩).requests ≠ [] ∧
      ∀ request ∈ (fetchCalendar sampleUrls (reboundNetwork (js "93.184.216.34")) sampleUrl.href
        ⟨none, none⟩).requests, isBlockedNetworkAddress request.address = false := by
  refine ⟨by decide, (requestsUnblocked_iff sampleUrls (reboundNetwork (js "93.184.216.34"))
    (reboundLookup (js "93.184.216.34")) (reboundNetwork_connects _) sampleUrl.href ⟨none, none⟩).mpr ?_⟩
  rintro ⟨n, url, safeUrl, address, -, -, hname, hconnect, hblocked⟩
  simp only [reboundNetwork, if_pos hname] at hconnect
  cases hconnect
  revert hblocked
  decide

/-- The loopback address is requested after the check saw a public one. -/
theorem loopbackRebound_requested :
    ClientConnects (reboundNetwork (js "127.0.0.1")) (reboundLookup (js "127.0.0.1")) ∧
      ¬ ∀ request ∈ (fetchCalendar sampleUrls (reboundNetwork (js "127.0.0.1")) sampleUrl.href
        ⟨none, none⟩).requests, isBlockedNetworkAddress request.address = false :=
  ⟨reboundNetwork_connects _, by decide⟩

end HostPlatform
