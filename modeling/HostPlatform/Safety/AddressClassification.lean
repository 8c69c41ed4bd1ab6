-- SUMMARY: Which spellings of an address are classified by the address alone.
import HostPlatform.Calendar.AddressForms

/-!
# Spellings of an address

The first group of an IPv6 text is read as a number, so the address alone decides there.
All else the classifier looks for is how the text begins, and another spelling of the
same address begins differently.
-/

namespace HostPlatform

open Lib (JsString js)
open Lib.JsString

/-! ## What is claimed -/

/-- Two texts of one address; zones are not part of it. -/
def SameAddress (x y : JsString) : Prop :=
  (isIP x = 4 ∧ isIP y = 4 ∧ ipv4Numbers x = ipv4Numbers y) ∨ (isIP x = 6 ∧ isIP y = 6 ∧ ipv6Value x = ipv6Value y)

/-- The groups are those of a dotted address that is blocked. -/
def EmbedsBlocked (g6 g7 : Nat) : Prop :=
  ∃ text, isIPv4 text = true ∧ dottedGroups text = [g6, g7] ∧ isBlockedIpv4 text = true

/-- Unspecified, loopback, link-local or multicast. -/
def MustBlockIpv4 (numbers : List Nat) : Prop :=
  ∃ a b c d, numbers = [a, b, c, d] ∧
    ((a = 0 ∧ b = 0 ∧ c = 0 ∧ d = 0) ∨ a = 127 ∨ (a = 169 ∧ b = 254) ∨ (224 ≤ a ∧ a ≤ 239))

/-- Unspecified, loopback, unique-local, link-local or multicast, or a blocked IPv4 address
mapped or compatible. -/
def MustBlockIpv6 (groups : List Nat) : Prop :=
  groups = [0, 0, 0, 0, 0, 0, 0, 0] ∨ groups = [0, 0, 0, 0, 0, 0, 0, 1] ∨
  (∃ firstValue, groups.head? = some firstValue ∧ inBlockedRange firstValue = true) ∨
  ∃ g6 g7, (groups = [0, 0, 0, 0, 0, 0xffff, g6, g7] ∨ groups = [0, 0, 0, 0, 0, 0, g6, g7]) ∧ EmbedsBlocked g6 g7

def MustBlock (address : JsString) : Prop :=
  (isIP address = 4 ∧ MustBlockIpv4 (ipv4Numbers address)) ∨ (isIP address = 6 ∧ MustBlockIpv6 (ipv6Value address))

/-- The first group decides. -/
def BlockedByRange (address : JsString) : Prop :=
  ∃ firstValue, (ipv6Value address).head? = some firstValue ∧ inBlockedRange firstValue = true

/-- `::`, `::1`, or a text that starts with `::ffff:`. -/
def IsShorthand (address : JsString) : Prop :=
  normalized address = js "::" ∨ normalized address = js "::1" ∨ js "::ffff:" <+: normalized address

/-- `::ffff:` with a public dotted address after it. -/
def IsPublicMapped (address : JsString) : Prop :=
  ∃ text, normalized address = js "::ffff:" ++ text ∧ isIPv4 text = true ∧ isBlockedIpv4 text = false

/-- The beginnings that are looked for, the documentation prefix among them. -/
def HasKnownBeginning (address : JsString) : Prop :=
  (IsShorthand address ∧ ¬ IsPublicMapped address) ∨ js "2001:db8:" <+: normalized address

/-! ## IPv4 -/

theorem isIP_eq_four {address : JsString} : isIP address = 4 ↔ isIPv4 address = true := by
  unfold isIP
  split
  · simp_all
  · split <;> simp_all

theorem isIP_eq_six {address : JsString} (h : isIP address = 6) : isIPv6 address = true := by
  unfold isIP at h
  split at h
  · cases h
  · split at h
    · assumption
    · cases h

theorem isBlockedIpv4_of_parse {x y : JsString} (h : parseIpv4 x = parseIpv4 y) : isBlockedIpv4 x = isBlockedIpv4 y := by
  unfold isBlockedIpv4
  rw [h]

/-- The numbers decide for an IPv4 text. -/
theorem isBlockedIpv4_of_numbers {x y : JsString} (hx : isIPv4 x = true) (hy : isIPv4 y = true)
    (h : ipv4Numbers x = ipv4Numbers y) : isBlockedIpv4 x = isBlockedIpv4 y := by
  obtain ⟨a, b, c, d, hnumbers, hparse, -⟩ := isIPv4_numbers hx
  obtain ⟨a', b', c', d', hnumbers', hparse', -⟩ := isIPv4_numbers hy
  refine isBlockedIpv4_of_parse ?_
  rw [hparse, hparse', ← hnumbers, ← hnumbers', h]

theorem isBlocked_of_ipv4 {address : JsString} (h : isIP address = 4) :
    isBlockedNetworkAddress address = isBlockedIpv4 address := if_pos h

theorem isBlocked_of_ipv6 {address : JsString} (h : isIP address = 6) :
    isBlockedNetworkAddress address = isBlockedIpv6 address := by
  unfold isBlockedNetworkAddress
  rw [if_neg (by rw [h]; decide), if_pos h]

theorem mustBlock_ipv4 {address : JsString} (h : isIP address = 4) (hmust : MustBlockIpv4 (ipv4Numbers address)) :
    isBlockedNetworkAddress address = true := by
  obtain ⟨a, b, c, d, hnumbers, hparse, -⟩ := isIPv4_numbers (isIP_eq_four.mp h)
  obtain ⟨a', b', c', d', hnumbers', hcases⟩ := hmust
  rw [hnumbers] at hnumbers'
  simp only [List.cons.injEq, and_true] at hnumbers'
  obtain ⟨rfl, rfl, rfl, rfl⟩ := hnumbers'
  rw [isBlocked_of_ipv4 h]
  unfold isBlockedIpv4
  rw [hparse]
  rcases hcases with ⟨rfl, -⟩ | rfl | ⟨rfl, rfl⟩ | ⟨hle, -⟩
  · rfl
  · rfl
  · rfl
  · simp [hle]

/-! ## IPv6 -/

/-- The answer for an IPv6 text. -/
theorem isBlocked_ipv6_eq {address : JsString} (h : isIP address = 6) :
    isBlockedNetworkAddress address = true ↔ BlockedByRange address ∨ isMarked address = true := by
  obtain ⟨firstValue, hhead, hread⟩ := ipv6Value_head (isIP_eq_six h)
  rw [isBlocked_of_ipv6 h, isBlockedIpv6_eq hread, Bool.or_eq_true]
  refine or_congr ⟨fun hrange => ⟨firstValue, hhead, hrange⟩, ?_⟩ Iff.rfl
  rintro ⟨firstValue', hhead', hrange⟩
  rw [hhead] at hhead'
  rwa [Option.some.inj hhead']

/-- A text `::ffff:` with a dotted address after it spells the mapped address. -/
theorem mapped_value {address rest : JsString} (h : isIPv6 address = true)
    (hrest : normalized address = js "::ffff:" ++ rest) (hcolon : colon ∉ rest) (hdot : dot ∈ rest) :
    isIPv4 rest = true ∧ ipv6Value address = [0, 0, 0, 0, 0, 0xffff] ++ dottedGroups rest := by
  unfold isIPv6 at h
  dsimp only at h
  rw [Bool.and_eq_true] at h
  obtain ⟨-, hbody⟩ := h
  rw [normalized_eq] at hrest
  unfold ipv6Value
  dsimp only
  generalize (address.takeWhile fun u => u != percent) = body at *
  -- the text itself starts with two colons, and a segment read `ffff`
  obtain ⟨body₁, rfl, hbody₁⟩ := toLowerCase_cons (c := colon) (by decide) hrest
  obtain ⟨right, rfl, hright⟩ := toLowerCase_cons (c := colon) (by decide) hbody₁
  have hdouble : splitDoubleColon (colon :: colon :: right) = some ([], right) := rfl
  rw [hdouble] at hbody ⊢
  dsimp only at hbody ⊢
  obtain ⟨segment, dotted, rfl, hsegment, hffff, hdotted⟩ :=
    toLowerCase_eq_append_colon (js "ffff") rest hright (by decide)
  have hsplit : (segment ++ colon :: dotted).splitOn colon = [segment, dotted] := by
    rw [List.splitOn_append_cons_self_of_not_mem hsegment, List.splitOn_eq_singleton]
    rw [← mem_toLowerCase (by decide), hdotted]
    exact hcolon
  have hne : segment ++ colon :: dotted ≠ [] := by simp
  have hgroups : ∃ n, ipv6Groups true (segment ++ colon :: dotted) = some n := by
    cases hread : ipv6Groups true (segment ++ colon :: dotted) with
    | none =>
      rw [hread] at hbody
      cases hbody
    | some n => exact ⟨n, rfl⟩
  obtain ⟨n, hn⟩ := hgroups
  rcases ipv6Groups_cases hn hne with ⟨hall, -⟩ | ⟨-, groups, last, hlast, hipv4, hall, -⟩
  · -- the last segment has a dot
    rw [hsplit] at hall
    refine absurd ?_ (dot_not_mem (hall dotted (by simp)).2)
    rwa [← mem_toLowerCase (by decide), hdotted]
  · rw [hsplit] at hlast
    obtain ⟨rfl, rfl⟩ : [segment] = groups ∧ dotted = last := by
      have happend : [segment] ++ [dotted] = groups ++ [last] := hlast
      simpa using List.append_inj' happend rfl
    have hsame : dotted = rest := by rw [← hdotted, toLowerCase_of_isIPv4 hipv4]
    obtain ⟨-, hhex⟩ := hall segment (List.mem_singleton_self segment)
    have hvalue : hexValue segment = 0xffff := by
      rw [← hexValue_toLowerCase hhex, hffff]
      rfl
    obtain ⟨a, b, c, d, hnumbers, -⟩ := isIPv4_numbers hipv4
    have hdots : segmentGroups dotted = [a * 256 + b, c * 256 + d] := by
      rw [segmentGroups, if_pos (hsame ▸ hdot), dottedGroups, hnumbers]
    have hspelled : partGroups (segment ++ colon :: dotted) = [0xffff, a * 256 + b, c * 256 + d] := by
      rw [partGroups, if_neg hne, hsplit]
      simp [segmentGroups_of_hexDigits hhex, hdots, hvalue]
    subst hsame
    refine ⟨hipv4, ?_⟩
    rw [hspelled, dottedGroups, hnumbers]
    rfl

/-! ## What the beginnings say -/

/-- What is left to look for in a text that may be an address. -/
theorem isMarked_iff {address : JsString} (h : isIPv6 address = true) :
    isMarked address = true ↔ HasKnownBeginning address := by
  have hmapped : ∀ {rest : JsString}, normalized address = js "::ffff:" ++ rest →
      (isBlockedIpv4 rest = true ↔ ¬ IsPublicMapped address) := by
    intro rest hrest
    constructor
    · rintro hblocked ⟨text, htext, -, hpublic⟩
      rw [hrest] at htext
      rw [List.append_cancel_left htext, hpublic] at hblocked
      cases hblocked
    · intro hnot
      by_contra hpublic
      have hparse : ∃ numbers, parseIpv4 rest = some numbers := by
        cases hnone : parseIpv4 rest with
        | none => exact absurd (by rw [isBlockedIpv4, hnone]) hpublic
        | some numbers => exact ⟨numbers, rfl⟩
      obtain ⟨numbers, hnumbers⟩ := hparse
      obtain ⟨hcolon, hdot⟩ := parseIpv4_units hnumbers
      exact hnot ⟨rest, hrest, (mapped_value h hrest hcolon hdot).1, Bool.not_eq_true _ |>.mp hpublic⟩
  unfold isMarked HasKnownBeginning IsShorthand
  simp only [Bool.or_eq_true, Bool.and_eq_true, beq_iff_eq, List.isPrefixOf_iff_prefix]
  by_cases hbegins : js "::ffff:" <+: normalized address
  · obtain ⟨rest, hrest⟩ := hbegins
    have hne : normalized address ≠ js "::" ∧ normalized address ≠ js "::1" := by
      rw [← hrest]
      exact ⟨nofun, nofun⟩
    have hdrop : (normalized address).drop 7 = rest := by
      rw [← hrest]
      rfl
    rw [hdrop, hmapped hrest.symm]
    have hbegins : js "::ffff:" <+: normalized address := ⟨rest, hrest⟩
    simp [hne, hbegins]
  · have hnot : ¬ IsPublicMapped address := by
      rintro ⟨text, htext, -⟩
      exact hbegins ⟨text, htext.symm⟩
    simp [hbegins, hnot]

/-- The answer for an IPv6 text, by its first group and how it begins. -/
theorem isBlocked_ipv6_iff {address : JsString} (h : isIP address = 6) :
    isBlockedNetworkAddress address = true ↔ BlockedByRange address ∨ HasKnownBeginning address := by
  rw [isBlocked_ipv6_eq h, isMarked_iff (isIP_eq_six h)]

/-- What the dotted address at the end spells decides whether it is blocked. -/
theorem isBlockedIpv4_of_groups {x y : JsString} (hx : isIPv4 x = true) (hy : isIPv4 y = true)
    (h : dottedGroups x = dottedGroups y) : isBlockedIpv4 x = isBlockedIpv4 y := by
  refine isBlockedIpv4_of_numbers hx hy ?_
  obtain ⟨a, b, c, d, hnumbers, -, ha, hb, hc, hd, -⟩ := isIPv4_numbers hx
  obtain ⟨a', b', c', d', hnumbers', -, ha', hb', hc', hd', -⟩ := isIPv4_numbers hy
  rw [dottedGroups, dottedGroups, hnumbers, hnumbers'] at h
  simp only [List.cons.injEq, and_true] at h
  rw [hnumbers, hnumbers']
  simp only [List.cons.injEq, and_true]
  omega

/-- A public address is in no category that has to be blocked. -/
theorem not_mustBlock_of_publicMapped {address : JsString} (h : isIP address = 6) (hpublic : IsPublicMapped address)
    (hmust : MustBlockIpv6 (ipv6Value address)) : False := by
  obtain ⟨text, htext, hipv4, hnot⟩ := hpublic
  obtain ⟨a, b, c, d, -, hparse, -, -, -, -, hdot⟩ := isIPv4_numbers hipv4
  obtain ⟨hcolon, -⟩ := parseIpv4_units hparse
  obtain ⟨-, hvalue⟩ := mapped_value (isIP_eq_six h) htext hcolon hdot
  rw [hvalue] at hmust
  rcases hmust with hzero | hone | ⟨firstValue, hhead, hrange⟩ | ⟨g6, g7, hgroups, text', hipv4', hdotted, hblocked⟩
  · cases hzero
  · cases hone
  · obtain rfl : 0 = firstValue := Option.some.inj hhead
    cases hrange
  · have hsame : dottedGroups text = dottedGroups text' := by
      rw [hdotted]
      rcases hgroups with hgroups | hgroups
      · exact (List.append_cancel_left hgroups : dottedGroups text = [g6, g7])
      · cases hgroups
    rw [isBlockedIpv4_of_groups hipv4 hipv4' hsame, hblocked] at hnot
    cases hnot

/-- The documentation prefix is in no category that has to be blocked, but for its range. -/
theorem not_mustBlock_of_documentation {address : JsString} (h : isIP address = 6)
    (hdoc : js "2001:db8:" <+: normalized address) : ¬ MustBlockIpv6 (ipv6Value address) := by
  obtain ⟨rest, hrest⟩ := hdoc
  obtain ⟨firstValue, hhead, hread⟩ := ipv6Value_head (isIP_eq_six h)
  have hsegment : (normalized address).takeWhile (fun u => u != colon) = js "2001" := by
    rw [← hrest]
    rfl
  rw [hsegment] at hread
  obtain rfl : 0x2001 = firstValue := Option.some.inj hread
  rintro (hzero | hone | ⟨firstValue, hhead', hrange⟩ | ⟨g6, g7, hgroups | hgroups, -⟩)
  · rw [hzero] at hhead
    cases hhead
  · rw [hone] at hhead
    cases hhead
  · rw [hhead] at hhead'
    obtain rfl : 0x2001 = firstValue := Option.some.inj hhead'
    cases hrange
  · rw [hgroups] at hhead
    cases hhead
  · rw [hgroups] at hhead
    cases hhead

/-! ## The address alone -/

/-- Two texts of one address are answered alike unless its first group does not decide and
only one of them begins as the classifier expects, and an address that has to be blocked is
blocked when its first group decides or it is written with the expected shorthand. -/
theorem classification_iff (x y : JsString) :
    (SameAddress x y →
      (isBlockedNetworkAddress x = isBlockedNetworkAddress y ↔
        isIP x = 4 ∨ BlockedByRange x ∨ (HasKnownBeginning x ↔ HasKnownBeginning y))) ∧
    (MustBlock x →
      (isBlockedNetworkAddress x = true ↔ isIP x = 4 ∨ BlockedByRange x ∨ IsShorthand x)) := by
  constructor
  · rintro (⟨hx, hy, hnumbers⟩ | ⟨hx, hy, hvalue⟩)
    · refine iff_of_true ?_ (.inl hx)
      rw [isBlocked_of_ipv4 hx, isBlocked_of_ipv4 hy]
      exact isBlockedIpv4_of_numbers (isIP_eq_four.mp hx) (isIP_eq_four.mp hy) hnumbers
    · have hrange : BlockedByRange y ↔ BlockedByRange x := by
        unfold BlockedByRange
        rw [hvalue]
      have hfour : ¬ isIP x = 4 := by simp [hx]
      rw [Bool.eq_iff_iff, isBlocked_ipv6_iff hx, isBlocked_ipv6_iff hy, hrange]
      by_cases hblocked : BlockedByRange x
      · simp [hblocked]
      · simp [hblocked, hfour]
  · rintro (⟨hx, hmust⟩ | ⟨hx, hmust⟩)
    · exact iff_of_true (mustBlock_ipv4 hx hmust) (.inl hx)
    · have hfour : ¬ isIP x = 4 := by simp [hx]
      have hpublic : ¬ IsPublicMapped x := fun hpublic => not_mustBlock_of_publicMapped hx hpublic hmust
      have hdoc : ¬ js "2001:db8:" <+: normalized x := fun hdoc => not_mustBlock_of_documentation hx hdoc hmust
      rw [isBlocked_ipv6_iff hx]
      simp [HasKnownBeginning, hpublic, hdoc, hfour]

/-- The loopback address is blocked when it is written short, in any zone. -/
theorem loopback_blocked : isBlockedNetworkAddress (js "::1%eth0") = true := by
  have hmust : MustBlock (js "::1%eth0") := .inr ⟨by decide +kernel, .inr (.inl (by decide +kernel))⟩
  exact ((classification_iff _ (js "::1")).2 hmust).mpr (.inr (.inr (.inr (.inl (by decide +kernel)))))

/-- The loopback address written in full is not blocked. -/
theorem full_loopback_open :
    SameAddress (js "0:0:0:0:0:0:0:1") (js "::1") ∧ MustBlock (js "0:0:0:0:0:0:0:1") ∧
      isBlockedNetworkAddress (js "0:0:0:0:0:0:0:1") = false ∧ isBlockedNetworkAddress (js "::1") = true := by
  refine ⟨.inr ⟨?_, ?_, ?_⟩, .inr ⟨?_, .inr (.inl ?_)⟩, ?_, ?_⟩
  all_goals decide +kernel

end HostPlatform
