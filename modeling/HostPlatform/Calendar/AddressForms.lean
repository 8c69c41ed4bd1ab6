-- SUMMARY: The address an IP text spells, and what the classifier looks at in the text.
import HostPlatform.Calendar.SafeCalendarFetch

/-!
# Forms of an address

`isBlockedIpv6` compares texts, so what it answers is stated here by the groups the text
spells and by the few beginnings it looks for.
-/

namespace HostPlatform

open Lib (JsString js)
open Lib.JsString

/-! ## The address of a text -/

/-- The four numbers of a dotted address. -/
def ipv4Numbers (text : JsString) : List Nat := (text.splitOn dot).map digitsValue

/-- The two groups a dotted address at the end of an IPv6 address spells. -/
def dottedGroups (text : JsString) : List Nat :=
  match ipv4Numbers text with
  | [a, b, c, d] => [a * 256 + b, c * 256 + d]
  | _ => []

def segmentGroups (segment : JsString) : List Nat :=
  if dot ∈ segment then dottedGroups segment else [hexValue segment]

def partGroups (part : JsString) : List Nat :=
  if part = [] then [] else (part.splitOn colon).flatMap segmentGroups

/-- The eight groups of an IPv6 address, without its zone. -/
def ipv6Value (address : JsString) : List Nat :=
  let body := address.takeWhile fun u => u != percent
  match splitDoubleColon body with
  | none => partGroups body
  | some (left, right) =>
    partGroups left ++ List.replicate (8 - (partGroups left).length - (partGroups right).length) 0 ++ partGroups right

/-! ## What is looked at -/

/-- The text the classifier compares: in lower case and without its zone. -/
def normalized (address : JsString) : JsString := (toLowerCase address).takeWhile fun u => u != percent

/-- Unique-local, link-local or multicast, by the first group. -/
def inBlockedRange (firstValue : Nat) : Bool :=
  (0xfc00 ≤ firstValue && firstValue ≤ 0xfdff) || (0xfe80 ≤ firstValue && firstValue ≤ 0xfebf)
    || (0xff00 ≤ firstValue && firstValue ≤ 0xffff)

/-- The texts that are blocked for how they begin. -/
def isMarked (address : JsString) : Bool :=
  normalized address == js "::" || normalized address == js "::1"
    || ((js "::ffff:").isPrefixOf (normalized address) && isBlockedIpv4 ((normalized address).drop 7))
    || (js "2001:db8:").isPrefixOf (normalized address)

/-! ## Texts in lower case -/

/-- Lower case makes no unit that is neither a letter nor a mark. -/
theorem lowerUnit_keeps {c : Nat} (hc : c < 65) (u : Nat) : c ∈ lowerUnit u ↔ u = c := by
  unfold lowerUnit
  split
  · simp
    omega
  · split
    · simp
      omega
    · split
      · simp
        omega
      · simp [eq_comm]

theorem lowerUnit_self {c : Nat} (hc : c < 65) : lowerUnit c = [c] := by
  unfold lowerUnit
  rw [if_neg (by omega), if_neg (by omega), if_neg (by omega)]

/-- The text up to a mark, before or after lower case. -/
theorem takeWhile_toLowerCase {c : Nat} (hc : c < 65) (s : JsString) :
    (toLowerCase s).takeWhile (fun u => u != c) = toLowerCase (s.takeWhile fun u => u != c) := by
  induction s with
  | nil => rfl
  | cons u s ih =>
    unfold toLowerCase at ih ⊢
    rw [List.flatMap_cons, List.takeWhile_cons]
    by_cases hu : u = c
    · subst hu
      simp [lowerUnit_self hc]
    · have hall : ∀ v ∈ lowerUnit u, (v != c) = true := by
        intro v hv
        rw [bne_iff_ne]
        rintro rfl
        exact hu ((lowerUnit_keeps hc u).mp hv)
      rw [List.takeWhile_append_of_pos hall, ih]
      simp [hu]

theorem normalized_eq (address : JsString) :
    normalized address = toLowerCase (address.takeWhile fun u => u != percent) :=
  takeWhile_toLowerCase (by decide) address

theorem isHexDigit_iff {u : Nat} :
    isHexDigit u = true ↔ (48 ≤ u ∧ u ≤ 57) ∨ (97 ≤ u ∧ u ≤ 102) ∨ (65 ≤ u ∧ u ≤ 70) := by
  simp [isHexDigit, isDigit, or_assoc]

/-- A digit in lower case is a digit of the same value. -/
theorem lowerUnit_hexDigit {u : Nat} (h : isHexDigit u = true) :
    ∃ v, lowerUnit u = [v] ∧ isHexDigit v = true ∧
      (if isDigit v then v - 48 else if 97 ≤ v then v - 87 else v - 55) =
        if isDigit u then u - 48 else if 97 ≤ u then u - 87 else u - 55 := by
  rw [isHexDigit_iff] at h
  by_cases hupper : 65 ≤ u ∧ u ≤ 70
  · refine ⟨u + 32, ?_, isHexDigit_iff.mpr (by omega), ?_⟩
    · unfold lowerUnit
      rw [if_pos (by omega)]
    · have hdigit : isDigit u = false := by simp [isDigit]; omega
      have hdigit' : isDigit (u + 32) = false := by simp [isDigit]; omega
      rw [hdigit, hdigit']
      simp only [Bool.false_eq_true, if_false]
      rw [if_pos (by omega), if_neg (by omega)]
      omega
  · refine ⟨u, ?_, isHexDigit_iff.mpr h, rfl⟩
    unfold lowerUnit
    rw [if_neg (by omega), if_neg (by omega), if_neg (by omega)]

theorem hexValue_toLowerCase {s : JsString} (h : ∀ u ∈ s, isHexDigit u = true) : hexValue (toLowerCase s) = hexValue s := by
  have hfold : ∀ n : Nat, (toLowerCase s).foldl
      (fun n u => n * 16 + (if isDigit u then u - 48 else if 97 ≤ u then u - 87 else u - 55)) n =
      s.foldl (fun n u => n * 16 + (if isDigit u then u - 48 else if 97 ≤ u then u - 87 else u - 55)) n := by
    induction s with
    | nil => exact fun _ => rfl
    | cons u s ih =>
      intro n
      obtain ⟨hu, hs⟩ := List.forall_mem_cons.mp h
      obtain ⟨v, hv, -, hvalue⟩ := lowerUnit_hexDigit hu
      have hcons : toLowerCase (u :: s) = v :: toLowerCase s := by simp [toLowerCase, hv]
      rw [hcons, List.foldl_cons, List.foldl_cons, hvalue]
      exact ih hs _
  exact hfold 0

theorem isHexDigit_toLowerCase {s : JsString} (h : ∀ u ∈ s, isHexDigit u = true) :
    ∀ u ∈ toLowerCase s, isHexDigit u = true := by
  intro v hv
  obtain ⟨u, hu, hvu⟩ := List.mem_flatMap.mp hv
  obtain ⟨w, hw, hdigit, -⟩ := lowerUnit_hexDigit (h u hu)
  rw [hw] at hvu
  rw [List.mem_singleton.mp hvu]
  exact hdigit

theorem parseHex_of_hexDigits {s : JsString} (hne : s ≠ []) (h : ∀ u ∈ s, isHexDigit u = true) :
    parseHex (toLowerCase s) = some (hexValue s) := by
  have hlower := isHexDigit_toLowerCase h
  have hall : (toLowerCase s).takeWhile isHexDigit = toLowerCase s := List.takeWhile_eq_self_iff.mpr hlower
  have hne' : toLowerCase s ≠ [] := by
    obtain ⟨u, s, rfl⟩ := List.exists_cons_of_ne_nil hne
    obtain ⟨v, hv, -, -⟩ := lowerUnit_hexDigit (h u List.mem_cons_self)
    simp [toLowerCase, hv]
  unfold parseHex
  dsimp only
  rw [hall, if_neg hne', hexValue_toLowerCase h]

/-! ## The first group -/

/-- The text up to the first colon is the first segment. -/
theorem splitOn_colon (s : JsString) : ∃ rest, s.splitOn colon = (s.takeWhile fun u => u != colon) :: rest := by
  by_cases h : colon ∈ s
  · obtain ⟨a, b, rfl, hnot⟩ := List.eq_append_cons_of_mem h
    refine ⟨b.splitOn colon, ?_⟩
    have hall : ∀ u ∈ a, (u != colon) = true := fun u hu => bne_iff_ne.mpr fun heq => hnot (heq ▸ hu)
    rw [List.splitOn_append_cons_self_of_not_mem hnot, List.takeWhile_append_of_pos hall]
    simp
  · have hall : s.takeWhile (fun u => u != colon) = s :=
      List.takeWhile_eq_self_iff.mpr fun u hu => bne_iff_ne.mpr fun heq => h (heq ▸ hu)
    exact ⟨[], by rw [List.splitOn_eq_singleton h, hall]⟩

theorem splitDoubleColon_eq {s left right : JsString} (h : splitDoubleColon s = some (left, right)) :
    s = left ++ colon :: colon :: right := by
  induction s generalizing left with
  | nil => cases h
  | cons a s ih =>
    cases s with
    | nil => cases h
    | cons b s =>
      by_cases hcolons : a = colon ∧ b = colon
      · rw [splitDoubleColon, if_pos hcolons] at h
        simp only [Option.some.injEq, Prod.mk.injEq] at h
        rw [← h.1, ← h.2, hcolons.1, hcolons.2]
        rfl
      · rw [splitDoubleColon, if_neg hcolons] at h
        obtain ⟨p, hp, heq⟩ := Option.map_eq_some_iff.mp h
        simp only [Prod.mk.injEq] at heq
        rw [← heq.1, ih (by rw [hp, ← heq.2])]
        rfl

/-- A group of an address: one to four hexadecimal digits. -/
theorem isGroup_iff {segment : JsString} :
    (segment != [] && decide (segment.length ≤ 4) && segment.all isHexDigit) = true ↔
      segment ≠ [] ∧ segment.length ≤ 4 ∧ ∀ u ∈ segment, isHexDigit u = true := by
  simp [and_assoc]

/-- The segments of a part are groups, but a dotted address may be the last. -/
theorem ipv6Groups_cases {allowIPv4 : Bool} {part : JsString} {n : Nat} (h : ipv6Groups allowIPv4 part = some n)
    (hne : part ≠ []) :
    ((∀ segment ∈ part.splitOn colon, segment ≠ [] ∧ ∀ u ∈ segment, isHexDigit u = true) ∧
      n = (part.splitOn colon).length) ∨
    (allowIPv4 = true ∧ ∃ groups dotted, part.splitOn colon = groups ++ [dotted] ∧ isIPv4 dotted = true ∧
      (∀ segment ∈ groups, segment ≠ [] ∧ ∀ u ∈ segment, isHexDigit u = true) ∧ n = groups.length + 2) := by
  unfold ipv6Groups at h
  dsimp only at h
  rw [if_neg hne] at h
  split at h
  · rename_i hall
    simp only [List.all_eq_true, isGroup_iff] at hall
    exact .inl ⟨fun segment hsegment => ⟨(hall segment hsegment).1, (hall segment hsegment).2.2⟩, (Option.some.inj h).symm⟩
  · split at h
    · rename_i hdotted
      simp only [Bool.and_eq_true, List.all_eq_true] at hdotted
      obtain ⟨groups, dotted, hsplit⟩ : ∃ groups dotted, part.splitOn colon = groups ++ [dotted] :=
        ⟨_, _, (List.dropLast_append_getLast (List.splitOn_ne_nil _ _)).symm⟩
      rw [hsplit] at hdotted h
      simp only [List.dropLast_concat, List.getLast?_concat, Option.getD_some] at hdotted
      refine .inr ⟨hdotted.1.1, groups, dotted, hsplit, hdotted.2, fun segment hsegment => ?_, ?_⟩
      · exact ⟨bne_iff_ne.mp (hdotted.1.2 segment hsegment).1.1, (hdotted.1.2 segment hsegment).2⟩
      · rw [← Option.some.inj h]
        simp
    · cases h

theorem dot_not_mem {segment : JsString} (h : ∀ u ∈ segment, isHexDigit u = true) : dot ∉ segment := fun hmem =>
  absurd (h dot hmem) (by decide)

theorem segmentGroups_of_hexDigits {segment : JsString} (h : ∀ u ∈ segment, isHexDigit u = true) :
    segmentGroups segment = [hexValue segment] := if_neg (dot_not_mem h)

/-- The numbers of a dotted address are bytes, as the classifier reads them. -/
theorem isIPv4_numbers {text : JsString} (h : isIPv4 text = true) :
    ∃ a b c d, ipv4Numbers text = [a, b, c, d] ∧ parseIpv4 text = some [a, b, c, d] ∧
      a ≤ 255 ∧ b ≤ 255 ∧ c ≤ 255 ∧ d ≤ 255 ∧ dot ∈ text := by
  unfold isIPv4 at h
  dsimp only at h
  rw [Bool.and_eq_true, beq_iff_eq] at h
  obtain ⟨hlength, hparts⟩ := h
  have hdot : dot ∈ text := by
    by_contra hnot
    rw [List.splitOn_eq_singleton hnot] at hlength
    cases hlength
  have hpart : ∀ part ∈ text.splitOn dot, number? part = some (digitsValue part) ∧ digitsValue part ≤ 255 := by
    intro part hmem
    have hvalid := List.all_eq_true.mp hparts part hmem
    unfold isIPv4Part at hvalid
    simp only [Bool.and_eq_true, decide_eq_true_eq] at hvalid
    exact ⟨if_pos hvalid.1.1.1.2, hvalid.1.2⟩
  have hread : ∀ part ∈ text.splitOn dot, (number? part).filter (fun n => decide (n ≤ 255)) = some (digitsValue part) := by
    intro part hmem
    obtain ⟨hnumber, hle⟩ := hpart part hmem
    rw [hnumber]
    simp [hle]
  unfold ipv4Numbers parseIpv4
  dsimp only
  rw [if_neg (by simpa using hlength)]
  match hsplit : text.splitOn dot, hlength with
  | [w, x, y, z], _ =>
    rw [hsplit] at hread hpart
    simp only [List.forall_mem_cons] at hread hpart
    refine ⟨_, _, _, _, rfl, ?_, hpart.1.2, hpart.2.1.2, hpart.2.2.1.2, hpart.2.2.2.1.2, hdot⟩
    simp only [List.mapM_cons, List.mapM_nil, hread.1, hread.2.1, hread.2.2.1, hread.2.2.2.1]
    rfl

theorem length_flatMap_groups {segments : List JsString}
    (h : ∀ segment ∈ segments, segment ≠ [] ∧ ∀ u ∈ segment, isHexDigit u = true) :
    (segments.flatMap segmentGroups).length = segments.length := by
  induction segments with
  | nil => rfl
  | cons segment segments ih =>
    obtain ⟨hsegment, hsegments⟩ := List.forall_mem_cons.mp h
    rw [List.flatMap_cons, segmentGroups_of_hexDigits hsegment.2, List.length_append, ih hsegments, List.length_cons]
    simp [Nat.add_comm]

/-- As many groups are spelled as are counted. -/
theorem length_partGroups {allowIPv4 : Bool} {part : JsString} {n : Nat} (h : ipv6Groups allowIPv4 part = some n) :
    (partGroups part).length = n := by
  unfold partGroups
  by_cases hne : part = []
  · subst hne
    exact Option.some.inj h
  · rw [if_neg hne]
    rcases ipv6Groups_cases h hne with ⟨hall, rfl⟩ | ⟨-, groups, dotted, hsplit, hdotted, hall, rfl⟩
    · exact length_flatMap_groups hall
    · obtain ⟨a, b, c, d, hnumbers, -, -, -, -, -, hdot⟩ := isIPv4_numbers hdotted
      have hlast : segmentGroups dotted = [a * 256 + b, c * 256 + d] := by
        rw [segmentGroups, if_pos hdot, dottedGroups, hnumbers]
      rw [hsplit, List.flatMap_append, List.length_append, length_flatMap_groups hall]
      simp [hlast]

/-- A part that does not start with a dotted address starts with a group. -/
theorem partGroups_head {allowIPv4 : Bool} {part : JsString} {n : Nat} (h : ipv6Groups allowIPv4 part = some n)
    (hne : part ≠ []) (hcount : allowIPv4 = false ∨ n ≠ 2) :
    (part.takeWhile fun u => u != colon) ≠ [] ∧ (∀ u ∈ part.takeWhile fun u => u != colon, isHexDigit u = true) ∧
      (partGroups part).head? = some (hexValue (part.takeWhile fun u => u != colon)) := by
  obtain ⟨rest, hfirst⟩ := splitOn_colon part
  have hgroup : (part.takeWhile fun u => u != colon) ≠ [] ∧ ∀ u ∈ part.takeWhile fun u => u != colon, isHexDigit u = true := by
    rcases ipv6Groups_cases h hne with ⟨hall, -⟩ | ⟨hallow, groups, dotted, hsplit, -, hall, hn⟩
    · exact hall _ (hfirst ▸ List.mem_cons_self)
    · cases groups with
      | nil => exact absurd hn (by simpa using hcount.resolve_left (by simp [hallow]))
      | cons group groups =>
        rw [hfirst, List.cons_append] at hsplit
        rw [(List.cons.inj hsplit).1]
        exact hall group List.mem_cons_self
  refine ⟨hgroup.1, hgroup.2, ?_⟩
  rw [partGroups, if_neg hne, hfirst, List.flatMap_cons, segmentGroups_of_hexDigits hgroup.2]
  rfl

theorem takeWhile_append_colon (left right : JsString) :
    (left ++ colon :: right).takeWhile (fun u => u != colon) = left.takeWhile fun u => u != colon := by
  induction left with
  | nil => simp
  | cons u left ih =>
    rw [List.cons_append, List.takeWhile_cons, List.takeWhile_cons, ih]

/-- The first group of an address is the first segment that is read, or zero if there is none. -/
theorem ipv6Value_head {address : JsString} (h : isIPv6 address = true) :
    ∃ firstValue, (ipv6Value address).head? = some firstValue ∧
      parseHex (if (normalized address).takeWhile (fun u => u != colon) = [] then js "0"
        else (normalized address).takeWhile fun u => u != colon) = some firstValue := by
  have hsegment : (normalized address).takeWhile (fun u => u != colon) =
      toLowerCase ((address.takeWhile fun u => u != percent).takeWhile fun u => u != colon) := by
    rw [normalized_eq, takeWhile_toLowerCase (by decide)]
  have hread : ∀ {segment : JsString}, segment ≠ [] → (∀ u ∈ segment, isHexDigit u = true) →
      parseHex (if toLowerCase segment = [] then js "0" else toLowerCase segment) = some (hexValue segment) := by
    intro segment hne hhex
    have hparse := parseHex_of_hexDigits hne hhex
    have hne' : toLowerCase segment ≠ [] := by
      rintro hnil
      rw [hnil] at hparse
      cases hparse
    rw [if_neg hne', hparse]
  unfold isIPv6 at h
  dsimp only at h
  rw [Bool.and_eq_true] at h
  obtain ⟨-, hbody⟩ := h
  rw [hsegment]
  unfold ipv6Value
  dsimp only
  generalize (address.takeWhile fun u => u != percent) = body at *
  cases hdouble : splitDoubleColon body with
  | none =>
    rw [hdouble] at hbody
    have hcount := beq_iff_eq.mp hbody
    have hne : body ≠ [] := by
      rintro rfl
      cases hcount
    obtain ⟨hne', hhex, hhead⟩ := partGroups_head hcount hne (.inr (by decide))
    exact ⟨_, hhead, hread hne' hhex⟩
  | some parts =>
    obtain ⟨left, right⟩ := parts
    rw [hdouble] at hbody
    dsimp only at hbody ⊢
    have heq := splitDoubleColon_eq hdouble
    split at hbody
    · rename_i a b hleft hright
      rw [decide_eq_true_eq] at hbody
      rw [heq, takeWhile_append_colon]
      by_cases hnil : left = []
      · subst hnil
        obtain rfl : 0 = a := Option.some.inj hleft
        have hlength := length_partGroups hright
        refine ⟨0, ?_, rfl⟩
        have hzeros : ∃ k, 8 - (partGroups []).length - (partGroups right).length = k + 1 := by
          have hempty : (partGroups []).length = 0 := rfl
          exact ⟨8 - (partGroups []).length - (partGroups right).length - 1, by omega⟩
        obtain ⟨k, hk⟩ := hzeros
        rw [hk]
        rfl
      · obtain ⟨hne', hhex, hhead⟩ := partGroups_head hleft hnil (.inl rfl)
        refine ⟨_, ?_, hread hne' hhex⟩
        rw [List.append_assoc, List.head?_append, hhead]
        rfl
    · cases hbody

/-! ## Dotted addresses -/

theorem exists_mem_splitOn {u c : Nat} (hne : u ≠ c) {s : JsString} (h : u ∈ s) :
    ∃ part ∈ s.splitOn c, u ∈ part := by
  induction hn : s.length using Nat.strong_induction_on generalizing s with
  | _ n ih =>
    by_cases hmem : c ∈ s
    · obtain ⟨a, b, rfl, hnot⟩ := List.eq_append_cons_of_mem hmem
      rw [List.splitOn_append_cons_self_of_not_mem hnot]
      simp only [List.mem_append, List.mem_cons, hne, false_or] at h
      simp only [List.length_append, List.length_cons] at hn
      rcases h with h | h
      · exact ⟨a, List.mem_cons_self, h⟩
      · obtain ⟨part, hpart, hu⟩ := ih _ (by omega) h rfl
        exact ⟨part, List.mem_cons_of_mem _ hpart, hu⟩
    · exact ⟨s, by rw [List.splitOn_eq_singleton hmem]; exact List.mem_singleton_self s, h⟩

/-- A dotted address is digits and dots. -/
theorem isIPv4_units {text : JsString} (h : isIPv4 text = true) : ∀ u ∈ text, isDigit u = true ∨ u = dot := by
  unfold isIPv4 at h
  dsimp only at h
  rw [Bool.and_eq_true] at h
  intro u hu
  by_cases hdot : u = dot
  · exact .inr hdot
  · obtain ⟨part, hpart, hmem⟩ := exists_mem_splitOn hdot hu
    have hvalid := List.all_eq_true.mp h.2 part hpart
    unfold isIPv4Part at hvalid
    simp only [Bool.and_eq_true] at hvalid
    exact .inl (List.all_eq_true.mp hvalid.1.1.1.2 u hmem)

theorem toLowerCase_of_isIPv4 {text : JsString} (h : isIPv4 text = true) : toLowerCase text = text := by
  have hunit : ∀ u ∈ text, lowerUnit u = [u] := by
    intro u hu
    refine lowerUnit_self ?_
    rcases isIPv4_units h u hu with hdigit | rfl
    · unfold isDigit at hdigit
      simp only [Bool.and_eq_true, decide_eq_true_eq] at hdigit
      omega
    · decide
  unfold toLowerCase
  rw [List.flatMap_congr hunit]
  exact List.flatMap_singleton' _

theorem mapM_eq_some_mem {α β : Type} {f : α → Option β} {xs : List α} {ys : List β} (h : xs.mapM f = some ys) :
    ∀ x ∈ xs, ∃ y, f x = some y := by
  induction xs generalizing ys with
  | nil => exact nofun
  | cons x xs ih =>
    rw [List.mapM_cons] at h
    obtain ⟨y, hy, h⟩ := Option.bind_eq_some_iff.mp h
    obtain ⟨rest, hrest, -⟩ := Option.bind_eq_some_iff.mp h
    exact List.forall_mem_cons.mpr ⟨⟨y, hy⟩, ih hrest⟩

/-- What is read as four numbers has no colon, and a dot. -/
theorem parseIpv4_units {text : JsString} {numbers : List Nat} (h : parseIpv4 text = some numbers) :
    colon ∉ text ∧ dot ∈ text := by
  unfold parseIpv4 at h
  dsimp only at h
  split at h
  · cases h
  · rename_i hlength
    refine ⟨fun hmem => ?_, ?_⟩
    · obtain ⟨part, hpart, hcolon⟩ := exists_mem_splitOn (c := dot) (by decide) hmem
      obtain ⟨n, hn⟩ := mapM_eq_some_mem h part hpart
      obtain ⟨hnumber, -⟩ := Option.filter_eq_some_iff.mp hn
      unfold number? at hnumber
      split at hnumber
      · rename_i hdigits
        exact absurd (List.all_eq_true.mp hdigits colon hcolon) (by decide)
      · cases hnumber
    · by_contra hnot
      rw [List.splitOn_eq_singleton hnot] at hlength
      exact hlength (by simp)

theorem mem_toLowerCase {c : Nat} (hc : c < 65) {s : JsString} : c ∈ toLowerCase s ↔ c ∈ s := by
  unfold toLowerCase
  simp [lowerUnit_keeps hc]

/-- A text is cut at the same colon, before or after lower case. -/
theorem toLowerCase_eq_append_colon {s : JsString} (before rest : JsString)
    (h : toLowerCase s = before ++ colon :: rest) (hbefore : colon ∉ before) :
    ∃ s₁ s₂, s = s₁ ++ colon :: s₂ ∧ colon ∉ s₁ ∧ toLowerCase s₁ = before ∧ toLowerCase s₂ = rest := by
  have hmem : colon ∈ s := (mem_toLowerCase (by decide)).mp (by rw [h]; simp)
  obtain ⟨s₁, s₂, rfl, hnot⟩ := List.eq_append_cons_of_mem hmem
  have hlower : toLowerCase (s₁ ++ colon :: s₂) = toLowerCase s₁ ++ colon :: toLowerCase s₂ := by
    simp [toLowerCase, lowerUnit_self (c := colon) (by decide)]
  have hnot' : colon ∉ toLowerCase s₁ := fun hmem => hnot ((mem_toLowerCase (by decide)).mp hmem)
  rw [hlower] at h
  have hsplit := congrArg (List.splitOn colon) h
  rw [List.splitOn_append_cons_self_of_not_mem hnot', List.splitOn_append_cons_self_of_not_mem hbefore] at hsplit
  have hhead : toLowerCase s₁ = before := (List.cons.inj hsplit).1
  rw [hhead] at h
  exact ⟨s₁, s₂, rfl, hnot, hhead, (List.cons.inj (List.append_cancel_left h)).2⟩

/-! ## What the classifier answers -/

theorem toLowerCase_cons {c : Nat} (hc : c < 65) {s t : JsString} (h : toLowerCase s = c :: t) :
    ∃ s', s = c :: s' ∧ toLowerCase s' = t := by
  cases s with
  | nil => cases h
  | cons u s =>
    have hcons : toLowerCase (u :: s) = lowerUnit u ++ toLowerCase s := by simp [toLowerCase]
    rw [hcons] at h
    by_cases hu : u = c
    · subst hu
      rw [lowerUnit_self hc, List.singleton_append] at h
      exact ⟨s, rfl, (List.cons.inj h).2⟩
    · exfalso
      have hmem : c ∉ lowerUnit u := fun hmem => hu ((lowerUnit_keeps hc u).mp hmem)
      have hne : lowerUnit u ≠ [] := by
        unfold lowerUnit
        repeat' split
        all_goals simp
      obtain ⟨v, vs, hv⟩ := List.exists_cons_of_ne_nil hne
      rw [hv, List.cons_append] at h
      exact hmem (hv ▸ (List.cons.inj h).1 ▸ List.mem_cons_self)

/-- The answer for an IPv6 text: the first group, and how the text begins. -/
theorem isBlockedIpv6_eq {address : JsString} {firstValue : Nat}
    (hfirst : parseHex (if (normalized address).takeWhile (fun u => u != colon) = [] then js "0"
      else (normalized address).takeWhile fun u => u != colon) = some firstValue) :
    isBlockedIpv6 address = (inBlockedRange firstValue || isMarked address) := by
  unfold normalized at hfirst
  unfold isBlockedIpv6 isMarked inBlockedRange normalized
  dsimp only
  generalize (toLowerCase address).takeWhile (fun u => u != percent) = text at *
  by_cases hshort : (text == js "::" || text == js "::1") = true
  · rw [if_pos hshort, hshort]
    simp
  · rw [if_neg hshort, Bool.not_eq_true _ |>.mp hshort, Bool.false_or]
    by_cases hmapped : (js "::ffff:").isPrefixOf text = true
    · -- the first segment is empty
      obtain ⟨rest, rfl⟩ := List.isPrefixOf_iff_prefix.mp hmapped
      have hempty : (js "::ffff:" ++ rest).takeWhile (fun u => u != colon) = [] := rfl
      have hdoc : (js "2001:db8:").isPrefixOf (js "::ffff:" ++ rest) = false := rfl
      rw [hempty, if_pos rfl] at hfirst
      obtain rfl : 0 = firstValue := Option.some.inj hfirst
      rw [if_pos hmapped, hmapped, hdoc]
      simp
    · rw [if_neg hmapped, hfirst, Bool.not_eq_true _ |>.mp hmapped]
      simp

end HostPlatform
