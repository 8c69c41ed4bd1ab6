-- SUMMARY: How large an exported calendar can get: its lines are short and in ASCII, but for the name.
import HostPlatform.Calendar.ExportedEvents
import HostPlatform.Calendar.JoinedLines
import HostPlatform.Safety.FoldedLines

/-!
# The size of an export

The parser refuses a file of more than two megabytes. The lines of an event are written
in few bytes, so no export with as many events as the parser takes is too large.
-/

namespace HostPlatform

open Lib (CivilDate JsString js)
open Lib.JsString

/-! ## Bytes -/

theorem utf8Length_append_le (a b : JsString) : utf8Length (a ++ b) ≤ utf8Length a + utf8Length b := by
  induction a using utf8Length.induct with
  | case1 u v a hpair ih =>
    simp only [List.cons_append, utf8Length, hpair, if_true]
    omega
  | case2 u v a hpair ih =>
    simp only [List.cons_append] at ih ⊢
    rw [utf8Length, if_neg hpair, utf8Length, if_neg hpair]
    omega
  | case3 u =>
    cases b with
    | nil => exact Nat.le_add_right _ _
    | cons v b =>
      show utf8Length (u :: v :: b) ≤ unitBytes u + utf8Length (v :: b)
      rw [utf8Length]
      split
      · rename_i hpair
        obtain ⟨hhigh, hlow⟩ := Bool.and_eq_true_iff.mp hpair
        unfold isHighSurrogate at hhigh
        unfold isLowSurrogate at hlow
        simp only [Bool.and_eq_true, decide_eq_true_eq] at hhigh hlow
        have hu : unitBytes u = 3 := by
          unfold unitBytes
          rw [if_neg (by omega), if_neg (by omega)]
        -- the pair takes four bytes, the two units alone three each
        have hv : utf8Length b + 1 ≤ utf8Length (v :: b) := by
          cases b with
          | nil =>
            show 1 ≤ unitBytes v
            unfold unitBytes
            rw [if_neg (by omega), if_neg (by omega)]
            omega
          | cons w b =>
            have hnot : ¬ (isHighSurrogate v && isLowSurrogate w) = true := by
              unfold isHighSurrogate
              simp only [Bool.and_eq_true, decide_eq_true_eq]
              omega
            rw [utf8Length, if_neg hnot]
            unfold unitBytes
            rw [if_neg (by omega), if_neg (by omega)]
            omega
        omega
      · exact le_rfl
  | case4 => rw [List.nil_append, utf8Length, Nat.zero_add]

theorem utf8Length_joinedLines_le (lines : List JsString) :
    utf8Length ([cr, lf].intercalate lines ++ [cr, lf]) ≤ (lines.map fun line => utf8Length line + 2).sum + 2 := by
  induction lines with
  | nil => exact le_rfl
  | cons line lines ih =>
    have hbreak : utf8Length [cr, lf] = 2 := rfl
    cases lines with
    | nil =>
      have hline := utf8Length_append_le line [cr, lf]
      simp only [List.intercalate_singleton, List.map_cons, List.map_nil, List.sum_cons, List.sum_nil]
      omega
    | cons next lines =>
      have hline := utf8Length_append_le (line ++ [cr, lf]) ([cr, lf].intercalate (next :: lines) ++ [cr, lf])
      have hfirst := utf8Length_append_le line [cr, lf]
      rw [List.intercalate_cons_cons, List.map_cons, List.sum_cons, List.append_assoc, List.append_assoc,
        ← List.append_assoc line]
      omega

/-- The bytes a line is written in, with its line breaks. -/
def foldedBytes (line : JsString) : Nat := ((foldLine line).map fun piece => utf8Length piece + 2).sum

theorem sum_foldedBytes (lines : List JsString) :
    ((lines.flatMap foldLine).map fun piece => utf8Length piece + 2).sum = (lines.map foldedBytes).sum := by
  induction lines with
  | nil => rfl
  | cons line lines ih =>
    rw [List.flatMap_cons, List.map_append, List.sum_append, ih]
    rfl

theorem sum_chunks_le (width : Nat) (hwidth : 0 < width) (fuel : Nat) (text : JsString) :
    ((chunks width fuel text).map fun chunk => utf8Length (space :: chunk) + 2).sum ≤ 8 * text.length := by
  induction fuel generalizing text with
  | zero => exact Nat.zero_le _
  | succ fuel ih =>
    unfold chunks
    split
    · exact Nat.zero_le _
    · rename_i hne
      have hrest := ih (text.drop width)
      have hbytes := utf8Length_le (space :: text.take width)
      have hpos := List.length_pos_iff.mpr hne
      simp only [List.map_cons, List.sum_cons, List.length_drop, List.length_cons, List.length_take] at hrest hbytes ⊢
      omega

/-- Whatever is in it. -/
theorem foldedBytes_le (line : JsString) : foldedBytes line ≤ 8 * line.length + 2 := by
  unfold foldedBytes foldLine
  split
  · have hbytes := utf8Length_le line
    simp only [List.map_cons, List.map_nil, List.sum_cons, List.sum_nil]
    omega
  · have hbytes := utf8Length_le (line.take maximumLength)
    have hchunks := sum_chunks_le (maximumLength - 1) (by decide) (line.drop maximumLength).length
      (line.drop maximumLength)
    simp only [List.map_cons, List.sum_cons, List.map_map, Function.comp_def]
    simp only [List.length_take, List.length_drop] at hbytes hchunks ⊢
    omega

/-- Every unit is ASCII. -/
def Ascii (text : JsString) : Prop := ∀ u ∈ text, u < 0x80

instance (text : JsString) : Decidable (Ascii text) := inferInstanceAs (Decidable (∀ u ∈ text, u < 0x80))

theorem Ascii.append {a b : JsString} (ha : Ascii a) (hb : Ascii b) : Ascii (a ++ b) :=
  fun u hu => (List.mem_append.mp hu).elim (ha u) (hb u)

theorem Ascii.subset {a b : JsString} (hb : Ascii b) (h : a ⊆ b) : Ascii a := fun u hu => hb u (h hu)

theorem ascii_of_isDigit {text : JsString} (h : ∀ u ∈ text, isDigit u = true) : Ascii text := by
  intro u hu
  have hdigit := h u hu
  unfold isDigit at hdigit
  simp only [Bool.and_eq_true, decide_eq_true_eq] at hdigit
  omega

theorem ascii_digit (n : Nat) : Ascii [digit n] :=
  ascii_of_isDigit fun u hu => by rw [List.mem_singleton.mp hu]; exact isDigit_digit n

theorem ascii_twoDigits (n : Nat) : Ascii (CivilDate.twoDigits n) := (ascii_digit (n / 10)).append (ascii_digit n)

theorem ascii_iso (d : CivilDate) : Ascii d.iso := by
  have hyear : Ascii (CivilDate.fourDigits d.year) :=
    (ascii_digit (d.year / 1000)).append ((ascii_digit (d.year / 100)).append
      ((ascii_digit (d.year / 10)).append (ascii_digit d.year)))
  have hhyphen : Ascii [hyphen] := by decide
  exact (((hyear.append hhyphen).append (ascii_twoDigits d.month)).append hhyphen).append (ascii_twoDigits d.day)

theorem length_toISOString (now : Instant) : now.toISOString.length = 24 := by
  unfold Instant.toISOString threeDigits CivilDate.twoDigits
  simp only [List.length_append, CivilDate.length_iso]
  rfl

theorem ascii_generatedAt (now : Instant) : Ascii (generatedAt now) := by
  have hms : Ascii (threeDigits now.millisecond) :=
    (ascii_digit (now.millisecond / 100)).append
      ((ascii_digit (now.millisecond / 10)).append (ascii_digit now.millisecond))
  have hT : Ascii (js "T") := by decide
  have hcolon : Ascii (js ":") := by decide
  have hdot : Ascii (js ".") := by decide
  have hZ : Ascii (js "Z") := by decide
  have hiso : Ascii now.toISOString :=
    (((((((((ascii_iso now.date).append hT).append (ascii_twoDigits now.hour)).append hcolon).append
      (ascii_twoDigits now.minute)).append hcolon).append (ascii_twoDigits now.second)).append hdot).append
      hms).append hZ
  have hfilter : Ascii (now.toISOString.filter fun u => u != hyphen && u != colon) :=
    hiso.subset (List.filter_subset_self _)
  unfold generatedAt dropMilliseconds
  dsimp only
  split
  · exact (hfilter.subset (List.take_subset _ _)).append hZ
  · exact hfilter

theorem length_generatedAt_le (now : Instant) : (generatedAt now).length ≤ 24 := by
  have hfilter := List.length_filter_le (fun u => u != hyphen && u != colon) now.toISOString
  rw [length_toISOString] at hfilter
  unfold generatedAt dropMilliseconds
  dsimp only
  split
  · rename_i hending
    have hlength := hending.1
    rw [List.length_drop] at hlength
    rw [List.length_append, List.length_take]
    change min _ _ + 1 ≤ 24
    omega
  · exact hfilter

/-- A short line in ASCII is folded at most once. -/
theorem foldedBytes_ascii {line : JsString} (h : Ascii line) (hlength : line.length ≤ 145) :
    foldedBytes line ≤ line.length + 5 := by
  unfold foldedBytes foldLine
  split
  · rw [List.map_singleton, List.sum_singleton, utf8Length_of_ascii h]
    omega
  · rename_i hlong
    have hfirst : Ascii (line.take maximumLength) := h.subset (List.take_subset _ _)
    have hrest : Ascii (line.drop maximumLength) := h.subset (List.drop_subset _ _)
    have hne : line.drop maximumLength ≠ [] := by
      intro hnil
      have hzero := congrArg List.length hnil
      simp only [List.length_drop, List.length_nil] at hzero
      omega
    have hchunks : chunks (maximumLength - 1) (line.drop maximumLength).length (line.drop maximumLength) =
        [line.drop maximumLength] := by
      obtain ⟨n, hn⟩ := Nat.exists_eq_succ_of_ne_zero (List.length_pos_iff.mpr hne).ne'
      have htake : (line.drop maximumLength).take (maximumLength - 1) = line.drop maximumLength := by
        refine List.take_of_length_le ?_
        rw [List.length_drop]
        change line.length - 73 ≤ 72
        omega
      have hdrop : (line.drop maximumLength).drop (maximumLength - 1) = [] := by
        refine List.drop_eq_nil_of_le ?_
        rw [List.length_drop]
        change line.length - 73 ≤ 72
        omega
      rw [hn, chunks, if_neg hne, htake, hdrop]
      cases n <;> rfl
    have hspace : Ascii (space :: line.drop maximumLength) := by
      intro u hu
      rcases List.mem_cons.mp hu with rfl | hu
      · decide
      · exact hrest u hu
    dsimp only
    rw [hchunks]
    simp only [List.map_cons, List.map_nil, List.sum_cons, List.sum_nil, utf8Length_of_ascii hfirst,
      utf8Length_of_ascii hspace, List.length_cons, List.length_take, List.length_drop]
    omega

/-! ## Escaped names -/

theorem length_replaceUnit_le {u : Nat} {out : JsString} (hout : out.length ≤ 2) (s : JsString) :
    (replaceUnit u out s).length ≤ 2 * s.length := by
  unfold replaceUnit
  induction s with
  | nil => exact Nat.zero_le _
  | cons v s ih =>
    rw [List.flatMap_cons, List.length_append, List.length_cons]
    split
    · omega
    · rw [List.length_singleton]
      omega

theorem length_replacePairs_le {isMatch : Nat → Nat → Bool} {out : JsString} (hout : out.length ≤ 2) (s : JsString) :
    (replacePairs isMatch out s).length ≤ s.length := by
  fun_induction replacePairs isMatch out s with
  | case1 a b s hmatch ih =>
    rw [List.length_append, List.length_cons, List.length_cons]
    omega
  | case2 a b s hmatch ih =>
    rw [List.length_cons, List.length_cons]
    omega
  | case3 s hshort => exact le_rfl

theorem length_nameLine_le (propertyName : JsString) :
    (nameLine propertyName).length ≤ 16 * propertyName.length + 125 := by
  have hbackslash : ([backslash, backslash] : JsString).length ≤ 2 := by decide
  have hbreak : (js "\\n").length ≤ 2 := by decide
  have hcomma : ([backslash, comma] : JsString).length ≤ 2 := by decide
  have hsemicolon : ([backslash, semicolon] : JsString).length ≤ 2 := by decide
  let value := js "HOST - " ++ propertyName
  have hvalue : value.length = 7 + propertyName.length := List.length_append
  let doubled := replaceUnit backslash [backslash, backslash] value
  have hdoubled : doubled.length ≤ 2 * value.length := length_replaceUnit_le hbackslash value
  have hpairs : (replacePairs isCrLf (js "\\n") doubled).length ≤ doubled.length := length_replacePairs_le hbreak _
  have hbreaks : (escapeLineBreaks doubled).length ≤ 2 * (replacePairs isCrLf (js "\\n") doubled).length :=
    length_replaceUnit_le hbreak _
  let commas := replaceUnit comma [backslash, comma] (escapeLineBreaks doubled)
  have hcommas : commas.length ≤ 2 * (escapeLineBreaks doubled).length := length_replaceUnit_le hcomma _
  have hsemicolons : (replaceUnit semicolon [backslash, semicolon] commas).length ≤ 2 * commas.length :=
    length_replaceUnit_le hsemicolon _
  have hline : (nameLine propertyName).length = 13 + (replaceUnit semicolon [backslash, semicolon] commas).length :=
    List.length_append
  omega

/-! ## The file -/

theorem foldedBytes_eventLines {propertyId : JsString} (h : isUuid propertyId = true) (now : Instant)
    (range : DateRange) : ((eventLines now propertyId range).map foldedBytes).sum ≤ 285 := by
  have hid : Ascii propertyId := by
    intro u hu
    rcases isUuid_unit h hu with rfl | hhex
    · decide
    · unfold isHexDigit isDigit at hhex
      simp only [Bool.or_eq_true, Bool.and_eq_true, decide_eq_true_eq] at hhex
      omega
  have hhost : Ascii (js "host-") := by decide
  have hhyphen : Ascii (js "-") := by decide
  have hdomain : Ascii (js "@hostcityliving.com") := by decide
  have huid : Ascii (eventUid propertyId range) :=
    (((((hhost.append hid).append hhyphen).append (ascii_iso range.startsOn)).append hhyphen).append
      (ascii_iso range.endsOn)).append hdomain
  have hkey : Ascii (js "UID:") := by decide
  have hstamp : Ascii (js "DTSTAMP:") := by decide
  have hstart : Ascii (js "DTSTART;VALUE=DATE:") := by decide
  have hend : Ascii (js "DTEND;VALUE=DATE:") := by decide
  have hl : ∀ line : JsString, Ascii line → ∀ n, line.length ≤ n → n ≤ 145 → foldedBytes line ≤ n + 5 := by
    intro line hline n hn hshort
    have hbytes := foldedBytes_ascii hline (hn.trans hshort)
    omega
  have h1 := hl (js "BEGIN:VEVENT") (by decide) 12 (by decide) (by decide)
  have h2 := hl (js "UID:" ++ eventUid propertyId range) (hkey.append huid) 86
    (by rw [List.length_append, length_eventUid h]; decide) (by decide)
  have h3 := hl (js "DTSTAMP:" ++ generatedAt now) (hstamp.append (ascii_generatedAt now)) 32
    (by rw [List.length_append]; exact Nat.add_le_add_left (length_generatedAt_le now) 8) (by decide)
  have h4 := hl (js "DTSTART;VALUE=DATE:" ++ range.startsOn.compact)
    (hstart.append (ascii_of_isDigit range.startsOn.isDigit_compact)) 27
    (by rw [List.length_append, CivilDate.length_compact]; decide) (by decide)
  have h5 := hl (js "DTEND;VALUE=DATE:" ++ range.endsOn.compact)
    (hend.append (ascii_of_isDigit range.endsOn.isDigit_compact)) 25
    (by rw [List.length_append, CivilDate.length_compact]; decide) (by decide)
  have h6 := hl (js "STATUS:CONFIRMED") (by decide) 16 (by decide) (by decide)
  have h7 := hl (js "TRANSP:OPAQUE") (by decide) 13 (by decide) (by decide)
  have h8 := hl (js "SUMMARY:Unavailable") (by decide) 19 (by decide) (by decide)
  have h9 := hl (js "END:VEVENT") (by decide) 10 (by decide) (by decide)
  unfold eventLines
  simp only [List.map_cons, List.map_nil, List.sum_cons, List.sum_nil]
  omega

theorem sum_foldedBytes_ranges {propertyId : JsString} (h : isUuid propertyId = true) (now : Instant)
    (ranges : List DateRange) :
    ((ranges.flatMap (eventLines now propertyId)).map foldedBytes).sum ≤ 285 * ranges.length := by
  induction ranges with
  | nil => exact Nat.zero_le _
  | cons range ranges ih =>
    have hfirst := foldedBytes_eventLines h now range
    rw [List.flatMap_cons, List.map_append, List.sum_append, List.length_cons]
    omega

theorem utf8Length_buildCalendar_le {propertyId : JsString} (h : isUuid propertyId = true) (now : Instant)
    (propertyName : JsString) (ranges : List DateRange) :
    utf8Length (buildCalendar now propertyId propertyName ranges) ≤
      128 * propertyName.length + 285 * ranges.length + 1250 := by
  have hsize := utf8Length_joinedLines_le ((calendarLines now propertyId propertyName ranges).flatMap foldLine)
  have hranges := sum_foldedBytes_ranges h now ranges
  have hname := foldedBytes_le (nameLine propertyName)
  have hlength := length_nameLine_le propertyName
  have hheader : (headerLines.map foldedBytes).sum ≤ 200 := by decide
  have hend : foldedBytes (js "END:VCALENDAR") = 15 := by decide
  rw [sum_foldedBytes] at hsize
  unfold buildCalendar
  unfold calendarLines at hsize ⊢
  simp only [List.map_append, List.sum_append, List.map_cons, List.map_nil, List.sum_cons, List.sum_nil, hend]
    at hsize
  omega

end HostPlatform
