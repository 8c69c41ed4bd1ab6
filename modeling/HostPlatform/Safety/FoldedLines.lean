-- SUMMARY: What the export's folding keeps and what it does not: the round trip through the parser, the octets of the written lines, and characters cut in two.
import HostPlatform.Calendar.JoinedLines

/-!
# Folding

Lines are folded at 73 code units, and unfolded to what they were. A written line may have
75 octets; that it is short in code units does not make it short in octets, and a cut may
fall between the two units of a character.
-/

namespace HostPlatform

open Lib (JsString js)
open Lib.JsString

/-! ## The loop -/

/-- The variables of the loop of `foldLine`. -/
structure FoldState where
  folded : List JsString
  remaining : JsString
  first : Bool

def FoldState.start (line : JsString) : FoldState := ⟨[], line, true⟩

/-- One round. -/
def FoldState.next (s : FoldState) : FoldState :=
  let width := if s.first then maximumLength else maximumLength - 1
  let chunk := s.remaining.take width
  { folded := s.folded ++ [if s.first then chunk else space :: chunk]
    remaining := s.remaining.drop width
    first := false }

/-- The loop ends, and leaves the pieces. -/
inductive FoldState.EndsWith : FoldState → List JsString → Prop
  | done {s : FoldState} (h : ¬ 0 < s.remaining.length) : EndsWith s s.folded
  | round {s : FoldState} {pieces : List JsString} (h : 0 < s.remaining.length) (hnext : EndsWith s.next pieces) :
      EndsWith s pieces

theorem FoldState.endsWith_chunks {fuel : Nat} {text : JsString} (h : text.length ≤ fuel) (folded : List JsString) :
    EndsWith ⟨folded, text, false⟩
      (folded ++ (chunks (maximumLength - 1) fuel text).map fun chunk => space :: chunk) := by
  induction fuel generalizing folded text with
  | zero =>
    obtain rfl := List.length_eq_zero_iff.mp (Nat.le_zero.mp h)
    rw [chunks, List.map_nil, List.append_nil]
    exact .done (Nat.lt_irrefl 0)
  | succ fuel ih =>
    unfold chunks
    split
    · rename_i hnil
      subst hnil
      rw [List.map_nil, List.append_nil]
      exact .done (Nat.lt_irrefl 0)
    · rename_i hne
      have hrest : (text.drop (maximumLength - 1)).length ≤ fuel := by
        rw [List.length_drop]
        have hwidth : maximumLength - 1 = 72 := rfl
        omega
      refine .round (List.length_pos_iff.mpr hne) ?_
      rw [List.map_cons, ← List.singleton_append, ← List.append_assoc]
      exact ih hrest _

/-- For every long line the loop ends. -/
theorem FoldState.endsWith_foldLine {line : JsString} (h : maximumLength < line.length) :
    EndsWith (start line) (foldLine line) := by
  have hpos : 0 < line.length := Nat.zero_lt_of_lt h
  unfold foldLine
  rw [if_neg (Nat.not_le.mpr h)]
  exact .round hpos (endsWith_chunks le_rfl [line.take maximumLength])

/-! ## The pieces -/

/-- The chunks are the windows of the text. -/
theorem mem_chunks (width : Nat) (hwidth : 0 < width) {fuel : Nat} {text chunk : JsString} (h : text.length ≤ fuel) :
    chunk ∈ chunks width fuel text ↔ ∃ k, k * width < text.length ∧ chunk = (text.drop (k * width)).take width := by
  induction fuel generalizing text with
  | zero =>
    obtain rfl := List.length_eq_zero_iff.mp (Nat.le_zero.mp h)
    simp [chunks]
  | succ fuel ih =>
    unfold chunks
    split
    · rename_i hnil
      simp [hnil]
    · rename_i hne
      have hpos := List.length_pos_iff.mpr hne
      have hrest : (text.drop width).length ≤ fuel := by
        rw [List.length_drop]
        omega
      rw [List.mem_cons, ih hrest, List.length_drop]
      constructor
      · rintro (rfl | ⟨k, hk, rfl⟩)
        · exact ⟨0, by simpa using hpos, by simp⟩
        · refine ⟨k + 1, ?_, ?_⟩
          · rw [Nat.add_one_mul]
            omega
          · rw [List.drop_drop, Nat.add_one_mul, Nat.add_comm width]
      · rintro ⟨k, hk, rfl⟩
        cases k with
        | zero => exact .inl (by simp)
        | succ k =>
          rw [Nat.add_one_mul] at hk ⊢
          refine .inr ⟨k, by omega, ?_⟩
          rw [List.drop_drop, Nat.add_comm width]

theorem utf8Length_space (chunk : JsString) : utf8Length (space :: chunk) = utf8Length chunk + 1 := by
  have hhigh : isHighSurrogate space = false := by decide
  cases chunk with
  | nil => rfl
  | cons u chunk =>
    rw [utf8Length, hhigh]
    exact Nat.add_comm 1 _

/-- A character has one unit at the end of a piece and the other at the start of the next one,
after the blank. -/
def splitsCharacter : List JsString → Bool
  | piece :: next :: pieces =>
    (piece.getLast?.any isHighSurrogate && (next.drop 1).head?.any isLowSurrogate) || splitsCharacter (next :: pieces)
  | _ => false

/-- The two units around the cut are one character. -/
def splitsPair (line : JsString) (n : Nat) : Bool :=
  (line.take n).getLast?.any isHighSurrogate && (line.drop n).head?.any isLowSurrogate

theorem splitsPair_of_length_le {line : JsString} {n : Nat} (h : line.length ≤ n) : splitsPair line n = false := by
  unfold splitsPair
  rw [List.drop_eq_nil_of_le h]
  exact Bool.and_false _

theorem splitsPair_append (before : JsString) {text : JsString} {n : Nat} (hn : 0 < n) :
    splitsPair (before ++ text) (before.length + n) = splitsPair text n := by
  cases text with
  | nil => rw [splitsPair_of_length_le (by simp), splitsPair_of_length_le (Nat.zero_le n)]
  | cons u text =>
    have hne : (u :: text).take n ≠ [] := by
      obtain ⟨m, rfl⟩ := Nat.exists_eq_add_one_of_ne_zero hn.ne'
      rw [List.take_succ_cons]
      exact List.cons_ne_nil _ _
    unfold splitsPair
    rw [List.take_length_add_append, List.getLast?_append_of_ne_nil _ hne, List.drop_length_add_append]

/-- The cuts are between the windows. -/
theorem splitsCharacter_chunks (width : Nat) (hwidth : 0 < width) {fuel : Nat} (before : JsString) {text : JsString}
    (h : text.length ≤ fuel) {piece : JsString} (hlast : piece.getLast? = before.getLast?) :
    splitsCharacter (piece :: (chunks width fuel text).map fun chunk => space :: chunk) = true ↔
      ∃ k, splitsPair (before ++ text) (before.length + k * width) = true := by
  induction fuel generalizing text piece before with
  | zero =>
    obtain rfl := List.length_eq_zero_iff.mp (Nat.le_zero.mp h)
    refine iff_of_false Bool.false_ne_true ?_
    rintro ⟨k, hk⟩
    rw [splitsPair_of_length_le (by simp)] at hk
    cases hk
  | succ fuel ih =>
    cases text with
    | nil =>
      refine iff_of_false Bool.false_ne_true ?_
      rintro ⟨k, hk⟩
      rw [splitsPair_of_length_le (by simp)] at hk
      cases hk
    | cons u text =>
      obtain ⟨m, rfl⟩ := Nat.exists_eq_add_one_of_ne_zero hwidth.ne'
      have hrest : ((u :: text).drop (m + 1)).length ≤ fuel := by
        rw [List.length_drop]
        omega
      have hchunk : (space :: (u :: text).take (m + 1)).getLast? = ((u :: text).take (m + 1)).getLast? := by
        rw [List.take_succ_cons]
        rfl
      have hfirst : splitsPair (before ++ u :: text) before.length =
          (piece.getLast?.any isHighSurrogate && isLowSurrogate u) := by
        unfold splitsPair
        rw [List.take_left, List.drop_left, hlast]
        rfl
      have hshift : ∀ k, splitsPair ((u :: text).take (m + 1) ++ (u :: text).drop (m + 1))
          (((u :: text).take (m + 1)).length + k * (m + 1)) =
            splitsPair (before ++ u :: text) (before.length + (k + 1) * (m + 1)) := by
        intro k
        rw [splitsPair_append before (Nat.mul_pos (Nat.succ_pos k) hwidth), List.take_append_drop]
        by_cases hlong : m + 1 ≤ (u :: text).length
        · rw [List.length_take_of_le hlong, Nat.add_one_mul, Nat.add_comm (k * (m + 1))]
        · have hall : (u :: text).length ≤ (k + 1) * (m + 1) := by
            rw [Nat.add_one_mul]
            omega
          rw [List.take_of_length_le (Nat.le_of_not_le hlong), splitsPair_of_length_le (Nat.le_add_right _ _),
            splitsPair_of_length_le hall]
      have hchunks : chunks (m + 1) (fuel + 1) (u :: text) =
          (u :: text).take (m + 1) :: chunks (m + 1) fuel ((u :: text).drop (m + 1)) := by
        rw [chunks, if_neg (List.cons_ne_nil u text)]
      rw [hchunks, List.map_cons, splitsCharacter, Bool.or_eq_true, ih _ hrest hchunk]
      constructor
      · rintro (hcut | ⟨k, hk⟩)
        · refine ⟨0, ?_⟩
          rw [Nat.zero_mul, Nat.add_zero, hfirst]
          exact hcut
        · exact ⟨k + 1, (hshift k).symm.trans hk⟩
      · rintro ⟨k, hk⟩
        cases k with
        | zero =>
          rw [Nat.zero_mul, Nat.add_zero, hfirst] at hk
          exact .inl hk
        | succ k => exact .inr ⟨k, (hshift k).trans hk⟩

/-! ## Lines that fold well -/

/-- Where the loop cuts: after 73 units, and after each 72 more. -/
def cutAt (k : Nat) : Nat := maximumLength + k * (maximumLength - 1)

/-- Between the cuts there are octets for one line each, and no cut is inside a character. -/
structure FitsWindows (line : JsString) : Prop where
  first : utf8Length (line.take maximumLength) ≤ 75
  next : ∀ k, utf8Length ((line.drop (cutAt k)).take (maximumLength - 1)) ≤ 74
  whole : ∀ k, splitsPair line (cutAt k) = false

/-- Folding ends, is undone by unfolding, and writes lines of at most 75 octets, each of whole
characters. -/
structure FoldsRight (lines : List JsString) : Prop where
  ends : ∀ line ∈ lines, maximumLength < line.length → (FoldState.start line).EndsWith (foldLine line)
  unfolds : unfoldLines (joinedLines (lines.flatMap foldLine)) = lines ++ [[]]
  octets : ∀ line ∈ lines, ∀ piece ∈ foldLine line, utf8Length piece ≤ 75
  whole : ∀ line ∈ lines, splitsCharacter (foldLine line) = false

theorem foldLine_of_long {line : JsString} (h : maximumLength < line.length) :
    foldLine line = line.take maximumLength ::
      (chunks (maximumLength - 1) (line.drop maximumLength).length (line.drop maximumLength)).map
        fun chunk => space :: chunk := by
  unfold foldLine
  rw [if_neg (Nat.not_le.mpr h)]

theorem length_le_cutAt {line : JsString} (h : line.length ≤ maximumLength) (k : Nat) : line.length ≤ cutAt k :=
  h.trans (Nat.le_add_right _ _)

/-- The pieces have at most 75 octets if their windows do, with the blank. -/
theorem octets_foldLine_iff (line : JsString) :
    (∀ piece ∈ foldLine line, utf8Length piece ≤ 75) ↔ utf8Length (line.take maximumLength) ≤ 75 ∧
      ∀ k, utf8Length ((line.drop (cutAt k)).take (maximumLength - 1)) ≤ 74 := by
  by_cases hlong : maximumLength < line.length
  · rw [foldLine_of_long hlong, List.forall_mem_cons]
    refine and_congr_right fun _ => ?_
    constructor
    · intro h k
      by_cases hk : k * (maximumLength - 1) < (line.drop maximumLength).length
      · have hchunk := (mem_chunks (maximumLength - 1) (by decide) le_rfl).mpr ⟨k, hk, rfl⟩
        have hpiece := h _ (List.mem_map_of_mem hchunk)
        rw [utf8Length_space, List.drop_drop] at hpiece
        exact Nat.le_of_succ_le_succ hpiece
      · rw [List.length_drop] at hk
        rw [List.drop_eq_nil_of_le (by unfold cutAt; omega), List.take_nil]
        exact Nat.zero_le _
    · intro h piece hpiece
      obtain ⟨chunk, hchunk, rfl⟩ := List.mem_map.mp hpiece
      obtain ⟨k, -, rfl⟩ := (mem_chunks _ (by decide) le_rfl).mp hchunk
      rw [utf8Length_space, List.drop_drop]
      exact Nat.succ_le_succ (h k)
  · have hshort : line.length ≤ maximumLength := Nat.le_of_not_lt hlong
    have hfold : foldLine line = [line] := if_pos hshort
    rw [hfold, List.forall_mem_singleton, List.take_of_length_le hshort]
    refine (and_iff_left fun k => ?_).symm
    rw [List.drop_eq_nil_of_le (length_le_cutAt hshort k), List.take_nil]
    exact Nat.zero_le _

/-- A character is split if a cut falls into it. -/
theorem splitsCharacter_foldLine_iff (line : JsString) :
    splitsCharacter (foldLine line) = false ↔ ∀ k, splitsPair line (cutAt k) = false := by
  by_cases hlong : maximumLength < line.length
  · have hcuts := splitsCharacter_chunks (maximumLength - 1) (by decide) (line.take maximumLength)
      (le_refl (line.drop maximumLength).length) rfl
    rw [List.take_append_drop, List.length_take_of_le hlong.le, ← foldLine_of_long hlong] at hcuts
    rw [← Bool.not_eq_true, hcuts, not_exists]
    exact forall_congr' fun k => iff_of_eq (Bool.not_eq_true _)
  · have hshort : line.length ≤ maximumLength := Nat.le_of_not_lt hlong
    have hfold : foldLine line = [line] := if_pos hshort
    rw [hfold]
    exact iff_of_true rfl fun k => splitsPair_of_length_le (length_le_cutAt hshort k)

/-- Whatever is folded is unfolded again. -/
theorem unfoldLines_folded {lines : List JsString} (h : ∀ line ∈ lines, IsLogicalLine line) :
    unfoldLines (joinedLines (lines.flatMap foldLine)) = lines ++ [[]] ↔ lines ≠ [] := by
  refine ⟨?_, fun hne => ?_⟩
  · rintro hunfold rfl
    exact absurd hunfold (by decide)
  · have hstarts : ∀ line ∈ lines, StartsNew (writtenLines line) := by
      intro line hline
      obtain ⟨hbreak, hnew⟩ := h line hline
      rw [writtenLines_of_noBreak hbreak]
      by_cases hlong : maximumLength < line.length
      · refine ⟨_, _, foldLine_of_long hlong, ?_⟩
        cases line with
        | nil => rfl
        | cons u line => exact hnew
      · exact ⟨line, [], if_pos (Nat.le_of_not_lt hlong), hnew⟩
    unfold joinedLines
    rw [unfoldLines_of_startsNew hne hstarts,
      List.flatMap_congr fun line hline => asRead_of_noBreak (h line hline).1 (h line hline).2]
    rw [List.flatMap_singleton']

/-- Lines fold right exactly if there are some, and each fits the windows it is cut into. -/
theorem foldsRight_iff {lines : List JsString} (h : ∀ line ∈ lines, IsLogicalLine line) :
    FoldsRight lines ↔ lines ≠ [] ∧ ∀ line ∈ lines, FitsWindows line := by
  constructor
  · intro hfolds
    refine ⟨(unfoldLines_folded h).mp hfolds.unfolds, fun line hline => ?_⟩
    obtain ⟨hfirst, hnext⟩ := (octets_foldLine_iff line).mp (hfolds.octets line hline)
    exact ⟨hfirst, hnext, (splitsCharacter_foldLine_iff line).mp (hfolds.whole line hline)⟩
  · rintro ⟨hne, hfits⟩
    exact {
      ends := fun line _ hlong => FoldState.endsWith_foldLine hlong
      unfolds := (unfoldLines_folded h).mpr hne
      octets := fun line hline => (octets_foldLine_iff line).mpr ⟨(hfits line hline).first, (hfits line hline).next⟩
      whole := fun line hline => (splitsCharacter_foldLine_iff line).mpr (hfits line hline).whole }

/-! ## Texts in ASCII -/

theorem utf8Length_of_ascii {s : JsString} (h : ∀ u ∈ s, u < 0x80) : utf8Length s = s.length := by
  induction s using utf8Length.induct with
  | case1 a b s hpair ih =>
    obtain ⟨hhigh, -⟩ := Bool.and_eq_true_iff.mp hpair
    have ha := h a List.mem_cons_self
    unfold isHighSurrogate at hhigh
    simp only [Bool.and_eq_true, decide_eq_true_eq] at hhigh
    omega
  | case2 a b s hpair ih =>
    obtain ⟨ha, hrest⟩ := List.forall_mem_cons.mp h
    rw [utf8Length, if_neg hpair, ih hrest, unitBytes, if_pos ha, Nat.add_comm]
    rfl
  | case3 a => exact if_pos (h a List.mem_cons_self)
  | case4 => rfl

/-- Every line in ASCII fits. -/
theorem FitsWindows.of_ascii {line : JsString} (h : ∀ u ∈ line, u < 0x80) : FitsWindows line where
  first := by
    rw [utf8Length_of_ascii fun u hu => h u (List.mem_of_mem_take hu)]
    exact (List.length_take_le _ _).trans (by decide)
  next k := by
    rw [utf8Length_of_ascii fun u hu => h u (List.mem_of_mem_drop (List.mem_of_mem_take hu))]
    exact (List.length_take_le _ _).trans (by decide)
  whole k := by
    have hlow : ∀ v ∈ line, isLowSurrogate v = false := by
      intro v hv
      have hv := h v hv
      simp only [isLowSurrogate, Bool.and_eq_false_iff, decide_eq_false_iff_not]
      omega
    unfold splitsPair
    cases hhead : (line.drop (cutAt k)).head? with
    | none => exact Bool.and_false _
    | some v =>
      rw [Option.any_some, hlow v (List.mem_of_mem_drop (List.mem_of_head? hhead))]
      exact Bool.and_false _

/-- The line of a name, as the export writes it. -/
def calendarName (name : JsString) : JsString := js "X-WR-CALNAME:HOST - " ++ name

theorem asciiName_foldsRight : FoldsRight [calendarName (List.replicate 200 65), js "END:VCALENDAR"] := by
  have hlogical : ∀ line ∈ [calendarName (List.replicate 200 65), js "END:VCALENDAR"], IsLogicalLine line := by
    unfold IsLogicalLine NoBreak
    decide +kernel
  have hascii : ∀ line ∈ [calendarName (List.replicate 200 65), js "END:VCALENDAR"], ∀ u ∈ line, u < 0x80 := by
    decide +kernel
  exact (foldsRight_iff hlogical).mpr ⟨List.cons_ne_nil _ _, fun line hline => .of_ascii (hascii line hline)⟩

/-- Sixty times `é`, and an emoji after 52 letters: too many octets, and a character in two lines. -/
theorem accentedName_foldsWrong :
    ¬ FoldsRight [calendarName (List.replicate 60 0xE9)] ∧
    ¬ FoldsRight [calendarName (List.replicate 52 65 ++ js "😀")] := by
  constructor
  · intro h
    have hoctets := h.octets _ List.mem_cons_self
    exact absurd hoctets (by decide +kernel)
  · intro h
    have hwhole := h.whole _ List.mem_cons_self
    exact absurd hwhole (by decide +kernel)

end HostPlatform
