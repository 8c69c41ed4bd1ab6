-- SUMMARY: What the parser reads of lines the export has folded and joined.
import HostPlatform.Calendar.ICal
import HostPlatform.Calendar.CalendarExport

/-!
# Folded lines

The export folds each content line and joins the pieces; the parser splits the text at
every line break, also at a lone carriage return, and unfolds. A content line without
line breaks is read as it was written.
-/

namespace HostPlatform

open Lib (JsString js)
open Lib.JsString

/-! ## Splitting -/

/-- No line break is in the text. -/
def NoBreak (text : JsString) : Prop := cr ∉ text ∧ lf ∉ text

theorem NoBreak.append {a b : JsString} (ha : NoBreak a) (hb : NoBreak b) : NoBreak (a ++ b) :=
  ⟨fun h => (List.mem_append.mp h).elim ha.1 hb.1, fun h => (List.mem_append.mp h).elim ha.2 hb.2⟩

theorem NoBreak.subset {a b : JsString} (hb : NoBreak b) (h : a ⊆ b) : NoBreak a :=
  ⟨fun hcr => hb.1 (h hcr), fun hlf => hb.2 (h hlf)⟩

theorem NoBreak.replaceUnit {out s : JsString} (u : Nat) (hout : NoBreak out) (hs : NoBreak s) :
    NoBreak (replaceUnit u out s) :=
  ⟨fun h => (mem_replaceUnit.mp h).elim (fun h => hout.1 h.2) fun h => hs.1 h.1,
    fun h => (mem_replaceUnit.mp h).elim (fun h => hout.2 h.2) fun h => hs.2 h.1⟩

theorem isCrLf_first (a b : Nat) (h : isCrLf a b = true) : a = cr := by
  unfold isCrLf at h
  rw [Bool.and_eq_true, beq_iff_eq] at h
  exact h.1

theorem physicalLines_of_noBreak {text : JsString} (h : NoBreak text) : physicalLines text = [text] := by
  unfold physicalLines
  rw [replacePairs_of_not_mem isCrLf_first h.1, replaceUnit_of_not_mem h.1]
  exact List.splitOn_eq_singleton h.2

/-- A written line break ends a line. -/
theorem physicalLines_crlf (a b : JsString) :
    physicalLines (a ++ cr :: lf :: b) = physicalLines a ++ physicalLines b := by
  unfold physicalLines
  rw [replacePairs_append_match (by decide) (by intro a; simp [isCrLf, cr, lf])]
  simp only [replaceUnit, List.flatMap_append, List.append_assoc]
  have hlf : ([lf].flatMap fun v => if v = cr then [lf] else [v]) = [lf] := by decide
  rw [hlf]
  exact List.splitOn_append_cons_self _ _

/-- The first line starts with the first unit. -/
theorem physicalLines_cons {u : Nat} (hcr : u ≠ cr) (hlf : u ≠ lf) (text : JsString) :
    ∃ line rest, physicalLines (u :: text) = (u :: line) :: rest := by
  have hreplace : replacePairs isCrLf [lf] (u :: text) = u :: replacePairs isCrLf [lf] text := by
    cases text with
    | nil => rfl
    | cons v text =>
      have hne : isCrLf u v = false := by
        cases h : isCrLf u v with
        | false => rfl
        | true => exact absurd (isCrLf_first u v h) hcr
      rw [replacePairs, hne]
      rfl
  unfold physicalLines
  rw [hreplace]
  simp only [replaceUnit, List.flatMap_cons, if_neg hcr, List.singleton_append]
  rw [List.splitOn_cons_eq_if_modifyHead, if_neg (by simpa using hlf)]
  cases hsplit : List.splitOn lf ((replacePairs isCrLf [lf] text).flatMap fun v => if v = cr then [lf] else [v]) with
  | nil => exact absurd hsplit (List.splitOn_ne_nil _ _)
  | cons line rest => exact ⟨line, rest, rfl⟩

/-- Joined lines are split again, with an empty line after the last break. -/
theorem physicalLines_intercalate (line : JsString) (lines : List JsString) :
    physicalLines ([cr, lf].intercalate (line :: lines) ++ [cr, lf]) =
      (line :: lines).flatMap physicalLines ++ [[]] := by
  induction lines generalizing line with
  | nil =>
    rw [List.intercalate_singleton]
    rw [physicalLines_crlf]
    simp only [List.flatMap_cons, List.flatMap_nil, List.append_nil]
    rfl
  | cons next lines ih =>
    have hjoin : [cr, lf].intercalate (line :: next :: lines) ++ [cr, lf] =
        line ++ cr :: lf :: ([cr, lf].intercalate (next :: lines) ++ [cr, lf]) := by
      simp [List.intercalate_cons_cons]
    rw [hjoin, physicalLines_crlf, ih]
    simp only [List.flatMap_cons, List.append_assoc]

/-! ## Unfolding -/

theorem unfoldStep_ne_nil (unfolded : List JsString) (line : JsString) : unfoldStep unfolded line ≠ [] := by
  unfold unfoldStep
  split <;> simp

/-- A line that is no continuation is a new one. -/
theorem unfoldStep_new (unfolded : List JsString) {line : JsString} (h : isContinuation line = false) :
    unfoldStep unfolded line = unfolded ++ [line] := by
  unfold unfoldStep
  rw [h]

/-- Only the last line is looked at. -/
theorem unfoldStep_append (before : List JsString) {unfolded : List JsString} (h : unfolded ≠ [])
    (line : JsString) : unfoldStep (before ++ unfolded) line = before ++ unfoldStep unfolded line := by
  unfold unfoldStep
  rw [List.getLast?_append_of_ne_nil _ h, List.dropLast_append_of_ne_nil h]
  split <;> simp only [List.append_assoc]

theorem foldl_unfoldStep_append (before : List JsString) {unfolded : List JsString} (h : unfolded ≠ [])
    (lines : List JsString) :
    lines.foldl unfoldStep (before ++ unfolded) = before ++ lines.foldl unfoldStep unfolded := by
  induction lines generalizing unfolded with
  | nil => rfl
  | cons line lines ih =>
    simp only [List.foldl_cons]
    rw [unfoldStep_append before h line]
    exact ih (unfoldStep_ne_nil unfolded line)

/-- The lines start with one that is no continuation. -/
def StartsNew (lines : List JsString) : Prop :=
  ∃ line rest, lines = line :: rest ∧ isContinuation line = false

theorem StartsNew.foldl {lines : List JsString} (h : StartsNew lines) (before : List JsString) :
    lines.foldl unfoldStep before = before ++ lines.foldl unfoldStep [] := by
  obtain ⟨line, rest, rfl, hline⟩ := h
  simp only [List.foldl_cons]
  rw [unfoldStep_new before hline, unfoldStep_new [] hline, List.nil_append]
  exact foldl_unfoldStep_append before (List.cons_ne_nil _ _) rest

/-- Blocks that start with a new line are unfolded one by one. -/
theorem foldl_unfoldStep_flatMap {α : Type} {f : α → List JsString} {xs : List α}
    (h : ∀ x ∈ xs, StartsNew (f x)) (before : List JsString) :
    (xs.flatMap f).foldl unfoldStep before = before ++ xs.flatMap fun x => (f x).foldl unfoldStep [] := by
  induction xs generalizing before with
  | nil => simp
  | cons x xs ih =>
    simp only [List.flatMap_cons, List.foldl_append]
    rw [(h x List.mem_cons_self).foldl before, ih fun y hy => h y (List.mem_cons_of_mem _ hy)]
    rw [List.append_assoc]

/-! ## Folding -/

theorem flatten_chunks {width : Nat} (hwidth : 0 < width) (fuel : Nat) (text : JsString)
    (h : text.length ≤ fuel) : (chunks width fuel text).flatten = text := by
  induction fuel generalizing text with
  | zero =>
    rw [List.length_eq_zero_iff.mp (Nat.le_zero.mp h)]
    rfl
  | succ fuel ih =>
    unfold chunks
    split
    · rename_i hnil
      rw [hnil]
      rfl
    · have hrest : (text.drop width).length ≤ fuel := by
        rw [List.length_drop]
        omega
      rw [List.flatten_cons, ih _ hrest, List.take_append_drop]

theorem chunks_subset {width fuel : Nat} {text chunk : JsString} (h : chunk ∈ chunks width fuel text) :
    chunk ⊆ text := by
  induction fuel generalizing text with
  | zero => cases h
  | succ fuel ih =>
    unfold chunks at h
    split at h
    · cases h
    · rcases List.mem_cons.mp h with rfl | h
      · exact List.take_subset width text
      · exact List.Subset.trans (ih h) (List.drop_subset width text)

/-- The pieces of a line without breaks have none. -/
theorem NoBreak.foldLine {line : JsString} (h : NoBreak line) : ∀ piece ∈ foldLine line, NoBreak piece := by
  intro piece hpiece
  unfold HostPlatform.foldLine at hpiece
  split at hpiece
  · rw [List.mem_singleton.mp hpiece]
    exact h
  · rcases List.mem_cons.mp hpiece with rfl | hpiece
    · exact h.subset (List.take_subset _ _)
    · obtain ⟨chunk, hchunk, rfl⟩ := List.mem_map.mp hpiece
      have hspace : NoBreak [space] := by
        unfold NoBreak
        decide
      exact hspace.append (h.subset (List.Subset.trans (chunks_subset hchunk) (List.drop_subset _ _)))

/-- Continuations are appended to the line before them. -/
theorem foldl_unfoldStep_chunks (first : JsString) (chunks : List JsString) :
    (chunks.map fun chunk => space :: chunk).foldl unfoldStep [first] = [first ++ chunks.flatten] := by
  induction chunks generalizing first with
  | nil => simp
  | cons chunk chunks ih =>
    simp only [List.map_cons, List.foldl_cons, List.flatten_cons]
    have hstep : unfoldStep [first] (space :: chunk) = [first ++ chunk] := rfl
    rw [hstep, ih, List.append_assoc]

/-- The pieces of a line are unfolded to the line. -/
theorem foldl_unfoldStep_foldLine {line : JsString} (hnew : isContinuation line = false) :
    (foldLine line).foldl unfoldStep [] = [line] := by
  unfold foldLine
  split
  · exact unfoldStep_new [] hnew
  · rename_i hlong
    have hfirst : isContinuation (line.take maximumLength) = false := by
      cases line with
      | nil => rfl
      | cons u line => exact hnew
    rw [List.foldl_cons, unfoldStep_new [] hfirst, List.nil_append, foldl_unfoldStep_chunks,
      flatten_chunks (by decide) _ _ le_rfl, List.take_append_drop]

/-! ## Content lines -/

/-- The lines a content line is written as. -/
def writtenLines (line : JsString) : List JsString := (foldLine line).flatMap physicalLines

/-- The lines a content line is read as. -/
def asRead (line : JsString) : List JsString := (writtenLines line).foldl unfoldStep []

theorem writtenLines_of_noBreak {line : JsString} (h : NoBreak line) : writtenLines line = foldLine line := by
  unfold writtenLines
  rw [List.flatMap_congr fun piece hpiece => physicalLines_of_noBreak (h.foldLine piece hpiece)]
  exact List.flatMap_singleton' _

theorem asRead_of_noBreak {line : JsString} (h : NoBreak line) (hnew : isContinuation line = false) :
    asRead line = [line] := by
  unfold asRead
  rw [writtenLines_of_noBreak h, foldl_unfoldStep_foldLine hnew]

/-- Neither a line break nor a continuation starts with the unit. -/
def startsLine (u : Nat) : Bool := u != cr && u != lf && u != space && u != tab

/-- The first line that is written of the line starts with a unit that makes it a new line. -/
def IsContentLine (line : JsString) : Prop := line.head?.any startsLine = true

theorem IsContentLine.isContinuation {line : JsString} (h : IsContentLine line) : isContinuation line = false := by
  obtain ⟨u, hhead, hu⟩ := (Option.any_eq_true _ _).mp h
  unfold startsLine at hu
  simp only [Bool.and_eq_true, bne_iff_ne] at hu
  simp [HostPlatform.isContinuation, hhead, hu.1.2, hu.2]

theorem IsContentLine.startsNew {line : JsString} (h : IsContentLine line) : StartsNew (writtenLines line) := by
  obtain ⟨u, hhead, hu⟩ := (Option.any_eq_true _ _).mp h
  obtain ⟨text, rfl⟩ := List.head?_eq_some_iff.mp hhead
  obtain ⟨piece, pieces, hfold⟩ : ∃ piece pieces, foldLine (u :: text) = (u :: piece) :: pieces := by
    unfold foldLine
    split
    · exact ⟨_, _, rfl⟩
    · exact ⟨_, _, rfl⟩
  have hbreak : u ≠ cr ∧ u ≠ lf := by
    unfold startsLine at hu
    simp only [Bool.and_eq_true, bne_iff_ne] at hu
    exact hu.1.1
  obtain ⟨first, rest, hfirst⟩ := physicalLines_cons hbreak.1 hbreak.2 piece
  have hnew : IsContentLine (u :: first) := hu
  refine ⟨u :: first, rest ++ pieces.flatMap physicalLines, ?_, hnew.isContinuation⟩
  unfold writtenLines
  rw [hfold, List.flatMap_cons, hfirst, List.cons_append]

/-- Lines that start new lines are read one by one when folded and joined, then the empty last line. -/
theorem unfoldLines_of_startsNew {lines : List JsString} (hne : lines ≠ [])
    (h : ∀ line ∈ lines, StartsNew (writtenLines line)) :
    unfoldLines ([cr, lf].intercalate (lines.flatMap foldLine) ++ [cr, lf]) =
      lines.flatMap asRead ++ [[]] := by
  obtain ⟨piece, pieces, hpieces⟩ : ∃ piece pieces, lines.flatMap foldLine = piece :: pieces := by
    obtain ⟨line, rest, rfl⟩ := List.exists_cons_of_ne_nil hne
    rw [List.flatMap_cons]
    unfold foldLine
    split
    · exact ⟨_, _, rfl⟩
    · exact ⟨_, _, rfl⟩
  have hphysical : physicalLines ([cr, lf].intercalate (lines.flatMap foldLine) ++ [cr, lf]) =
      lines.flatMap writtenLines ++ [[]] := by
    rw [hpieces, physicalLines_intercalate, ← hpieces, List.flatMap_assoc]
    rfl
  have hempty : isContinuation [] = false := rfl
  unfold unfoldLines
  rw [hphysical, List.foldl_append, foldl_unfoldStep_flatMap h, List.nil_append]
  exact unfoldStep_new _ hempty

/-- Content lines, folded and joined, are read one by one, then the empty last line. -/
theorem unfoldLines_joined {lines : List JsString} (hne : lines ≠ [])
    (h : ∀ line ∈ lines, IsContentLine line) :
    unfoldLines ([cr, lf].intercalate (lines.flatMap foldLine) ++ [cr, lf]) =
      lines.flatMap asRead ++ [[]] :=
  unfoldLines_of_startsNew hne fun line hline => (h line hline).startsNew

end HostPlatform
