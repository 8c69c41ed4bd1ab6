-- SUMMARY: A calendar link opens the property it was made for, from then until its rotation, and never again.
import HostPlatform.Calendar.PublishedCalendar
import HostPlatform.Lib.Transition
import HostPlatform.Transactions

/-!
# Which links are in force

Generated tokens are taken to be distinct. What a token opens is then a matter of the
history alone: who asked for it, and whether it was rotated away.
-/

namespace HostPlatform

open Lib (JsString Table js)
open Lib.JsString
open Lib.Transition

/-- The token was generated for the property, by its first request or by a rotation, and no
rotation of the property came after that. -/
def InForce (as : List ExportLabel) (p : PropertyId) (token : JsString) : Prop :=
  ∃ pre l suf, as = pre ++ l :: suf ∧ l.propertyId = p ∧ l.generated = token ∧
    (l.isRotation ∨ ∀ l' ∈ pre, l'.propertyId ≠ p) ∧ ∀ l' ∈ suf, l'.isRotation → l'.propertyId ≠ p

section

variable {as : List ExportLabel} {l : ExportLabel} {p q : PropertyId} {token : JsString}

theorem not_inForce_nil : ¬ InForce [] p token := by
  rintro ⟨pre, l, suf, h, -⟩
  exact List.append_ne_nil_of_right_ne_nil pre (List.cons_ne_nil l suf) h.symm

/-- What is in force after one more label: what it issues, or what it leaves. -/
theorem inForce_concat : InForce (as ++ [l]) p token ↔
    (l.propertyId = p ∧ l.generated = token ∧ (l.isRotation ∨ ∀ l' ∈ as, l'.propertyId ≠ p)) ∨
      (InForce as p token ∧ (l.isRotation → l.propertyId ≠ p)) := by
  constructor
  · rintro ⟨pre, l', suf, heq, hp, htoken, hissues, hafter⟩
    rcases List.eq_nil_or_concat suf with rfl | ⟨suf, b, rfl⟩
    · obtain ⟨rfl, hlast⟩ := List.append_inj' heq rfl
      cases hlast
      exact .inl ⟨hp, htoken, hissues⟩
    · rw [List.concat_eq_append, ← List.cons_append, ← List.append_assoc] at heq
      obtain ⟨rfl, hlast⟩ := List.append_inj' heq rfl
      cases hlast
      refine .inr ⟨⟨pre, l', suf, rfl, hp, htoken, hissues, fun x hx => hafter x ?_⟩, hafter l ?_⟩
      · rw [List.concat_eq_append]
        exact List.mem_append_left _ hx
      · rw [List.concat_eq_append]
        exact List.mem_append_right _ List.mem_cons_self
  · rintro (⟨hp, htoken, hissues⟩ | ⟨⟨pre, l', suf, rfl, hp, htoken, hissues, hafter⟩, hlast⟩)
    · exact ⟨as, l, [], rfl, hp, htoken, hissues, List.forall_mem_nil _⟩
    · refine ⟨pre, l', suf ++ [l], by simp, hp, htoken, hissues, fun x hx => ?_⟩
      rcases List.mem_append.mp hx with hx | hx
      · exact hafter x hx
      · cases List.mem_singleton.mp hx
        exact hlast

theorem InForce.generated (h : InForce as p token) : ∃ l ∈ as, l.propertyId = p ∧ l.generated = token := by
  obtain ⟨pre, l, suf, rfl, hp, htoken, -⟩ := h
  exact ⟨l, List.mem_append_right _ List.mem_cons_self, hp, htoken⟩

end

/-! ## The table of a run -/

/-- The rows are those of the tokens in force, one for each property that was asked for. -/
structure ExportsOf (as : List ExportLabel) (exports : Table CalendarExportRow) : Prop where
  row_iff : ∀ p token, exports.find? p = some ⟨p, token⟩ ↔ InForce as p token
  asked : ∀ p, (exports.find? p).isSome → ∃ l ∈ as, l.propertyId = p
  found : ∀ l ∈ as, (exports.find? l.propertyId).isSome

theorem ExportsOf.nil : ExportsOf [] .empty where
  row_iff p token := by
    rw [Table.find?_empty]
    exact iff_of_false nofun not_inForce_nil
  asked p h := by cases h
  found l h := by cases h

section

variable {db : Db} {as : List ExportLabel} {exports : Table CalendarExportRow} {p : PropertyId} {g : JsString}

theorem ExportsOf.row (h : ExportsOf as exports) {row : CalendarExportRow} (hrow : row ∈ exports.rows) :
    InForce as row.propertyId row.exportToken :=
  (h.row_iff row.propertyId row.exportToken).mp (Table.find?_of_mem hrow)

/-- A token that was never generated before violates no constraint. -/
theorem ExportsOf.checkExportToken_ok (h : ExportsOf as exports) (hproperty : (db.properties.find? p).isSome)
    (hfresh : g ∉ as.map ExportLabel.generated) : checkExportToken db exports p g = .ok () := by
  unfold checkExportToken
  rw [Lib.require_of hproperty, Lib.ok_bind, Lib.require_of]
  rintro row hrow rfl
  obtain ⟨l, hl, -, htoken⟩ := (h.row hrow).generated
  exact absurd (htoken ▸ List.mem_map_of_mem hl) hfresh

theorem find?_upsert_export {f : CalendarExportRow → CalendarExportRow} {hf}
    (hset : ∀ row, exports.find? p = some row → f row = ⟨p, g⟩) (q : PropertyId) :
    (exports.upsert ⟨p, g⟩ f hf).find? q = if q = p then some ⟨p, g⟩ else exports.find? q := by
  rw [Table.find?_upsert]
  change (if q = p then _ else _) = _
  by_cases hq : q = p
  · rw [if_pos hq, if_pos hq, hq]
    cases hrow : exports.find? p with
    | none => rfl
    | some row => exact congrArg some (hset row hrow)
  · rw [if_neg hq, if_neg hq]

/-- A label that sets the row of its property issues its token. -/
theorem ExportsOf.issued (h : ExportsOf as exports) {exports' : Table CalendarExportRow} {l : ExportLabel}
    (hfind : ∀ q, exports'.find? q = if q = l.propertyId then some ⟨l.propertyId, l.generated⟩ else exports.find? q)
    (hissues : l.isRotation ∨ exports.find? l.propertyId = none) : ExportsOf (as ++ [l]) exports' := by
  have hnever : l.isRotation ∨ ∀ l' ∈ as, l'.propertyId ≠ l.propertyId := by
    refine hissues.imp_right fun hnone l' hl' hsame => ?_
    have hsome := h.found l' hl'
    rw [hsame, hnone] at hsome
    cases hsome
  have hold : ∀ token, InForce as l.propertyId token → l.isRotation = true := by
    intro token hforce
    refine hissues.resolve_right fun hnone => ?_
    rw [(h.row_iff l.propertyId token).mpr hforce] at hnone
    cases hnone
  constructor
  · intro q token
    rw [hfind, inForce_concat]
    by_cases hq : q = l.propertyId
    · subst hq
      rw [if_pos rfl]
      constructor
      · intro hrow
        cases hrow
        exact .inl ⟨rfl, rfl, hnever⟩
      · rintro (⟨-, rfl, -⟩ | ⟨hforce, hlast⟩)
        · rfl
        · exact absurd rfl (hlast (hold token hforce))
    · rw [if_neg hq, h.row_iff]
      constructor
      · exact fun hforce => .inr ⟨hforce, fun _ heq => hq heq.symm⟩
      · rintro (⟨heq, -⟩ | ⟨hforce, -⟩)
        · exact absurd heq.symm hq
        · exact hforce
  · intro q hsome
    rw [hfind] at hsome
    by_cases hq : q = l.propertyId
    · exact ⟨l, List.mem_append_right _ List.mem_cons_self, hq.symm⟩
    · rw [if_neg hq] at hsome
      obtain ⟨l', hl', hp⟩ := h.asked q hsome
      exact ⟨l', List.mem_append_left _ hl', hp⟩
  · intro l' hl'
    rw [hfind]
    split
    · rfl
    · rename_i hne
      rcases List.mem_append.mp hl' with hl' | hl'
      · exact h.found l' hl'
      · exact absurd (congrArg ExportLabel.propertyId (List.mem_singleton.mp hl')) hne

theorem ExportsOf.step (h : ExportsOf as exports) {l : ExportLabel}
    (hproperty : (db.properties.find? l.propertyId).isSome)
    (hfresh : l.generated ∉ as.map ExportLabel.generated) : ExportsOf (as ++ [l]) (l.step db exports) := by
  cases l with
  | getOrCreate p g =>
    cases hrow : exports.find? p with
    | none =>
      have hcheck : checkExportToken db exports p g = .ok () := h.checkExportToken_ok hproperty hfresh
      have hstep : (ExportLabel.getOrCreate p g).step db exports =
          exports.upsert ⟨p, g⟩ (fun row => row) fun _ => rfl := by
        simp only [ExportLabel.step, getOrCreateCalendarExportToken, hrow, hcheck, Lib.ok_bind]
        rfl
      refine h.issued (fun q => ?_) (.inr hrow)
      rw [hstep]
      refine find?_upsert_export (fun row hsome => ?_) q
      rw [hrow] at hsome
      cases hsome
    | some row =>
      have hstep : (ExportLabel.getOrCreate p g).step db exports = exports := by
        simp only [ExportLabel.step, getOrCreateCalendarExportToken, hrow]
        rfl
      obtain ⟨l, hl, hp⟩ := h.asked p (by rw [hrow]; rfl)
      rw [hstep]
      constructor
      · intro q token
        rw [h.row_iff, inForce_concat]
        constructor
        · exact fun hforce => .inr ⟨hforce, nofun⟩
        · rintro (⟨rfl, -, hrotation | hnever⟩ | ⟨hforce, -⟩)
          · cases hrotation
          · exact absurd hp (hnever l hl)
          · exact hforce
      · intro q hsome
        obtain ⟨l', hl', hq⟩ := h.asked q hsome
        exact ⟨l', List.mem_append_left _ hl', hq⟩
      · intro l' hl'
        rcases List.mem_append.mp hl' with hl' | hl'
        · exact h.found l' hl'
        · cases List.mem_singleton.mp hl'
          show (exports.find? p).isSome
          rw [hrow]
          rfl
  | rotate p g =>
    have hcheck : checkExportToken db exports p g = .ok () := h.checkExportToken_ok hproperty hfresh
    have hstep : (ExportLabel.rotate p g).step db exports =
        exports.upsert ⟨p, g⟩ (fun row => { row with exportToken := g }) fun _ => rfl := by
      simp only [ExportLabel.step, rotateCalendarExportToken, hcheck, Lib.ok_bind]
      rfl
    refine h.issued (fun q => ?_) (.inl rfl)
    rw [hstep]
    refine find?_upsert_export (fun row hrow => ?_) q
    have hkey : row.propertyId = p := Table.key_of_find? hrow
    rw [← hkey]

end

theorem exportsOf_run {db : Db} {as : List ExportLabel}
    (hproperties : ∀ l ∈ as, (db.properties.find? l.propertyId).isSome)
    (hfresh : (as.map ExportLabel.generated).Nodup) : ExportsOf as (run (ExportLabel.step db) .empty as) := by
  induction as using List.reverseRecOn with
  | nil => exact .nil
  | append_singleton as l ih =>
    rw [List.map_append, List.nodup_append] at hfresh
    obtain ⟨has, -, hnew⟩ := hfresh
    rw [run_concat]
    refine (ih (fun l' hl' => hproperties l' (List.mem_append_left _ hl')) has).step
      (hproperties l (List.mem_append_right _ List.mem_cons_self)) fun hmem => ?_
    exact hnew _ hmem _ List.mem_cons_self rfl

/-- After any requests, a token leads to a property exactly if it is the one in force for it. -/
theorem exportToken_leads_iff (db : Db) (as : List ExportLabel)
    (hproperties : ∀ l ∈ as, (db.properties.find? l.propertyId).isSome)
    (hfresh : (as.map ExportLabel.generated).Nodup) (p : PropertyId) (token : JsString) :
    (∃ row, findExport (run (ExportLabel.step db) .empty as) token = some row ∧ row.propertyId = p) ↔
      InForce as p (Lib.JsString.toLowerCase token) := by
  have hexports := exportsOf_run hproperties hfresh
  constructor
  · rintro ⟨row, hfind, rfl⟩
    have htoken : row.exportToken = Lib.JsString.toLowerCase token := by simpa using List.find?_some hfind
    rw [← htoken]
    exact hexports.row (List.mem_of_find?_eq_some hfind)
  · intro hforce
    have hmem := Table.mem_of_find? ((hexports.row_iff p (Lib.JsString.toLowerCase token)).mpr hforce)
    obtain ⟨row, hrow⟩ := Option.isSome_iff_exists.mp (List.find?_isSome.mpr
      ⟨_, hmem, by simp⟩ : (findExport (run (ExportLabel.step db) .empty as) token).isSome)
    refine ⟨row, hrow, ?_⟩
    -- two rows of one token come from one label
    have htoken : row.exportToken = Lib.JsString.toLowerCase token := by simpa using List.find?_some hrow
    have hother := hexports.row (List.mem_of_find?_eq_some hrow)
    rw [htoken] at hother
    obtain ⟨l, hl, hlp, hlg⟩ := hforce.generated
    obtain ⟨l', hl', hlp', hlg'⟩ := hother.generated
    have hsame : l = l' := List.inj_on_of_nodup_map hfresh hl hl' (hlg.trans hlg'.symm)
    rw [← hlp', ← hsame, hlp]

/-- The link of the sample property, asked for twice and then rotated. -/
def rotatedLink : List ExportLabel := [.getOrCreate 1 (js "a"), .getOrCreate 1 (js "b"), .rotate 1 (js "c")]

theorem rotatedLink_leads :
    (∃ row, findExport (run (ExportLabel.step sampleDb) .empty rotatedLink) (js "c") = some row ∧ row.propertyId = 1) ∧
      ¬ ∃ row, findExport (run (ExportLabel.step sampleDb) .empty rotatedLink) (js "a") = some row ∧
        row.propertyId = 1 := by
  have hproperties : ∀ l ∈ rotatedLink, (sampleDb.properties.find? l.propertyId).isSome := by decide
  have hfresh : (rotatedLink.map ExportLabel.generated).Nodup := by decide
  constructor
  · refine (exportToken_leads_iff sampleDb rotatedLink hproperties hfresh 1 (js "c")).mpr ?_
    exact ⟨[.getOrCreate 1 (js "a"), .getOrCreate 1 (js "b")], .rotate 1 (js "c"), [], rfl, rfl, by decide, .inl rfl,
      List.forall_mem_nil _⟩
  · rw [exportToken_leads_iff sampleDb rotatedLink hproperties hfresh 1 (js "a")]
    have hlower : Lib.JsString.toLowerCase (js "a") = js "a" := by decide
    rw [hlower]
    -- the rotation came after the label that generated it
    rintro ⟨pre, l, suf, heq, -, htoken, -, hafter⟩
    cases pre with
    | nil =>
      cases heq
      exact hafter (.rotate 1 (js "c")) (by decide) rfl rfl
    | cons first pre =>
      have hmem : l ∈ [ExportLabel.getOrCreate 1 (js "b"), .rotate 1 (js "c")] := by
        have htail := (List.cons.inj heq).2
        rw [htail]
        exact List.mem_append_right _ List.mem_cons_self
      rcases List.mem_cons.mp hmem with rfl | hmem
      · exact absurd htoken (by decide)
      · cases List.mem_singleton.mp hmem
        exact absurd htoken (by decide)

end HostPlatform
