-- SUMMARY: Keyed tables as lists of rows: insert, update and delete by predicate, and the lookup lemmas that replace unfolding them.
import Mathlib.Data.List.Nodup
import Mathlib.Data.List.Perm.Subperm
import Mathlib.Algebra.BigOperators.Group.List.Basic
import Mathlib.Algebra.Order.BigOperators.Group.List
import Mathlib.Tactic.Ring

/-!
# Keyed tables

A `Table` is what a relational table with a primary key is: a list of rows, in
insertion order, no two of which have the same key. The operations are the
statements a program issues (`INSERT`, `UPDATE .. WHERE`, `DELETE .. WHERE`),
and the lemmas describe each of them through `find?`, the lookup by key.
-/

namespace Lib

/-- Rows that carry their primary key. -/
class Keyed (ρ : Type) where
  key : ρ → Nat

export Keyed (key)

/-- A table: rows in insertion order with pairwise distinct keys. -/
structure Table (ρ : Type) [Keyed ρ] where
  rows : List ρ
  nodup : (rows.map key).Nodup

namespace Table

variable {ρ : Type} [Keyed ρ]

instance : Membership ρ (Table ρ) := ⟨fun t r => r ∈ t.rows⟩

theorem mem_def {t : Table ρ} {r : ρ} : r ∈ t ↔ r ∈ t.rows := Iff.rfl

@[ext] theorem ext {t t' : Table ρ} (h : t.rows = t'.rows) : t = t' := by
  cases t; cases t'; cases h; rfl

def empty : Table ρ := ⟨[], List.nodup_nil⟩

/-- The row with primary key `k`. -/
def find? (t : Table ρ) (k : Nat) : Option ρ := t.rows.find? fun r => key r == k

/-- `SELECT * WHERE p`, in insertion order. -/
def select (t : Table ρ) (p : ρ → Bool) : List ρ := t.rows.filter p

/-- `UPDATE .. SET f WHERE p`. The update leaves the key column alone. -/
def updateWhere (t : Table ρ) (p : ρ → Bool) (f : ρ → ρ)
    (hf : ∀ r, key (f r) = key r := by intro r; rfl) : Table ρ where
  rows := t.rows.map fun r => if p r then f r else r
  nodup := by
    have hkey : (t.rows.map fun r => if p r then f r else r).map key = t.rows.map key := by
      rw [List.map_map]
      refine List.map_congr_left fun r _ => ?_
      simp only [Function.comp]
      split
      · exact hf r
      · rfl
    rw [hkey]
    exact t.nodup

/-- `UPDATE .. SET f WHERE key = k`. -/
def modify (t : Table ρ) (k : Nat) (f : ρ → ρ)
    (hf : ∀ r, key (f r) = key r := by intro r; rfl) : Table ρ :=
  t.updateWhere (fun r => key r == k) f hf

/-- `DELETE WHERE p`. -/
def deleteWhere (t : Table ρ) (p : ρ → Bool) : Table ρ where
  rows := t.rows.filter fun r => !p r
  nodup := (t.nodup).sublist (List.filter_sublist.map key)

/-- The rows as another table has them, under the same keys. -/
def view {σ : Type} [Keyed σ] (t : Table ρ) (f : ρ → σ)
    (hf : ∀ r, key (f r) = key r := by intro r; rfl) : Table σ where
  rows := t.rows.map f
  nodup := by
    rw [List.map_map]
    exact (funext hf : key ∘ f = key) ▸ t.nodup

/-- A key no row has. -/
def freshKey (t : Table ρ) : Nat := (t.rows.map key).foldr max 0 + 1

/-- `INSERT` of a row whose key is not in use. -/
def insert (t : Table ρ) (r : ρ) (h : ∀ s ∈ t.rows, key s ≠ key r) : Table ρ where
  rows := t.rows ++ [r]
  nodup := by
    rw [List.map_append, List.nodup_append]
    refine ⟨t.nodup, by simp, ?_⟩
    intro a ha b hb
    obtain ⟨s, hs, rfl⟩ := List.mem_map.mp ha
    simp only [List.map_cons, List.map_nil, List.mem_singleton] at hb
    rw [hb]
    exact h s hs

/-! ## Keys determine rows -/

theorem key_inj {t : Table ρ} {r s : ρ} (hr : r ∈ t.rows) (hs : s ∈ t.rows)
    (h : key r = key s) : r = s :=
  List.inj_on_of_nodup_map t.nodup hr hs h

theorem find?_eq_some_iff {t : Table ρ} {k : Nat} {r : ρ} :
    t.find? k = some r ↔ r ∈ t.rows ∧ key r = k := by
  constructor
  · intro h
    exact ⟨List.mem_of_find?_eq_some h, by simpa using List.find?_some h⟩
  · rintro ⟨hr, rfl⟩
    cases hfind : t.find? (key r) with
    | none =>
      have := List.find?_eq_none.mp hfind r hr
      simp at this
    | some s =>
      have hs : s ∈ t.rows := List.mem_of_find?_eq_some hfind
      have hk : key s = key r := by simpa using List.find?_some hfind
      rw [key_inj hs hr hk]

theorem find?_of_mem {t : Table ρ} {r : ρ} (h : r ∈ t.rows) : t.find? (key r) = some r :=
  find?_eq_some_iff.mpr ⟨h, rfl⟩

theorem mem_of_find? {t : Table ρ} {k : Nat} {r : ρ} (h : t.find? k = some r) : r ∈ t.rows :=
  (find?_eq_some_iff.mp h).1

theorem key_of_find? {t : Table ρ} {k : Nat} {r : ρ} (h : t.find? k = some r) : key r = k :=
  (find?_eq_some_iff.mp h).2

theorem find?_eq_none_iff {t : Table ρ} {k : Nat} :
    t.find? k = none ↔ ∀ r ∈ t.rows, key r ≠ k := by
  simp [find?, List.find?_eq_none]

@[simp] theorem find?_empty (k : Nat) : (empty : Table ρ).find? k = none := rfl
@[simp] theorem rows_empty : (empty : Table ρ).rows = [] := rfl

@[simp] theorem find?_view {σ : Type} [Keyed σ] (t : Table ρ) (f : ρ → σ) (hf) (k : Nat) :
    (t.view f hf).find? k = (t.find? k).map f := by
  simp only [find?, view, List.find?_map]
  congr 2
  funext r
  simp [hf]

/-! ## Update -/

@[simp] theorem rows_updateWhere (t : Table ρ) (p : ρ → Bool) (f : ρ → ρ) (hf) :
    (t.updateWhere p f hf).rows = t.rows.map fun r => if p r then f r else r := rfl

/-- An update that sets what is there changes nothing. -/
theorem updateWhere_eq_self {t : Table ρ} {p : ρ → Bool} {f : ρ → ρ} (hf)
    (h : ∀ r ∈ t.rows, p r → f r = r) : t.updateWhere p f hf = t := by
  apply ext
  rw [rows_updateWhere]
  refine (List.map_congr_left fun r hr => ?_).trans (List.map_id _)
  split
  · rename_i hp
    exact h r hr hp
  · rfl

theorem mem_updateWhere {t : Table ρ} {p : ρ → Bool} {f : ρ → ρ} (hf : ∀ r, key (f r) = key r) {r : ρ} :
    r ∈ (t.updateWhere p f hf).rows ↔ ∃ s ∈ t.rows, (if p s then f s else s) = r := by
  simp

@[simp] theorem find?_updateWhere (t : Table ρ) (p : ρ → Bool) (f : ρ → ρ) (hf) (k : Nat) :
    (t.updateWhere p f hf).find? k = (t.find? k).map fun r => if p r then f r else r := by
  cases h : t.find? k with
  | none =>
    rw [find?_eq_none_iff] at h
    simp only [Option.map_none, find?_eq_none_iff, mem_updateWhere]
    rintro r ⟨s, hs, rfl⟩
    split
    · rw [hf]; exact h s hs
    · exact h s hs
  | some r =>
    obtain ⟨hr, rfl⟩ := find?_eq_some_iff.mp h
    simp only [Option.map_some, find?_eq_some_iff, mem_updateWhere]
    refine ⟨⟨r, hr, rfl⟩, ?_⟩
    split
    · exact hf r
    · rfl

@[simp] theorem find?_modify (t : Table ρ) (k : Nat) (f : ρ → ρ) (hf) (k' : Nat) :
    (t.modify k f hf).find? k' = if k' = k then (t.find? k).map f else t.find? k' := by
  rw [modify, find?_updateWhere]
  by_cases h : k' = k
  · subst h
    rw [if_pos rfl]
    cases hr : t.find? k' with
    | none => rfl
    | some r => simp [key_of_find? hr]
  · rw [if_neg h]
    cases hr : t.find? k' with
    | none => rfl
    | some r => simp [key_of_find? hr, h]

theorem mem_modify {t : Table ρ} {k : Nat} {f : ρ → ρ} (hf : ∀ r, key (f r) = key r) {r : ρ} :
    r ∈ (t.modify k f hf).rows ↔ (∃ s ∈ t.rows, key s = k ∧ f s = r) ∨ (r ∈ t.rows ∧ key r ≠ k) := by
  rw [modify, mem_updateWhere]
  constructor
  · rintro ⟨s, hs, rfl⟩
    by_cases hk : key s = k
    · left; exact ⟨s, hs, hk, by simp [hk]⟩
    · right; simp only [beq_iff_eq, hk, if_false]; exact ⟨hs, hk⟩
  · rintro (⟨s, hs, hk, rfl⟩ | ⟨hr, hk⟩)
    · exact ⟨s, hs, by simp [hk]⟩
    · exact ⟨r, hr, by simp [hk]⟩

/-- A modification read backwards: another row, or the row that was found, modified. -/
theorem mem_modify_of_find? {t : Table ρ} {k : Nat} {f : ρ → ρ} (hf : ∀ r, key (f r) = key r) {s r : ρ}
    (hs : t.find? k = some s) (h : r ∈ (t.modify k f hf).rows) : (r ∈ t.rows ∧ key r ≠ k) ∨ r = f s := by
  rcases (mem_modify hf).mp h with ⟨s', hs', hkey, rfl⟩ | hother
  · have hfound : t.find? k = some s' := find?_eq_some_iff.mpr ⟨hs', hkey⟩
    rw [hs] at hfound
    cases hfound
    exact .inr rfl
  · exact .inl hother

/-! ## Insert and delete -/

@[simp] theorem rows_insert (t : Table ρ) (r : ρ) (h) : (t.insert r h).rows = t.rows ++ [r] := rfl

@[simp] theorem find?_insert (t : Table ρ) (r : ρ) (h) (k : Nat) :
    (t.insert r h).find? k = if k = key r then some r else t.find? k := by
  by_cases hk : k = key r
  · subst hk
    rw [if_pos rfl]
    exact find?_of_mem (t := t.insert r h) (by simp)
  · rw [if_neg hk]
    simp only [find?, rows_insert, List.find?_append]
    simp [Ne.symm hk]

theorem lt_freshKey {t : Table ρ} {r : ρ} (h : r ∈ t.rows) : key r < t.freshKey := by
  have hle : ∀ l : List Nat, ∀ n ∈ l, n ≤ l.foldr max 0 := by
    intro l
    induction l with
    | nil => simp
    | cons a l ih =>
      intro n hn
      rcases List.mem_cons.mp hn with rfl | hn
      · exact le_max_left _ _
      · exact le_trans (ih n hn) (le_max_right _ _)
  exact Nat.lt_succ_of_le (hle _ _ (List.mem_map_of_mem h))

theorem ne_freshKey {t : Table ρ} {r : ρ} (h : r ∈ t.rows) : key r ≠ t.freshKey :=
  Nat.ne_of_lt (lt_freshKey h)

@[simp] theorem find?_freshKey (t : Table ρ) : t.find? t.freshKey = none :=
  find?_eq_none_iff.mpr fun _ hr => ne_freshKey hr

theorem ne_freshKey_of_find? {t : Table ρ} {k : Nat} {r : ρ} (hr : t.find? k = some r) :
    k ≠ t.freshKey := by
  rintro rfl
  rw [find?_freshKey] at hr
  cases hr

/-- `INSERT` with a generated primary key. -/
def insertNew (t : Table ρ) (mk : Nat → ρ) (hmk : ∀ k, key (mk k) = k := by intro k; rfl) : Table ρ :=
  t.insert (mk t.freshKey) fun _ hs => by rw [hmk]; exact ne_freshKey hs

@[simp] theorem rows_insertNew (t : Table ρ) (mk : Nat → ρ) (hmk) :
    (t.insertNew mk hmk).rows = t.rows ++ [mk t.freshKey] := rfl

@[simp] theorem find?_insertNew (t : Table ρ) (mk : Nat → ρ) (hmk) (k : Nat) :
    (t.insertNew mk hmk).find? k = if k = t.freshKey then some (mk t.freshKey) else t.find? k := by
  rw [insertNew, find?_insert, hmk]

/-- A row stays as it is when another one is inserted. -/
theorem find?_insertNew_of_find? {t : Table ρ} {k : Nat} {r : ρ} (hr : t.find? k = some r)
    (mk : Nat → ρ) (hmk) : (t.insertNew mk hmk).find? k = some r := by
  rw [find?_insertNew, if_neg (ne_freshKey_of_find? hr), hr]

@[simp] theorem rows_deleteWhere (t : Table ρ) (p : ρ → Bool) :
    (t.deleteWhere p).rows = t.rows.filter fun r => !p r := rfl

theorem find?_deleteWhere_eq_some {t : Table ρ} {p : ρ → Bool} {k : Nat} {r : ρ} :
    (t.deleteWhere p).find? k = some r ↔ t.find? k = some r ∧ p r = false := by
  rw [find?_eq_some_iff, find?_eq_some_iff, rows_deleteWhere, List.mem_filter, Bool.not_eq_true',
    and_right_comm]

/-- `INSERT` of a row with a given key: `none` is the unique violation. -/
def tryInsert (t : Table ρ) (r : ρ) : Option (Table ρ) :=
  if h : ∀ s ∈ t.rows, key s ≠ key r then some (t.insert r h) else none

theorem find?_tryInsert {t t' : Table ρ} {r : ρ} (h : t.tryInsert r = some t') (k : Nat) :
    t'.find? k = if k = key r then some r else t.find? k := by
  unfold tryInsert at h
  split at h
  · cases h
    exact find?_insert t r _ k
  · cases h

theorem find?_eq_none_of_tryInsert {t t' : Table ρ} {r : ρ} (h : t.tryInsert r = some t') :
    t.find? (key r) = none := by
  unfold tryInsert at h
  split at h
  · rename_i hfree
    exact find?_eq_none_iff.mpr hfree
  · cases h

theorem isSome_of_tryInsert_eq_none {t : Table ρ} {r : ρ} (h : t.tryInsert r = none) :
    (t.find? (key r)).isSome := by
  unfold tryInsert at h
  split at h
  · cases h
  · rename_i htaken
    push Not at htaken
    obtain ⟨s, hs, hkey⟩ := htaken
    rw [find?_eq_some_iff.mpr ⟨hs, hkey⟩]
    rfl

/-- `INSERT .. ON CONFLICT (key) DO UPDATE`: `f` changes the row in place when
the key of `r` is taken, and `r` is inserted otherwise. -/
def upsert (t : Table ρ) (r : ρ) (f : ρ → ρ) (hf : ∀ s, key (f s) = key s := by intro s; rfl) :
    Table ρ :=
  if h : ∀ s ∈ t.rows, key s ≠ key r then t.insert r h else t.modify (key r) f hf

theorem find?_upsert (t : Table ρ) (r : ρ) (f : ρ → ρ) (hf) (k : Nat) :
    (t.upsert r f hf).find? k =
      if k = key r then some (((t.find? k).map f).getD r) else t.find? k := by
  unfold upsert
  by_cases h : ∀ s ∈ t.rows, key s ≠ key r
  · have hnone : t.find? (key r) = none := find?_eq_none_iff.mpr h
    rw [dif_pos h, find?_insert]
    by_cases hk : k = key r
    · simp [hk, hnone]
    · simp [hk]
  · rw [dif_neg h, find?_modify]
    by_cases hk : k = key r
    · push Not at h
      obtain ⟨s, hs, hsk⟩ := h
      have hsome : t.find? (key r) = some s := find?_eq_some_iff.mpr ⟨hs, hsk⟩
      simp [hk, hsome]
    · simp [hk]

/-! ## Row by row -/

/-- The tables have the same keys, and the rows of each key are related. -/
def Rowwise (R : ρ → ρ → Prop) (t t' : Table ρ) : Prop :=
  ∀ k, Option.Rel R (t.find? k) (t'.find? k)

namespace Rowwise

variable {R S : ρ → ρ → Prop} {t t' t'' : Table ρ}

theorem refl (hR : ∀ r, R r r) (t : Table ρ) : Rowwise R t t := by
  intro k
  cases t.find? k with
  | none => exact .none
  | some r => exact .some (hR r)

theorem of_find? (h : Rowwise R t t') {k : Nat} {r : ρ} (hr : t.find? k = some r) :
    ∃ r', t'.find? k = some r' ∧ R r r' := by
  have hk := h k
  rw [hr] at hk
  cases hk' : t'.find? k with
  | none => rw [hk'] at hk; cases hk
  | some r' =>
    rw [hk'] at hk
    cases hk with
    | some hrel => exact ⟨r', rfl, hrel⟩

theorem to_find? (h : Rowwise R t t') {k : Nat} {r' : ρ} (hr' : t'.find? k = some r') :
    ∃ r, t.find? k = some r ∧ R r r' := by
  cases hr : t.find? k with
  | none =>
    have hk := h k
    rw [hr, hr'] at hk
    cases hk
  | some r =>
    obtain ⟨s, hs, hrel⟩ := h.of_find? hr
    rw [hr'] at hs
    cases hs
    exact ⟨r, rfl, hrel⟩

theorem trans (hR : ∀ a b c, R a b → R b c → R a c) (h : Rowwise R t t') (h' : Rowwise R t' t'') :
    Rowwise R t t'' := by
  intro k
  cases hr : t.find? k with
  | none =>
    cases hr'' : t''.find? k with
    | none => exact .none
    | some r'' =>
      obtain ⟨r', hr', -⟩ := h'.to_find? hr''
      obtain ⟨r, hr2, -⟩ := h.to_find? hr'
      rw [hr] at hr2
      cases hr2
  | some r =>
    obtain ⟨r', hr', h1⟩ := h.of_find? hr
    obtain ⟨r'', hr'', h2⟩ := h'.of_find? hr'
    rw [hr'']
    exact .some (hR r r' r'' h1 h2)

theorem mono (hRS : ∀ a b, R a b → S a b) (h : Rowwise R t t') : Rowwise S t t' := by
  intro k
  cases hr : t.find? k with
  | none =>
    cases hr' : t'.find? k with
    | none => exact .none
    | some r' =>
      obtain ⟨r, hr2, -⟩ := h.to_find? hr'
      rw [hr] at hr2
      cases hr2
  | some r =>
    obtain ⟨r', hr', hrel⟩ := h.of_find? hr
    rw [hr']
    exact .some (hRS r r' hrel)

theorem updateWhere (hR : ∀ r, R r r) {p : ρ → Bool} {f : ρ → ρ} (hf : ∀ r, key (f r) = key r)
    (h : ∀ r ∈ t.rows, p r → R r (f r)) : Rowwise R t (t.updateWhere p f hf) := by
  intro k
  rw [find?_updateWhere]
  cases hr : t.find? k with
  | none => exact .none
  | some r =>
    refine .some ?_
    simp only
    split
    · rename_i hp
      exact h r (mem_of_find? hr) hp
    · exact hR r

theorem modify (hR : ∀ r, R r r) {k : Nat} {f : ρ → ρ} (hf : ∀ r, key (f r) = key r)
    (h : ∀ r, t.find? k = some r → R r (f r)) : Rowwise R t (t.modify k f hf) := by
  refine updateWhere hR hf fun r hr hk => h r ?_
  exact find?_eq_some_iff.mpr ⟨hr, by simpa using hk⟩

end Rowwise

/-! ## Counting -/

/-- At most one row has a given key. -/
theorem select_key (t : Table ρ) (k : Nat) : t.select (fun r => key r == k) = (t.find? k).toList := by
  obtain ⟨rows, hnodup⟩ := t
  show rows.filter (fun r => key r == k) = (rows.find? fun r => key r == k).toList
  induction rows with
  | nil => rfl
  | cons r l ih =>
    obtain ⟨hnotin, hl⟩ := List.nodup_cons.mp hnodup
    by_cases hr : key r = k
    · have hrest : l.filter (fun s => key s == k) = [] := by
        refine List.filter_eq_nil_iff.mpr fun s hs hk => hnotin ?_
        rw [hr, ← beq_iff_eq.mp hk]
        exact List.mem_map_of_mem hs
      simp [hr, hrest]
    · simp [hr, ih hl]

/-! ## Sums over a table -/

/-- `SELECT SUM(v) WHERE p`. -/
def sumWhere (t : Table ρ) (p : ρ → Bool) (v : ρ → Int) : Int := ((t.select p).map v).sum

theorem sumWhere_insertNew (t : Table ρ) (mk : Nat → ρ) (hmk) (p : ρ → Bool) (v : ρ → Int) :
    (t.insertNew mk hmk).sumWhere p v =
      t.sumWhere p v + if p (mk t.freshKey) then v (mk t.freshKey) else 0 := by
  simp only [sumWhere, select, rows_insertNew, List.filter_append, List.map_append, List.sum_append]
  congr 1
  by_cases h : p (mk t.freshKey) <;> simp [h]

theorem sumWhere_eq_sum (t : Table ρ) (p : ρ → Bool) (v : ρ → Int) :
    t.sumWhere p v = (t.rows.map fun r => if p r then v r else 0).sum := by
  unfold sumWhere select
  induction t.rows with
  | nil => rfl
  | cons r l ih =>
    by_cases h : p r
    · simp [h, ih]
    · simp [h, ih]

theorem sumWhere_eq_zero {t : Table ρ} {p : ρ → Bool} {v : ρ → Int} (h : ∀ r ∈ t.rows, ¬ p r) :
    t.sumWhere p v = 0 := by
  unfold sumWhere select
  rw [List.filter_eq_nil_iff.mpr h]
  rfl

/-- An update that keeps what every row contributes keeps the sum. -/
theorem sumWhere_updateWhere (t : Table ρ) (q : ρ → Bool) (f : ρ → ρ) (hf) (p : ρ → Bool)
    (v : ρ → Int)
    (h : ∀ r ∈ t.rows, q r → (if p (f r) then v (f r) else 0) = if p r then v r else 0) :
    (t.updateWhere q f hf).sumWhere p v = t.sumWhere p v := by
  rw [sumWhere_eq_sum, sumWhere_eq_sum, rows_updateWhere, List.map_map]
  congr 1
  refine List.map_congr_left fun r hr => ?_
  show (if p (if q r then f r else r) then v (if q r then f r else r) else 0) = _
  by_cases hq : q r
  · rw [if_pos hq]
    exact h r hr hq
  · rw [if_neg hq]

/-- An update after which no row contributes more keeps the sum from growing. -/
theorem sumWhere_updateWhere_le (t : Table ρ) (q : ρ → Bool) (f : ρ → ρ) (hf) (p : ρ → Bool)
    (v : ρ → Int)
    (h : ∀ r ∈ t.rows, q r → (if p (f r) then v (f r) else 0) ≤ if p r then v r else 0) :
    (t.updateWhere q f hf).sumWhere p v ≤ t.sumWhere p v := by
  rw [sumWhere_eq_sum, sumWhere_eq_sum, rows_updateWhere, List.map_map]
  refine List.sum_le_sum fun r hr => ?_
  show (if p (if q r then f r else r) then v (if q r then f r else r) else 0) ≤ _
  by_cases hq : q r
  · rw [if_pos hq]
    exact h r hr hq
  · rw [if_neg hq]

/-- Of rows that contribute nothing negative, fewer contribute less. -/
theorem sumWhere_le_of_imp (t : Table ρ) {p p' : ρ → Bool} {v : ρ → Int}
    (hv : ∀ r ∈ t.rows, p' r → 0 ≤ v r) (h : ∀ r ∈ t.rows, p r → p' r) :
    t.sumWhere p v ≤ t.sumWhere p' v := by
  rw [sumWhere_eq_sum, sumWhere_eq_sum]
  refine List.sum_le_sum fun r hr => ?_
  by_cases hp : p r
  · rw [if_pos hp, if_pos (h r hr hp)]
  · rw [if_neg hp]
    split
    · rename_i hp'
      exact hv r hr hp'
    · exact le_rfl

theorem sumWhere_nonneg {t : Table ρ} {p : ρ → Bool} {v : ρ → Int} (hv : ∀ r ∈ t.rows, p r → 0 ≤ v r) :
    0 ≤ t.sumWhere p v := by
  refine List.sum_nonneg fun x hx => ?_
  obtain ⟨r, hr, rfl⟩ := List.mem_map.mp hx
  obtain ⟨hmem, hp⟩ := List.mem_filter.mp hr
  exact hv r hmem hp

/-- One row more in the selection adds its own contribution. -/
theorem sumWhere_add_row {t : Table ρ} {r : ρ} (hr : r ∈ t.rows) {p p' : ρ → Bool} (hold : ¬ p r)
    (hnew : p' r) (hsame : ∀ s ∈ t.rows, s ≠ r → p' s = p s) (v : ρ → Int) :
    t.sumWhere p' v = t.sumWhere p v + v r := by
  obtain ⟨l₁, l₂, hrows⟩ := List.append_of_mem hr
  have hnodup : (l₁ ++ r :: l₂).Nodup := hrows ▸ t.nodup.of_map key
  have hmiddle := List.nodup_middle.mp hnodup
  have hnotin := (List.nodup_cons.mp hmiddle).1
  have hcongr : ∀ l : List ρ, (∀ s ∈ l, s ∈ l₁ ++ l₂) → l.filter p' = l.filter p := by
    intro l hl
    refine List.filter_congr fun s hs => hsame s ?_ ?_
    · rw [hrows]
      rcases List.mem_append.mp (hl s hs) with h | h
      · exact List.mem_append_left _ h
      · exact List.mem_append_right _ (List.mem_cons_of_mem _ h)
    · rintro rfl
      exact hnotin (hl s hs)
  simp only [sumWhere, select, hrows, List.filter_append, List.filter_cons, hold, hnew, if_true,
    hcongr l₁ fun s hs => List.mem_append_left _ hs, hcongr l₂ fun s hs => List.mem_append_right _ hs,
    List.map_append, List.map_cons, List.sum_append, List.sum_cons, Bool.false_eq_true, if_false]
  ring

end Table

end Lib
