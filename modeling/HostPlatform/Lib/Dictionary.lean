-- SUMMARY: Finite maps in insertion order, on Mathlib's association lists: building one map from another entry by entry.
import Mathlib.Data.List.AList

/-!
# Dictionaries

A `Map` or a record is a list of entries with distinct keys, in the order in which they
are enumerated.
-/

namespace Lib

abbrev Dictionary (κ α : Type) := AList fun _ : κ => α

namespace Dictionary

variable {κ α β : Type}

/-- The entries that `f` keeps, with the values it gives them. -/
def mapMaybe (f : κ → α → Option β) (d : Dictionary κ α) : Dictionary κ β where
  entries := d.entries.filterMap fun e => (f e.1 e.2).map (Sigma.mk e.1)
  nodupKeys := by
    have hkeys : (d.entries.filterMap fun e => (f e.1 e.2).map (Sigma.mk (β := fun _ : κ => β) e.1)).keys =
        (d.entries.filter fun e => (f e.1 e.2).isSome).keys := by
      induction d.entries with
      | nil => rfl
      | cons e entries ih => cases h : f e.1 e.2 <;> simp [h, ih]
    rw [List.NodupKeys, hkeys]
    exact d.nodupKeys.sublist List.filter_sublist

section

variable [DecidableEq κ]

theorem lookup_eq_some {d : Dictionary κ α} {k : κ} {v : α} :
    d.lookup k = some v ↔ ⟨k, v⟩ ∈ d.entries := AList.mem_lookup_iff

@[simp] theorem lookup_mapMaybe (f : κ → α → Option β) (d : Dictionary κ α) (k : κ) :
    (d.mapMaybe f).lookup k = (d.lookup k).bind (f k) := by
  refine Option.ext fun v => ?_
  simp only [lookup_eq_some, mapMaybe, List.mem_filterMap, Option.map_eq_some_iff, Option.bind_eq_some_iff]
  constructor
  · rintro ⟨⟨k', u⟩, hmem, w, hw, heq⟩
    cases heq
    exact ⟨u, hmem, hw⟩
  · rintro ⟨u, hmem, hw⟩
    exact ⟨⟨k, u⟩, hmem, v, hw, rfl⟩

/-- A check of every entry is a check of every lookup. -/
theorem forall_entries {d : Dictionary κ α} {P : κ → α → Prop} :
    (∀ e ∈ d.entries, P e.1 e.2) ↔ ∀ k v, d.lookup k = some v → P k v :=
  ⟨fun h k v hv => h ⟨k, v⟩ (lookup_eq_some.mp hv), fun h e he => h e.1 e.2 (lookup_eq_some.mpr he)⟩

end

end Dictionary

end Lib
