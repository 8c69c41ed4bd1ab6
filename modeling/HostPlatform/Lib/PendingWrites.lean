-- SUMMARY: The writes a transaction collects, and makes all at once when it commits.

/-!
# Pending writes

A transaction plans each write from what it reads at the statement, and makes its writes in their
order when it commits. Before that, and if it never commits, they are nowhere.
-/

namespace Lib

variable {σ ω : Type}

def commitWrites (write : ω → σ → σ) (s : σ) (writes : List ω) : σ :=
  writes.foldl (fun s w => write w s) s

variable {write : ω → σ → σ}

/-- What every write does from one state to the next, a commit does. -/
theorem commitWrites_relates {R : σ → σ → Prop} (hrefl : ∀ s, R s s) (htrans : ∀ {s t u}, R s t → R t u → R s u)
    (h : ∀ w s, R s (write w s)) (s : σ) (writes : List ω) : R s (commitWrites write s writes) := by
  induction writes generalizing s with
  | nil => exact hrefl s
  | cons w writes ih => exact htrans (h w s) (ih (write w s))

/-- What one of the writes establishes and all keep holds after the commit. `I` is known all along. -/
theorem commitWrites_establishes {I P : σ → Prop} (hI : ∀ w s, I s → I (write w s))
    (hkeep : ∀ w s, P s → P (write w s)) {w : ω} (hset : ∀ s, I s → P (write w s)) {s : σ} (hs : I s)
    {writes : List ω} (hw : w ∈ writes) : P (commitWrites write s writes) := by
  induction writes generalizing s with
  | nil => cases hw
  | cons w' writes ih =>
    rcases List.mem_cons.mp hw with rfl | hw
    · have hrest := commitWrites_relates (R := fun s t => P s → P t) (fun _ h => h)
        (fun hst htu h => htu (hst h)) hkeep (write w s) writes
      exact hrest (hset s hs)
    · exact ih (hI w' s hs) hw

end Lib
