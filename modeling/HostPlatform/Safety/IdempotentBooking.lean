-- SUMMARY: One booking for one idempotency key, and exactly when a repeated call returns it.
import HostPlatform.BookingCalls

/-!
# Idempotent bookings

The lookup by key runs before the lock. A call that is already past its lookup when
another call with the key commits does not look again: it finds its nights taken, or
the unique index, and ends with an error.
-/

namespace HostPlatform

open Lib (Table)
open Lib.Transition

/-! ## What is claimed -/

/-- A call that ends with the step to `w'` returns the booking with the key, if there is one. -/
def ReturnsBooking (input : CreateBookingInput) (w w' : BookingWorld) : Prop :=
  ∀ call result, (∀ r, w.calls call ≠ some (.done r)) → w'.calls call = some (.done result) →
    ∀ row, w'.db.HasKey input.idempotencyKey row →
      ∃ created, result = .ok created ∧ created.booking = mapBookingRow row

/-- At most one booking ever has the key, and every call that ends when there is one
returns it. -/
structure IdempotentRun (input : CreateBookingInput) (w : BookingWorld) (ls : List BookingLabel) : Prop where
  one : ∀ pre suf pre' suf', ls = pre ++ suf → ls = pre' ++ suf' → ∀ row row',
    (run (BookingWorld.step input) w pre).db.HasKey input.idempotencyKey row →
    (run (BookingWorld.step input) w pre').db.HasKey input.idempotencyKey row' → row.id = row'.id
  returns : ∀ pre l suf, ls = pre ++ l :: suf →
    ReturnsBooking input (run (BookingWorld.step input) w pre)
      ((run (BookingWorld.step input) w pre).step input l)

/-- No booking has the key when a call that is past its lookup ends. -/
def KeyUnusedAtEnd (input : CreateBookingInput) (w : BookingWorld) : BookingLabel → Prop
  | .readProperty call => ∀ now, w.calls call = some (.lookedUp now) →
      (∃ e, bookableProperty now input w.db = .error e) → w.db.bookingByKey input.idempotencyKey = none
  | .reserve call _ => ∀ now p, w.calls call = some (.checked now p) →
      w.db.bookingByKey input.idempotencyKey = none
  | _ => True

/-! ## The invariant -/

/-- At most one booking has the key, and once one has it or a call is past its lookup,
the input is known to pass the first checks. -/
structure KeyInv (input : CreateBookingInput) (w : BookingWorld) : Prop where
  one : w.db.OneWithKey input.idempotencyKey
  created : ∀ row, w.db.HasKey input.idempotencyKey row → checkRequest input = .ok ()
  lookedUp : ∀ call now, w.calls call = some (.lookedUp now) → checkRequest input = .ok ()
  checked : ∀ call now p, w.calls call = some (.checked now p) → checkRequest input = .ok ()

section

variable {input : CreateBookingInput} {w : BookingWorld} {call : Nat} {phase : Option BookingPhase} {db : Db}

/-- A call goes to a phase of which the invariant says nothing new. -/
theorem KeyInv.setCall (h : KeyInv input w)
    (hphase : checkRequest input = .ok () ∨ ∀ p, phase = some p → ∃ result, p = .done result) :
    KeyInv input (w.setCall call phase) := by
  have hcalls : ∀ c p, (w.setCall call phase).calls c = some p →
      w.calls c = some p ∨ checkRequest input = .ok () ∨ ∃ result, p = .done result := by
    intro c p hc
    unfold BookingWorld.setCall at hc
    dsimp only at hc
    split at hc
    · exact .inr (hphase.imp_right fun hdone => hdone p hc)
    · exact .inl hc
  refine ⟨h.one, h.created, fun c now hc => ?_, fun c now p hc => ?_⟩
  · rcases hcalls c _ hc with hold | hok | ⟨result, hdone⟩
    · exact h.lookedUp c now hold
    · exact hok
    · cases hdone
  · rcases hcalls c _ hc with hold | hok | ⟨result, hdone⟩
    · exact h.checked c now p hold
    · exact hok
    · cases hdone

theorem KeyInv.reserved (h : KeyInv input w) (hvalid : checkRequest input = .ok ()) {row : Booking}
    (hunused : w.db.bookingByKey row.idempotencyKey = none)
    (hrows : db.bookings.rows = w.db.bookings.rows ++ [row]) : KeyInv input { w with db := db } :=
  ⟨h.one.append hunused hrows, fun _ _ => hvalid, h.lookedUp, h.checked⟩

theorem KeyInv.step (h : KeyInv input w) (l : BookingLabel) : KeyInv input (w.step input l) := by
  cases l with
  | lookUp call now =>
    simp only [BookingWorld.step]
    split
    · split
      · exact h.setCall (.inr fun p hp => ⟨_, (Option.some.inj hp).symm⟩)
      · exact h.setCall (.inr fun p hp => ⟨_, (Option.some.inj hp).symm⟩)
      · rename_i hlookup
        unfold lookUpKey at hlookup
        obtain ⟨⟨⟩, hvalid, -⟩ := Lib.bind_eq_ok.mp hlookup
        exact h.setCall (.inl hvalid)
    · exact h
  | readProperty call =>
    simp only [BookingWorld.step]
    split
    · rename_i now hcall
      split
      · exact h.setCall (.inr fun p hp => ⟨_, (Option.some.inj hp).symm⟩)
      · exact h.setCall (.inl (h.lookedUp call now hcall))
    · exact h
  | reserve call isDelayedFlow =>
    simp only [BookingWorld.step]
    split
    · rename_i now p hcall
      have hvalid := h.checked call now p hcall
      split
      · exact h.setCall (.inl hvalid)
      · rename_i hok
        obtain ⟨hunused, row, hkey, -, -, hrows⟩ := reserveBooking_eq_ok hok
        rw [← hkey] at hunused
        exact (h.reserved hvalid hunused hrows).setCall (.inl hvalid)
    · exact h
  | crash call => exact h.setCall (.inr fun p hp => by cases hp)
  | transaction t =>
    simp only [BookingWorld.step]
    split
    · exact h
    · rename_i ht
      have ht : t.createsKey input.idempotencyKey = false := Bool.eq_false_iff.mpr ht
      refine ⟨h.one.exec ht, fun row hrow => ?_, h.lookedUp, h.checked⟩
      obtain ⟨r, hr, -⟩ := hrow.of_exec ht
      exact h.created r hr

/-- A booking with the key stays. -/
theorem hasKey_step {row : Booking} (hrow : w.db.HasKey input.idempotencyKey row) (l : BookingLabel) :
    ∃ r, (w.step input l).db.HasKey input.idempotencyKey r ∧ r.id = row.id := by
  cases l with
  | lookUp call now =>
    simp only [BookingWorld.step]
    split
    · split <;> exact ⟨row, hrow, rfl⟩
    · exact ⟨row, hrow, rfl⟩
  | readProperty call =>
    simp only [BookingWorld.step]
    split
    · split <;> exact ⟨row, hrow, rfl⟩
    · exact ⟨row, hrow, rfl⟩
  | reserve call isDelayedFlow =>
    simp only [BookingWorld.step]
    split
    · split
      · exact ⟨row, hrow, rfl⟩
      · rename_i created db' hok
        obtain ⟨-, new, -, -, -, hrows⟩ := reserveBooking_eq_ok hok
        have hmem : row ∈ db'.bookings.rows := by
          rw [hrows]
          exact List.mem_append_left _ hrow.1
        exact ⟨row, ⟨hmem, hrow.2⟩, rfl⟩
    · exact ⟨row, hrow, rfl⟩
  | crash call => exact ⟨row, hrow, rfl⟩
  | transaction t =>
    simp only [BookingWorld.step]
    split
    · exact ⟨row, hrow, rfl⟩
    · exact hrow.exec t

theorem hasKey_run {row : Booking} (hrow : w.db.HasKey input.idempotencyKey row) (ls : List BookingLabel) :
    ∃ r, (run (BookingWorld.step input) w ls).db.HasKey input.idempotencyKey r ∧ r.id = row.id := by
  induction ls generalizing w row with
  | nil => exact ⟨row, hrow, rfl⟩
  | cons l ls ih =>
    obtain ⟨r, hr, hid⟩ := hasKey_step hrow l
    obtain ⟨s, hs, hid'⟩ := ih hr
    exact ⟨s, hs, hid'.trans hid⟩

/-! ## What a call returns -/

/-- Only the call that takes the step can end with it. -/
theorem returnsBooking_setCall (db : Db) :
    ReturnsBooking input w ({ w with db := db }.setCall call phase) ↔
      ∀ result, (∀ r, w.calls call ≠ some (.done r)) → phase = some (.done result) →
        ∀ row, db.HasKey input.idempotencyKey row →
          ∃ created, result = .ok created ∧ created.booking = mapBookingRow row := by
  constructor
  · intro h result hrunning hphase row hrow
    refine h call result hrunning ?_ row hrow
    show (if call = call then phase else w.calls call) = some (.done result)
    rw [if_pos rfl, hphase]
  · intro h c result hrunning hdone row hrow
    change (if c = call then phase else w.calls c) = some (.done result) at hdone
    split at hdone
    · rename_i hc
      subst hc
      exact h result hrunning hdone row hrow
    · exact absurd hdone (hrunning result)

theorem returnsBooking_of_calls {w' : BookingWorld} (h : w'.calls = w.calls) : ReturnsBooking input w w' := by
  intro c result hrunning hdone
  rw [h] at hdone
  exact absurd hdone (hrunning result)

theorem running_of {phase : Option BookingPhase} (hcall : w.calls call = phase)
    (hphase : ∀ r, phase ≠ some (.done r)) (r : Except BookingError CreatedBooking) :
    w.calls call ≠ some (.done r) := by
  rw [hcall]
  exact hphase r

/-- A call that fails meets the claim only while no booking has the key. -/
theorem returnsBooking_error {e : BookingError} (hrunning : ∀ r, w.calls call ≠ some (.done r)) :
    ReturnsBooking input w (w.setCall call (some (.done (.error e)))) ↔
      w.db.bookingByKey input.idempotencyKey = none := by
  rw [bookingByKey_eq_none]
  refine (returnsBooking_setCall w.db).trans ⟨fun h row hrow => ?_, fun h result _ hdone row hrow => ?_⟩
  · obtain ⟨created, herror, -⟩ := h _ hrunning rfl row hrow
    cases herror
  · exact absurd hrow (h row)

end

theorem KeyInv.returnsBooking_iff {input : CreateBookingInput} {w : BookingWorld} (h : KeyInv input w)
    (l : BookingLabel) : ReturnsBooking input w (w.step input l) ↔ KeyUnusedAtEnd input w l := by
  cases l with
  | lookUp call now =>
    refine iff_of_true ?_ trivial
    simp only [BookingWorld.step]
    split
    · rename_i hcall
      have hrunning := running_of hcall fun r hdone => by cases hdone
      split
      · rename_i e hlookup
        refine (returnsBooking_error hrunning).mpr (bookingByKey_eq_none.mpr fun row hrow => ?_)
        -- the first checks passed when the booking was created
        have hvalid := h.created row hrow
        rw [lookUpKey_eq_error hlookup] at hvalid
        cases hvalid
      · rename_i existing hlookup
        unfold lookUpKey at hlookup
        obtain ⟨_, -, hfound⟩ := Lib.bind_eq_ok.mp hlookup
        refine (returnsBooking_setCall w.db).mpr fun result _ hdone row hrow => ?_
        rw [h.one.bookingByKey hrow] at hfound
        cases hfound
        cases hdone
        exact ⟨_, rfl, rfl⟩
      · exact (returnsBooking_setCall w.db).mpr fun result _ hdone => by cases hdone
    · exact returnsBooking_of_calls rfl
  | readProperty call =>
    simp only [BookingWorld.step, KeyUnusedAtEnd]
    split
    · rename_i now hcall
      have hrunning := running_of hcall fun r hdone => by cases hdone
      split
      · rename_i e hproperty
        rw [returnsBooking_error hrunning]
        refine ⟨fun hunused _ _ _ => hunused, fun hunused => hunused now hcall ⟨e, hproperty⟩⟩
      · rename_i p hproperty
        refine iff_of_true ?_ fun now' hcall' herror => ?_
        · exact (returnsBooking_setCall w.db).mpr fun result _ hdone => by cases hdone
        · obtain ⟨e, herror⟩ := herror
          rw [hcall] at hcall'
          cases hcall'
          rw [hproperty] at herror
          cases herror
    · rename_i hcall
      exact iff_of_true (returnsBooking_of_calls rfl) fun now hlookedUp => absurd hlookedUp (hcall now)
  | reserve call isDelayedFlow =>
    simp only [BookingWorld.step, KeyUnusedAtEnd]
    split
    · rename_i now p hcall
      have hrunning := running_of hcall fun r hdone => by cases hdone
      split
      · rw [returnsBooking_error hrunning]
        exact ⟨fun hunused _ _ _ => hunused, fun hunused => hunused now p hcall⟩
      · rename_i created db hok
        obtain ⟨hunused, row, -, -, hbooking, hrows⟩ := reserveBooking_eq_ok hok
        refine iff_of_true ?_ fun _ _ _ => hunused
        refine (returnsBooking_setCall db).mpr fun result _ hdone r hr => ?_
        cases hdone
        have hmem := hr.1
        rw [hrows, List.mem_append, List.mem_singleton] at hmem
        have hnew : r = row :=
          hmem.resolve_left fun hold => bookingByKey_eq_none.mp hunused r ⟨hold, hr.2⟩
        exact ⟨created, rfl, by rw [hbooking, hnew]⟩
    · rename_i hcall
      exact iff_of_true (returnsBooking_of_calls rfl) fun now p hchecked => absurd hchecked (hcall now p)
  | crash call =>
    refine iff_of_true ?_ trivial
    exact (returnsBooking_setCall w.db).mpr fun result _ hdone => by cases hdone
  | transaction t =>
    refine iff_of_true ?_ trivial
    simp only [BookingWorld.step]
    split <;> exact returnsBooking_of_calls rfl

/-! ## Runs -/

theorem keyInv_start {input : CreateBookingInput} {db : Db}
    (hnew : db.bookingByKey input.idempotencyKey = none) : KeyInv input (.start db) :=
  ⟨fun row _ hrow => absurd hrow (bookingByKey_eq_none.mp hnew row),
    fun row hrow => absurd hrow (bookingByKey_eq_none.mp hnew row),
    fun _ _ hcall => (nomatch hcall), fun _ _ _ hcall => (nomatch hcall)⟩

/-- Two bookings with the key, at any two points of a run, are one booking. -/
theorem KeyInv.same_id {input : CreateBookingInput} {w : BookingWorld} (h : KeyInv input w)
    {pre suf pre' suf' : List BookingLabel} (heq : pre ++ suf = pre' ++ suf') {row row' : Booking}
    (hrow : (run (BookingWorld.step input) w pre).db.HasKey input.idempotencyKey row)
    (hrow' : (run (BookingWorld.step input) w pre').db.HasKey input.idempotencyKey row') :
    row.id = row'.id := by
  -- both are still there at the end
  obtain ⟨r, hr, hid⟩ := hasKey_run hrow suf
  obtain ⟨r', hr', hid'⟩ := hasKey_run hrow' suf'
  rw [← run_append] at hr hr'
  rw [← heq] at hr'
  have hend := run_invariant' (I := KeyInv input) (fun _ l h => h.step l) h (pre ++ suf)
  rw [← hid, ← hid', hend.one r r' hr hr']

/-- Calls with one key and one input create one booking at most, and return it once it
is there, exactly in the runs where no call ends past its lookup once it is. -/
theorem idempotentRun_iff (input : CreateBookingInput) (db : Db)
    (hnew : db.bookingByKey input.idempotencyKey = none) (ls : List BookingLabel) :
    IdempotentRun input (.start db) ls ↔
      Guarded (BookingWorld.step input) (KeyUnusedAtEnd input) (.start db) ls := by
  have hinv : ∀ pre, KeyInv input (run (BookingWorld.step input) (.start db) pre) :=
    run_invariant' (fun _ l h => h.step l) (keyInv_start hnew)
  rw [guarded_iff]
  constructor
  · intro h pre l suf hls
    exact ((hinv pre).returnsBooking_iff l).mp (h.returns pre l suf hls)
  · intro h
    refine ⟨fun pre suf pre' suf' hls hls' row row' hrow hrow' => ?_, fun pre l suf hls => ?_⟩
    · exact (keyInv_start hnew).same_id (hls.symm.trans hls') hrow hrow'
    · exact ((hinv pre).returnsBooking_iff l).mpr (h pre l suf hls)

/-! ## A retry, and a double submit -/

/-- The call is made again after it has returned. -/
def retriedLater : List BookingLabel :=
  [.lookUp 1 0, .readProperty 1, .reserve 1 true, .lookUp 2 1]

theorem retriedLater_idempotent :
    IdempotentRun (sampleRequest "key") (.start sampleDb) retriedLater := by
  have hnew : sampleDb.bookingByKey "key" = none := by rfl
  refine (idempotentRun_iff (sampleRequest "key") sampleDb hnew retriedLater).mpr ?_
  exact ⟨trivial, fun _ _ _ => by rfl, fun _ _ _ => by rfl, trivial, trivial⟩

/-- The same request is sent twice at once: both calls look the key up before either
has a booking. -/
def submittedTwice : List BookingLabel :=
  [.lookUp 1 0, .lookUp 2 0, .readProperty 1, .readProperty 2, .reserve 1 true]

/-- The second call ends with an error although the first has created the booking. -/
theorem submittedTwice_notReturned :
    ¬ IdempotentRun (sampleRequest "key") (.start sampleDb) (submittedTwice ++ [.reserve 2 true]) := by
  intro h
  have hreserve := h.returns submittedTwice (.reserve 2 true) [] rfl
  have hend : ((run (BookingWorld.step (sampleRequest "key")) (.start sampleDb) submittedTwice).step
      (sampleRequest "key") (.reserve 2 true)).calls 2 =
        some (.done (.error ⟨"DATES_UNAVAILABLE", "100 is not available"⟩)) := by rfl
  have hrow : bookingRow 0 true (sampleRequest "key") 1 defaultPolicyRules 1 ∈
      ((run (BookingWorld.step (sampleRequest "key")) (.start sampleDb) submittedTwice).step
        (sampleRequest "key") (.reserve 2 true)).db.bookings.rows := List.mem_singleton.mpr rfl
  obtain ⟨created, herror, -⟩ := hreserve 2 _ (fun r hdone => by cases hdone) hend _ ⟨hrow, rfl⟩
  cases herror

end HostPlatform
