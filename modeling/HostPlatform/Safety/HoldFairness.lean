-- SUMMARY: How many sweeps an expired hold lasts for.
import HostPlatform.BookingUpdates
import HostPlatform.Booking.HoldSweeps
import HostPlatform.Lib.OldestFirst

/-!
# Expired holds

A sweep takes the 200 oldest holds. No transaction brings a hold that is older than its own
clock, so the holds in front of an expired one only get fewer, by 200 with each full sweep.
-/

namespace HostPlatform

open Lib (Table)
open Lib.Transition
open Lib.OldestFirst

/-! ## Holds in front -/

/-- A hold that ends before `since`, or at `since` and not behind the booking `b`. -/
def Booking.heldUpTo (since : Int) (b : BookingId) (r : Booking) : Bool :=
  decide (r.status = .pendingPayment) && r.holdExpiresAt.any fun t => decide (t < since ∨ t = since ∧ r.id ≤ b)

theorem Booking.heldUpTo_iff {since : Int} {b : BookingId} {r : Booking} :
    r.heldUpTo since b ↔
      r.status = .pendingPayment ∧ ∃ t, r.holdExpiresAt = some t ∧ (t < since ∨ t = since ∧ r.id ≤ b) := by
  simp only [heldUpTo, Bool.and_eq_true, decide_eq_true_eq, Option.any_eq_true]

/-- The bookings with these holds. -/
def Db.heldUpTo (since : Int) (b : BookingId) (db : Db) : List BookingId :=
  (db.bookings.select (Booking.heldUpTo since b)).map Booking.id

section

variable {since : Int} {b k : BookingId} {db : Db}

theorem mem_heldUpTo : k ∈ db.heldUpTo since b ↔ ∃ r, db.bookings.find? k = some r ∧ r.heldUpTo since b := by
  constructor
  · intro h
    obtain ⟨r, hr, rfl⟩ := List.mem_map.mp h
    obtain ⟨hrow, hheld⟩ := List.mem_filter.mp hr
    exact ⟨r, Table.find?_of_mem hrow, hheld⟩
  · rintro ⟨r, hr, hheld⟩
    exact List.mem_map.mpr ⟨r, List.mem_filter.mpr ⟨Table.mem_of_find? hr, hheld⟩, Table.key_of_find? hr⟩

theorem nodup_heldUpTo : (db.heldUpTo since b).Nodup :=
  db.bookings.nodup.sublist (List.filter_sublist.map Lib.key)

/-! ## Transactions -/

/-- A transaction that sets holds reads a clock that is not before `since`. -/
def Tx.holdsAfter (since : Int) : Tx → Prop
  | .createBooking now .. | .recordChargeOutcome now .. => since ≤ now
  | _ => True

theorem grace_heldUpTo {now : Int} {r : Booking} (hnow : since ≤ now) (hpending : r.status = .pendingPayment)
    (h : (establishGracePeriod now r).heldUpTo since b) : r.heldUpTo since b := by
  obtain ⟨-, t, ht, hup⟩ := Booking.heldUpTo_iff.mp h
  simp only [establishGracePeriod] at ht
  split at ht
  · cases ht
    have hafter : since < now + gracePeriodHours * msPerHour := by
      have hlong : 0 < gracePeriodHours * msPerHour := by decide
      omega
    omega
  · exact Booking.heldUpTo_iff.mpr ⟨hpending, t, ht, hup⟩

/-- A hold up to the instant was there before. -/
theorem heldUpTo_exec {t : Tx} (ht : t.holdsAfter since) : (t.exec db).heldUpTo since b ⊆ db.heldUpTo since b := by
  intro k hk
  obtain ⟨r', hr', hheld⟩ := mem_heldUpTo.mp hk
  obtain ⟨hpending', u, hu, hup⟩ := Booking.heldUpTo_iff.mp hheld
  rcases t.row_cases db hr' with ⟨r, hr, hupdated⟩ | ⟨-, now, isDelayedFlow, input, hostId, rules, rfl, rfl⟩
  · refine mem_heldUpTo.mpr ⟨r, hr, ?_⟩
    cases hupdated with
    | same => exact hheld
    | setupIntent => exact hheld
    | paymentMethod => exact hheld
    | taxTreatment => exact hheld
    | discarded now => cases hpending'
    | holdCleared htx hpending => cases hu
    | unsettled now attemptId claimToken status details htx hpending =>
      subst htx
      exact grace_heldUpTo ht hpending hheld
    | failed now attemptId claimToken details htx hpending =>
      subst htx
      exact grace_heldUpTo ht hpending hheld
    | status st =>
      -- no transaction makes a booking pending again
      obtain ⟨r₁, hr₁, -, hmove⟩ := (t.effect db).row hr
      obtain rfl := Option.some.inj (hr'.symm.trans hr₁)
      have hpending : r.status = .pendingPayment := by
        rcases hmove with hmove | ⟨-, hcancelled⟩
        · rw [hpending'] at hmove
          generalize r.status = before at hmove
          cases hmove
          rfl
        · rw [hpending'] at hcancelled
          cases hcancelled
      exact Booking.heldUpTo_iff.mpr ⟨hpending, u, hu, hup⟩
  · cases hu
    have hafter : since < now + holdMinutes * msPerMinute := by
      have hlong : 0 < holdMinutes * msPerMinute := by decide
      have hnow : since ≤ now := ht
      omega
    omega

theorem heldUpTo_run {ts : List Tx} (h : ∀ t ∈ ts, t.holdsAfter since) :
    (run Tx.exec db ts).heldUpTo since b ⊆ db.heldUpTo since b := by
  induction ts generalizing db with
  | nil => exact List.Subset.refl _
  | cons t ts ih =>
    rw [List.forall_mem_cons] at h
    exact List.Subset.trans (ih h.2) (heldUpTo_exec h.1)

/-- A hold up to the instant has expired at any time from then on. -/
theorem expiredHold_of_heldUpTo {now : Int} {r : Booking} (hnow : since ≤ now) (hr : db.bookings.find? k = some r)
    (hheld : r.heldUpTo since b) : expiredHold now k db = some r := by
  obtain ⟨hpending, t, ht, hup⟩ := Booking.heldUpTo_iff.mp hheld
  have hle : t ≤ now := by omega
  refine Option.filter_eq_some_iff.mpr ⟨hr, ?_⟩
  simp only [hpending, ht, hle, Option.any_some, decide_true, Bool.and_true]

/-- Its release ends it. -/
theorem not_heldUpTo_release {now : Int} (hnow : since ≤ now) :
    k ∉ ((releaseExpiredHold now k db).2).heldUpTo since b := by
  intro hk
  obtain ⟨r, hr, hheld⟩ := mem_heldUpTo.mp hk
  unfold releaseExpiredHold at hr
  cases hexpired : expiredHold now k db with
  | none =>
    rw [hexpired] at hr
    rw [expiredHold_of_heldUpTo hnow hr hheld] at hexpired
    cases hexpired
  | some r₀ =>
    rw [hexpired] at hr
    have hfind : db.bookings.find? k = some r₀ := (expiredHold_eq_some hexpired).1
    have hid : k = r₀.id := (Table.key_of_find? hfind).symm
    simp only [releaseNights_find?, if_pos hid, hfind, Option.map_some, Option.some.injEq] at hr
    subst hr
    cases (Booking.heldUpTo_iff.mp hheld).1

/-! ## Sweeps -/

/-- A turn from the instant on, and what commits before it. -/
def SweepTurn.holdsAfter (since : Int) (turn : SweepTurn) : Prop :=
  since ≤ turn.now ∧ ∀ t ∈ turn.before, t.holdsAfter since

theorem heldUpTo_releaseEach {ids : List BookingId} {turns : List SweepTurn}
    (hturns : ∀ turn ∈ turns, turn.holdsAfter since) :
    (releaseEach db ids turns).2.heldUpTo since b ⊆ db.heldUpTo since b := by
  induction ids generalizing db turns with
  | nil => exact List.Subset.refl _
  | cons k ids ih =>
    cases turns with
    | nil => exact List.Subset.refl _
    | cons turn turns =>
      rw [List.forall_mem_cons] at hturns
      have hrelease : (releaseExpiredHold turn.now k (run Tx.exec db turn.before)).2.heldUpTo since b ⊆
          (run Tx.exec db turn.before).heldUpTo since b :=
        heldUpTo_exec (t := .releaseExpiredHold turn.now k) trivial
      exact List.Subset.trans (ih hturns.2) (List.Subset.trans hrelease (heldUpTo_run hturns.1.2))

/-- A loop with a turn for each of the holds ends them all. -/
theorem not_heldUpTo_releaseEach {ids : List BookingId} {turns : List SweepTurn}
    (hturns : ∀ turn ∈ turns, turn.holdsAfter since) (hall : ids.length ≤ turns.length) :
    ∀ k ∈ ids, k ∉ (releaseEach db ids turns).2.heldUpTo since b := by
  induction ids generalizing db turns with
  | nil => exact fun k hk => absurd hk List.not_mem_nil
  | cons k ids ih =>
    cases turns with
    | nil => cases hall
    | cons turn turns =>
      rw [List.forall_mem_cons] at hturns ⊢
      refine ⟨fun hk => ?_, ih hturns.2 (Nat.le_of_succ_le_succ hall)⟩
      exact not_heldUpTo_release hturns.1.1 (heldUpTo_releaseEach hturns.2 hk)

/-- The order of the sweep, for any two bookings. -/
def holdLe (r r' : Booking) : Bool :=
  decide (r.holdExpiresAt.getD 0 < r'.holdExpiresAt.getD 0 ∨
    r.holdExpiresAt.getD 0 = r'.holdExpiresAt.getD 0 ∧ r.id ≤ r'.id)

theorem holdLe_trans (r₁ r₂ r₃ : Booking) (h₁₂ : holdLe r₁ r₂) (h₂₃ : holdLe r₂ r₃) : holdLe r₁ r₃ := by
  simp only [holdLe, decide_eq_true_eq] at *
  rcases h₁₂ with hlt | ⟨heq, hid⟩
  · rcases h₂₃ with hlt' | ⟨heq', -⟩
    · exact .inl (hlt.trans hlt')
    · exact .inl (heq' ▸ hlt)
  · rcases h₂₃ with hlt' | ⟨heq', hid'⟩
    · exact .inl (heq ▸ hlt')
    · exact .inr ⟨heq.trans heq', le_trans hid hid'⟩

theorem holdLe_total (r r' : Booking) : holdLe r r' || holdLe r' r := by
  simp only [holdLe, Bool.or_eq_true, decide_eq_true_eq]
  rcases lt_trichotomy (r.holdExpiresAt.getD 0) (r'.holdExpiresAt.getD 0) with hlt | heq | hgt
  · exact .inl (.inl hlt)
  · exact (le_total r.id r'.id).imp (fun hid => .inr ⟨heq, hid⟩) fun hid => .inr ⟨heq.symm, hid⟩
  · exact .inr (.inl hgt)

/-- The holds that a sweep may take. -/
def Db.expiredHolds (now : Int) (db : Db) : List Booking :=
  db.bookings.select fun row =>
    decide (row.status = .pendingPayment) && row.holdExpiresAt.any fun t => decide (t ≤ now)

theorem mem_expiredHolds {now : Int} {r : Booking} :
    r ∈ db.expiredHolds now ↔
      r ∈ db.bookings.rows ∧ r.status = .pendingPayment ∧ ∃ t, r.holdExpiresAt = some t ∧ t ≤ now := by
  simp only [Db.expiredHolds, Table.select, List.mem_filter, Bool.and_eq_true, decide_eq_true_eq, Option.any_eq_true]

theorem findExpiredHoldBookingIds_eq (now : Int) (db : Db) :
    findExpiredHoldBookingIds now db = (pick holdLe 200 (db.expiredHolds now)).map Booking.id := by
  have hcongr : pick (fun a b : Booking => decide (a.holdExpiresAt.getD 0 < b.holdExpiresAt.getD 0
      ∨ a.holdExpiresAt = b.holdExpiresAt ∧ a.id ≤ b.id)) 200 (db.expiredHolds now) =
        pick holdLe 200 (db.expiredHolds now) := by
    refine pick_congr fun a ha b hb => ?_
    obtain ⟨-, -, t, ht, -⟩ := mem_expiredHolds.mp ha
    obtain ⟨-, -, u, hu, -⟩ := mem_expiredHolds.mp hb
    simp only [holdLe, ht, hu, Option.getD_some, Option.some.injEq]
  rw [← hcongr, pick, List.map_take]
  rfl

theorem separates_heldUpTo (now : Int) : Separates holdLe (Booking.heldUpTo since b) (db.expiredHolds now) := by
  intro r hr r' hr' hheld hnot
  obtain ⟨-, t, ht, hup⟩ := Booking.heldUpTo_iff.mp hheld
  obtain ⟨-, hpending, u, hu, -⟩ := mem_expiredHolds.mp hr'
  simp only [Booking.heldUpTo, hpending, hu, Option.any_some, decide_true, Bool.true_and, decide_eq_false_iff_not,
    not_or, not_and] at hnot
  simp only [holdLe, ht, hu, Option.getD_some, decide_eq_false_iff_not, not_or, not_and]
  rcases hup with hlt | ⟨rfl, hid⟩
  · exact ⟨by omega, fun heq => by omega⟩
  · exact ⟨hnot.1, fun heq hle => hnot.2 heq (le_trans hle hid)⟩

end

/-- Every step is from the instant on, and no sweep fails. -/
def CompleteSince (since : Int) (db : Db) : HoldLabel → Prop
  | .tx t => t.holdsAfter since
  | .sweep now turns =>
    since ≤ now ∧ (∀ turn ∈ turns, turn.holdsAfter since) ∧
      (findExpiredHoldBookingIds now db).length ≤ turns.length

section

variable {since : Int} {b : BookingId} {db : Db}

theorem heldUpTo_holdStep {label : HoldLabel} (h : CompleteSince since db label) :
    (holdStep db label).heldUpTo since b ⊆ db.heldUpTo since b := by
  cases label with
  | tx t => exact heldUpTo_exec h
  | sweep now turns => exact heldUpTo_releaseEach h.2.1

/-- A sweep that leaves a hold has ended 200 of those in front of it. -/
theorem heldUpTo_sweep {now : Int} {turns : List SweepTurn} (h : CompleteSince since db (.sweep now turns))
    (hheld : b ∈ (holdStep db (.sweep now turns)).heldUpTo since b) :
    ((holdStep db (.sweep now turns)).heldUpTo since b).length + 200 ≤ (db.heldUpTo since b).length := by
  obtain ⟨hnow, hturns, hall⟩ := h
  have hsub : (holdStep db (.sweep now turns)).heldUpTo since b ⊆ db.heldUpTo since b := heldUpTo_releaseEach hturns
  have hended : ∀ k ∈ findExpiredHoldBookingIds now db, k ∉ (holdStep db (.sweep now turns)).heldUpTo since b :=
    not_heldUpTo_releaseEach hturns hall
  obtain ⟨r, hr, hrow⟩ := mem_heldUpTo.mp (hsub hheld)
  have hid : r.id = b := Table.key_of_find? hr
  have hexpired : r ∈ db.expiredHolds now := by
    obtain ⟨-, hpending, t, ht, hle⟩ := expiredHold_eq_some (expiredHold_of_heldUpTo hnow hr hrow)
    exact mem_expiredHolds.mpr ⟨Table.mem_of_find? hr, hpending, t, ht, hle⟩
  rw [findExpiredHoldBookingIds_eq] at hended
  obtain ⟨hfull, hearly⟩ := pick_of_not_mem holdLe_trans holdLe_total (separates_heldUpTo (b := b) now) hexpired hrow
    fun hpicked => hended b (List.mem_map.mpr ⟨r, hpicked, hid⟩) hheld
  have hwere : (pick holdLe 200 (db.expiredHolds now)).map Booking.id ⊆ db.heldUpTo since b := by
    intro k hk
    obtain ⟨r', hr', rfl⟩ := List.mem_map.mp hk
    have hmem : r' ∈ db.bookings.rows := (mem_expiredHolds.mp (pick_subset hr')).1
    exact mem_heldUpTo.mpr ⟨r', Table.find?_of_mem hmem, hearly r' hr'⟩
  have hnodup : ((pick holdLe 200 (db.expiredHolds now)).map Booking.id).Nodup :=
    pick_nodup (db.bookings.nodup.sublist (List.filter_sublist.map Lib.key))
  have hshort := length_add_le nodup_heldUpTo hnodup hsub hwere hended
  rwa [List.length_map, hfull] at hshort

end

/-- A pending booking whose hold ends at 900000. -/
def heldDb : Db := Tx.exec sampleDb (.createBooking 0 false (sampleRequest "a"))

/-- Another guest books before its turn in the sweep. -/
def sweptHold : List HoldLabel :=
  [.sweep 900000
    [⟨[.createBooking 900000 false { sampleRequest "b" with guestId := 2, checkIn := 110, checkOut := 112 }], 900000⟩]]

theorem completeSince_sweptHold : Guarded holdStep (CompleteSince 900000) heldDb sweptHold := by
  refine ⟨⟨le_rfl, ?_, ?_⟩, trivial⟩
  · intro turn hturn
    obtain rfl := List.mem_singleton.mp hturn
    refine ⟨le_rfl, fun t ht => ?_⟩
    obtain rfl := List.mem_singleton.mp ht
    exact le_rfl
  · rw [findExpiredHoldBookingIds_eq, List.length_map, pick]
    refine (List.length_take_le' _ _).trans ?_
    rw [List.length_mergeSort]
    decide

end HostPlatform
