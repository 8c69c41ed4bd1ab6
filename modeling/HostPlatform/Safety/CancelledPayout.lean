-- SUMMARY: A cancelled payout is never paid out: exactly if every update of the sweep finds its row as the selection did, not cancelled and without an open dispute.
import HostPlatform.PayoutSweeps
import HostPlatform.Safety.LegacyCheckout

namespace HostPlatform

open Lib Lib.Transition

def PayoutSweeps.payoutStatus (s : PayoutSweeps) (id : Nat) : Option PayoutStatus :=
  (s.world.db.payouts.find? id).map Payout.status

/-- No payout is paid out once it is cancelled, or while its booking is disputed. -/
structure NeverPaidOut (s : PayoutSweeps) (ls : List PayoutLabel) : Prop where
  cancelled : ∀ pre mid suf, ls = pre ++ mid ++ suf → ∀ id,
    (run PayoutSweeps.step s pre).payoutStatus id = some .cancelled →
      (run PayoutSweeps.step s (pre ++ mid)).payoutStatus id ≠ some .paid ∧
      (run PayoutSweeps.step s (pre ++ mid)).payoutStatus id ≠ some .failed
  disputed : ∀ pre l suf, ls = pre ++ l :: suf → ∀ id p,
    (run PayoutSweeps.step s pre).world.db.payouts.find? id = some p → p.status ≠ .paid →
      (run PayoutSweeps.step s (pre ++ [l])).payoutStatus id = some .paid →
        ¬ (run PayoutSweeps.step s pre).world.db.hasOpenDispute p.bookingId

/-- An update the sweep executes finds its row not cancelled, and one that pays finds no
open dispute, unless another sweep has paid the row already. -/
def UpdatesReleasable (s : PayoutSweeps) : PayoutLabel → Prop
  | .sweep c answer =>
    answer.executed → ∀ call ∈ s.sweeps.find? c, ∀ row ∈ call.due.head?,
      ∀ p ∈ s.world.db.payouts.find? row.id,
        (call.phase ≠ .ledger → p.status ≠ .cancelled) ∧
        (call.phase = .payout → p.status = .paid ∨ ¬ s.world.db.hasOpenDispute p.bookingId)
  | _ => True

instance (s : PayoutSweeps) : ∀ l, Decidable (UpdatesReleasable s l)
  | .sweep c answer =>
    inferInstanceAs (Decidable (answer.executed → ∀ call ∈ s.sweeps.find? c, ∀ row ∈ call.due.head?,
      ∀ p ∈ s.world.db.payouts.find? row.id,
        (call.phase ≠ .ledger → p.status ≠ .cancelled) ∧
        (call.phase = .payout → p.status = .paid ∨ ¬ s.world.db.hasOpenDispute p.bookingId)))
  | .system _ | .startSweep .. | .sweepCrash _ | .startDispute _ | .dispute .. => isTrue trivial

/-! ## The condition, read at one write -/

/-- What the condition says of a payout the step writes. -/
theorem UpdatesReleasable.of_writes {s : PayoutSweeps} {l : PayoutLabel} (h : UpdatesReleasable s l)
    {id : Nat} {status : PayoutStatus} (hwrites : s.Writes l id status) {p : Payout}
    (hp : s.world.db.payouts.find? id = some p) :
    p.status ≠ .cancelled ∧
      (status = .paid → p.status = .paid ∨ ¬ s.world.db.hasOpenDispute p.bookingId) := by
  cases hwrites with
  | @paid call row rest answer hcall hdue hphase hexecuted =>
    have hrow := h hexecuted call hcall row (by rw [hdue]; rfl) p hp
    exact ⟨hrow.1 (by rw [hphase]; nofun), fun _ => hrow.2 hphase⟩
  | @failed call row rest answer hcall hdue hphase hexecuted =>
    have hrow := h hexecuted call hcall row (by rw [hdue]; rfl) p hp
    exact ⟨hrow.1 (by rw [hphase]; nofun), nofun⟩

/-- The condition holds if every payout the step writes may be written. -/
theorem updatesReleasable_of {s : PayoutSweeps} {l : PayoutLabel}
    (h : ∀ id status p, s.Writes l id status → s.world.db.payouts.find? id = some p →
      p.status ≠ .cancelled ∧
        (status = .paid → p.status = .paid ∨ ¬ s.world.db.hasOpenDispute p.bookingId)) :
    UpdatesReleasable s l := by
  cases l with
  | sweep c answer =>
    intro hexecuted call hcall row hrow p hp
    obtain rfl : call.id = c := Table.key_of_find? hcall
    obtain ⟨rest, hdue⟩ := List.head?_eq_some_iff.mp hrow
    cases hphase : call.phase with
    | payout =>
      have hpaid := h row.id .paid p (.paid hcall hdue hphase hexecuted) hp
      exact ⟨fun _ => hpaid.1, fun _ => hpaid.2 rfl⟩
    | failure =>
      have hfailed := h row.id .failed p (.failed hcall hdue hphase hexecuted) hp
      exact ⟨fun _ => hfailed.1, nofun⟩
    | ledger => exact ⟨fun hne => absurd rfl hne, nofun⟩
  | system l => trivial
  | startSweep now ids => trivial
  | sweepCrash c => trivial
  | startDispute dispute => trivial
  | dispute c answer => trivial

/-! ## Steps and runs -/

/-- A step under the condition leaves a cancelled payout cancelled. -/
theorem PayoutSweeps.cancelled_step {s : PayoutSweeps} {l : PayoutLabel} (h : UpdatesReleasable s l)
    {id : Nat} (hcancelled : s.payoutStatus id = some .cancelled) :
    (s.step l).payoutStatus id = some .cancelled := by
  obtain ⟨p, hp, hstatus⟩ := Option.map_eq_some_iff.mp hcancelled
  obtain ⟨p', hp', hkept | ⟨-, hwrites⟩⟩ := s.payout_step l hp
  · unfold PayoutSweeps.payoutStatus
    rw [hp', Option.map_some]
    rcases hkept.status with hsame | ⟨hscheduled, -⟩
    · rw [hsame, hstatus]
    · rw [hstatus] at hscheduled
      cases hscheduled
  · exact absurd hstatus (h.of_writes hwrites hp).1

/-- A payout that becomes paid over a step was written by it. -/
theorem PayoutSweeps.writes_of_paid {s : PayoutSweeps} {l : PayoutLabel} {id : Nat} {p : Payout}
    (hp : s.world.db.payouts.find? id = some p) (hunpaid : p.status ≠ .paid)
    (hpaid : (s.step l).payoutStatus id = some .paid) : s.Writes l id .paid := by
  obtain ⟨p', hp', hstep⟩ := s.payout_step l hp
  obtain ⟨p'', hp'', hstatus⟩ := Option.map_eq_some_iff.mp hpaid
  rw [hp'] at hp''
  cases hp''
  rcases hstep with hkept | ⟨-, hwrites⟩
  · rcases hkept.status with hsame | ⟨-, hcancelled⟩
    · exact absurd (hsame.symm.trans hstatus) hunpaid
    · rw [hstatus] at hcancelled
      cases hcancelled
  · rw [hstatus] at hwrites
    exact hwrites

theorem PayoutSweeps.Writes.payoutStatus {s : PayoutSweeps} {l : PayoutLabel} {id : Nat}
    {status : PayoutStatus} (h : s.Writes l id status) {p : Payout}
    (hp : s.world.db.payouts.find? id = some p) : (s.step l).payoutStatus id = some status := by
  unfold PayoutSweeps.payoutStatus
  rw [h.find?, hp]
  rfl

theorem PayoutSweeps.Writes.paid_or_failed {s : PayoutSweeps} {l : PayoutLabel} {id : Nat}
    {status : PayoutStatus} (h : s.Writes l id status) : status = .paid ∨ status = .failed := by
  cases h with
  | paid => exact .inl rfl
  | failed => exact .inr rfl

/-- From any database, a run pays out no cancelled and no disputed payout exactly if the
condition holds at each of its steps. -/
theorem neverPaidOut_iff (db : Db) (ls : List PayoutLabel) :
    NeverPaidOut (.start db) ls ↔ Guarded PayoutSweeps.step UpdatesReleasable (.start db) ls := by
  constructor
  · intro h
    refine guarded_iff.mpr fun pre l suf hls => updatesReleasable_of fun id status p hwrites hp => ?_
    have hwritten : (run PayoutSweeps.step (.start db) (pre ++ [l])).payoutStatus id = some status := by
      rw [run_concat]
      exact hwrites.payoutStatus hp
    constructor
    · intro hcancelled
      have hstatus : (run PayoutSweeps.step (.start db) pre).payoutStatus id = some .cancelled := by
        unfold PayoutSweeps.payoutStatus
        rw [hp, Option.map_some, hcancelled]
      obtain ⟨hnotPaid, hnotFailed⟩ := h.cancelled pre [l] suf (by rw [hls]; simp) id hstatus
      rcases hwrites.paid_or_failed with rfl | rfl
      · exact hnotPaid hwritten
      · exact hnotFailed hwritten
    · rintro rfl
      by_cases hpaid : p.status = .paid
      · exact .inl hpaid
      · exact .inr (h.disputed pre l suf hls id p hp hpaid hwritten)
  · intro hg
    constructor
    · rintro pre mid suf rfl id hcancelled
      have hmid := (guarded_append.mp (guarded_append.mp hg).1).2
      have hstays : (run PayoutSweeps.step (.start db) (pre ++ mid)).payoutStatus id = some .cancelled := by
        rw [run_append]
        exact run_invariant (I := fun s => s.payoutStatus id = some .cancelled)
          (fun s l hs hl => PayoutSweeps.cancelled_step hl hs) hcancelled hmid
      rw [hstays]
      exact ⟨nofun, nofun⟩
    · intro pre l suf hls id p hp hunpaid hpaid
      rw [run_concat] at hpaid
      have hwrites := PayoutSweeps.writes_of_paid hp hunpaid hpaid
      have hrow := (guarded_iff.mp hg pre l suf hls).of_writes hwrites hp
      exact (hrow.2 rfl).resolve_left hunpaid

/-! ## A dispute between the selection and the update -/

/-- A paid legacy booking, whose payout the sweep has selected. -/
def payoutSelected : List PayoutLabel :=
  checkedOutOnce.map .system ++ [.startSweep (startOfDay 101) [1]]

/-- The dispute opens, and cancels the payout, before the sweep gets to its row. -/
def disputedBeforePayout : List PayoutLabel :=
  payoutSelected ++
    [ .system (.disputeCreated ⟨1, some 1, "fraudulent", "needs_response", 20000, none⟩),
      .sweep 1 .done ]

theorem disputedBeforePayout_paidOut : ¬ NeverPaidOut (.start sampleDb) disputedBeforePayout := by
  intro h
  have hunpaid := h.cancelled (disputedBeforePayout.take 10) [.sweep 1 .done] [] rfl 1 (by decide)
  exact hunpaid.1 (by decide)

end HostPlatform
