-- SUMMARY: No transfer for a dead booking: if every claim finds its booking payable, and no booking dies between the claim and the transfer.
import HostPlatform.Safety.HostTransferRecord

/-!
# No transfer for a dead booking

The worker selects, claims and releases in separate steps, and only the selection looks
at the booking. The invariant is that what is on its way is payable; it holds where every
claim finds a payable booking and no booking ends in between.
-/

namespace HostPlatform

open Lib Lib.Transition

/-- The booking may still be paid out: neither cancelled, disputed nor refunded, and without
a confirmed refund. -/
def Db.payable (db : Db) (b : BookingId) : Bool :=
  (db.bookings.find? b).any (fun r => decide (r.status ∉ [.cancelled, .disputed, .refunded]))
    && !db.hasSucceededRefund b

/-- The step makes a transfer for the entitlement at Stripe. -/
def Transfers.Makes (s : Transfers) (l : TransferLabel) (b : BookingId) : Prop :=
  ∃ t ∈ (s.step l).transfers.rows, t ∉ s.transfers.rows ∧ t.hostEntitlementId = some b

/-- A release that goes on to make a transfer finds the booking payable as it does. -/
def TransfersPayableOnly (s : Transfers) (ls : List TransferLabel) : Prop :=
  ∀ pre l suf, ls = pre ++ l :: suf → ∀ b, (run Transfers.step s pre).Makes l b →
    (run Transfers.step s pre).world.db.payable b

/-- The calls that may still make a transfer. -/
def ReleasePhase.undecided : ReleasePhase → Bool
  | .listing _ | .creating _ => true
  | .failing | .recording _ => false

/-- The entitlement is on its way to its transfer: claimed, or read by a release. -/
def Transfers.releasing (s : Transfers) (e : Entitlement) : Bool :=
  (decide (e.status = .transferClaimed)
      || s.releases.rows.any fun c => decide (c.entitlementId = e.bookingId) && c.phase.undecided)
    && (transferByKey s.transfers e.bookingId).isNone

/-- A claim takes the entitlement of a payable booking, and no other step ends a booking
whose entitlement is on its way. -/
def KeepsPayable (s : Transfers) : TransferLabel → Prop
  | .claim w b =>
    ∀ worker ∈ s.workers.find? w, b ∈ worker.found → ∀ e ∈ s.world.db.entitlements.find? b,
      e.status = .entitled → s.world.db.payable b
  | .system l =>
    ∀ e ∈ s.world.db.entitlements.rows, s.releasing e → s.world.db.payable e.bookingId →
      (s.world.step l).db.payable e.bookingId
  | _ => True

instance (s : Transfers) : ∀ l, Decidable (KeepsPayable s l)
  | .claim w b =>
    inferInstanceAs (Decidable (∀ worker ∈ s.workers.find? w, b ∈ worker.found →
      ∀ e ∈ s.world.db.entitlements.find? b, e.status = .entitled → s.world.db.payable b))
  | .system l =>
    inferInstanceAs (Decidable (∀ e ∈ s.world.db.entitlements.rows, s.releasing e →
      s.world.db.payable e.bookingId → (s.world.step l).db.payable e.bookingId))
  | .setConnectAccount .. | .otherTransfer _ | .findReleaseDue .. | .workerCrash _
  | .attemptRelease .. | .release .. | .releaseCrash _ => isTrue trivial

namespace Transfers

variable {s : Transfers} {l : TransferLabel}

/-- What is on its way is payable. -/
def ReleasesPayable (s : Transfers) : Prop :=
  ∀ b e, s.world.db.entitlements.find? b = some e → s.releasing e → s.world.db.payable b

theorem releasing_iff {e : Entitlement} :
    s.releasing e ↔
      (e.status = .transferClaimed ∨
        ∃ id c, s.releases.find? id = some c ∧ c.entitlementId = e.bookingId ∧ c.phase.undecided) ∧
      transferByKey s.transfers e.bookingId = none := by
  simp only [releasing, Bool.and_eq_true, Bool.or_eq_true, decide_eq_true_eq, List.any_eq_true,
    Option.isNone_iff_eq_none]
  refine and_congr_left fun _ => or_congr_right ?_
  constructor
  · rintro ⟨c, hc, hb, hphase⟩
    exact ⟨_, c, Table.find?_of_mem hc, hb, hphase⟩
  · rintro ⟨id, c, hc, hb, hphase⟩
    exact ⟨c, Table.mem_of_find? hc, hb, hphase⟩

/-- The transfers' own steps write neither bookings nor refunds. -/
theorem payable_step (hl : ∀ l', l ≠ .system l') (b : BookingId) :
    (s.step l).world.db.payable b = s.world.db.payable b := by
  have hframe : (s.step l).world.db.bookings = s.world.db.bookings ∧
      (s.step l).world.db.refunds = s.world.db.refunds := by
    cases l with
    | system l => exact absurd rfl (hl l)
    | setConnectAccount hostId account => exact ⟨rfl, rfl⟩
    | otherTransfer destination => exact ⟨rfl, rfl⟩
    | findReleaseDue now ids => exact ⟨rfl, rfl⟩
    | workerCrash worker => exact ⟨rfl, rfl⟩
    | releaseCrash call => exact ⟨rfl, rfl⟩
    | claim worker b =>
      simp only [step]
      split
      · unfold claim
        split
        · simp only [db_setDb]
          unfold claimEntitlement
          split
          · exact ⟨rfl, rfl⟩
          · exact ⟨rfl, rfl⟩
        · exact ⟨rfl, rfl⟩
      · exact ⟨rfl, rfl⟩
    | attemptRelease enabled b =>
      simp only [step, attemptRelease]
      split
      · exact ⟨rfl, rfl⟩
      · exact ⟨rfl, rfl⟩
    | release c answer =>
      simp only [step]
      split
      · unfold stepRelease
        split
        · split
          · split
            · exact ⟨rfl, rfl⟩
            · exact ⟨rfl, rfl⟩
          · exact ⟨rfl, rfl⟩
          · exact ⟨rfl, rfl⟩
        · split
          · exact ⟨rfl, rfl⟩
          · simp only
            split
            · exact ⟨rfl, rfl⟩
            · exact ⟨rfl, rfl⟩
          · simp only
            split
            · exact ⟨rfl, rfl⟩
            · exact ⟨rfl, rfl⟩
        · exact ⟨rfl, rfl⟩
        · exact ⟨rfl, rfl⟩
      · exact ⟨rfl, rfl⟩
  unfold Db.payable Db.hasSucceededRefund
  rw [hframe.1, hframe.2]

/-- What is on its way after a step was so before, or was claimed by the step. -/
theorem releasing_step (h : s.Sound) {b : BookingId} {e' : Entitlement}
    (he' : (s.step l).world.db.entitlements.find? b = some e') (hreleasing : (s.step l).releasing e') :
    ∃ e, s.world.db.entitlements.find? b = some e ∧
      (s.releasing e ∨ e.status = .entitled ∧ ∃ worker, l = .claim worker.id b ∧
        s.workers.find? worker.id = some worker ∧ b ∈ worker.found) := by
  obtain ⟨hway, hnone⟩ := releasing_iff.mp hreleasing
  obtain rfl : e'.bookingId = b := Table.key_of_find? he'
  have hnone' : transferByKey s.transfers e'.bookingId = none := by
    rw [transferByKey_eq_none_iff] at hnone ⊢
    rintro ⟨t, ht, hb⟩
    exact hnone ⟨t, (s.stripe_step l).mem ht, hb⟩
  -- A call on the row found it claimed, or was there before.
  have hof : ∀ e, s.world.db.entitlements.find? e'.bookingId = some e →
      (e.status = .transferClaimed ∨ ∃ id c, s.releases.find? id = some c ∧
        c.entitlementId = e'.bookingId ∧ c.phase.undecided) → s.releasing e := by
    intro e he hway
    have hb : e.bookingId = e'.bookingId := Table.key_of_find? he
    rw [releasing_iff, hb]
    exact ⟨hway, hnone'⟩
  rcases hway with hclaimed | ⟨id, c', hc', hentitlement, hundecided⟩
  · rcases s.row_cases l he' with ⟨e, he, hmove⟩ | ⟨-, huntouched⟩
    · refine ⟨e, he, ?_⟩
      cases hmove with
      | same => exact .inl (hof _ he (.inl hclaimed))
      | claimed worker hl hworker hfound hentitled => exact .inr ⟨hentitled, worker, hl, hworker, hfound⟩
      | failed call answer hl hcall hentitlement hphase => cases hclaimed
      | created call answer transferId hl hcall hentitlement hphase => cases hclaimed
    · rw [huntouched.1] at hclaimed
      cases hclaimed
  · have hold : ∀ id c, s.releases.find? id = some c → c.entitlementId = e'.bookingId → c.phase.undecided →
        ∃ e, s.world.db.entitlements.find? e'.bookingId = some e ∧ s.releasing e := by
      intro id c hc hb hphase
      obtain ⟨e, he⟩ := h.called id c hc
      rw [hb] at he
      exact ⟨e, he, hof e he (.inr ⟨id, c, hc, hb, hphase⟩)⟩
    have hbefore : ∃ e, s.world.db.entitlements.find? e'.bookingId = some e ∧ s.releasing e := by
      cases s.call_step l hc' with
      | same _ hcall => exact hold _ c' hcall hentitlement hundecided
      | read id enabled b params hl hread =>
        obtain ⟨-, e, he, hclaimed, -⟩ := releaseParams_eq_ok hread
        rw [show b = e'.bookingId from hentitlement] at he
        exact ⟨e, he, hof e he (.inl hclaimed)⟩
      | listed call params t hcall hphase hlisted => cases hundecided
      | unlisted call params hcall hphase => exact hold _ call hcall hentitlement (by rw [hphase]; rfl)
      | created call params transferId hcall hphase hcreated => cases hundecided
      | failed call params hcall hphase => cases hundecided
    obtain ⟨e, he, hreleasing⟩ := hbefore
    exact ⟨e, he, .inl hreleasing⟩

theorem ReleasesPayable.step (h : s.ReleasesPayable) (hsound : s.Sound) (hg : KeepsPayable s l) :
    (s.step l).ReleasesPayable := by
  intro b e' he' hreleasing
  obtain ⟨e, he, hbefore | ⟨hentitled, worker, rfl, hworker, hfound⟩⟩ := releasing_step hsound he' hreleasing
  · by_cases hl : ∃ l', l = .system l'
    · obtain ⟨l', rfl⟩ := hl
      have hb : e.bookingId = b := Table.key_of_find? he
      have hkept := hg e (Table.mem_of_find? he) hbefore
      rw [hb] at hkept
      exact hkept (h b e he hbefore)
    · rw [payable_step fun l' hl' => hl ⟨l', hl'⟩]
      exact h b e he hbefore
  · rw [payable_step (by intro l' hl; cases hl)]
    exact hg worker hworker hfound e he hentitled

/-- A transfer is made for an entitlement on its way. -/
theorem payable_of_makes (h : s.ReleasesPayable) (hsound : s.Sound) {b : BookingId} (hmakes : s.Makes l b) :
    s.world.db.payable b := by
  obtain ⟨t, ht, hnew, hb⟩ := hmakes
  rcases (s.stripe_step l).cases_mem ht hb with
    hold | ⟨call, answer, params, -, hcall, hphase, -, hparams, hnone, -⟩
  · exact absurd hold hnew
  · have hentitlement : call.entitlementId = b :=
      (hsound.params _ call params hcall (.inr hphase)).symm.trans hparams
    obtain ⟨e, he⟩ := hsound.called _ call hcall
    rw [hentitlement] at he
    obtain rfl : e.bookingId = b := Table.key_of_find? he
    refine h _ e he (releasing_iff.mpr ⟨.inr ⟨_, call, hcall, hentitlement, ?_⟩, hnone⟩)
    rw [hphase]
    rfl

end Transfers

/-- From a system in which no transfer was tried yet, a run under the condition transfers
for payable bookings only. -/
theorem transfersPayableOnly_run {w : World} (hstart : ∀ e ∈ w.db.entitlements.rows, e.Untouched)
    {ls : List TransferLabel} (hg : Guarded Transfers.step KeepsPayable (.start w) ls) :
    TransfersPayableOnly (.start w) ls := by
  rintro pre l suf rfl b hmakes
  have hzero : (Transfers.start w).ReleasesPayable := by
    intro b e he hreleasing
    have huntouched := hstart e (Table.mem_of_find? he)
    rcases (Transfers.releasing_iff.mp hreleasing).1 with hclaimed | ⟨id, c, hc, -⟩
    · rw [huntouched.1] at hclaimed
      cases hclaimed
    · cases Table.mem_of_find? hc
  have hinv := run_invariant (I := fun s => s.Sound ∧ s.ReleasesPayable)
    (fun s l h hl => ⟨h.1.step l, h.2.step h.1 hl⟩) ⟨.start hstart, hzero⟩ (guarded_append.mp hg).1
  exact Transfers.payable_of_makes hinv.2 hinv.1 hmakes

def cancelAsHost : Label :=
  .cancelBookingAndRefund (startOfDay 101) ⟨1, .host⟩

/-- The booking is cancelled once its host is paid. -/
def cancelledAfterRelease : List TransferLabel := releasedOnce ++ [.system cancelAsHost]

theorem cancelledAfterRelease_payableOnly : TransfersPayableOnly (.start entitledWorld) cancelledAfterRelease :=
  transfersPayableOnly_run (by decide) (by decide)

/-- The booking is cancelled between the find and the claim. -/
def cancelledBeforeClaim : List TransferLabel :=
  [ .findReleaseDue (startOfDay 101) [1],
    .system cancelAsHost,
    .claim 1 1,
    .attemptRelease true 1,
    .release 1 .answered,
    .release 1 .answered ]

theorem cancelledBeforeClaim_transferred :
    ¬ TransfersPayableOnly (.start entitledWorld) cancelledBeforeClaim := by
  intro h
  have hpayable := h (cancelledBeforeClaim.take 5) (.release 1 .answered) [] rfl 1
    ⟨_, List.mem_singleton.mpr rfl, List.not_mem_nil, by decide⟩
  exact absurd hpayable (by decide)

end HostPlatform
