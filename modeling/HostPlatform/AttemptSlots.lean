-- SUMMARY: What any step of the system can do to attempts, and that each attempt has a slot of its own.
import HostPlatform.ChargeLinks

namespace HostPlatform

open Lib (Table)

/-! ## Attempts -/

theorem claimAttempt_rowwise (db : Db) (now : Int) (token : Nat) (latest : PaymentAttempt) :
    Table.Rowwise PaymentAttempt.Kept db.paymentAttempts
      (claimAttempt db now token latest).paymentAttempts :=
  .modify .refl (by intro a; rfl) fun _ _ => ⟨⟨rfl, rfl, rfl⟩, id⟩

/-- An outcome is recorded for an attempt that has not succeeded. -/
theorem recordChargeOutcome_rowwise (now : Int) (b : BookingId) (attemptId : AttemptId)
    (claimToken : Nat) (status : AttemptStatus) (details : OutcomeDetails) (db : Db) :
    Table.Rowwise PaymentAttempt.Kept db.paymentAttempts
      (recordChargeOutcome now b attemptId claimToken status details db).2.paymentAttempts := by
  unfold recordChargeOutcome
  split
  · rename_i hrecordable
    have hmodify : Table.Rowwise PaymentAttempt.Kept db.paymentAttempts
        (db.paymentAttempts.modify attemptId fun a =>
          { a with
            status := status
            providerPaymentIntentId := details.providerPaymentIntentId.or a.providerPaymentIntentId
            failureCode := details.failureCode
            failureMessage := details.failureMessage
            claimToken := none
            leaseExpiresAt := none }) := by
      refine .modify .refl (by intro a; rfl) fun a ha => ⟨⟨rfl, rfl, rfl⟩, fun hsucceeded => ?_⟩
      unfold recordable at hrecordable
      rw [ha] at hrecordable
      exact absurd hsucceeded (of_decide_eq_true hrecordable).2
    simp only
    split
    · split
      · exact hmodify
      · exact hmodify
    · split
      · exact hmodify
      · exact hmodify
  · exact .refl .refl _

theorem markAttemptSucceeded_rowwise (db : Db) (attemptId : Option AttemptId) (i : PaymentIntentId) :
    Table.Rowwise PaymentAttempt.Kept db.paymentAttempts
      (markAttemptSucceeded db attemptId i).paymentAttempts := by
  unfold markAttemptSucceeded
  split
  · exact .refl .refl _
  · exact .modify .refl (by intro a; rfl) fun _ _ => ⟨⟨rfl, rfl, rfl⟩, fun _ => rfl⟩

/-- The call decides to charge under a new attempt. -/
def Reserves (w : World) (l : Label) (c : ChargeCall) : Prop :=
  ∃ now claim, Decides w l now c ∧ (w.decision now c).1 = .charge claim ∧
    (w.db.latestAttempt c.bookingId).filter PaymentAttempt.reusable = none

theorem Decides.unique {w : World} {l : Label} {now now' : Int} {c c' : ChargeCall}
    (h : Decides w l now c) (h' : Decides w l now' c') : now = now' ∧ c = c' := by
  obtain ⟨call, answer, rfl, hc, -⟩ := h
  obtain ⟨call', answer', hl, hc', -⟩ := h'
  cases hl
  rw [hc] at hc'
  exact ⟨rfl, Option.some.inj hc'⟩

theorem Decides.attempts {w : World} {l : Label} {now : Int} {c : ChargeCall} {claim : ChargeClaim}
    (h : Decides w l now c) (hclaim : (w.decision now c).1 = .charge claim) :
    (w.step l).db.paymentAttempts = (w.decision now c).2.paymentAttempts := by
  obtain ⟨call, answer, rfl, hc, hphase⟩ := h
  simp only [World.step, hc, World.stepCharge, hphase]
  have hclaim' : (decideCharge now w.nextToken c.bookingId c.amountMinor c.currency w.db).1 =
    .charge claim := hclaim
  rw [hclaim']
  rfl

/-- Attempts keep their slots, and a reservation adds the next one of its booking. -/
theorem Reserves.attempts {w : World} {l : Label} {c : ChargeCall} (h : Reserves w l c) :
    ∃ row : PaymentAttempt, row.bookingId = c.bookingId ∧
      row.attemptNumber = w.db.maxAttemptNumber c.bookingId + 1 ∧
      row.idempotencyKey = ⟨c.bookingId, w.db.maxAttemptNumber c.bookingId + 1⟩ ∧ row.status = .pending ∧
      (w.step l).db.paymentAttempts.rows = w.db.paymentAttempts.rows ++ [row] := by
  obtain ⟨now, claim, hdecides, hclaim, hnone⟩ := h
  obtain ⟨-, -, -, ⟨latest, hlatest, hreusable, -⟩ | ⟨-, -, -, hdb⟩⟩ := decideCharge_eq_charge hclaim
  · rw [hlatest, Option.filter_some, if_pos hreusable] at hnone
    cases hnone
  · obtain ⟨row, hb, hnumber, hkey, hpending, hrows⟩ :=
      reserveAttempt_attempts w.db now w.nextToken c.bookingId c.amountMinor c.currency
    refine ⟨row, hb, hnumber, hkey, hpending, ?_⟩
    rw [hdecides.attempts hclaim, ← hrows]
    exact congrArg (fun db => db.paymentAttempts.rows) hdb

theorem attempts_kept {w : World} {l : Label} (h : ∀ c, ¬ Reserves w l c) :
    Table.Rowwise PaymentAttempt.Kept w.db.paymentAttempts (w.step l).db.paymentAttempts := by
  have hsame : (w.step l).chargeView.attempts = w.db.paymentAttempts → Table.Rowwise
      PaymentAttempt.Kept w.db.paymentAttempts (w.step l).db.paymentAttempts := by
    intro hview
    rw [show (w.step l).db.paymentAttempts = _ from hview]
    exact .refl .refl _
  cases w.chargeStep l with
  | frame hview => exact hsame (by rw [hview]; rfl)
  | started b pc hstarts hview => exact hsame (by rw [hview]; rfl)
  | ended call hview => exact hsame (by rw [hview]; rfl)
  | decided now call claim hdecides hcall hdecision hview =>
    obtain ⟨-, -, -, ⟨latest, -, -, -, -, hdb⟩ | ⟨hnone, -⟩⟩ := decideCharge_eq_charge hdecision
    · rw [hdecides.attempts hdecision]
      unfold World.decision
      rw [hdb]
      exact claimAttempt_rowwise _ _ _ _
    · exact absurd ⟨now, claim, hdecides, hdecision, hnone⟩ (h call)
  | answered call claim status details hcall hphase hview => exact hsame (by rw [hview]; rfl)
  | charged call claim intentStatus status details hcall hphase hkey hview =>
    exact hsame (by rw [hview]; rfl)
  | recorded now call claim status details hcall hphase hview =>
    rw [show (w.step l).db.paymentAttempts = _ from congrArg Charges.attempts hview]
    exact recordChargeOutcome_rowwise _ _ _ _ _ _ _
  | marked attemptId i hview =>
    rw [show (w.step l).db.paymentAttempts = _ from congrArg Charges.attempts hview]
    exact markAttemptSucceeded_rowwise _ _ _
  | checkout params hflow hview => exact hsame (by rw [hview]; rfl)
  | moved i status hfind hmove hview => exact hsame (by rw [hview]; rfl)

theorem attempts_rowwise {w : World} {l : Label} (h : ∀ c, ¬ Reserves w l c) :
    Table.Rowwise PaymentAttempt.SameSlot w.db.paymentAttempts (w.step l).db.paymentAttempts :=
  (attempts_kept h).mono fun _ _ hkept => hkept.toSameSlot

/-- An attempt keeps its slot over any step. -/
theorem attempt_stays {w : World} (l : Label) {a : PaymentAttempt}
    (ha : a ∈ w.db.paymentAttempts.rows) : ∃ a' ∈ (w.step l).db.paymentAttempts.rows, a.SameSlot a' := by
  by_cases h : ∃ c, Reserves w l c
  · obtain ⟨c, hc⟩ := h
    obtain ⟨row, -, -, -, -, hrows⟩ := hc.attempts
    rw [hrows]
    exact ⟨a, List.mem_append_left _ ha, .refl a⟩
  · obtain ⟨a', ha', hslot⟩ := (attempts_rowwise fun c hc => h ⟨c, hc⟩).of_find? (Table.find?_of_mem ha)
    exact ⟨a', Table.mem_of_find? ha', hslot⟩

/-! ## Slots -/

/-- Attempts are updated where they are, without losing a success, or one is added
in a slot of its own. -/
inductive Db.AttemptsGrow (db db' : Db) : Prop
  | updated (h : Table.Rowwise PaymentAttempt.Kept db.paymentAttempts db'.paymentAttempts)
  | inserted (row : PaymentAttempt)
      (hkey : row.idempotencyKey = ⟨row.bookingId, row.attemptNumber⟩)
      (hfree : ∀ a ∈ db.paymentAttempts.rows, a.bookingId = row.bookingId →
        a.attemptNumber ≠ row.attemptNumber)
      (hrows : db'.paymentAttempts.rows = db.paymentAttempts.rows ++ [row])

theorem Db.AttemptsGrow.of_eq {db db' : Db} (h : db'.paymentAttempts = db.paymentAttempts) :
    db.AttemptsGrow db' := by
  refine .updated ?_
  rw [h]
  exact .refl .refl _

theorem World.attemptsGrow_step (w : World) (l : Label) : w.db.AttemptsGrow (w.step l).db := by
  by_cases h : ∃ c, Reserves w l c
  · obtain ⟨c, hc⟩ := h
    obtain ⟨row, hb, hnumber, hkey, -, hrows⟩ := hc.attempts
    refine .inserted row (by rw [hkey, hb, hnumber]) (fun a ha hsame => ?_) hrows
    have hle := Db.maxAttemptNumber_le_iff.mp le_rfl a ha (hsame.trans hb)
    omega
  · exact .updated (attempts_kept fun c hc => h ⟨c, hc⟩)

/-- Keys name their slots, and no slot is taken twice. -/
structure Db.SlotsTaken (db : Db) : Prop where
  key : ∀ a ∈ db.paymentAttempts.rows, a.idempotencyKey = ⟨a.bookingId, a.attemptNumber⟩
  number : ∀ a ∈ db.paymentAttempts.rows, ∀ a' ∈ db.paymentAttempts.rows, a.bookingId = a'.bookingId →
    a.attemptNumber = a'.attemptNumber → a = a'

theorem Db.SlotsTaken.of_empty {db : Db} (h : db.paymentAttempts.rows = []) : db.SlotsTaken := by
  constructor
  case key =>
    intro a ha
    rw [h] at ha
    cases ha
  case number =>
    intro a ha
    rw [h] at ha
    cases ha

theorem Db.SlotsTaken.rowwise {db db' : Db} (h : db.SlotsTaken)
    (hrowwise : Table.Rowwise PaymentAttempt.SameSlot db.paymentAttempts db'.paymentAttempts) :
    db'.SlotsTaken := by
  constructor
  case key =>
    intro a ha
    obtain ⟨a₀, ha₀, hslot⟩ := hrowwise.to_find? (Table.find?_of_mem ha)
    rw [hslot.idempotencyKey, hslot.bookingId, hslot.attemptNumber]
    exact h.key a₀ (Table.mem_of_find? ha₀)
  case number =>
    intro a ha a' ha' hb hnumber
    obtain ⟨a₀, ha₀, hslot⟩ := hrowwise.to_find? (Table.find?_of_mem ha)
    obtain ⟨a₁, ha₁, hslot'⟩ := hrowwise.to_find? (Table.find?_of_mem ha')
    rw [hslot.bookingId, hslot'.bookingId] at hb
    rw [hslot.attemptNumber, hslot'.attemptNumber] at hnumber
    have hsame := h.number a₀ (Table.mem_of_find? ha₀) a₁ (Table.mem_of_find? ha₁) hb hnumber
    apply Table.key_inj ha ha'
    rw [← Table.key_of_find? ha₀, ← Table.key_of_find? ha₁, hsame]

theorem Db.SlotsTaken.grow {db db' : Db} (h : db.SlotsTaken) (hgrow : db.AttemptsGrow db') :
    db'.SlotsTaken := by
  cases hgrow with
  | updated hrowwise => exact h.rowwise (hrowwise.mono fun _ _ hkept => hkept.toSameSlot)
  | inserted row hkey hfree hrows =>
    constructor
    case key =>
      intro a ha
      rw [hrows] at ha
      rcases List.mem_append.mp ha with hold | hnew
      · exact h.key a hold
      · rw [List.mem_singleton.mp hnew]
        exact hkey
    case number =>
      intro a ha a' ha' hb hnumber
      rw [hrows] at ha ha'
      rcases List.mem_append.mp ha with hold | hnew
      · rcases List.mem_append.mp ha' with hold' | hnew'
        · exact h.number a hold a' hold' hb hnumber
        · rw [List.mem_singleton.mp hnew'] at hb hnumber
          exact absurd hnumber (hfree a hold hb)
      · rcases List.mem_append.mp ha' with hold' | hnew'
        · rw [List.mem_singleton.mp hnew] at hb hnumber
          exact absurd hnumber.symm (hfree a' hold' hb.symm)
        · rw [List.mem_singleton.mp hnew, List.mem_singleton.mp hnew']

end HostPlatform
