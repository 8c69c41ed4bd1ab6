-- SUMMARY: The system with the payout sweep: calls of `releaseDuePayouts`, one statement at a time, among everything else that runs.
import HostPlatform.Payouts.ReleasePayouts
import HostPlatform.WorldDb

/-!
# Payout sweeps

No route calls `releaseDuePayouts` yet, so the system of `World` has no such calls.
Here they run beside it, any number at once. Each statement of a sweep commits on its
own and may fail, or commit with its answer lost; the `catch` branch runs after either.
The handler of `charge.dispute.created` has no transaction: its statements are also
taken one by one, besides the label of `World` that takes them together.
-/

namespace HostPlatform

open Lib (Keyed Table)

/-- How a statement ends: `lost` is one that commits without its answer arriving. -/
inductive StatementAnswer where
  | done | lost | failed
  deriving DecidableEq, Repr

def StatementAnswer.executed : StatementAnswer → Bool
  | .failed => false
  | .done | .lost => true

/-! ## Calls in progress -/

/-- The statement of the loop body a sweep is at. -/
inductive SweepPhase where
  | payout | ledger | failure
  deriving DecidableEq, Repr

/-- `due` are the rows not finished yet, the current one first. -/
structure SweepCall where
  id : Nat
  due : List DuePayout
  phase : SweepPhase
  deriving DecidableEq, Repr

/-- The statement a dispute handler is at. -/
inductive DisputePhase where
  | dispute | booking | payouts
  deriving DecidableEq, Repr

structure DisputeCall where
  id : Nat
  dispute : DisputeObject
  payment : Payment
  phase : DisputePhase
  deriving DecidableEq, Repr

instance : Keyed SweepCall := ⟨SweepCall.id⟩
instance : Keyed DisputeCall := ⟨DisputeCall.id⟩

structure PayoutSweeps where
  world : World
  sweeps : Table SweepCall
  disputeCalls : Table DisputeCall

def PayoutSweeps.start (db : Db) : PayoutSweeps := ⟨.start db, .empty, .empty⟩

inductive PayoutLabel where
  | system (l : Label)
  | startSweep (now : Int) (ids : List Nat)
  | sweep (call : Nat) (answer : StatementAnswer)
  | sweepCrash (call : Nat)
  | startDispute (dispute : DisputeObject)
  | dispute (call : Nat) (answer : StatementAnswer)

/-! ## Steps -/

/-- The first statement of `onDisputeCreated`. -/
def insertDispute (db : Db) (dispute : DisputeObject) (b : BookingId) : Db :=
  { db with
    disputes := db.disputes ++ [
      { bookingId := b
        paymentId := b
        providerDisputeId := dispute.id
        reason := dispute.reason
        status := dispute.status
        amountMinor := dispute.amount
        evidenceDueBy := dispute.evidenceDueBy }] }

def disputeStatement (db : Db) (call : DisputeCall) : Db :=
  match call.phase with
  | .dispute => insertDispute db call.dispute call.payment.bookingId
  | .booking => db.setBookingStatus call.payment.bookingId .disputed
  | .payouts => cancelScheduledPayouts db call.payment.bookingId

/-- The statements, run without anything in between, are the handler. -/
theorem onDisputeCreated_statements {dispute : DisputeObject} {db : Db} {payment : Payment}
    (h : dispute.paymentIntent.bind db.paymentByIntent = some payment) (id : Nat) :
    onDisputeCreated dispute db =
      disputeStatement (disputeStatement (disputeStatement db ⟨id, dispute, payment, .dispute⟩)
        ⟨id, dispute, payment, .booking⟩) ⟨id, dispute, payment, .payouts⟩ := by
  unfold onDisputeCreated
  rw [h]
  rfl

namespace PayoutSweeps

def setDb (s : PayoutSweeps) (db : Db) : PayoutSweeps := { s with world := { s.world with db := db } }

def endSweep (s : PayoutSweeps) (call : SweepCall) : PayoutSweeps :=
  { s with sweeps := s.sweeps.deleteWhere fun c => c.id == call.id }

def setSweep (s : PayoutSweeps) (call : SweepCall) (due : List DuePayout) (phase : SweepPhase) :
    PayoutSweeps :=
  { s with sweeps := s.sweeps.modify call.id fun c => { c with due := due, phase := phase } }

/-- What the statement at `phase` does for the current row. -/
def sweepStatement (db : Db) (row : DuePayout) : SweepPhase → Db
  | .payout => setPayoutStatus db row.id .paid
  | .ledger => payHostLedger db row.bookingId
  | .failure => setPayoutStatus db row.id .failed

/-- Where the call is after the statement. An error outside the `try` ends it. -/
def continueSweep (s : PayoutSweeps) (call : SweepCall) (rest : List DuePayout)
    (answer : StatementAnswer) : PayoutSweeps :=
  match call.phase, answer with
  | .payout, .done => s.setSweep call call.due .ledger
  | .ledger, .done | .failure, .done => s.setSweep call rest .payout
  | .payout, _ | .ledger, _ => s.setSweep call call.due .failure
  | .failure, _ => s.endSweep call

/-- One statement of `releaseDuePayouts`. -/
def stepSweep (s : PayoutSweeps) (call : SweepCall) (answer : StatementAnswer) : PayoutSweeps :=
  match call.due with
  | [] => s.endSweep call
  | row :: rest =>
    (s.continueSweep call rest answer).setDb
      (if answer.executed then sweepStatement s.world.db row call.phase else s.world.db)

def startDispute (s : PayoutSweeps) (dispute : DisputeObject) : PayoutSweeps :=
  match dispute.paymentIntent.bind s.world.db.paymentByIntent with
  | none => s
  | some payment =>
    { s with disputeCalls := s.disputeCalls.insertNew fun id => ⟨id, dispute, payment, .dispute⟩ }

/-- Where the handler is after the statement. An error ends it. -/
def continueDispute (s : PayoutSweeps) (call : DisputeCall) (answer : StatementAnswer) : PayoutSweeps :=
  let ended := { s with disputeCalls := s.disputeCalls.deleteWhere fun c => c.id == call.id }
  let next (phase : DisputePhase) : PayoutSweeps :=
    { s with disputeCalls := s.disputeCalls.modify call.id fun c => { c with phase := phase } }
  match call.phase, answer with
  | .dispute, .done => next .booking
  | .booking, .done => next .payouts
  | _, _ => ended

def stepDispute (s : PayoutSweeps) (call : DisputeCall) (answer : StatementAnswer) : PayoutSweeps :=
  (s.continueDispute call answer).setDb
    (if answer.executed then disputeStatement s.world.db call else s.world.db)

def step (s : PayoutSweeps) : PayoutLabel → PayoutSweeps
  | .system l => { s with world := s.world.step l }
  | .startSweep now ids =>
    { s with
      sweeps := s.sweeps.insertNew fun id => ⟨id, findDuePayouts s.world.db now ids, .payout⟩ }
  | .sweep call answer =>
    match s.sweeps.find? call with
    | some c => s.stepSweep c answer
    | none => s
  | .sweepCrash call => { s with sweeps := s.sweeps.deleteWhere fun c => c.id == call }
  | .startDispute dispute => s.startDispute dispute
  | .dispute call answer =>
    match s.disputeCalls.find? call with
    | some c => s.stepDispute c answer
    | none => s

end PayoutSweeps

/-! ## What a payout row can become -/

/-- What the rest of the program does to a payout: the row stays with its booking, and
its status stays or goes from scheduled to cancelled. -/
structure Payout.Kept (p p' : Payout) : Prop where
  booking : p'.bookingId = p.bookingId
  status : p'.status = p.status ∨ p.status = .scheduled ∧ p'.status = .cancelled

theorem Payout.Kept.refl (p : Payout) : p.Kept p := ⟨rfl, .inl rfl⟩

/-- Every payout stays. -/
def Db.PayoutsKept (db db' : Db) : Prop :=
  ∀ id p, db.payouts.find? id = some p → ∃ p', db'.payouts.find? id = some p' ∧ p.Kept p'

theorem Db.PayoutsKept.of_eq {db db' : Db} (h : db'.payouts = db.payouts) : db.PayoutsKept db' := by
  intro id p hp
  rw [h]
  exact ⟨p, hp, .refl p⟩

theorem Db.PayoutsKept.of_rowwise {db db' : Db}
    (h : Table.Rowwise Payout.Kept db.payouts db'.payouts) : db.PayoutsKept db' :=
  fun _ _ hp => h.of_find? hp

theorem cancelScheduledPayouts_kept (db : Db) (b : BookingId) :
    Table.Rowwise Payout.Kept db.payouts (cancelScheduledPayouts db b).payouts := by
  refine Table.Rowwise.updateWhere Payout.Kept.refl (by intro p; rfl) fun p _ hscheduled => ⟨rfl, .inr ⟨?_, rfl⟩⟩
  exact (of_decide_eq_true hscheduled).2

theorem settlePayouts_kept (db : Db) (b : BookingId) (fullyRefunded : Bool) (reversal : Int) :
    Table.Rowwise Payout.Kept db.payouts (settlePayouts db b fullyRefunded reversal).payouts := by
  unfold settlePayouts
  split
  · exact cancelScheduledPayouts_kept db b
  · split
    · exact Table.Rowwise.updateWhere Payout.Kept.refl (by intro p; rfl) fun p _ _ => ⟨rfl, .inl rfl⟩
    · exact .refl Payout.Kept.refl _

theorem onRefundEvent_payoutsKept {refund : RefundObject} {db db' : Db} {u : Unit}
    (h : onRefundEvent refund db = .ok (u, db')) : db.PayoutsKept db' := by
  rcases onRefundEvent_eq_ok h with rfl | ⟨payment, marked, -, -, hmarked, hrecord⟩
  · exact .of_eq rfl
  · have hpayouts : marked.payouts = db.payouts := by
      rw [(markRefundSucceeded_eq_some hmarked).2]
    rcases recordRefund_eq_ok hrecord with ⟨-, rfl⟩ | ⟨pc, booking, reversal, -, -, -, rfl⟩
    · exact .of_eq hpayouts
    · apply Db.PayoutsKept.of_rowwise
      rw [← hpayouts]
      exact settlePayouts_kept { setRefundedStatuses marked _ _ with ledgerEntries := _ } _ _ _

/-- A payment's own payout is new. -/
theorem onLegacyPaymentSucceeded_payoutsKept {now : Int} {b : BookingId} {i : PaymentIntentId}
    {db db' : Db} {u : Unit} (h : onLegacyPaymentSucceeded now b i db = .ok (u, db')) :
    db.PayoutsKept db' := by
  rcases onLegacyPaymentSucceeded_eq_ok h with rfl | ⟨-, rfl⟩ | ⟨booking, pc, -, -, -, rfl⟩
  · exact .of_eq rfl
  · exact .of_eq rfl
  · intro id p hp
    exact ⟨p, Table.find?_insertNew_of_find? hp (payoutRow now booking pc) (by intro k; rfl), .refl p⟩

theorem onDisputeCreated_payoutsKept (dispute : DisputeObject) (db : Db) :
    db.PayoutsKept (onDisputeCreated dispute db) := by
  unfold onDisputeCreated
  split
  · exact .of_eq rfl
  · exact .of_rowwise (cancelScheduledPayouts_kept _ _)

theorem Tx.payoutsKept (t : Tx) (db : Db) : db.PayoutsKept (t.exec db) := by
  rcases (t.payouts_entitlements db).1 with hsame | hwrites
  · exact .of_eq hsame
  · have hcommit : ∀ {α : Type} (r : Except BookingError (α × Db)),
        (∀ a db', r = .ok (a, db') → db.PayoutsKept db') → db.PayoutsKept (Lib.commit db r) :=
      fun r => Lib.commit_of (.of_eq rfl)
    cases t with
    | paymentSucceeded now intent =>
      refine hcommit _ fun input db' h => ?_
      obtain rfl | rfl | ⟨b, -, u, hlegacy⟩ := onPaymentSucceeded_eq_ok h
      · exact .of_eq rfl
      · obtain ⟨bookings, attempts, hdb⟩ := onNewFlowPaymentSucceeded_eq now intent db
        rw [hdb]
        exact .of_eq rfl
      · exact onLegacyPaymentSucceeded_payoutsKept hlegacy
    | refundEvent refund => exact hcommit _ fun u db' h => onRefundEvent_payoutsKept h
    | disputeCreated dispute => exact onDisputeCreated_payoutsKept dispute db
    | _ => cases hwrites

theorem World.payoutsKept (w : World) (l : Label) : w.db.PayoutsKept (w.step l).db := by
  rcases w.dbStep l with h | ⟨t, h⟩
  · rw [h]
    exact .of_eq rfl
  · rw [h]
    exact t.payoutsKept w.db

/-! ## What a step does to a payout -/

namespace PayoutSweeps

/-- The step executes an update of the sweep that writes `status` into payout `id`. -/
inductive Writes (s : PayoutSweeps) : PayoutLabel → Nat → PayoutStatus → Prop
  | paid {call : SweepCall} {row : DuePayout} {rest : List DuePayout} {answer : StatementAnswer}
      (hcall : s.sweeps.find? call.id = some call) (hdue : call.due = row :: rest)
      (hphase : call.phase = .payout) (hexecuted : answer.executed) :
      Writes s (.sweep call.id answer) row.id .paid
  | failed {call : SweepCall} {row : DuePayout} {rest : List DuePayout} {answer : StatementAnswer}
      (hcall : s.sweeps.find? call.id = some call) (hdue : call.due = row :: rest)
      (hphase : call.phase = .failure) (hexecuted : answer.executed) :
      Writes s (.sweep call.id answer) row.id .failed

@[simp] theorem db_setDb (s : PayoutSweeps) (db : Db) : (s.setDb db).world.db = db := rfl

theorem find?_setPayoutStatus (db : Db) (id : Nat) (status : PayoutStatus) (id' : Nat) :
    (setPayoutStatus db id status).payouts.find? id' =
      if id' = id then (db.payouts.find? id).map fun p => { p with status := status }
      else db.payouts.find? id' := by
  unfold setPayoutStatus
  rw [Table.find?_modify]

/-- A write of the sweep changes the status whatever it was. -/
theorem Writes.find? {s : PayoutSweeps} {l : PayoutLabel} {id : Nat} {status : PayoutStatus}
    (h : s.Writes l id status) :
    (s.step l).world.db.payouts.find? id =
      (s.world.db.payouts.find? id).map fun p => { p with status := status } := by
  cases h with
  | paid hcall hdue hphase hexecuted =>
    simp only [step, hcall, stepSweep, hdue, db_setDb, hexecuted, if_true, hphase, sweepStatement]
    rw [find?_setPayoutStatus, if_pos rfl]
  | failed hcall hdue hphase hexecuted =>
    simp only [step, hcall, stepSweep, hdue, db_setDb, hexecuted, if_true, hphase, sweepStatement]
    rw [find?_setPayoutStatus, if_pos rfl]

/-- A payout after a step is kept, or the sweep wrote it. -/
theorem payout_step (s : PayoutSweeps) (l : PayoutLabel) {id : Nat} {p : Payout}
    (hp : s.world.db.payouts.find? id = some p) :
    ∃ p', (s.step l).world.db.payouts.find? id = some p' ∧
      (p.Kept p' ∨ p'.bookingId = p.bookingId ∧ s.Writes l id p'.status) := by
  have hsame : ∀ {s' : PayoutSweeps}, s.world.db.PayoutsKept s'.world.db →
      ∃ p', s'.world.db.payouts.find? id = some p' ∧
        (p.Kept p' ∨ p'.bookingId = p.bookingId ∧ s.Writes l id p'.status) := by
    intro s' hkept
    obtain ⟨p', hp', h⟩ := hkept id p hp
    exact ⟨p', hp', .inl h⟩
  cases l with
  | system l => exact hsame (s.world.payoutsKept l)
  | startSweep now ids => exact hsame (.of_eq rfl)
  | sweepCrash call => exact hsame (.of_eq rfl)
  | startDispute dispute =>
    simp only [step, startDispute]
    split
    · exact hsame (.of_eq rfl)
    · exact hsame (.of_eq rfl)
  | dispute c answer =>
    simp only [step]
    split
    · rename_i call hcall
      apply hsame
      simp only [stepDispute, db_setDb]
      split
      · unfold disputeStatement
        split
        · exact .of_eq rfl
        · exact .of_eq rfl
        · exact .of_rowwise (cancelScheduledPayouts_kept _ _)
      · exact .of_eq rfl
    · exact hsame (.of_eq rfl)
  | sweep c answer =>
    simp only [step]
    split
    · rename_i call hcall
      obtain rfl : call.id = c := Table.key_of_find? hcall
      unfold stepSweep
      split
      · exact hsame (.of_eq rfl)
      · rename_i row rest hdue
        by_cases hexecuted : answer.executed
        · rw [if_pos hexecuted]
          -- Only the two updates of `payouts` touch a payout, and only the current row.
          have hwrite : ∀ status, s.Writes (.sweep call.id answer) row.id status →
              ∃ p', (setPayoutStatus s.world.db row.id status).payouts.find? id = some p' ∧
                (p.Kept p' ∨ p'.bookingId = p.bookingId ∧ s.Writes (.sweep call.id answer) id p'.status) := by
            intro status hwrites
            rw [find?_setPayoutStatus]
            by_cases hid : id = row.id
            · subst hid
              rw [if_pos rfl, hp]
              exact ⟨_, rfl, .inr ⟨rfl, hwrites⟩⟩
            · rw [if_neg hid]
              exact ⟨p, hp, .inl (.refl p)⟩
          cases hphase : call.phase with
          | payout => exact hwrite .paid (.paid hcall hdue hphase hexecuted)
          | failure => exact hwrite .failed (.failed hcall hdue hphase hexecuted)
          | ledger => exact ⟨p, hp, .inl (.refl p)⟩
        · rw [if_neg hexecuted]
          exact ⟨p, hp, .inl (.refl p)⟩
    · exact hsame (.of_eq rfl)

end PayoutSweeps

end HostPlatform
