-- SUMMARY: Money under way: pending and processing payments and attempts, and the transactions that make them so.
import HostPlatform.WorldFrames
import HostPlatform.AttemptSlots

namespace HostPlatform

open Lib (Table)

def PaymentStatus.underWay : PaymentStatus → Bool
  | .pending | .processing => true
  | _ => false

def AttemptStatus.underWay : AttemptStatus → Bool
  | .pending | .processing => true
  | _ => false

namespace Db

/-- The legacy payment of the booking is pending or processing. -/
def PaymentUnderWay (db : Db) (b : BookingId) : Prop :=
  ∃ p, db.payments.find? b = some p ∧ p.status.underWay

/-- An attempt of the booking is pending or processing. -/
def AttemptUnderWay (db : Db) (b : BookingId) : Prop :=
  ∃ a ∈ db.paymentAttempts.rows, a.bookingId = b ∧ a.status.underWay

/-- An attempt that a worker has claimed waits for its outcome, unless a webhook brought it. -/
def ClaimsOpen (db : Db) : Prop :=
  ∀ a ∈ db.paymentAttempts.rows, a.claimToken ≠ none → a.status.underWay ∨ a.status = .succeeded

variable {db db' : Db} {b : BookingId}

theorem PaymentUnderWay.of_rowwise
    (h : Table.Rowwise (fun p p' : Payment => p'.status.underWay → p.status.underWay) db.payments db'.payments)
    (hb : db'.PaymentUnderWay b) : db.PaymentUnderWay b := by
  obtain ⟨p', hp', hunder⟩ := hb
  obtain ⟨p, hp, himp⟩ := h.to_find? hp'
  exact ⟨p, hp, himp hunder⟩

theorem PaymentUnderWay.of_commit {α : Type} {r : Except BookingError (α × Db)}
    (h : (Lib.commit db r).PaymentUnderWay b)
    (hok : ∀ a db', r = .ok (a, db') → db'.PaymentUnderWay b → db.PaymentUnderWay b) : db.PaymentUnderWay b := by
  cases r with
  | error e => exact h
  | ok p => exact hok p.1 p.2 rfl h

end Db

/-! ## Payments -/

theorem updatePaymentByIntent_underWay {db : Db} {i : PaymentIntentId} {f : Payment → Payment}
    {hf : ∀ p, Lib.key (f p) = Lib.key p} (hset : ∀ p, (f p).status.underWay = false) :
    Table.Rowwise (fun p p' : Payment => p'.status.underWay → p.status.underWay) db.payments
      (updatePaymentByIntent db i f hf).payments := by
  refine .updateWhere (fun _ h => h) hf fun p _ _ hunder => ?_
  rw [hset] at hunder
  cases hunder

theorem setRefundedStatuses_underWay {db : Db} {b : BookingId} {fullyRefunded : Bool} :
    Table.Rowwise (fun p p' : Payment => p'.status.underWay → p.status.underWay) db.payments
      (setRefundedStatuses db b fullyRefunded).payments := by
  refine Table.Rowwise.modify (fun _ h => h) (by intro p; rfl) fun p _ hunder => ?_
  cases fullyRefunded with
  | true => cases hunder
  | false => cases hunder

/-- Only a checkout puts a legacy payment under way. -/
theorem Tx.paymentUnderWay (t : Tx) {db : Db} {b : BookingId} (h : (t.exec db).PaymentUnderWay b) :
    db.PaymentUnderWay b ∨ ∃ i guestTotalMinor currency, t = .upsertPayment b i guestTotalMinor currency ∧
      ∀ p ∈ db.payments.rows, p.providerPaymentIntentId = some i → p.bookingId = b := by
  have hsame : ∀ db' : Db, db'.payments = db.payments → db'.PaymentUnderWay b → db.PaymentUnderWay b := by
    rintro db' hpayments ⟨p, hp, hunder⟩
    exact ⟨p, hpayments ▸ hp, hunder⟩
  by_cases halone : t.standsAlone
  · exact .inl (hsame _ (Tx.standsAlone_sameMoney halone db).payments h)
  cases t with
  | cancelBooking now input =>
    exact .inl (h.of_commit fun r db' hok => hsame db' (cancelBooking_sameMoney hok).payments)
  | savePaymentMethod b' paymentMethodId =>
    exact .inl (hsame _ (savePaymentMethod_sameMoney b' paymentMethodId db).payments h)
  | discardUnpaidBooking now booking =>
    exact .inl (hsame _ (discardUnpaidBooking_sameMoney now booking db).payments h)
  | clearHold b' => exact .inl (hsame _ rfl h)
  | decideCharge now token b' amountMinor currency =>
    obtain ⟨attempts, hdb⟩ := decideCharge_eq now token b' amountMinor currency db
    exact .inl (hsame _ (by rw [hdb]) h)
  | recordChargeOutcome now b' attemptId claimToken status details =>
    obtain ⟨bookings, attempts, hdb⟩ := recordChargeOutcome_eq now b' attemptId claimToken status details db
    exact .inl (hsame _ (by rw [hdb]) h)
  | upsertPayment b' i guestTotalMinor currency =>
    by_cases hb : b = b' ∧ ∀ p ∈ db.payments.rows, p.providerPaymentIntentId = some i → p.bookingId = b'
    · obtain ⟨rfl, hunique⟩ := hb
      exact .inr ⟨i, guestTotalMinor, currency, rfl, hunique⟩
    · refine .inl (h.of_commit fun u db' hok hunder => ?_)
      obtain ⟨row, -, -, -, -, hfind, -⟩ := upsertPayment_eq_ok hok
      obtain ⟨_, hunique, -⟩ := Lib.bind_eq_ok.mp hok
      obtain ⟨p, hp, hunder⟩ := hunder
      rw [hfind, if_neg fun hbb => hb ⟨hbb, Lib.require_eq_ok.mp hunique⟩] at hp
      exact ⟨p, hp, hunder⟩
  | insertRefund input => exact .inl (hsame _ rfl h)
  | linkRefund refundRowId stripeRefundId => exact .inl (hsame _ rfl h)
  | paymentSucceeded now intent =>
    refine .inl (h.of_commit fun input db' hok => ?_)
    have hpaid : ∀ db' : Db,
        db'.payments = (updatePaymentByIntent db intent.id fun p => { p with status := .paid }).payments →
          db'.PaymentUnderWay b → db.PaymentUnderWay b := by
      intro db' hpayments hunder
      refine hunder.of_rowwise ?_
      rw [hpayments]
      exact updatePaymentByIntent_underWay fun _ => rfl
    obtain rfl | rfl | ⟨b', -, u, hlegacy⟩ := onPaymentSucceeded_eq_ok hok
    · exact id
    · obtain ⟨bookings, attempts, hdb⟩ := onNewFlowPaymentSucceeded_eq now intent db
      exact hsame _ (by rw [hdb])
    · rcases onLegacyPaymentSucceeded_eq_ok hlegacy with rfl | ⟨-, rfl⟩ | ⟨booking, pc, -, -, -, rfl⟩
      · exact id
      · exact hpaid _ rfl
      · exact hpaid _ rfl
  | createEntitlement input =>
    refine .inl (hsame _ ?_ h)
    show (HostPlatform.createEntitlement input db).payments = _
    rw [createEntitlement_frame]
  | paymentFailed intent =>
    have h : (onPaymentFailed intent db).PaymentUnderWay b := h
    exact .inl (h.of_rowwise (updatePaymentByIntent_underWay fun _ => rfl))
  | refundEvent refund =>
    refine .inl (h.of_commit fun u db' hok => ?_)
    rcases onRefundEvent_eq_ok hok with rfl | ⟨payment, marked, -, -, hmarked, hrecord⟩
    · exact id
    · rw [recordRefund_frame hrecord, (markRefundSucceeded_eq_some hmarked).2]
      exact fun hunder => hunder.of_rowwise setRefundedStatuses_underWay
  | refundFailed refund => exact .inl (hsame _ rfl h)
  | disputeCreated dispute =>
    obtain ⟨bookings, payouts, disputes, hdispute⟩ := onDisputeCreated_eq dispute db
    refine .inl (hsame _ ?_ h)
    show (onDisputeCreated dispute db).payments = _
    rw [hdispute]
  | _ => exact absurd rfl halone

/-! ## Attempts -/

/-- What a step can do to the attempts. -/
inductive AttemptsMove (w : World) (l : Label) : Table PaymentAttempt → Prop
  | same : AttemptsMove w l w.db.paymentAttempts
  | decided (now : Int) (call : ChargeCall) (claim : ChargeClaim)
      (hruns : World.Runs w l (.decideCharge now w.nextToken call.bookingId call.amountMinor call.currency))
      (hdecision : (w.decision now call).1 = .charge claim) :
      AttemptsMove w l (w.decision now call).2.paymentAttempts
  | recorded (now : Int) (b : BookingId) (attemptId : AttemptId) (claimToken : Nat) (status : AttemptStatus)
      (details : OutcomeDetails) :
      AttemptsMove w l (recordChargeOutcome now b attemptId claimToken status details w.db).2.paymentAttempts
  | marked (attemptId : Option AttemptId) (i : PaymentIntentId) :
      AttemptsMove w l (markAttemptSucceeded w.db attemptId i).paymentAttempts

theorem World.attemptsMove (w : World) (l : Label) : AttemptsMove w l (w.step l).db.paymentAttempts := by
  show AttemptsMove w l (w.step l).chargeView.attempts
  cases w.chargeStep l with
  | frame hview => rw [hview]; exact .same
  | started b pc hstarts hview => rw [hview]; exact .same
  | ended call hview => rw [hview]; exact .same
  | decided now call claim hdecides hcall hdecision hview =>
    rw [hview]
    obtain ⟨id, answer, rfl, hfind, hphase⟩ := hdecides
    obtain rfl : call.id = id := Table.key_of_find? hfind
    exact .decided now call claim (.decideCharge now call answer hcall hphase) hdecision
  | answered call claim status details hcall hphase hview => rw [hview]; exact .same
  | charged call claim intentStatus status details hcall hphase hkey hview => rw [hview]; exact .same
  | recorded now call claim status details hcall hphase hview => rw [hview]; exact .recorded now _ _ _ status details
  | marked attemptId i hview => rw [hview]; exact .marked attemptId i
  | checkout params hflow hview => rw [hview]; exact .same
  | moved i status hfind hmove hview => rw [hview]; exact .same

/-- An outcome is recorded for the attempt that is still claimed, and ends its claim. -/
theorem recordChargeOutcome_releases (now : Int) (b : BookingId) (attemptId : AttemptId) (claimToken : Nat)
    (status : AttemptStatus) (details : OutcomeDetails) (db : Db) :
    Table.Rowwise (fun a a' : PaymentAttempt => a'.bookingId = a.bookingId ∧
      (a' = a ∨ a'.claimToken = none ∧ a.claimToken ≠ none ∧ a.status ≠ .succeeded)) db.paymentAttempts
      (recordChargeOutcome now b attemptId claimToken status details db).2.paymentAttempts := by
  unfold recordChargeOutcome
  split
  · rename_i hrecordable
    have hmodify : Table.Rowwise (fun a a' : PaymentAttempt => a'.bookingId = a.bookingId ∧
        (a' = a ∨ a'.claimToken = none ∧ a.claimToken ≠ none ∧ a.status ≠ .succeeded)) db.paymentAttempts
        (db.paymentAttempts.modify attemptId fun a =>
          { a with
            status := status
            providerPaymentIntentId := details.providerPaymentIntentId.or a.providerPaymentIntentId
            failureCode := details.failureCode
            failureMessage := details.failureMessage
            claimToken := none
            leaseExpiresAt := none }) := by
      refine .modify (fun a => ⟨rfl, .inl rfl⟩) (by intro a; rfl) fun a ha => ⟨rfl, .inr ⟨rfl, ?_⟩⟩
      unfold recordable at hrecordable
      rw [ha] at hrecordable
      obtain ⟨hclaim, hstatus⟩ := of_decide_eq_true hrecordable
      exact ⟨by rw [hclaim]; exact Option.some_ne_none _, hstatus⟩
    simp only
    split
    · split
      · exact hmodify
      · exact hmodify
    · split
      · exact hmodify
      · exact hmodify
  · exact .refl (fun a => ⟨rfl, .inl rfl⟩) _

theorem markAttemptSucceeded_rows (db : Db) (attemptId : Option AttemptId) (i : PaymentIntentId) :
    Table.Rowwise (fun a a' : PaymentAttempt => a'.bookingId = a.bookingId ∧ (a' = a ∨ a'.status = .succeeded))
      db.paymentAttempts (markAttemptSucceeded db attemptId i).paymentAttempts := by
  unfold markAttemptSucceeded
  split
  · exact .refl (fun a => ⟨rfl, .inl rfl⟩) _
  · exact .modify (fun a => ⟨rfl, .inl rfl⟩) (by intro a; rfl) fun a _ => ⟨rfl, .inr rfl⟩

theorem PaymentAttempt.underWay_of_reusable {a : PaymentAttempt} (h : a.reusable) : a.status.underWay := by
  rcases of_decide_eq_true h with h | h
  · rw [h]; rfl
  · rw [h]; rfl

theorem Db.ClaimsOpen.step {w : World} (h : w.db.ClaimsOpen) (l : Label) : (w.step l).db.ClaimsOpen := by
  intro a ha hclaim
  have hmove := w.attemptsMove l
  generalize (w.step l).db.paymentAttempts = attempts at hmove ha
  cases hmove with
  | same => exact h a ha hclaim
  | decided now call claim hruns hdecision =>
    obtain ⟨-, -, -, ⟨latest, hlatest, hreusable, -, -, hdb⟩ | ⟨-, -, -, hdb⟩⟩ := decideCharge_eq_charge hdecision
    · unfold World.decision at ha
      rw [hdb] at ha
      have hfind := Table.find?_of_mem (Db.latestAttempt_eq_some hlatest).1
      rcases Table.mem_modify_of_find? (by intro r; rfl) hfind ha with ⟨hmem, -⟩ | rfl
      · exact h a hmem hclaim
      · exact .inl (PaymentAttempt.underWay_of_reusable hreusable)
    · obtain ⟨row, -, -, -, hpending, hrows⟩ :=
        reserveAttempt_attempts w.db now w.nextToken call.bookingId call.amountMinor call.currency
      unfold World.decision at ha
      rw [hdb, hrows] at ha
      rcases List.mem_append.mp ha with hmem | hnew
      · exact h a hmem hclaim
      · rw [List.mem_singleton.mp hnew, hpending]
        exact .inl rfl
  | recorded now b attemptId claimToken status details =>
    obtain ⟨a₀, ha₀, -, rfl | ⟨hnone, -⟩⟩ :=
      (recordChargeOutcome_releases now b attemptId claimToken status details w.db).to_find? (Table.find?_of_mem ha)
    · exact h a (Table.mem_of_find? ha₀) hclaim
    · exact absurd hnone hclaim
  | marked attemptId i =>
    obtain ⟨a₀, ha₀, -, rfl | hsucceeded⟩ :=
      (markAttemptSucceeded_rows w.db attemptId i).to_find? (Table.find?_of_mem ha)
    · exact h a (Table.mem_of_find? ha₀) hclaim
    · exact .inr hsucceeded

/-- Only a decision to charge puts an attempt of a booking under way. -/
theorem World.attemptUnderWay_step {w : World} (hclaims : w.db.ClaimsOpen) (l : Label) {b : BookingId}
    (h : (w.step l).db.AttemptUnderWay b) :
    w.db.AttemptUnderWay b ∨ ∃ now amountMinor currency,
      Runs w l (.decideCharge now w.nextToken b amountMinor currency) ∧
        (decideCharge now w.nextToken b amountMinor currency w.db).1.isCharge := by
  obtain ⟨a, ha, rfl, hunder⟩ := h
  have hmove := w.attemptsMove l
  generalize (w.step l).db.paymentAttempts = attempts at hmove ha
  have hold : ∀ a₀ ∈ w.db.paymentAttempts.rows, a.bookingId = a₀.bookingId → a₀.status.underWay →
      w.db.AttemptUnderWay a.bookingId := fun a₀ ha₀ hb hunder => ⟨a₀, ha₀, hb.symm, hunder⟩
  cases hmove with
  | same => exact .inl (hold a ha rfl hunder)
  | decided now call claim hruns hdecision =>
    by_cases hb : a.bookingId = call.bookingId
    · refine .inr ⟨now, call.amountMinor, call.currency, hb ▸ hruns, ?_⟩
      rw [hb, show (decideCharge now w.nextToken call.bookingId call.amountMinor call.currency w.db).1 = _ from
        hdecision]
      rfl
    · obtain ⟨-, -, -, ⟨latest, -, -, -, -, hdb⟩ | ⟨-, -, -, hdb⟩⟩ := decideCharge_eq_charge hdecision
      · unfold World.decision at ha
        rw [hdb] at ha
        rcases (Table.mem_modify (by intro r; rfl)).mp ha with ⟨a₀, ha₀, -, rfl⟩ | ⟨ha, -⟩
        · exact .inl (hold a₀ ha₀ rfl hunder)
        · exact .inl (hold a ha rfl hunder)
      · obtain ⟨row, hrow, -, -, -, hrows⟩ :=
          reserveAttempt_attempts w.db now w.nextToken call.bookingId call.amountMinor call.currency
        unfold World.decision at ha
        rw [hdb, hrows] at ha
        rcases List.mem_append.mp ha with hmem | hnew
        · exact .inl (hold a hmem rfl hunder)
        · rw [List.mem_singleton.mp hnew] at hb
          exact absurd hrow hb
  | recorded now b attemptId claimToken status details =>
    left
    obtain ⟨a₀, ha₀, hb, rfl | ⟨-, hclaim, hstatus⟩⟩ :=
      (recordChargeOutcome_releases now b attemptId claimToken status details w.db).to_find? (Table.find?_of_mem ha)
    · exact hold a (Table.mem_of_find? ha₀) rfl hunder
    · have hmem := Table.mem_of_find? ha₀
      exact hold a₀ hmem hb ((hclaims a₀ hmem hclaim).resolve_right hstatus)
  | marked attemptId i =>
    left
    obtain ⟨a₀, ha₀, hb, rfl | hsucceeded⟩ :=
      (markAttemptSucceeded_rows w.db attemptId i).to_find? (Table.find?_of_mem ha)
    · exact hold a (Table.mem_of_find? ha₀) rfl hunder
    · rw [hsucceeded] at hunder
      cases hunder

end HostPlatform
