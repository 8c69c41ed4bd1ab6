-- SUMMARY: The system with the SetupIntents of its guests: every call between the row it reads, the SetupIntent it retrieves and the card it saves.
import HostPlatform.Payments.SetupIntentFlow
import HostPlatform.World

/-!
# Saving cards

`World` saves a payment method in one step, whichever it is. Here it comes from a SetupIntent: a
delivery of `setup_intent.succeeded` reads the row, asks Stripe, and only then takes the lock. The
rest of the system is that of `World`.
-/

namespace HostPlatform

open Lib (Keyed Table)

/-! ## Calls in progress -/

/-- Where a call of `createSetupIntentForBooking` is. -/
inductive SetupPhase where
  | reading
  | retrieving (customerId setupIntentId : Nat)
  | creating (customerId : Nat) (replaces : Option Nat)
  | updating (customerId setupIntentId : Nat)
  deriving DecidableEq, Repr

structure SetupCall where
  id : Nat
  bookingId : BookingId
  phase : SetupPhase
  deriving DecidableEq, Repr

/-- Where a delivery of `setup_intent.succeeded` is, until it has saved the card. -/
inductive DeliveryPhase where
  | reading
  | retrieving (setupIntentId : Nat)
  | saving (paymentMethodId : Nat)
  deriving DecidableEq, Repr

structure SetupDelivery where
  id : Nat
  bookingId : BookingId
  phase : DeliveryPhase
  deriving DecidableEq, Repr

instance : Keyed SetupCall := ⟨SetupCall.id⟩
instance : Keyed SetupDelivery := ⟨SetupDelivery.id⟩

structure CardSetups where
  world : World
  setupIntents : Table SetupIntent
  setups : Table SetupCall
  deliveries : Table SetupDelivery

def CardSetups.start (db : Db) : CardSetups := ⟨.start db, .empty, .empty, .empty⟩

/-! ## Labels -/

/-- `customerId` is the Customer that Stripe has for the booking. The rest of a delivery, after
the card is saved, is `Label.setupIntentContinue`. -/
inductive CardLabel where
  | system (l : Label)
  | startSetup (bookingId : BookingId)
  | setup (call : Nat) (customerId : Nat)
  | setupCrash (call : Nat)
  | moveSetupIntent (setupIntentId : Nat) (status : SetupIntentStatus) (paymentMethod : Option Nat)
  | setupIntentSucceeded (setupIntentId : Nat)
  | delivery (call : Nat)
  | deliveryCrash (call : Nat)

/-- The steps of `World` that are steps of the calls here. -/
def Label.savesCard : Label → Bool
  | .setupIntentSucceeded .. | .transaction (.saveSetupIntent ..) => true
  | _ => false

/-! ## Steps -/

namespace CardSetups

variable (w : CardSetups)

def endSetup (call : SetupCall) : CardSetups :=
  { w with setups := w.setups.deleteWhere fun c => c.id == call.id }

def setSetupPhase (call : SetupCall) (phase : SetupPhase) : CardSetups :=
  { w with setups := w.setups.modify call.id fun c => { c with phase := phase } }

def endDelivery (call : SetupDelivery) : CardSetups :=
  { w with deliveries := w.deliveries.deleteWhere fun c => c.id == call.id }

def setDeliveryPhase (call : SetupDelivery) (phase : DeliveryPhase) : CardSetups :=
  { w with deliveries := w.deliveries.modify call.id fun c => { c with phase := phase } }

/-- One step of `createSetupIntentForBooking`. -/
def stepSetup (call : SetupCall) (customerId : Nat) : CardSetups :=
  match call.phase with
  | .reading =>
    match setupColumns call.bookingId w.world.db with
    | .error _ => w.endSetup call
    | .ok existing =>
      match existing.setupIntentId with
      | some setupIntentId =>
        w.setSetupPhase call (.retrieving (existing.customerId.getD customerId) setupIntentId)
      | none => w.setSetupPhase call (.creating (existing.customerId.getD customerId) none)
  | .retrieving customerId setupIntentId =>
    match w.setupIntents.find? setupIntentId with
    | none => w.endSetup call
    | some existingIntent =>
      if existingIntent.status ∈ reusableSetupStatuses then
        w.setSetupPhase call (.updating customerId setupIntentId)
      else w.setSetupPhase call (.creating customerId (some setupIntentId))
  | .creating customerId replaces =>
    match requestSetupIntent w.setupIntents customerId ⟨call.bookingId, replaces⟩ with
    | (none, _) => w.endSetup call
    | (some setupIntentId, setupIntents) =>
      { w.setSetupPhase call (.updating customerId setupIntentId) with setupIntents := setupIntents }
  | .updating customerId setupIntentId =>
    { w.endSetup call with
      world := w.world.step (.transaction (.saveSetupIntent call.bookingId customerId setupIntentId)) }

/-- One step of a delivery. Its errors are logged, and end it. -/
def stepDelivery (call : SetupDelivery) : CardSetups :=
  match call.phase with
  | .reading =>
    if acceptsSetup call.bookingId w.world.db then
      match storedSetupIntent call.bookingId w.world.db with
      | .ok setupIntentId => w.setDeliveryPhase call (.retrieving setupIntentId)
      | .error _ => w.endDelivery call
    else w.endDelivery call
  | .retrieving setupIntentId =>
    match w.setupIntents.find? setupIntentId with
    | none => w.endDelivery call
    | some setupIntent =>
      match confirmedPaymentMethod setupIntent with
      | .ok paymentMethodId => w.setDeliveryPhase call (.saving paymentMethodId)
      | .error _ => w.endDelivery call
  | .saving paymentMethodId =>
    { w.endDelivery call with
      world := w.world.step (.setupIntentSucceeded call.bookingId paymentMethodId) }

/-- The event of a SetupIntent that succeeded can be delivered at any time, any number of times. -/
def startDelivery (setupIntentId : Nat) : CardSetups :=
  match w.setupIntents.find? setupIntentId with
  | some s =>
    if s.status = .succeeded then
      { w with deliveries := w.deliveries.insertNew fun id => ⟨id, s.bookingId, .reading⟩ }
    else w
  | none => w

def step (w : CardSetups) : CardLabel → CardSetups
  | .system l => if l.savesCard then w else { w with world := w.world.step l }
  | .startSetup b => { w with setups := w.setups.insertNew fun id => ⟨id, b, .reading⟩ }
  | .setup call customerId =>
    match w.setups.find? call with
    | some c => w.stepSetup c customerId
    | none => w
  | .setupCrash call =>
    match w.setups.find? call with
    | some c => w.endSetup c
    | none => w
  | .moveSetupIntent setupIntentId status paymentMethod =>
    { w with
      setupIntents := w.setupIntents.modify setupIntentId (SetupIntent.moveTo status paymentMethod)
        (SetupIntent.key_moveTo status paymentMethod) }
  | .setupIntentSucceeded setupIntentId => w.startDelivery setupIntentId
  | .delivery call =>
    match w.deliveries.find? call with
    | some c => w.stepDelivery c
    | none => w
  | .deliveryCrash call =>
    match w.deliveries.find? call with
    | some c => w.endDelivery c
    | none => w

/-! ## The system below -/

/-- What the next step of the call is to the rest of the system. -/
def setupLabel? (c : SetupCall) : Option Label :=
  match c.phase with
  | .updating customerId setupIntentId =>
    some (.transaction (.saveSetupIntent c.bookingId customerId setupIntentId))
  | _ => none

def deliveryLabel? (c : SetupDelivery) : Option Label :=
  match c.phase with
  | .saving paymentMethodId => some (.setupIntentSucceeded c.bookingId paymentMethodId)
  | _ => none

/-- The step of `World` that a step is. -/
def worldLabel? (w : CardSetups) : CardLabel → Option Label
  | .system l => if l.savesCard then none else some l
  | .setup call _ => (w.setups.find? call).bind setupLabel?
  | .delivery call => (w.deliveries.find? call).bind deliveryLabel?
  | _ => none

/-- The run of `World` that a run contains. -/
def worldLabels (w : CardSetups) (cs : List CardLabel) : List Label :=
  Lib.Transition.collect step worldLabel? w cs

theorem world_stepSetup (call : SetupCall) (customerId : Nat) :
    (w.stepSetup call customerId).world = (setupLabel? call).elim w.world w.world.step := by
  unfold stepSetup setupLabel?
  cases call.phase with
  | reading =>
    simp only
    split
    · rfl
    · split <;> rfl
  | retrieving customerId setupIntentId =>
    simp only
    split
    · rfl
    · split <;> rfl
  | creating customerId replaces =>
    simp only
    split <;> rfl
  | updating customerId setupIntentId => rfl

theorem world_stepDelivery (call : SetupDelivery) :
    (w.stepDelivery call).world = (deliveryLabel? call).elim w.world w.world.step := by
  unfold stepDelivery deliveryLabel?
  cases call.phase with
  | reading =>
    simp only
    split
    · split <;> rfl
    · rfl
  | retrieving setupIntentId =>
    simp only
    split
    · rfl
    · split <;> rfl
  | saving paymentMethodId => rfl

theorem world_step (l : CardLabel) :
    (w.step l).world = (w.worldLabel? l).elim w.world w.world.step := by
  cases l with
  | system l =>
    simp only [step, worldLabel?]
    split <;> rfl
  | startSetup b => rfl
  | setup call customerId =>
    simp only [step, worldLabel?]
    cases w.setups.find? call with
    | none => rfl
    | some c => exact w.world_stepSetup c customerId
  | setupCrash call =>
    simp only [step, worldLabel?]
    split <;> rfl
  | moveSetupIntent setupIntentId status paymentMethod => rfl
  | setupIntentSucceeded setupIntentId =>
    simp only [step, worldLabel?, startDelivery]
    split
    · split <;> rfl
    · rfl
  | delivery call =>
    simp only [step, worldLabel?]
    cases w.deliveries.find? call with
    | none => rfl
    | some c => exact w.world_stepDelivery c
  | deliveryCrash call =>
    simp only [step, worldLabel?]
    split <;> rfl

/-- Every run is a run of the system without SetupIntents. -/
theorem world_run (cs : List CardLabel) :
    (Lib.Transition.run step w cs).world = Lib.Transition.run World.step w.world (w.worldLabels cs) :=
  Lib.Transition.run_projects CardSetups.world (fun w l _ => w.world_step l) (Lib.Transition.guarded_true cs)

end CardSetups

end HostPlatform
