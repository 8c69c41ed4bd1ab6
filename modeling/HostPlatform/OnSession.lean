-- SUMMARY: The system with on-session charges: calls of `createImmediateNewFlowPaymentIntent` among everything else that runs.
import HostPlatform.Payments.PaymentAttempts
import HostPlatform.World

/-!
# On-session charges

No route of the program calls `createImmediateNewFlowPaymentIntent` yet, so the
system of `World` has no such calls. Here they run beside it, on the same database.
What Stripe does with their requests is left to the labels: any answer, and any event
about any PaymentIntent, at any time.
-/

namespace HostPlatform

open Lib (Keyed Table)

/-- Where a call of `createImmediateNewFlowPaymentIntent` is. -/
inductive ImmediatePhase where
  | reading
  | counting (booking : ImmediateBooking)
  | inserting (booking : ImmediateBooking) (attemptNumber : Nat)
  | creating (request : ImmediateRequest)
  | marking (attemptId : AttemptId) (answer : ImmediateAnswer)
  deriving DecidableEq, Repr

structure ImmediateCall where
  id : Nat
  bookingId : BookingId
  phase : ImmediatePhase
  deriving DecidableEq, Repr

instance : Keyed ImmediateCall := ⟨ImmediateCall.id⟩

structure OnSession where
  world : World
  calls : Table ImmediateCall

def OnSession.start (db : Db) : OnSession := ⟨.start db, .empty⟩

inductive OnSessionLabel where
  | system (l : Label)
  | startImmediate (bookingId : BookingId)
  | immediate (call : Nat) (answer : ImmediateAnswer)
  | immediateCrash (call : Nat)
  | paymentSucceeded (now : Int) (intent : PaymentIntentObject)
  | paymentFailed (intent : PaymentIntentObject)

namespace OnSession

def setDb (w : OnSession) (db : Db) : OnSession := { w with world := { w.world with db := db } }

def endCall (w : OnSession) (call : ImmediateCall) : OnSession :=
  { w with calls := w.calls.deleteWhere fun c => c.id == call.id }

def setPhase (w : OnSession) (call : ImmediateCall) (phase : ImmediatePhase) : OnSession :=
  { w with calls := w.calls.modify call.id fun c => { c with phase := phase } }

/-- One step of `createImmediateNewFlowPaymentIntent`. -/
def stepImmediate (w : OnSession) (call : ImmediateCall) (answer : ImmediateAnswer) : OnSession :=
  match call.phase with
  | .reading =>
    match immediateBooking call.bookingId w.world.db with
    | .ok booking => w.setPhase call (.counting booking)
    | .error _ => w.endCall call
  | .counting booking =>
    w.setPhase call (.inserting booking (nextAttemptNumber w.world.db call.bookingId))
  | .inserting booking attemptNumber =>
    match recordNewAttempt w.world.db call.bookingId attemptNumber booking.guestTotalMinor
      booking.currency with
    | some (attemptId, key, db) =>
      (w.setPhase call (.creating (immediateRequest call.bookingId booking attemptId key))).setDb db
    | none => w.endCall call
  | .creating request => w.setPhase call (.marking request.paymentAttemptId answer)
  | .marking attemptId answered =>
    (w.endCall call).setDb
      (markAttemptStatus w.world.db attemptId answered.status answered.details)

/-- A `payment_intent.succeeded` event, up to the first commit of its handler. -/
def paymentSucceeded (w : OnSession) (now : Int) (intent : PaymentIntentObject) : OnSession :=
  match onPaymentSucceeded now intent w.world.db with
  | .error _ => w
  | .ok (none, db) => w.setDb db
  | .ok (some input, db) =>
    { w with
      world := { w.world with
        db := db
        entitlementHandlers := w.world.entitlementHandlers.insertNew fun id => ⟨id, intent.id, input⟩ } }

def step (w : OnSession) : OnSessionLabel → OnSession
  | .system l => { w with world := w.world.step l }
  | .startImmediate b => { w with calls := w.calls.insertNew fun id => ⟨id, b, .reading⟩ }
  | .immediate call answer =>
    match w.calls.find? call with
    | some c => w.stepImmediate c answer
    | none => w
  | .immediateCrash call =>
    match w.calls.find? call with
    | some c => w.endCall c
    | none => w
  | .paymentSucceeded now intent => w.paymentSucceeded now intent
  | .paymentFailed intent => w.setDb ((Tx.paymentFailed intent).exec w.world.db)

end OnSession

end HostPlatform
