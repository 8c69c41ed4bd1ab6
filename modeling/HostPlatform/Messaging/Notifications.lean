-- SUMMARY: Who is told what after which transaction (`sendNotification.ts`, `systemMessages.ts`, `scheduledNotifications.ts`).
import HostPlatform.Lib.Transition
import HostPlatform.Transactions

/-!
# Notifications

A transaction that changes a booking is followed, after its commit, by messages and
notifications, which its caller sends one after the other, each in several statements.
Nothing else remembers what is still to be sent: a caller that stops forgets it.
-/

namespace HostPlatform

open Lib.Transition

inductive NotificationType where
  | bookingConfirmed | paymentFailed | bookingCancelled | refundIssued | newMessage
  | checkinReminder | checkinInfoAvailable | reviewRequest | hostNewBooking | hostBookingCancelled
  deriving DecidableEq, Repr

inductive NotificationChannel where
  | inApp | email
  deriving DecidableEq, Repr

inductive NotificationStatus where
  | pending | sent | failed
  deriving DecidableEq, Repr

/-- A row of `notifications`. `bookingRef` is `payload->>'bookingRef'`. -/
structure Notification where
  id : Nat
  userId : UserId
  type : NotificationType
  channel : NotificationChannel
  bookingRef : BookingId
  status : NotificationStatus
  deriving DecidableEq, Repr

/-- A call of `sendSystemMessage`, or of `notifyUser` where it posts nothing. -/
structure Send where
  posts : Bool
  type : NotificationType
  userId : UserId
  bookingRef : BookingId
  deriving DecidableEq, Repr

/-! ## What follows a transaction -/

/-- The user of a booking's host, told of it with `type`. -/
def hostSends (hostUsers : HostId → Option UserId) (type : NotificationType) (b : Booking) : List Send :=
  ((hostUsers b.hostId).map fun user => ⟨false, type, user, b.id⟩).toList

def sendBookingConfirmedMessage (hostUsers : HostId → Option UserId) (b : Booking) : List Send :=
  ⟨true, .bookingConfirmed, b.guestId, b.id⟩ :: hostSends hostUsers .hostNewBooking b

def sendBookingCancelledMessage (hostUsers : HostId → Option UserId) (b : Booking) : List Send :=
  ⟨true, .bookingCancelled, b.guestId, b.id⟩ :: hostSends hostUsers .hostBookingCancelled b

/-- The booking that `onPaymentSucceeded` confirms, where its `shouldNotify` is true. -/
def confirmedBooking (now : Int) (intent : PaymentIntentObject) (db : Db) : Option Booking :=
  match intent.bookingId with
  | none => none
  | some b =>
    if intent.paymentFlowVersion = some .separateChargesDelayedV1 then none else
    match onLegacyPaymentSucceeded now b intent.id db with
    | .error _ => none
    | .ok _ =>
      if (db.paymentByIntent intent.id).any fun p => decide (p.status = .paid) then none
      else (db.bookings.find? b).filter fun r => decide (r.status = .pendingPayment)

/-- The booking that `onRefundEvent` leaves in `notifyInfo`. -/
def refundedBooking (refund : RefundObject) (db : Db) : Option Booking :=
  if refund.status ≠ .succeeded then none else
  match refund.paymentIntent.bind db.paymentByIntent with
  | none => none
  | some payment =>
    match markRefundSucceeded refund.id db, onRefundEvent refund db with
    | some marked, .ok _ =>
      if (marked.priceComponents.find? payment.bookingId).isSome then db.bookings.find? payment.bookingId
      else none
    | _, _ => none

/-- The rows `completeStaysAndRequestReviews` gets back from its UPDATE. -/
def completedRows (today : Int) (db : Db) : List Booking :=
  db.bookings.select fun b => decide (b.status = .confirmed ∧ b.checkOut ≤ today)

/-- What the caller of the transaction sends once it has committed. -/
def Tx.sends (hostUsers : HostId → Option UserId) (db : Db) : Tx → List Send
  | .paymentSucceeded now intent =>
    (confirmedBooking now intent db).elim [] (sendBookingConfirmedMessage hostUsers)
  | .paymentFailed intent =>
    ((intent.bookingId.bind db.bookings.find?).map fun b => ⟨false, .paymentFailed, b.guestId, b.id⟩).toList
  | .refundEvent refund =>
    ((refundedBooking refund db).map fun b => ⟨false, .refundIssued, b.guestId, b.id⟩).toList
  | .cancelBooking now input =>
    match HostPlatform.cancelBooking now input db with
    | .ok _ => (db.bookings.find? input.bookingId).elim [] (sendBookingCancelledMessage hostUsers)
    | .error _ => []
  | .releaseExpiredHold now b =>
    ((expiredHold now b db).map fun b => ⟨false, .bookingCancelled, b.guestId, b.id⟩).toList
  | .completeStays today => (completedRows today db).map fun b => ⟨true, .reviewRequest, b.guestId, b.id⟩
  | _ => []

/-! ## Calls -/

/-- A caller by its next statement. -/
inductive NoticePhase where
  | posting (send : Send)
  | readingPreferences (send : Send)
  | recording (send : Send) (email : Bool)
  | queueing (send : Send)
  | mailing (row : Nat)
  | returned
  | failed
  deriving DecidableEq, Repr

/-- A caller with what comes after the send it is at. -/
structure NoticeCall where
  phase : NoticePhase
  todo : List Send
  deriving DecidableEq, Repr

/-- The caller at the first of its sends. -/
def NoticeCall.start : List Send → NoticeCall
  | [] => ⟨.returned, []⟩
  | send :: todo => ⟨if send.posts then .posting send else .readingPreferences send, todo⟩

/-- `messages` are the system messages: the booking, and what their text is rendered from.
`prefersEmail` is `notification_preferences.email`, true for a user without a row. -/
structure NoticeWorld where
  db : Db
  hostUsers : HostId → Option UserId
  prefersEmail : UserId → Bool
  messages : List (BookingId × NotificationType)
  notifications : List Notification
  nextId : Nat
  calls : List NoticeCall

inductive NoticeStep where
  | tx (t : Tx)
  /-- `sendCheckinReminders` starts. -/
  | sendCheckinReminders (today : Int)
  /-- A guest or a host has sent a message (`POST /api/bookings/[id]/messages`). -/
  | messageSent (b : BookingId) (fromGuest : Bool)
  | setEmailPreference (user : UserId) (email : Bool)
  /-- The account is deleted, with its notifications and preferences. -/
  | deleteAccount (user : UserId)
  /-- The next statement of a caller; `delivered` is what comes of a mail. -/
  | next (i : Nat) (delivered : Bool)
  /-- A statement of the caller fails, or its process stops. -/
  | stop (i : Nat)

namespace NoticeWorld

def start (db : Db) (hostUsers : HostId → Option UserId) : NoticeWorld :=
  ⟨db, hostUsers, fun _ => true, [], [], 0, []⟩

/-- There is a `checkin_reminder` for the booking's guest. -/
def reminded (w : NoticeWorld) (b : Booking) : Bool :=
  w.notifications.any fun n => decide (n.userId = b.guestId ∧ n.type = .checkinReminder ∧ n.bookingRef = b.id)

/-- The rows `sendCheckinReminders` selects. -/
def dueReminders (w : NoticeWorld) (today : Int) : List Booking :=
  w.db.bookings.select fun b => decide (b.status = .confirmed ∧ b.checkIn = today + 1) && !w.reminded b

/-- Reminder and check-in information, for one booking after the other. -/
def reminderSends (w : NoticeWorld) (today : Int) : List Send :=
  (w.dueReminders today).flatMap fun b =>
    [⟨true, .checkinReminder, b.guestId, b.id⟩, ⟨true, .checkinInfoAvailable, b.guestId, b.id⟩]

/-- The side that did not send the message is told of it. -/
def messageSends (w : NoticeWorld) (b : BookingId) (fromGuest : Bool) : List Send :=
  match w.db.bookings.find? b with
  | none => []
  | some r => if fromGuest then hostSends w.hostUsers .newMessage r else [⟨false, .newMessage, r.guestId, r.id⟩]

/-- What the call that a step starts has to send. -/
def sendsOf (w : NoticeWorld) : NoticeStep → List Send
  | .tx t => t.sends w.hostUsers w.db
  | .sendCheckinReminders today => w.reminderSends today
  | .messageSent b fromGuest => w.messageSends b fromGuest
  | _ => []

def insertNotification (w : NoticeWorld) (send : Send) (channel : NotificationChannel)
    (status : NotificationStatus) : NoticeWorld :=
  { w with
    notifications :=
      w.notifications ++ [⟨w.nextId, send.userId, send.type, channel, send.bookingRef, status⟩]
    nextId := w.nextId + 1 }

/-- `UPDATE notifications SET status = $2 WHERE id = $1`. -/
def setStatus (w : NoticeWorld) (row : Nat) (status : NotificationStatus) : NoticeWorld :=
  { w with
    notifications := w.notifications.map fun n => if n.id = row then { n with status := status } else n }

/-- The next statement of a caller: where it stands after it, and what it wrote. -/
def stepCall (w : NoticeWorld) (c : NoticeCall) (delivered : Bool) : NoticeCall × NoticeWorld :=
  match c.phase with
  | .posting send =>
    if (w.db.bookings.find? send.bookingRef).isSome then
      (⟨.readingPreferences send, c.todo⟩,
        { w with messages := w.messages ++ [(send.bookingRef, send.type)] })
    else (⟨.failed, []⟩, w)
  | .readingPreferences send => (⟨.recording send (w.prefersEmail send.userId), c.todo⟩, w)
  | .recording send email =>
    (if email then ⟨.queueing send, c.todo⟩ else NoticeCall.start c.todo,
      w.insertNotification send .inApp .sent)
  | .queueing send => (⟨.mailing w.nextId, c.todo⟩, w.insertNotification send .email .pending)
  -- a mail that fails is recorded, and not thrown
  | .mailing row => (NoticeCall.start c.todo, w.setStatus row (if delivered then .sent else .failed))
  | .returned | .failed => (c, w)

/-- The step without the call it starts. -/
def advance (w : NoticeWorld) : NoticeStep → NoticeWorld
  | .tx t => { w with db := t.exec w.db }
  | .sendCheckinReminders _ | .messageSent _ _ => w
  | .setEmailPreference user email => { w with prefersEmail := Function.update w.prefersEmail user email }
  | .deleteAccount user =>
    { w with
      notifications := w.notifications.filter fun n => decide (n.userId ≠ user)
      prefersEmail := Function.update w.prefersEmail user true }
  | .next i delivered =>
    match w.calls[i]? with
    | none => w
    | some c => { (w.stepCall c delivered).2 with calls := w.calls.set i (w.stepCall c delivered).1 }
  | .stop i => { w with calls := w.calls.modify i fun c => ⟨if c.phase = .returned then .returned else .failed, []⟩ }

end NoticeWorld

/-- The call that a step starts. Every transaction has its caller, with or without a send. -/
def NoticeWorld.begun (w : NoticeWorld) (s : NoticeStep) : List NoticeCall :=
  match s with
  | .tx _ | .sendCheckinReminders _ | .messageSent _ _ => [NoticeCall.start (w.sendsOf s)]
  | _ => []

def noticeStep (w : NoticeWorld) (s : NoticeStep) : NoticeWorld :=
  { w.advance s with calls := (w.advance s).calls ++ w.begun s }

theorem NoticeWorld.stepCall_db (w : NoticeWorld) (c : NoticeCall) (delivered : Bool) :
    (w.stepCall c delivered).2.db = w.db := by
  unfold stepCall
  split
  · split <;> rfl
  all_goals rfl

/-- Only a transaction changes the booking. -/
theorem noticeStep_db {w : NoticeWorld} {s : NoticeStep} (h : ∀ t, s ≠ .tx t) : (noticeStep w s).db = w.db := by
  cases s with
  | tx t => exact absurd rfl (h t)
  | next i delivered =>
    simp only [noticeStep, NoticeWorld.advance]
    split
    · rfl
    · exact w.stepCall_db _ delivered
  | sendCheckinReminders today => rfl
  | messageSent b fromGuest => rfl
  | setEmailPreference user email => rfl
  | deleteAccount user => rfl
  | stop i => rfl

end HostPlatform
