-- SUMMARY: How often a booking's guest and host are told that it is confirmed, cancelled or over, whatever calls stop or run at once.
import HostPlatform.Lib.Outbox
import HostPlatform.Messaging.Notifications
import HostPlatform.Safety.TerminalStates

/-!
# Delivery of notifications

What is sent follows from a step of the booking that is made once: it is confirmed once, and
it ends once, and once more after each refund that brought it back. A caller that stops loses
what it had still to send. Guest and host are told with types of their own, and counted apart:
a host who books his own property is told in both roles.
-/

namespace HostPlatform

open Lib (Table commit)
open Lib.Outbox
open Lib.Transition

/-! ## What is delivered and what is owed -/

/-- A system message in a booking's conversation, or a row in a user's inbox. -/
inductive Notice where
  | message (b : BookingId) (type : NotificationType)
  | inApp (user : UserId) (type : NotificationType) (b : BookingId)
  deriving DecidableEq, Repr

def Send.notices (send : Send) : List Notice :=
  if send.posts then [.message send.bookingRef send.type, .inApp send.userId send.type send.bookingRef]
  else [.inApp send.userId send.type send.bookingRef]

def NoticePhase.outstanding : NoticePhase → List Notice
  | .posting send =>
    [.message send.bookingRef send.type, .inApp send.userId send.type send.bookingRef]
  | .readingPreferences send | .recording send _ => [.inApp send.userId send.type send.bookingRef]
  | .queueing _ | .mailing _ | .returned | .failed => []

/-- What a caller has still to deliver. -/
def NoticeCall.outstanding (c : NoticeCall) : List Notice :=
  c.phase.outstanding ++ c.todo.flatMap Send.notices

namespace NoticeWorld

/-- The deliveries that count, among those made. -/
def delivered (counts : Notice → Bool) (w : NoticeWorld) : Nat :=
  (w.messages.countP fun m => counts (.message m.1 m.2)) +
    w.notifications.countP fun n => decide (n.channel = .inApp) && counts (.inApp n.userId n.type n.bookingRef)

/-- The deliveries that count, among those that callers have still to make. -/
def owed (counts : Notice → Bool) (w : NoticeWorld) : Nat :=
  Lib.Outbox.owed NoticeCall.outstanding counts w.calls

/-- The deliveries that count, among those of the call that a step starts. -/
def queued (counts : Notice → Bool) (w : NoticeWorld) (s : NoticeStep) : Nat :=
  ((w.sendsOf s).flatMap Send.notices).countP counts

end NoticeWorld

theorem NoticeCall.start_outstanding (sends : List Send) :
    (NoticeCall.start sends).outstanding = sends.flatMap Send.notices := by
  cases sends with
  | nil => rfl
  | cons send todo =>
    cases hposts : send.posts <;> simp [start, outstanding, NoticePhase.outstanding, Send.notices, hposts]

namespace NoticeWorld

variable (counts : Notice → Bool)

theorem delivered_insertNotification (w : NoticeWorld) (send : Send) (channel : NotificationChannel)
    (status : NotificationStatus) :
    (w.insertNotification send channel status).delivered counts = w.delivered counts +
      if channel = .inApp ∧ counts (.inApp send.userId send.type send.bookingRef) then 1 else 0 := by
  simp [delivered, insertNotification, List.countP_append, List.countP_singleton]
  omega

theorem delivered_setStatus (w : NoticeWorld) (row : Nat) (status : NotificationStatus) :
    (w.setStatus row status).delivered counts = w.delivered counts := by
  unfold delivered setStatus
  rw [List.countP_map]
  congr 2
  funext n
  simp only [Function.comp_apply]
  split <;> rfl

/-- A statement turns what is owed into what is delivered; one that fails loses it. -/
theorem stepCall_conserves (w : NoticeWorld) (c : NoticeCall) (ok : Bool) :
    (w.stepCall c ok).2.delivered counts + (w.stepCall c ok).1.outstanding.countP counts ≤
      w.delivered counts + c.outstanding.countP counts := by
  obtain ⟨phase, todo⟩ := c
  cases phase with
  | posting send =>
    simp only [stepCall]
    split
    · simp only [NoticeCall.outstanding, NoticePhase.outstanding, delivered, List.countP_append,
        List.countP_cons, List.countP_nil]
      omega
    · simp [NoticeCall.outstanding, NoticePhase.outstanding]
  | readingPreferences send => exact le_rfl
  | recording send email =>
    have hstart : (if email then (⟨.queueing send, todo⟩ : NoticeCall) else .start todo).outstanding =
        todo.flatMap Send.notices := by
      cases email
      · exact NoticeCall.start_outstanding todo
      · rfl
    simp only [stepCall]
    rw [hstart, delivered_insertNotification]
    simp [NoticeCall.outstanding, NoticePhase.outstanding, List.countP_cons]
    omega
  | queueing send =>
    simp only [stepCall]
    rw [delivered_insertNotification]
    simp [NoticeCall.outstanding, NoticePhase.outstanding]
  | mailing row =>
    simp only [stepCall]
    rw [delivered_setStatus, NoticeCall.start_outstanding]
    simp [NoticeCall.outstanding, NoticePhase.outstanding]
  | returned => exact le_rfl
  | failed => exact le_rfl

theorem advance_conserves (w : NoticeWorld) (s : NoticeStep) :
    (w.advance s).delivered counts + (w.advance s).owed counts ≤ w.delivered counts + w.owed counts := by
  cases s with
  | tx t => exact le_rfl
  | sendCheckinReminders today => exact le_rfl
  | messageSent b fromGuest => exact le_rfl
  | setEmailPreference user email => exact le_rfl
  | deleteAccount user =>
    have hfewer := (List.filter_sublist (p := fun n : Notification => decide (n.userId ≠ user))
      (l := w.notifications)).countP_le
        (p := fun n => decide (n.channel = .inApp) && counts (.inApp n.userId n.type n.bookingRef))
    simp only [delivered, owed, advance]
    omega
  | next i ok =>
    simp only [advance]
    split
    · exact le_rfl
    · rename_i c hc
      have hcall := stepCall_conserves counts w c ok
      have hset := owed_set NoticeCall.outstanding counts hc (w.stepCall c ok).1
      simp only [delivered, owed] at hcall hset ⊢
      omega
  | stop i =>
    simp only [advance]
    cases hc : w.calls[i]? with
    | none => rw [List.modify_eq_set_getElem?, hc]; exact le_rfl
    | some c =>
      have hset := owed_set NoticeCall.outstanding counts hc ⟨if c.phase = .returned then .returned else .failed, []⟩
      have hnone : NoticeCall.outstanding ⟨if c.phase = .returned then .returned else .failed, []⟩ = [] := by
        split <;> rfl
      rw [hnone, List.countP_nil] at hset
      rw [List.modify_eq_set_getElem?, hc]
      simp only [delivered, owed, Option.map_some, Option.map_eq_map, Option.getD_some] at hset ⊢
      omega

/-- What is delivered or owed grows by what is queued. -/
theorem step_conserves (w : NoticeWorld) (s : NoticeStep) :
    (noticeStep w s).delivered counts + (noticeStep w s).owed counts ≤
      w.delivered counts + w.owed counts + w.queued counts s := by
  have hadvance := advance_conserves counts w s
  have hbegun : Lib.Outbox.owed NoticeCall.outstanding counts ((w.advance s).calls ++ w.begun s) ≤
      (w.advance s).owed counts + w.queued counts s := by
    unfold begun
    split
    · rw [owed_append, NoticeCall.start_outstanding]; rfl
    · rw [owed_append, NoticeCall.start_outstanding]; rfl
    · rw [owed_append, NoticeCall.start_outstanding]; rfl
    · rw [List.append_nil]; exact Nat.le_add_right _ _
  simp only [noticeStep, delivered, owed] at hadvance hbegun ⊢
  omega

end NoticeWorld

/-! ## What a transaction has its caller send -/

/-- The sends about booking `b` of the kinds given. -/
def Send.about (kinds : NotificationType → Bool) (b : BookingId) (send : Send) : Bool :=
  decide (send.bookingRef = b) && kinds send.type

/-- Deliveries of which each send about `b` of the kinds makes at most one, and no other send any. -/
def CountsAbout (kinds : NotificationType → Bool) (b : BookingId) (counts : Notice → Bool) : Prop :=
  ∀ send : Send, send.notices.countP counts ≤ if send.about kinds b then 1 else 0

theorem CountsAbout.flatMap {kinds : NotificationType → Bool} {b : BookingId} {counts : Notice → Bool}
    (h : CountsAbout kinds b counts) (sends : List Send) :
    (sends.flatMap Send.notices).countP counts ≤ sends.countP (Send.about kinds b) := by
  induction sends with
  | nil => exact le_rfl
  | cons send sends ih =>
    have hsend := h send
    rw [List.flatMap_cons, List.countP_append, List.countP_cons]
    omega

/-- No such delivery comes of sends none of which is about the booking. -/
theorem CountsAbout.countP_eq_zero {kinds : NotificationType → Bool} {b : BookingId} {counts : Notice → Bool}
    (h : CountsAbout kinds b counts) {sends : List Send} (hnone : ∀ send ∈ sends, ¬ send.about kinds b) :
    (sends.flatMap Send.notices).countP counts = 0 :=
  Nat.le_zero.mp ((h.flatMap sends).trans (List.countP_eq_zero.mpr hnone).le)

/-- The messages of the kinds in the booking's conversation. -/
def Notice.isMessage (kinds : NotificationType → Bool) (b : BookingId) : Notice → Bool
  | .message b' type => decide (b' = b) && kinds type
  | .inApp _ _ _ => false

/-- The rows of the kinds in a user's inbox that refer to the booking. -/
def Notice.isInApp (kinds : NotificationType → Bool) (b : BookingId) (user : UserId) : Notice → Bool
  | .message _ _ => false
  | .inApp user' type b' => decide (user' = user) && (decide (b' = b) && kinds type)

theorem countsAbout_message (kinds : NotificationType → Bool) (b : BookingId) :
    CountsAbout kinds b (Notice.isMessage kinds b) := by
  intro send
  unfold Send.notices
  split
  · simp [List.countP_cons, Notice.isMessage, Send.about]
  · simp [Notice.isMessage]

theorem countsAbout_inApp (kinds : NotificationType → Bool) (b : BookingId) (user : UserId) :
    CountsAbout kinds b (Notice.isInApp kinds b user) := by
  intro send
  have hone : [Notice.inApp send.userId send.type send.bookingRef].countP (Notice.isInApp kinds b user) ≤
      if send.about kinds b then 1 else 0 := by
    have habout : Notice.isInApp kinds b user (.inApp send.userId send.type send.bookingRef) = true →
        send.about kinds b = true := fun hcounts => ((Bool.and_eq_true _ _).mp hcounts).2
    rw [List.countP_singleton]
    split
    case isTrue hcounts => rw [if_pos (habout hcounts)]
    case isFalse => exact Nat.zero_le _
  unfold Send.notices
  split
  · simpa [List.countP_cons, Notice.isInApp] using hone
  · exact hone

/-- What tells the guest, or the host, that the booking is confirmed. -/
def NotificationType.confirmsTo : Bool → NotificationType → Bool
  | false, .bookingConfirmed | true, .hostNewBooking => true
  | _, _ => false

/-- What tells the guest, or the host, that the booking is cancelled or over. -/
def NotificationType.endsTo : Bool → NotificationType → Bool
  | false, .bookingCancelled | false, .reviewRequest | true, .hostBookingCancelled => true
  | _, _ => false

/-- The booking waits for its payment, or is not there yet. -/
def Db.awaitsPayment (db : Db) (b : BookingId) : Bool := (db.statusOf b).all fun st => decide (st = .pendingPayment)

/-- The booking has not ended. -/
def Db.underway (db : Db) (b : BookingId) : Bool := !(db.statusOf b).any BookingStatus.terminal

theorem countP_hostSends_le (kinds : NotificationType → Bool) (b : BookingId) (hostUsers : HostId → Option UserId)
    (type : NotificationType) (r : Booking) :
    (hostSends hostUsers type r).countP (Send.about kinds b) ≤ if r.id = b ∧ kinds type then 1 else 0 := by
  unfold hostSends
  cases hostUsers r.hostId with
  | none => exact Nat.zero_le _
  | some user => simp [Send.about]

theorem confirmedBooking_eq_some {now : Int} {intent : PaymentIntentObject} {db : Db} {r : Booking}
    (h : confirmedBooking now intent db = some r) :
    db.statusOf r.id = some .pendingPayment ∧
      ((Tx.paymentSucceeded now intent).exec db).statusOf r.id = some .confirmed := by
  unfold confirmedBooking at h
  split at h
  · cases h
  rename_i b hb
  split at h
  · cases h
  rename_i hlegacyFlow
  split at h
  · cases h
  rename_i p hlegacy
  split at h
  · cases h
  rename_i hunpaid
  obtain ⟨hfind, hpending⟩ := Option.filter_eq_some_iff.mp h
  have hid : r.id = b := Table.key_of_find? hfind
  have hstatus : db.statusOf b = some .pendingPayment :=
    Db.statusOf_eq_some.mpr ⟨r, hfind, of_decide_eq_true hpending⟩
  refine ⟨hid ▸ hstatus, ?_⟩
  have hexec : (Tx.paymentSucceeded now intent).exec db = p.2 := by
    show commit db (onPaymentSucceeded now intent db) = p.2
    simp only [onPaymentSucceeded, hb, if_neg hlegacyFlow, hlegacy]
    rfl
  rw [hexec, hid]
  unfold onLegacyPaymentSucceeded at hlegacy
  rw [if_neg hunpaid, h] at hlegacy
  simp only at hlegacy
  split at hlegacy
  · cases hlegacy
  · cases hlegacy
    show (confirmPendingBooking (updatePaymentByIntent db intent.id _) b).statusOf b = _
    rw [statusOf_confirmPendingBooking, if_pos ⟨rfl, hstatus⟩]

/-- What a transaction may have its caller tell. -/
def Tx.tells : Tx → NotificationType → Bool
  | .paymentSucceeded .., .bookingConfirmed | .paymentSucceeded .., .hostNewBooking => true
  | .paymentFailed .., .paymentFailed => true
  | .refundEvent .., .refundIssued => true
  | .cancelBooking .., .bookingCancelled | .cancelBooking .., .hostBookingCancelled => true
  | .releaseExpiredHold .., .bookingCancelled => true
  | .completeStays .., .reviewRequest => true
  | _, _ => false

theorem mem_hostSends_type {hostUsers : HostId → Option UserId} {type : NotificationType} {r : Booking}
    {send : Send} (h : send ∈ hostSends hostUsers type r) : send.type = type := by
  obtain ⟨user, -, rfl⟩ := Option.map_eq_some_iff.mp (Option.mem_toList.mp h)
  rfl

/-- A message of one type to the guest, and a notification of another to the host. -/
theorem mem_pair_type {hostUsers : HostId → Option UserId} {type hostType : NotificationType} {r : Booking}
    {send : Send} (h : send ∈ (⟨true, type, r.guestId, r.id⟩ : Send) :: hostSends hostUsers hostType r) :
    send.type = type ∨ send.type = hostType := by
  rcases List.mem_cons.mp h with rfl | hhost
  · exact .inl rfl
  · exact .inr (mem_hostSends_type hhost)

theorem Tx.sends_tells {t : Tx} {hostUsers : HostId → Option UserId} {db : Db} {send : Send}
    (h : send ∈ t.sends hostUsers db) : t.tells send.type = true := by
  cases t with
  | paymentSucceeded now intent =>
    change send ∈ (confirmedBooking now intent db).elim [] (sendBookingConfirmedMessage hostUsers) at h
    cases hr : confirmedBooking now intent db with
    | none => rw [hr] at h; cases h
    | some r =>
      rw [hr] at h
      rcases mem_pair_type h with htype | htype <;> rw [htype] <;> rfl
  | cancelBooking now input =>
    simp only [Tx.sends] at h
    split at h
    · cases hr : db.bookings.find? input.bookingId with
      | none => rw [hr] at h; cases h
      | some r =>
        rw [hr] at h
        rcases mem_pair_type h with htype | htype <;> rw [htype] <;> rfl
    · cases h
  | paymentFailed intent =>
    obtain ⟨r, -, rfl⟩ := Option.map_eq_some_iff.mp (Option.mem_toList.mp h)
    rfl
  | refundEvent refund =>
    obtain ⟨r, -, rfl⟩ := Option.map_eq_some_iff.mp (Option.mem_toList.mp h)
    rfl
  | releaseExpiredHold now b =>
    obtain ⟨r, -, rfl⟩ := Option.map_eq_some_iff.mp (Option.mem_toList.mp h)
    rfl
  | completeStays today =>
    obtain ⟨r, -, rfl⟩ := List.mem_map.mp h
    rfl
  | _ => cases h

/-- A transaction that tells nothing of the kinds has nothing of them sent. -/
theorem Tx.countP_sends_eq_zero {t : Tx} {kinds : NotificationType → Bool}
    (h : ∀ type, t.tells type = true → kinds type = false) (hostUsers : HostId → Option UserId) (db : Db)
    (b : BookingId) : (t.sends hostUsers db).countP (Send.about kinds b) = 0 :=
  List.countP_eq_zero.mpr fun send hsend habout =>
    absurd ((Bool.and_eq_true _ _).mp habout).2 (by rw [h send.type (Tx.sends_tells hsend)]; exact Bool.false_ne_true)

theorem countP_pair_le (kinds : NotificationType → Bool) (type hostType : NotificationType)
    (hone : ¬ (kinds type ∧ kinds hostType)) (b : BookingId) (hostUsers : HostId → Option UserId) (r : Booking) :
    ((⟨true, type, r.guestId, r.id⟩ : Send) :: hostSends hostUsers hostType r).countP (Send.about kinds b) ≤
      if r.id = b then 1 else 0 := by
  have hhost := countP_hostSends_le kinds b hostUsers hostType r
  rw [List.countP_cons]
  by_cases hb : r.id = b
  · simp only [hb, Send.about, decide_true, Bool.true_and, true_and, if_true] at hhost ⊢
    cases hkind : kinds type with
    | false => simp only [Bool.false_eq_true, if_false]; split at hhost <;> omega
    | true =>
      rw [if_neg fun hhostKind => hone ⟨hkind, hhostKind⟩] at hhost
      rw [if_pos rfl]
      omega
  · rw [if_neg fun h => hb h.1] at hhost
    simp only [hb, Send.about, decide_false, Bool.false_and, Bool.false_eq_true, if_false]
    omega

/-- A booking is confirmed to somebody only by the transaction that confirms it, and once. -/
theorem confirms_sends (toHost : Bool) (hostUsers : HostId → Option UserId) (db : Db) (t : Tx) (b : BookingId) :
    (t.sends hostUsers db).countP (Send.about (NotificationType.confirmsTo toHost) b) = 0 ∨
      (t.sends hostUsers db).countP (Send.about (NotificationType.confirmsTo toHost) b) ≤ 1 ∧
        db.awaitsPayment b = true ∧ (t.exec db).awaitsPayment b = false := by
  cases t with
  | paymentSucceeded now intent =>
    have hsends : (Tx.paymentSucceeded now intent).sends hostUsers db =
        (confirmedBooking now intent db).elim [] (sendBookingConfirmedMessage hostUsers) := rfl
    rw [hsends]
    cases hr : confirmedBooking now intent db with
    | none => exact .inl rfl
    | some r =>
      have hcount := countP_pair_le (NotificationType.confirmsTo toHost) .bookingConfirmed .hostNewBooking
        (by cases toHost <;> simp [NotificationType.confirmsTo]) b hostUsers r
      by_cases hb : r.id = b
      · obtain ⟨hbefore, hafter⟩ := confirmedBooking_eq_some hr
        rw [hb] at hbefore hafter
        rw [if_pos hb] at hcount
        refine .inr ⟨hcount, ?_, ?_⟩
        · unfold Db.awaitsPayment; rw [hbefore]; rfl
        · unfold Db.awaitsPayment; rw [hafter]; rfl
      · rw [if_neg hb] at hcount
        exact .inl (Nat.le_zero.mp hcount)
  | _ =>
    refine .inl (Tx.countP_sends_eq_zero (fun type => ?_) ..)
    cases toHost <;> cases type <;> simp [Tx.tells, NotificationType.confirmsTo]

/-- A booking whose nights are released while it is live has ended. -/
theorem ends_releaseNights {db : Db} {r : Booking} (hr : db.bookings.find? r.id = some r) (hlive : r.status.live)
    (today : Int) (which : AvailabilityBlock → Bool) (set : Booking → Booking)
    (hset : ∀ row : Booking, Lib.key (set row) = Lib.key row) (hcancel : (set r).status = .cancelled) :
    db.underway r.id = true ∧ (releaseNights db today r which set hset).underway r.id = false := by
  have hbefore : db.statusOf r.id = some r.status := Db.statusOf_eq_some.mpr ⟨r, hr, rfl⟩
  have hafter : (releaseNights db today r which set hset).statusOf r.id = some .cancelled :=
    Db.statusOf_eq_some.mpr ⟨set r, by rw [releaseNights_find?, if_pos rfl, hr]; rfl, hcancel⟩
  unfold Db.underway
  rw [hbefore, hafter]
  refine ⟨?_, rfl⟩
  generalize r.status = st at hlive
  cases st with
  | pendingPayment | confirmed => rfl
  | draft | cancelled | completed | refunded | disputed => cases hlive

theorem ends_completeStays {today : Int} {db : Db} {r : Booking} (hr : r ∈ completedRows today db) :
    db.underway r.id = true ∧ (completeStays today db).underway r.id = false := by
  obtain ⟨hmem, hover⟩ := List.mem_filter.mp hr
  have hfind : db.bookings.find? r.id = some r := Table.find?_of_mem hmem
  have hbefore : db.statusOf r.id = some .confirmed :=
    Db.statusOf_eq_some.mpr ⟨r, hfind, (of_decide_eq_true hover).1⟩
  have hafter : (completeStays today db).statusOf r.id = some .completed := by
    refine Db.statusOf_eq_some.mpr ⟨{ r with status := .completed }, ?_, rfl⟩
    unfold completeStays
    rw [Table.find?_updateWhere, hfind]
    simp only [Option.map_some, if_pos hover]
  unfold Db.underway
  rw [hbefore, hafter]
  exact ⟨rfl, rfl⟩

/-- The table has one row for the booking. -/
theorem countP_completed_le (kinds : NotificationType → Bool) (today : Int) (db : Db) (b : BookingId) :
    ((completedRows today db).map fun r => (⟨true, .reviewRequest, r.guestId, r.id⟩ : Send)).countP
      (Send.about kinds b) ≤ 1 := by
  have hnodup : ((completedRows today db).map Lib.key).Nodup :=
    db.bookings.nodup.sublist (List.filter_sublist.map Lib.key)
  have honce : ((completedRows today db).map Lib.key).countP (fun id => id == b) ≤ 1 :=
    List.nodup_iff_count_le_one.mp hnodup b
  rw [List.countP_map] at honce ⊢
  refine (List.countP_mono_left fun r _ habout => ?_).trans honce
  simp only [Function.comp_apply, Send.about, Bool.and_eq_true] at habout
  exact beq_of_eq (of_decide_eq_true habout.1)

theorem ends_cancelBooking (toHost : Bool) (hostUsers : HostId → Option UserId) (db : Db) (now : Int)
    (input : CancelBookingInput) (b : BookingId) :
    ((Tx.cancelBooking now input).sends hostUsers db).countP (Send.about (NotificationType.endsTo toHost) b) = 0 ∨
      ((Tx.cancelBooking now input).sends hostUsers db).countP (Send.about (NotificationType.endsTo toHost) b) ≤ 1 ∧
        db.underway b = true ∧ ((Tx.cancelBooking now input).exec db).underway b = false := by
  cases hcancel : HostPlatform.cancelBooking now input db with
  | error e =>
    have hsends : (Tx.cancelBooking now input).sends hostUsers db = [] := by
      simp only [Tx.sends, hcancel]
    exact .inl (by rw [hsends]; rfl)
  | ok p =>
    obtain ⟨result, db'⟩ := p
    obtain ⟨r, bpc, hr, -, hlive, -, hdb'⟩ := cancelBooking_eq_ok hcancel
    have hsends : (Tx.cancelBooking now input).sends hostUsers db = sendBookingCancelledMessage hostUsers r := by
      simp only [Tx.sends, hcancel, hr, Option.elim_some]
    have hexec : (Tx.cancelBooking now input).exec db = db' := by
      show commit db (HostPlatform.cancelBooking now input db) = db'
      rw [hcancel]
      rfl
    have hcount := countP_pair_le (NotificationType.endsTo toHost) .bookingCancelled .hostBookingCancelled
      (by cases toHost <;> simp [NotificationType.endsTo]) b hostUsers r
    rw [hsends, hexec, hdb']
    by_cases hb : r.id = b
    · rw [if_pos hb] at hcount
      have hid : r.id = input.bookingId := Table.key_of_find? hr
      exact .inr ⟨hcount, hb ▸ ends_releaseNights (hid ▸ hr) hlive _ _ _ _ rfl⟩
    · rw [if_neg hb] at hcount
      exact .inl (Nat.le_zero.mp hcount)

theorem ends_releaseExpiredHold (toHost : Bool) (hostUsers : HostId → Option UserId) (db : Db) (now : Int)
    (b' b : BookingId) :
    ((Tx.releaseExpiredHold now b').sends hostUsers db).countP (Send.about (NotificationType.endsTo toHost) b) = 0 ∨
      ((Tx.releaseExpiredHold now b').sends hostUsers db).countP (Send.about (NotificationType.endsTo toHost) b) ≤ 1 ∧
        db.underway b = true ∧ ((Tx.releaseExpiredHold now b').exec db).underway b = false := by
  cases hr : expiredHold now b' db with
  | none =>
    have hsends : (Tx.releaseExpiredHold now b').sends hostUsers db = [] := by
      simp only [Tx.sends, hr, Option.map_none, Option.toList_none]
    exact .inl (by rw [hsends]; rfl)
  | some r =>
    obtain ⟨hfind, hpending, -⟩ := expiredHold_eq_some hr
    have hsends : (Tx.releaseExpiredHold now b').sends hostUsers db =
        [⟨false, .bookingCancelled, r.guestId, r.id⟩] := by
      simp only [Tx.sends, hr, Option.map_some, Option.toList_some]
    have hid : r.id = b' := Table.key_of_find? hfind
    rw [hsends]
    by_cases hb : r.id = b
    · have hends := ends_releaseNights (by rw [hid]; exact hfind) (by rw [hpending]; rfl) (currentDate now)
        isBookedBlock (fun row => { row with status := .cancelled }) Booking.key_cancelled rfl
      refine .inr ⟨List.countP_le_length, hb ▸ hends.1, ?_⟩
      have hexec : (Tx.releaseExpiredHold now b').exec db = releaseNights db (currentDate now) r isBookedBlock
          (fun row => { row with status := .cancelled }) Booking.key_cancelled := by
        show (HostPlatform.releaseExpiredHold now b' db).2 = _
        unfold HostPlatform.releaseExpiredHold
        rw [hr]
      rw [hexec]
      exact hb ▸ hends.2
    · exact .inl (by simp [Send.about, hb])

/-- A booking is cancelled or over to somebody only by the transaction that ends it, and once. -/
theorem ends_sends (toHost : Bool) (hostUsers : HostId → Option UserId) (db : Db) (t : Tx) (b : BookingId) :
    (t.sends hostUsers db).countP (Send.about (NotificationType.endsTo toHost) b) = 0 ∨
      (t.sends hostUsers db).countP (Send.about (NotificationType.endsTo toHost) b) ≤ 1 ∧
        db.underway b = true ∧ (t.exec db).underway b = false := by
  cases t with
  | cancelBooking now input => exact ends_cancelBooking toHost hostUsers db now input b
  | releaseExpiredHold now b' => exact ends_releaseExpiredHold toHost hostUsers db now b' b
  | completeStays today =>
    by_cases hzero : ((Tx.completeStays today).sends hostUsers db).countP
        (Send.about (NotificationType.endsTo toHost) b) = 0
    · exact .inl hzero
    · obtain ⟨send, hsend, habout⟩ := List.countP_pos_iff.mp (Nat.pos_of_ne_zero hzero)
      obtain ⟨r, hr, rfl⟩ := List.mem_map.mp hsend
      have hb : r.id = b := of_decide_eq_true ((Bool.and_eq_true _ _).mp habout).1
      exact .inr ⟨countP_completed_le _ today db b, hb ▸ ends_completeStays hr⟩
  | _ =>
    refine .inl (Tx.countP_sends_eq_zero (fun type => ?_) ..)
    cases toHost <;> cases type <;> simp [Tx.tells, NotificationType.endsTo]

/-! ## Whole runs -/

theorem NoticeWorld.mem_messageSends_type {w : NoticeWorld} {b : BookingId} {fromGuest : Bool} {send : Send}
    (h : send ∈ w.messageSends b fromGuest) : send.type = .newMessage := by
  unfold messageSends at h
  split at h
  · cases h
  · split at h
    · exact mem_hostSends_type h
    · rw [List.mem_singleton.mp h]

/-- The other steps send reminders, or tell of a message. -/
theorem NoticeWorld.queued_le {kinds : NotificationType → Bool} {b : BookingId} {counts : Notice → Bool}
    (h : CountsAbout kinds b counts) (w : NoticeWorld) {s : NoticeStep}
    (hother : ∀ t, s ≠ .tx t) (hreminder : kinds .checkinReminder = false)
    (hinfo : kinds .checkinInfoAvailable = false) (hmessage : kinds .newMessage = false) : w.queued counts s = 0 := by
  refine h.countP_eq_zero fun send hsend habout => ?_
  have hkind : kinds send.type = true := ((Bool.and_eq_true _ _).mp habout).2
  cases s with
  | tx t => exact hother t rfl
  | sendCheckinReminders today =>
    obtain ⟨r, -, hr⟩ := List.mem_flatMap.mp hsend
    rcases List.mem_pair.mp hr with rfl | rfl
    · rw [hreminder] at hkind; cases hkind
    · rw [hinfo] at hkind; cases hkind
  | messageSent b' fromGuest =>
    rw [mem_messageSends_type hsend, hmessage] at hkind
    cases hkind
  | setEmailPreference user email => cases hsend
  | deleteAccount user => cases hsend
  | next i ok => cases hsend
  | stop i => cases hsend

theorem NoticeWorld.queued_tx_le {kinds : NotificationType → Bool} {b : BookingId} {counts : Notice → Bool}
    (h : CountsAbout kinds b counts) (w : NoticeWorld) (t : Tx) :
    w.queued counts (.tx t) ≤ (t.sends w.hostUsers w.db).countP (Send.about kinds b) := h.flatMap _

/-- Telling that a booking is confirmed takes the credit that it waited for payment. -/
theorem NoticeWorld.confirms_pays (toHost : Bool) {b : BookingId} {counts : Notice → Bool}
    (h : CountsAbout (NotificationType.confirmsTo toHost) b counts) (w : NoticeWorld) (s : NoticeStep) :
    Pays noticeStep (fun w => w.db.awaitsPayment b) (queued counts) (fun _ _ => 0) w s := by
  by_cases htx : ∃ t, s = .tx t
  · obtain ⟨t, rfl⟩ := htx
    have hqueued := queued_tx_le h w t
    rcases confirms_sends toHost w.hostUsers w.db t b with hzero | ⟨hone, hbefore, hafter⟩
    · exact .inl (hqueued.trans hzero.le)
    · exact .inr ⟨hqueued.trans hone, hbefore, hafter⟩
  · have hzero : w.queued counts s = 0 := queued_le h w (fun t ht => htx ⟨t, ht⟩) (by cases toHost <;> rfl)
      (by cases toHost <;> rfl) (by cases toHost <;> rfl)
    exact .inl hzero.le

/-- Telling that a booking is cancelled or over takes the credit that it was under way. -/
theorem NoticeWorld.ends_pays (toHost : Bool) {b : BookingId} {counts : Notice → Bool}
    (h : CountsAbout (NotificationType.endsTo toHost) b counts) (w : NoticeWorld) (s : NoticeStep) :
    Pays noticeStep (fun w => w.db.underway b) (queued counts) (fun _ _ => 0) w s := by
  by_cases htx : ∃ t, s = .tx t
  · obtain ⟨t, rfl⟩ := htx
    have hqueued := queued_tx_le h w t
    rcases ends_sends toHost w.hostUsers w.db t b with hzero | ⟨hone, hbefore, hafter⟩
    · exact .inl (hqueued.trans hzero.le)
    · exact .inr ⟨hqueued.trans hone, hbefore, hafter⟩
  · have hzero : w.queued counts s = 0 := queued_le h w (fun t ht => htx ⟨t, ht⟩) (by cases toHost <;> rfl)
      (by cases toHost <;> rfl) (by cases toHost <;> rfl)
    exact .inl hzero.le

/-- A booking that left `pending_payment` does not return to it. -/
theorem awaitsPayment_exec {t : Tx} {db : Db} {b : BookingId} (h : db.awaitsPayment b = false) :
    (t.exec db).awaitsPayment b = false := by
  unfold Db.awaitsPayment at h ⊢
  cases hst : db.statusOf b with
  | none => rw [hst] at h; cases h
  | some st =>
    rw [hst] at h
    have hpaid : st ≠ .pendingPayment := of_decide_eq_false h
    obtain ⟨r, hr, rfl⟩ := Db.statusOf_eq_some.mp hst
    obtain ⟨r', hr', -, hmove⟩ := (t.effect db).row hr
    rw [Db.statusOf_eq_some.mpr ⟨r', hr', rfl⟩]
    refine decide_eq_false fun hpending => ?_
    rcases hmove with hmove | ⟨-, hcancelled⟩
    · rw [hpending] at hmove
      generalize r.status = st at hmove hpaid
      cases hmove
      exact hpaid rfl
    · rw [hcancelled] at hpending
      cases hpending

/-- The booking had ended, and the step brings it back. -/
def NoticeWorld.revived (b : BookingId) : NoticeWorld → NoticeStep → Nat :=
  regained noticeStep fun w => w.db.underway b

/-- Only a partial refund brings a booking back. -/
theorem NoticeWorld.partiallyRefunds_of_revived {b : BookingId} {w : NoticeWorld} {s : NoticeStep}
    (h : w.revived b s ≠ 0) : ∃ refund, s = .tx (.refundEvent refund) ∧ partiallyRefunds refund b w.db := by
  have hended : w.db.underway b = false ∧ (noticeStep w s).db.underway b = true := by
    simpa [revived, regained] using h
  have hterminal : w.db.isTerminal b := by
    simpa [Db.underway, Option.any_eq_true, Db.isTerminal] using hended.1
  have hopen : ∀ db : Db, db.underway b = true → ¬ db.isTerminal b := by
    rintro db hunderway ⟨st, hst, hterm⟩
    rw [Db.underway, hst, Option.any_some, hterm] at hunderway
    cases hunderway
  by_cases htx : ∃ t, s = .tx t
  · obtain ⟨t, rfl⟩ := htx
    by_contra hnone
    refine hopen _ hended.2 (isTerminal_exec hterminal fun hre => ?_)
    obtain ⟨refund, rfl, hpartly⟩ := hre
    exact hnone ⟨refund, rfl, hpartly⟩
  · rw [noticeStep_db fun t ht => htx ⟨t, ht⟩, hended.1] at hended
    cases hended.2

/-- What tells of the booking's end grows by what callers still owe, by the booking's end if it
is to come, and once with each refund that brings the booking back. -/
theorem NoticeWorld.ends_run_le (toHost : Bool) {b : BookingId} {counts : Notice → Bool}
    (h : CountsAbout (NotificationType.endsTo toHost) b counts) (w : NoticeWorld) (steps : List NoticeStep) :
    (run noticeStep w steps).delivered counts ≤ w.delivered counts + w.owed counts +
      (w.db.underway b).toNat + sumOver noticeStep (revived b) w steps := by
  have hrun := delivered_run_le (step_conserves counts) (ends_pays toHost h) w steps
  change _ ≤ _ + sumOver noticeStep (revived b) w steps at hrun
  omega

theorem NoticeWorld.confirms_run_le (toHost : Bool) {b : BookingId} {counts : Notice → Bool}
    (h : CountsAbout (NotificationType.confirmsTo toHost) b counts) (w : NoticeWorld) (steps : List NoticeStep) :
    (run noticeStep w steps).delivered counts ≤ w.delivered counts + w.owed counts +
      (w.db.awaitsPayment b).toNat := by
  have hnever : ∀ w s, regained noticeStep (fun w : NoticeWorld => w.db.awaitsPayment b) w s + 0 = 0 := by
    intro w s
    show (!w.db.awaitsPayment b && (noticeStep w s).db.awaitsPayment b).toNat = 0
    cases hbefore : w.db.awaitsPayment b with
    | true => rfl
    | false =>
      by_cases htx : ∃ t, s = .tx t
      · obtain ⟨t, rfl⟩ := htx
        show (true && (t.exec w.db).awaitsPayment b).toNat = 0
        rw [awaitsPayment_exec hbefore]
        rfl
      · rw [noticeStep_db fun t ht => htx ⟨t, ht⟩, hbefore]
        rfl
  have hrun := delivered_run_le (step_conserves counts) (confirms_pays toHost h) w steps
  rw [sumOver_eq_zero hnever] at hrun
  omega

/-- The system messages of the kinds in the booking's conversation. -/
def NoticeWorld.posted (kinds : NotificationType → Bool) (b : BookingId) (w : NoticeWorld) : Nat :=
  w.messages.countP fun m => decide (m.1 = b) && kinds m.2

/-- The rows of the kinds in the user's inbox that refer to the booking. -/
def NoticeWorld.inbox (kinds : NotificationType → Bool) (b : BookingId) (user : UserId) (w : NoticeWorld) : Nat :=
  w.notifications.countP fun n =>
    decide (n.channel = .inApp) && (decide (n.userId = user) && (decide (n.bookingRef = b) && kinds n.type))

theorem NoticeWorld.delivered_isMessage (kinds : NotificationType → Bool) (b : BookingId) (w : NoticeWorld) :
    w.delivered (Notice.isMessage kinds b) = w.posted kinds b := by
  simp [delivered, posted, Notice.isMessage]

theorem NoticeWorld.delivered_isInApp (kinds : NotificationType → Bool) (b : BookingId) (user : UserId)
    (w : NoticeWorld) : w.delivered (Notice.isInApp kinds b user) = w.inbox kinds b user := by
  simp [delivered, inbox, Notice.isInApp]

theorem NoticeWorld.delivered_start (db : Db) (hostUsers : HostId → Option UserId) (counts : Notice → Bool) :
    (start db hostUsers).delivered counts + (start db hostUsers).owed counts = 0 := rfl

/-- Whatever calls stop or run at once, nobody is told twice in one role, guest or host, that a booking
is confirmed, and nobody is told in one role of its end more often than once, and once more for each
refund that brought it back. -/
theorem told_le (db : Db) (hostUsers : HostId → Option UserId) (steps : List NoticeStep) (b : BookingId)
    (toHost : Bool) (user : UserId) :
    let w := run noticeStep (.start db hostUsers) steps
    let revivals := sumOver noticeStep (NoticeWorld.revived b) (.start db hostUsers) steps
    w.posted (NotificationType.confirmsTo toHost) b ≤ 1 ∧
      w.inbox (NotificationType.confirmsTo toHost) b user ≤ 1 ∧
      w.posted (NotificationType.endsTo toHost) b ≤ 1 + revivals ∧
      w.inbox (NotificationType.endsTo toHost) b user ≤ 1 + revivals := by
  have hconfirms {counts : Notice → Bool} (h : CountsAbout (NotificationType.confirmsTo toHost) b counts) :
      (run noticeStep (.start db hostUsers) steps).delivered counts ≤ 1 :=
    (NoticeWorld.confirms_run_le toHost h _ steps).trans (by simp [NoticeWorld.delivered_start, Bool.toNat_le])
  have hends {counts : Notice → Bool} (h : CountsAbout (NotificationType.endsTo toHost) b counts) :
      (run noticeStep (.start db hostUsers) steps).delivered counts ≤
        1 + sumOver noticeStep (NoticeWorld.revived b) (.start db hostUsers) steps := by
    refine (NoticeWorld.ends_run_le toHost h _ steps).trans (Nat.add_le_add_right ?_ _)
    simp [NoticeWorld.delivered_start, Bool.toNat_le]
  intro w revivals
  refine ⟨?_, ?_, ?_, ?_⟩
  · exact NoticeWorld.delivered_isMessage _ b w ▸ hconfirms (countsAbout_message _ b)
  · exact NoticeWorld.delivered_isInApp _ b user w ▸ hconfirms (countsAbout_inApp _ b user)
  · exact NoticeWorld.delivered_isMessage _ b w ▸ hends (countsAbout_message _ b)
  · exact NoticeWorld.delivered_isInApp _ b user w ▸ hends (countsAbout_inApp _ b user)

/-- What a caller that stopped had still to say of a booking's end, to the guest or to the host, is
said to that role by nobody, unless a refund brings the booking back: then once for each. -/
theorem unsaid_stays_unsaid (toHost : Bool) (b : BookingId) (user : UserId) (w : NoticeWorld)
    (steps : List NoticeStep) (hended : w.db.underway b = false)
    (hposting : w.owed (Notice.isMessage (NotificationType.endsTo toHost) b) = 0)
    (hrecording : w.owed (Notice.isInApp (NotificationType.endsTo toHost) b user) = 0) :
    let revivals := sumOver noticeStep (NoticeWorld.revived b) w steps
    (run noticeStep w steps).posted (NotificationType.endsTo toHost) b ≤
        w.posted (NotificationType.endsTo toHost) b + revivals ∧
      (run noticeStep w steps).inbox (NotificationType.endsTo toHost) b user ≤
        w.inbox (NotificationType.endsTo toHost) b user + revivals := by
  have hmessages := NoticeWorld.ends_run_le toHost (countsAbout_message (NotificationType.endsTo toHost) b) w steps
  have hrows := NoticeWorld.ends_run_le toHost (countsAbout_inApp (NotificationType.endsTo toHost) b user) w steps
  rw [hended, hposting, NoticeWorld.delivered_isMessage, NoticeWorld.delivered_isMessage] at hmessages
  rw [hended, hrecording, NoticeWorld.delivered_isInApp, NoticeWorld.delivered_isInApp] at hrows
  exact ⟨hmessages, hrows⟩

/-- A stay is over, and the sweep stops before it has asked for a review. -/
def stoppedSweep : List NoticeStep :=
  [ .tx (.createBooking 0 false (sampleRequest "a")),
    .tx (.upsertPayment 1 7 20000 "GBP"),
    .tx (.paymentSucceeded 0 ⟨7, some 1, none, none, none⟩),
    .tx (.completeStays 103),
    .stop 3 ]

theorem stoppedSweep_unsaid :
    (run noticeStep (run noticeStep (.start sampleDb some) stoppedSweep)
        [.tx (.completeStays 104), .next 4 true, .next 4 true, .next 4 true]).posted
          (NotificationType.endsTo false) 1 ≤ 0 :=
  (unsaid_stays_unsaid false 1 3 (run noticeStep (.start sampleDb some) stoppedSweep)
    [.tx (.completeStays 104), .next 4 true, .next 4 true, .next 4 true] (by decide) (by decide) (by decide)).1

end HostPlatform
