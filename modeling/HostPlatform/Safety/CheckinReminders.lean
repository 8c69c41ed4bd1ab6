-- SUMMARY: Check-in reminders: how often one is sent, what a sweep that returns has sent, and what a stopped one leaves out for good.
import HostPlatform.Safety.NotificationDelivery

/-!
# Check-in reminders

`sendCheckinReminders` keeps no record of its own: a booking is due while its guest has no
`checkin_reminder` for it. The row is written by the fourth statement after the SELECT, so two
sweeps at once both send; and it stands for the check-in information too, which is sent after it.
-/

namespace HostPlatform

open Lib (Table)
open Lib.Outbox
open Lib.Transition

/-- Notifications of one type. -/
def NotificationType.isJust (type : NotificationType) (type' : NotificationType) : Bool := decide (type' = type)

namespace NoticeWorld

/-! ## What a sweep sends -/

theorem dueReminders_iff {w : NoticeWorld} {today : Int} {r : Booking} :
    r ∈ w.dueReminders today ↔
      r ∈ w.db.bookings.rows ∧ (r.status = .confirmed ∧ r.checkIn = today + 1) ∧ w.reminded r = false := by
  unfold dueReminders Table.select
  rw [List.mem_filter, Bool.and_eq_true, decide_eq_true_eq, Bool.not_eq_true']

theorem reminded_iff {w : NoticeWorld} {r : Booking} :
    w.reminded r = true ↔
      ∃ n ∈ w.notifications, n.userId = r.guestId ∧ n.type = .checkinReminder ∧ n.bookingRef = r.id := by
  unfold reminded
  rw [List.any_eq_true]
  simp only [decide_eq_true_eq]

/-- One booking is selected once. -/
theorem countP_dueReminders_le (w : NoticeWorld) (today : Int) (b : BookingId) :
    (w.dueReminders today).countP (fun r => decide (r.id = b)) ≤ 1 := by
  have hnodup : ((w.dueReminders today).map Lib.key).Nodup :=
    w.db.bookings.nodup.sublist (List.filter_sublist.map Lib.key)
  have honce : ((w.dueReminders today).map Lib.key).countP (fun id => id == b) ≤ 1 :=
    List.nodup_iff_count_le_one.mp hnodup b
  rw [List.countP_map] at honce
  refine (List.countP_mono_left fun r _ hr => ?_).trans honce
  exact beq_of_eq (of_decide_eq_true hr)

/-- A sweep sends one booking at most one notification of a type. -/
theorem countP_reminderSends_le (w : NoticeWorld) (today : Int) (type : NotificationType) (b : BookingId) :
    (w.reminderSends today).countP (Send.about type.isJust b) ≤ 1 := by
  refine le_trans ?_ (countP_dueReminders_le w today b)
  unfold reminderSends
  generalize w.dueReminders today = due
  induction due with
  | nil => exact le_rfl
  | cons r due ih =>
    have hpair : [(⟨true, .checkinReminder, r.guestId, r.id⟩ : Send),
        ⟨true, .checkinInfoAvailable, r.guestId, r.id⟩].countP (Send.about type.isJust b) ≤
          if decide (r.id = b) then 1 else 0 := by
      by_cases hb : r.id = b
      · rw [if_pos (decide_eq_true hb)]
        cases type <;> simp [Send.about, NotificationType.isJust, hb]
      · simp [Send.about, hb]
    have hhead := List.countP_cons (p := fun r : Booking => decide (r.id = b)) (a := r) (l := due)
    rw [List.flatMap_cons, List.countP_append, hhead]
    omega

/-- No other step sends notifications of the two types. -/
theorem queued_eq_zero_of_tells {type : NotificationType}
    (htype : type = .checkinReminder ∨ type = .checkinInfoAvailable) {b : BookingId} {counts : Notice → Bool}
    (h : CountsAbout type.isJust b counts) (w : NoticeWorld) {s : NoticeStep}
    (hs : ∀ today, s ≠ .sendCheckinReminders today) : w.queued counts s = 0 := by
  cases s with
  | tx t =>
    refine Nat.le_zero.mp ((queued_tx_le h w t).trans (Tx.countP_sends_eq_zero (fun type' htells => ?_) ..).le)
    rcases htype with rfl | rfl <;> cases t <;> cases type' <;> simp [Tx.tells, NotificationType.isJust] at htells ⊢
  | sendCheckinReminders today => exact absurd rfl (hs today)
  | messageSent b' fromGuest =>
    refine h.countP_eq_zero fun send hsend habout => ?_
    have hkind : type.isJust send.type = true := ((Bool.and_eq_true _ _).mp habout).2
    rw [mem_messageSends_type hsend] at hkind
    rcases htype with rfl | rfl <;> cases hkind
  | setEmailPreference user email => rfl
  | deleteAccount user => rfl
  | next i ok => rfl
  | stop i => rfl

/-- What a sweep sends to the user for the booking is for a row it selected. -/
theorem dueReminder_of_queued {w : NoticeWorld} {today : Int} {type : NotificationType} {b : BookingId}
    {user : UserId} (h : w.queued (Notice.isInApp type.isJust b user) (.sendCheckinReminders today) ≠ 0) :
    ∃ r ∈ w.dueReminders today, r.id = b ∧ r.guestId = user := by
  obtain ⟨d, hd, hcounts⟩ := List.countP_pos_iff.mp (Nat.pos_of_ne_zero h)
  obtain ⟨send, hsend, hdelivery⟩ := List.mem_flatMap.mp hd
  obtain ⟨r, hr, hpair⟩ := List.mem_flatMap.mp hsend
  have hsent : send.userId = r.guestId ∧ send.bookingRef = r.id := by
    rcases List.mem_pair.mp hpair with rfl | rfl <;> exact ⟨rfl, rfl⟩
  have hinApp : d = .inApp send.userId send.type send.bookingRef := by
    unfold Send.notices at hdelivery
    split at hdelivery
    · rcases List.mem_pair.mp hdelivery with rfl | rfl
      · cases hcounts
      · rfl
    · exact List.mem_singleton.mp hdelivery
  rw [hinApp] at hcounts
  simp only [Notice.isInApp, Bool.and_eq_true, decide_eq_true_eq] at hcounts
  exact ⟨r, hr, hsent.2 ▸ hcounts.2.1, hsent.1 ▸ hcounts.1⟩

/-- A reminder is sent by nothing but a sweep, and to a guest who has none. -/
theorem queued_reminder_le (w : NoticeWorld) (s : NoticeStep) (b : BookingId) (user : UserId) :
    w.queued (Notice.isInApp (NotificationType.isJust .checkinReminder) b user) s = 0 ∨
      w.queued (Notice.isInApp (NotificationType.isJust .checkinReminder) b user) s ≤ 1 ∧
        w.inbox (NotificationType.isJust .checkinReminder) b user = 0 := by
  by_cases hs : ∃ today, s = .sendCheckinReminders today
  · obtain ⟨today, rfl⟩ := hs
    by_cases hzero : w.queued (Notice.isInApp (NotificationType.isJust .checkinReminder) b user)
        (.sendCheckinReminders today) = 0
    · exact .inl hzero
    · obtain ⟨r, hr, rfl, rfl⟩ := dueReminder_of_queued hzero
      have hone := (countsAbout_inApp (NotificationType.isJust .checkinReminder) r.id r.guestId).flatMap
        (w.reminderSends today)
      refine .inr ⟨hone.trans (countP_reminderSends_le w today _ r.id), ?_⟩
      have hunreminded := (dueReminders_iff.mp hr).2.2
      refine List.countP_eq_zero.mpr fun n hn hcounts => ?_
      simp only [NotificationType.isJust, Bool.and_eq_true, decide_eq_true_eq] at hcounts
      rw [reminded_iff.mpr ⟨n, hn, hcounts.2.1, hcounts.2.2.2, hcounts.2.2.1⟩] at hunreminded
      cases hunreminded
  · exact .inl (queued_eq_zero_of_tells (.inl rfl) (countsAbout_inApp _ b user) w fun today ht => hs ⟨today, ht⟩)

/-- The reminders of the booking the user has, and those that callers have still to send. -/
def remindersMadeOrOwed (b : BookingId) (user : UserId) (w : NoticeWorld) : Nat :=
  let counts := Notice.isInApp (NotificationType.isJust .checkinReminder) b user
  w.delivered counts + w.owed counts

/-- The sweep selects the booking while another caller has still to remind the user of it. -/
def overlapping (b : BookingId) (user : UserId) (w : NoticeWorld) (s : NoticeStep) : Nat :=
  let counts := Notice.isInApp (NotificationType.isJust .checkinReminder) b user
  if w.owed counts = 0 then 0 else w.queued counts s

end NoticeWorld

/-- A user is reminded of a booking once, and once more for each sweep that selects the booking while
another has still to send the reminder. -/
theorem reminded_le (db : Db) (hostUsers : HostId → Option UserId) (steps : List NoticeStep) (b : BookingId)
    (user : UserId) :
    (run noticeStep (.start db hostUsers) steps).inbox (NotificationType.isJust .checkinReminder) b user ≤
      1 + sumOver noticeStep (NoticeWorld.overlapping b user) (.start db hostUsers) steps := by
  have hstep : ∀ w s, True → True → max 1 ((noticeStep w s).remindersMadeOrOwed b user) ≤
      max 1 (w.remindersMadeOrOwed b user) + NoticeWorld.overlapping b user w s := by
    intro w s _ _
    have hconserve := NoticeWorld.step_conserves
      (Notice.isInApp (NotificationType.isJust .checkinReminder) b user) w s
    unfold NoticeWorld.remindersMadeOrOwed NoticeWorld.overlapping
    rcases NoticeWorld.queued_reminder_le w s b user with hzero | ⟨hone, hnone⟩
    · simp only [hzero, ite_self]
      omega
    · rw [← NoticeWorld.delivered_isInApp] at hnone
      simp only
      split <;> omega
  have hrun := measure_run_le (I := fun _ => True) (m := fun w => max 1 (w.remindersMadeOrOwed b user))
    (fun _ _ _ _ => trivial) hstep trivial (guarded_true (s := NoticeWorld.start db hostUsers) steps)
  have hstart : (NoticeWorld.start db hostUsers).remindersMadeOrOwed b user = 0 :=
    NoticeWorld.delivered_start db hostUsers _
  rw [hstart] at hrun
  simp only [NoticeWorld.remindersMadeOrOwed] at hrun
  rw [← NoticeWorld.delivered_isInApp]
  omega

/-! ## A sweep that returns -/

/-- The delivery has been made, and is still there. -/
def NoticeWorld.made (w : NoticeWorld) : Notice → Prop
  | .message b type => (b, type) ∈ w.messages
  | .inApp user type b =>
    ∃ n ∈ w.notifications, n.channel = .inApp ∧ n.userId = user ∧ n.type = type ∧ n.bookingRef = b

/-- The step deletes what the delivery left. -/
def NoticeStep.erases : NoticeStep → Notice → Prop
  | .deleteAccount user, .inApp user' _ _ => user = user'
  | _, _ => False

theorem NoticeCall.start_returned (sends : List Send) :
    (start sends).phase = .returned → (start sends).todo = [] := by
  cases sends with
  | nil => exact fun _ => rfl
  | cons send todo => cases hposts : send.posts <;> simp [start, hposts]

namespace NoticeWorld

/-- A property of rows that does not speak of their status. -/
def RowProperty (p : Notification → Prop) : Prop := ∀ n status, p n → p { n with status := status }

/-- A caller's statements leave a row with the property. -/
theorem rows_stepCall {p : Notification → Prop} (hp : RowProperty p) {w : NoticeWorld}
    (h : ∃ n ∈ w.notifications, p n) (c : NoticeCall) (ok : Bool) :
    ∃ n ∈ (w.stepCall c ok).2.notifications, p n := by
  obtain ⟨n, hn, hrow⟩ := h
  unfold stepCall
  split
  · split <;> exact ⟨n, hn, hrow⟩
  · exact ⟨n, hn, hrow⟩
  · exact ⟨n, List.mem_append_left _ hn, hrow⟩
  · exact ⟨n, List.mem_append_left _ hn, hrow⟩
  · refine ⟨_, List.mem_map.mpr ⟨n, hn, rfl⟩, ?_⟩
    split
    · exact hp n _ hrow
    · exact hrow
  · exact ⟨n, hn, hrow⟩
  · exact ⟨n, hn, hrow⟩

/-- Every step leaves it, unless it deletes the account of the row's user. -/
theorem rows_step {p : Notification → Prop} (hp : RowProperty p) {user : UserId}
    (huser : ∀ n, p n → n.userId = user) {w : NoticeWorld} (h : ∃ n ∈ w.notifications, p n) {s : NoticeStep}
    (hs : s ≠ .deleteAccount user) :
    ∃ n ∈ (noticeStep w s).notifications, p n := by
  cases s with
  | deleteAccount user' =>
    obtain ⟨n, hn, hrow⟩ := h
    refine ⟨n, List.mem_filter.mpr ⟨hn, decide_eq_true ?_⟩, hrow⟩
    rw [huser n hrow]
    exact fun hsame => hs (by rw [hsame])
  | next i ok =>
    show ∃ n ∈ (w.advance (.next i ok)).notifications, p n
    simp only [advance]
    split
    · exact h
    · exact rows_stepCall hp h _ ok
  | tx t => exact h
  | sendCheckinReminders today => exact h
  | messageSent b fromGuest => exact h
  | setEmailPreference user' email => exact h
  | stop i => exact h

theorem messages_step (w : NoticeWorld) (s : NoticeStep) {m : BookingId × NotificationType} (h : m ∈ w.messages) :
    m ∈ (noticeStep w s).messages := by
  cases s with
  | next i ok =>
    show m ∈ (w.advance (.next i ok)).messages
    simp only [advance]
    split
    · exact h
    · unfold stepCall
      split
      · split
        · exact List.mem_append_left _ h
        · exact h
      all_goals exact h
  | tx t => exact h
  | sendCheckinReminders today => exact h
  | messageSent b fromGuest => exact h
  | setEmailPreference user email => exact h
  | deleteAccount user => exact h
  | stop i => exact h

/-- What is made stays, unless the account is deleted. -/
theorem made_step {w : NoticeWorld} {d : Notice} (h : w.made d) {s : NoticeStep} (hs : ¬ s.erases d) :
    (noticeStep w s).made d := by
  cases d with
  | message b type => exact messages_step w s h
  | inApp user type b =>
    refine rows_step (fun _ _ hrow => hrow) (fun _ hrow => hrow.2.1) h fun hdelete => hs ?_
    rw [hdelete]
    exact rfl

/-- The next statement of a caller makes a delivery, leaves it to a later one, or fails. -/
theorem stepCall_keeps {w : NoticeWorld} {c : NoticeCall} {d : Notice} (hd : d ∈ c.outstanding) (ok : Bool) :
    (w.stepCall c ok).2.made d ∨ d ∈ (w.stepCall c ok).1.outstanding ∨ (w.stepCall c ok).1.phase = .failed := by
  obtain ⟨phase, todo⟩ := c
  rcases List.mem_append.mp hd with hnow | hlater
  · cases phase with
    | posting send =>
      simp only [stepCall]
      split
      · rcases List.mem_pair.mp hnow with rfl | rfl
        · exact .inl (List.mem_append_right _ List.mem_cons_self)
        · exact .inr (.inl (List.mem_append_left _ List.mem_cons_self))
      · exact .inr (.inr rfl)
    | readingPreferences send => exact .inr (.inl hd)
    | recording send email =>
      obtain rfl := List.mem_singleton.mp hnow
      exact .inl ⟨_, List.mem_append_right _ List.mem_cons_self, rfl, rfl, rfl, rfl⟩
    | queueing send => cases hnow
    | mailing row => cases hnow
    | returned => cases hnow
    | failed => cases hnow
  · cases phase with
    | posting send =>
      simp only [stepCall]
      split
      · exact .inr (.inl (List.mem_append_right _ hlater))
      · exact .inr (.inr rfl)
    | readingPreferences send => exact .inr (.inl (List.mem_append_right _ hlater))
    | recording send email =>
      refine .inr (.inl ?_)
      cases email with
      | true => exact List.mem_append_right _ hlater
      | false => exact NoticeCall.start_outstanding todo ▸ hlater
    | queueing send => exact .inr (.inl (List.mem_append_right _ hlater))
    | mailing row => exact .inr (.inl (NoticeCall.start_outstanding todo ▸ hlater))
    | returned => exact .inr (.inl hd)
    | failed => exact .inr (.inr rfl)

/-- A caller stays as it is, makes its next statement, or stops. -/
theorem call_step {w : NoticeWorld} {i : Nat} {c : NoticeCall} (hc : w.calls[i]? = some c) (s : NoticeStep) :
    (noticeStep w s).calls[i]? = some c ∨
      (∃ ok, s = .next i ok ∧ (noticeStep w s).calls[i]? = some (w.stepCall c ok).1) ∨
      s = .stop i ∧ (noticeStep w s).calls[i]? = some ⟨if c.phase = .returned then .returned else .failed, []⟩ := by
  have hlt : i < w.calls.length := List.getElem?_eq_some_iff.mp hc |>.1
  have hbegun {calls : List NoticeCall} {c' : NoticeCall} (h : calls[i]? = some c') :
      (calls ++ w.begun s)[i]? = some c' := by
    rw [List.getElem?_append_left (List.getElem?_eq_some_iff.mp h).1, h]
  cases s with
  | next j ok =>
    by_cases hj : j = i
    · subst hj
      refine .inr (.inl ⟨ok, rfl, hbegun ?_⟩)
      simp only [advance, hc]
      rw [List.getElem?_set_self hlt]
    · refine .inl (hbegun ?_)
      simp only [advance]
      split
      · exact hc
      · rw [List.getElem?_set_ne hj, hc]
  | stop j =>
    by_cases hj : j = i
    · subst hj
      refine .inr (.inr ⟨rfl, hbegun ?_⟩)
      simp only [advance, List.getElem?_modify_eq, hc, Option.map_some, Option.map_eq_map]
    · refine .inl (hbegun ?_)
      simp only [advance]
      rw [List.getElem?_modify_ne _ _ hj, hc]
  | tx t => exact .inl (hbegun hc)
  | sendCheckinReminders today => exact .inl (hbegun hc)
  | messageSent b fromGuest => exact .inl (hbegun hc)
  | setEmailPreference user email => exact .inl (hbegun hc)
  | deleteAccount user => exact .inl (hbegun hc)

/-- A caller that has returned has nothing left to send. -/
theorem stepCall_returned {w : NoticeWorld} {c : NoticeCall} (hc : c.phase = .returned → c.todo = []) (ok : Bool) :
    (w.stepCall c ok).1.phase = .returned → (w.stepCall c ok).1.todo = [] := by
  unfold stepCall
  split
  · split <;> rintro ⟨⟩
  · rintro ⟨⟩
  · split
    · rintro ⟨⟩
    · exact NoticeCall.start_returned c.todo
  · rintro ⟨⟩
  · exact NoticeCall.start_returned c.todo
  · exact hc
  · exact hc

/-- The delivery of caller `i` is made, is still to come, or is lost with the caller. -/
structure Keeps (i : Nat) (d : Notice) (w : NoticeWorld) : Prop where
  call : ∃ c, w.calls[i]? = some c ∧ (c.phase = .returned → c.todo = []) ∧
    (w.made d ∨ d ∈ c.outstanding ∨ c.phase = .failed)

theorem Keeps.step {i : Nat} {d : Notice} {w : NoticeWorld} (h : w.Keeps i d) {s : NoticeStep}
    (hs : ¬ s.erases d) : (noticeStep w s).Keeps i d := by
  obtain ⟨c, hc, hreturned, hdelivery⟩ := h.call
  rcases call_step hc s with hsame | ⟨ok, rfl, hnext⟩ | ⟨rfl, hstopped⟩
  · refine ⟨c, hsame, hreturned, ?_⟩
    rcases hdelivery with hmade | hlater
    · exact .inl (made_step hmade hs)
    · exact .inr hlater
  · refine ⟨_, hnext, stepCall_returned hreturned ok, ?_⟩
    have hafter : (w.stepCall c ok).2.made d → (noticeStep w (.next i ok)).made d := by
      intro hmade
      unfold noticeStep
      simp only [advance, hc]
      cases d <;> exact hmade
    rcases hdelivery with hmade | hlater | hfailed
    · exact .inl (made_step hmade hs)
    · rcases stepCall_keeps hlater ok with hmade | hrest
      · exact .inl (hafter hmade)
      · exact .inr hrest
    · refine .inr (.inr ?_)
      simp only [stepCall, hfailed]
  · refine ⟨_, hstopped, fun _ => rfl, ?_⟩
    rcases hdelivery with hmade | hlater | hfailed
    · exact .inl (made_step hmade hs)
    · by_cases hphase : c.phase = .returned
      · rw [NoticeCall.outstanding, hphase, hreturned hphase] at hlater
        cases hlater
      · exact .inr (.inr (if_neg hphase))
    · exact .inr (.inr (if_neg (by rw [hfailed]; rintro ⟨⟩)))

end NoticeWorld

/-- A caller that has returned has made every delivery it was started with. -/
theorem made_of_returned {w : NoticeWorld} {s : NoticeStep} {steps : List NoticeStep} {c : NoticeCall} {d : Notice}
    (hbegun : (noticeStep w s).calls = w.calls ++ [.start (w.sendsOf s)])
    (hd : d ∈ (w.sendsOf s).flatMap Send.notices) (hkept : ∀ s ∈ steps, ¬ s.erases d)
    (hc : (run noticeStep (noticeStep w s) steps).calls[w.calls.length]? = some c) (hreturned : c.phase = .returned) :
    (run noticeStep (noticeStep w s) steps).made d := by
  have hstart : (noticeStep w s).Keeps w.calls.length d := by
    refine ⟨.start (w.sendsOf s), by rw [hbegun, List.getElem?_concat_length], NoticeCall.start_returned _,
      .inr (.inl ?_)⟩
    rw [NoticeCall.start_outstanding]
    exact hd
  have hguarded : Guarded noticeStep (fun _ s => ¬ s.erases d) (noticeStep w s) steps :=
    guarded_iff.mpr fun pre s' suf hsteps => hkept s' (by rw [hsteps]; simp)
  have hkeeps := run_invariant (I := NoticeWorld.Keeps w.calls.length d)
    (fun w' s' h hs => NoticeWorld.Keeps.step h hs) hstart hguarded
  obtain ⟨c', hc', htodo, hdelivery⟩ := hkeeps.call
  rw [hc] at hc'
  obtain rfl := Option.some.inj hc'
  rcases hdelivery with hmade | hlater | hfailed
  · exact hmade
  · rw [NoticeCall.outstanding, hreturned, htodo hreturned] at hlater
    cases hlater
  · rw [hreturned] at hfailed
    cases hfailed

theorem reminded_step {w : NoticeWorld} {r : Booking} (h : w.reminded r = true) {s : NoticeStep}
    (hs : s ≠ .deleteAccount r.guestId) : (noticeStep w s).reminded r = true :=
  NoticeWorld.reminded_iff.mpr (NoticeWorld.rows_step (fun _ _ hrow => hrow) (fun _ hrow => hrow.1)
    (NoticeWorld.reminded_iff.mp h) hs)

theorem reminded_run {w : NoticeWorld} {r : Booking} (h : w.reminded r = true) {steps : List NoticeStep}
    (hkept : ∀ s ∈ steps, s ≠ .deleteAccount r.guestId) : (run noticeStep w steps).reminded r = true :=
  run_invariant (I := fun w => NoticeWorld.reminded w r = true) (fun _ _ h hs => reminded_step h hs) h
    (guarded_iff.mpr fun pre s suf hsteps => hkept s (by rw [hsteps]; simp))

/-- Once a sweep has returned, the guest of every booking it could find due has a reminder, from it or
from before; and those it selected have the check-in information, in the conversation as well. -/
theorem reminded_of_returned (w : NoticeWorld) (today : Int) (steps : List NoticeStep) (c : NoticeCall) (r : Booking)
    (hr : r ∈ w.db.bookings.rows) (hdue : r.status = .confirmed ∧ r.checkIn = today + 1)
    (hc : (run noticeStep (noticeStep w (.sendCheckinReminders today)) steps).calls[w.calls.length]? = some c)
    (hreturned : c.phase = .returned) (hkept : ∀ s ∈ steps, s ≠ .deleteAccount r.guestId) :
    let w' := run noticeStep (noticeStep w (.sendCheckinReminders today)) steps
    w'.reminded r = true ∧ (w.reminded r = false →
      ∀ type, type = .checkinReminder ∨ type = .checkinInfoAvailable →
        w'.made (.message r.id type) ∧ w'.made (.inApp r.guestId type r.id)) := by
  intro w'
  have hsends : w.reminded r = false → ∀ type, type = .checkinReminder ∨ type = .checkinInfoAvailable →
      w'.made (.message r.id type) ∧ w'.made (.inApp r.guestId type r.id) := by
    intro hunreminded type htype
    have hsend : (⟨true, type, r.guestId, r.id⟩ : Send) ∈ w.sendsOf (.sendCheckinReminders today) := by
      refine List.mem_flatMap.mpr ⟨r, NoticeWorld.dueReminders_iff.mpr ⟨hr, hdue, hunreminded⟩, ?_⟩
      rcases htype with rfl | rfl
      · exact List.mem_cons_self
      · exact List.mem_cons_of_mem _ List.mem_cons_self
    refine ⟨made_of_returned rfl (List.mem_flatMap.mpr ⟨_, hsend, List.mem_cons_self⟩) (fun s hs => ?_) hc hreturned,
      made_of_returned rfl (List.mem_flatMap.mpr ⟨_, hsend, List.mem_cons_of_mem _ List.mem_cons_self⟩)
        (fun s hs herases => ?_) hc hreturned⟩
    · cases s <;> exact id
    · cases s with
      | deleteAccount user =>
        have huser : user = r.guestId := herases
        exact hkept _ hs (by rw [huser])
      | _ => exact herases
  refine ⟨?_, hsends⟩
  cases hreminded : w.reminded r with
  | false =>
    obtain ⟨n, hn, -, huser, htype, href⟩ := (hsends hreminded _ (.inl rfl)).2
    exact NoticeWorld.reminded_iff.mpr ⟨n, hn, huser, htype, href⟩
  | true =>
    show (run noticeStep w (.sendCheckinReminders today :: steps)).reminded r = true
    refine reminded_run hreminded fun s hs => ?_
    rcases List.mem_cons.mp hs with rfl | hrest
    · rintro ⟨⟩
    · exact hkept s hrest

/-! ## The information a stopped sweep left out -/

/-- The booking's guest has a reminder. -/
structure NoticeWorld.RemindedOf (b : BookingId) (guest : UserId) (w : NoticeWorld) : Prop where
  row : ∃ r, w.db.bookings.find? b = some r ∧ r.guestId = guest ∧ w.reminded r = true

theorem NoticeWorld.RemindedOf.step {b : BookingId} {guest : UserId} {w : NoticeWorld} (h : w.RemindedOf b guest)
    {s : NoticeStep} (hs : s ≠ .deleteAccount guest) : (noticeStep w s).RemindedOf b guest := by
  obtain ⟨r, hr, rfl, hreminded⟩ := h.row
  have hkept := reminded_step hreminded hs
  by_cases htx : ∃ t, s = .tx t
  · obtain ⟨t, rfl⟩ := htx
    obtain ⟨r', hr', hstay, -⟩ := (t.effect w.db).row hr
    refine ⟨r', hr', hstay.guestId, ?_⟩
    obtain ⟨n, hn, huser, htype, href⟩ := NoticeWorld.reminded_iff.mp hkept
    exact NoticeWorld.reminded_iff.mpr ⟨n, hn, hstay.guestId ▸ huser, htype, hstay.id ▸ href⟩
  · refine ⟨r, ?_, rfl, hkept⟩
    rw [noticeStep_db fun t ht => htx ⟨t, ht⟩]
    exact hr

/-- No sweep selects the booking. -/
theorem NoticeWorld.RemindedOf.queued {b : BookingId} {guest : UserId} {w : NoticeWorld} (h : w.RemindedOf b guest)
    {counts : Notice → Bool} (hcounts : CountsAbout (NotificationType.isJust .checkinInfoAvailable) b counts)
    (s : NoticeStep) : w.queued counts s = 0 := by
  by_cases hs : ∃ today, s = .sendCheckinReminders today
  · obtain ⟨today, rfl⟩ := hs
    obtain ⟨r, hr, -, hreminded⟩ := h.row
    refine hcounts.countP_eq_zero fun send hsend habout => ?_
    obtain ⟨due, hdue, hpair⟩ := List.mem_flatMap.mp hsend
    have hid : due.id = b := by
      have href : send.bookingRef = b := of_decide_eq_true ((Bool.and_eq_true _ _).mp habout).1
      rcases List.mem_pair.mp hpair with rfl | rfl <;> exact href
    obtain ⟨hmem, -, hunreminded⟩ := NoticeWorld.dueReminders_iff.mp hdue
    have hfind : w.db.bookings.find? b = some due := hid ▸ Table.find?_of_mem hmem
    obtain rfl := Option.some.inj (hr.symm.trans hfind)
    rw [hreminded] at hunreminded
    cases hunreminded
  · exact NoticeWorld.queued_eq_zero_of_tells (.inr rfl) hcounts w fun today ht => hs ⟨today, ht⟩

/-- When a sweep stops after a booking's reminder, the check-in information it had still to send is
sent by nobody, as long as the guest's account is there. -/
theorem unsent_info_stays_unsent (w : NoticeWorld) (r : Booking) (steps : List NoticeStep)
    (hr : w.db.bookings.find? r.id = some r) (hreminded : w.reminded r = true)
    (hposting : w.owed (Notice.isMessage (NotificationType.isJust .checkinInfoAvailable) r.id) = 0)
    (hrecording : w.owed (Notice.isInApp (NotificationType.isJust .checkinInfoAvailable) r.id r.guestId) = 0)
    (hkept : ∀ s ∈ steps, s ≠ .deleteAccount r.guestId) :
    (run noticeStep w steps).posted (NotificationType.isJust .checkinInfoAvailable) r.id ≤
        w.posted (NotificationType.isJust .checkinInfoAvailable) r.id ∧
      (run noticeStep w steps).inbox (NotificationType.isJust .checkinInfoAvailable) r.id r.guestId ≤
        w.inbox (NotificationType.isJust .checkinInfoAvailable) r.id r.guestId := by
  have hguarded : Guarded noticeStep (fun _ s => s ≠ .deleteAccount r.guestId) w steps :=
    guarded_iff.mpr fun pre s suf hsteps => hkept s (by rw [hsteps]; simp)
  have hrun {counts : Notice → Bool}
      (hcounts : CountsAbout (NotificationType.isJust .checkinInfoAvailable) r.id counts)
      (hnone : w.owed counts = 0) :
      (run noticeStep w steps).delivered counts ≤ w.delivered counts := by
    have hmeasure : (run noticeStep w steps).delivered counts + (run noticeStep w steps).owed counts ≤
        w.delivered counts + w.owed counts + sumOver noticeStep (fun _ _ => 0) w steps :=
      measure_run_le (I := NoticeWorld.RemindedOf r.id r.guestId) (m := fun w => w.delivered counts + w.owed counts)
        (fun _ _ h hs => h.step hs)
        (fun w s h _ => (NoticeWorld.step_conserves counts w s).trans (by rw [h.queued hcounts]))
        ⟨r, hr, rfl, hreminded⟩ hguarded
    rw [sumOver_eq_zero fun _ _ => rfl, hnone] at hmeasure
    omega
  have hmessages := hrun (countsAbout_message _ r.id) hposting
  have hrows := hrun (countsAbout_inApp _ r.id r.guestId) hrecording
  rw [NoticeWorld.delivered_isMessage, NoticeWorld.delivered_isMessage] at hmessages
  rw [NoticeWorld.delivered_isInApp, NoticeWorld.delivered_isInApp] at hrows
  exact ⟨hmessages, hrows⟩

/-- A paid stay from day 100 on, and the sweep of the day before. -/
def paidStay : NoticeWorld :=
  run noticeStep (.start sampleDb some)
    [ .tx (.createBooking 0 false (sampleRequest "a")),
      .tx (.upsertPayment 1 7 20000 "GBP"),
      .tx (.paymentSucceeded 0 ⟨7, some 1, none, none, none⟩) ]

theorem isSome_paidStay : (paidStay.db.bookings.find? 1).isSome := by decide

def paidStayRow : Booking := (paidStay.db.bookings.find? 1).get isSome_paidStay

/-- The sweep sends the reminder and the information, each by mail too. -/
def sweptToItsEnd : List NoticeStep := List.replicate 10 (.next 3 true)

theorem sweptToItsEnd_reminded :
    (run noticeStep (noticeStep paidStay (.sendCheckinReminders 99)) sweptToItsEnd).reminded paidStayRow = true :=
  (reminded_of_returned paidStay 99 sweptToItsEnd ⟨.returned, []⟩ paidStayRow (by decide) (by decide) (by decide)
    rfl (by intro s hs; rw [List.eq_of_mem_replicate hs]; rintro ⟨⟩)).1

/-- The sweep stops when it has sent the reminder. -/
def stoppedAfterReminder : NoticeWorld :=
  run noticeStep paidStay (.sendCheckinReminders 99 :: (List.replicate 5 (.next 3 true) ++ [.stop 3]))

theorem stoppedAfterReminder_uninformed :
    (run noticeStep stoppedAfterReminder (.sendCheckinReminders 99 :: List.replicate 10 (.next 4 true))).posted
      (NotificationType.isJust .checkinInfoAvailable) 1 ≤ 0 :=
  (unsent_info_stays_unsent stoppedAfterReminder paidStayRow
    (.sendCheckinReminders 99 :: List.replicate 10 (.next 4 true)) (by decide) (by decide) (by decide) (by decide)
    (by
      intro s hs
      rcases List.mem_cons.mp hs with rfl | hrest
      · rintro ⟨⟩
      · rw [List.eq_of_mem_replicate hrest]
        rintro ⟨⟩)).1

/-- Two sweeps at once remind the guest twice. -/
example :
    (run noticeStep paidStay ([.sendCheckinReminders 99, .sendCheckinReminders 99] ++
      List.replicate 10 (.next 3 true) ++ List.replicate 10 (.next 4 true))).inbox
        (NotificationType.isJust .checkinReminder) 1 1 = 2 := by
  decide

end HostPlatform
