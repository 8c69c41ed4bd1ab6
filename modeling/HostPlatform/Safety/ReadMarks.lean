-- SUMMARY: Marking a conversation as read clears the reader's own count, and takes from everyone else's the unread messages that neither of the two sent.
import HostPlatform.Messaging.Conversations

namespace HostPlatform

open Lib (Table)

namespace MessagingDb

/-- The unread messages of the booking's conversation that count for the user, and that the
reader did not send. -/
def sharedUnread (db : MessagingDb) (b : BookingId) (reader user : UserId) : Nat :=
  db.messages.rows.countP fun m =>
    db.countsAsUnread user m && db.inConversationOf b m && decide (m.senderUserId ≠ some reader)

/-! ## What the call updates -/

/-- The tables after the call, whether there is a conversation or not. -/
theorem markConversationRead_eq (db : MessagingDb) (now : Int) (b : BookingId) (reader : UserId) :
    ∃ hit : Message → Bool, (∀ m, hit m = (db.inConversationOf b m && unreadFor reader m)) ∧
      (db.markConversationRead now b reader).2 =
        { db with messages := db.messages.updateWhere hit fun m => { m with readAt := some now } } := by
  cases hc : db.conversationOf b with
  | none =>
    refine ⟨fun _ => false, fun m => by simp [inConversationOf, hc], ?_⟩
    have hsame := Table.updateWhere_eq_self (t := db.messages) (p := fun _ => false)
      (f := fun m : Message => { m with readAt := some now }) (fun _ => rfl) (by simp)
    simp [markConversationRead, hc, hsame]
  | some c =>
    refine ⟨marksRead c reader, fun m => by simp [marksRead, inConversationOf, hc], ?_⟩
    simp [markConversationRead, hc]

/-- Of the messages that counted, those stay unread that the call does not update. -/
theorem countP_markConversationRead (db : MessagingDb) (now : Int) (b : BookingId) (reader user : UserId)
    (q : Message → Bool) :
    ((db.markConversationRead now b reader).2.messages.rows.countP fun m =>
        db.countsAsUnread user m && q m) =
      db.messages.rows.countP fun m =>
        db.countsAsUnread user m && q m && !(db.inConversationOf b m && unreadFor reader m) := by
  obtain ⟨hit, hhit, hdb⟩ := db.markConversationRead_eq now b reader
  rw [hdb, Table.rows_updateWhere, List.countP_map]
  refine List.countP_congr fun m _ => ?_
  simp only [Function.comp, ← hhit]
  cases hm : hit m with
  | true => simp [countsAsUnread, unreadFor]
  | false => simp

theorem getUnreadCount_markConversationRead (db : MessagingDb) (now : Int) (b : BookingId)
    (reader user : UserId) :
    (db.markConversationRead now b reader).2.getUnreadCount user =
      db.messages.rows.countP fun m =>
        db.countsAsUnread user m && !(db.inConversationOf b m && unreadFor reader m) := by
  have hcounts := db.countP_markConversationRead now b reader user fun _ => true
  simp only [Bool.and_true] at hcounts
  obtain ⟨hit, -, hdb⟩ := db.markConversationRead_eq now b reader
  rw [← hcounts, hdb]
  rfl

theorem unreadOf_markConversationRead (db : MessagingDb) (now : Int) (b b' : BookingId)
    (reader user : UserId) :
    (db.markConversationRead now b reader).2.unreadOf b' user =
      db.messages.rows.countP fun m => db.countsAsUnread user m && db.inConversationOf b' m &&
        !(db.inConversationOf b m && unreadFor reader m) := by
  have hcounts := db.countP_markConversationRead now b reader user (db.inConversationOf b')
  obtain ⟨hit, -, hdb⟩ := db.markConversationRead_eq now b reader
  rw [← hcounts, hdb]
  rfl

/-- A message is in one conversation. -/
theorem inConversationOf_unique {db : MessagingDb} {b b' : BookingId} {m : Message}
    (h : db.inConversationOf b m = true) (h' : db.inConversationOf b' m = true) : b' = b := by
  have hrow : ∀ b, db.inConversationOf b m = true →
      ∃ c ∈ db.conversations.rows, c.bookingId = b ∧ c.id = m.conversationId := by
    intro b hb
    unfold inConversationOf at hb
    cases hc : db.conversationOf b with
    | none => simp [hc] at hb
    | some c =>
      have hid : m.conversationId = c.id := by simpa [hc] using hb
      exact ⟨c, List.mem_of_find?_eq_some hc, by simpa using List.find?_some hc, hid.symm⟩
  obtain ⟨c, hc, rfl, hid⟩ := hrow b h
  obtain ⟨c', hc', rfl, hid'⟩ := hrow b' h'
  rw [Table.key_inj hc' hc (hid'.trans hid.symm)]

end MessagingDb

/-! ## Reading and the counts -/

open MessagingDb in
/-- The reader's own count of the conversation is zero. Any count falls by the messages unread
that the reader did not send, so that it stays exactly if there are none; nothing of another
conversation changes. -/
theorem markConversationRead_counts (db : MessagingDb) (now : Int) (b : BookingId) (reader : UserId) :
    (db.markConversationRead now b reader).2.unreadOf b reader = 0 ∧
    (∀ user,
      (db.markConversationRead now b reader).2.getUnreadCount user + db.sharedUnread b reader user =
        db.getUnreadCount user) ∧
    ∀ b' user, b' ≠ b →
      (db.markConversationRead now b reader).2.unreadOf b' user = db.unreadOf b' user := by
  refine ⟨?_, fun user => ?_, fun b' user hb' => ?_⟩
  · rw [unreadOf_markConversationRead, List.countP_eq_zero]
    intro m _
    simp only [countsAsUnread]
    cases unreadFor reader m <;> cases db.inConversationOf b m <;> simp
  · rw [getUnreadCount_markConversationRead]
    have hshared : ∀ m, (db.countsAsUnread user m && db.inConversationOf b m &&
        decide (m.senderUserId ≠ some reader)) =
          (db.countsAsUnread user m && (db.inConversationOf b m && unreadFor reader m)) := by
      intro m
      simp only [countsAsUnread, unreadFor]
      cases m.readAt.isNone <;> simp [Bool.and_assoc]
    simp only [sharedUnread, hshared, getUnreadCount]
    rw [List.countP_eq_countP_filter_add db.messages.rows (db.countsAsUnread user) fun m =>
      db.inConversationOf b m && unreadFor reader m]
    simp only [List.countP_filter]
    exact Nat.add_comm _ _
  · rw [unreadOf_markConversationRead]
    refine List.countP_congr fun m _ => ?_
    cases hb : db.inConversationOf b' m with
    | false => simp
    | true =>
      have hother : db.inConversationOf b m = false := by
        by_contra h
        exact hb' (inConversationOf_unique (by simpa using h) hb)
      simp [hother]

theorem nodup_sampleParties : ([⟨1, 1, 1, 1⟩] : List BookingParties).map Lib.key |>.Nodup :=
  List.nodup_singleton _

/-- A booking whose conversation holds one system message, unread. -/
def sampleMessaging : MessagingDb :=
  let db : MessagingDb :=
    ⟨⟨[⟨1, 1, 1, 1⟩], nodup_sampleParties⟩, fun h => if h = 1 then some 2 else none, .empty, .empty⟩
  (db.insertConversation 0 ⟨1, 1, 1, 1⟩).insertMessage 0 1 ⟨.system, none, "Your booking is confirmed.", none⟩

/-- The guest reads, and the host's count falls from one to zero. An administrator reads, and
nothing is unread for the guest either. -/
theorem systemMessage_readForAll :
    sampleMessaging.getUnreadCount 2 = 1 ∧
      (sampleMessaging.markConversationRead 1 1 1).2.getUnreadCount 2 = 0 ∧
      sampleMessaging.getUnreadCount 1 = 1 ∧
      (sampleMessaging.markConversationRead 1 1 3).2.getUnreadCount 1 = 0 := by decide

/-- The host answers, and reads: the answer stays unread for the guest. -/
theorem ownMessage_staysUnread :
    let db := sampleMessaging.insertMessage 1 1 ⟨.host, some 2, "Welcome!", none⟩
    (db.markConversationRead 2 1 2).2.getUnreadCount 1 + 1 = 2 ∧
      (db.markConversationRead 2 1 2).2.unreadOf 2 1 = 0 := by
  intro db
  have hcounts := markConversationRead_counts db 2 1 2
  exact ⟨hcounts.2.1 1, hcounts.2.2 2 1 (by decide)⟩

end HostPlatform
