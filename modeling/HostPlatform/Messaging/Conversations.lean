-- SUMMARY: Conversations and messages of bookings (`conversations.ts`): their tables, the statements of sending, and reading.
import HostPlatform.Schema

/-!
# Messaging

One conversation per booking, created with its first message. A message has one `read_at`
for all who may read it. The ids of a conversation and of its messages are drawn when the
transaction that inserts them commits: nobody else sees them before.
-/

namespace HostPlatform

open Lib (Keyed Table)

abbrev ConversationId := Nat
abbrev MessageId := Nat

inductive SenderType where
  | guest | host | system
  deriving DecidableEq, Repr

/-- The columns of `bookings` that messaging reads. -/
structure BookingParties where
  bookingId : BookingId
  propertyId : PropertyId
  guestId : UserId
  hostId : HostId
  deriving DecidableEq, Repr

structure Conversation where
  id : ConversationId
  bookingId : BookingId
  propertyId : PropertyId
  guestId : UserId
  hostId : HostId
  updatedAt : Int
  deriving DecidableEq, Repr

/-- The arguments of `sendMessage`. -/
structure MessageInput where
  senderType : SenderType
  senderUserId : Option UserId
  body : String
  attachmentUrl : Option String
  deriving DecidableEq, Repr

structure Message extends MessageInput where
  id : MessageId
  conversationId : ConversationId
  isSystemMessage : Bool
  readAt : Option Int
  createdAt : Int
  deriving DecidableEq, Repr

instance : Keyed BookingParties := ⟨BookingParties.bookingId⟩
instance : Keyed Conversation := ⟨Conversation.id⟩
instance : Keyed Message := ⟨Message.id⟩

/-- `hostUsers` is the column `user_id` of `host_profiles`. -/
structure MessagingDb where
  bookings : Table BookingParties
  hostUsers : HostId → Option UserId
  conversations : Table Conversation
  messages : Table Message

namespace MessagingDb

/-! ## Sending -/

/-- `SELECT * FROM conversations WHERE booking_id = $1`. -/
def conversationOf (db : MessagingDb) (b : BookingId) : Option Conversation :=
  db.conversations.rows.find? fun c => decide (c.bookingId = b)

/-- `INSERT INTO conversations`, of a booking without one. -/
def insertConversation (db : MessagingDb) (now : Int) (parties : BookingParties) : MessagingDb :=
  { db with
    conversations := db.conversations.insertNew fun id =>
      ⟨id, parties.bookingId, parties.propertyId, parties.guestId, parties.hostId, now⟩ }

/-- `INSERT INTO messages`. -/
def insertMessage (db : MessagingDb) (now : Int) (conversation : ConversationId) (input : MessageInput) :
    MessagingDb :=
  { db with
    messages := db.messages.insertNew fun id =>
      { input with
        id := id
        conversationId := conversation
        isSystemMessage := decide (input.senderType = .system)
        readAt := none
        createdAt := now } }

/-- `UPDATE conversations SET updated_at = NOW() WHERE id = $1`. -/
def touchConversation (db : MessagingDb) (now : Int) (conversation : ConversationId) : MessagingDb :=
  { db with conversations := db.conversations.modify conversation fun c => { c with updatedAt := now } }

/-! ## Reading -/

/-- The message is unread, and not the user's own. A system message is nobody's own. -/
def unreadFor (user : UserId) (m : Message) : Bool :=
  m.readAt.isNone && decide (m.senderUserId ≠ some user)

/-- The rows that `markConversationRead` updates. -/
def marksRead (c : Conversation) (reader : UserId) (m : Message) : Bool :=
  decide (m.conversationId = c.id) && unreadFor reader m

/-- `markConversationRead`: how many messages it updates, and the new tables. -/
def markConversationRead (db : MessagingDb) (now : Int) (b : BookingId) (reader : UserId) :
    Nat × MessagingDb :=
  match db.conversationOf b with
  | none => (0, db)
  | some c =>
    (db.messages.rows.countP (marksRead c reader),
      { db with messages := db.messages.updateWhere (marksRead c reader) fun m => { m with readAt := some now } })

/-- The guest of the conversation, or the user of its host. -/
def participates (db : MessagingDb) (user : UserId) (c : Conversation) : Bool :=
  decide (c.guestId = user) || decide (db.hostUsers c.hostId = some user)

/-- `messages m JOIN conversations c ON c.id = m.conversation_id`, with the `WHERE` clause of
`getUnreadCount`. -/
def countsAsUnread (db : MessagingDb) (user : UserId) (m : Message) : Bool :=
  unreadFor user m && (db.conversations.find? m.conversationId).any (db.participates user)

def getUnreadCount (db : MessagingDb) (user : UserId) : Nat :=
  db.messages.rows.countP (db.countsAsUnread user)

/-- The message is in the booking's conversation. -/
def inConversationOf (db : MessagingDb) (b : BookingId) (m : Message) : Bool :=
  (db.conversationOf b).any fun c => decide (m.conversationId = c.id)

/-- The part of `getUnreadCount` that is of one booking's conversation. -/
def unreadOf (db : MessagingDb) (b : BookingId) (user : UserId) : Nat :=
  db.messages.rows.countP fun m => db.countsAsUnread user m && db.inConversationOf b m

end MessagingDb

end HostPlatform
