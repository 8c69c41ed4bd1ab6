-- SUMMARY: Concurrent messages of one booking all arrive, each once and in one conversation, exactly if no `sendMessage` inserts a conversation that another call has just created.
import HostPlatform.Messaging.ConversationCalls

namespace HostPlatform

open Lib (Table)
open Lib.Transition

namespace MessagingDb

/-! ## One conversation per booking -/

/-- `SELECT COUNT(*) FROM conversations WHERE booking_id = $1`. -/
def conversationCount (db : MessagingDb) (b : BookingId) : Nat :=
  db.conversations.rows.countP fun c => decide (c.bookingId = b)

/-- The messages of the booking's conversation, as they were sent. -/
def contents (db : MessagingDb) (b : BookingId) : List MessageInput :=
  (db.messages.rows.filter (db.inConversationOf b)).map Message.toMessageInput

/-- The id of the booking's conversation. -/
def conversationId (db : MessagingDb) (b : BookingId) : Option ConversationId :=
  (db.conversationOf b).map Conversation.id

/-- `UNIQUE (booking_id)` of the booking, and the foreign key of `messages`. -/
structure Constrained (db : MessagingDb) (b : BookingId) : Prop where
  unique : db.conversationCount b ≤ 1
  foreign : ∀ m ∈ db.messages.rows, (db.conversations.find? m.conversationId).isSome

theorem conversationOf_eq_none_iff {db : MessagingDb} {b : BookingId} :
    db.conversationOf b = none ↔ db.conversationCount b = 0 := by
  simp [conversationOf, conversationCount, List.countP_eq_zero]

theorem inConversationOf_eq (db : MessagingDb) (b : BookingId) (m : Message) :
    db.inConversationOf b m = (db.conversationId b).any fun id => decide (m.conversationId = id) := by
  simp [inConversationOf, conversationId, Option.any_map]

theorem contents_of_none {db : MessagingDb} {b : BookingId} (h : db.conversationOf b = none) :
    db.contents b = [] := by
  simp [contents, inConversationOf, h]

theorem contents_congr {db db' : MessagingDb} {b : BookingId} (hid : db'.conversationId b = db.conversationId b)
    (hmessages : db'.messages = db.messages) : db'.contents b = db.contents b := by
  have hin : db'.inConversationOf b = db.inConversationOf b := by
    funext m
    rw [inConversationOf_eq, inConversationOf_eq, hid]
  rw [contents, contents, hmessages, hin]

/-! ## What the statements change -/

section Touch

variable (db : MessagingDb) (now : Int) (id : ConversationId) (b : BookingId)

/-- `updated_at` is not among the columns that conversations are found by. -/
theorem touchConversation_rows :
    ∃ f : Conversation → Conversation, (∀ c, (f c).id = c.id ∧ (f c).bookingId = c.bookingId) ∧
      (db.touchConversation now id).conversations.rows = db.conversations.rows.map f := by
  refine ⟨fun c => if Lib.key c == id then { c with updatedAt := now } else c, fun c => ?_, rfl⟩
  simp only
  split <;> exact ⟨rfl, rfl⟩

theorem conversationId_touchConversation :
    (db.touchConversation now id).conversationId b = db.conversationId b := by
  obtain ⟨f, hf, hrows⟩ := db.touchConversation_rows now id
  simp [conversationId, conversationOf, hrows, Function.comp_def, hf]

theorem conversationCount_touchConversation :
    (db.touchConversation now id).conversationCount b = db.conversationCount b := by
  obtain ⟨f, hf, hrows⟩ := db.touchConversation_rows now id
  simp [conversationCount, hrows, Function.comp_def, hf]

end Touch

theorem conversationId_insertConversation {db : MessagingDb} {b : BookingId} {parties : BookingParties}
    (hb : parties.bookingId = b) (hnone : db.conversationOf b = none) (now : Int) :
    (db.insertConversation now parties).conversationId b = some db.conversations.freshKey := by
  have hold : db.conversations.rows.find? (fun c => decide (c.bookingId = b)) = none := hnone
  simp [conversationId, conversationOf, insertConversation, List.find?_append, hold, hb]

theorem contents_insertMessage {db : MessagingDb} {b : BookingId} {id : ConversationId}
    (hid : db.conversationId b = some id) (now : Int) (message : MessageInput) :
    (db.insertMessage now id message).contents b = db.contents b ++ [message] := by
  have hin : (db.insertMessage now id message).inConversationOf b = db.inConversationOf b := by
    funext m
    rw [inConversationOf_eq, inConversationOf_eq]
    rfl
  simp only [contents, hin]
  simp [insertMessage, List.filter_append, inConversationOf_eq, hid]

theorem Constrained.insertConversation {db : MessagingDb} {b : BookingId} {parties : BookingParties}
    (h : db.Constrained b) (hb : parties.bookingId = b) (hnone : db.conversationOf b = none) (now : Int) :
    (db.insertConversation now parties).Constrained b ∧
      (db.insertConversation now parties).contents b = [] := by
  have hcount := conversationOf_eq_none_iff.mp hnone
  have hid := conversationId_insertConversation hb hnone now
  refine ⟨⟨?_, fun m hm => ?_⟩, ?_⟩
  · simp only [conversationCount] at hcount
    simp [conversationCount, MessagingDb.insertConversation, hcount, hb]
  · have hold := h.foreign m hm
    simp only [MessagingDb.insertConversation, Table.find?_insertNew]
    split
    · rfl
    · exact hold
  · simp only [contents, List.map_eq_nil_iff, List.filter_eq_nil_iff, inConversationOf_eq, hid]
    intro m hm
    -- the id is new, and the messages there are belong to conversations there are
    have hold := h.foreign m hm
    intro hnew
    have hfresh : m.conversationId = db.conversations.freshKey := by simpa using hnew
    simp [hfresh] at hold

theorem Constrained.insertMessage {db : MessagingDb} {b : BookingId} (h : db.Constrained b)
    {id : ConversationId} (hid : (db.conversations.find? id).isSome) (now : Int) (message : MessageInput) :
    (db.insertMessage now id message).Constrained b := by
  refine ⟨h.unique, fun m hm => ?_⟩
  simp only [MessagingDb.insertMessage, Table.rows_insertNew, List.mem_append, List.mem_singleton] at hm
  rcases hm with hm | rfl
  · exact h.foreign m hm
  · exact hid

theorem Constrained.touchConversation {db : MessagingDb} {b : BookingId} (h : db.Constrained b)
    (now : Int) (id : ConversationId) : (db.touchConversation now id).Constrained b := by
  refine ⟨(db.conversationCount_touchConversation now id b).trans_le h.unique, fun m hm => ?_⟩
  have hold := h.foreign m hm
  simp only [MessagingDb.touchConversation, Table.find?_modify]
  split
  case isTrue heq => simpa [← heq] using hold
  case isFalse => exact hold

theorem isSome_of_conversationId {db : MessagingDb} {b : BookingId} {id : ConversationId}
    (h : db.conversationId b = some id) : (db.conversations.find? id).isSome := by
  obtain ⟨c, hc, rfl⟩ := Option.map_eq_some_iff.mp h
  exact Option.isSome_of_eq_some (Table.find?_of_mem (List.mem_of_find?_eq_some hc))

end MessagingDb

namespace Messaging

variable {b : BookingId} {db₀ : MessagingDb}

/-! ## Delivery -/

/-- The message of a `sendMessage` that has returned. -/
def returnedMessage (c : MessageCall) : Option MessageInput :=
  if c.phase = .returned then c.message else none

/-- Every `sendMessage` has returned, the booking has one conversation, and its messages are
those of before and the sent ones, each once. -/
structure Delivered (b : BookingId) (db₀ : MessagingDb) (s : Messaging) : Prop where
  sent : ∀ c ∈ s.calls, c.message.isSome → c.phase = .returned
  one : s.db.conversationCount b = 1
  contents : (s.db.contents b).Perm (db₀.contents b ++ s.calls.filterMap MessageCall.message)

/-- A `sendMessage` that found no conversation, and is about to insert one, still finds none. -/
def InsertsFirst (b : BookingId) (s : Messaging) : MessagingLabel → Prop
  | .call i => ∀ c ∈ s.calls[i]?, c.message.isSome → c.phase.inserts → s.db.conversationOf b = none
  | _ => True

instance (b : BookingId) (s : Messaging) : ∀ l, Decidable (InsertsFirst b s l)
  | .call i =>
    inferInstanceAs (Decidable (∀ c ∈ s.calls[i]?, c.message.isSome → c.phase.inserts →
      s.db.conversationOf b = none))
  | .sendMessage .. | .getOrCreateConversation _ => isTrue trivial

theorem filterMap_set {f : MessageCall → Option MessageInput} {calls : List MessageCall} {i : Nat}
    {c : MessageCall} (hc : calls[i]? = some c) (hnone : f c = none) (c' : MessageCall) :
    ((calls.set i c').filterMap f).Perm ((f c').toList ++ calls.filterMap f) := by
  induction calls generalizing i with
  | nil => cases hc
  | cons d calls ih =>
    cases i with
    | zero =>
      cases hc
      cases hf : f c' <;> simp [hf, hnone]
    | succ i =>
      have hih := ih hc
      cases hd : f d with
      | none => simpa [hd] using hih
      | some m =>
        simp only [List.set_cons_succ, List.filterMap_cons, hd]
        exact (hih.cons m).trans List.perm_middle.symm

/-! ## The invariant -/

/-- How many transactions have inserted the conversation and not committed it. -/
def keyHolders (s : Messaging) : Nat := (s.calls.map fun c => c.phase.holdsKey.toNat).sum

/-- The conversation a transaction inserts into is the booking's, or the booking has none. -/
def Targets (db : MessagingDb) (b : BookingId) : MessageTarget → Prop
  | .existing id => db.conversationId b = some id
  | .created parties => parties.bookingId = b ∧ db.conversationOf b = none

structure Inv (b : BookingId) (db₀ : MessagingDb) (s : Messaging) : Prop where
  bookings : s.db.bookings = db₀.bookings
  constrained : s.db.Constrained b
  inserting : ∀ c ∈ s.calls, ∀ parties, c.phase = .inserting parties → parties.bookingId = b
  targets : ∀ c ∈ s.calls, ∀ target, c.phase.target = some target → Targets s.db b target
  single : s.keyHolders ≤ 1
  settled : ∀ c ∈ s.calls, c.phase = .returned → (s.db.conversationOf b).isSome
  contents : (s.db.contents b).Perm (db₀.contents b ++ s.calls.filterMap returnedMessage)
  working : ∀ c ∈ s.calls, c.phase ≠ .failed

theorem Inv.start (h : db₀.Constrained b) : Inv b db₀ (.start db₀) where
  bookings := rfl
  constrained := h
  inserting := by simp [Messaging.start]
  targets := by simp [Messaging.start]
  single := by simp [Messaging.start, keyHolders]
  settled := by simp [Messaging.start]
  contents := by simp [Messaging.start]
  working := by simp [Messaging.start]

/-- A call arrives. -/
theorem Inv.add {s : Messaging} (h : Inv b db₀ s) (message : Option MessageInput) (now : Int) :
    Inv b db₀ { s with calls := s.calls ++ [⟨message, now, .selecting⟩] } := by
  have hmem : ∀ {P : MessageCall → Prop}, (∀ c ∈ s.calls, P c) → P ⟨message, now, .selecting⟩ →
      ∀ c ∈ s.calls ++ [⟨message, now, .selecting⟩], P c := by
    intro P hold hnew c hc
    rcases List.mem_append.mp hc with hc | hc
    · exact hold c hc
    · exact List.mem_singleton.mp hc ▸ hnew
  constructor
  case bookings => exact h.bookings
  case constrained => exact h.constrained
  case inserting => exact hmem h.inserting (by simp)
  case targets => exact hmem h.targets (by simp [MessagePhase.target])
  case settled => exact hmem h.settled (by simp)
  case contents => simpa [returnedMessage] using h.contents
  case working => exact hmem h.working (by simp)
  case single => simpa [keyHolders, MessagePhase.holdsKey, MessagePhase.target] using h.single

theorem keyHolders_eq_zero_iff {s : Messaging} : s.keyHolders = 0 ↔ ∀ c ∈ s.calls, c.phase.holdsKey = false := by
  simp [keyHolders, List.sum_eq_zero_iff]

/-- What a statement of a call owes the invariant. -/
theorem Inv.call {s : Messaging} (h : Inv b db₀ s) {i : Nat} {c : MessageCall} (hc : s.calls[i]? = some c)
    (hopen : c.phase ≠ .returned) {phase : MessagePhase} {db : MessagingDb}
    (hbookings : db.bookings = s.db.bookings) (hconstrained : db.Constrained b)
    (hinserting : ∀ parties, phase = .inserting parties → parties.bookingId = b)
    (htarget : ∀ target, phase.target = some target → Targets db b target)
    (hothers : ∀ target, Targets s.db b target → (∀ parties, target = .created parties →
      0 < keyHolders ⟨db, s.calls.set i { c with phase := phase }⟩) → Targets db b target)
    (hsingle : keyHolders ⟨db, s.calls.set i { c with phase := phase }⟩ ≤ 1)
    (hsettled : phase = .returned → (db.conversationOf b).isSome)
    (hstays : (s.db.conversationOf b).isSome → (db.conversationOf b).isSome)
    (hcontents : db.contents b = s.db.contents b ++
      (if phase = .returned then c.message else none).toList)
    (hworking : phase ≠ .failed) :
    Inv b db₀ ⟨db, s.calls.set i { c with phase := phase }⟩ := by
  constructor
  case bookings => exact hbookings.trans h.bookings
  case constrained => exact hconstrained
  case inserting =>
    intro c' hc'
    rcases List.mem_or_eq_of_mem_set hc' with hold | rfl
    · exact h.inserting c' hold
    · exact hinserting
  case targets =>
    intro c' hc' target hc'target
    rcases List.mem_or_eq_of_mem_set hc' with hold | rfl
    · refine hothers target (h.targets c' hold target hc'target) fun parties hcreated => ?_
      by_contra hzero
      have hfree := keyHolders_eq_zero_iff.mp (by omega) c' hc'
      simp [MessagePhase.holdsKey, hc'target, hcreated] at hfree
    · exact htarget target hc'target
  case single => exact hsingle
  case settled =>
    intro c' hc' hphase
    rcases List.mem_or_eq_of_mem_set hc' with hold | rfl
    · exact hstays (h.settled c' hold hphase)
    · exact hsettled hphase
  case contents =>
    have hset := filterMap_set (f := returnedMessage) hc (by simp [returnedMessage, hopen]) { c with phase := phase }
    rw [hcontents]
    refine (h.contents.append_right _).trans ?_
    rw [List.append_assoc]
    exact (List.perm_append_comm.trans hset.symm).append_left _
  case working =>
    intro c' hc'
    rcases List.mem_or_eq_of_mem_set hc' with hold | rfl
    · exact h.working c' hold
    · exact hworking

theorem keyHolders_set {s : Messaging} {i : Nat} {c : MessageCall} (hc : s.calls[i]? = some c)
    (phase : MessagePhase) (db : MessagingDb) :
    keyHolders ⟨db, s.calls.set i { c with phase := phase }⟩ + c.phase.holdsKey.toNat =
      s.keyHolders + phase.holdsKey.toNat :=
  sum_map_set (fun c => c.phase.holdsKey.toNat) hc { c with phase := phase }

theorem keyHolders_eq_zero {s : Messaging} (h : s.keyHeld = false) : s.keyHolders = 0 := by
  refine keyHolders_eq_zero_iff.mpr fun c hc => ?_
  simpa using List.any_eq_false.mp h c hc

/-- A statement that commits nothing. -/
theorem Inv.call_same {s : Messaging} (h : Inv b db₀ s) {i : Nat} {c : MessageCall}
    (hc : s.calls[i]? = some c) (hopen : c.phase ≠ .returned) {phase : MessagePhase}
    (hinserting : ∀ parties, phase = .inserting parties → parties.bookingId = b)
    (htarget : ∀ target, phase.target = some target → Targets s.db b target)
    (hsingle : phase.holdsKey → c.phase.holdsKey ∨ s.keyHolders = 0)
    (hreturned : phase = .returned → c.message = none ∧ (s.db.conversationOf b).isSome)
    (hworking : phase ≠ .failed) : Inv b db₀ ⟨s.db, s.calls.set i { c with phase := phase }⟩ := by
  refine h.call hc hopen rfl h.constrained hinserting htarget (fun _ htarget _ => htarget) ?_
    (fun hphase => (hreturned hphase).2) id ?_ hworking
  · have hset := keyHolders_set hc phase s.db
    have hle := h.single
    cases hholds : phase.holdsKey with
    | false =>
      simp only [hholds, Bool.toNat_false] at hset
      omega
    | true =>
      rcases hsingle hholds with hold | hnone
      · simp only [hholds, hold, Bool.toNat_true] at hset
        omega
      · simp only [hholds, Bool.toNat_true] at hset
        omega
  · split
    case isTrue hphase => simp [(hreturned hphase).1]
    case isFalse => simp

/-- What a commit makes of the conversation that was inserted into. -/
theorem commitMessage_spec {db : MessagingDb} (hdb : db.Constrained b) {target : MessageTarget}
    (htarget : Targets db b target) (now : Int) (message : MessageInput) :
    (commitMessage db now message target).bookings = db.bookings ∧
      (commitMessage db now message target).Constrained b ∧
      (∃ id, (commitMessage db now message target).conversationId b = some id ∧
        ∀ id', db.conversationId b = some id' → id' = id) ∧
      (commitMessage db now message target).contents b = db.contents b ++ [message] := by
  cases target with
  | existing id =>
    have hid : db.conversationId b = some id := htarget
    have hinserted := hdb.insertMessage (MessagingDb.isSome_of_conversationId hid) now message
    refine ⟨rfl, hinserted.touchConversation now id, ⟨id, ?_, ?_⟩, ?_⟩
    · exact ((db.insertMessage now id message).conversationId_touchConversation now id b).trans hid
    · intro id' hid'
      simpa [hid] using hid'.symm
    · rw [← MessagingDb.contents_insertMessage hid]
      exact MessagingDb.contents_congr
        ((db.insertMessage now id message).conversationId_touchConversation now id b) rfl
  | created parties =>
    obtain ⟨hb, hnone⟩ := htarget
    have hid := MessagingDb.conversationId_insertConversation hb hnone now
    obtain ⟨hinserted, hempty⟩ := hdb.insertConversation hb hnone now
    refine ⟨rfl, hinserted.insertMessage (MessagingDb.isSome_of_conversationId hid) now message, ⟨_, hid, ?_⟩, ?_⟩
    · intro id' hid'
      simp [MessagingDb.conversationId, hnone] at hid'
    · have hcontents := MessagingDb.contents_insertMessage hid now message
      rw [hempty] at hcontents
      rw [MessagingDb.contents_of_none hnone]
      exact hcontents

theorem isSome_conversationOf_iff {db : MessagingDb} :
    (db.conversationOf b).isSome ↔ (db.conversationId b).isSome := by
  simp [MessagingDb.conversationId]

theorem Inv.step {s : Messaging} (h : Inv b db₀ s) (hbooking : (db₀.bookings.find? b).isSome)
    (l : MessagingLabel) (hguard : InsertsFirst b s l) : Inv b db₀ (s.step b l) := by
  cases l with
  | sendMessage now message => exact h.add (some message) now
  | getOrCreateConversation now => exact h.add none now
  | call i =>
    refine step_call_of h fun c phase db hc hmoves => ?_
    have hmem := List.mem_of_getElem? hc
    have hopen : c.phase ≠ .returned := by
      intro hphase
      have hrank := rank_lt_of_moves hmoves
      simp [hphase, MessagePhase.rank] at hrank
    cases hmoves with
    | reads hphase hnone =>
      apply h.call_same hc hopen <;> simp [MessagePhase.target, MessagePhase.holdsKey]
    | finds parties hphase hparties =>
      apply h.call_same hc hopen
      case hinserting =>
        rintro _ ⟨⟩
        exact Table.key_of_find? hparties
      all_goals simp [MessagePhase.target, MessagePhase.holdsKey]
    | noBooking hphase hnone =>
      rw [h.bookings] at hnone
      simp [hnone] at hbooking
    | existing message conversation hmessage hphase hsome =>
      apply h.call_same hc hopen
      case htarget =>
        rintro _ ⟨⟩
        simp [Targets, MessagingDb.conversationId, hsome]
      all_goals simp [MessagePhase.target, MessagePhase.holdsKey]
    | creates message parties hmessage hphase hkey hnone =>
      apply h.call_same hc hopen
      case htarget =>
        rintro _ ⟨⟩
        exact ⟨h.inserting c hmem parties hphase, hnone⟩
      case hsingle => exact fun _ => .inr (keyHolders_eq_zero hkey)
      all_goals simp
    | collides message parties hmessage hphase hkey hsome =>
      have hnone := hguard c hc (by simp [hmessage]) (by simp [hphase, MessagePhase.inserts])
      simp [hnone] at hsome
    | proceeds target _ hrank hold hnew =>
      apply h.call_same hc hopen
      case hinserting =>
        rintro parties rfl
        cases hnew
      case htarget =>
        intro target' htarget'
        cases hnew.symm.trans htarget'
        exact h.targets c hmem target hold
      case hsingle =>
        intro hholds
        left
        simpa [MessagePhase.holdsKey, hold, hnew] using hholds
      case hreturned =>
        rintro rfl
        cases hnew
      case hworking =>
        rintro rfl
        cases hnew
    | commits message target hmessage hphase =>
      have htarget := h.targets c hmem target (by simp [hphase, MessagePhase.target])
      obtain ⟨hbookings, hconstrained, ⟨id, hid, hsame⟩, hcontents⟩ :=
        commitMessage_spec h.constrained htarget c.startedAt message
      have hsome : ((commitMessage s.db c.startedAt message target).conversationOf b).isSome := by
        simp [isSome_conversationOf_iff, hid]
      have hset := keyHolders_set hc .returned (commitMessage s.db c.startedAt message target)
      apply h.call hc hopen hbookings hconstrained
      case hothers =>
        intro target' htarget' hheld
        cases target' with
        | existing id' => rw [Targets, hid, hsame id' htarget']
        | created parties =>
          -- the commit released the only key there was
          have hpos := hheld parties rfl
          cases target with
          | existing id' =>
            have hnone := htarget'.2
            have hid' : s.db.conversationId b = some id' := htarget
            simp [MessagingDb.conversationId, hnone] at hid'
          | created parties' =>
            have hle := h.single
            have hholds : c.phase.holdsKey = true := by simp [hphase, MessagePhase.holdsKey, MessagePhase.target]
            have hfree : MessagePhase.returned.holdsKey = false := rfl
            simp only [hholds, hfree, Bool.toNat_true, Bool.toNat_false] at hset
            omega
      case hsingle =>
        have hle := h.single
        have hfree : MessagePhase.returned.holdsKey = false := rfl
        simp only [hfree, Bool.toNat_false] at hset
        omega
      case hsettled => exact fun _ => hsome
      case hstays => exact fun _ => hsome
      case hcontents => simpa [hmessage] using hcontents
      all_goals simp [MessagePhase.target]
    | gets hmessage hphase hopen' hsome =>
      apply h.call_same hc hopen
      case hreturned => exact fun _ => ⟨hmessage, hsome⟩
      all_goals simp [MessagePhase.target, MessagePhase.holdsKey]
    | getsNew parties hmessage hphase hkey hnone =>
      have hb := h.inserting c hmem parties hphase
      obtain ⟨hconstrained, hempty⟩ := h.constrained.insertConversation hb hnone c.startedAt
      have hid := MessagingDb.conversationId_insertConversation hb hnone c.startedAt
      have hsome : ((s.db.insertConversation c.startedAt parties).conversationOf b).isSome := by
        simp [isSome_conversationOf_iff, hid]
      have hset := keyHolders_set hc .returned (s.db.insertConversation c.startedAt parties)
      have hfree : MessagePhase.returned.holdsKey = false := rfl
      rw [keyHolders_eq_zero hkey, hfree, Bool.toNat_false] at hset
      have hbookings : (s.db.insertConversation c.startedAt parties).bookings = s.db.bookings := rfl
      apply h.call hc hopen hbookings hconstrained
      case hothers =>
        intro target' htarget' hheld
        cases target' with
        | existing id' =>
          have hid' : s.db.conversationId b = some id' := htarget'
          simp [MessagingDb.conversationId, hnone] at hid'
        | created parties' =>
          have hpos := hheld parties' rfl
          omega
      case hsingle => omega
      case hsettled => exact fun _ => hsome
      case hstays => exact fun _ => hsome
      case hcontents => simp [hempty, hmessage, MessagingDb.contents_of_none hnone]
      all_goals simp [MessagePhase.target]

/-! ## A call that has failed -/

/-- A `sendMessage` has thrown. -/
def SendFailed (s : Messaging) : Prop := ∃ c ∈ s.calls, c.message.isSome ∧ c.phase = .failed

theorem SendFailed.step {s : Messaging} (h : s.SendFailed) (l : MessagingLabel) : (s.step b l).SendFailed := by
  obtain ⟨c, hc, hmessage, hphase⟩ := h
  cases l with
  | sendMessage | getOrCreateConversation => exact ⟨c, List.mem_append_left _ hc, hmessage, hphase⟩
  | call i =>
    refine step_call_of ⟨c, hc, hmessage, hphase⟩ fun c' phase db hc' hmoves => ?_
    obtain ⟨j, hj⟩ := List.mem_iff_getElem?.mp hc
    have hij : i ≠ j := by
      rintro rfl
      cases hc'.symm.trans hj
      have hrank := rank_lt_of_moves hmoves
      simp [hphase, MessagePhase.rank] at hrank
    exact ⟨c, List.mem_of_getElem? ((List.getElem?_set_ne hij).trans hj), hmessage, hphase⟩

/-- A `sendMessage` that inserts a second conversation throws. -/
theorem Inv.collides {s : Messaging} (h : Inv b db₀ s) {l : MessagingLabel} (hl : ¬ InsertsFirst b s l) :
    (s.step b l).SendFailed := by
  cases l with
  | sendMessage | getOrCreateConversation => exact absurd trivial hl
  | call i =>
    simp only [InsertsFirst, not_forall] at hl
    obtain ⟨c, hc, hmessage, hinserts, hsome⟩ := hl
    have hkey : s.keyHeld = false := by
      refine List.any_eq_false.mpr fun c' hc' hholds => hsome ?_
      unfold MessagePhase.holdsKey at hholds
      split at hholds
      case h_1 parties htarget => exact (h.targets c' hc' _ htarget).2
      case h_2 => cases hholds
    obtain ⟨message, hmessage⟩ := Option.isSome_iff_exists.mp hmessage
    have hsome : (s.db.conversationOf b).isSome := Option.isSome_iff_ne_none.mpr hsome
    have hc : s.calls[i]? = some c := hc
    have hi : i < s.calls.length := (List.getElem?_eq_some_iff.mp hc).1
    have hstep : s.stepCall b c = some (.failed, s.db) := by
      unfold MessagePhase.inserts at hinserts
      split at hinserts
      case h_1 parties hphase => simp [stepCall, hphase, hmessage, hkey, hsome]
      case h_2 => cases hinserts
    have hnext : s.step b (.call i) = ⟨s.db, s.calls.set i { c with phase := .failed }⟩ := by
      simp [Messaging.step, hc, hstep]
    rw [hnext]
    exact ⟨{ c with phase := .failed }, List.mem_set hi _, by simp [hmessage], rfl⟩

theorem Inv.guarded {s : Messaging} (h : Inv b db₀ s) (hbooking : (db₀.bookings.find? b).isSome)
    {ls : List MessagingLabel} (hsent : ¬ (run (Messaging.step b) s ls).SendFailed) :
    Guarded (Messaging.step b) (InsertsFirst b) s ls := by
  induction ls generalizing s with
  | nil => trivial
  | cons l ls ih =>
    have hguard : InsertsFirst b s l := by
      by_contra hl
      exact hsent (run_invariant' (fun _ l hfailed => hfailed.step l) (h.collides hl) ls)
    exact ⟨hguard, ih (h.step hbooking l hguard) hsent⟩

/-! ## Whole runs -/

end Messaging

/-- A booking without a conversation. -/
def sampleBookingOnly : MessagingDb :=
  ⟨⟨[⟨1, 1, 1, 1⟩], by decide⟩, fun h => if h = 1 then some 2 else none, .empty, .empty⟩

def sampleText (user : UserId) : MessageInput := ⟨.guest, some user, "Hello", none⟩

/-- The guest's first message is committed before the other calls look for the conversation. -/
def messagesInTurn : List MessagingLabel :=
  [.sendMessage 0 (sampleText 1)] ++ List.replicate 6 (.call 0) ++
    [.sendMessage 1 (sampleText 2), .getOrCreateConversation 1] ++ List.replicate 4 (.call 1) ++ [.call 2]

/-- Guest and host send the first message at once: both find no conversation, and the one that
inserts it second waits for the other to commit. -/
def messagesAtOnce : List MessagingLabel :=
  [.sendMessage 0 (sampleText 1), .sendMessage 0 (sampleText 2), .call 0, .call 1, .call 0, .call 1] ++
    List.replicate 2 (.call 0) ++ [.call 1] ++ List.replicate 2 (.call 0) ++ [.call 1]

end HostPlatform
