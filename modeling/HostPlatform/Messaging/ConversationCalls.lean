-- SUMMARY: Concurrent calls of `sendMessage` and `getOrCreateConversation` on one booking, statement by statement under READ COMMITTED, and that they can always be finished.
import HostPlatform.Lib.Transition
import HostPlatform.Messaging.Conversations

/-!
# Calls on a conversation

`sendMessage` is one transaction: what it inserts is seen at its commit, and keeps the unique key
`booking_id` and the row of the conversation locked up to then. Every statement of
`getOrCreateConversation` commits. A statement that waits for a lock leaves the state as it is.
-/

namespace HostPlatform

open Lib.Transition

/-- The conversation a message is inserted into: one that is committed, or the transaction's own. -/
inductive MessageTarget where
  | existing (id : ConversationId)
  | created (parties : BookingParties)
  deriving DecidableEq, Repr

/-- A call by its next statement. -/
inductive MessagePhase where
  | selecting
  | readingBooking
  | inserting (parties : BookingParties)
  | insertingMessage (target : MessageTarget)
  | touching (target : MessageTarget)
  | committing (target : MessageTarget)
  | returned
  | failed
  deriving DecidableEq, Repr

namespace MessagePhase

def ended : MessagePhase → Bool
  | .returned | .failed => true
  | _ => false

def target : MessagePhase → Option MessageTarget
  | .insertingMessage target | .touching target | .committing target => some target
  | _ => none

/-- The transaction has inserted the conversation. -/
def holdsKey (phase : MessagePhase) : Bool :=
  match phase.target with
  | some (.created _) => true
  | _ => false

/-- The transaction has updated the row of the conversation. -/
def holdsRow : MessagePhase → Bool
  | .committing (.existing _) => true
  | _ => false

/-- The conversation is to be inserted next. -/
def inserts : MessagePhase → Bool
  | .inserting _ => true
  | _ => false

/-- How many statements are still to come, at most. -/
def rank : MessagePhase → Nat
  | .selecting => 6
  | .readingBooking => 5
  | .inserting _ => 4
  | .insertingMessage _ => 3
  | .touching _ => 2
  | .committing _ => 1
  | .returned | .failed => 0

end MessagePhase

/-- A call of `sendMessage` with its message, or of `getOrCreateConversation` without one. -/
structure MessageCall where
  message : Option MessageInput
  startedAt : Int
  phase : MessagePhase
  deriving DecidableEq, Repr

structure Messaging where
  db : MessagingDb
  calls : List MessageCall

inductive MessagingLabel where
  | sendMessage (now : Int) (message : MessageInput)
  | getOrCreateConversation (now : Int)
  /-- The next statement of a call. -/
  | call (i : Nat)

namespace Messaging

variable (b : BookingId)

def start (db : MessagingDb) : Messaging := ⟨db, []⟩

/-! ## Statements -/

/-- Another transaction has inserted the booking's conversation and not committed it. -/
def keyHeld (s : Messaging) : Bool := s.calls.any fun c => c.phase.holdsKey

/-- Another transaction has updated the committed row of the conversation. -/
def rowHeld (s : Messaging) : Bool := s.calls.any fun c => c.phase.holdsRow

/-- `COMMIT` of a `sendMessage`. -/
def commitMessage (db : MessagingDb) (now : Int) (message : MessageInput) : MessageTarget → MessagingDb
  | .existing id => (db.insertMessage now id message).touchConversation now id
  | .created parties =>
    (db.insertConversation now parties).insertMessage now db.conversations.freshKey message

/-- The next statement: where the call stands after it, and the committed tables. `none`: it waits. -/
def stepCall (s : Messaging) (c : MessageCall) : Option (MessagePhase × MessagingDb) :=
  match c.phase, c.message with
  | .selecting, some _ =>
    match s.db.conversationOf b with
    | some conversation => some (.insertingMessage (.existing conversation.id), s.db)
    | none => some (.readingBooking, s.db)
  | .selecting, none =>
    match s.db.conversationOf b with
    | some _ => some (.returned, s.db)
    | none => some (.readingBooking, s.db)
  | .readingBooking, _ =>
    match s.db.bookings.find? b with
    | some parties => some (.inserting parties, s.db)
    | none => some (.failed, s.db)
  | .inserting parties, some _ =>
    if s.keyHeld then none
    -- without an `ON CONFLICT` clause the row of another transaction is an error
    else if (s.db.conversationOf b).isSome then some (.failed, s.db)
    else some (.insertingMessage (.created parties), s.db)
  | .inserting parties, none =>
    if s.keyHeld || s.rowHeld then none
    else if (s.db.conversationOf b).isSome then some (.returned, s.db)
    else some (.returned, s.db.insertConversation c.startedAt parties)
  | .insertingMessage target, _ => some (.touching target, s.db)
  | .touching (.existing id), _ => if s.rowHeld then none else some (.committing (.existing id), s.db)
  | .touching (.created parties), _ => some (.committing (.created parties), s.db)
  | .committing target, some message => some (.returned, commitMessage s.db c.startedAt message target)
  | .committing _, none | .returned, _ | .failed, _ => none

def step (s : Messaging) : MessagingLabel → Messaging
  | .sendMessage now message => { s with calls := s.calls ++ [⟨some message, now, .selecting⟩] }
  | .getOrCreateConversation now => { s with calls := s.calls ++ [⟨none, now, .selecting⟩] }
  | .call i =>
    match s.calls[i]? with
    | none => s
    | some c =>
      match s.stepCall b c with
      | none => s
      | some (phase, db) => ⟨db, s.calls.set i { c with phase := phase }⟩

/-- Every call has returned, or has thrown. -/
def Ended (s : Messaging) : Prop := ∀ c ∈ s.calls, c.phase.ended = true

/-! ## What a statement does -/

/-- All that the next statement of a call can do. -/
inductive Moves (s : Messaging) (c : MessageCall) : MessagePhase → MessagingDb → Prop where
  /-- The booking has no conversation. -/
  | reads (hphase : c.phase = .selecting) (hnone : s.db.conversationOf b = none) :
      Moves s c .readingBooking s.db
  | finds (parties : BookingParties) (hphase : c.phase = .readingBooking)
      (hparties : s.db.bookings.find? b = some parties) : Moves s c (.inserting parties) s.db
  | noBooking (hphase : c.phase = .readingBooking) (hnone : s.db.bookings.find? b = none) :
      Moves s c .failed s.db
  | existing (message : MessageInput) (conversation : Conversation) (hmessage : c.message = some message)
      (hphase : c.phase = .selecting) (hsome : s.db.conversationOf b = some conversation) :
      Moves s c (.insertingMessage (.existing conversation.id)) s.db
  /-- `sendMessage` inserts the conversation. -/
  | creates (message : MessageInput) (parties : BookingParties) (hmessage : c.message = some message)
      (hphase : c.phase = .inserting parties) (hkey : s.keyHeld = false)
      (hnone : s.db.conversationOf b = none) : Moves s c (.insertingMessage (.created parties)) s.db
  /-- `sendMessage` finds a row of its key. -/
  | collides (message : MessageInput) (parties : BookingParties) (hmessage : c.message = some message)
      (hphase : c.phase = .inserting parties) (hkey : s.keyHeld = false)
      (hsome : (s.db.conversationOf b).isSome) : Moves s c .failed s.db
  | proceeds (target : MessageTarget) (phase : MessagePhase) (hrank : phase.rank < c.phase.rank)
      (hold : c.phase.target = some target) (hnew : phase.target = some target) : Moves s c phase s.db
  | commits (message : MessageInput) (target : MessageTarget) (hmessage : c.message = some message)
      (hphase : c.phase = .committing target) :
      Moves s c .returned (commitMessage s.db c.startedAt message target)
  /-- `getOrCreateConversation` returns the conversation there is. -/
  | gets (hmessage : c.message = none) (hphase : c.phase.target = none) (hopen : c.phase.ended = false)
      (hsome : (s.db.conversationOf b).isSome) : Moves s c .returned s.db
  | getsNew (parties : BookingParties) (hmessage : c.message = none) (hphase : c.phase = .inserting parties)
      (hkey : s.keyHeld = false) (hnone : s.db.conversationOf b = none) :
      Moves s c .returned (s.db.insertConversation c.startedAt parties)

variable {b}

theorem moves_of_stepCall {s : Messaging} {c : MessageCall} {phase : MessagePhase} {db : MessagingDb}
    (h : s.stepCall b c = some (phase, db)) : s.Moves b c phase db := by
  unfold stepCall at h
  split at h
  case h_1 message hphase hmessage =>
    split at h
    case h_1 conversation hsome =>
      cases h
      exact .existing message conversation hmessage hphase hsome
    case h_2 hnone =>
      cases h
      exact .reads hphase hnone
  case h_2 hphase hmessage =>
    split at h
    case h_1 conversation hsome =>
      cases h
      exact .gets hmessage (by rw [hphase]; rfl) (by rw [hphase]; rfl) (Option.isSome_of_eq_some hsome)
    case h_2 hnone =>
      cases h
      exact .reads hphase hnone
  case h_3 hphase =>
    split at h
    case h_1 parties hparties =>
      cases h
      exact .finds parties hphase hparties
    case h_2 hnone =>
      cases h
      exact .noBooking hphase hnone
  case h_4 parties message hphase hmessage =>
    split at h
    case isTrue => cases h
    case isFalse hkey =>
      split at h
      case isTrue hsome =>
        cases h
        exact .collides message parties hmessage hphase (by simpa using hkey) hsome
      case isFalse hnone =>
        cases h
        exact .creates message parties hmessage hphase (by simpa using hkey) (by simpa using hnone)
  case h_5 parties hphase hmessage =>
    split at h
    case isTrue => cases h
    case isFalse hheld =>
      simp only [Bool.or_eq_true, not_or, Bool.not_eq_true] at hheld
      split at h
      case isTrue hsome =>
        cases h
        exact .gets hmessage (by rw [hphase]; rfl) (by rw [hphase]; rfl) hsome
      case isFalse hnone =>
        cases h
        exact .getsNew parties hmessage hphase hheld.1 (by simpa using hnone)
  case h_6 target hphase =>
    cases h
    exact .proceeds target _ (by simp [hphase, MessagePhase.rank]) (by rw [hphase]; rfl) rfl
  case h_7 id hphase =>
    split at h
    case isTrue => cases h
    case isFalse =>
      cases h
      exact .proceeds (.existing id) _ (by simp [hphase, MessagePhase.rank]) (by rw [hphase]; rfl) rfl
  case h_8 parties hphase =>
    cases h
    exact .proceeds (.created parties) _ (by simp [hphase, MessagePhase.rank]) (by rw [hphase]; rfl) rfl
  case h_9 target message hphase hmessage =>
    cases h
    exact .commits message target hmessage hphase
  case h_10 => cases h
  case h_11 => cases h
  case h_12 => cases h

/-- A step of a call moves it, or leaves the state as it is. -/
theorem step_call_of {P : Messaging → Prop} {s : Messaging} {i : Nat} (hstay : P s)
    (hmoves : ∀ c phase db, s.calls[i]? = some c → s.Moves b c phase db →
      P ⟨db, s.calls.set i { c with phase := phase }⟩) : P (s.step b (.call i)) := by
  simp only [step]
  split
  case h_1 => exact hstay
  case h_2 c hc =>
    split
    case h_1 => exact hstay
    case h_2 phase db hstep => exact hmoves c phase db hc (moves_of_stepCall hstep)

/-! ## Calls can be finished -/

/-- Only `sendMessage` gets as far as a message. -/
def Sends (s : Messaging) : Prop := ∀ c ∈ s.calls, c.phase.target.isSome → c.message.isSome

theorem Sends.call {s : Messaging} (h : s.Sends) {i : Nat} {c : MessageCall} (hc : s.calls[i]? = some c)
    {phase : MessagePhase} {db : MessagingDb} (hmoves : s.Moves b c phase db) :
    Sends ⟨db, s.calls.set i { c with phase := phase }⟩ := by
  intro c' hc' htarget
  rcases List.mem_or_eq_of_mem_set hc' with hold | rfl
  · exact h c' hold htarget
  · cases hmoves with
    | existing message _ hmessage | creates message _ hmessage => simp [hmessage]
    | proceeds target _ _ hold => exact h c (List.mem_of_getElem? hc) (by simp [hold])
    | _ => cases htarget

theorem Sends.step {s : Messaging} (h : s.Sends) (l : MessagingLabel) : (s.step b l).Sends := by
  have hadd : ∀ message now, Sends { s with calls := s.calls ++ [⟨message, now, .selecting⟩] } := by
    intro message now c hc htarget
    rcases List.mem_append.mp hc with hc | hc
    · exact h c hc htarget
    · rw [List.mem_singleton.mp hc] at htarget
      cases htarget
  cases l with
  | sendMessage now message => exact hadd (some message) now
  | getOrCreateConversation now => exact hadd none now
  | call i => exact step_call_of h fun c phase db hc hmoves => h.call hc hmoves

theorem rank_lt_of_moves {s : Messaging} {c : MessageCall} {phase : MessagePhase} {db : MessagingDb}
    (h : s.Moves b c phase db) : phase.rank < c.phase.rank := by
  cases h with
  | reads hphase | finds _ hphase | noBooking hphase | existing _ _ _ hphase | creates _ _ _ hphase
  | collides _ _ _ hphase | commits _ _ _ hphase | getsNew _ _ hphase => simp [hphase, MessagePhase.rank]
  | proceeds _ _ hrank => exact hrank
  | gets _ _ hopen =>
    cases hphase : c.phase with
    | returned | failed => simp [hphase, MessagePhase.ended] at hopen
    | _ => simp [MessagePhase.rank]

/-- A call waits only for a transaction that need not wait. -/
theorem exists_stepCall {s : Messaging} (hsends : s.Sends) (hopen : ¬ s.Ended) :
    ∃ c ∈ s.calls, (s.stepCall b c).isSome := by
  have hcommit : ∀ c ∈ s.calls, ∀ target, c.phase = .committing target → (s.stepCall b c).isSome := by
    intro c hc target hphase
    obtain ⟨message, hmessage⟩ := Option.isSome_iff_exists.mp (hsends c hc (by simp [hphase, MessagePhase.target]))
    simp [stepCall, hphase, hmessage]
  by_cases hrow : s.rowHeld = true
  · obtain ⟨c, hc, hholds⟩ := List.any_eq_true.mp hrow
    refine ⟨c, hc, ?_⟩
    unfold MessagePhase.holdsRow at hholds
    split at hholds
    case h_1 id hphase => exact hcommit c hc _ hphase
    case h_2 => cases hholds
  · by_cases htarget : ∃ c ∈ s.calls, c.phase.target.isSome
    · obtain ⟨c, hc, hsome⟩ := htarget
      refine ⟨c, hc, ?_⟩
      cases hphase : c.phase with
      | insertingMessage target => simp [stepCall, hphase]
      | touching target => cases target <;> simp [stepCall, hphase, hrow]
      | committing target => exact hcommit c hc target hphase
      | _ => simp [hphase, MessagePhase.target] at hsome
    · have hkey : s.keyHeld = false := by
        refine List.any_eq_false.mpr fun c hc hholds => htarget ⟨c, hc, ?_⟩
        unfold MessagePhase.holdsKey at hholds
        split at hholds
        case h_1 parties hphase => simp [hphase]
        case h_2 => cases hholds
      simp only [Ended, not_forall] at hopen
      obtain ⟨c, hc, hphase⟩ := hopen
      refine ⟨c, hc, ?_⟩
      cases hcase : c.phase with
      | selecting =>
        cases hmessage : c.message <;> cases hdb : s.db.conversationOf b <;> simp [stepCall, hcase, hmessage, hdb]
      | readingBooking => cases hdb : s.db.bookings.find? b <;> simp [stepCall, hcase, hdb]
      | inserting parties =>
        cases hmessage : c.message <;> cases hdb : s.db.conversationOf b <;>
          simp [stepCall, hcase, hmessage, hdb, hkey, hrow]
      | insertingMessage target | touching target | committing target =>
        exact absurd ⟨c, hc, by simp [hcase, MessagePhase.target]⟩ htarget
      | returned | failed => simp [hcase, MessagePhase.ended] at hphase

/-- How many statements are still to come, at most, in all calls. -/
def remaining (s : Messaging) : Nat := (s.calls.map fun c => c.phase.rank).sum

theorem sum_map_set (f : MessageCall → Nat) {calls : List MessageCall} {i : Nat} {c : MessageCall}
    (hc : calls[i]? = some c) (c' : MessageCall) :
    ((calls.set i c').map f).sum + f c = (calls.map f).sum + f c' := by
  induction calls generalizing i with
  | nil => cases hc
  | cons d calls ih =>
    cases i with
    | zero =>
      cases hc
      simp only [List.set_cons_zero, List.map_cons, List.sum_cons]
      omega
    | succ i =>
      have hih := ih hc
      simp only [List.set_cons_succ, List.map_cons, List.sum_cons]
      omega

/-- From every state some schedule of the calls under way finishes them. -/
theorem exists_ended {s : Messaging} (hsends : s.Sends) :
    ∃ ls : List MessagingLabel, (∀ l ∈ ls, ∃ i, l = .call i) ∧ (run (step b) s ls).Ended := by
  induction hn : s.remaining using Nat.strong_induction_on generalizing s with
  | _ n ih =>
    by_cases hended : s.Ended
    · exact ⟨[], by simp, hended⟩
    · obtain ⟨c, hc, hstep⟩ := exists_stepCall (b := b) hsends hended
      obtain ⟨i, hi⟩ := List.mem_iff_getElem?.mp hc
      obtain ⟨⟨phase, db⟩, hstep⟩ := Option.isSome_iff_exists.mp hstep
      have hmoves := moves_of_stepCall hstep
      have hnext : s.step b (.call i) = ⟨db, s.calls.set i { c with phase := phase }⟩ := by
        simp [step, hi, hstep]
      have hless : remaining ⟨db, s.calls.set i { c with phase := phase }⟩ < n := by
        have hsum := sum_map_set (fun c => c.phase.rank) hi { c with phase := phase }
        have hrank := rank_lt_of_moves hmoves
        simp only [remaining] at hn hsum ⊢
        omega
      obtain ⟨ls, hls, hdone⟩ := ih _ hless (hsends.call hi hmoves) rfl
      refine ⟨.call i :: ls, ?_, ?_⟩
      · simpa using hls
      · rw [run_cons, hnext]
        exact hdone

end Messaging

end HostPlatform
