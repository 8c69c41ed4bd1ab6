-- SUMMARY: Deletion sweeps, the requests of signed-in users and the booking system, one statement at a time.
import HostPlatform.Privacy.Retention

/-!
# Account deletions

`executeDuePrivacyDeletions` runs next to everything else. A request has its session checked once,
before its own statements, and is a call from then on. A statement waits for a row that another
transaction has locked: the label of a statement that waits leaves the system as it is.
-/

namespace HostPlatform

open Lib (Keyed Table commitWrites)

/-! ## Labels -/

inductive AccountLabel where
  | world (l : Label)
  | wait (elapsed : Nat)
  | signIn (userId : UserId)
  /-- A request arrives, and its session is accepted or not. -/
  | request (cookie : Cookie) (request : AccountRequest)
  /-- `createBooking` of a call, with the readings of its process. -/
  | book (call : Nat) (now : Int) (isDelayedFlow : Bool)
  /-- The next statement of another call. -/
  | proceed (call : Nat)
  | crash (call : Nat)
  | startSweep
  /-- The next statement of a sweep. -/
  | sweep (id : Nat)
  /-- A statement of a sweep fails, which ends the sweep. -/
  | sweepFails (id : Nat)

/-- Bookings are created by calls only. -/
def Label.createsBooking : Label → Bool
  | .transaction (.createBooking ..) => true
  | _ => false

/-! ## Locks -/

/-- The transaction has locked the request. -/
def PrivacySweepPhase.locks (requestId : Nat) : PrivacySweepPhase → Bool
  | .locked d | .writing d _ _ _ => d.requestId == requestId
  | _ => false

/-- The transaction has written the request. -/
def PrivacySweepPhase.writes (requestId : Nat) : PrivacySweepPhase → Bool
  | .writing d _ (_ :: _) _ => d.requestId == requestId
  | _ => false

namespace Accounts

def requestLocked (s : Accounts) (requestId : Nat) : Bool := s.sweeps.rows.any fun w => w.phase.locks requestId

def requestWritten (s : Accounts) (requestId : Nat) : Bool := s.sweeps.rows.any fun w => w.phase.writes requestId

/-! ## Calls -/

def setCallPhase (s : Accounts) (call : Nat) (phase : AccountPhase) : Accounts :=
  { s with calls := s.calls.modify call fun c => { c with phase := phase } }

def endCall (s : Accounts) (call : Nat) : Accounts :=
  { s with calls := s.calls.deleteWhere fun c => c.id == call }

def recordSecurityEvent (s : Accounts) (userId : Option UserId) : Accounts :=
  { s with
    references := Function.update s.references .securityEvents <|
      (s.references .securityEvents).insertNew fun id => ⟨id, userId⟩ }

def request (s : Accounts) (cookie : Cookie) (request : AccountRequest) : Accounts :=
  if requireSession cookie s.users.auth then
    { s with calls := s.calls.insertNew fun id => ⟨id, cookie.userId, request.phase⟩ }
  else s

/-- `createBooking` is called for the user of the session. -/
def book (s : Accounts) (c : AccountCall) (input : CreateBookingInput) (now : Int) (isDelayedFlow : Bool) :
    Accounts :=
  { s.endCall c.id with
    world := s.world.step (.transaction (.createBooking now isDelayedFlow { input with guestId := c.userId })) }

/-- The password is the one of the active user. -/
def confirmsPassword (s : Accounts) (userId : UserId) (password : Option Password) : Bool :=
  (s.users.auth.activeUser? userId).any fun u => u.passwordHash.isSome && u.passwordHash == password

/-- Deletion requests of the user that the unique index allows one of. -/
def openDeletions (s : Accounts) (userId : UserId) : List PrivacyRequest :=
  s.privacyRequests.select fun r =>
    r.userId == userId && decide (r.requestType = .deletion ∧ (r.status = .pending ∨ r.status = .processing))

def pendingDeletions (s : Accounts) (userId : UserId) : List PrivacyRequest :=
  s.privacyRequests.select fun r =>
    r.userId == userId && decide (r.requestType = .deletion ∧ r.status = .pending)

def deletionRow (s : Accounts) (userId : UserId) (id : Nat) : PrivacyRequest :=
  { id := id
    userId := userId
    requestType := .deletion
    status := .pending
    requestedAt := s.now
    executeAfter := some (s.now + days 30)
    completedAt := none
    blockedReason := none
    retainedCategories := [] }

/-- One statement of the privacy routes. -/
def stepCall (s : Accounts) (c : AccountCall) : Accounts :=
  match c.phase with
  | .booking _ => s
  | .confirming confirmation password =>
    if confirmation = "DELETE" ∧ s.confirmsPassword c.userId password then s.setCallPhase c.id .askingBlocker
    else s.endCall c.id
  | .askingBlocker =>
    match s.deletionBlocker s.today c.userId with
    | some _ => s.endCall c.id
    | none => s.setCallPhase c.id .inserting
  | .inserting =>
    match s.openDeletions c.userId with
    | [] =>
      { s.setCallPhase c.id .recording with
        privacyRequests := s.privacyRequests.insertNew (s.deletionRow c.userId) fun _ => rfl }
    | r :: _ =>
      -- The index waits for a transaction that has written the row, then for what it leaves.
      if s.requestWritten r.id then s else s.endCall c.id
  | .cancelling =>
    let pending := s.pendingDeletions c.userId
    if pending.any fun r => s.requestLocked r.id then s
    else if pending = [] then s.endCall c.id
    else
      { s.setCallPhase c.id .recording with
        privacyRequests := s.privacyRequests.updateWhere
          (fun r => r.userId == c.userId && decide (r.requestType = .deletion ∧ r.status = .pending))
          fun r => { r with status := .cancelled } }
  | .recording => (s.recordSecurityEvent (some c.userId)).endCall c.id

/-! ## Sweeps -/

/-- The first statement of `executeDuePrivacyDeletions`. -/
def dueDeletions (s : Accounts) : List Nat :=
  let due := s.privacyRequests.select fun r =>
    decide (r.requestType = .deletion ∧ r.status = .pending) && r.executeAfter.any fun t => decide (t ≤ s.now)
  let ordered := due.mergeSort fun a b => decide (a.executeAfter.getD 0 ≤ b.executeAfter.getD 0)
  (ordered.map PrivacyRequest.id).take 50

def startSweep (s : Accounts) : Accounts :=
  { s with
    sweeps := s.sweeps.insertNew fun id => ⟨id, s.dueDeletions.length, 0, 0, s.dueDeletions, .idle⟩ }

def updateSweep (s : Accounts) (id : Nat) (f : PrivacySweep → PrivacySweep)
    (hf : ∀ w, (f w).id = w.id := by intro w; rfl) : Accounts :=
  { s with sweeps := s.sweeps.modify id f hf }

def setSweepPhase (s : Accounts) (id : Nat) (phase : PrivacySweepPhase) : Accounts :=
  s.updateSweep id fun w => { w with phase := phase }

/-- A failing statement rolls the transaction back, and nothing catches the error. -/
def endSweep (s : Accounts) (id : Nat) : Accounts :=
  { s with sweeps := s.sweeps.deleteWhere fun w => w.id == id }

def commitDeletion (s : Accounts) (id : Nat) (d : Deletion) (blocker : Option String)
    (writes : List DeletionWrite) : Accounts :=
  let committed := commitWrites (execWrite d) s writes
  match blocker with
  | some _ => committed.updateSweep id fun w => { w with blocked := w.blocked + 1, phase := .idle }
  | none => committed.updateSweep id fun w => { w with completed := w.completed + 1, phase := .recording }

/-- One statement of `executeDuePrivacyDeletions`, or its `COMMIT`. -/
def stepSweep (s : Accounts) (w : PrivacySweep) : Accounts :=
  match w.phase with
  | .idle =>
    match w.due with
    | [] => s.endSweep w.id
    | requestId :: due => s.updateSweep w.id fun w => { w with due := due, phase := .begun requestId s.now }
  | .begun requestId startedAt =>
    match (s.privacyRequests.find? requestId).filter fun r => decide (r.status = .pending) with
    | none => s.setSweepPhase w.id .idle
    | some r =>
      if s.requestLocked requestId then s
      else s.setSweepPhase w.id (.locked ⟨requestId, r.userId, startedAt⟩)
  | .locked d =>
    let blocker := s.deletionBlocker (dateAt d.startedAt) d.userId
    s.setSweepPhase w.id (.writing d blocker [] (deletionStatements blocker))
  | .writing d blocker writes (statement :: rest) =>
    s.setSweepPhase w.id (.writing d blocker (writes ++ [⟨statement, s.rowsFound d statement⟩]) rest)
  | .writing d blocker writes [] => s.commitDeletion w.id d blocker writes
  | .recording => (s.recordSecurityEvent none).setSweepPhase w.id .idle

/-! ## Steps -/

def step (s : Accounts) : AccountLabel → Accounts
  | .world l => if l.createsBooking then s else { s with world := s.world.step l }
  | .wait elapsed => { s with users := s.users.wait elapsed }
  | .signIn userId =>
    if (s.users.auth.activeUser? userId).isSome then { s with users := s.users.issueSession userId } else s
  | .request cookie request => s.request cookie request
  | .book call now isDelayedFlow =>
    match s.calls.find? call with
    | some c =>
      match c.phase with
      | .booking input => s.book c input now isDelayedFlow
      | _ => s
    | none => s
  | .proceed call =>
    match s.calls.find? call with
    | some c => s.stepCall c
    | none => s
  | .crash call => s.endCall call
  | .startSweep => s.startSweep
  | .sweep id =>
    match s.sweeps.find? id with
    | some w => s.stepSweep w
    | none => s
  | .sweepFails id => s.endSweep id

/-! ## Requests of deleted users -/

theorem not_requireSession_of_deleted {s : Accounts} {cookie : Cookie} (h : s.Deleted cookie.userId) :
    requireSession cookie s.users.auth = false := by
  obtain ⟨p, hp, hstatus⟩ := h
  have hagree := s.users.agree cookie.userId
  rw [hp, Option.map_some, hstatus] at hagree
  obtain ⟨u, hu, hactive⟩ := Option.map_eq_some_iff.mp hagree
  have hinactive : u.active = false := hactive
  unfold requireSession
  simp only [hu, hinactive, Bool.false_and]

/-- A deleted user's requests are refused. Calls that began before are not. -/
theorem request_of_deleted {s : Accounts} {cookie : Cookie} (h : s.Deleted cookie.userId)
    (request : AccountRequest) : s.step (.request cookie request) = s := by
  show s.request cookie request = s
  unfold Accounts.request
  rw [not_requireSession_of_deleted h]
  rfl

/-! ## What a step does -/

/-- Bookings, money and users are the same. -/
structure SameRows (s s' : Accounts) : Prop where
  world : s'.world = s.world
  profiles : s'.users.profiles = s.users.profiles
  bookingGuests : s'.bookingGuests = s.bookingGuests
  now : s.now ≤ s'.now

theorem SameRows.refl (s : Accounts) : s.SameRows s := ⟨rfl, rfl, rfl, Nat.le_refl _⟩

/-- Some sweep is in the phase. -/
def InPhase (s : Accounts) (phase : PrivacySweepPhase) : Prop := ∃ w ∈ s.sweeps.rows, w.phase = phase

/-- The phase a sweep enters by a step that writes no row. -/
inductive Enters (s : Accounts) (a : AccountLabel) : PrivacySweepPhase → Prop
  | idle : Enters s a .idle
  | begun (requestId : Nat) : Enters s a (.begun requestId s.now)
  | locked (requestId startedAt : Nat) (userId : UserId) (hbegun : s.InPhase (.begun requestId startedAt)) :
      Enters s a (.locked ⟨requestId, userId, startedAt⟩)
  | decided (w : PrivacySweep) (d : Deletion) (ha : a = .sweep w.id) (hw : s.sweeps.find? w.id = some w)
      (hlocked : w.phase = .locked d) :
      Enters s a (.writing d (s.deletionBlocker (dateAt d.startedAt) d.userId) []
        (deletionStatements (s.deletionBlocker (dateAt d.startedAt) d.userId)))
  | planned (d : Deletion) (blocker : Option String) (writes : List DeletionWrite) (statement : DeletionStatement)
      (rest : List DeletionStatement) (hwriting : s.InPhase (.writing d blocker writes (statement :: rest))) :
      Enters s a (.writing d blocker (writes ++ [⟨statement, s.rowsFound d statement⟩]) rest)

end Accounts

/-- What a step can do to bookings, money and users, and to the phases of sweeps. -/
inductive AccountStep (s : Accounts) (a : AccountLabel) (s' : Accounts) : Prop
  | world (l : Label) (ha : a = .world l) (hbooks : l.createsBooking = false)
      (h : s' = { s with world := s.world.step l })
  | booked (c : AccountCall) (input : CreateBookingInput) (now : Int) (isDelayedFlow : Bool)
      (ha : a = .book c.id now isDelayedFlow) (hcall : s.calls.find? c.id = some c)
      (hphase : c.phase = .booking input) (h : s' = s.book c input now isDelayedFlow)
  | quiet (hrows : s.SameRows s') (hphases : ∀ phase, s'.InPhase phase → s.InPhase phase ∨ s.Enters a phase)
  | committed (w : PrivacySweep) (d : Deletion) (blocker : Option String) (writes : List DeletionWrite)
      (hw : s.sweeps.find? w.id = some w) (hphase : w.phase = .writing d blocker writes [])
      (h : s' = s.commitDeletion w.id d blocker writes)

section

variable {s : Accounts} {a : AccountLabel}

/-- A step that leaves the sweeps alone. -/
theorem AccountStep.of_sameSweeps {s' : Accounts} (hrows : s.SameRows s') (h : s'.sweeps = s.sweeps) :
    AccountStep s a s' :=
  .quiet hrows fun phase => by
    unfold Accounts.InPhase
    rw [h]
    exact .inl

theorem Accounts.inPhase_updateSweep {id : Nat} {f : PrivacySweep → PrivacySweep} {hf} {phase : PrivacySweepPhase}
    (h : (s.updateSweep id f hf).InPhase phase) :
    s.InPhase phase ∨ ∃ w ∈ s.sweeps.rows, w.id = id ∧ (f w).phase = phase := by
  obtain ⟨w, hw, rfl⟩ := h
  rcases (Table.mem_modify hf).mp hw with ⟨w₀, hw₀, hid, rfl⟩ | ⟨hw, -⟩
  · exact .inr ⟨w₀, hw₀, hid, rfl⟩
  · exact .inl ⟨w, hw, rfl⟩

/-- A statement that moves the sweep on. -/
theorem AccountStep.of_setSweepPhase {id : Nat} {phase : PrivacySweepPhase} (h : s.Enters a phase) :
    AccountStep s a (s.setSweepPhase id phase) :=
  .quiet ⟨rfl, rfl, rfl, Nat.le_refl _⟩ fun phase' hphase' => by
    rcases Accounts.inPhase_updateSweep hphase' with hold | ⟨w, -, -, rfl⟩
    · exact .inl hold
    · exact .inr h

theorem AccountStep.of_endSweep (id : Nat) : AccountStep s a (s.endSweep id) :=
  .quiet ⟨rfl, rfl, rfl, Nat.le_refl _⟩ fun _ ⟨w, hw, hphase⟩ => .inl ⟨w, (List.mem_filter.mp hw).1, hphase⟩

end

namespace Accounts

variable {s : Accounts} {a : AccountLabel}

theorem stepCall_step (c : AccountCall) : AccountStep s a (s.stepCall c) := by
  have hcall : ∀ s' : Accounts, s'.world = s.world → s'.users = s.users → s'.bookingGuests = s.bookingGuests →
      s'.sweeps = s.sweeps → AccountStep s a s' := fun s' hworld husers hguests hsweeps =>
    .of_sameSweeps ⟨hworld, by rw [husers], hguests, by unfold now; rw [husers]⟩ hsweeps
  unfold stepCall
  split
  · exact hcall _ rfl rfl rfl rfl
  · split
    · exact hcall _ rfl rfl rfl rfl
    · exact hcall _ rfl rfl rfl rfl
  · split
    · exact hcall _ rfl rfl rfl rfl
    · exact hcall _ rfl rfl rfl rfl
  · split
    · exact hcall _ rfl rfl rfl rfl
    · split
      · exact hcall _ rfl rfl rfl rfl
      · exact hcall _ rfl rfl rfl rfl
  · simp only
    split
    · exact hcall _ rfl rfl rfl rfl
    · split
      · exact hcall _ rfl rfl rfl rfl
      · exact hcall _ rfl rfl rfl rfl
  · exact hcall _ rfl rfl rfl rfl

theorem stepSweep_step {w : PrivacySweep} (hw : s.sweeps.find? w.id = some w) :
    AccountStep s (.sweep w.id) (s.stepSweep w) := by
  have hmem := Table.mem_of_find? hw
  unfold stepSweep
  split
  · split
    · exact .of_endSweep w.id
    · refine .quiet ⟨rfl, rfl, rfl, Nat.le_refl _⟩ fun phase hphase => ?_
      rcases inPhase_updateSweep hphase with hold | ⟨_, -, -, rfl⟩
      · exact .inl hold
      · exact .inr (.begun _)
  · rename_i requestId startedAt hphase
    split
    · exact .of_setSweepPhase .idle
    · split
      · exact .quiet (.refl s) fun _ => .inl
      · exact .of_setSweepPhase (.locked requestId startedAt _ ⟨w, hmem, hphase⟩)
  · rename_i d hphase
    exact .of_setSweepPhase (.decided w d rfl hw hphase)
  · rename_i d blocker writes statement rest hphase
    exact .of_setSweepPhase (.planned d blocker writes statement rest ⟨w, hmem, hphase⟩)
  · rename_i d blocker writes hphase
    exact .committed w d blocker writes hw hphase rfl
  · refine .quiet ⟨rfl, rfl, rfl, Nat.le_refl _⟩ fun phase hphase => ?_
    rcases inPhase_updateSweep hphase with hold | ⟨_, -, -, rfl⟩
    · exact .inl hold
    · exact .inr .idle

theorem accountStep (s : Accounts) (a : AccountLabel) : AccountStep s a (s.step a) := by
  cases a with
  | world l =>
    simp only [step]
    split
    · exact .of_sameSweeps (.refl s) rfl
    · rename_i hbooks
      exact .world l rfl (Bool.not_eq_true _ ▸ hbooks) rfl
  | wait elapsed => exact .of_sameSweeps ⟨rfl, rfl, rfl, Nat.le_add_right _ _⟩ rfl
  | signIn userId =>
    simp only [step]
    split
    · exact .of_sameSweeps ⟨rfl, rfl, rfl, Nat.le_refl _⟩ rfl
    · exact .of_sameSweeps (.refl s) rfl
  | request cookie request =>
    simp only [step, Accounts.request]
    split
    · exact .of_sameSweeps ⟨rfl, rfl, rfl, Nat.le_refl _⟩ rfl
    · exact .of_sameSweeps (.refl s) rfl
  | book call now isDelayedFlow =>
    simp only [step]
    split
    · rename_i c hc
      obtain rfl : c.id = call := Table.key_of_find? hc
      split
      · rename_i input hphase
        exact .booked c input now isDelayedFlow rfl hc hphase rfl
      · exact .of_sameSweeps (.refl s) rfl
    · exact .of_sameSweeps (.refl s) rfl
  | proceed call =>
    simp only [step]
    split
    · exact stepCall_step _
    · exact .of_sameSweeps (.refl s) rfl
  | crash call => exact .of_sameSweeps ⟨rfl, rfl, rfl, Nat.le_refl _⟩ rfl
  | startSweep =>
    refine .quiet ⟨rfl, rfl, rfl, Nat.le_refl _⟩ ?_
    rintro phase ⟨w, hw, hphase⟩
    rcases List.mem_append.mp hw with hold | hnew
    · exact .inl ⟨w, hold, hphase⟩
    · rw [← hphase, List.mem_singleton.mp hnew]
      exact .inr .idle
  | sweep id =>
    simp only [step]
    split
    · rename_i w hw
      obtain rfl : w.id = id := Table.key_of_find? hw
      exact stepSweep_step hw
    · exact .of_sameSweeps (.refl s) rfl
  | sweepFails id => exact .of_endSweep id

end Accounts

end HostPlatform
