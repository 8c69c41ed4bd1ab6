-- SUMMARY: Whose account at Stripe a host's payouts go to, and how many accounts a host is given.
import HostPlatform.Hosts.Onboarding
import HostPlatform.Lib.Outbox

/-!
# Connected accounts

Calls that onboard one host may overlap, and may stop between the account's creation and the
statement that stores it. No host is ever connected to an account of another.
-/

namespace HostPlatform

open Lib (Table)
open Lib.Transition

/-- The account that a call holds for a host. -/
def ConnectPhase.account? : ConnectPhase → Option (HostId × Nat)
  | .storing hostId account | .linking hostId account | .linked hostId account => some (hostId, account)
  | .retrieving hostId account _ | .updating hostId account _ => some (hostId, account)
  | _ => none

theorem ConnectPhase.account?_stopped {c : ConnectPhase} {p : HostId × Nat} (h : c.stopped.account? = some p) :
    c.account? = some p := by
  cases c with
  | linked hostId account => exact h
  | _ => cases h

/-- The host of an account that the call has created and not stored. -/
def ConnectPhase.unstored : ConnectPhase → List HostId
  | .storing hostId _ => [hostId]
  | _ => []

/-- The host that the call has found without an account, and has not stored one for. -/
def ConnectPhase.opening : ConnectPhase → List HostId
  | .creatingAccount hostId | .storing hostId _ => [hostId]
  | _ => []

namespace ConnectWorld

/-! ## What a step does -/

/-- What a step makes of a host's row. -/
inductive HostChange (w : ConnectWorld) (s : ConnectStep) (h h' : ListingHost) : Prop
  | kept (haccount : h'.stripeConnectAccountId = h.stripeConnectAccountId)
      (hstatus : h'.payoutAccountStatus = h.payoutAccountStatus)
  | stored (i : Nat) (now : Int) (made : AccountState) (account : Nat) (hs : s = .next i now made)
      (hc : w.calls[i]? = some (.storing h.id account)) (haccount : h'.stripeConnectAccountId = some account)
      (hstatus : h'.payoutAccountStatus = .pending)
  | checked (i : Nat) (now : Int) (made : AccountState) (account : Nat) (hs : s = .next i now made)
      (hc : w.calls[i]? = some (.updating h.id account h'.payoutAccountStatus))
      (haccount : h'.stripeConnectAccountId = h.stripeConnectAccountId)
  | mirrored (i : Nat) (now : Int) (made : AccountState) (account : Nat) (hs : s = .next i now made)
      (hc : w.calls[i]? = some (.mirroring account h'.payoutAccountStatus))
      (hconnected : h.stripeConnectAccountId = some account)
      (haccount : h'.stripeConnectAccountId = h.stripeConnectAccountId)
  | shown (account age : Nat) (a : ConnectAccount) (state : AccountState) (hs : s = .accountUpdated account age)
      (ha : w.accounts.find? account = some a) (hstate : a.states[age]? = some state)
      (hconnected : h.stripeConnectAccountId = some account)
      (haccount : h'.stripeConnectAccountId = h.stripeConnectAccountId)
      (hstatus : h'.payoutAccountStatus = (a.object state).readiness)

/-- The row of a key after a step: a new one that is not connected, or one that was there. -/
def HostStep (w : ConnectWorld) (s : ConnectStep) (before after : Option ListingHost) : Prop :=
  match before, after with
  | none, none => True
  | none, some h' => h'.stripeConnectAccountId = none ∧ h'.payoutAccountStatus = .notConnected
  | some h, some h' => h'.id = h.id ∧ HostChange w s h h'
  | some _, none => False

theorem HostStep.refl (w : ConnectWorld) (s : ConnectStep) (h : Option ListingHost) : HostStep w s h h := by
  cases h with
  | none => trivial
  | some h => exact ⟨rfl, .kept rfl rfl⟩

/-- A row that is rewritten. -/
theorem HostStep.map {w : ConnectWorld} {s : ConnectStep} {h : Option ListingHost} {f : ListingHost → ListingHost}
    (hf : ∀ r, h = some r → (f r).id = r.id ∧ HostChange w s r (f r)) : HostStep w s h (h.map f) := by
  cases h with
  | none => trivial
  | some r => exact hf r rfl

/-- A status is written to the rows of an account. -/
theorem hostStep_setConnectedAccountStatus {w : ConnectWorld} {s : ConnectStep} {account : Nat}
    {status : PayoutAccountStatus} (k : HostId)
    (h : ∀ r : ListingHost, r.stripeConnectAccountId = some account →
      HostChange w s r { r with payoutAccountStatus := status }) :
    HostStep w s (w.db.hosts.find? k) ((setConnectedAccountStatus w.db account status).hosts.find? k) := by
  rw [setConnectedAccountStatus, Table.find?_updateWhere]
  refine HostStep.map fun r _ => ?_
  split
  case isTrue hconnected => exact ⟨rfl, h r (beq_iff_eq.mp hconnected)⟩
  case isFalse => exact ⟨rfl, .kept rfl rfl⟩

/-- A statement rewrites the row of one host. -/
theorem hostStep_modify {w : ConnectWorld} {s : ConnectStep} {hostId : HostId} {f : ListingHost → ListingHost}
    (hf : ∀ r, Lib.key (f r) = Lib.key r) (k : HostId)
    (h : ∀ r, r.id = hostId → HostChange w s r (f r)) :
    HostStep w s (w.db.hosts.find? k) ((w.db.hosts.modify hostId f hf).find? k) := by
  rw [Table.find?_modify]
  split
  case isTrue hk =>
    subst hk
    exact HostStep.map fun r hr => ⟨hf r, h r (Table.key_of_find? hr)⟩
  case isFalse => exact HostStep.refl w s _

theorem host_step (w : ConnectWorld) (s : ConnectStep) (k : HostId) :
    HostStep w s (w.db.hosts.find? k) ((connectStep w s).db.hosts.find? k) := by
  cases s with
  | connectAccount userId => exact HostStep.refl w _ _
  | onboardingStatus hostId => exact HostStep.refl w _ _
  | thinEvent account => exact HostStep.refl w _ _
  | accountChanges account state => exact HostStep.refl w _ _
  | stop i =>
    simp only [connectStep]
    split <;> exact HostStep.refl w _ _
  | accountUpdated account age =>
    simp only [connectStep, accountUpdated]
    split
    · exact HostStep.refl w _ _
    case h_2 a ha =>
      split
      · exact HostStep.refl w _ _
      case h_2 state hstate =>
        exact hostStep_setConnectedAccountStatus k fun r hr =>
          .shown account age a state rfl ha hstate hr rfl rfl
  | next i now made =>
    simp only [connectStep]
    split
    · exact HostStep.refl w _ _
    case h_2 c hc =>
      cases c with
      | creatingProfile userId =>
        simp only [stepCall]
        split
        · exact HostStep.refl w _ _
        case isFalse hnone =>
          simp only [ensureHostProfile]
          split
          · exact HostStep.refl w _ _
          · rw [Table.find?_insertNew]
            split
            case isTrue hk =>
              rw [hk, Table.find?_freshKey]
              exact ⟨rfl, rfl⟩
            case isFalse => exact HostStep.refl w _ _
      | accepting hostId =>
        simp only [stepCall, recordHostAgreementAcceptance]
        split
        · exact hostStep_modify (by intro r; rfl) k fun r _ => .kept rfl rfl
        · exact HostStep.refl w _ _
      | storing hostId account =>
        exact hostStep_modify (by intro r; rfl) k fun r hr => .stored i now made account rfl (hr ▸ hc) rfl rfl
      | updating hostId account status =>
        exact hostStep_modify (by intro r; rfl) k fun r hr => .checked i now made account rfl (hr ▸ hc) rfl
      | mirroring account status =>
        exact hostStep_setConnectedAccountStatus k fun r hr => .mirrored i now made account rfl hc hr rfl
      | findingProfile userId =>
        simp only [stepCall]
        split <;> exact HostStep.refl w _ _
      | reading hostId | checking hostId =>
        simp only [stepCall]
        split
        · exact HostStep.refl w _ _
        · split <;> exact HostStep.refl w _ _
      | retrieving hostId account stored =>
        simp only [stepCall]
        split
        · exact HostStep.refl w _ _
        · split <;> exact HostStep.refl w _ _
      | notified account =>
        simp only [stepCall]
        split <;> exact HostStep.refl w _ _
      | creatingAccount hostId | linking hostId account | linked hostId account | checked hostId status
      | handled account | failed => exact HostStep.refl w _ _

/-- An account stays as it is, or changes at Stripe. -/
theorem account_step (w : ConnectWorld) (s : ConnectStep) {account : Nat} {a : ConnectAccount}
    (ha : w.accounts.find? account = some a) :
    (connectStep w s).accounts.find? account = some a ∨
      ∃ state, s = .accountChanges account state ∧
        (connectStep w s).accounts.find? account = some { a with state := state, past := a.states } := by
  cases s with
  | connectAccount userId => exact .inl ha
  | onboardingStatus hostId => exact .inl ha
  | thinEvent account' => exact .inl ha
  | stop i =>
    simp only [connectStep]
    split <;> exact .inl ha
  | accountChanges account' state =>
    simp only [connectStep, Table.find?_modify]
    split
    case isTrue heq =>
      subst heq
      rw [ha]
      exact .inr ⟨state, rfl, rfl⟩
    case isFalse => exact .inl ha
  | accountUpdated account' age =>
    simp only [connectStep, accountUpdated]
    split
    · exact .inl ha
    · split <;> exact .inl ha
  | next i now made =>
    simp only [connectStep]
    split
    · exact .inl ha
    case h_2 c hc =>
      cases c with
      | creatingAccount hostId =>
        simp only [stepCall, Table.find?_insertNew]
        split
        case isTrue heq =>
          rw [heq, Table.find?_freshKey] at ha
          cases ha
        case isFalse => exact .inl ha
      | creatingProfile userId | accepting hostId | findingProfile userId | notified account' =>
        simp only [stepCall]
        split <;> exact .inl ha
      | reading hostId | checking hostId | retrieving hostId account' stored =>
        simp only [stepCall]
        split
        · exact .inl ha
        · split <;> exact .inl ha
      | storing hostId account' | updating hostId account' status | mirroring account' status
      | linking hostId account' | linked hostId account' | checked hostId status | handled account'
      | failed => exact .inl ha

/-- Where a call after a step comes from. -/
inductive CallChange (w : ConnectWorld) (s : ConnectStep) (j : Nat) (c' : ConnectPhase) : Prop
  | same (hc : w.calls[j]? = some c')
  | arrived (hj : j = w.calls.length)
      (hc : (∃ userId, c' = .findingProfile userId) ∨ (∃ hostId, c' = .checking hostId) ∨
        ∃ account, c' = .notified account)
  | moved (now : Int) (made : AccountState) (c : ConnectPhase) (hs : s = .next j now made)
      (hc : w.calls[j]? = some c) (hc' : c' = (w.stepCall now made c).1)
  | stopped (c : ConnectPhase) (hc : w.calls[j]? = some c) (hc' : c' = c.stopped)

theorem arrive_cases {w : ConnectWorld} {c c' : ConnectPhase} {j : Nat} (h : (w.arrive c).calls[j]? = some c') :
    w.calls[j]? = some c' ∨ j = w.calls.length ∧ c' = c := by
  simp only [arrive, List.getElem?_append] at h
  split at h
  · exact .inl h
  case isFalse hj =>
    obtain ⟨hzero, hc⟩ := List.getElem?_eq_some_iff.mp h
    simp only [List.length_singleton] at hzero
    exact .inr ⟨by omega, by simpa using hc.symm⟩

theorem set_cases {w : ConnectWorld} {c' d : ConnectPhase} {i j : Nat} (h : (w.calls.set i d)[j]? = some c') :
    w.calls[j]? = some c' ∨ j = i ∧ c' = d := by
  rw [List.getElem?_set] at h
  split at h
  case isTrue hij =>
    split at h
    · exact .inr ⟨hij.symm, (Option.some.inj h).symm⟩
    · cases h
  case isFalse => exact .inl h

theorem call_step {w : ConnectWorld} {s : ConnectStep} {j : Nat} {c' : ConnectPhase}
    (h : (connectStep w s).calls[j]? = some c') : CallChange w s j c' := by
  cases s with
  | connectAccount userId =>
    rcases arrive_cases h with hold | ⟨hj, hc⟩
    · exact .same hold
    · exact .arrived hj (.inl ⟨userId, hc⟩)
  | onboardingStatus hostId =>
    rcases arrive_cases h with hold | ⟨hj, hc⟩
    · exact .same hold
    · exact .arrived hj (.inr (.inl ⟨hostId, hc⟩))
  | thinEvent account =>
    rcases arrive_cases h with hold | ⟨hj, hc⟩
    · exact .same hold
    · exact .arrived hj (.inr (.inr ⟨account, hc⟩))
  | accountChanges account state => exact .same h
  | accountUpdated account age =>
    simp only [connectStep, accountUpdated] at h
    split at h
    · exact .same h
    · split at h <;> exact .same h
  | stop i =>
    simp only [connectStep] at h
    split at h
    · exact .same h
    case h_2 c hc =>
      rcases set_cases h with hold | ⟨rfl, hstopped⟩
      · exact .same hold
      · exact .stopped c hc hstopped
  | next i now made =>
    simp only [connectStep] at h
    split at h
    · exact .same h
    case h_2 c hc =>
      rcases set_cases h with hold | ⟨rfl, hmoved⟩
      · exact .same hold
      · exact .moved now made c rfl hc hmoved

/-! ## Whose an account is -/

/-- The account was created for the host. -/
def CreatedFor (w : ConnectWorld) (account : Nat) (hostId : HostId) : Prop :=
  ∃ a, w.accounts.find? account = some a ∧ a.createdFor = hostId

theorem CreatedFor.step {w : ConnectWorld} {account : Nat} {hostId : HostId} (h : w.CreatedFor account hostId)
    (s : ConnectStep) : (connectStep w s).CreatedFor account hostId := by
  obtain ⟨a, ha, hfor⟩ := h
  rcases account_step w s ha with hsame | ⟨state, -, hchanged⟩
  · exact ⟨a, hsame, hfor⟩
  · exact ⟨_, hchanged, hfor⟩

theorem CreatedFor.unique {w : ConnectWorld} {account : Nat} {hostId hostId' : HostId}
    (h : w.CreatedFor account hostId) (h' : w.CreatedFor account hostId') : hostId = hostId' := by
  obtain ⟨a, ha, rfl⟩ := h
  obtain ⟨a', ha', rfl⟩ := h'
  rw [Option.some.inj (ha.symm.trans ha')]

/-- Hosts are connected to accounts created for them, and calls hold no other. -/
structure Own (w : ConnectWorld) : Prop where
  hosts : ∀ {hostId : HostId} {h : ListingHost} {account : Nat}, w.db.hosts.find? hostId = some h →
    h.stripeConnectAccountId = some account → w.CreatedFor account hostId
  calls : ∀ {i : Nat} {c : ConnectPhase} {hostId : HostId} {account : Nat}, w.calls[i]? = some c →
    c.account? = some (hostId, account) → w.CreatedFor account hostId

/-- A call gets its account from its host's row, or creates it. -/
theorem Own.stepCall {w : ConnectWorld} (hown : w.Own) {i : Nat} {now : Int} {made : AccountState}
    {c : ConnectPhase} (hc : w.calls[i]? = some c) {hostId : HostId} {account : Nat}
    (h : (w.stepCall now made c).1.account? = some (hostId, account)) :
    (connectStep w (.next i now made)).CreatedFor account hostId := by
  have hold : c.account? = some (hostId, account) →
      (connectStep w (.next i now made)).CreatedFor account hostId := fun h => (hown.calls hc h).step _
  cases c with
  | storing hostId' account' | linking hostId' account' | linked hostId' account' => exact hold h
  | creatingAccount hostId' =>
    cases h
    refine ⟨⟨w.accounts.freshKey, hostId, made, []⟩, ?_, rfl⟩
    simp only [connectStep, hc, ConnectWorld.stepCall, Table.find?_insertNew, if_true]
  | reading hostId' | checking hostId' =>
    simp only [ConnectWorld.stepCall] at h
    split at h
    · cases h
    case h_2 row hrow =>
      split at h
      · cases h
      case h_2 account' haccount =>
        cases h
        exact (hown.hosts hrow haccount).step _
  | retrieving hostId' account' stored =>
    simp only [ConnectWorld.stepCall] at h
    split at h
    · cases h
    · split at h
      · exact hold h
      · cases h
  | findingProfile userId | creatingProfile userId | accepting hostId' | notified account' =>
    simp only [ConnectWorld.stepCall] at h
    split at h <;> cases h
  | updating hostId' account' status | mirroring account' status | checked hostId' status | handled account'
  | failed => cases h

theorem Own.step {w : ConnectWorld} (hown : w.Own) (s : ConnectStep) : (connectStep w s).Own where
  hosts := by
    intro hostId h' account hh' haccount
    have hchange := host_step w s hostId
    rw [hh'] at hchange
    cases hh : w.db.hosts.find? hostId with
    | none =>
      rw [hh] at hchange
      rw [hchange.1] at haccount
      cases haccount
    | some h =>
      rw [hh] at hchange
      have hid : h.id = hostId := Table.key_of_find? hh
      have hold (hsame : h'.stripeConnectAccountId = h.stripeConnectAccountId) :
          (connectStep w s).CreatedFor account hostId := (hown.hosts hh (hsame ▸ haccount)).step s
      cases hchange.2 with
      | kept hsame hstatus => exact hold hsame
      | checked i now made account' hs hc hsame => exact hold hsame
      | mirrored i now made account' hs hc hconnected hsame => exact hold hsame
      | shown account' age a state hs ha hstate hconnected hsame hstatus => exact hold hsame
      | stored i now made account' hs hc hstored hstatus =>
        rw [hstored] at haccount
        cases haccount
        exact (hown.calls hc (congrArg (fun k => some (k, account)) hid)).step s
  calls := by
    intro i c' hostId account hc' haccount
    cases call_step hc' with
    | same hc => exact (hown.calls hc haccount).step s
    | arrived hj hkind =>
      rcases hkind with ⟨_, rfl⟩ | ⟨_, rfl⟩ | ⟨_, rfl⟩ <;> cases haccount
    | moved now made c hs hc hmoved =>
      subst hs hmoved
      exact hown.stepCall hc haccount
    | stopped c hc hstopped =>
      subst hstopped
      exact (hown.calls hc (ConnectPhase.account?_stopped haccount)).step s

theorem Own.run {w : ConnectWorld} (hown : w.Own) (steps : List ConnectStep) : (run connectStep w steps).Own :=
  run_invariant' (fun _ s h => h.step s) hown steps

end ConnectWorld

/-- The account that a host's payouts go to is connected to no other host, and no other host is ever
sent to its onboarding. -/
theorem account_of_one_host {w : ConnectWorld} (hown : w.Own) (steps : List ConnectStep) {hostId : HostId}
    {h : ListingHost} {account : Nat} (hh : (run connectStep w steps).db.hosts.find? hostId = some h)
    (hconnected : h.stripeConnectAccountId = some account) :
    (∀ h' ∈ (run connectStep w steps).db.hosts.rows, h'.stripeConnectAccountId = some account → h' = h) ∧
      ∀ hostId', .linked hostId' account ∈ (run connectStep w steps).calls → hostId' = hostId := by
  have hfor := (hown.run steps).hosts hh hconnected
  constructor
  · intro h' hmem hconnected'
    have hid := ((hown.run steps).hosts (Table.find?_of_mem hmem) hconnected').unique hfor
    have hfound : (run connectStep w steps).db.hosts.find? hostId = some h' := hid ▸ Table.find?_of_mem hmem
    exact Option.some.inj (hfound.symm.trans hh)
  · intro hostId' hlinked
    obtain ⟨i, hi⟩ := List.getElem?_of_mem hlinked
    exact ((hown.run steps).calls hi rfl).unique hfor

def noListings : ListingDb := ⟨.empty, .empty, .empty, fun _ _ => none, [], [], []⟩

/-- An account that has just been created. -/
def blankAccount : AccountState := ⟨some ⟨some false, none⟩, false, false, false⟩

/-- Two users become hosts at the same time, statement by statement in turn. -/
def twoOnboardings : List ConnectStep :=
  [.connectAccount 1, .connectAccount 2] ++
    (List.replicate 7 [.next 0 0 blankAccount, .next 1 0 blankAccount]).flatten

theorem own_start {db : ListingDb} (hdb : db.hosts.rows = []) : (ConnectWorld.start db).Own where
  hosts := by
    intro hostId h account hh
    have hmem := Table.mem_of_find? hh
    rw [ConnectWorld.start, hdb] at hmem
    cases hmem
  calls := by
    intro i c hostId account hc
    cases hc

theorem twoOnboardings_apart :
    (∀ h' ∈ (run connectStep (.start noListings) twoOnboardings).db.hosts.rows,
        h'.stripeConnectAccountId = some 2 → h'.id = 2) ∧
      ∀ hostId, .linked hostId 2 ∈ (run connectStep (.start noListings) twoOnboardings).calls → hostId = 2 := by
  cases hfound : (run connectStep (.start noListings) twoOnboardings).db.hosts.find? 2 with
  | none =>
    have hsome : ((run connectStep (.start noListings) twoOnboardings).db.hosts.find? 2).isSome := by decide
    rw [hfound] at hsome
    cases hsome
  | some h =>
    have hconnected : h.stripeConnectAccountId = some 2 := by
      have hall : ((run connectStep (.start noListings) twoOnboardings).db.hosts.find? 2).all
          fun h => decide (h.stripeConnectAccountId = some 2) := by decide
      rw [hfound] at hall
      exact of_decide_eq_true hall
    obtain ⟨hunique, hlinked⟩ := account_of_one_host (own_start rfl) twoOnboardings hfound hconnected
    refine ⟨fun h' hmem hconnected' => ?_, hlinked⟩
    rw [hunique h' hmem hconnected']
    exact Table.key_of_find? hfound

/-! ## How many accounts a host is given -/

namespace ConnectWorld

def created (w : ConnectWorld) (hostId : HostId) : Nat :=
  w.accounts.rows.countP fun a => decide (a.createdFor = hostId)

def connected (w : ConnectWorld) (hostId : HostId) : Bool :=
  (w.db.hosts.find? hostId).any fun h => h.stripeConnectAccountId.isSome

/-- Accounts of the host that calls have still to store. -/
def unstored (w : ConnectWorld) (hostId : HostId) : Nat :=
  Lib.Outbox.owed ConnectPhase.unstored (fun h => decide (h = hostId)) w.calls

/-- The account is stored where no other is connected. -/
def vacant (w : ConnectWorld) (hostId : HostId) : Bool :=
  (w.db.hosts.find? hostId).any fun h => h.stripeConnectAccountId.isNone

/-- Of these accounts, that of one call. -/
def unstoredOf (w : ConnectWorld) (i : Nat) (hostId : HostId) : Nat :=
  (w.calls[i]?.elim [] ConnectPhase.unstored).countP fun h => decide (h = hostId)

/-- The step gives up an account of the host: the call that created it stops, or stores it where another
is connected, which is given up then. -/
def givenUp (hostId : HostId) (w : ConnectWorld) (s : ConnectStep) : Nat :=
  match s with
  | .stop i => w.unstoredOf i hostId
  | .next i _ _ => if w.vacant hostId then 0 else w.unstoredOf i hostId
  | _ => 0

theorem unstored_arrive (w : ConnectWorld) {c : ConnectPhase} (hc : c.unstored = []) (hostId : HostId) :
    (w.arrive c).unstored hostId = w.unstored hostId := by
  simp only [unstored, arrive, Lib.Outbox.owed_append, hc, List.countP_nil, Nat.add_zero]

/-- A call moves on. -/
theorem unstored_set {w : ConnectWorld} (w' : ConnectWorld) {i : Nat} {c c' : ConnectPhase} (hc : w.calls[i]? = some c)
    (hw' : w'.calls = w.calls.set i c') (hostId : HostId) :
    w'.unstored hostId + c.unstored.countP (fun h => decide (h = hostId)) =
      w.unstored hostId + c'.unstored.countP fun h => decide (h = hostId) := by
  rw [unstored, hw']
  exact Lib.Outbox.owed_set _ _ hc c'

/-- Only storing an account connects its host. -/
theorem connected_step {w : ConnectWorld} {s : ConnectStep} {hostId : HostId}
    (h : ∀ i now made account, s = .next i now made → w.calls[i]? ≠ some (.storing hostId account)) :
    (connectStep w s).connected hostId = w.connected hostId := by
  have hstep := host_step w s hostId
  unfold connected
  cases hbefore : w.db.hosts.find? hostId with
  | none =>
    cases hafter : (connectStep w s).db.hosts.find? hostId with
    | none => rfl
    | some h' =>
      rw [hbefore, hafter] at hstep
      simp only [Option.any_some, Option.any_none, hstep.1, Option.isSome_none]
  | some r =>
    cases hafter : (connectStep w s).db.hosts.find? hostId with
    | none =>
      rw [hbefore, hafter] at hstep
      exact hstep.elim
    | some r' =>
      rw [hbefore, hafter] at hstep
      simp only [Option.any_some]
      cases hstep.2 with
      | kept hsame hstatus => rw [hsame]
      | checked i now made account hs hc hsame => rw [hsame]
      | mirrored i now made account hs hc hconnected hsame => rw [hsame]
      | shown account age a state hs ha hstate hconnected hsame hstatus => rw [hsame]
      | stored i now made account hs hc hstored hstatus =>
        have hid : r.id = hostId := Table.key_of_find? hbefore
        rw [hid] at hc
        exact absurd hc (h i now made account hs)

/-- Every account created for a host is the one that it is connected to, or one that a call has still to
store, or has been given up. -/
def Balanced (hostId : HostId) (w w' : ConnectWorld) (lost : Nat) : Prop :=
  w'.created hostId + ((w.connected hostId).toNat + w.unstored hostId) =
    w.created hostId + ((w'.connected hostId).toNat + w'.unstored hostId) + lost

theorem Balanced.of_same {hostId : HostId} {w w' : ConnectWorld} (haccounts : w'.accounts = w.accounts)
    (hconnected : w'.connected hostId = w.connected hostId) (hunstored : w'.unstored hostId = w.unstored hostId) :
    Balanced hostId w w' 0 := by
  simp only [Balanced, created, haccounts, hconnected, hunstored, Nat.add_zero]

/-- A call that neither creates an account nor stores one. -/
theorem balanced_next {hostId : HostId} {w : ConnectWorld} {i : Nat} {now : Int} {made : AccountState}
    {c : ConnectPhase} (hc : w.calls[i]? = some c) (hbefore : c.unstored = [])
    (hafter : (w.stepCall now made c).1.unstored = []) (haccounts : (w.stepCall now made c).2.accounts = w.accounts) :
    Balanced hostId w (connectStep w (.next i now made)) (givenUp hostId w (.next i now made)) := by
  have hstep : connectStep w (.next i now made) =
      { (w.stepCall now made c).2 with calls := w.calls.set i (w.stepCall now made c).1 } := by
    simp only [connectStep, hc]
  have hlost : givenUp hostId w (.next i now made) = 0 := by
    simp only [givenUp, unstoredOf, hc, Option.elim_some, hbefore, List.countP_nil, ite_self]
  rw [hlost]
  refine Balanced.of_same (by rw [hstep, haccounts]) (connected_step fun j now' made' account hs hstoring => ?_) ?_
  · cases hs
    rw [hc] at hstoring
    cases hstoring
    cases hbefore
  · have hset := unstored_set (connectStep w (.next i now made)) hc (by rw [hstep]) hostId
    simpa only [hbefore, hafter, List.countP_nil, Nat.add_zero] using hset

theorem balanced_creatingAccount {hostId h : HostId} {w : ConnectWorld} {i : Nat} {now : Int} {made : AccountState}
    (hc : w.calls[i]? = some (.creatingAccount h)) :
    Balanced hostId w (connectStep w (.next i now made)) (givenUp hostId w (.next i now made)) := by
  have hstep : connectStep w (.next i now made) =
      { w with
        accounts := w.accounts.insertNew fun id => ⟨id, h, made, []⟩
        calls := w.calls.set i (.storing h w.accounts.freshKey) } := by
    simp only [connectStep, hc, stepCall]
  have hlost : givenUp hostId w (.next i now made) = 0 := by
    simp only [givenUp, unstoredOf, hc, Option.elim_some, ConnectPhase.unstored, List.countP_nil, ite_self]
  have hset := unstored_set (connectStep w (.next i now made)) hc (by rw [hstep]) hostId
  have hconnected : (connectStep w (.next i now made)).connected hostId = w.connected hostId := by
    rw [hstep]
    rfl
  have hcreated : (connectStep w (.next i now made)).created hostId =
      w.created hostId + [h].countP fun h => decide (h = hostId) := by
    rw [hstep]
    simp only [created, Table.rows_insertNew, List.countP_append, List.countP_singleton]
  simp only [ConnectPhase.unstored, List.countP_nil] at hset
  rw [Balanced, hlost, hconnected, hcreated]
  omega

theorem balanced_storing {hostId h : HostId} {w : ConnectWorld} {i : Nat} {now : Int} {made : AccountState}
    {account : Nat} (hc : w.calls[i]? = some (.storing h account)) :
    Balanced hostId w (connectStep w (.next i now made)) (givenUp hostId w (.next i now made)) := by
  have hstep : connectStep w (.next i now made) =
      { w with
        db := storeConnectAccount w.db h account
        calls := w.calls.set i (.linking h account) } := by
    simp only [connectStep, hc, stepCall]
  have hset := unstored_set (connectStep w (.next i now made)) hc (by rw [hstep]) hostId
  have hcreated : (connectStep w (.next i now made)).created hostId = w.created hostId := by
    rw [hstep]
    rfl
  simp only [ConnectPhase.unstored, List.countP_nil, List.countP_singleton, decide_eq_true_eq] at hset
  rw [Balanced, hcreated]
  simp only [givenUp, unstoredOf, hc, Option.elim_some, ConnectPhase.unstored, List.countP_singleton,
    decide_eq_true_eq]
  by_cases hh : h = hostId
  · subst hh
    simp only [if_true] at hset ⊢
    have hconnected : (connectStep w (.next i now made)).connected h = (w.db.hosts.find? h).isSome := by
      rw [hstep]
      simp only [connected, storeConnectAccount, Table.find?_modify, if_true, Option.any_map]
      cases w.db.hosts.find? h <;> rfl
    rw [hconnected, vacant, connected]
    cases w.db.hosts.find? h with
    | none =>
      simp only [Option.any_none, Option.isSome_none, Bool.toNat_false, Bool.false_eq_true, if_false]
      omega
    | some row =>
      cases haccount : row.stripeConnectAccountId <;> simp [haccount] <;> omega
  · have hconnected : (connectStep w (.next i now made)).connected hostId = w.connected hostId := by
      refine connected_step fun j now' made' account' hs hstoring => ?_
      cases hs
      rw [hc] at hstoring
      cases hstoring
      exact hh rfl
    simp only [if_neg hh, ite_self] at hset ⊢
    rw [hconnected]
    omega

theorem balanced_step (hostId : HostId) (w : ConnectWorld) (s : ConnectStep) :
    Balanced hostId w (connectStep w s) (givenUp hostId w s) := by
  cases s with
  | connectAccount userId => exact Balanced.of_same rfl rfl (w.unstored_arrive rfl hostId)
  | onboardingStatus h => exact Balanced.of_same rfl rfl (w.unstored_arrive rfl hostId)
  | thinEvent account => exact Balanced.of_same rfl rfl (w.unstored_arrive rfl hostId)
  | accountUpdated account age =>
    have hconnected : (connectStep w (.accountUpdated account age)).connected hostId = w.connected hostId :=
      connected_step fun i now made account' hs => by cases hs
    refine Balanced.of_same ?_ hconnected ?_
    all_goals
      simp only [connectStep, accountUpdated]
      split
      · rfl
      · split <;> rfl
  | accountChanges account state =>
    simp only [Balanced, givenUp, Nat.add_zero]
    have hcreated : (connectStep w (.accountChanges account state)).created hostId = w.created hostId := by
      simp only [created, connectStep, Table.modify, Table.rows_updateWhere, List.countP_map]
      refine List.countP_congr fun a _ => ?_
      simp only [Function.comp_apply]
      split <;> rfl
    rw [hcreated]
    rfl
  | stop i =>
    have hconnected : (connectStep w (.stop i)).connected hostId = w.connected hostId :=
      connected_step fun i now made account hs => by cases hs
    cases hc : w.calls[i]? with
    | none =>
      have hsame : connectStep w (.stop i) = w := by simp only [connectStep, hc]
      have hlost : givenUp hostId w (.stop i) = 0 := by
        simp only [givenUp, unstoredOf, hc, Option.elim_none, List.countP_nil]
      rw [hsame, hlost]
      exact Balanced.of_same rfl rfl rfl
    | some c =>
      have hstep : connectStep w (.stop i) = { w with calls := w.calls.set i c.stopped } := by
        simp only [connectStep, hc]
      have hset := unstored_set (connectStep w (.stop i)) hc (by rw [hstep]) hostId
      have hstopped : c.stopped.unstored = [] := by cases c <;> rfl
      have hcreated : (connectStep w (.stop i)).created hostId = w.created hostId := by
        rw [hstep]
        rfl
      rw [hstopped, List.countP_nil] at hset
      rw [Balanced, hconnected, hcreated]
      simp only [givenUp, unstoredOf, hc, Option.elim_some]
      omega
  | next i now made =>
    cases hc : w.calls[i]? with
    | none =>
      have hsame : connectStep w (.next i now made) = w := by simp only [connectStep, hc]
      have hlost : givenUp hostId w (.next i now made) = 0 := by
        simp only [givenUp, unstoredOf, hc, Option.elim_none, List.countP_nil, ite_self]
      rw [hsame, hlost]
      exact Balanced.of_same rfl rfl rfl
    | some c =>
      cases c with
      | creatingAccount h => exact balanced_creatingAccount hc
      | storing h account => exact balanced_storing hc
      | updating | mirroring | linking | linked | checked | handled | failed => exact balanced_next hc rfl rfl rfl
      | findingProfile | creatingProfile | accepting | notified =>
        refine balanced_next hc rfl ?_ ?_
        all_goals
          simp only [stepCall]
          split <;> rfl
      | reading | checking | retrieving =>
        refine balanced_next hc rfl ?_ ?_
        all_goals
          simp only [stepCall]
          split
          · rfl
          · split <;> rfl

/-! ## One call at a time -/

/-- Calls that have found the host without an account, and have not stored one yet. -/
def opening (w : ConnectWorld) (hostId : HostId) : Nat :=
  Lib.Outbox.owed ConnectPhase.opening (fun h => decide (h = hostId)) w.calls

/-- No call of the host reads its row while another one is to store an account, and none stops between
creating an account and storing it. -/
def OneCall (hostId : HostId) (w : ConnectWorld) : ConnectStep → Prop
  | .next i _ _ => w.calls[i]? = some (.reading hostId) → w.opening hostId = 0
  | .stop i => w.unstoredOf i hostId = 0
  | _ => True

instance (hostId : HostId) (w : ConnectWorld) : ∀ s, Decidable (OneCall hostId w s)
  | .next i _ _ => inferInstanceAs (Decidable (w.calls[i]? = some (.reading hostId) → w.opening hostId = 0))
  | .stop i => inferInstanceAs (Decidable (w.unstoredOf i hostId = 0))
  | .connectAccount _ | .onboardingStatus _ | .thinEvent _ | .accountUpdated _ _ | .accountChanges _ _ => isTrue trivial

/-- The host is connected, or one call is about to connect it, or neither; no account has been given up. -/
structure OneAccount (hostId : HostId) (w : ConnectWorld) : Prop where
  row : 0 < w.opening hostId → (w.db.hosts.find? hostId).isSome
  one : (w.connected hostId).toNat + w.opening hostId ≤ 1
  created : w.created hostId = (w.connected hostId).toNat + w.unstored hostId

/-- What a call makes of the hosts it is to connect. -/
inductive OpeningStep (w : ConnectWorld) (now : Int) (made : AccountState) (c : ConnectPhase) : Prop
  | same (hopening : (w.stepCall now made c).1.opening = c.opening) (hstoring : ∀ h account, c ≠ .storing h account)
  | opens (h : HostId) (hc : c = .reading h) (hvacant : w.vacant h)
      (hopening : (w.stepCall now made c).1.opening = [h])
  | stores (h : HostId) (account : Nat) (hc : c = .storing h account)
      (hopening : (w.stepCall now made c).1.opening = [])

theorem opening_stepCall (w : ConnectWorld) (now : Int) (made : AccountState) (c : ConnectPhase) :
    OpeningStep w now made c := by
  cases c with
  | storing h account => exact .stores h account rfl rfl
  | reading h =>
    cases hrow : w.db.hosts.find? h with
    | none => exact .same (by simp [stepCall, hrow, ConnectPhase.opening]) nofun
    | some row =>
      cases haccount : row.stripeConnectAccountId with
      | none =>
        refine .opens h rfl (by simp [vacant, hrow, haccount]) ?_
        simp [stepCall, hrow, haccount, ConnectPhase.opening]
      | some account => exact .same (by simp [stepCall, hrow, haccount, ConnectPhase.opening]) nofun
  | findingProfile | creatingProfile | accepting | notified =>
    refine .same ?_ nofun
    simp only [stepCall]
    split <;> rfl
  | checking | retrieving =>
    refine .same ?_ nofun
    simp only [stepCall]
    split
    · rfl
    · split <;> rfl
  | creatingAccount | updating | mirroring | linking | linked | checked | handled | failed => exact .same rfl nofun

theorem unstored_le_opening (w : ConnectWorld) (hostId : HostId) : w.unstored hostId ≤ w.opening hostId := by
  refine List.sum_le_sum fun c _ => ?_
  cases c <;> simp [ConnectPhase.unstored, ConnectPhase.opening]

theorem unstoredOf_le_opening (w : ConnectWorld) (i : Nat) (hostId : HostId) :
    w.unstoredOf i hostId ≤ w.opening hostId := by
  refine le_trans ?_ (w.unstored_le_opening hostId)
  cases hc : w.calls[i]? with
  | none => simp [unstoredOf, hc]
  | some c =>
    have hset := unstored_set { w with calls := w.calls.set i .failed } hc rfl hostId
    simp only [unstoredOf, hc, Option.elim_some, ConnectPhase.unstored, List.countP_nil] at hset ⊢
    omega

theorem opening_arrive (w : ConnectWorld) {c : ConnectPhase} (hc : c.opening = []) (hostId : HostId) :
    (w.arrive c).opening hostId = w.opening hostId := by
  simp only [opening, arrive, Lib.Outbox.owed_append, hc, List.countP_nil, Nat.add_zero]

theorem opening_set {w : ConnectWorld} (w' : ConnectWorld) {i : Nat} {c c' : ConnectPhase} (hc : w.calls[i]? = some c)
    (hw' : w'.calls = w.calls.set i c') (hostId : HostId) :
    w'.opening hostId + c.opening.countP (fun h => decide (h = hostId)) =
      w.opening hostId + c'.opening.countP fun h => decide (h = hostId) := by
  rw [opening, hw']
  exact Lib.Outbox.owed_set _ _ hc c'

/-- What a step makes of the calls that are to connect the host. -/
inductive HostOpening (hostId : HostId) (w : ConnectWorld) (s : ConnectStep) : Prop
  | kept (hopening : (connectStep w s).opening hostId ≤ w.opening hostId)
      (hconnected : (connectStep w s).connected hostId = w.connected hostId)
  | opens (i : Nat) (now : Int) (made : AccountState) (hs : s = .next i now made)
      (hc : w.calls[i]? = some (.reading hostId)) (hvacant : w.vacant hostId)
      (hopening : (connectStep w s).opening hostId = w.opening hostId + 1)
      (hconnected : (connectStep w s).connected hostId = w.connected hostId)
  | stores (hopening : (connectStep w s).opening hostId + 1 = w.opening hostId)

theorem hostOpening_next {hostId : HostId} {w : ConnectWorld} {i : Nat} {now : Int} {made : AccountState}
    {c : ConnectPhase} (hc : w.calls[i]? = some c) : HostOpening hostId w (.next i now made) := by
  have hcalls : (connectStep w (.next i now made)).calls = w.calls.set i (w.stepCall now made c).1 := by
    simp only [connectStep, hc]
  have hset := opening_set _ hc hcalls hostId
  have hkept (hstoring : ∀ account, c ≠ .storing hostId account) :
      (connectStep w (.next i now made)).connected hostId = w.connected hostId := by
    refine connected_step fun j now' made' account hs hstores => ?_
    cases hs
    rw [hc] at hstores
    exact hstoring account (Option.some.inj hstores)
  cases opening_stepCall w now made c with
  | same hopening hstoring =>
    rw [hopening] at hset
    exact .kept (by omega) (hkept (hstoring hostId))
  | opens h hreads hvacant hopening =>
    subst hreads
    rw [hopening] at hset
    simp only [ConnectPhase.opening, List.countP_nil, List.countP_singleton] at hset
    by_cases hh : h = hostId
    · subst hh
      exact .opens i now made rfl hc hvacant (by simpa using hset) (hkept nofun)
    · exact .kept (by simpa [hh] using hset.le) (hkept nofun)
  | stores h account hstores hopening =>
    subst hstores
    rw [hopening] at hset
    simp only [ConnectPhase.opening, List.countP_nil, List.countP_singleton] at hset
    by_cases hh : h = hostId
    · subst hh
      exact .stores (by simpa using hset)
    · refine .kept (by simpa [hh] using hset.le) (hkept fun account' heq => hh ?_)
      cases heq
      rfl

theorem hostOpening_step (hostId : HostId) (w : ConnectWorld) (s : ConnectStep) : HostOpening hostId w s := by
  cases s with
  | connectAccount userId => exact .kept (w.opening_arrive rfl hostId).le rfl
  | onboardingStatus h => exact .kept (w.opening_arrive rfl hostId).le rfl
  | thinEvent account => exact .kept (w.opening_arrive rfl hostId).le rfl
  | accountChanges account state => exact .kept le_rfl rfl
  | accountUpdated account age =>
    refine .kept (Eq.le ?_) (connected_step fun i now made account' hs => by cases hs)
    simp only [connectStep, accountUpdated]
    split
    · rfl
    · split <;> rfl
  | stop i =>
    refine .kept ?_ (connected_step fun i now made account hs => by cases hs)
    cases hc : w.calls[i]? with
    | none => simp only [connectStep, hc, le_rfl]
    | some c =>
      have hcalls : (connectStep w (.stop i)).calls = w.calls.set i c.stopped := by simp only [connectStep, hc]
      have hset := opening_set _ hc hcalls hostId
      have hstopped : c.stopped.opening = [] := by cases c <;> rfl
      rw [hstopped, List.countP_nil] at hset
      omega
  | next i now made =>
    cases hc : w.calls[i]? with
    | none =>
      have hsame : connectStep w (.next i now made) = w := by simp only [connectStep, hc]
      exact .kept (by rw [hsame]) (by rw [hsame])
    | some c => exact hostOpening_next hc

theorem row_step (w : ConnectWorld) (s : ConnectStep) {hostId : HostId} (h : (w.db.hosts.find? hostId).isSome) :
    ((connectStep w s).db.hosts.find? hostId).isSome := by
  have hstep := host_step w s hostId
  obtain ⟨row, hrow⟩ := Option.isSome_iff_exists.mp h
  cases hafter : (connectStep w s).db.hosts.find? hostId with
  | some row' => rfl
  | none =>
    rw [hrow, hafter] at hstep
    exact hstep.elim

/-- The one call that is to store an account finds no other connected. -/
theorem OneAccount.givenUp_eq_zero {hostId : HostId} {w : ConnectWorld} (h : w.OneAccount hostId) {s : ConnectStep}
    (hone : OneCall hostId w s) : givenUp hostId w s = 0 := by
  cases s with
  | stop i => exact hone
  | next i now made =>
    by_cases hvacant : w.vacant hostId
    · exact if_pos hvacant
    refine (if_neg hvacant).trans (Nat.le_zero.mp ((w.unstoredOf_le_opening i hostId).trans ?_))
    by_contra hopening
    have hpositive : 0 < w.opening hostId := by omega
    obtain ⟨row, hrow⟩ := Option.isSome_iff_exists.mp (h.row hpositive)
    have hconnected : w.connected hostId = true := by
      simpa [vacant, connected, hrow, Option.isSome_iff_ne_none] using hvacant
    have hle := h.one
    rw [hconnected, Bool.toNat_true] at hle
    omega
  | connectAccount | onboardingStatus | thinEvent | accountUpdated | accountChanges => rfl

theorem OneAccount.step {hostId : HostId} {w : ConnectWorld} (h : w.OneAccount hostId) {s : ConnectStep}
    (hone : OneCall hostId w s) : (connectStep w s).OneAccount hostId := by
  have hbalanced := balanced_step hostId w s
  rw [Balanced, h.givenUp_eq_zero hone] at hbalanced
  have hle := h.one
  have hcreated := h.created
  have hconnect := Bool.toNat_le ((connectStep w s).connected hostId)
  cases hostOpening_step hostId w s with
  | kept hopening hconnected =>
    refine ⟨fun hpositive => row_step w s (h.row (hpositive.trans_le hopening)), ?_, by omega⟩
    rw [hconnected]
    omega
  | opens i now made hs hc hvacant hopening hconnected =>
    subst hs
    obtain ⟨row, hrow, hnone⟩ := Option.any_eq_true _ _ |>.mp hvacant
    have hnot : w.connected hostId = false := by
      simpa [connected, hrow] using hnone
    have hzero : w.opening hostId = 0 := hone hc
    refine ⟨fun _ => row_step w _ (by rw [hrow]; rfl), ?_, by omega⟩
    rw [hconnected, hnot, hopening, hzero]
    exact le_rfl
  | stores hopening =>
    refine ⟨fun hpositive => row_step w s (h.row (by omega)), by omega, by omega⟩

theorem OneAccount.created_le {hostId : HostId} {w : ConnectWorld} (h : w.OneAccount hostId) :
    w.created hostId ≤ 1 := by
  have hle := h.one
  have hcreated := h.created
  have hunstored := w.unstored_le_opening hostId
  omega

end ConnectWorld

theorem ConnectWorld.OneAccount.start {db : ListingDb} (hdb : db.hosts.rows = []) (hostId : HostId) :
    (ConnectWorld.start db).OneAccount hostId := by
  have hnone : db.hosts.find? hostId = none := by
    cases hrow : db.hosts.find? hostId with
    | none => rfl
    | some row =>
      have hmem := Table.mem_of_find? hrow
      rw [hdb] at hmem
      cases hmem
  have hconnected : (ConnectWorld.start db).connected hostId = false := by
    simp [ConnectWorld.connected, ConnectWorld.start, hnone]
  refine ⟨nofun, ?_, ?_⟩
  · rw [hconnected]
    exact Nat.zero_le _
  · rw [hconnected]
    rfl

/-- A host asks twice, and the second call begins when the first has returned. -/
def askedInTurn : List ConnectStep :=
  [.connectAccount 1] ++ List.replicate 7 (.next 0 0 blankAccount) ++ [.connectAccount 1] ++
    List.replicate 7 (.next 1 0 blankAccount)

/-- A host asks twice: the second call begins before the first has stored its account. -/
def askedTwice : List ConnectStep :=
  [.connectAccount 1, .next 0 0 blankAccount, .next 0 0 blankAccount, .connectAccount 1, .next 1 0 blankAccount] ++
    (List.replicate 5 [.next 0 0 blankAccount, .next 1 0 blankAccount]).flatten

example : (run connectStep (.start noListings) askedTwice).created 1 = 2 := by decide

end HostPlatform
