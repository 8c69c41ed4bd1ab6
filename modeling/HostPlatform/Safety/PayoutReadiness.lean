-- SUMMARY: When the payout status on a host's row is one that the host's account has had, and when it is the present one.
import HostPlatform.Safety.ConnectedAccounts

/-!
# Payout readiness

The status on a host's row is a copy, which the status page and the events of the account refresh.
They read the account in one statement and write the row in another, so a copy may be made after
the account has changed again, or after the row has been given another account.
-/

namespace HostPlatform

open Lib (Table)
open Lib.Transition

namespace ConnectWorld

/-! ## Statuses that an account has had -/

/-- At some time the account had a state in which it read as `status`. -/
def HadStatus (w : ConnectWorld) (account : Nat) (status : PayoutAccountStatus) : Prop :=
  ∃ a, w.accounts.find? account = some a ∧
    ∃ state ∈ a.states, computeReadinessStatus state.recipient = status ∨ (a.object state).readiness = status

theorem HadStatus.step {w : ConnectWorld} {account : Nat} {status : PayoutAccountStatus}
    (h : w.HadStatus account status) (s : ConnectStep) : (connectStep w s).HadStatus account status := by
  obtain ⟨a, ha, state, hstate, hread⟩ := h
  rcases account_step w s ha with hsame | ⟨state', -, hchanged⟩
  · exact ⟨a, hsame, state, hstate, hread⟩
  · exact ⟨_, hchanged, state, List.mem_cons_of_mem _ hstate, hread⟩

/-- The call is about to write a status that it has read from the account. -/
def Read (w : ConnectWorld) (c : ConnectPhase) : Prop :=
  match c with
  | .updating _ account status | .mirroring account status => w.HadStatus account status
  | _ => True

theorem Read.step {w : ConnectWorld} {c : ConnectPhase} (h : w.Read c) (s : ConnectStep) :
    (connectStep w s).Read c := by
  cases c with
  | updating | mirroring => exact HadStatus.step h s
  | _ => trivial

theorem read_stopped (w : ConnectWorld) (c : ConnectPhase) : w.Read c.stopped := by
  cases c <;> trivial

theorem hadStatus_present {w : ConnectWorld} {account : Nat} {a : ConnectAccount}
    (ha : w.accounts.find? account = some a) : w.HadStatus account (computeReadinessStatus a.state.recipient) :=
  ⟨a, ha, a.state, List.mem_cons_self, .inl rfl⟩

/-- What a call holds after its statement, it has read. -/
theorem read_stepCall (w : ConnectWorld) (now : Int) (made : AccountState) {c : ConnectPhase} (h : w.Read c) :
    w.Read (w.stepCall now made c).1 := by
  cases c with
  | retrieving hostId account stored =>
    simp only [stepCall]
    split
    · trivial
    case h_2 a ha =>
      split
      · exact hadStatus_present ha
      · trivial
  | notified account =>
    simp only [stepCall]
    split
    · trivial
    case h_2 a ha => exact hadStatus_present ha
  | findingProfile | creatingProfile | accepting =>
    simp only [stepCall]
    split <;> trivial
  | reading | checking =>
    simp only [stepCall]
    split
    · trivial
    · split <;> trivial
  | _ => trivial

def AllRead (w : ConnectWorld) : Prop := ∀ (i : Nat) (c : ConnectPhase), w.calls[i]? = some c → w.Read c

theorem AllRead.step {w : ConnectWorld} (h : w.AllRead) (s : ConnectStep) : (connectStep w s).AllRead := by
  intro i c' hc'
  cases call_step hc' with
  | same hc => exact (h i c' hc).step s
  | arrived hj hkind => rcases hkind with ⟨_, rfl⟩ | ⟨_, rfl⟩ | ⟨_, rfl⟩ <;> trivial
  | moved now made c hs hc hmoved =>
    subst hmoved
    exact (read_stepCall w now made (h i c hc)).step s
  | stopped c hc hstopped =>
    subst hstopped
    exact read_stopped _ c

/-- A host stored as `active` is connected to an account that has been active. -/
def Truthful (w : ConnectWorld) : Prop :=
  ∀ ⦃hostId : HostId⦄ ⦃h : ListingHost⦄, w.db.hosts.find? hostId = some h → h.payoutAccountStatus = .active →
    ∃ account, h.stripeConnectAccountId = some account ∧ w.HadStatus account .active

/-- A status check that stores `active` finds the account that it read, or one that has been active too. -/
def ChecksConnected (w : ConnectWorld) (s : ConnectStep) : Prop :=
  ∀ ⦃i : Nat⦄ ⦃now : Int⦄ ⦃made : AccountState⦄ ⦃hostId : HostId⦄ ⦃account : Nat⦄ ⦃h : ListingHost⦄,
    s = .next i now made → w.calls[i]? = some (.updating hostId account .active) →
    w.db.hosts.find? hostId = some h →
      h.stripeConnectAccountId = some account ∨
        ∃ other, h.stripeConnectAccountId = some other ∧ w.HadStatus other .active

theorem truthful_step_iff {w : ConnectWorld} (hread : w.AllRead) (h : w.Truthful) (s : ConnectStep) :
    (connectStep w s).Truthful ↔ w.ChecksConnected s := by
  constructor
  · intro hafter i now made hostId account h hs hc hh
    subst hs
    have hstep : connectStep w (.next i now made) =
        { w with
          db := setPayoutAccountStatus w.db hostId .active
          calls := w.calls.set i (.checked hostId .active) } := by
      simp only [connectStep, hc, stepCall]
    have hfind : (connectStep w (.next i now made)).db.hosts.find? hostId =
        some { h with payoutAccountStatus := .active } := by
      rw [hstep]
      simp only [setPayoutAccountStatus, Table.find?_modify, if_true, hh, Option.map_some]
    obtain ⟨other, hother, hhad⟩ := hafter hfind rfl
    rw [hstep] at hhad
    exact .inr ⟨other, hother, hhad⟩
  · intro hguard hostId h' hh' hactive
    have hchange := host_step w s hostId
    rw [hh'] at hchange
    cases hh : w.db.hosts.find? hostId with
    | none =>
      rw [hh] at hchange
      rw [hchange.2] at hactive
      cases hactive
    | some r =>
      rw [hh] at hchange
      have hid : r.id = hostId := Table.key_of_find? hh
      cases hchange.2 with
      | kept hsame hstatus =>
        obtain ⟨account, haccount, hhad⟩ := h hh (hstatus ▸ hactive)
        exact ⟨account, hsame.trans haccount, hhad.step s⟩
      | stored i now made account hs hc haccount hstatus =>
        rw [hstatus] at hactive
        cases hactive
      | checked i now made account hs hc hsame =>
        rw [hid, hactive] at hc
        rcases hguard hs hc hh with hconnected | ⟨other, hother, hhad⟩
        · exact ⟨account, hsame.trans hconnected, HadStatus.step (hread i _ hc) s⟩
        · exact ⟨other, hsame.trans hother, hhad.step s⟩
      | mirrored i now made account hs hc hconnected hsame =>
        rw [hactive] at hc
        exact ⟨account, hsame.trans hconnected, HadStatus.step (hread i _ hc) s⟩
      | shown account age a state hs ha hstate hconnected hsame hstatus =>
        have hhad : w.HadStatus account .active :=
          ⟨a, ha, state, List.mem_of_getElem? hstate, .inr (hstatus.symm.trans hactive)⟩
        exact ⟨account, hsame.trans hconnected, hhad.step s⟩

end ConnectWorld

/-- In every state of a run, only hosts whose account has been active are stored as `active`, exactly if no
status check of the run stores that of an account that has been replaced by one which never was. -/
theorem truthful_iff_guarded {w : ConnectWorld} (hcalls : w.calls = []) (hw : w.Truthful) (steps : List ConnectStep) :
    (∀ pre suf, steps = pre ++ suf → (run connectStep w pre).Truthful) ↔
      Guarded connectStep ConnectWorld.ChecksConnected w steps := by
  refine always_iff_guarded (I := ConnectWorld.AllRead) (P := ConnectWorld.Truthful) (fun _ s h => h.step s)
    (fun _ s hread h => ConnectWorld.truthful_step_iff hread h s) (fun i c hc => ?_) hw
  rw [hcalls] at hc
  cases hc

/-- An account that transfers can be made to. -/
def activeAccount : AccountState := ⟨some ⟨some true, some "active"⟩, false, false, false⟩

/-- The host asks twice. Its first account becomes active and a status check reads it; then the second is
stored, and the check writes what it has read. -/
def checkedWhileReplaced : List ConnectStep :=
  [ .connectAccount 1, .next 0 0 blankAccount, .next 0 0 blankAccount, .connectAccount 1, .next 1 0 blankAccount,
    .next 0 0 blankAccount, .next 0 0 blankAccount, .next 1 0 blankAccount, .next 1 0 blankAccount,
    .next 0 0 blankAccount, .next 0 0 blankAccount, .next 1 0 blankAccount, .accountChanges 1 activeAccount,
    .onboardingStatus 1, .next 2 0 blankAccount, .next 2 0 blankAccount, .next 1 0 blankAccount,
    .next 2 0 blankAccount ]

/-- The host is stored as `active` with an account that never was. -/
theorem checkedWhileReplaced_stored :
    ¬ Guarded connectStep ConnectWorld.ChecksConnected (.start noListings) checkedWhileReplaced := by
  intro hguarded
  have hstart : (ConnectWorld.start noListings).Truthful := by
    intro hostId h hh
    cases hh
  have htruthful :=
    (truthful_iff_guarded rfl hstart checkedWhileReplaced).mpr hguarded checkedWhileReplaced [] (by simp)
  have hrow : ((run connectStep (.start noListings) checkedWhileReplaced).db.hosts.find? 1).any fun h =>
      decide (h.payoutAccountStatus = .active ∧ h.stripeConnectAccountId = some 2) := by decide
  have hstates : ((run connectStep (.start noListings) checkedWhileReplaced).accounts.find? 2).all fun a =>
      decide (a.states = [blankAccount]) := by decide
  obtain ⟨h, hh, hrow⟩ := (Option.any_eq_true _ _).mp hrow
  obtain ⟨hactive, hconnected⟩ := of_decide_eq_true hrow
  obtain ⟨account, haccount, a, ha, state, hstate, hread⟩ := htruthful hh hactive
  obtain rfl : account = 2 := Option.some.inj (haccount.symm.trans hconnected)
  rw [ha, Option.all_some, decide_eq_true_eq] at hstates
  rw [hstates, List.mem_singleton] at hstate
  subst hstate
  rcases hread with hread | hread <;> cases hread

/-! ## The present status -/

namespace ConnectWorld

def statusOf (w : ConnectWorld) (hostId : HostId) : Option PayoutAccountStatus :=
  (w.db.hosts.find? hostId).map fun h => h.payoutAccountStatus

def accountOf (w : ConnectWorld) (hostId : HostId) : Option Nat :=
  (w.db.hosts.find? hostId).bind fun h => h.stripeConnectAccountId

/-- What a check or an event would read now. -/
def readiness (w : ConnectWorld) (account : Nat) : Option PayoutAccountStatus :=
  (w.accounts.find? account).map fun a => computeReadinessStatus a.state.recipient

end ConnectWorld

/-- The call has read the host's row or the account, and is still to write what follows from it. -/
def ConnectPhase.busy (hostId : HostId) (account : Nat) : ConnectPhase → Bool
  | .creatingAccount h | .storing h _ | .retrieving h _ _ | .updating h _ _ => decide (h = hostId)
  | .mirroring a _ => decide (a = account)
  | _ => false

/-- The call has refreshed the host's status. -/
def ConnectPhase.refreshed (hostId : HostId) (account : Nat) : ConnectPhase → Bool
  | .checked h _ => decide (h = hostId)
  | .handled a => decide (a = account)
  | _ => false

/-- The account does not change, and no v1 event shows it with another readiness than `status`: neither one
of a state before the present one, nor one that the v1 flags read otherwise. -/
def Undisturbed (account : Nat) (status : PayoutAccountStatus) (w : ConnectWorld) : ConnectStep → Prop
  | .accountChanges a _ => a ≠ account
  | .accountUpdated a age => a = account → ∀ found ∈ w.accounts.find? a, ∀ state ∈ found.states[age]?,
      (found.object state).readiness = status
  | _ => True

instance (account : Nat) (status : PayoutAccountStatus) (w : ConnectWorld) :
    ∀ s, Decidable (Undisturbed account status w s)
  | .accountChanges a _ => inferInstanceAs (Decidable (a ≠ account))
  | .accountUpdated a age =>
    inferInstanceAs (Decidable (a = account → ∀ found ∈ w.accounts.find? a, ∀ state ∈ found.states[age]?,
      (found.object state).readiness = status))
  | .connectAccount _ | .onboardingStatus _ | .thinEvent _ | .next .. | .stop _ => isTrue trivial

namespace ConnectWorld

section Refresh

variable (hostId : HostId) (account : Nat) (status : PayoutAccountStatus) (n : Nat)

/-- What a call may hold while the account reads as `status`. Those from the `n`th on have begun since. -/
def Current (w : ConnectWorld) (j : Nat) (c : ConnectPhase) : Prop :=
  match c with
  | .creatingAccount h | .storing h _ => h ≠ hostId
  | .retrieving h a stored => h = hostId → a = account ∧ (stored = status → w.statusOf hostId = some status)
  | .updating h _ read => h = hostId → read = status
  | .mirroring a read => a = account → read = status
  | .checked h answer => h = hostId → n ≤ j → answer = status ∧ w.statusOf hostId = some status
  | .handled a => a = account → n ≤ j → w.statusOf hostId = some status
  | _ => True

/-- The host is connected to the account, which reads as `status`. -/
structure Settled (w : ConnectWorld) : Prop where
  connected : w.accountOf hostId = some account
  reads : w.readiness account = some status
  calls : ∀ (j : Nat) (c : ConnectPhase), w.calls[j]? = some c → w.Current hostId account status n j c

variable {hostId : HostId} {account : Nat} {status : PayoutAccountStatus} {n : Nat}

theorem Current.mono {w w' : ConnectWorld} {j : Nat} {c : ConnectPhase}
    (hkeep : w.statusOf hostId = some status → w'.statusOf hostId = some status)
    (h : w.Current hostId account status n j c) : w'.Current hostId account status n j c := by
  cases c with
  | retrieving h' a stored =>
    intro hh
    obtain ⟨ha, hstored⟩ := h hh
    exact ⟨ha, fun heq => hkeep (hstored heq)⟩
  | checked h' answer =>
    intro hh hj
    obtain ⟨hanswer, hstatus⟩ := h hh hj
    exact ⟨hanswer, hkeep hstatus⟩
  | handled a => exact fun ha hj => hkeep (h ha hj)
  | _ => exact h

theorem accountOf_eq_some {w : ConnectWorld} :
    w.accountOf hostId = some account ↔
      ∃ h, w.db.hosts.find? hostId = some h ∧ h.stripeConnectAccountId = some account := by
  simp only [accountOf, Option.bind_eq_some_iff]

theorem readiness_eq_some {w : ConnectWorld} :
    w.readiness account = some status ↔
      ∃ a, w.accounts.find? account = some a ∧ computeReadinessStatus a.state.recipient = status := by
  simp only [readiness, Option.map_eq_some_iff]

theorem statusOf_eq_some {w : ConnectWorld} :
    w.statusOf hostId = some status ↔ ∃ h, w.db.hosts.find? hostId = some h ∧ h.payoutAccountStatus = status := by
  simp only [statusOf, Option.map_eq_some_iff]

theorem Settled.account_of_find? {w : ConnectWorld} (h : w.Settled hostId account status n) {r : ListingHost}
    (hr : w.db.hosts.find? hostId = some r) : r.stripeConnectAccountId = some account := by
  obtain ⟨r', hr', haccount⟩ := accountOf_eq_some.mp h.connected
  rw [Option.some.inj (hr.symm.trans hr')]
  exact haccount

theorem Settled.reads_of_find? {w : ConnectWorld} (h : w.Settled hostId account status n) {a : ConnectAccount}
    (ha : w.accounts.find? account = some a) : computeReadinessStatus a.state.recipient = status := by
  obtain ⟨a', ha', hread⟩ := readiness_eq_some.mp h.reads
  rw [Option.some.inj (ha.symm.trans ha')]
  exact hread

/-- The host's row after a step: connected as before, with the status it had or the one that is read now. -/
theorem Settled.host_step {w : ConnectWorld} {s : ConnectStep} (h : w.Settled hostId account status n)
    (hs : Undisturbed account status w s) {r : ListingHost} (hr : w.db.hosts.find? hostId = some r) :
    ∃ r', (connectStep w s).db.hosts.find? hostId = some r' ∧ r'.stripeConnectAccountId = some account ∧
      (r'.payoutAccountStatus = r.payoutAccountStatus ∨ r'.payoutAccountStatus = status) := by
  have haccount := h.account_of_find? hr
  have hid : r.id = hostId := Table.key_of_find? hr
  have hchange := w.host_step s hostId
  rw [hr] at hchange
  cases hafter : (connectStep w s).db.hosts.find? hostId with
  | none =>
    rw [hafter] at hchange
    exact hchange.elim
  | some r' =>
    rw [hafter] at hchange
    refine ⟨r', rfl, ?_⟩
    cases hchange.2 with
    | kept hsame hstatus => exact ⟨hsame.trans haccount, .inl hstatus⟩
    | stored i now made account' hs' hc hstored hstatus => exact absurd hid (h.calls i _ hc)
    | checked i now made account' hs' hc hsame => exact ⟨hsame.trans haccount, .inr (h.calls i _ hc hid)⟩
    | mirrored i now made account' hs' hc hconnected hsame =>
      have heq : account' = account := Option.some.inj (hconnected.symm.trans haccount)
      exact ⟨hsame.trans haccount, .inr (h.calls i _ hc heq)⟩
    | shown account' age a state hs' ha hstate hconnected hsame hstatus =>
      have heq : account' = account := Option.some.inj (hconnected.symm.trans haccount)
      subst hs'
      exact ⟨hsame.trans haccount, .inr (hstatus.trans (hs heq a ha state hstate))⟩

theorem Settled.statusOf_step {w : ConnectWorld} {s : ConnectStep} (h : w.Settled hostId account status n)
    (hs : Undisturbed account status w s) (hstatus : w.statusOf hostId = some status) :
    (connectStep w s).statusOf hostId = some status := by
  obtain ⟨r, hr, hread⟩ := statusOf_eq_some.mp hstatus
  obtain ⟨r', hr', -, hsame | hnow⟩ := h.host_step hs hr
  · exact statusOf_eq_some.mpr ⟨r', hr', hsame.trans hread⟩
  · exact statusOf_eq_some.mpr ⟨r', hr', hnow⟩

/-- The row after a call has written it. -/
theorem Settled.statusOf_written {w : ConnectWorld} {i : Nat} {now : Int} {made : AccountState} {c : ConnectPhase}
    (h : w.Settled hostId account status n) (hc : w.calls[i]? = some c)
    (hwrites : (∃ a, c = .updating hostId a status) ∨ c = .mirroring account status) :
    (connectStep w (.next i now made)).statusOf hostId = some status := by
  obtain ⟨r, hr, haccount⟩ := accountOf_eq_some.mp h.connected
  rcases hwrites with ⟨a, rfl⟩ | rfl
  · simp only [connectStep, hc, stepCall, statusOf, setPayoutAccountStatus, Table.find?_modify, if_true, hr,
      Option.map_some]
  · simp only [connectStep, hc, stepCall, statusOf, setConnectedAccountStatus, Table.find?_updateWhere, hr,
      Option.map_some, haccount, beq_self_eq_true, if_true]

theorem Settled.stepCall {w : ConnectWorld} {i : Nat} {now : Int} {made : AccountState} {c : ConnectPhase}
    (h : w.Settled hostId account status n) (hs : Undisturbed account status w (.next i now made))
    (hc : w.calls[i]? = some c) :
    (connectStep w (.next i now made)).Current hostId account status n i (w.stepCall now made c).1 := by
  have hkeep := h.statusOf_step hs
  have hcurrent := h.calls i c hc
  cases c with
  | reading h' =>
    simp only [ConnectWorld.stepCall]
    split
    · trivial
    case h_2 row hrow =>
      split
      case h_1 hnone =>
        rintro rfl
        cases hnone.symm.trans (h.account_of_find? hrow)
      · trivial
  | creatingAccount h' => exact hcurrent
  | checking h' =>
    simp only [ConnectWorld.stepCall]
    split
    · trivial
    case h_2 row hrow =>
      split
      case h_1 hnone =>
        rintro rfl
        cases hnone.symm.trans (h.account_of_find? hrow)
      case h_2 account' haccount' =>
        rintro rfl
        refine ⟨Option.some.inj (haccount'.symm.trans (h.account_of_find? hrow)), fun hstored => hkeep ?_⟩
        exact statusOf_eq_some.mpr ⟨row, hrow, hstored⟩
  | retrieving h' a' stored =>
    simp only [ConnectWorld.stepCall]
    split
    · trivial
    case h_2 found hfound =>
      split
      case isTrue hne =>
        rintro rfl
        obtain ⟨rfl, -⟩ := hcurrent rfl
        exact h.reads_of_find? hfound
      case isFalse heq =>
        rintro rfl -
        obtain ⟨rfl, hstored⟩ := hcurrent rfl
        have hnow : stored = status := (not_not.mp heq).symm.trans (h.reads_of_find? hfound)
        exact ⟨hnow, hkeep (hstored hnow)⟩
  | updating h' a' read =>
    rintro rfl -
    obtain rfl := hcurrent rfl
    exact ⟨rfl, h.statusOf_written hc (.inl ⟨a', rfl⟩)⟩
  | notified a' =>
    simp only [ConnectWorld.stepCall]
    split
    · trivial
    case h_2 found hfound =>
      rintro rfl
      exact h.reads_of_find? hfound
  | mirroring a' read =>
    rintro rfl -
    obtain rfl := hcurrent rfl
    exact h.statusOf_written hc (.inr rfl)
  | findingProfile | creatingProfile | accepting =>
    simp only [ConnectWorld.stepCall]
    split <;> trivial
  | storing | linking => trivial
  | linked | failed => trivial
  | checked | handled => exact hcurrent.mono hkeep

theorem Settled.step {w : ConnectWorld} {s : ConnectStep} (h : w.Settled hostId account status n)
    (hs : Undisturbed account status w s) : (connectStep w s).Settled hostId account status n where
  connected := by
    obtain ⟨r, hr, -⟩ := accountOf_eq_some.mp h.connected
    obtain ⟨r', hr', haccount, -⟩ := h.host_step hs hr
    exact accountOf_eq_some.mpr ⟨r', hr', haccount⟩
  reads := by
    obtain ⟨a, ha, hread⟩ := readiness_eq_some.mp h.reads
    rcases account_step w s ha with hsame | ⟨state, hchange, -⟩
    · exact readiness_eq_some.mpr ⟨a, hsame, hread⟩
    · subst hchange
      exact absurd rfl hs
  calls := by
    intro j c' hc'
    cases call_step hc' with
    | same hc => exact (h.calls j c' hc).mono (h.statusOf_step hs)
    | arrived hj hkind => rcases hkind with ⟨_, rfl⟩ | ⟨_, rfl⟩ | ⟨_, rfl⟩ <;> trivial
    | moved now made c hs' hc hmoved =>
      subst hs' hmoved
      exact h.stepCall hs hc
    | stopped c hc hstopped =>
      subst hstopped
      have hcurrent := (h.calls j c hc).mono (h.statusOf_step hs)
      cases c with
      | checked | handled => exact hcurrent
      | _ => trivial

theorem Settled.of_idle {w : ConnectWorld} (hconnected : w.accountOf hostId = some account)
    (hreads : w.readiness account = some status) (hidle : ∀ c ∈ w.calls, c.busy hostId account = false) :
    w.Settled hostId account status w.calls.length where
  connected := hconnected
  reads := hreads
  calls := by
    intro j c hc
    have hbusy := hidle c (List.mem_of_getElem? hc)
    have hj : j < w.calls.length := (List.getElem?_eq_some_iff.mp hc).1
    cases c with
    | creatingAccount | storing => exact of_decide_eq_false hbusy
    | retrieving | updating => exact fun hh => absurd hh (of_decide_eq_false hbusy)
    | mirroring => exact fun ha => absurd ha (of_decide_eq_false hbusy)
    | checked | handled => exact fun _ hn => absurd hj (Nat.not_lt.mpr hn)
    | _ => trivial

end Refresh

end ConnectWorld

/-- From a state in which nothing is under way for a connected host, and while its account does not change
and no v1 event shows it with another readiness: as soon as a status check or an event that arrives has been
dealt with, the host is stored with the present status of its account, whatever other calls come between the
statements, and stays so. -/
theorem refreshed_status {w : ConnectWorld} {hostId : HostId} {account : Nat} {status : PayoutAccountStatus}
    (hconnected : w.accountOf hostId = some account) (hreads : w.readiness account = some status)
    (hidle : ∀ c ∈ w.calls, c.busy hostId account = false) {steps : List ConnectStep}
    (hsteps : Guarded connectStep (Undisturbed account status) w steps) {j : Nat} {c : ConnectPhase}
    (hj : w.calls.length ≤ j) (hc : (run connectStep w steps).calls[j]? = some c)
    (hdone : c.refreshed hostId account) :
    (run connectStep w steps).statusOf hostId = some status ∧
      (run connectStep w steps).readiness account = some status ∧
      ∀ answer, c = .checked hostId answer → answer = status := by
  have hsettled : (run connectStep w steps).Settled hostId account status w.calls.length :=
    run_invariant (fun _ _ h hs => h.step hs) (ConnectWorld.Settled.of_idle hconnected hreads hidle) hsteps
  have hcurrent := hsettled.calls j c hc
  cases c with
  | checked h answer =>
    obtain ⟨hanswer, hstatus⟩ := hcurrent (of_decide_eq_true hdone) hj
    refine ⟨hstatus, hsettled.reads, fun answer' heq => ?_⟩
    cases heq
    exact hanswer
  | handled a => exact ⟨hcurrent (of_decide_eq_true hdone) hj, hsettled.reads, by rintro _ ⟨⟩⟩
  | _ => cases hdone

/-- An account that can be paid out to as well. -/
def payableAccount : AccountState := ⟨some ⟨some true, some "active"⟩, true, true, true⟩

/-- A host has been sent to its onboarding, and completes it. -/
def onboarded : ConnectWorld :=
  run connectStep (.start noListings)
    (.connectAccount 1 :: List.replicate 7 (.next 0 0 blankAccount) ++ [.accountChanges 1 payableAccount])

/-- The status page and an event read the account, and write one after the other, and a v1 event shows it
as it is. -/
def refreshedTwice : List ConnectStep :=
  [ .onboardingStatus 1, .thinEvent 1, .next 1 0 blankAccount, .next 2 0 blankAccount, .next 1 0 blankAccount,
    .next 2 0 blankAccount, .accountUpdated 1 0, .next 1 0 blankAccount ]

theorem refreshedTwice_active :
    (run connectStep onboarded refreshedTwice).statusOf 1 = some .active ∧
      (run connectStep onboarded refreshedTwice).readiness 1 = some .active := by
  have hconnected : onboarded.accountOf 1 = some 1 := by decide
  have hreads : onboarded.readiness 1 = some .active := by decide
  have hidle : ∀ c ∈ onboarded.calls, c.busy 1 1 = false := by decide
  have hsteps : Guarded connectStep (Undisturbed 1 .active) onboarded refreshedTwice := by decide
  have hchecked : (run connectStep onboarded refreshedTwice).calls[1]? = some (.checked 1 .active) := by decide
  obtain ⟨hstored, hnow, -⟩ := refreshed_status hconnected hreads hidle hsteps (by decide) hchecked (by decide)
  exact ⟨hstored, hnow⟩

/-- An event on the account comes between, and the check overwrites what it stored with what it has read before. -/
example : (run connectStep onboarded
    [ .onboardingStatus 1, .next 1 0 blankAccount, .next 1 0 blankAccount, .accountChanges 1 blankAccount,
      .thinEvent 1, .next 2 0 blankAccount, .next 2 0 blankAccount, .next 1 0 blankAccount ]).statusOf 1 =
    some .active := by decide

/-- A late v1 event shows the account as it was created. -/
example : (run connectStep onboarded (refreshedTwice ++ [.accountUpdated 1 1])).statusOf 1 = some .notConnected := by
  decide

end HostPlatform
