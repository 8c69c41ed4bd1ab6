-- SUMMARY: Connections to a database: statements that fail or lose their answer, transactions that commit or roll back, and the rules to reason about them.
import HostPlatform.Lib.Outcome

/-!
# Sessions

A program talks to its database over a connection. What others see is the committed
state. A transaction works on a state of its own, which `COMMIT` makes the committed one
and `ROLLBACK` gives up. A statement may fail, and the answer to one that took effect may
be lost: its caller sees an error all the same.
-/

namespace Lib

/-- What becomes of a statement: it is answered, it fails and has no effect, or it takes
effect and its answer is lost. -/
inductive Answer (ε : Type) where
  | done
  | refused (error : ε)
  | lost (error : ε)
  deriving DecidableEq, Repr

/-- The answer, with its errors as the caller classes them. -/
def Answer.map {ε ε' : Type} (f : ε → ε') : Answer ε → Answer ε'
  | .done => .done
  | .refused error => .refused (f error)
  | .lost error => .lost (f error)

theorem Answer.of_map_eq_lost {ε ε' : Type} {f : ε → ε'} {answer : Answer ε} {error : ε'}
    (h : answer.map f = .lost error) : ∃ lost, answer = .lost lost := by
  cases answer with
  | done => cases h
  | refused error => cases h
  | lost lost => exact ⟨lost, rfl⟩

/-- The state others see, the state of the transaction under way, and how many commits
took effect. -/
structure Connection (σ : Type) where
  committed : σ
  working : σ
  commits : Nat

namespace Connection

variable {σ : Type}

/-- A connection that is not in a transaction. -/
def idle (s : σ) : Connection σ := ⟨s, s, 0⟩

/-- The working state is the committed one: after `BEGIN`, and after `ROLLBACK`. -/
def reset (c : Connection σ) : Connection σ := { c with working := c.committed }

/-- A commit of the state `s` took effect. -/
def commitTo (c : Connection σ) (s : σ) : Connection σ := ⟨s, s, c.commits + 1⟩

@[simp] theorem commitTo_reset (c : Connection σ) (s : σ) : (c.commitTo s).reset = c.commitTo s := rfl
@[simp] theorem idle_committed (s : σ) : (idle s).committed = s := rfl
@[simp] theorem idle_reset (s : σ) : (idle s).reset = idle s := rfl
@[simp] theorem reset_committed (c : Connection σ) : c.reset.committed = c.committed := rfl
@[simp] theorem reset_working (c : Connection σ) : c.reset.working = c.committed := rfl
@[simp] theorem reset_commits (c : Connection σ) : c.reset.commits = c.commits := rfl
@[simp] theorem commitTo_committed (c : Connection σ) (s : σ) : (c.commitTo s).committed = s := rfl
@[simp] theorem commitTo_commits (c : Connection σ) (s : σ) : (c.commitTo s).commits = c.commits + 1 := rfl

end Connection

/-- A computation over a connection. An error leaves the connection where it was raised. -/
def Session (σ ε α : Type) : Type := ExceptT ε (StateM (Connection σ)) α

namespace Session

variable {σ ε α β : Type}

instance : Monad (Session σ ε) := inferInstanceAs (Monad (ExceptT ε (StateM (Connection σ))))

instance : MonadExceptOf ε (Session σ ε) :=
  inferInstanceAs (MonadExceptOf ε (ExceptT ε (StateM (Connection σ))))

def exec (m : Session σ ε α) (c : Connection σ) : Except ε α × Connection σ := (ExceptT.run m).run c

/-- A step on the connection, with its result. -/
def of (f : Connection σ → Except ε α × Connection σ) : Session σ ε α := ExceptT.mk fun c => f c

/-! ## Statements -/

/-- What the caller sees of a statement that would have the outcome `r`, and what is left:
only an error of its own, or one before it took effect, leaves the connection `c`. -/
def receive (answer : Answer ε) (c : Connection σ) (r : Except ε (α × Connection σ)) :
    Except ε α × Connection σ :=
  match answer, r with
  | .refused error, _ => (.error error, c)
  | _, .error error => (.error error, c)
  | .done, .ok (a, c') => (.ok a, c')
  | .lost error, .ok (_, c') => (.error error, c')

/-- A `SELECT`: it has no effect, answered or not. -/
def query (answer : Answer ε) (f : σ → Except ε α) : Session σ ε α := of fun c =>
  receive answer c ((f c.working).map fun a => (a, c))

/-- A statement of a transaction: it changes the working state. -/
def statement (answer : Answer ε) (f : σ → Except ε (α × σ)) : Session σ ε α := of fun c =>
  receive answer c ((f c.working).map fun r => (r.1, { c with working := r.2 }))

/-- A statement outside a transaction: it commits by itself. -/
def autocommit (answer : Answer ε) (f : σ → Except ε (α × σ)) : Session σ ε α := of fun c =>
  receive answer c ((f c.committed).map fun r => (r.1, c.commitTo r.2))

def begin (answer : Answer ε) : Session σ ε Unit := of fun c => receive answer c (.ok ((), c.reset))

def commit (answer : Answer ε) : Session σ ε Unit := of fun c =>
  receive answer c (.ok ((), c.commitTo c.working))

/-- Whatever becomes of the statement: a connection that fails here is closed, which ends
its transaction too. -/
def rollback (answer : Answer ε) : Session σ ε Unit := of fun c => receive answer c.reset (.ok ((), c.reset))

structure TransactionAnswers (ε : Type) where
  begin : Answer ε
  commit : Answer ε
  rollback : Answer ε

def withTransaction (answers : TransactionAnswers ε) (body : Session σ ε α) : Session σ ε α :=
  tryCatch
    (do
      begin answers.begin
      let a ← body
      commit answers.commit
      return a)
    fun error => do
      rollback answers.rollback
      throw error

/-! ## Weakest preconditions -/

/-- `Q` holds of the result of `m` on `c` and of the connection it leaves. -/
def wp (m : Session σ ε α) (Q : Except ε α → Connection σ → Prop) (c : Connection σ) : Prop :=
  Q (m.exec c).1 (m.exec c).2

theorem exec_bind (m : Session σ ε α) (f : α → Session σ ε β) (c : Connection σ) :
    (m >>= f).exec c = match m.exec c with
      | (.ok a, c') => (f a).exec c'
      | (.error error, c') => (.error error, c') := by
  show (ExceptT.run m >>= ExceptT.bindCont f).run c = _
  rw [StateT.run_bind]
  show (match m.exec c with | (r, c') => (ExceptT.bindCont f r).run c') = _
  rcases m.exec c with ⟨_ | a, c'⟩
  · rfl
  · rfl

theorem exec_tryCatch (m : Session σ ε α) (handle : ε → Session σ ε α) (c : Connection σ) :
    (tryCatch m handle).exec c = match m.exec c with
      | (.ok a, c') => (.ok a, c')
      | (.error error, c') => (handle error).exec c' := by
  have hrun : (tryCatch m handle).exec c =
      (match (m.exec c).1 with
        | .ok a => fun c' => (.ok a, c')
        | .error error => (handle error).exec : Connection σ → Except ε α × Connection σ) (m.exec c).2 := rfl
  rw [hrun]
  rcases m.exec c with ⟨_ | a, c'⟩
  · rfl
  · rfl

theorem exec_query (answer : Answer ε) (f : σ → Except ε α) (c : Connection σ) :
    (query answer f).exec c = receive answer c ((f c.working).map fun a => (a, c)) := rfl

variable {Q : Except ε α → Connection σ → Prop} {c : Connection σ}

theorem wp_pure {a : α} (h : Q (.ok a) c) : wp (pure a) Q c := h

theorem wp_throw {error : ε} (h : Q (.error error) c) : wp (throw error) Q c := h

theorem wp_exec {m : Session σ ε α} {r : Except ε α} {c' : Connection σ} (hm : m.exec c = (r, c')) (h : Q r c') :
    wp m Q c := by
  unfold wp
  rw [hm]
  exact h

theorem wp_bind {m : Session σ ε β} {f : β → Session σ ε α}
    (h : wp m (fun r c' => match r with
      | .ok b => wp (f b) Q c'
      | .error error => Q (.error error) c') c) : wp (m >>= f) Q c := by
  unfold wp at h ⊢
  rw [exec_bind]
  rcases hm : m.exec c with ⟨_ | b, c'⟩
  · rw [hm] at h
    exact h
  · rw [hm] at h
    exact h

theorem wp_tryCatch {m : Session σ ε α} {handle : ε → Session σ ε α}
    (h : wp m (fun r c' => match r with
      | .ok a => Q (.ok a) c'
      | .error error => wp (handle error) Q c') c) : wp (tryCatch m handle) Q c := by
  unfold wp at h ⊢
  rw [exec_tryCatch]
  rcases hm : m.exec c with ⟨_ | a, c'⟩
  · rw [hm] at h
    exact h
  · rw [hm] at h
    exact h

/-- A statement has its effect and is answered, has it and is not, or fails. -/
theorem wp_receive {m : Session σ ε α} {answer : Answer ε} {c₀ : Connection σ}
    {r : Except ε (α × Connection σ)} (hm : m.exec c = receive answer c₀ r)
    (hok : ∀ a c', r = .ok (a, c') → Q (.ok a) c')
    (hlost : ∀ a c' error, r = .ok (a, c') → answer = .lost error → Q (.error error) c')
    (herror : ∀ error, Q (.error error) c₀) : wp m Q c := by
  unfold wp
  rw [hm]
  cases r with
  | error error =>
    cases answer with
    | done => exact herror error
    | refused error' => exact herror error'
    | lost error' => exact herror error
  | ok r =>
    cases answer with
    | done => exact hok r.1 r.2 rfl
    | refused error => exact herror error
    | lost error => exact hlost r.1 r.2 error rfl rfl

theorem wp_query {answer : Answer ε} {f : σ → Except ε α} (hok : ∀ a, f c.working = .ok a → Q (.ok a) c)
    (herror : ∀ error, Q (.error error) c) : wp (query answer f) Q c := by
  refine wp_receive rfl (fun a c' h => ?_) (fun a c' error h _ => ?_) herror
  · obtain ⟨a', hf, heq⟩ := map_eq_ok h
    cases heq
    exact hok a hf
  · obtain ⟨a', -, heq⟩ := map_eq_ok h
    cases heq
    exact herror error

theorem wp_statement {answer : Answer ε} {f : σ → Except ε (α × σ)}
    (hok : ∀ a s, f c.working = .ok (a, s) → Q (.ok a) { c with working := s })
    (hlost : ∀ a s error, f c.working = .ok (a, s) → answer = .lost error →
      Q (.error error) { c with working := s })
    (herror : ∀ error, Q (.error error) c) : wp (statement answer f) Q c := by
  refine wp_receive rfl (fun a c' h => ?_) (fun a c' error h hanswer => ?_) herror
  · obtain ⟨⟨a', s⟩, hf, heq⟩ := map_eq_ok h
    cases heq
    exact hok _ s hf
  · obtain ⟨⟨a', s⟩, hf, heq⟩ := map_eq_ok h
    cases heq
    exact hlost _ s error hf hanswer

theorem wp_autocommit {answer : Answer ε} {f : σ → Except ε (α × σ)}
    (hok : ∀ a s, f c.committed = .ok (a, s) → Q (.ok a) (c.commitTo s))
    (hlost : ∀ a s error, f c.committed = .ok (a, s) → answer = .lost error →
      Q (.error error) (c.commitTo s))
    (herror : ∀ error, Q (.error error) c) : wp (autocommit answer f) Q c := by
  refine wp_receive rfl (fun a c' h => ?_) (fun a c' error h hanswer => ?_) herror
  · obtain ⟨⟨a', s⟩, hf, heq⟩ := map_eq_ok h
    cases heq
    exact hok _ s hf
  · obtain ⟨⟨a', s⟩, hf, heq⟩ := map_eq_ok h
    cases heq
    exact hlost _ s error hf hanswer

/-- A computation that does not use the connection. -/
theorem wp_ofExcept {x : Except ε α} (h : Q x c) : wp (MonadExcept.ofExcept x) Q c := by
  cases x with
  | error error => exact h
  | ok a => exact h

/-! ### Answered statements -/

theorem wp_query_done {f : σ → Except ε α} {a : α} (hf : f c.working = .ok a) (h : Q (.ok a) c) :
    wp (query .done f) Q c := by
  refine wp_exec (r := .ok a) ?_ h
  show receive .done c ((f c.working).map _) = _
  rw [hf]
  rfl

theorem wp_statement_done {f : σ → Except ε (α × σ)} {a : α} {s : σ} (hf : f c.working = .ok (a, s))
    (h : Q (.ok a) { c with working := s }) : wp (statement .done f) Q c := by
  refine wp_exec (r := .ok a) ?_ h
  show receive .done c ((f c.working).map _) = _
  rw [hf]
  rfl

theorem wp_autocommit_done {f : σ → Except ε (α × σ)} {a : α} {s : σ} (hf : f c.committed = .ok (a, s))
    (h : Q (.ok a) (c.commitTo s)) : wp (autocommit .done f) Q c := by
  refine wp_exec (r := .ok a) ?_ h
  show receive .done c ((f c.committed).map _) = _
  rw [hf]
  rfl

/-! ## Transactions -/

/-- `m` changes at most the working state. -/
def Isolated (m : Session σ ε α) : Prop :=
  ∀ c, (m.exec c).2.committed = c.committed ∧ (m.exec c).2.commits = c.commits

theorem Isolated.pure (a : α) : Isolated (pure a : Session σ ε α) := fun _ => ⟨rfl, rfl⟩

theorem Isolated.bind {m : Session σ ε β} {f : β → Session σ ε α} (hm : Isolated m) (hf : ∀ b, Isolated (f b)) :
    Isolated (m >>= f) := by
  intro c
  obtain ⟨hcommitted, hcommits⟩ := hm c
  rw [exec_bind]
  rcases h : m.exec c with ⟨_ | b, c'⟩
  · rw [h] at hcommitted hcommits
    exact ⟨hcommitted, hcommits⟩
  · rw [h] at hcommitted hcommits
    exact ⟨(hf b c').1.trans hcommitted, (hf b c').2.trans hcommits⟩

theorem Isolated.statement (answer : Answer ε) (f : σ → Except ε (α × σ)) : Isolated (statement answer f) := by
  intro c
  exact wp_statement (Q := fun _ c' => c'.committed = c.committed ∧ c'.commits = c.commits)
    (fun _ _ _ => ⟨rfl, rfl⟩) (fun _ _ _ _ _ => ⟨rfl, rfl⟩) fun _ => ⟨rfl, rfl⟩

/-- Where the working state of a transaction is given up. -/
theorem reset_of_isolated {c c' : Connection σ} (h : c'.committed = c.committed ∧ c'.commits = c.commits) :
    c'.reset = c.reset := by
  unfold Connection.reset
  rw [h.1, h.2]

theorem wp_rollback {answer : Answer ε} {error : ε} (hrolledback : ∀ error, Q (.error error) c.reset) :
    wp (do rollback answer; throw error) Q c := by
  refine wp_bind (wp_receive rfl (fun _ c' h => ?_) (fun _ c' error h _ => ?_) hrolledback)
  · cases h
    exact hrolledback error
  · cases h
    exact hrolledback error

/-- A transaction leaves the committed state as it was, unless its body ran to the end:
then the commit may have taken effect, answered or not. -/
theorem wp_withTransaction {answers : TransactionAnswers ε} {body : Session σ ε α} (hbody : Isolated body)
    (hcommitted : ∀ a c', body.exec c.reset = (.ok a, c') → Q (.ok a) (c.commitTo c'.working))
    (hlost : ∀ a c' lost, body.exec c.reset = (.ok a, c') → answers.commit = .lost lost →
      ∀ error, Q (.error error) (c.commitTo c'.working))
    (hrolledback : ∀ error, Q (.error error) c.reset) : wp (withTransaction answers body) Q c := by
  refine wp_tryCatch (wp_bind (wp_receive rfl (fun _ c₁ h => ?_) (fun _ c₁ error h _ => ?_) fun error => ?_))
  · cases h
    obtain ⟨hsame, hcount⟩ := hbody c.reset
    refine wp_bind ?_
    rcases hrun : body.exec c.reset with ⟨error | a, c'⟩
    · rw [hrun] at hsame hcount
      refine wp_exec hrun (wp_rollback ?_)
      rw [reset_of_isolated ⟨hsame, hcount⟩]
      exact hrolledback
    · rw [hrun] at hsame hcount
      have hcommit : c'.commitTo c'.working = c.commitTo c'.working := by
        unfold Connection.commitTo
        rw [hcount]
        rfl
      refine wp_exec hrun ?_
      refine wp_bind (wp_receive rfl (fun _ c₂ h => ?_) (fun _ c₂ error h hanswer => ?_) fun error => ?_)
      · cases h
        exact wp_pure (hcommit ▸ hcommitted a c' hrun)
      · -- the rollback comes after the commit, and gives nothing up
        cases h
        refine wp_rollback fun error => ?_
        show Q _ (c'.commitTo c'.working)
        rw [hcommit]
        exact hlost a c' _ hrun hanswer error
      · refine wp_rollback ?_
        rw [reset_of_isolated ⟨hsame, hcount⟩]
        exact hrolledback
  · cases h
    exact wp_rollback hrolledback
  · exact wp_rollback hrolledback

/-- A transaction whose statements are all answered commits what its body leaves. -/
theorem wp_withTransaction_done {body : Session σ ε α} (hbody : Isolated body) {a : α} {c' : Connection σ}
    (hrun : body.exec c.reset = (.ok a, c')) (h : Q (.ok a) (c.commitTo c'.working)) :
    wp (withTransaction ⟨.done, .done, .done⟩ body) Q c := by
  obtain ⟨-, hcount⟩ := hbody c.reset
  rw [hrun] at hcount
  have hcommit : c'.commitTo c'.working = c.commitTo c'.working := by
    unfold Connection.commitTo
    rw [hcount]
    rfl
  refine wp_tryCatch (wp_bind (wp_exec (show (begin .done).exec c = (.ok (), c.reset) from rfl) ?_))
  refine wp_bind (wp_exec hrun ?_)
  have hanswered : (commit .done : Session σ ε Unit).exec c' = (.ok (), c.commitTo c'.working) := by
    rw [← hcommit]
    rfl
  exact wp_bind (wp_exec hanswered (wp_pure h))

end Session

end Lib
