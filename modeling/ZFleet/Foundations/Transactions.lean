/-!
Jobs on one database connection. A job runs statements in order; each statement
asks an oracle whether the engine lets it through, so a job can fail at any of its
statements. Statements outside a transaction commit one by one; `transaction`
puts the state back unless its body committed. `retry` repeats a busy job.
The database state is a parameter.
-/
namespace Transactions

/-- What the engine may answer instead of running a statement. -/
inductive Fault where
  | busy
  | error
  deriving DecidableEq, Repr

inductive Failure where
  | busy
  | error (message : String)
  deriving DecidableEq, Repr

def Fault.failure : Fault → Failure
  | .busy => .busy
  | .error => .error "statement failed"

/-- The state the statements see and the oracle: one entry for each coming statement,
    `none` lets it through, and so does the end of the list. -/
structure Session (σ : Type) where
  state : σ
  faults : List (Option Fault)

def Job (σ α : Type) := Session σ → Except Failure α × Session σ

variable {σ α β : Type}

instance : Monad (Job σ) where
  pure a := fun s => (.ok a, s)
  bind job next := fun s =>
    match job s with
    | (.ok a, s') => next a s'
    | (.error e, s') => (.error e, s')

def fail (e : Failure) : Job σ α := fun s => (.error e, s)

/-- One statement. A statement that fails changes nothing. -/
def statement (effect : σ → Except Failure (α × σ)) : Job σ α := fun s =>
  match s.faults with
  | some fault :: rest => (.error fault.failure, { s with faults := rest })
  | faults =>
    match effect s.state with
    | .ok (a, state) => (.ok a, ⟨state, faults.tail⟩)
    | .error e => (.error e, { s with faults := faults.tail })

def query (read : σ → α) : Job σ α := statement fun state => .ok (read state, state)

def execute (write : σ → σ) : Job σ Unit := statement fun state => .ok ((), write state)

/-- Bookkeeping that involves no statement and cannot fail. -/
def bookkeep (change : σ → σ) : Job σ Unit := fun s =>
  (.ok (), { s with state := change s.state })

/-- How the body of a transaction ends when it does not throw. -/
inductive Ending (α : Type) where
  | committed (value : α)
  | abandoned (value : α)

/-- The begin statement, then the body; without a commit the state is restored. -/
def transaction (body : Job σ (Ending α)) : Job σ α := fun s =>
  match (execute id >>= fun _ => body) s with
  | (.ok (.committed a), s') => (.ok a, s')
  | (.ok (.abandoned a), s') => (.ok a, { s' with state := s.state })
  | (.error e, s') => (.error e, { s' with state := s.state })

/-- Run once and again while the engine is busy, at most `attempts` more times. -/
def retry : Nat → Job σ α → Job σ α
  | 0, job => job
  | attempts + 1, job => fun s =>
    match job s with
    | (.error .busy, s') => retry attempts job s'
    | result => result

/-- Handle every failure of the job by a value; what the job changed stays. -/
def recover (job : Job σ α) (handler : Failure → α) : Job σ α := fun s =>
  match job s with
  | (.ok a, s') => (.ok a, s')
  | (.error e, s') => (.ok (handler e), s')

/-- Handle every failure of the job by another job; what the first one changed stays. -/
def rescue (job : Job σ α) (handler : Failure → Job σ α) : Job σ α := fun s =>
  match job s with
  | (.ok a, s') => (.ok a, s')
  | (.error e, s') => handler e s'

/-- A computation that may throw and sees no state. -/
def ofExcept (result : Except String α) : Job σ α :=
  match result with
  | .ok a => pure a
  | .error message => fail (.error message)

/-! Running -/

theorem pure_run (a : α) (s : Session σ) : (pure a : Job σ α) s = (.ok a, s) := rfl

theorem fail_run (e : Failure) (s : Session σ) : (fail e : Job σ α) s = (.error e, s) := rfl

theorem bind_ok {job : Job σ α} {next : α → Job σ β} {s s' : Session σ} {b : β}
    (done : (job >>= next) s = (.ok b, s')) :
    ∃ a middle, job s = (.ok a, middle) ∧ next a middle = (.ok b, s') := by
  change (match job s with
    | (.ok a, s') => next a s'
    | (.error e, s') => (.error e, s')) = (.ok b, s') at done
  cases result : job s with
  | mk value middle =>
    rw [result] at done
    cases value with
    | ok a => exact ⟨a, middle, rfl, done⟩
    | error e => cases done

theorem bind_error {job : Job σ α} {next : α → Job σ β} {s s' : Session σ} {e : Failure}
    (failed : (job >>= next) s = (.error e, s')) :
    job s = (.error e, s') ∨
      ∃ a middle, job s = (.ok a, middle) ∧ next a middle = (.error e, s') := by
  change (match job s with
    | (.ok a, s') => next a s'
    | (.error e, s') => (.error e, s')) = (.error e, s') at failed
  cases result : job s with
  | mk value middle =>
    rw [result] at failed
    cases value with
    | ok a => exact Or.inr ⟨a, middle, rfl, failed⟩
    | error e' =>
      cases failed
      exact Or.inl rfl

/-- Whatever comes out, the first part failed with it or the second part ran. -/
theorem bind_cases {job : Job σ α} {next : α → Job σ β} {s s' : Session σ}
    {result : Except Failure β} (ran : (job >>= next) s = (result, s')) :
    (∃ e, job s = (.error e, s')) ∨ ∃ a middle, job s = (.ok a, middle) ∧
      next a middle = (result, s') := by
  cases result with
  | ok b => exact Or.inr (bind_ok ran)
  | error e =>
    rcases bind_error ran with early | late
    · exact Or.inl ⟨e, early⟩
    · exact Or.inr late

theorem bind_of_ok {job : Job σ α} {next : α → Job σ β} {s s' : Session σ} {a : α}
    (ran : job s = (.ok a, s')) : (job >>= next) s = next a s' := by
  change (match job s with
    | (.ok a, s') => next a s'
    | (.error e, s') => (.error e, s')) = _
  rw [ran]

theorem bind_of_error {job : Job σ α} {next : α → Job σ β} {s s' : Session σ} {e : Failure}
    (ran : job s = (.error e, s')) : (job >>= next) s = (.error e, s') := by
  change (match job s with
    | (.ok a, s') => next a s'
    | (.error e, s') => (.error e, s')) = _
  rw [ran]

theorem bind_assoc_run {γ : Type} (job : Job σ α) (next : α → Job σ β) (last : β → Job σ γ) :
    (job >>= next) >>= last = job >>= fun a => next a >>= last := by
  funext s
  cases ran : job s with
  | mk result s' =>
    cases result with
    | ok a =>
      have first : (job >>= next) s = next a s' := bind_of_ok ran
      rw [bind_of_ok ran]
      change (match (job >>= next) s with
        | (.ok b, s') => last b s'
        | (.error e, s') => (.error e, s')) = _
      rw [first]
      rfl
    | error e => rw [bind_of_error ran, bind_of_error (bind_of_error ran)]

theorem recover_of_ok {job : Job σ α} {handler : Failure → α} {s s' : Session σ} {a : α}
    (ran : job s = (.ok a, s')) : recover job handler s = (.ok a, s') := by
  unfold recover
  rw [ran]

theorem recover_of_error {job : Job σ α} {handler : Failure → α} {s s' : Session σ}
    {e : Failure} (ran : job s = (.error e, s')) :
    recover job handler s = (.ok (handler e), s') := by
  unfold recover
  rw [ran]

theorem recover_ok {job : Job σ α} {handler : Failure → α} {s s' : Session σ} {a : α}
    (done : recover job handler s = (.ok a, s')) :
    job s = (.ok a, s') ∨ ∃ e, job s = (.error e, s') ∧ a = handler e := by
  cases ran : job s with
  | mk outcome middle =>
    cases outcome with
    | ok b =>
      rw [recover_of_ok ran] at done
      cases done
      exact .inl rfl
    | error e =>
      rw [recover_of_error ran] at done
      cases done
      exact .inr ⟨e, rfl, rfl⟩

theorem recover_answers (job : Job σ α) (handler : Failure → α) (s : Session σ) :
    ∃ a s', recover job handler s = (.ok a, s') := by
  cases ran : job s with
  | mk outcome s' =>
    cases outcome with
    | ok a => exact ⟨a, s', recover_of_ok ran⟩
    | error e => exact ⟨handler e, s', recover_of_error ran⟩

theorem rescue_of_ok {job : Job σ α} {handler : Failure → Job σ α} {s s' : Session σ} {a : α}
    (ran : job s = (.ok a, s')) : rescue job handler s = (.ok a, s') := by
  unfold rescue
  rw [ran]

theorem rescue_of_error {job : Job σ α} {handler : Failure → Job σ α} {s s' : Session σ}
    {e : Failure} (ran : job s = (.error e, s')) : rescue job handler s = handler e s' := by
  unfold rescue
  rw [ran]

theorem rescue_ok {job : Job σ α} {handler : Failure → Job σ α} {s s' : Session σ} {a : α}
    (done : rescue job handler s = (.ok a, s')) :
    job s = (.ok a, s') ∨ ∃ e middle, job s = (.error e, middle) ∧ handler e middle = (.ok a, s') := by
  cases ran : job s with
  | mk outcome middle =>
    cases outcome with
    | ok b =>
      rw [rescue_of_ok ran] at done
      exact .inl done
    | error e =>
      rw [rescue_of_error ran] at done
      exact .inr ⟨e, middle, rfl, done⟩

theorem ofExcept_bind (a : α) (next : α → Job σ β) :
    (ofExcept (.ok a) : Job σ α) >>= next = next a := rfl

theorem ofExcept_ok {result : Except String α} {a : α} {s s' : Session σ}
    (done : (ofExcept result : Job σ α) s = (.ok a, s')) : result = .ok a ∧ s' = s := by
  cases result with
  | ok b =>
    cases done
    exact ⟨rfl, rfl⟩
  | error message => cases done

theorem ofExcept_error {result : Except String α} {e : Failure} {s s' : Session σ}
    (failed : (ofExcept result : Job σ α) s = (.error e, s')) : s' = s := by
  cases result with
  | ok b => cases failed
  | error message =>
    cases failed
    rfl

theorem pure_ok {a b : α} {s s' : Session σ} (done : (pure a : Job σ α) s = (.ok b, s')) :
    a = b ∧ s' = s := by
  cases done
  exact ⟨rfl, rfl⟩

theorem statement_ok {effect : σ → Except Failure (α × σ)} {s s' : Session σ} {a : α}
    (done : statement effect s = (.ok a, s')) : effect s.state = .ok (a, s'.state) := by
  unfold statement at done
  split at done
  · cases done
  · split at done
    · rename_i ran
      cases done
      exact ran
    · cases done

theorem query_ok {read : σ → α} {s s' : Session σ} {a : α}
    (done : query read s = (.ok a, s')) : a = read s.state ∧ s'.state = s.state := by
  have ran := statement_ok done
  simp only [Except.ok.injEq, Prod.mk.injEq] at ran
  exact ⟨ran.1.symm, ran.2.symm⟩

theorem execute_ok {write : σ → σ} {s s' : Session σ} {u : Unit}
    (done : execute write s = (.ok u, s')) : s'.state = write s.state := by
  have ran := statement_ok done
  simp only [Except.ok.injEq, Prod.mk.injEq] at ran
  exact ran.2.symm

theorem bookkeep_ok {change : σ → σ} {s s' : Session σ} {u : Unit}
    (done : bookkeep change s = (.ok u, s')) : s'.state = change s.state := by
  cases done
  rfl

/-! Atomic jobs: a failure leaves the state as it was. -/

def Atomic (job : Job σ α) : Prop :=
  ∀ s e s', job s = (.error e, s') → s'.state = s.state

theorem statement_atomic (effect : σ → Except Failure (α × σ)) : Atomic (statement effect) := by
  intro s e s' failed
  unfold statement at failed
  split at failed
  · cases failed
    rfl
  · split at failed
    · cases failed
    · cases failed
      rfl

theorem query_atomic (read : σ → α) : Atomic (query read) := statement_atomic _

theorem execute_atomic (write : σ → σ) : Atomic (execute write) := statement_atomic _

theorem pure_atomic (a : α) : Atomic (pure a : Job σ α) := by
  intro s e s' failed
  cases failed

theorem fail_atomic (e : Failure) : Atomic (fail e : Job σ α) := by
  intro s e' s' failed
  cases failed
  rfl

theorem transaction_atomic (body : Job σ (Ending α)) : Atomic (transaction body) := by
  intro s e s' failed
  unfold transaction at failed
  split at failed
  · cases failed
  · cases failed
  · cases failed
    rfl

/-- A first part that changes nothing may precede an atomic job. -/
theorem bind_atomic {job : Job σ α} {next : α → Job σ β} (first : Atomic job)
    (reads : ∀ s a s', job s = (.ok a, s') → s'.state = s.state)
    (rest : ∀ a, Atomic (next a)) : Atomic (job >>= next) := by
  intro s e s' failed
  rcases bind_error failed with early | ⟨a, middle, ran, late⟩
  · exact first s e s' early
  · exact (rest a middle e s' late).trans (reads s a middle ran)

/-- An atomic job may be followed by a part that never fails. -/
theorem bind_total_atomic {job : Job σ α} {next : α → Job σ β} (first : Atomic job)
    (total : ∀ a s e s', next a s ≠ (.error e, s')) : Atomic (job >>= next) := by
  intro s e s' failed
  rcases bind_error failed with early | ⟨a, middle, _, late⟩
  · exact first s e s' early
  · exact absurd late (total a middle e s')

theorem retry_atomic (attempts : Nat) {job : Job σ α} (atomic : Atomic job) :
    Atomic (retry attempts job) := by
  induction attempts with
  | zero => exact atomic
  | succ attempts ih =>
    intro s e s' failed
    unfold retry at failed
    split at failed
    · rename_i middle busy
      exact (ih middle e s' failed).trans (atomic s .busy middle busy)
    · exact atomic s e s' failed

/-- A retried atomic job that succeeds has run once, from the state it was given. -/
theorem retry_ok {attempts : Nat} {job : Job σ α} (atomic : Atomic job) {s s' : Session σ}
    {a : α} (done : retry attempts job s = (.ok a, s')) :
    ∃ start, start.state = s.state ∧ job start = (.ok a, s') := by
  induction attempts generalizing s with
  | zero => exact ⟨s, rfl, done⟩
  | succ attempts ih =>
    unfold retry at done
    split at done
    · rename_i middle busy
      obtain ⟨start, same, ran⟩ := ih done
      exact ⟨start, same.trans (atomic s .busy middle busy), ran⟩
    · exact ⟨s, rfl, done⟩

/-- A transaction that succeeds either committed what its body did or did nothing. -/
theorem transaction_ok {body : Job σ (Ending α)} {s s' : Session σ} {a : α}
    (done : transaction body s = (.ok a, s')) :
    ∃ start, start.state = s.state ∧
      (body start = (.ok (.committed a), s') ∨
        ∃ inner, body start = (.ok (.abandoned a), inner) ∧ s'.state = s.state) := by
  unfold transaction at done
  split at done
  · rename_i value final ran
    cases done
    obtain ⟨_, start, begun, rest⟩ := bind_ok ran
    exact ⟨start, execute_ok begun, Or.inl rest⟩
  · rename_i value final ran
    cases done
    obtain ⟨_, start, begun, rest⟩ := bind_ok ran
    exact ⟨start, execute_ok begun, Or.inr ⟨final, rest, rfl⟩⟩
  · cases done

/-! What a job may do to the state, whether it fails or not -/

def Evolves (R : σ → σ → Prop) (job : Job σ α) : Prop :=
  ∀ s result s', job s = (result, s') → R s.state s'.state

theorem evolves_mono {R T : σ → σ → Prop} {job : Job σ α} (evolves : Evolves R job)
    (imp : ∀ x y, R x y → T x y) : Evolves T job :=
  fun s result s' ran => imp _ _ (evolves s result s' ran)

/-- An atomic job needs to be looked at only when it succeeds. -/
theorem evolves_of_atomic {R : σ → σ → Prop} {job : Job σ α} (atomic : Atomic job)
    (stays : ∀ x, R x x) (ok : ∀ s a s', job s = (.ok a, s') → R s.state s'.state) :
    Evolves R job := by
  intro s result s' ran
  cases result with
  | ok a => exact ok s a s' ran
  | error e =>
    rw [atomic s e s' ran]
    exact stays s.state

theorem evolves_bind {Q R T : σ → σ → Prop} {job : Job σ α} {next : α → Job σ β}
    (first : Evolves Q job) (rest : ∀ a, Evolves R (next a))
    (early : ∀ x y, Q x y → T x y) (both : ∀ x y z, Q x y → R y z → T x z) :
    Evolves T (job >>= next) := by
  intro s result s' ran
  cases result with
  | ok b =>
    obtain ⟨a, middle, ran_first, ran_rest⟩ := bind_ok ran
    exact both _ _ _ (first s _ middle ran_first) (rest a middle _ s' ran_rest)
  | error e =>
    rcases bind_error ran with failed | ⟨a, middle, ran_first, ran_rest⟩
    · exact early _ _ (first s _ s' failed)
    · exact both _ _ _ (first s _ middle ran_first) (rest a middle _ s' ran_rest)

theorem evolves_trans {R : σ → σ → Prop} {job : Job σ α} {next : α → Job σ β}
    (first : Evolves R job) (rest : ∀ a, Evolves R (next a))
    (trans : ∀ x y z, R x y → R y z → R x z) : Evolves R (job >>= next) :=
  evolves_bind first rest (fun _ _ h => h) trans

theorem evolves_pure {R : σ → σ → Prop} (stays : ∀ x, R x x) (a : α) :
    Evolves R (pure a : Job σ α) :=
  evolves_of_atomic (pure_atomic a) stays fun s b s' done => by
    rw [(pure_ok done).2]
    exact stays s.state

theorem evolves_fail {R : σ → σ → Prop} (stays : ∀ x, R x x) (e : Failure) :
    Evolves R (fail e : Job σ α) :=
  evolves_of_atomic (fail_atomic e) stays fun _ _ _ done => by cases done

theorem evolves_query {R : σ → σ → Prop} (stays : ∀ x, R x x) (read : σ → α) :
    Evolves R (query read) :=
  evolves_of_atomic (query_atomic read) stays fun s a s' done => by
    rw [(query_ok done).2]
    exact stays s.state

theorem evolves_statement {R : σ → σ → Prop} {effect : σ → Except Failure (α × σ)}
    (stays : ∀ x, R x x) (allowed : ∀ x a y, effect x = .ok (a, y) → R x y) :
    Evolves R (statement effect) :=
  evolves_of_atomic (statement_atomic effect) stays fun s a s' done =>
    allowed s.state a s'.state (statement_ok done)

theorem evolves_execute {R : σ → σ → Prop} {write : σ → σ} (stays : ∀ x, R x x)
    (allowed : ∀ x, R x (write x)) : Evolves R (execute write) :=
  evolves_of_atomic (execute_atomic write) stays fun s a s' done => by
    rw [execute_ok done]
    exact allowed s.state

theorem evolves_bookkeep {R : σ → σ → Prop} {change : σ → σ} (allowed : ∀ x, R x (change x)) :
    Evolves R (bookkeep change) := by
  intro s result s' ran
  cases ran
  exact allowed s.state

theorem evolves_retry {R : σ → σ → Prop} {job : Job σ α} (attempts : Nat)
    (atomic : Atomic job) (stays : ∀ x, R x x) (evolves : Evolves R job) :
    Evolves R (retry attempts job) :=
  evolves_of_atomic (retry_atomic attempts atomic) stays fun s a s' done => by
    obtain ⟨start, same, ran⟩ := retry_ok atomic done
    rw [← same]
    exact evolves start _ s' ran

theorem evolves_retry_of_trans {R : σ → σ → Prop} {job : Job σ α} (attempts : Nat)
    (evolves : Evolves R job) (trans : ∀ x y z, R x y → R y z → R x z) :
    Evolves R (retry attempts job) := by
  induction attempts with
  | zero => exact evolves
  | succ attempts ih =>
    intro s result s' ran
    unfold retry at ran
    split at ran
    · rename_i middle busy
      exact trans _ _ _ (evolves s _ middle busy) (ih middle result s' ran)
    · exact evolves s result s' ran

theorem evolves_transaction {R : σ → σ → Prop} {body : Job σ (Ending α)} (stays : ∀ x, R x x)
    (evolves : Evolves R body) : Evolves R (transaction body) :=
  evolves_of_atomic (transaction_atomic body) stays fun s a s' done => by
    obtain ⟨start, same, committed | ⟨_, _, undone⟩⟩ := transaction_ok done
    · rw [← same]
      exact evolves start _ s' committed
    · rw [undone]
      exact stays s.state

/-- A recovered job leaves the state its inner job left. -/
theorem recover_state (job : Job σ α) (handler : Failure → α) (s : Session σ) :
    (recover job handler s).2 = (job s).2 := by
  unfold recover
  cases job s with
  | mk result final =>
    cases result with
    | ok a => rfl
    | error e => rfl

/-- What is made of the answer does not touch the state. -/
theorem answer_state (job : Job σ α) (f : α → β) (s : Session σ) :
    ((job >>= fun a => pure (f a)) s).2 = (job s).2 := by
  cases ran : job s with
  | mk result final =>
    cases result with
    | ok a => rw [bind_of_ok ran, pure_run]
    | error e => rw [bind_of_error ran]

theorem discard_state (job : Job σ α) (b : β) (s : Session σ) :
    ((job >>= fun _ => pure b) s).2 = (job s).2 := answer_state job (fun _ => b) s

theorem evolves_recover {R : σ → σ → Prop} {job : Job σ α} {handler : Failure → α}
    (evolves : Evolves R job) : Evolves R (recover job handler) := by
  intro s result s' ran
  have final : s' = (job s).2 := by
    rw [← recover_state job handler s, ran]
  rw [final]
  exact evolves s _ _ rfl

theorem evolves_rescue {R : σ → σ → Prop} {job : Job σ α} {handler : Failure → Job σ α}
    (first : Evolves R job) (handled : ∀ e, Evolves R (handler e))
    (trans : ∀ x y z, R x y → R y z → R x z) : Evolves R (rescue job handler) := by
  intro s result s' ran
  cases tried : job s with
  | mk answer middle =>
    have here := first s answer middle tried
    cases answer with
    | ok a =>
      rw [rescue_of_ok tried] at ran
      cases ran
      exact here
    | error e =>
      rw [rescue_of_error tried] at ran
      exact trans _ _ _ here (handled e middle result s' ran)

theorem evolves_ofExcept {R : σ → σ → Prop} (stays : ∀ x, R x x) (result : Except String α) :
    Evolves R (ofExcept result : Job σ α) := by
  cases result with
  | ok a => exact evolves_pure stays a
  | error message => exact evolves_fail stays (.error message)

/-! Jobs that meet no fault -/

/-- The job runs through from one state to another when every statement is let through. -/
def Succeeds (job : Job σ α) (start : σ) (a : α) (final : σ) : Prop :=
  job ⟨start, []⟩ = (.ok a, ⟨final, []⟩)

theorem succeeds_pure (a : α) (x : σ) : Succeeds (pure a : Job σ α) x a x := rfl

theorem succeeds_statement {effect : σ → Except Failure (α × σ)} {x y : σ} {a : α}
    (ran : effect x = .ok (a, y)) : Succeeds (statement effect) x a y := by
  simp [Succeeds, statement, ran]

theorem succeeds_query (read : σ → α) (x : σ) : Succeeds (query read) x (read x) x :=
  succeeds_statement rfl

theorem succeeds_execute (write : σ → σ) (x : σ) : Succeeds (execute write) x () (write x) :=
  succeeds_statement rfl

theorem succeeds_bookkeep (change : σ → σ) (x : σ) :
    Succeeds (bookkeep change) x () (change x) := rfl

/-- After a first part that succeeds, the rest runs on. -/
theorem succeeds_then {job : Job σ α} {next : α → Job σ β} {x y : σ} {a : α}
    (first : Succeeds job x a y) : (job >>= next) ⟨x, []⟩ = next a ⟨y, []⟩ := bind_of_ok first

theorem succeeds_bind {job : Job σ α} {next : α → Job σ β} {x y z : σ} {a : α} {b : β}
    (first : Succeeds job x a y) (rest : Succeeds (next a) y b z) :
    Succeeds (job >>= next) x b z := (succeeds_then first).trans rest

theorem succeeds_transaction {body : Job σ (Ending α)} {x y : σ} {a : α}
    (ran : Succeeds body x (.committed a) y) : Succeeds (transaction body) x a y := by
  have whole : Succeeds (execute id >>= fun _ => body) x (.committed a) y :=
    succeeds_bind (succeeds_execute id x) ran
  unfold Succeeds transaction
  rw [show (execute id >>= fun _ => body) ⟨x, []⟩ = _ from whole]

theorem succeeds_abandoned {body : Job σ (Ending α)} {x y : σ} {a : α}
    (ran : Succeeds body x (.abandoned a) y) : Succeeds (transaction body) x a x := by
  have whole : Succeeds (execute id >>= fun _ => body) x (.abandoned a) y :=
    succeeds_bind (succeeds_execute id x) ran
  unfold Succeeds transaction
  rw [show (execute id >>= fun _ => body) ⟨x, []⟩ = _ from whole]

theorem succeeds_retry {job : Job σ α} {x y : σ} {a : α} (attempts : Nat)
    (ran : Succeeds job x a y) : Succeeds (retry attempts job) x a y := by
  cases attempts with
  | zero => exact ran
  | succ attempts =>
    unfold Succeeds retry
    rw [show job ⟨x, []⟩ = _ from ran]

theorem succeeds_recover {job : Job σ α} {handler : Failure → α} {x y : σ} {a : α}
    (ran : Succeeds job x a y) : Succeeds (recover job handler) x a y := by
  unfold Succeeds recover
  rw [show job ⟨x, []⟩ = _ from ran]

/-- What the next inputs see of a job: only the state it leaves. -/
theorem succeeds_state {job : Job σ α} {x y : σ} {a : α} (ran : Succeeds job x a y) :
    (job ⟨x, []⟩).2.state = y := by
  rw [show job ⟨x, []⟩ = _ from ran]

/-! Jobs that throw though they meet no fault -/

def Throws (job : Job σ α) (start : σ) (e : Failure) : Prop :=
  ∃ final, job ⟨start, []⟩ = (.error e, ⟨final, []⟩)

/-- The job throws and leaves the state. -/
def Refuses (job : Job σ α) (start : σ) (e : Failure) : Prop :=
  job ⟨start, []⟩ = (.error e, ⟨start, []⟩)

theorem throws_statement {effect : σ → Except Failure (α × σ)} {x : σ} {e : Failure}
    (ran : effect x = .error e) : Throws (statement effect) x e :=
  ⟨x, by simp [statement, ran]⟩

theorem throws_fail (e : Failure) (x : σ) : Throws (fail e : Job σ α) x e := ⟨x, rfl⟩

theorem throws_first {job : Job σ α} {next : α → Job σ β} {x : σ} {e : Failure}
    (first : Throws job x e) : Throws (job >>= next) x e := by
  obtain ⟨y, ran⟩ := first
  exact ⟨y, bind_of_error ran⟩

theorem throws_later {job : Job σ α} {next : α → Job σ β} {x y : σ} {a : α} {e : Failure}
    (first : Succeeds job x a y) (rest : Throws (next a) y e) : Throws (job >>= next) x e := by
  obtain ⟨z, ran⟩ := rest
  exact ⟨z, (succeeds_then first).trans ran⟩

theorem refuses_first {job : Job σ α} {next : α → Job σ β} {x : σ} {e : Failure}
    (first : Refuses job x e) : Refuses (job >>= next) x e := bind_of_error first

/-- A transaction whose body throws has done nothing. -/
theorem refuses_transaction {body : Job σ (Ending α)} {x : σ} {e : Failure}
    (thrown : Throws body x e) : Refuses (transaction body) x e := by
  have begun : Succeeds (execute id : Job σ Unit) x () x := succeeds_execute id x
  have whole : Throws ((execute id : Job σ Unit) >>= fun _ => body) x e :=
    throws_later begun thrown
  obtain ⟨y, ran⟩ := whole
  unfold Refuses transaction
  rw [ran]

/-- Only a busy engine is asked again. -/
theorem refuses_retry {job : Job σ α} {x : σ} {message : String} (attempts : Nat)
    (refused : Refuses job x (.error message)) :
    Refuses (retry attempts job) x (.error message) := by
  cases attempts with
  | zero => exact refused
  | succ attempts =>
    unfold Refuses at refused
    unfold Refuses retry
    rw [refused]

/-! Jobs that only read -/

/-- The job changes nothing, and what it returns is so in the state it ran in. -/
def Reads (holds : σ → α → Prop) (job : Job σ α) : Prop :=
  ∀ s result s', job s = (result, s') →
    s'.state = s.state ∧ ∀ a, result = .ok a → holds s.state a

theorem reads_mono {holds weaker : σ → α → Prop} {job : Job σ α} (reads : Reads holds job)
    (implied : ∀ x a, holds x a → weaker x a) : Reads weaker job := by
  intro s result s' ran
  obtain ⟨same, found⟩ := reads s result s' ran
  exact ⟨same, fun a done => implied s.state a (found a done)⟩

theorem reads_of_atomic {holds : σ → α → Prop} {job : Job σ α} (atomic : Atomic job)
    (done : ∀ s a s', job s = (.ok a, s') → s'.state = s.state ∧ holds s.state a) :
    Reads holds job := by
  intro s result s' ran
  cases result with
  | error e => exact ⟨atomic s e s' ran, fun a impossible => by cases impossible⟩
  | ok a =>
    obtain ⟨same, found⟩ := done s a s' ran
    refine ⟨same, ?_⟩
    intro b returned
    cases returned
    exact found

theorem reads_pure (a : α) : Reads (fun _ b => b = a) (pure a : Job σ α) :=
  reads_of_atomic (pure_atomic a) fun s b s' done => by
    obtain ⟨value, same⟩ := pure_ok done
    exact ⟨by rw [same], value.symm⟩

/-- A fixed answer that is right in every state. -/
theorem reads_answer {holds : σ → α → Prop} {a : α} (always : ∀ x, holds x a) :
    Reads holds (pure a : Job σ α) :=
  reads_mono (reads_pure a) fun x b same => by
    rw [same]
    exact always x

theorem reads_fail (e : Failure) : Reads (fun _ _ => False) (fail e : Job σ α) :=
  reads_of_atomic (fail_atomic e) fun s b s' done => by cases done

theorem reads_statement {effect : σ → Except Failure (α × σ)}
    (same : ∀ x a y, effect x = .ok (a, y) → y = x) :
    Reads (fun x a => effect x = .ok (a, x)) (statement effect) :=
  reads_of_atomic (statement_atomic effect) fun s a s' done => by
    have ran := statement_ok done
    have unchanged := same _ _ _ ran
    rw [unchanged] at ran
    exact ⟨unchanged, ran⟩

theorem reads_query (read : σ → α) : Reads (fun x a => a = read x) (query read) :=
  reads_of_atomic (query_atomic read) fun s a s' done => by
    obtain ⟨value, same⟩ := query_ok done
    exact ⟨same, value⟩

theorem reads_bind {β : Type} {first : σ → α → Prop} {later : α → σ → β → Prop} {job : Job σ α}
    {next : α → Job σ β} (reads : Reads first job) (rest : ∀ a, Reads (later a) (next a)) :
    Reads (fun x b => ∃ a, first x a ∧ later a x b) (job >>= next) := by
  intro s result s' ran
  rcases bind_cases ran with ⟨e, failed⟩ | ⟨a, middle, began, ended⟩
  · obtain ⟨same, -⟩ := reads s _ s' failed
    refine ⟨same, ?_⟩
    intro b done
    rw [done] at ran
    obtain ⟨_, _, began, -⟩ := bind_ok ran
    rw [failed] at began
    cases began
  · obtain ⟨same, found⟩ := reads s _ middle began
    obtain ⟨same', found'⟩ := rest a middle result s' ended
    refine ⟨same'.trans same, ?_⟩
    intro b done
    refine ⟨a, found a rfl, ?_⟩
    rw [← same]
    exact found' b done

theorem reads_recover {holds : σ → α → Prop} {job : Job σ α} {handler : Failure → α}
    (reads : Reads holds job) :
    Reads (fun x a => holds x a ∨ ∃ e, a = handler e) (recover job handler) := by
  intro s result s' ran
  cases tried : job s with
  | mk answer middle =>
    obtain ⟨same, found⟩ := reads s answer middle tried
    cases answer with
    | ok a =>
      rw [recover_of_ok tried] at ran
      cases ran
      refine ⟨same, ?_⟩
      intro b done
      cases done
      exact .inl (found a rfl)
    | error e =>
      rw [recover_of_error tried] at ran
      cases ran
      refine ⟨same, ?_⟩
      intro b done
      cases done
      exact .inr ⟨e, rfl⟩

/-- After a job that only reads, only what it can have found matters. -/
theorem evolves_after {β : Type} {R : σ → σ → Prop} (stays : ∀ x, R x x) {holds : σ → α → Prop}
    {job : Job σ α} {next : α → Job σ β} (reads : Reads holds job)
    (rest : ∀ a, (∃ x, holds x a) → Evolves R (next a)) : Evolves R (job >>= next) := by
  intro s result s' ran
  rcases bind_cases ran with ⟨e, failed⟩ | ⟨a, middle, began, ended⟩
  · rw [(reads s _ s' failed).1]
    exact stays s.state
  · obtain ⟨same, found⟩ := reads s _ middle began
    rw [← same]
    exact rest a ⟨s.state, found a rfl⟩ middle result s' ended

theorem reads_state {holds : σ → α → Prop} {job : Job σ α} (reads : Reads holds job)
    (s : Session σ) : (job s).2.state = s.state := (reads s _ _ rfl).1

/-! Jobs that an oracle lets through -/

/-- The job asks the oracle a number of times that the state decides: without faults it
    leaves none, and an oracle that lets it through so often has the same answer. -/
def Fair (job : Job σ α) : Prop :=
  ∀ x, ∃ answer y, job ⟨x, []⟩ = (answer, ⟨y, []⟩) ∧
    ∃ n, ∀ rest, job ⟨x, List.replicate n none ++ rest⟩ = (answer, ⟨y, rest⟩)

theorem fair_pure (a : α) : Fair (pure a : Job σ α) :=
  fun x => ⟨.ok a, x, rfl, 0, fun _ => rfl⟩

theorem fair_fail (e : Failure) : Fair (fail e : Job σ α) :=
  fun x => ⟨.error e, x, rfl, 0, fun _ => rfl⟩

theorem fair_statement (effect : σ → Except Failure (α × σ)) : Fair (statement effect) := by
  intro x
  cases ran : effect x with
  | ok pair => exact ⟨.ok pair.1, pair.2, by simp [statement, ran], 1, by simp [statement, ran]⟩
  | error e => exact ⟨.error e, x, by simp [statement, ran], 1, by simp [statement, ran]⟩

theorem fair_query (read : σ → α) : Fair (query read) := fair_statement _

theorem fair_ofExcept (result : Except String α) : Fair (ofExcept result : Job σ α) := by
  cases result with
  | ok a => exact fair_pure a
  | error message => exact fair_fail (.error message)

theorem fair_bind {β : Type} {job : Job σ α} {next : α → Job σ β} (first : Fair job)
    (rest : ∀ a, Fair (next a)) : Fair (job >>= next) := by
  intro x
  obtain ⟨answer, y, quiet, n, through⟩ := first x
  cases answer with
  | error e =>
    exact ⟨.error e, y, bind_of_error quiet, n, fun faults => bind_of_error (through faults)⟩
  | ok a =>
    obtain ⟨answer', z, quiet', m, through'⟩ := rest a y
    refine ⟨answer', z, (bind_of_ok quiet).trans quiet', n + m, ?_⟩
    intro faults
    rw [← List.replicate_append_replicate, List.append_assoc, bind_of_ok (through _), through' faults]

theorem fair_recover {job : Job σ α} {handler : Failure → α} (fair : Fair job) :
    Fair (recover job handler) := by
  intro x
  obtain ⟨answer, y, quiet, n, through⟩ := fair x
  cases answer with
  | ok a => exact ⟨.ok a, y, recover_of_ok quiet, n, fun faults => recover_of_ok (through faults)⟩
  | error e =>
    exact ⟨.ok (handler e), y, recover_of_error quiet, n,
      fun faults => recover_of_error (through faults)⟩

theorem fair_rescue {job : Job σ α} {handler : Failure → Job σ α} (fair : Fair job)
    (handled : ∀ e, Fair (handler e)) : Fair (rescue job handler) := by
  intro x
  obtain ⟨answer, y, quiet, n, through⟩ := fair x
  cases answer with
  | ok a => exact ⟨.ok a, y, rescue_of_ok quiet, n, fun faults => rescue_of_ok (through faults)⟩
  | error e =>
    obtain ⟨answer', z, quiet', m, through'⟩ := handled e y
    refine ⟨answer', z, (rescue_of_error quiet).trans quiet', n + m, ?_⟩
    intro faults
    rw [← List.replicate_append_replicate, List.append_assoc, rescue_of_error (through _), through' faults]

theorem Fair.quiet {job : Job σ α} (fair : Fair job) (x : σ) :
    ∃ answer y, job ⟨x, []⟩ = (answer, ⟨y, []⟩) := by
  obtain ⟨answer, y, quiet, -⟩ := fair x
  exact ⟨answer, y, quiet⟩

/-! Jobs that some oracle brings to an end -/

/-- Some answers of the oracle bring the job from one state to the other. -/
def Possible (job : Job σ α) (start : σ) (answer : Except Failure α) (final : σ) : Prop :=
  ∃ faults, ∀ rest, job ⟨start, faults ++ rest⟩ = (answer, ⟨final, rest⟩)

theorem Fair.possible {job : Job σ α} (fair : Fair job) {x y : σ} {answer : Except Failure α}
    (quiet : job ⟨x, []⟩ = (answer, ⟨y, []⟩)) : Possible job x answer y := by
  obtain ⟨answer', y', quiet', n, through⟩ := fair x
  rw [quiet] at quiet'
  cases quiet'
  exact ⟨_, through⟩

/-- Any statement can fail. -/
theorem possible_fault (effect : σ → Except Failure (α × σ)) (x : σ) :
    Possible (statement effect) x (.error Fault.error.failure) x :=
  ⟨[some .error], fun _ => rfl⟩

theorem possible_pure (a : α) (x : σ) : Possible (pure a : Job σ α) x (.ok a) x :=
  ⟨[], fun _ => rfl⟩

theorem possible_bind {β : Type} {job : Job σ α} {next : α → Job σ β} {x y z : σ} {a : α}
    {answer : Except Failure β} (first : Possible job x (.ok a) y)
    (rest : Possible (next a) y answer z) : Possible (job >>= next) x answer z := by
  obtain ⟨faults, ran⟩ := first
  obtain ⟨faults', ran'⟩ := rest
  refine ⟨faults ++ faults', fun rest => ?_⟩
  rw [List.append_assoc, bind_of_ok (ran _), ran']

theorem possible_bind_error {β : Type} {job : Job σ α} {next : α → Job σ β} {x y : σ}
    {e : Failure} (first : Possible job x (.error e) y) :
    Possible (job >>= next) x (.error e) y := by
  obtain ⟨faults, ran⟩ := first
  exact ⟨faults, fun rest => bind_of_error (ran rest)⟩

theorem possible_recover_error {job : Job σ α} {handler : Failure → α} {x y : σ} {e : Failure}
    (failed : Possible job x (.error e) y) :
    Possible (recover job handler) x (.ok (handler e)) y := by
  obtain ⟨faults, ran⟩ := failed
  exact ⟨faults, fun rest => recover_of_error (ran rest)⟩

theorem possible_recover_ok {job : Job σ α} {handler : Failure → α} {x y : σ} {a : α}
    (ended : Possible job x (.ok a) y) : Possible (recover job handler) x (.ok a) y := by
  obtain ⟨faults, ran⟩ := ended
  exact ⟨faults, fun rest => recover_of_ok (ran rest)⟩

theorem possible_rescue {job : Job σ α} {handler : Failure → Job σ α} {x y z : σ} {e : Failure}
    {answer : Except Failure α} (failed : Possible job x (.error e) y)
    (handled : Possible (handler e) y answer z) : Possible (rescue job handler) x answer z := by
  obtain ⟨faults, ran⟩ := failed
  obtain ⟨faults', ran'⟩ := handled
  refine ⟨faults ++ faults', fun rest => ?_⟩
  rw [List.append_assoc, rescue_of_error (ran _), ran']

/-! Jobs that catch nothing -/

/-- The job runs through only if it does so without faults. -/
def Straight (job : Job σ α) : Prop :=
  ∀ s a s', job s = (.ok a, s') → Succeeds job s.state a s'.state

theorem straight_pure (a : α) : Straight (pure a : Job σ α) := by
  intro s b s' done
  cases done
  rfl

theorem straight_fail (e : Failure) : Straight (fail e : Job σ α) := nofun

theorem straight_statement (effect : σ → Except Failure (α × σ)) : Straight (statement effect) :=
  fun _ _ _ done => succeeds_statement (statement_ok done)

theorem straight_query (read : σ → α) : Straight (query read) := straight_statement _

theorem straight_ofExcept (result : Except String α) : Straight (ofExcept result : Job σ α) := by
  cases result with
  | ok a => exact straight_pure a
  | error message => exact straight_fail (.error message)

theorem straight_bind {β : Type} {job : Job σ α} {next : α → Job σ β} (first : Straight job)
    (rest : ∀ a, Straight (next a)) : Straight (job >>= next) := by
  intro s b s' done
  obtain ⟨a, middle, began, ended⟩ := bind_ok done
  exact succeeds_bind (first s a middle began) (rest a middle b s' ended)

/-! One statement that is asked again while the engine is busy -/

/-- What is left of the oracle when it lets the statement through at last. -/
def letThrough : Nat → List (Option Fault) → Option (List (Option Fault))
  | 0, some _ :: _ => none
  | attempts + 1, some .busy :: rest => letThrough attempts rest
  | _ + 1, some .error :: _ => none
  | _, faults => some faults.tail

theorem retry_let_through {attempts : Nat} {faults rest : List (Option Fault)}
    {effect : σ → Except Failure (α × σ)} {x y : σ} {a : α}
    (passes : letThrough attempts faults = some rest) (ran : effect x = .ok (a, y)) :
    retry attempts (statement effect) ⟨x, faults⟩ = (.ok a, ⟨y, rest⟩) := by
  induction attempts generalizing faults with
  | zero =>
    unfold retry statement
    rcases faults with _ | ⟨_ | fault, later⟩
    · cases passes
      rw [ran]
    · cases passes
      rw [ran]
    · cases passes
  | succ attempts ih =>
    rcases faults with _ | ⟨_ | _ | _, later⟩
    · cases passes
      simp [retry, statement, ran]
    · cases passes
      simp [retry, statement, ran]
    · have again := @ih later passes
      simpa [retry, statement, Fault.failure] using again
    · cases passes

theorem retry_stopped {attempts : Nat} {faults : List (Option Fault)}
    {effect : σ → Except Failure (α × σ)} {x : σ} (stopped : letThrough attempts faults = none) :
    ∃ e rest, retry attempts (statement effect) ⟨x, faults⟩ = (.error e, ⟨x, rest⟩) := by
  induction attempts generalizing faults with
  | zero =>
    rcases faults with _ | ⟨_ | fault, later⟩
    · cases stopped
    · cases stopped
    · exact ⟨fault.failure, later, rfl⟩
  | succ attempts ih =>
    rcases faults with _ | ⟨_ | _ | _, later⟩
    · cases stopped
    · cases stopped
    · obtain ⟨e, rest, ran⟩ := @ih later stopped
      exact ⟨e, rest, by simpa [retry, statement, Fault.failure] using ran⟩
    · exact ⟨_, later, rfl⟩

end Transactions
