import Mathlib.Algebra.GroupWithZero.Nat
import Mathlib.Data.List.Nodup
import Mathlib.Data.List.Perm.Basic
import ZFleet.Foundations.Runs
import ZFleet.Foundations.Worklists
import ZFleet.Server.Schema

/-!
The write actor of the server database. Any threads queue writes, one thread takes them out
one after another and runs each on the connection, again while the engine is busy. A caller
waits for the promise of its write or has its completion posted to an executor; a stop lets
the actor empty the queue and refuses what comes later.
-/
namespace WriteActor
open Transactions Schema

/-- What a caller is told: the value or the exception. -/
abbrev Outcome (α : Type) := Except Failure α

/-- A write in the queue, by the number of its submission. -/
structure Write (S α : Type) where
  ticket : Nat
  asynchronous : Bool
  job : Job S α

/-- Where the actor thread is; `asleep` is its wait on the condition variable. -/
inductive Phase (S α : Type) where
  | idle
  | asleep
  | opening (write : Write S α)
  | attempting (write : Write S α) (attempt : Nat)
  | completing (write : Write S α) (outcome : Outcome α)
  | exited

/-- Where a calling thread is: in front of the mutex, of a notification, or waiting. -/
inductive Caller (S α : Type) where
  | enqueueing (write : Write S α)
  | notifying (write : Write S α)
  | awaiting (ticket : Nat)
  | stopping
  | waking
  | joining
  | returned

structure Writer (S α : Type) where
  session : Session S
  connected : Bool
  phase : Phase S α
  /-- Nobody has notified the sleeping actor. -/
  asleep : Bool
  writeActorStopping : Bool
  writeQueue : List (Write S α)
  callers : List (Caller S α)
  submitted : Nat
  /-- The promises that are set and not fetched. -/
  promised : List (Nat × Outcome α)
  posted : List (Nat × Outcome α)
  /-- What callers were told. -/
  delivered : List (Nat × Outcome α)
  /-- The writes that were queued, in this order. -/
  accepted : List (Write S α)
  refused : List Nat
  /-- The writes that the actor took up, with the failure to open the database. -/
  taken : List (Write S α × Option Failure)
  /-- The executions of writes. -/
  attempts : List (Nat × Outcome α)

/-- What is up to the system: a spurious wake-up, and whether the database opens. -/
structure Chance where
  wakes : Bool
  openFailure : Option Failure

inductive Event (S α : Type) where
  | submitWrite (job : Job S α)
  | submitWriteAsync (job : Job S α)
  | stop
  | caller (i : Nat)
  | actor (chance : Chance)
  | executor (i : Nat)

variable {S α : Type}

def Writer.start (session : Session S) : Writer S α where
  session := session
  connected := false
  phase := .idle
  asleep := false
  writeActorStopping := false
  writeQueue := []
  callers := []
  submitted := 0
  promised := []
  posted := []
  delivered := []
  accepted := []
  refused := []
  taken := []
  attempts := []

def stopped : Failure := .error "server database write actor is stopped"

/-- Set the promise, or post the completion. -/
def complete (s : Writer S α) (write : Write S α) (outcome : Outcome α) : Writer S α :=
  if write.asynchronous then { s with posted := s.posted ++ [(write.ticket, outcome)] }
  else { s with promised := s.promised ++ [(write.ticket, outcome)] }

/-- A synchronous call throws, an asynchronous one posts the exception. -/
def refuse (s : Writer S α) (write : Write S α) : Writer S α :=
  if write.asynchronous then
    { s with
      refused := s.refused ++ [write.ticket]
      posted := s.posted ++ [(write.ticket, .error stopped)] }
  else
    { s with
      refused := s.refused ++ [write.ticket]
      delivered := s.delivered ++ [(write.ticket, .error stopped)] }

theorem complete_eq (s : Writer S α) (write : Write S α) (outcome : Outcome α) :
    complete s write outcome = { s with
      posted := (complete s write outcome).posted
      promised := (complete s write outcome).promised } := by
  unfold complete
  split <;> rfl

theorem refuse_eq (s : Writer S α) (write : Write S α) :
    refuse s write = { s with
      refused := s.refused ++ [write.ticket]
      posted := (refuse s write).posted
      delivered := (refuse s write).delivered } := by
  unfold refuse
  split <;> rfl

def submit (s : Writer S α) (asynchronous : Bool) (job : Job S α) : Writer S α :=
  { s with
    submitted := s.submitted + 1
    callers := s.callers ++ [.enqueueing ⟨s.submitted, asynchronous, job⟩] }

/-- Notify the condition variable. -/
def notify (s : Writer S α) : Writer S α := { s with asleep := false }

/-- One step of a calling thread: what becomes of the rest and where the thread is next. -/
def call (s : Writer S α) : Caller S α → Writer S α × Caller S α
  | .enqueueing write =>
    if s.writeActorStopping then (refuse s write, .returned)
    else
      ({ s with writeQueue := s.writeQueue ++ [write], accepted := s.accepted ++ [write] },
        .notifying write)
  | .notifying write =>
    (notify s, if write.asynchronous then .returned else .awaiting write.ticket)
  | .awaiting ticket =>
    match s.promised.findIdx? fun c => c.1 = ticket with
    | none => (s, .awaiting ticket)
    | some i =>
      ({ s with
        promised := s.promised.eraseIdx i
        delivered := s.delivered ++ (s.promised[i]?).toList }, .returned)
  | .stopping =>
    if s.writeActorStopping then (s, .returned)
    else ({ s with writeActorStopping := true }, .waking)
  | .waking => (notify s, .joining)
  | .joining =>
    match s.phase with
    | .exited => (s, .returned)
    | _ => (s, .joining)
  | .returned => (s, .returned)

/-- One step of the actor thread. -/
def runWriteActor (s : Writer S α) (chance : Chance) : Writer S α :=
  match s.phase with
  | .idle =>
    match s.writeQueue with
    | write :: rest => { s with writeQueue := rest, phase := .opening write }
    | [] =>
      if s.writeActorStopping then { s with phase := .exited }
      else { s with phase := .asleep, asleep := true }
  | .asleep =>
    if s.asleep && !chance.wakes then s else { s with phase := .idle, asleep := false }
  | .opening write =>
    if s.connected then
      { s with phase := .attempting write 0, taken := s.taken ++ [(write, none)] }
    else
      match chance.openFailure with
      | none =>
        { s with
          connected := true
          phase := .attempting write 0
          taken := s.taken ++ [(write, none)] }
      | some e =>
        { s with
          phase := .completing write (.error e)
          taken := s.taken ++ [(write, some e)] }
  | .attempting write attempt =>
    let ran := write.job s.session
    let tried := { s with session := ran.2, attempts := s.attempts ++ [(write.ticket, ran.1)] }
    match ran.1 with
    | .error .busy =>
      if attempt ≥ busyRetryAttempts then
        { tried with phase := .completing write (.error .busy) }
      else { tried with phase := .attempting write (attempt + 1) }
    | outcome => { tried with phase := .completing write outcome }
  | .completing write outcome => { complete s write outcome with phase := .idle }
  | .exited => s

def step (s : Writer S α) : Event S α → Writer S α
  | .submitWrite job => submit s false job
  | .submitWriteAsync job => submit s true job
  | .stop => { s with callers := s.callers ++ [.stopping] }
  | .caller i =>
    match s.callers[i]? with
    | none => s
    | some caller => { (call s caller).1 with callers := s.callers.set i (call s caller).2 }
  | .actor chance => runWriteActor s chance
  | .executor i =>
    match s.posted[i]? with
    | none => s
    | some completion =>
      { s with posted := s.posted.eraseIdx i, delivered := s.delivered ++ [completion] }

/-! What a write is served with -/

/-- The executions that the busy retry makes. -/
def executions : Nat → Job S α → Session S → List (Outcome α)
  | 0, job, session => [(job session).1]
  | attempts + 1, job, session =>
    match job session with
    | (.error .busy, session') => .error .busy :: executions attempts job session'
    | (outcome, _) => [outcome]

/-- Busy answers, as many as are retried, and one last answer. -/
def AsBusyDemands (attempts : Nat) (runs : List (Outcome α)) : Prop :=
  ∃ n last, runs = List.replicate n (.error .busy) ++ [last] ∧ n ≤ attempts ∧
    (last = .error .busy → n = attempts)

theorem executions_busy {attempts : Nat} {job : Job S α} {session session' : Session S}
    (ran : job session = (.error .busy, session')) :
    executions (attempts + 1) job session = .error .busy :: executions attempts job session' := by
  rw [executions, ran]

theorem executions_last {attempts : Nat} {job : Job S α} {session session' : Session S}
    {outcome : Outcome α} (ran : job session = (outcome, session'))
    (last : outcome ≠ .error .busy ∨ attempts = 0) :
    executions attempts job session = [outcome] := by
  cases attempts with
  | zero => rw [executions, ran]
  | succ attempts =>
    rw [executions, ran]
    rcases last with other | zero
    · split
      · rename_i same
        exact absurd (congrArg Prod.fst same) other
      · rename_i outcome' _ _ same
        rw [show outcome = outcome' from congrArg Prod.fst same]
    · cases zero

theorem executions_demanded (attempts : Nat) (job : Job S α) (session : Session S) :
    AsBusyDemands attempts (executions attempts job session) := by
  induction attempts generalizing session with
  | zero => exact ⟨0, _, rfl, le_refl 0, fun _ => rfl⟩
  | succ attempts ih =>
    cases ran : job session with
    | mk outcome session' =>
      by_cases busy : outcome = .error .busy
      · rw [busy] at ran
        obtain ⟨n, last, runs, few, all⟩ := ih session'
        refine ⟨n + 1, last, ?_, by omega, fun again => by rw [all again]⟩
        rw [executions_busy ran, runs, List.replicate_succ, List.cons_append]
      · rw [executions_last ran (Or.inl busy)]
        exact ⟨0, outcome, rfl, Nat.zero_le _, fun again => absurd again busy⟩

/-- The retry from one of its attempts on. -/
theorem retry_busy {attempts : Nat} {job : Job S α} {session session' : Session S}
    (ran : job session = (.error .busy, session')) :
    retry (attempts + 1) job session = retry attempts job session' := by
  simp only [retry, ran]

theorem retry_last {attempts : Nat} {job : Job S α} {session session' : Session S}
    {outcome : Outcome α} (ran : job session = (outcome, session'))
    (last : outcome ≠ .error .busy ∨ attempts = 0) :
    retry attempts job session = (outcome, session') := by
  cases attempts with
  | zero => exact ran
  | succ attempts =>
    simp only [retry, ran]
    rcases last with other | zero
    · split
      · rename_i same
        exact absurd (congrArg Prod.fst same) other
      · rfl
    · cases zero

/-- The actor's answer to a write that it took up. -/
def served (session : Session S) : Write S α × Option Failure → Outcome α × Session S
  | (_, some e) => (.error e, session)
  | (write, none) => retry busyRetryAttempts write.job session

/-- The session after these writes. -/
def sessionAfter (session : Session S) (taken : List (Write S α × Option Failure)) : Session S :=
  taken.foldl (fun s item => (served s item).2) session

/-- Their answers, one after another. -/
def answers (session : Session S) : List (Write S α × Option Failure) → List (Nat × Outcome α)
  | [] => []
  | item :: rest =>
    (item.1.ticket, (served session item).1) :: answers (served session item).2 rest

/-- Their executions, one after another. -/
def executed (session : Session S) : List (Write S α × Option Failure) → List (Nat × Outcome α)
  | [] => []
  | item :: rest =>
    (match item.2 with
      | some _ => []
      | none => (executions busyRetryAttempts item.1.job session).map (item.1.ticket, ·)) ++
    executed (served session item).2 rest

theorem sessionAfter_snoc (session : Session S) (taken : List (Write S α × Option Failure))
    (item : Write S α × Option Failure) :
    sessionAfter session (taken ++ [item]) = (served (sessionAfter session taken) item).2 := by
  simp [sessionAfter]

theorem answers_snoc (session : Session S) (taken : List (Write S α × Option Failure))
    (item : Write S α × Option Failure) :
    answers session (taken ++ [item]) = answers session taken ++
      [(item.1.ticket, (served (sessionAfter session taken) item).1)] := by
  induction taken generalizing session with
  | nil => rfl
  | cons first rest ih =>
    simp only [List.cons_append, answers, ih]
    rfl

theorem executed_snoc (session : Session S) (taken : List (Write S α × Option Failure))
    (item : Write S α × Option Failure) :
    executed session (taken ++ [item]) = executed session taken ++
      (match item.2 with
        | some _ => []
        | none => (executions busyRetryAttempts item.1.job (sessionAfter session taken)).map
            (item.1.ticket, ·)) := by
  induction taken generalizing session with
  | nil => simp [executed, sessionAfter]
  | cons first rest ih =>
    simp only [List.cons_append, executed, ih, List.append_assoc]
    rfl

theorem answers_tickets (session : Session S) (taken : List (Write S α × Option Failure)) :
    (answers session taken).map Prod.fst = taken.map fun item => item.1.ticket := by
  induction taken generalizing session with
  | nil => rfl
  | cons first rest ih => simp only [answers, List.map_cons, ih]

/-! What one step can do -/

/-- The step of a calling thread. -/
def moved (s : Writer S α) (i : Nat) (caller : Caller S α) : Writer S α :=
  { s with callers := s.callers.set i caller }

/-- A thread calls. -/
def Event.calls : Event S α → Bool
  | .submitWrite _ | .submitWriteAsync _ | .stop => true
  | _ => false

inductive Moves (s : Writer S α) : Event S α → Writer S α → Prop where
  | idle (event : Event S α) : Moves s event s
  | submits (event : Event S α) (asynchronous : Bool) (job : Job S α) : event.calls = true →
      Moves s event (submit s asynchronous job)
  | stops (event : Event S α) : event.calls = true →
      Moves s event { s with callers := s.callers ++ [.stopping] }
  | accepts (i : Nat) (write : Write S α) : s.callers[i]? = some (.enqueueing write) →
      s.writeActorStopping = false →
      Moves s (.caller i) (moved { s with
        writeQueue := s.writeQueue ++ [write]
        accepted := s.accepted ++ [write] } i (.notifying write))
  | refuses (i : Nat) (write : Write S α) : s.callers[i]? = some (.enqueueing write) →
      s.writeActorStopping = true → Moves s (.caller i) (moved (refuse s write) i .returned)
  | notifies (i : Nat) (write : Write S α) : s.callers[i]? = some (.notifying write) →
      Moves s (.caller i) (moved (notify s) i
        (if write.asynchronous then .returned else .awaiting write.ticket))
  | fetches (i j : Nat) (completion : Nat × Outcome α) :
      s.callers[i]? = some (.awaiting completion.1) → s.promised[j]? = some completion →
      Moves s (.caller i) (moved { s with
        promised := s.promised.eraseIdx j
        delivered := s.delivered ++ [completion] } i .returned)
  | stopsNothing (i : Nat) : s.callers[i]? = some .stopping → s.writeActorStopping = true →
      Moves s (.caller i) (moved s i .returned)
  | stopsActor (i : Nat) : s.callers[i]? = some .stopping → s.writeActorStopping = false →
      Moves s (.caller i) (moved { s with writeActorStopping := true } i .waking)
  | wakes (i : Nat) : s.callers[i]? = some .waking →
      Moves s (.caller i) (moved (notify s) i .joining)
  | joins (i : Nat) : s.callers[i]? = some .joining → s.phase = .exited →
      Moves s (.caller i) (moved s i .returned)
  | takes (chance : Chance) (write : Write S α) (rest : List (Write S α)) : s.phase = .idle →
      s.writeQueue = write :: rest →
      Moves s (.actor chance) { s with writeQueue := rest, phase := .opening write }
  | exits (chance : Chance) : s.phase = .idle → s.writeQueue = [] →
      s.writeActorStopping = true → Moves s (.actor chance) { s with phase := .exited }
  | sleeps (chance : Chance) : s.phase = .idle → s.writeQueue = [] →
      s.writeActorStopping = false →
      Moves s (.actor chance) { s with phase := .asleep, asleep := true }
  | awakes (chance : Chance) : s.phase = .asleep → s.asleep = false ∨ chance.wakes = true →
      Moves s (.actor chance) { s with phase := .idle, asleep := false }
  | opens (chance : Chance) (write : Write S α) (connected : Bool) : s.phase = .opening write →
      Moves s (.actor chance) { s with
        connected := connected
        phase := .attempting write 0
        taken := s.taken ++ [(write, none)] }
  | opensNot (chance : Chance) (write : Write S α) (e : Failure) : s.phase = .opening write →
      Moves s (.actor chance) { s with
        phase := .completing write (.error e)
        taken := s.taken ++ [(write, some e)] }
  | retries (chance : Chance) (write : Write S α) (attempt : Nat) (session : Session S) :
      s.phase = .attempting write attempt → attempt < busyRetryAttempts →
      write.job s.session = (.error .busy, session) →
      Moves s (.actor chance) { s with
        session := session
        attempts := s.attempts ++ [(write.ticket, .error .busy)]
        phase := .attempting write (attempt + 1) }
  | finishes (chance : Chance) (write : Write S α) (attempt : Nat) (outcome : Outcome α)
      (session : Session S) : s.phase = .attempting write attempt →
      write.job s.session = (outcome, session) →
      (outcome ≠ .error .busy ∨ busyRetryAttempts ≤ attempt) →
      Moves s (.actor chance) { s with
        session := session
        attempts := s.attempts ++ [(write.ticket, outcome)]
        phase := .completing write outcome }
  | completes (chance : Chance) (write : Write S α) (outcome : Outcome α) :
      s.phase = .completing write outcome →
      Moves s (.actor chance) { complete s write outcome with phase := .idle }
  | runs (i : Nat) (completion : Nat × Outcome α) : s.posted[i]? = some completion →
      Moves s (.executor i) { s with
        posted := s.posted.eraseIdx i
        delivered := s.delivered ++ [completion] }

theorem caller_moves {s : Writer S α} {i : Nat} {caller : Caller S α}
    (here : s.callers[i]? = some caller) :
    Moves s (.caller i) (moved (call s caller).1 i (call s caller).2) := by
  have stays : moved s i caller = s := by
    obtain ⟨inside, rfl⟩ := List.getElem?_eq_some_iff.mp here
    simp [moved]
  cases caller with
  | enqueueing write =>
    cases stopping : s.writeActorStopping with
    | true =>
      rw [show call s (.enqueueing write) = (refuse s write, .returned) from if_pos stopping]
      exact .refuses i write here stopping
    | false =>
      have goes_on : ¬ s.writeActorStopping = true := by simp [stopping]
      rw [show call s (.enqueueing write) = (_, .notifying write) from if_neg goes_on]
      exact .accepts i write here stopping
  | notifying write => exact .notifies i write here
  | awaiting ticket =>
    simp only [call]
    split
    · rw [stays]
      exact .idle _
    · rename_i j found
      obtain ⟨inside, same, _⟩ := List.findIdx?_eq_some_iff_getElem.mp found
      have at_j : s.promised[j]? = some s.promised[j] := List.getElem?_eq_getElem inside
      rw [at_j]
      refine .fetches i j _ ?_ at_j
      rw [here, of_decide_eq_true same]
  | stopping =>
    cases stopping : s.writeActorStopping with
    | true =>
      rw [show call s .stopping = (s, .returned) from if_pos stopping]
      exact .stopsNothing i here stopping
    | false =>
      simp only [call, stopping, Bool.false_eq_true, if_false]
      exact .stopsActor i here stopping
  | waking => exact .wakes i here
  | joining =>
    cases phase : s.phase with
    | exited =>
      simp only [call, phase]
      exact .joins i here phase
    | _ =>
      simp only [call, phase, stays]
      exact .idle _
  | returned =>
    rw [show call s .returned = (s, .returned) from rfl, stays]
    exact .idle _

theorem actor_moves (s : Writer S α) (chance : Chance) :
    Moves s (.actor chance) (runWriteActor s chance) := by
  unfold runWriteActor
  split
  · rename_i phase
    split
    · rename_i write rest queue
      exact .takes chance write rest phase queue
    · rename_i queue
      split
      · rename_i stopping
        exact .exits chance phase queue stopping
      · rename_i running
        exact .sleeps chance phase queue (by simpa using running)
  · rename_i phase
    split
    · exact .idle _
    · rename_i awake
      refine .awakes chance phase ?_
      cases asleep : s.asleep with
      | false => exact Or.inl rfl
      | true => exact Or.inr (by simpa [asleep] using awake)
  · rename_i write phase
    split
    · exact .opens chance write s.connected phase
    · split
      · exact .opens chance write true phase
      · rename_i e _
        exact .opensNot chance write e phase
  · rename_i write attempt phase
    cases ran : write.job s.session with
    | mk outcome session =>
      simp only
      split
      · split
        · rename_i enough
          exact .finishes chance write attempt _ session phase ran (Or.inr enough)
        · rename_i few
          exact .retries chance write attempt session phase (by omega) ran
      · rename_i other
        exact .finishes chance write attempt outcome session phase ran (Or.inl other)
  · rename_i write outcome phase
    exact .completes chance write outcome phase
  · exact .idle _

/-- A call changes its own thread only. -/
theorem call_callers (s : Writer S α) (caller : Caller S α) :
    (call s caller).1.callers = s.callers := by
  cases caller with
  | enqueueing write =>
    simp only [call, refuse]
    split
    · split <;> rfl
    · rfl
  | notifying => rfl
  | awaiting =>
    simp only [call]
    split <;> rfl
  | stopping =>
    simp only [call]
    split <;> rfl
  | waking => rfl
  | joining =>
    simp only [call]
    split <;> rfl
  | returned => rfl

theorem step_moves (s : Writer S α) (event : Event S α) : Moves s event (step s event) := by
  cases event with
  | submitWrite job => exact .submits _ false job rfl
  | submitWriteAsync job => exact .submits _ true job rfl
  | stop => exact .stops _ rfl
  | caller i =>
    simp only [step]
    cases here : s.callers[i]? with
    | none => exact .idle _
    | some caller => 
      have same : { (call s caller).1 with callers := s.callers.set i (call s caller).2 } =
          moved (call s caller).1 i (call s caller).2 := by
        rw [moved, call_callers]
      simp only [same]
      exact caller_moves here
  | actor chance => exact actor_moves s chance
  | executor i =>
    simp only [step]
    cases here : s.posted[i]? with
    | none => exact .idle _
    | some completion => exact .runs i completion here

/-! Where the writes are -/

def Phase.held : Phase S α → List Nat
  | .opening write | .attempting write _ | .completing write _ => [write.ticket]
  | _ => []

/-- A call that has not got through the mutex. -/
def Caller.held : Caller S α → List Nat
  | .enqueueing write => [write.ticket]
  | _ => []

def tickets (writes : List (Write S α)) : List Nat := writes.map Write.ticket

/-- The completions of writes, wherever they are. -/
def told (s : Writer S α) : List (Nat × Outcome α) := s.delivered ++ (s.posted ++ s.promised)

/-- The writes that are out of the hands of their callers. -/
def settled (s : Writer S α) : List Nat :=
  (told s).map Prod.fst ++ (s.phase.held ++ tickets s.writeQueue)

def atCallers (s : Writer S α) : List Nat := s.callers.flatMap Caller.held

/-- All writes. -/
def everywhere (s : Writer S α) : List Nat := settled s ++ atCallers s

/-- What became of the writes at the mutex. -/
def decided (s : Writer S α) : List Nat := tickets s.accepted ++ s.refused

/-- The list counts every submitted write once. -/
def Counts (s : Writer S α) (writes : List Nat) : Prop := writes.Perm (List.range s.submitted)

/-- A step of a thread hands over what the thread held. -/
theorem handed_moved {s r : Writer S α} {i : Nat} {caller next : Caller S α}
    (here : s.callers[i]? = some caller) (callers : r.callers = s.callers) {before after : List Nat}
    (hands : (after ++ next.held).Perm (before ++ caller.held)) :
    (after ++ atCallers (moved r i next)).Perm (before ++ atCallers s) := by
  have taken := (Worklists.taken_perm here).symm.flatMap_right Caller.held
  have replaced := (Worklists.replaced_perm here next).symm.flatMap_right Caller.held
  rw [List.flatMap_cons] at taken replaced
  unfold atCallers moved
  rw [callers]
  calc after ++ (s.callers.set i next).flatMap Caller.held
      _ |>.Perm (after ++ (next.held ++ (s.callers.eraseIdx i).flatMap Caller.held)) :=
        replaced.append_left after
      _ |>.Perm (before ++ (caller.held ++ (s.callers.eraseIdx i).flatMap Caller.held)) := by
        rw [← List.append_assoc, ← List.append_assoc]
        exact hands.append_right _
      _ |>.Perm (before ++ s.callers.flatMap Caller.held) := (taken.symm).append_left before

theorem told_complete (s : Writer S α) (write : Write S α) (outcome : Outcome α) :
    (told (complete s write outcome)).Perm (told s ++ [(write.ticket, outcome)]) := by
  unfold told complete
  split
  · simp only [List.append_assoc, List.perm_append_left_iff]
    exact List.perm_append_comm
  · simp only [List.append_assoc, List.Perm.refl]

theorem told_refuse (s : Writer S α) (write : Write S α) :
    (told (refuse s write)).Perm (told s ++ [(write.ticket, .error stopped)]) := by
  unfold told refuse
  split
  · simp only [List.append_assoc, List.perm_append_left_iff]
    exact List.perm_append_comm
  · simp only [List.append_assoc, List.perm_append_left_iff]
    have last := @List.perm_append_comm _ [(write.ticket, (Except.error stopped : Outcome α))]
      (s.posted ++ s.promised)
    rw [List.append_assoc] at last
    exact last

theorem told_fetch {s : Writer S α} {j : Nat} {completion : Nat × Outcome α}
    (here : s.promised[j]? = some completion) :
    (s.delivered ++ [completion] ++ (s.posted ++ s.promised.eraseIdx j)).Perm (told s) := by
  unfold told
  rw [List.append_assoc, List.perm_append_left_iff]
  refine List.Perm.trans ?_ ((Worklists.taken_perm here).append_left s.posted)
  rw [List.singleton_append]
  exact List.perm_middle.symm

theorem told_run {s : Writer S α} {i : Nat} {completion : Nat × Outcome α}
    (here : s.posted[i]? = some completion) :
    (s.delivered ++ [completion] ++ (s.posted.eraseIdx i ++ s.promised)).Perm (told s) := by
  unfold told
  rw [List.append_assoc, List.perm_append_left_iff, ← List.append_assoc]
  exact (Worklists.taken_perm here).append_right s.promised

/-- One more completion, of a write that is no longer held. -/
theorem settled_told {before after : List (Nat × Outcome α)} {completion : Nat × Outcome α}
    (perm : after.Perm (before ++ [completion])) (rest : List Nat) :
    (after.map Prod.fst ++ rest).Perm (before.map Prod.fst ++ (completion.1 :: rest)) := by
  have mapped := (perm.map Prod.fst).append_right rest
  rw [List.map_append, List.append_assoc] at mapped
  exact mapped

/-- No step loses or doubles a write. -/
theorem moves_everywhere {s s' : Writer S α} {event : Event S α} (moves : Moves s event s')
    (counts : Counts s (everywhere s)) : Counts s' (everywhere s') := by
  have kept : ∀ {r : Writer S α}, r.submitted = s.submitted →
      (everywhere r).Perm (everywhere s) → Counts r (everywhere r) := by
    intro r same perm
    unfold Counts
    rw [same]
    exact perm.trans counts
  have by_caller : ∀ {r : Writer S α} {i : Nat} {caller next : Caller S α},
      s.callers[i]? = some caller → r.callers = s.callers → r.submitted = s.submitted →
      (settled r ++ next.held).Perm (settled s ++ caller.held) →
      Counts (moved r i next) (everywhere (moved r i next)) := by
    intro r i caller next here callers same hands
    exact kept same (handed_moved here callers hands)
  have by_actor : ∀ {r : Writer S α}, r.callers = s.callers → r.submitted = s.submitted →
      (settled r).Perm (settled s) → Counts r (everywhere r) := by
    intro r callers same perm
    refine kept same ?_
    unfold everywhere atCallers
    rw [callers]
    exact perm.append_right _
  cases moves with
  | idle => exact counts
  | submits _ asynchronous job =>
    have same : everywhere (submit s asynchronous job) = everywhere s ++ [s.submitted] := by
      simp [everywhere, submit, settled, told, atCallers, Caller.held]
    rw [same]
    unfold Counts submit
    rw [List.range_succ]
    exact counts.append_right _
  | stops =>
    refine kept rfl ?_
    simp [everywhere, settled, told, atCallers, Caller.held]
  | accepts i write here =>
    refine by_caller here rfl rfl ?_
    simp [settled, told, tickets, Caller.held]
  | refuses i write here =>
    have unheld := settled_told (told_refuse s write) (s.phase.held ++ tickets s.writeQueue)
    have perm : (settled (refuse s write)).Perm (settled s ++ [write.ticket]) := by
      unfold settled
      rw [show (refuse s write).phase = s.phase by rw [refuse_eq],
        show (refuse s write).writeQueue = s.writeQueue by rw [refuse_eq]]
      refine unheld.trans ?_
      rw [List.append_assoc, List.perm_append_left_iff]
      exact (List.perm_append_singleton _ _).symm
    refine by_caller here (by rw [refuse_eq]) (by rw [refuse_eq]) ?_
    simpa [Caller.held] using perm
  | notifies i write here =>
    refine by_caller here rfl rfl ?_
    split <;> exact List.Perm.refl _
  | fetches i j completion here found =>
    refine by_caller here rfl rfl ?_
    have perm := (told_fetch found).map Prod.fst
    exact (perm.append_right _).append_right _
  | stopsNothing i here => exact by_caller here rfl rfl (List.Perm.refl _)
  | stopsActor i here => exact by_caller here rfl rfl (List.Perm.refl _)
  | wakes i here => exact by_caller here rfl rfl (List.Perm.refl _)
  | joins i here => exact by_caller here rfl rfl (List.Perm.refl _)
  | takes chance write rest phase queue =>
    refine by_actor rfl rfl ?_
    simp [settled, told, phase, queue, Phase.held, tickets]
  | exits chance phase =>
    refine by_actor rfl rfl ?_
    simp [settled, told, phase, Phase.held]
  | sleeps chance phase =>
    refine by_actor rfl rfl ?_
    simp [settled, told, phase, Phase.held]
  | awakes chance phase =>
    refine by_actor rfl rfl ?_
    simp [settled, told, phase, Phase.held]
  | opens chance write connected phase =>
    refine by_actor rfl rfl ?_
    simp [settled, told, phase, Phase.held]
  | opensNot chance write e phase =>
    refine by_actor rfl rfl ?_
    simp [settled, told, phase, Phase.held]
  | retries chance write attempt session phase =>
    refine by_actor rfl rfl ?_
    simp [settled, told, phase, Phase.held]
  | finishes chance write attempt outcome session phase =>
    refine by_actor rfl rfl ?_
    simp [settled, told, phase, Phase.held]
  | completes chance write outcome phase =>
    have perm := settled_told (told_complete s write outcome) (tickets s.writeQueue)
    refine by_actor (by rw [complete_eq]) (by rw [complete_eq]) ?_
    unfold settled
    rw [phase, show (complete s write outcome).writeQueue = s.writeQueue by rw [complete_eq]]
    exact perm
  | runs i completion here =>
    refine by_actor rfl rfl ?_
    exact ((told_run here).map Prod.fst).append_right _

/-- Every write that got through the mutex was accepted or refused. -/
theorem moves_decided {s s' : Writer S α} {event : Event S α} (moves : Moves s event s')
    (counts : Counts s (decided s ++ atCallers s)) : Counts s' (decided s' ++ atCallers s') := by
  have by_caller : ∀ {r : Writer S α} {i : Nat} {caller next : Caller S α},
      s.callers[i]? = some caller → r.callers = s.callers → r.submitted = s.submitted →
      (decided r ++ next.held).Perm (decided s ++ caller.held) →
      Counts (moved r i next) (decided (moved r i next) ++ atCallers (moved r i next)) := by
    intro r i caller next here callers same hands
    unfold Counts
    rw [show (moved r i next).submitted = s.submitted from same]
    exact (handed_moved here callers hands).trans counts
  cases moves with
  | idle => exact counts
  | submits _ asynchronous job =>
    have same : decided (submit s asynchronous job) ++ atCallers (submit s asynchronous job) =
        decided s ++ atCallers s ++ [s.submitted] := by
      simp [decided, submit, atCallers, Caller.held]
    rw [same]
    unfold Counts submit
    rw [List.range_succ]
    exact counts.append_right _
  | stops =>
    have same : atCallers { s with callers := s.callers ++ [.stopping] } = atCallers s := by
      simp [atCallers, Caller.held]
    rw [same]
    exact counts
  | accepts i write here =>
    refine by_caller here rfl rfl ?_
    simp only [decided, tickets, List.map_append, List.map_cons, List.map_nil, Caller.held,
      List.append_nil, List.append_assoc, List.perm_append_left_iff]
    exact List.perm_append_comm
  | refuses i write here =>
    refine by_caller here (by rw [refuse_eq]) (by rw [refuse_eq]) ?_
    rw [refuse_eq]
    simp [decided, Caller.held]
  | notifies i write here =>
    refine by_caller here rfl rfl ?_
    split <;> exact List.Perm.refl _
  | fetches i j completion here found => exact by_caller here rfl rfl (List.Perm.refl _)
  | stopsNothing i here => exact by_caller here rfl rfl (List.Perm.refl _)
  | stopsActor i here => exact by_caller here rfl rfl (List.Perm.refl _)
  | wakes i here => exact by_caller here rfl rfl (List.Perm.refl _)
  | joins i here => exact by_caller here rfl rfl (List.Perm.refl _)
  | completes chance write outcome phase =>
    rw [complete_eq]
    exact counts
  | _ => exact counts

/-! What the actor does with the writes -/

/-- The write that was taken out and not yet taken up. -/
def Phase.pending : Phase S α → List (Write S α)
  | .opening write => [write]
  | _ => []

/-- The accepted writes are taken up in their order. -/
def InOrder (s : Writer S α) : Prop :=
  s.accepted = s.taken.map Prod.fst ++ (s.phase.pending ++ s.writeQueue)

theorem moves_inOrder {s s' : Writer S α} {event : Event S α} (moves : Moves s event s')
    (order : InOrder s) : InOrder s' := by
  unfold InOrder at order
  cases moves with
  | accepts =>
    change s.accepted ++ _ = s.taken.map Prod.fst ++ (s.phase.pending ++ (s.writeQueue ++ _))
    rw [order]
    simp
  | refuses i write =>
    rw [refuse_eq]
    exact order
  | takes chance write rest phase queue =>
    rw [phase, queue] at order
    exact order
  | exits chance phase queue =>
    rw [phase] at order
    exact order
  | sleeps chance phase queue =>
    rw [phase] at order
    exact order
  | awakes chance phase =>
    rw [phase] at order
    exact order
  | opens chance write connected phase =>
    rw [phase] at order
    change s.accepted = (s.taken ++ [(write, none)]).map Prod.fst ++ s.writeQueue
    rw [order]
    simp [Phase.pending]
  | opensNot chance write e phase =>
    rw [phase] at order
    change s.accepted = (s.taken ++ [(write, some e)]).map Prod.fst ++ s.writeQueue
    rw [order]
    simp [Phase.pending]
  | retries chance write attempt session phase =>
    rw [phase] at order
    exact order
  | finishes chance write attempt outcome session phase =>
    rw [phase] at order
    exact order
  | completes chance write outcome phase =>
    rw [phase] at order
    rw [complete_eq]
    exact order
  | _ => exact order

/-- The session and the executions so far, while a write is under way and else. -/
def Replays (initial : Session S) (s : Writer S α) : Prop :=
  match s.phase with
  | .attempting write attempt => ∃ before, s.taken = before ++ [(write, none)] ∧
    attempt ≤ busyRetryAttempts ∧
    retry (busyRetryAttempts - attempt) write.job s.session =
      retry busyRetryAttempts write.job (sessionAfter initial before) ∧
    executed initial s.taken = s.attempts ++
      (executions (busyRetryAttempts - attempt) write.job s.session).map (write.ticket, ·)
  | .completing write outcome => s.session = sessionAfter initial s.taken ∧
    s.attempts = executed initial s.taken ∧
    ∃ before, answers initial s.taken = before ++ [(write.ticket, outcome)]
  | _ => s.session = sessionAfter initial s.taken ∧ s.attempts = executed initial s.taken

theorem replays_opens {initial : Session S} {s : Writer S α} {write : Write S α}
    (phase : s.phase = .opening write) (replays : Replays initial s) (connected : Bool) :
    Replays initial { s with
      connected := connected
      phase := .attempting write 0
      taken := s.taken ++ [(write, none)] } := by
  unfold Replays at replays
  rw [phase] at replays
  refine ⟨s.taken, rfl, Nat.zero_le _, ?_, ?_⟩
  · rw [Nat.sub_zero, replays.1]
  · rw [executed_snoc, replays.2, replays.1, Nat.sub_zero]

theorem replays_opensNot {initial : Session S} {s : Writer S α} {write : Write S α}
    (phase : s.phase = .opening write) (replays : Replays initial s) (e : Failure) :
    Replays initial { s with
      phase := .completing write (.error e)
      taken := s.taken ++ [(write, some e)] } := by
  unfold Replays at replays
  rw [phase] at replays
  refine ⟨?_, ?_, answers initial s.taken, ?_⟩
  · rw [sessionAfter_snoc]
    exact replays.1
  · rw [executed_snoc, List.append_nil]
    exact replays.2
  · rw [answers_snoc]
    rfl

theorem replays_retries {initial : Session S} {s : Writer S α} {write : Write S α}
    {attempt : Nat} {session : Session S} (phase : s.phase = .attempting write attempt)
    (few : attempt < busyRetryAttempts) (ran : write.job s.session = (.error .busy, session))
    (replays : Replays initial s) :
    Replays initial { s with
      session := session
      attempts := s.attempts ++ [(write.ticket, .error .busy)]
      phase := .attempting write (attempt + 1) } := by
  unfold Replays at replays
  rw [phase] at replays
  obtain ⟨before, taken, _, same, attempts⟩ := replays
  have left : busyRetryAttempts - attempt = busyRetryAttempts - (attempt + 1) + 1 := by omega
  rw [left, retry_busy ran] at same
  rw [left, executions_busy ran] at attempts
  refine ⟨before, taken, few, same, ?_⟩
  rw [attempts]
  simp

theorem replays_finishes {initial : Session S} {s : Writer S α} {write : Write S α}
    {attempt : Nat} {outcome : Outcome α} {session : Session S}
    (phase : s.phase = .attempting write attempt)
    (ran : write.job s.session = (outcome, session))
    (last : outcome ≠ .error .busy ∨ busyRetryAttempts ≤ attempt) (replays : Replays initial s) :
    Replays initial { s with
      session := session
      attempts := s.attempts ++ [(write.ticket, outcome)]
      phase := .completing write outcome } := by
  unfold Replays at replays
  rw [phase] at replays
  obtain ⟨before, taken, _, same, attempts⟩ := replays
  have last : outcome ≠ .error .busy ∨ busyRetryAttempts - attempt = 0 := by
    rcases last with other | all
    · exact Or.inl other
    · exact Or.inr (by omega)
  rw [retry_last ran last] at same
  rw [executions_last ran last] at attempts
  refine ⟨?_, ?_, answers initial before, ?_⟩
  · change session = sessionAfter initial s.taken
    rw [taken, sessionAfter_snoc]
    exact congrArg Prod.snd same
  · exact attempts.symm
  · change answers initial s.taken = _
    rw [taken, answers_snoc]
    exact congrArg (fun r => answers initial before ++ [(write.ticket, r)])
      (congrArg Prod.fst same).symm

theorem moves_replays {initial : Session S} {s s' : Writer S α} {event : Event S α}
    (moves : Moves s event s') (replays : Replays initial s) : Replays initial s' := by
  cases moves with
  | refuses i write =>
    rw [refuse_eq]
    exact replays
  | takes chance write rest phase queue =>
    unfold Replays at replays
    rw [phase] at replays
    exact replays
  | exits chance phase queue =>
    unfold Replays at replays
    rw [phase] at replays
    exact replays
  | sleeps chance phase queue =>
    unfold Replays at replays
    rw [phase] at replays
    exact replays
  | awakes chance phase =>
    unfold Replays at replays
    rw [phase] at replays
    exact replays
  | opens chance write connected phase => exact replays_opens phase replays connected
  | opensNot chance write e phase => exact replays_opensNot phase replays e
  | retries chance write attempt session phase few ran =>
    exact replays_retries phase few ran replays
  | finishes chance write attempt outcome session phase ran last =>
    exact replays_finishes phase ran last replays
  | completes chance write outcome phase =>
    unfold Replays at replays
    rw [phase] at replays
    rw [complete_eq]
    exact ⟨replays.1, replays.2.1⟩
  | _ => exact replays

end WriteActor
