import ZFleet.Server.WriteActor

/-!
What the callers of the write actor can rely on. Every write is completed once, the threads
come to an end with every completion delivered, and the accepted writes are executed in the
order of the queue as often as the busy retry demands.
-/
namespace WriteActor
open Transactions Schema

variable {S α : Type}

/-! Completions -/

/-- No completion is lost on the way to its caller. -/
theorem moves_told {s s' : Writer S α} {event : Event S α} (moves : Moves s event s')
    {completion : Nat × Outcome α} (before : completion ∈ told s) : completion ∈ told s' := by
  cases moves with
  | refuses i write here =>
    exact (told_refuse s write).mem_iff.mpr (List.mem_append_left _ before)
  | fetches i j fetched here found => exact (told_fetch found).mem_iff.mpr before
  | completes chance write outcome phase =>
    exact (told_complete s write outcome).mem_iff.mpr (List.mem_append_left _ before)
  | runs i run here => exact (told_run here).mem_iff.mpr before
  | _ => exact before

/-- Callers are told what the actor answered, or that it is stopped. -/
def Answered (initial : Session S) (s : Writer S α) : Prop :=
  ∀ completion ∈ told s, (completion.1 ∈ s.refused ∧ completion.2 = .error stopped) ∨
    completion ∈ answers initial s.taken

theorem answered_taken {initial : Session S} {s : Writer S α}
    {item : Write S α × Option Failure} (answered : Answered initial s) :
    ∀ completion ∈ told s, (completion.1 ∈ s.refused ∧ completion.2 = .error stopped) ∨
      completion ∈ answers initial (s.taken ++ [item]) := by
  intro completion inside
  rcases answered completion inside with refused | answer
  · exact Or.inl refused
  · rw [answers_snoc]
    exact Or.inr (List.mem_append_left _ answer)

theorem moves_answered {initial : Session S} {s s' : Writer S α} {event : Event S α}
    (moves : Moves s event s') (replays : Replays initial s) (answered : Answered initial s) :
    Answered initial s' := by
  cases moves with
  | refuses i write here =>
    intro completion inside
    have inside : completion ∈ told (refuse s write) := inside
    rw [(told_refuse s write).mem_iff, List.mem_append, List.mem_singleton] at inside
    rw [refuse_eq]
    rcases inside with before | rfl
    · rcases answered completion before with ⟨refused, same⟩ | answer
      · exact Or.inl ⟨List.mem_append_left _ refused, same⟩
      · exact Or.inr answer
    · exact Or.inl ⟨List.mem_append_right _ (List.mem_singleton_self _), rfl⟩
  | fetches i j fetched here found =>
    intro completion inside
    exact answered completion ((told_fetch found).mem_iff.mp inside)
  | opens => exact answered_taken answered
  | opensNot => exact answered_taken answered
  | completes chance write outcome phase =>
    intro completion inside
    have inside : completion ∈ told (complete s write outcome) := inside
    rw [(told_complete s write outcome).mem_iff, List.mem_append, List.mem_singleton] at inside
    rw [complete_eq]
    rcases inside with before | rfl
    · exact answered completion before
    · unfold Replays at replays
      rw [phase] at replays
      obtain ⟨_, _, before, last⟩ := replays
      refine Or.inr ?_
      change _ ∈ answers initial s.taken
      rw [last]
      simp
  | runs i run here =>
    intro completion inside
    exact answered completion ((told_run here).mem_iff.mp inside)
  | _ => exact answered

/-- The refused writes are completed with the exception. -/
def RefusedTold (s : Writer S α) : Prop :=
  ∀ t ∈ s.refused, ((t, .error stopped) : Nat × Outcome α) ∈ told s

theorem moves_refused {s s' : Writer S α} {event : Event S α} (moves : Moves s event s')
    (refused : RefusedTold s) : RefusedTold s' := by
  have later : ∀ t ∈ s.refused, ((t, .error stopped) : Nat × Outcome α) ∈ told s' :=
    fun t inside => moves_told moves (refused t inside)
  cases moves with
  | refuses i write here =>
    intro t inside
    have inside : t ∈ (refuse s write).refused := inside
    rw [refuse_eq, List.mem_append, List.mem_singleton] at inside
    rcases inside with before | rfl
    · exact later t before
    · exact (told_refuse s write).mem_iff.mpr (List.mem_append_right _ (by simp))
  | completes chance write outcome phase =>
    intro t inside
    refine later t ?_
    rw [complete_eq] at inside
    exact inside
  | _ => exact later

/-- What the actor took up it holds or has answered. -/
def TakenTold (s : Writer S α) : Prop :=
  ∀ item ∈ s.taken, item.1.ticket ∈ s.phase.held ∨ item.1.ticket ∈ (told s).map Prod.fst

theorem takenTold_snoc {s s' : Writer S α} {item : Write S α × Option Failure}
    (takenTold : TakenTold s) (phase : s.phase.held = [item.1.ticket])
    (phase' : s'.phase.held = [item.1.ticket]) (taken : s'.taken = s.taken ++ [item])
    (same : told s' = told s) : TakenTold s' := by
  intro other inside
  rw [taken, List.mem_append, List.mem_singleton] at inside
  rw [phase', same]
  rcases inside with before | rfl
  · have earlier := takenTold other before
    rw [phase] at earlier
    exact earlier
  · exact Or.inl (List.mem_singleton_self _)

theorem moves_takenTold {s s' : Writer S α} {event : Event S α} (moves : Moves s event s')
    (takenTold : TakenTold s) : TakenTold s' := by
  have later : ∀ t, t ∈ (told s).map Prod.fst → t ∈ (told s').map Prod.fst := by
    intro t inside
    obtain ⟨completion, before, rfl⟩ := List.mem_map.mp inside
    exact List.mem_map_of_mem (moves_told moves before)
  have same_phase : s'.taken = s.taken → s'.phase.held = s.phase.held → TakenTold s' := by
    intro taken phase item inside
    rw [taken] at inside
    rw [phase]
    exact (takenTold item inside).imp_right (later _)
  cases moves with
  | refuses => exact same_phase (by rw [moved, refuse_eq]) (by rw [moved, refuse_eq])
  | takes chance write rest phase =>
    intro item inside
    rcases takenTold item inside with held | before
    · rw [phase] at held
      cases held
    · exact Or.inr (later _ before)
  | exits chance phase => exact same_phase rfl (by rw [phase]; rfl)
  | sleeps chance phase => exact same_phase rfl (by rw [phase]; rfl)
  | awakes chance phase => exact same_phase rfl (by rw [phase]; rfl)
  | opens chance write connected phase =>
    exact takenTold_snoc takenTold (by rw [phase]; rfl) rfl rfl rfl
  | opensNot chance write e phase =>
    exact takenTold_snoc takenTold (by rw [phase]; rfl) rfl rfl rfl
  | retries chance write attempt session phase => exact same_phase rfl (by rw [phase]; rfl)
  | finishes chance write attempt outcome session phase =>
    exact same_phase rfl (by rw [phase]; rfl)
  | completes chance write outcome phase =>
    intro item inside
    rw [complete_eq] at inside
    rcases takenTold item inside with held | before
    · rw [phase] at held
      obtain same : item.1.ticket = write.ticket := by simpa [Phase.held] using held
      refine Or.inr (List.mem_map.mpr ⟨(write.ticket, outcome), ?_, same.symm⟩)
      exact (told_complete s write outcome).mem_iff.mpr (List.mem_append_right _ (by simp))
    · exact Or.inr (later _ before)
  | _ => exact same_phase rfl rfl

/-! Threads that wait -/

/-- The thread is about to notify the condition variable. -/
def Caller.rouses : Caller S α → Bool
  | .notifying _ | .waking => true
  | _ => false

/-- When the actor sleeps for want of work, it has none, or somebody is about to wake it. -/
def Roused (s : Writer S α) : Prop :=
  s.phase = .asleep → s.asleep = true →
    (s.writeQueue = [] ∧ s.writeActorStopping = false) ∨ ∃ caller ∈ s.callers, caller.rouses = true

/-- A thread that has something keeps it when another one steps. -/
theorem others_stay {callers : List (Caller S α)} {i : Nat} {caller : Caller S α}
    (here : callers[i]? = some caller) (next : Caller S α) {has : Caller S α → Prop}
    (not_it : ¬ has caller) (somebody : ∃ other ∈ callers, has other) :
    ∃ other ∈ callers.set i next, has other := by
  obtain ⟨other, inside, it⟩ := somebody
  rcases (Worklists.mem_taken_iff here other).mp inside with rfl | rest
  · exact absurd it not_it
  · exact ⟨other, (Worklists.mem_replaced_iff here next other).mpr (Or.inr rest), it⟩

theorem moved_here {callers : List (Caller S α)} {i : Nat} {caller : Caller S α}
    (here : callers[i]? = some caller) (next : Caller S α) : next ∈ callers.set i next :=
  (Worklists.mem_replaced_iff here next next).mpr (Or.inl rfl)

theorem moves_roused {s s' : Writer S α} {event : Event S α} (moves : Moves s event s')
    (roused : Roused s) : Roused s' := by
  have by_caller : ∀ {r : Writer S α} {i : Nat} {caller next : Caller S α},
      s.callers[i]? = some caller → caller.rouses ≠ true → r.callers = s.callers →
      r.phase = s.phase → r.asleep = s.asleep → r.writeQueue = s.writeQueue →
      r.writeActorStopping = s.writeActorStopping → Roused (moved r i next) := by
    intro r i caller next here quiet callers phase flag queue stopping asleep unnotified
    have asleep : r.phase = .asleep := asleep
    have unnotified : r.asleep = true := unnotified
    change (r.writeQueue = [] ∧ r.writeActorStopping = false) ∨
      ∃ other ∈ r.callers.set i next, other.rouses = true
    rw [queue, stopping, callers]
    rcases roused (phase.symm.trans asleep) (flag.symm.trans unnotified) with idle | somebody
    · exact Or.inl idle
    · exact Or.inr (others_stay here next quiet somebody)
  have awake : s'.asleep = false → Roused s' := by
    intro awake _ unnotified
    rw [awake] at unnotified
    cases unnotified
  have working : s'.phase ≠ .asleep → Roused s' := fun phase asleep => absurd asleep phase
  cases moves with
  | idle => exact roused
  | submits _ asynchronous job =>
    intro asleep unnotified
    rcases roused asleep unnotified with idle | ⟨other, inside, rouses⟩
    · exact Or.inl idle
    · exact Or.inr ⟨other, List.mem_append_left _ inside, rouses⟩
  | stops =>
    intro asleep unnotified
    rcases roused asleep unnotified with idle | ⟨other, inside, rouses⟩
    · exact Or.inl idle
    · exact Or.inr ⟨other, List.mem_append_left _ inside, rouses⟩
  | accepts i write here => exact fun _ _ => Or.inr ⟨_, moved_here here _, rfl⟩
  | refuses i write here =>
    exact by_caller here nofun (by rw [refuse_eq]) (by rw [refuse_eq]) (by rw [refuse_eq])
      (by rw [refuse_eq]) (by rw [refuse_eq])
  | notifies i write here => exact awake rfl
  | fetches i j completion here => exact by_caller here nofun rfl rfl rfl rfl rfl
  | stopsNothing i here => exact by_caller here nofun rfl rfl rfl rfl rfl
  | stopsActor i here => exact fun _ _ => Or.inr ⟨_, moved_here here _, rfl⟩
  | wakes i here => exact awake rfl
  | joins i here => exact by_caller here nofun rfl rfl rfl rfl rfl
  | takes chance write rest => exact working (by simp)
  | exits chance => exact working (by simp)
  | sleeps chance phase queue running => exact fun _ _ => Or.inl ⟨queue, running⟩
  | awakes chance => exact awake rfl
  | opens => exact working (by simp)
  | opensNot => exact working (by simp)
  | retries => exact working (by simp)
  | finishes => exact working (by simp)
  | completes chance write outcome => exact working (by simp)
  | runs i completion here => exact roused

/-- The actor is gone only after the stop, and has left nothing. -/
def Drained (s : Writer S α) : Prop :=
  s.phase = .exited → s.writeQueue = [] ∧ s.writeActorStopping = true

theorem moves_drained {s s' : Writer S α} {event : Event S α} (moves : Moves s event s')
    (drained : Drained s) : Drained s' := by
  have working : s'.phase ≠ .exited → Drained s' := fun phase exited => absurd exited phase
  cases moves with
  | accepts i write here running =>
    intro exited
    have stopping := (drained exited).2
    rw [running] at stopping
    cases stopping
  | refuses i write here =>
    rw [moved, refuse_eq]
    exact drained
  | stopsActor i here => exact fun exited => ⟨(drained exited).1, rfl⟩
  | takes => exact working (by simp)
  | exits chance phase queue stopping => exact fun _ => ⟨queue, stopping⟩
  | sleeps => exact working (by simp)
  | awakes => exact working (by simp)
  | opens => exact working (by simp)
  | opensNot => exact working (by simp)
  | retries => exact working (by simp)
  | finishes => exact working (by simp)
  | completes => exact working (by simp)
  | _ => exact drained

/-- The thread waits for the promise of this write, or will. -/
def AwaitsFor (ticket : Nat) : Caller S α → Prop
  | .notifying write => write.asynchronous = false ∧ write.ticket = ticket
  | .awaiting waiting => waiting = ticket
  | _ => False

/-- A synchronous write that was accepted has been delivered or is waited for. -/
def Awaited (s : Writer S α) : Prop :=
  ∀ write ∈ s.accepted, write.asynchronous = false →
    write.ticket ∈ s.delivered.map Prod.fst ∨ ∃ caller ∈ s.callers, AwaitsFor write.ticket caller

theorem awaited_moved {s r : Writer S α} {i : Nat} {caller next : Caller S α}
    (awaited : Awaited s) (here : s.callers[i]? = some caller)
    (callers : r.callers = s.callers) (accepted : r.accepted = s.accepted)
    (delivered : ∀ t, t ∈ s.delivered.map Prod.fst → t ∈ r.delivered.map Prod.fst)
    (hands : ∀ t, AwaitsFor t caller → t ∈ r.delivered.map Prod.fst ∨ AwaitsFor t next) :
    Awaited (moved r i next) := by
  intro write inside synchronous
  have inside : write ∈ r.accepted := inside
  rw [accepted] at inside
  change _ ∈ r.delivered.map Prod.fst ∨ ∃ other ∈ r.callers.set i next, _
  rw [callers]
  rcases awaited write inside synchronous with done | waited
  · exact Or.inl (delivered _ done)
  · by_cases its : AwaitsFor write.ticket caller
    · exact (hands _ its).imp_right fun waits => ⟨next, moved_here here next, waits⟩
    · exact Or.inr (others_stay here next its waited)

theorem moves_awaited {s s' : Writer S α} {event : Event S α} (moves : Moves s event s')
    (awaited : Awaited s) : Awaited s' := by
  have more_callers : ∀ {r : Writer S α} (caller : Caller S α), r.accepted = s.accepted →
      r.delivered = s.delivered → r.callers = s.callers ++ [caller] → Awaited r := by
    intro r caller accepted delivered callers write inside synchronous
    rw [accepted] at inside
    rw [delivered, callers]
    refine (awaited write inside synchronous).imp_right ?_
    rintro ⟨other, there, waits⟩
    exact ⟨other, List.mem_append_left _ there, waits⟩
  cases moves with
  | submits _ asynchronous job => exact more_callers _ rfl rfl rfl
  | stops => exact more_callers _ rfl rfl rfl
  | accepts i write here =>
    intro other inside synchronous
    have inside : other ∈ s.accepted ++ [write] := inside
    rw [List.mem_append, List.mem_singleton] at inside
    rcases inside with before | rfl
    · refine (awaited other before synchronous).imp_right ?_
      exact others_stay here _ id
    · exact Or.inr ⟨_, moved_here here _, synchronous, rfl⟩
  | refuses i write here =>
    refine awaited_moved awaited here (by rw [refuse_eq]) (by rw [refuse_eq]) ?_ nofun
    intro t done
    unfold refuse
    split
    · exact done
    · rw [List.map_append]
      exact List.mem_append_left _ done
  | notifies i write here =>
    refine awaited_moved awaited here rfl rfl (fun _ done => done) ?_
    rintro t ⟨synchronous, same⟩
    rw [if_neg (by simp [synchronous])]
    exact Or.inr same
  | fetches i j completion here found =>
    refine awaited_moved awaited here rfl rfl ?_ ?_
    · intro t done
      rw [List.map_append]
      exact List.mem_append_left _ done
    · rintro t rfl
      rw [List.map_append]
      exact Or.inl (List.mem_append_right _ (by simp))
  | stopsNothing i here => exact awaited_moved awaited here rfl rfl (fun _ done => done) nofun
  | stopsActor i here => exact awaited_moved awaited here rfl rfl (fun _ done => done) nofun
  | wakes i here => exact awaited_moved awaited here rfl rfl (fun _ done => done) nofun
  | joins i here => exact awaited_moved awaited here rfl rfl (fun _ done => done) nofun
  | completes chance write outcome phase =>
    rw [complete_eq]
    exact awaited
  | runs i completion here =>
    intro write inside synchronous
    refine (awaited write inside synchronous).imp_left fun done => ?_
    rw [List.map_append]
    exact List.mem_append_left _ done
  | _ => exact awaited

/-- The write the actor works on was accepted, and so was every write with a promise. -/
structure Promises (s : Writer S α) : Prop where
  current : ∀ write, (s.phase = .opening write ∨ (∃ n, s.phase = .attempting write n) ∨
    ∃ outcome, s.phase = .completing write outcome) → write ∈ s.accepted
  promised : ∀ completion ∈ s.promised, ∃ write ∈ s.accepted,
    write.asynchronous = false ∧ write.ticket = completion.1

theorem moves_promises {s s' : Writer S α} {event : Event S α} (moves : Moves s event s')
    (order : InOrder s) (promises : Promises s) : Promises s' := by
  have idle : s'.accepted = s.accepted → s'.promised = s.promised →
      (s'.phase = .idle ∨ s'.phase = .asleep ∨ s'.phase = .exited) → Promises s' := by
    intro accepted promised phase
    constructor
    · rintro write (now | ⟨n, now⟩ | ⟨outcome, now⟩)
      all_goals rw [now] at phase
      all_goals rcases phase with other | other | other <;> cases other
    · rw [accepted, promised]
      exact promises.promised
  have works : ∀ write, write ∈ s.accepted → s'.accepted = s.accepted →
      s'.promised = s.promised → (s'.phase = .opening write ∨
      (∃ n, s'.phase = .attempting write n) ∨ ∃ outcome, s'.phase = .completing write outcome) →
      Promises s' := by
    intro write inside accepted promised phase
    constructor
    · rintro other now
      rw [accepted]
      have same : other = write := by
        rcases phase with phase | ⟨n, phase⟩ | ⟨outcome, phase⟩
        all_goals rw [phase] at now
        all_goals rcases now with now | ⟨_, now⟩ | ⟨_, now⟩ <;> cases now
        all_goals rfl
      rw [same]
      exact inside
    · rw [accepted, promised]
      exact promises.promised
  cases moves with
  | accepts i write here =>
    constructor
    · exact fun other now => List.mem_append_left _ (promises.current other now)
    · intro completion inside
      obtain ⟨other, accepted, rest⟩ := promises.promised completion inside
      exact ⟨other, List.mem_append_left _ accepted, rest⟩
  | refuses i write here =>
    rw [moved, refuse_eq]
    exact ⟨promises.current, promises.promised⟩
  | fetches i j completion here found =>
    exact ⟨promises.current, fun other inside =>
      promises.promised other (List.mem_of_mem_eraseIdx inside)⟩
  | takes chance write rest phase queue =>
    refine works write ?_ rfl rfl (Or.inl rfl)
    rw [show s.accepted = _ from order, queue]
    simp
  | exits => exact idle rfl rfl (Or.inr (Or.inr rfl))
  | sleeps => exact idle rfl rfl (Or.inr (Or.inl rfl))
  | awakes => exact idle rfl rfl (Or.inl rfl)
  | opens chance write connected phase =>
    exact works write (promises.current write (Or.inl phase)) rfl rfl (Or.inr (Or.inl ⟨_, rfl⟩))
  | opensNot chance write e phase =>
    exact works write (promises.current write (Or.inl phase)) rfl rfl (Or.inr (Or.inr ⟨_, rfl⟩))
  | retries chance write attempt session phase =>
    exact works write (promises.current write (Or.inr (Or.inl ⟨_, phase⟩))) rfl rfl
      (Or.inr (Or.inl ⟨_, rfl⟩))
  | finishes chance write attempt outcome session phase =>
    exact works write (promises.current write (Or.inr (Or.inl ⟨_, phase⟩))) rfl rfl
      (Or.inr (Or.inr ⟨_, rfl⟩))
  | completes chance write outcome phase =>
    have accepted := promises.current write (Or.inr (Or.inr ⟨_, phase⟩))
    constructor
    · rintro other (now | ⟨n, now⟩ | ⟨outcome, now⟩) <;> cases now
    · intro completion inside
      rw [complete_eq]
      change completion ∈ (complete s write outcome).promised at inside
      unfold complete at inside
      split at inside
      · exact promises.promised completion inside
      · rename_i synchronous
        rw [List.mem_append, List.mem_singleton] at inside
        rcases inside with before | rfl
        · exact promises.promised completion before
        · exact ⟨write, accepted, by simpa using synchronous, rfl⟩
  | _ => exact ⟨promises.current, promises.promised⟩

/-! All of it, in every state -/

structure Kept (initial : Session S) (s : Writer S α) : Prop where
  everywhere : Counts s (everywhere s)
  decided : Counts s (decided s ++ atCallers s)
  order : InOrder s
  replays : Replays initial s
  answered : Answered initial s
  refused : RefusedTold s
  taken : TakenTold s
  roused : Roused s
  drained : Drained s
  awaited : Awaited s
  promises : Promises s

theorem start_kept (initial : Session S) : Kept initial (Writer.start initial : Writer S α) where
  everywhere := List.Perm.refl _
  decided := List.Perm.refl _
  order := rfl
  replays := ⟨rfl, rfl⟩
  answered := nofun
  refused := nofun
  taken := nofun
  roused := nofun
  drained := nofun
  awaited := nofun
  promises := by
    constructor
    · rintro write (now | ⟨n, now⟩ | ⟨outcome, now⟩) <;> cases now
    · exact nofun

theorem step_kept {initial : Session S} {s : Writer S α} (event : Event S α)
    (kept : Kept initial s) : Kept initial (step s event) :=
  have moves := step_moves s event
  { everywhere := moves_everywhere moves kept.everywhere
    decided := moves_decided moves kept.decided
    order := moves_inOrder moves kept.order
    replays := moves_replays moves kept.replays
    answered := moves_answered moves kept.replays kept.answered
    refused := moves_refused moves kept.refused
    taken := moves_takenTold moves kept.taken
    roused := moves_roused moves kept.roused
    drained := moves_drained moves kept.drained
    awaited := moves_awaited moves kept.awaited
    promises := moves_promises moves kept.order kept.promises }

theorem run_kept (initial : Session S) (events : List (Event S α)) :
    Kept initial (Runs.run step (Writer.start initial) events) :=
  Runs.run_invariant_always (Kept initial) (fun _ event kept => step_kept event kept) _
    (start_kept initial) events

/-! Progress -/

/-- How many steps the actor can take with the write in its hands. -/
def Phase.rank (asleep : Bool) : Phase S α → Nat
  | .idle => 1
  | .asleep => if asleep then 0 else 2
  | .opening _ => 10
  | .attempting _ attempt => 4 + (busyRetryAttempts - attempt)
  | .completing _ _ => 3
  | .exited => 0

def Caller.rank : Caller S α → Nat
  | .enqueueing _ => 17
  | .notifying _ | .waking => 4
  | .stopping => 5
  | .awaiting _ | .joining => 1
  | .returned => 0

/-- An upper bound of the steps that are left without new calls. -/
def rank (s : Writer S α) : Nat :=
  12 * s.writeQueue.length + s.posted.length + s.phase.rank s.asleep +
    (s.callers.map Caller.rank).sum

/-- A step that a thread takes of its own accord. -/
def Event.own : Event S α → Bool
  | .caller _ | .executor _ => true
  | .actor chance => !chance.wakes
  | _ => false

theorem rank_moved {callers : List (Caller S α)} {i : Nat} {caller : Caller S α}
    (here : callers[i]? = some caller) (next : Caller S α) :
    ((callers.set i next).map Caller.rank).sum + caller.rank =
      (callers.map Caller.rank).sum + next.rank := by
  have taken := ((Worklists.taken_perm here).map Caller.rank).sum_nat
  have replaced := ((Worklists.replaced_perm here next).map Caller.rank).sum_nat
  simp only [List.map_cons, List.sum_cons] at taken replaced
  omega

theorem notified_rank (phase : Phase S α) (asleep : Bool) :
    phase.rank false ≤ phase.rank asleep + 2 := by
  cases phase <;> cases asleep <;> simp [Phase.rank]

/-- Without new calls and spurious wake-ups every step brings the end nearer. -/
theorem moves_rank {s s' : Writer S α} {event : Event S α} (moves : Moves s event s')
    (own : event.own = true) : s' = s ∨ rank s' < rank s := by
  have calls_not : event.calls ≠ true := by
    cases event <;> simp [Event.own, Event.calls] at own ⊢
  have by_caller : ∀ {r : Writer S α} {i : Nat} {caller next : Caller S α},
      s.callers[i]? = some caller → r.callers = s.callers →
      12 * r.writeQueue.length + r.posted.length + r.phase.rank r.asleep + next.rank <
        12 * s.writeQueue.length + s.posted.length + s.phase.rank s.asleep + caller.rank →
      rank (moved r i next) < rank s := by
    intro r i caller next here callers less
    have sums := rank_moved here next
    unfold rank moved
    simp only [callers]
    omega
  cases moves with
  | idle => exact Or.inl rfl
  | submits _ asynchronous job calls => exact absurd calls calls_not
  | stops _ calls => exact absurd calls calls_not
  | accepts i write here =>
    refine Or.inr (by_caller here rfl ?_)
    simp only [List.length_append, List.length_singleton, Caller.rank]
    omega
  | refuses i write here =>
    refine Or.inr (by_caller here (by rw [refuse_eq]) ?_)
    have posted : (refuse s write).posted.length ≤ s.posted.length + 1 := by
      unfold refuse
      split <;> simp
    rw [show (refuse s write).writeQueue = s.writeQueue by rw [refuse_eq],
      show (refuse s write).phase = s.phase by rw [refuse_eq],
      show (refuse s write).asleep = s.asleep by rw [refuse_eq]]
    simp only [Caller.rank]
    omega
  | notifies i write here =>
    refine Or.inr (by_caller here rfl ?_)
    have woken := notified_rank s.phase s.asleep
    have next : (if write.asynchronous then Caller.returned else
        .awaiting write.ticket : Caller S α).rank ≤ 1 := by
      split <;> simp [Caller.rank]
    change 12 * s.writeQueue.length + s.posted.length + s.phase.rank false + _ < _
    simp only [Caller.rank] at next ⊢
    omega
  | fetches i j completion here =>
    refine Or.inr (by_caller here rfl ?_)
    simp only [Caller.rank]
    omega
  | stopsNothing i here =>
    refine Or.inr (by_caller here rfl ?_)
    simp only [Caller.rank]
    omega
  | stopsActor i here =>
    refine Or.inr (by_caller here rfl ?_)
    simp only [Caller.rank]
    omega
  | wakes i here =>
    refine Or.inr (by_caller here rfl ?_)
    have woken := notified_rank s.phase s.asleep
    change 12 * s.writeQueue.length + s.posted.length + s.phase.rank false + _ < _
    simp only [Caller.rank]
    omega
  | joins i here =>
    refine Or.inr (by_caller here rfl ?_)
    simp only [Caller.rank]
    omega
  | takes chance write rest phase queue =>
    refine Or.inr ?_
    simp only [rank, phase, queue, Phase.rank, List.length_cons]
    omega
  | exits chance phase =>
    refine Or.inr ?_
    simp only [rank, phase, Phase.rank]
    omega
  | sleeps chance phase =>
    refine Or.inr ?_
    simp only [rank, phase, Phase.rank, if_true]
    omega
  | awakes chance phase notified =>
    refine Or.inr ?_
    have flag : s.asleep = false := by
      rcases notified with flag | spurious
      · exact flag
      · simp [Event.own, spurious] at own
    simp only [rank, phase, flag, Phase.rank, Bool.false_eq_true, if_false]
    omega
  | opens chance write connected phase =>
    refine Or.inr ?_
    simp only [rank, phase, Phase.rank, busyRetryAttempts]
    omega
  | opensNot chance write e phase =>
    refine Or.inr ?_
    simp only [rank, phase, Phase.rank]
    omega
  | retries chance write attempt session phase few =>
    refine Or.inr ?_
    simp only [rank, phase, Phase.rank]
    omega
  | finishes chance write attempt outcome session phase =>
    refine Or.inr ?_
    simp only [rank, phase, Phase.rank]
    omega
  | completes chance write outcome phase =>
    refine Or.inr ?_
    have posted : (complete s write outcome).posted.length ≤ s.posted.length + 1 := by
      unfold complete
      split <;> simp
    have same : complete s write outcome = { s with
        posted := (complete s write outcome).posted
        promised := (complete s write outcome).promised } := complete_eq s write outcome
    simp only [rank, Phase.rank, phase]
    rw [show (complete s write outcome).writeQueue = s.writeQueue by rw [same],
      show (complete s write outcome).callers = s.callers by rw [same]]
    omega
  | runs i completion here =>
    refine Or.inr ?_
    obtain ⟨inside, _⟩ := List.getElem?_eq_some_iff.mp here
    simp only [rank, List.length_eraseIdx, inside, if_true]
    omega

/-- A step of a thread that does something. -/
def Effective (s : Writer S α) (event : Event S α) : Prop := event.own = true ∧ step s event ≠ s

theorem effective_length {s : Writer S α} {events : List (Event S α)}
    (effective : Runs.AllSteps step s events Effective) : events.length ≤ rank s := by
  induction events generalizing s with
  | nil => exact Nat.zero_le _
  | cons event rest ih =>
    obtain ⟨⟨own, changes⟩, later⟩ := (Runs.allSteps_cons step s event rest Effective).mp effective
    have shorter := ih later
    rcases moves_rank (step_moves s event) own with same | less
    · exact absurd same changes
    · rw [List.length_cons]
      omega

/-- Nobody can do anything more. -/
def Quiet (s : Writer S α) : Prop := ∀ event : Event S α, event.own = true → step s event = s

theorem quiet_caller {s : Writer S α} (quiet : Quiet s) {caller : Caller S α}
    (inside : caller ∈ s.callers) : (call s caller).2 = caller := by
  obtain ⟨i, here⟩ := List.mem_iff_getElem?.mp inside
  have same := congrArg Writer.callers (quiet (.caller i) rfl)
  simp only [step, here] at same
  have next : (s.callers.set i (call s caller).2)[i]? = some (call s caller).2 := by
    obtain ⟨bound, _⟩ := List.getElem?_eq_some_iff.mp here
    simp [bound]
  rw [same, here] at next
  exact (Option.some.inj next).symm

/-- The actor sleeps unnotified or is gone. -/
theorem quiet_actor {s : Writer S α} (quiet : Quiet s) :
    (s.phase = .asleep ∧ s.asleep = true) ∨ s.phase = .exited := by
  have same : runWriteActor s ⟨false, none⟩ = s := quiet (.actor ⟨false, none⟩) rfl
  have same := congrArg Writer.phase same
  cases phase : s.phase with
  | idle =>
    simp only [runWriteActor, phase] at same
    split at same
    · cases same
    · split at same <;> cases same
  | asleep =>
    cases flag : s.asleep with
    | true => exact Or.inl ⟨rfl, rfl⟩
    | false =>
      simp only [runWriteActor, phase, flag, Bool.false_and, Bool.false_eq_true, if_false] at same
      cases same
  | opening write =>
    simp only [runWriteActor, phase] at same
    split at same <;> cases same
  | attempting write attempt =>
    simp only [runWriteActor, phase] at same
    split at same
    · split at same
      · cases same
      · have more := (Phase.attempting.inj same).2
        omega
    · cases same
  | completing write outcome =>
    simp only [runWriteActor, phase] at same
    cases same
  | exited => exact Or.inr rfl

theorem quiet_posted {s : Writer S α} (quiet : Quiet s) : s.posted = [] := by
  cases posted : s.posted with
  | nil => rfl
  | cons completion rest =>
    have same := congrArg Writer.posted (quiet (.executor 0) rfl)
    simp only [step, posted, List.getElem?_cons_zero, List.eraseIdx_zero, List.tail_cons] at same
    have shorter := congrArg List.length same
    simp at shorter

/-- When nobody can do anything more, every write was delivered. -/
theorem quiet_delivered {initial : Session S} {s : Writer S α} (kept : Kept initial s)
    (quiet : Quiet s) : (s.delivered.map Prod.fst).Perm (List.range s.submitted) := by
  have no_rouser : ∀ caller ∈ s.callers, caller.rouses ≠ true := by
    intro caller inside rouses
    have stuck := quiet_caller quiet inside
    cases caller with
    | notifying write =>
      simp only [call] at stuck
      split at stuck <;> cases stuck
    | waking => cases stuck
    | _ => cases rouses
  have queue : s.writeQueue = [] := by
    rcases quiet_actor quiet with ⟨phase, flag⟩ | phase
    · rcases kept.roused phase flag with idle | ⟨caller, inside, rouses⟩
      · exact idle.1
      · exact absurd rouses (no_rouser caller inside)
    · exact (kept.drained phase).1
  have held : s.phase.held = [] := by
    rcases quiet_actor quiet with ⟨phase, _⟩ | phase <;> rw [phase] <;> rfl
  have callers : atCallers s = [] := by
    apply List.flatMap_eq_nil_iff.mpr
    intro caller inside
    have stuck := quiet_caller quiet inside
    cases caller with
    | enqueueing write =>
      simp only [call] at stuck
      split at stuck <;> cases stuck
    | _ => rfl
  have counts := kept.everywhere
  unfold Counts everywhere settled at counts
  rw [held, queue, callers] at counts
  simp only [tickets, List.map_nil, List.append_nil] at counts
  have promised : s.promised = [] := by
    apply List.eq_nil_iff_forall_not_mem.mpr
    intro completion inside
    obtain ⟨write, accepted, synchronous, same⟩ := kept.promises.promised completion inside
    rcases kept.awaited write accepted synchronous with done | ⟨caller, there, waits⟩
    · -- it would be delivered and promised at once
      have distinct : ((told s).map Prod.fst).Nodup :=
        counts.nodup_iff.mpr List.nodup_range
      unfold told at distinct
      rw [List.map_append, List.nodup_append] at distinct
      refine distinct.2.2 _ done completion.1 ?_ same
      exact List.mem_map_of_mem (List.mem_append_right _ inside)
    · cases caller with
      | notifying other => exact no_rouser _ there rfl
      | awaiting waiting =>
        have stuck := quiet_caller quiet there
        simp only [call] at stuck
        split at stuck
        · rename_i absent
          have none_here := List.findIdx?_eq_none_iff.mp absent completion inside
          have its : waiting = completion.1 := Eq.trans waits same
          simp [its] at none_here
        · cases stuck
      | _ => cases waits
  rw [told, quiet_posted quiet, promised, List.append_nil, List.append_nil] at counts
  exact counts

/-! The claim of the actor -/

/-- What the writes of a run can rely on. -/
structure Serves (initial : Session S) (s : Writer S α) : Prop where
  /-- No write is completed twice. -/
  once : ((told s).map Prod.fst).Nodup ∧ ∀ completion ∈ told s, completion.1 < s.submitted
  /-- The threads come to an end, and then every write has been delivered, once. -/
  ends : ∀ events, Runs.AllSteps step s events Effective → events.length ≤ rank s
  delivered : Quiet s → (s.delivered.map Prod.fst).Perm (List.range s.submitted)
  /-- After the stop nothing is accepted, and what was is completed before the actor exits. -/
  closed : s.writeActorStopping = true → ∀ event, (step s event).accepted = s.accepted
  drained : s.phase = .exited → ∀ write ∈ s.accepted, write.ticket ∈ (told s).map Prod.fst
  /-- A refused write is not executed and is completed with the exception. -/
  refused : ∀ t ∈ s.refused, t ∉ tickets s.accepted ∧ (∀ run ∈ s.attempts, run.1 ≠ t) ∧
    ((t, .error stopped) : Nat × Outcome α) ∈ told s
  /-- Accepted writes are taken up in the order of the queue, and executed one after another
      on what the ones before left. -/
  order : s.taken.map Prod.fst <+: s.accepted
  executed : s.attempts <+: executed initial s.taken
  answered : ∀ write ∈ s.accepted, ∀ completion ∈ told s, completion.1 = write.ticket →
    completion ∈ answers initial s.taken

/-- An execution is one of a write that was taken up. -/
theorem executed_taken {session : Session S} {taken : List (Write S α × Option Failure)}
    {run : Nat × Outcome α} (inside : run ∈ executed session taken) :
    ∃ item ∈ taken, item.1.ticket = run.1 := by
  induction taken generalizing session with
  | nil => cases inside
  | cons first rest ih =>
    rcases List.mem_append.mp inside with here | later
    · refine ⟨first, List.mem_cons_self, ?_⟩
      split at here
      · cases here
      · obtain ⟨outcome, _, rfl⟩ := List.mem_map.mp here
        rfl
    · obtain ⟨item, member, same⟩ := ih later
      exact ⟨item, List.mem_cons_of_mem _ member, same⟩

theorem closed_accepted {s : Writer S α} (stopping : s.writeActorStopping = true)
    (event : Event S α) : (step s event).accepted = s.accepted := by
  have moves := step_moves s event
  generalize step s event = s' at moves ⊢
  cases moves with
  | accepts i write here running =>
    rw [running] at stopping
    cases stopping
  | refuses i write here => rw [moved, refuse_eq]
  | completes chance write outcome phase => rw [complete_eq]
  | _ => rfl

theorem serves_of_kept {initial : Session S} {s : Writer S α} (kept : Kept initial s) :
    Serves initial s := by
  have counts := kept.everywhere
  unfold Counts everywhere settled at counts
  have distinct : ((told s).map Prod.fst).Nodup := by
    have all := counts.nodup_iff.mpr List.nodup_range
    rw [List.append_assoc] at all
    exact (List.nodup_append.mp all).1
  have apart : ∀ t ∈ s.refused, t ∉ tickets s.accepted := by
    intro t refused accepted
    have all := kept.decided.nodup_iff.mpr List.nodup_range
    unfold decided at all
    rw [List.append_assoc, List.nodup_append] at all
    exact all.2.2 t accepted t (List.mem_append_left _ refused) rfl
  have prefixed : s.attempts <+: executed initial s.taken := by
    have replays := kept.replays
    unfold Replays at replays
    split at replays
    · obtain ⟨_, _, _, _, attempts⟩ := replays
      exact ⟨_, attempts.symm⟩
    · exact ⟨[], by rw [replays.2.1, List.append_nil]⟩
    · exact ⟨[], by rw [replays.2, List.append_nil]⟩
  constructor
  · refine ⟨distinct, ?_⟩
    intro completion inside
    have known : completion.1 ∈ List.range s.submitted :=
      counts.mem_iff.mp (List.mem_append_left _
        (List.mem_append_left _ (List.mem_map_of_mem inside)))
    exact List.mem_range.mp known
  · exact fun events => effective_length
  · exact quiet_delivered kept
  · exact fun stopping event => closed_accepted stopping event
  · intro exited write accepted
    have order := kept.order
    unfold InOrder at order
    rw [exited, (kept.drained exited).1] at order
    rw [order] at accepted
    have inside : write ∈ s.taken.map Prod.fst := by simpa [Phase.pending] using accepted
    obtain ⟨item, taken, rfl⟩ := List.mem_map.mp inside
    rcases kept.taken item taken with held | done
    · rw [exited] at held
      cases held
    · exact done
  · intro t refused
    refine ⟨apart t refused, ?_, kept.refused t refused⟩
    rintro run inside rfl
    obtain ⟨item, taken, same⟩ := executed_taken (prefixed.subset inside)
    refine apart run.1 refused (List.mem_map.mpr ⟨item.1, ?_, same⟩)
    rw [show s.accepted = _ from kept.order]
    exact List.mem_append_left _ (List.mem_map_of_mem taken)
  · exact ⟨_, (show s.accepted = _ from kept.order).symm⟩
  · exact prefixed
  · intro write accepted completion inside same
    rcases kept.answered completion inside with ⟨refused, _⟩ | answer
    · exact absurd (List.mem_map.mpr ⟨write, accepted, same.symm⟩) (apart _ refused)
    · exact answer

/-- Over any interleaving of calls, stops, executors and the actor, whatever the engine
    answers: every write is completed exactly once in the end, an accepted one before the
    actor exits and in the order of the queue with the executions that the busy retry
    demands, a refused one with the exception and without any. -/
theorem writes_served (initial : Session S) (events : List (Event S α)) :
    Serves initial (Runs.run step (Writer.start initial) events) ∧
    ∀ (job : Job S α) (session : Session S),
      AsBusyDemands busyRetryAttempts (executions busyRetryAttempts job session) :=
  ⟨serves_of_kept (run_kept initial events),
    fun job session => executions_demanded busyRetryAttempts job session⟩

end WriteActor
