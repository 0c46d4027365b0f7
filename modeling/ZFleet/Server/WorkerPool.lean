import ZFleet.Foundations.Runs
import ZFleet.Foundations.Worklists
import ZFleet.Server.ControlDispatcher

/-!
The worker pool of the control server. Chunks of all events streams wait in one queue.
A worker first takes a task from the queue and then the dispatcher mutex of its stream,
so with two workers a later chunk can overtake an earlier one in between.
-/
namespace WorkerPool
open FrameCodec Message ControlDispatcher

/-- A chunk of an events stream, as the task that pushes it. -/
structure EventChunk (S : Type) where
  stream : S
  bytes : Bytes

structure Pool (S : Type) where
  /-- The chunks that are still to be received. -/
  incoming : List (EventChunk S)
  tasks : List (EventChunk S)
  /-- The tasks of the workers in front of a dispatcher mutex. -/
  dequeued : List (EventChunk S)
  /-- The tasks of the workers that hold the mutex of their stream. -/
  pushing : List (EventChunk S)
  /-- The chunks that a dispatcher was handed, in that order. -/
  handed : List (EventChunk S)
  dispatchers : S → Dispatcher
  handled : S → List AgentEvent

inductive Action where
  | receive
  | dequeue
  | lock (worker : Nat)
  | push (worker : Nat)
  deriving DecidableEq

section Machine
variable {S : Type} [DecidableEq S]
variable (decode : Bytes → Except String AgentEvent) (threads : Nat)

/-- The dispatcher takes the chunk, and the worker is idle again. -/
def handOver (pool : Pool S) (worker : Nat) (chunk : EventChunk S) : Pool S :=
  let decoded := decodeEvents decode (pool.dispatchers chunk.stream) chunk.bytes
  { pool with
    pushing := pool.pushing.eraseIdx worker
    handed := pool.handed ++ [chunk]
    dispatchers := Function.update pool.dispatchers chunk.stream decoded.1
    handled := Function.update pool.handled chunk.stream
      (pool.handled chunk.stream ++ handledEvents decoded.2) }

/-- An action that is not possible leaves the pool as it is. -/
def step (pool : Pool S) : Action → Pool S
  | .receive =>
    match pool.incoming with
    | [] => pool
    | chunk :: rest => { pool with incoming := rest, tasks := pool.tasks ++ [chunk] }
  | .dequeue =>
    match pool.tasks with
    | [] => pool
    | chunk :: rest =>
      if pool.dequeued.length + pool.pushing.length < threads then
        { pool with tasks := rest, dequeued := pool.dequeued ++ [chunk] }
      else pool
  | .lock worker =>
    match pool.dequeued[worker]? with
    | none => pool
    | some chunk =>
      if pool.pushing.any (·.stream = chunk.stream) then pool
      else { pool with
        dequeued := pool.dequeued.eraseIdx worker
        pushing := pool.pushing ++ [chunk] }
  | .push worker =>
    match pool.pushing[worker]? with
    | none => pool
    | some chunk => handOver decode pool worker chunk

def start (connectionId : S → String) (arrivals : List (EventChunk S)) : Pool S where
  incoming := arrivals
  tasks := []
  dequeued := []
  pushing := []
  handed := []
  dispatchers := fun s => { connectionId := connectionId s, decoder := FrameDecoder.fresh }
  handled := fun _ => []

end Machine

section Order
variable {S : Type} [DecidableEq S]

def chunksOf (s : S) (chunks : List (EventChunk S)) : List Bytes :=
  (chunks.filter (·.stream = s)).map EventChunk.bytes

structure Drained (pool : Pool S) : Prop where
  incoming : pool.incoming = []
  tasks : pool.tasks = []
  dequeued : pool.dequeued = []
  pushing : pool.pushing = []

/-- The dispatchers get their chunks in the order of arrival, and in the end the events
    handled are those of a stream that came in one piece. -/
structure InArrivalOrder (decode : Bytes → Except String AgentEvent) (connectionId : S → String)
    (arrivals : List (EventChunk S)) (pool : Pool S) : Prop where
  order : ∀ s, chunksOf s pool.handed <+: chunksOf s arrivals
  complete : Drained pool → ∀ s, chunksOf s pool.handed = chunksOf s arrivals
  events : Drained pool → ∀ s events,
    (decodeEvents decode ((start connectionId arrivals).dispatchers s)
      (chunksOf s arrivals).flatten).2 = .ok events → pool.handled s = events

/-- Every chunk of the stream is the same, so their order does not show. -/
def Uniform (arrivals : List (EventChunk S)) : Prop :=
  ∀ s, ∀ first ∈ chunksOf s arrivals, ∀ second ∈ chunksOf s arrivals, first = second

theorem chunksOf_append (s : S) (first rest : List (EventChunk S)) :
    chunksOf s (first ++ rest) = chunksOf s first ++ chunksOf s rest := by
  simp [chunksOf]

theorem chunksOf_singleton (chunk : EventChunk S) :
    chunksOf chunk.stream [chunk] = [chunk.bytes] := by
  simp [chunksOf]

theorem chunksOf_other {s : S} {chunk : EventChunk S} (other : chunk.stream ≠ s) :
    chunksOf s [chunk] = [] := by
  simp [chunksOf, other]

theorem chunksOf_perm (s : S) {first second : List (EventChunk S)} (same : first.Perm second) :
    (chunksOf s first).Perm (chunksOf s second) :=
  (same.filter _).map _

/-! Where the chunks are -/

/-- All chunks, those that are farthest first. -/
def everywhere (pool : Pool S) : List (EventChunk S) :=
  pool.handed ++ (pool.pushing ++ (pool.dequeued ++ (pool.tasks ++ pool.incoming)))

variable {decode : Bytes → Except String AgentEvent} {threads : Nat}

/-- No step loses or doubles a chunk. -/
theorem step_conserves (pool : Pool S) (action : Action) :
    (everywhere (step decode threads pool action)).Perm (everywhere pool) := by
  cases action with
  | receive =>
    simp only [step]
    split
    · exact List.Perm.refl _
    · rename_i chunk rest at_incoming
      simp [everywhere, at_incoming]
  | dequeue =>
    simp only [step]
    split
    · exact List.Perm.refl _
    · rename_i chunk rest at_tasks
      split
      · simp [everywhere, at_tasks]
      · exact List.Perm.refl _
  | lock worker =>
    simp only [step]
    split
    · exact List.Perm.refl _
    · rename_i chunk at_worker
      split
      · exact List.Perm.refl _
      · simp only [everywhere]
        apply List.Perm.append_left
        rw [List.append_assoc]
        apply List.Perm.append_left
        exact (Worklists.taken_perm at_worker).append_right _
  | push worker =>
    simp only [step]
    split
    · exact List.Perm.refl _
    · rename_i chunk at_worker
      simp only [everywhere, handOver]
      rw [List.append_assoc]
      apply List.Perm.append_left
      exact (Worklists.taken_perm at_worker).append_right _

theorem run_conserves (connectionId : S → String) (arrivals : List (EventChunk S))
    (schedule : List Action) :
    (everywhere (Runs.run (step decode threads) (start connectionId arrivals) schedule)).Perm
      arrivals := by
  apply Runs.run_invariant_always (fun pool => (everywhere pool).Perm arrivals)
  · intro pool action conserved
    exact (step_conserves pool action).trans conserved
  · exact List.Perm.refl _

/-- A single worker moves the chunks along in their order. -/
theorem step_single {pool : Pool S} {arrivals : List (EventChunk S)} (single : threads ≤ 1)
    (action : Action) (in_order : everywhere pool = arrivals)
    (busy : pool.dequeued.length + pool.pushing.length ≤ threads) :
    everywhere (step decode threads pool action) = arrivals ∧
      (step decode threads pool action).dequeued.length +
        (step decode threads pool action).pushing.length ≤ threads := by
  cases action with
  | receive =>
    simp only [step]
    split
    · exact ⟨in_order, busy⟩
    · rename_i chunk rest at_incoming
      refine ⟨?_, busy⟩
      rw [← in_order]
      simp [everywhere, at_incoming]
  | dequeue =>
    simp only [step]
    split
    · exact ⟨in_order, busy⟩
    · rename_i chunk rest at_tasks
      split
      · rename_i idle
        constructor
        · rw [← in_order]
          simp [everywhere, at_tasks]
        · simp only [List.length_append, List.length_singleton]
          omega
      · exact ⟨in_order, busy⟩
  | lock worker =>
    simp only [step]
    split
    · exact ⟨in_order, busy⟩
    · rename_i chunk at_worker
      split
      · exact ⟨in_order, busy⟩
      · obtain ⟨bound, is_chunk⟩ := List.getElem?_eq_some_iff.mp at_worker
        have alone : pool.dequeued.length = 1 ∧ pool.pushing.length = 0 := by omega
        obtain ⟨only, at_dequeued⟩ := List.length_eq_one_iff.mp alone.1
        have none_pushing := List.eq_nil_of_length_eq_zero alone.2
        have first : worker = 0 := by omega
        subst first
        simp only [at_dequeued, List.getElem_cons_zero] at is_chunk
        subst is_chunk
        constructor
        · rw [← in_order]
          simp [everywhere, at_dequeued, none_pushing]
        · simp [at_dequeued, none_pushing]
          omega
  | push worker =>
    simp only [step]
    split
    · exact ⟨in_order, busy⟩
    · rename_i chunk at_worker
      obtain ⟨bound, is_chunk⟩ := List.getElem?_eq_some_iff.mp at_worker
      have alone : pool.pushing.length = 1 ∧ pool.dequeued.length = 0 := by omega
      obtain ⟨only, at_pushing⟩ := List.length_eq_one_iff.mp alone.1
      have first : worker = 0 := by omega
      subst first
      simp only [at_pushing, List.getElem_cons_zero] at is_chunk
      subst is_chunk
      constructor
      · rw [← in_order]
        simp [everywhere, handOver, at_pushing]
      · simp [handOver, at_pushing]
        omega

theorem run_single (single : threads ≤ 1) (connectionId : S → String)
    (arrivals : List (EventChunk S)) (schedule : List Action) :
    everywhere (Runs.run (step decode threads) (start connectionId arrivals) schedule) =
      arrivals := by
  suffices kept : everywhere (Runs.run (step decode threads) (start connectionId arrivals)
      schedule) = arrivals ∧
      (Runs.run (step decode threads) (start connectionId arrivals) schedule).dequeued.length +
      (Runs.run (step decode threads) (start connectionId arrivals) schedule).pushing.length ≤
        threads from kept.1
  apply Runs.run_invariant_always fun pool : Pool S => everywhere pool = arrivals ∧
    pool.dequeued.length + pool.pushing.length ≤ threads
  · intro pool action kept
    exact step_single single action kept.1 kept.2
  · exact ⟨rfl, Nat.zero_le threads⟩

/-! What the dispatchers did -/

/-- Every dispatcher is where its chunks took it. -/
def Tracked (decode : Bytes → Except String AgentEvent) (initial : S → Dispatcher)
    (pool : Pool S) : Prop :=
  ∀ s, receiveChunks decode (initial s) (chunksOf s pool.handed) =
    (pool.dispatchers s, pool.handled s)

theorem handOver_tracked {initial : S → Dispatcher} {pool : Pool S} {chunk : EventChunk S}
    (worker : Nat) (tracked : Tracked decode initial pool) :
    Tracked decode initial (handOver decode pool worker chunk) := by
  intro s
  simp only [handOver, chunksOf_append]
  rw [receiveChunks_append, tracked s]
  by_cases same : s = chunk.stream
  · subst same
    simp only [chunksOf_singleton, receiveChunks, Function.update_self, List.append_nil]
  · rw [chunksOf_other fun back => same back.symm]
    simp only [receiveChunks, Function.update_of_ne same, List.append_nil]

theorem step_tracked {initial : S → Dispatcher} (pool : Pool S) (action : Action)
    (tracked : Tracked decode initial pool) :
    Tracked decode initial (step decode threads pool action) := by
  cases action with
  | receive =>
    simp only [step]
    split <;> exact tracked
  | dequeue =>
    simp only [step]
    split
    · exact tracked
    · split <;> exact tracked
  | lock worker =>
    simp only [step]
    split
    · exact tracked
    · split <;> exact tracked
  | push worker =>
    simp only [step]
    split
    · exact tracked
    · exact handOver_tracked worker tracked

theorem run_tracked (connectionId : S → String) (arrivals : List (EventChunk S))
    (schedule : List Action) :
    Tracked decode (start connectionId arrivals).dispatchers
      (Runs.run (step decode threads) (start connectionId arrivals) schedule) := by
  apply Runs.run_invariant_always _ (fun pool action tracked => step_tracked pool action tracked)
  intro s
  rfl

omit [DecidableEq S] in
theorem everywhere_of_drained {pool : Pool S} (drained : Drained pool) :
    everywhere pool = pool.handed := by
  simp [everywhere, drained.incoming, drained.tasks, drained.dequeued, drained.pushing]

/-- It is enough that the chunks of every stream, wherever they are, are in order. -/
theorem inArrivalOrder_of_everywhere {connectionId : S → String}
    {arrivals : List (EventChunk S)} {pool : Pool S}
    (tracked : Tracked decode (start connectionId arrivals).dispatchers pool)
    (same : ∀ s, chunksOf s (everywhere pool) = chunksOf s arrivals) :
    InArrivalOrder decode connectionId arrivals pool := by
  have complete : Drained pool → ∀ s, chunksOf s pool.handed = chunksOf s arrivals := by
    intro drained s
    rw [← same s, everywhere_of_drained drained]
  refine ⟨?_, complete, ?_⟩
  · intro s
    rw [← same s]
    unfold everywhere
    rw [chunksOf_append]
    exact List.prefix_append _ _
  · intro drained s events decoded
    have fresh : Settled ((start connectionId arrivals).dispatchers s).decoder := rfl
    have in_order := receiveChunks_events fresh decoded
    rw [← complete drained s, tracked s] at in_order
    exact in_order

theorem same_of_uniform {first second : List Bytes} (same : first.Perm second)
    (uniform : ∀ x ∈ second, ∀ y ∈ second, x = y) : first = second := by
  cases second with
  | nil => exact same.eq_nil
  | cons x rest =>
    have all_x : x :: rest = List.replicate (x :: rest).length x :=
      List.eq_replicate_length.mpr fun y member => uniform y member x (by simp)
    rw [all_x] at same ⊢
    exact List.perm_replicate.mp same

/-! Overtaking -/

/-- Between two tasks: some workers hold tasks, and no other one is under way. -/
structure Between (pool : Pool S) (handed held incoming : List (EventChunk S)) : Prop where
  tasks : pool.tasks = []
  pushing : pool.pushing = []
  dequeued : pool.dequeued = held
  handed : pool.handed = handed
  incoming : pool.incoming = incoming

/-- The next chunk passes the held ones. -/
def passOne (held : Nat) : List Action := [.receive, .dequeue, .lock held, .push 0]

variable (decode) in
theorem between_passOne {pool : Pool S} {handed held rest : List (EventChunk S)}
    {chunk : EventChunk S} (between : Between pool handed held (chunk :: rest))
    (idle : held.length < threads) :
    Between (Runs.run (step decode threads) pool (passOne held.length)) (handed ++ [chunk]) held
      rest := by
  obtain ⟨incoming, tasks, dequeued, pushing, done, dispatchers, handled⟩ := pool
  obtain ⟨rfl, rfl, rfl, rfl, rfl⟩ := between
  have removed : (dequeued ++ [chunk]).eraseIdx dequeued.length = dequeued := by
    rw [List.eraseIdx_append_of_length_le (Nat.le_refl _)]
    simp
  constructor <;> simp [passOne, step, handOver, idle, removed]

variable (decode) in
theorem between_passAll {pool : Pool S} {handed held rest : List (EventChunk S)}
    (passing : List (EventChunk S)) (between : Between pool handed held (passing ++ rest))
    (idle : held.length < threads) :
    ∃ schedule, Between (Runs.run (step decode threads) pool schedule) (handed ++ passing) held
      rest := by
  induction passing generalizing pool handed with
  | nil => exact ⟨[], by simpa using between⟩
  | cons chunk passing ih =>
    obtain ⟨schedule, passed⟩ := ih (between_passOne decode between idle)
    refine ⟨passOne held.length ++ schedule, ?_⟩
    rw [Runs.run_append]
    simpa using passed

variable (decode) in
/-- A worker takes the next chunk and stops in front of the mutex. -/
theorem between_hold {pool : Pool S} {handed rest : List (EventChunk S)} {chunk : EventChunk S}
    (between : Between pool handed [] (chunk :: rest)) (idle : 0 < threads) :
    Between (Runs.run (step decode threads) pool [.receive, .dequeue]) handed [chunk] rest := by
  obtain ⟨incoming, tasks, dequeued, pushing, done, dispatchers, handled⟩ := pool
  obtain ⟨rfl, rfl, rfl, rfl, rfl⟩ := between
  constructor <;> simp [step, idle]

variable (decode) in
/-- With two workers the chunks after one can all be handed over before it. -/
theorem overtaking_schedule (several : 2 ≤ threads) (connectionId : S → String)
    (early : List (EventChunk S)) (chunk : EventChunk S) (passing rest : List (EventChunk S)) :
    ∃ schedule, (Runs.run (step decode threads)
      (start connectionId (early ++ chunk :: (passing ++ rest))) schedule).handed =
        early ++ passing := by
  have first : Between (start connectionId (early ++ chunk :: (passing ++ rest))) [] []
      (early ++ chunk :: (passing ++ rest)) := ⟨rfl, rfl, rfl, rfl, rfl⟩
  obtain ⟨schedule₁, arrived⟩ := between_passAll decode early first
    (show [].length < threads by simp; omega)
  have held := between_hold decode arrived (show 0 < threads by omega)
  obtain ⟨schedule₂, passed⟩ := between_passAll decode passing held
    (show [chunk].length < threads by simp; omega)
  refine ⟨schedule₁ ++ ([.receive, .dequeue] ++ schedule₂), ?_⟩
  rw [Runs.run_append, Runs.run_append, passed.handed]
  simp

/-- An order in which the held chunk comes after the others shows, unless they are equal. -/
theorem equal_of_prefix {first last : Bytes} {passed later : List Bytes}
    (kept : passed ++ [last] <+: first :: (passed ++ last :: later)) : first = last := by
  have front : passed ++ [last] = first :: passed := by
    have longer : first :: passed <+: first :: (passed ++ last :: later) := by
      rw [List.cons_prefix_cons]
      exact ⟨rfl, List.prefix_append _ _⟩
    have same_length : (passed ++ [last]).length = (first :: passed).length := by simp
    exact (List.prefix_of_prefix_length_le kept longer (by omega)).eq_of_length same_length
  have same : (last :: passed).Perm (first :: passed) := by
    rw [← front]
    exact (List.perm_append_singleton last passed).symm
  have counts := same.count_eq last
  by_contra other
  simp only [List.count_cons_self, List.count_cons_of_ne other] at counts
  omega

/-- Two chunks of one stream in a run where nothing is ever out of order are equal. -/
theorem equal_of_never_overtaken (several : 2 ≤ threads) {connectionId : S → String}
    {early passing rest : List (EventChunk S)} {first last : EventChunk S}
    (same_stream : last.stream = first.stream)
    (ordered : ∀ schedule, InArrivalOrder decode connectionId
      (early ++ first :: (passing ++ last :: rest))
      (Runs.run (step decode threads)
        (start connectionId (early ++ first :: (passing ++ last :: rest))) schedule)) :
    first.bytes = last.bytes := by
  obtain ⟨schedule, handed⟩ := overtaking_schedule decode several connectionId early
    first (passing ++ [last]) rest
  have split : passing ++ [last] ++ rest = passing ++ last :: rest := by simp
  rw [split] at handed
  have kept := (ordered schedule).order first.stream
  have at_first : chunksOf first.stream (first :: (passing ++ last :: rest)) =
      first.bytes :: (chunksOf first.stream passing ++
        last.bytes :: chunksOf first.stream rest) := by
    simp [chunksOf, same_stream]
  have at_passed : chunksOf first.stream (passing ++ [last]) =
      chunksOf first.stream passing ++ [last.bytes] := by
    simp [chunksOf, same_stream]
  rw [handed, chunksOf_append, at_passed, chunksOf_append, at_first,
    List.prefix_append_right_inj] at kept
  exact equal_of_prefix kept

theorem uniform_of_ordered (several : 2 ≤ threads) {connectionId : S → String}
    {arrivals : List (EventChunk S)}
    (ordered : ∀ schedule, InArrivalOrder decode connectionId arrivals
      (Runs.run (step decode threads) (start connectionId arrivals) schedule)) :
    Uniform arrivals := by
  have earlier_equal : ∀ early (first : EventChunk S) later, arrivals = early ++ first :: later →
      ∀ last ∈ later, last.stream = first.stream → first.bytes = last.bytes := by
    intro early first later split last member same_stream
    obtain ⟨passing, rest, rfl⟩ := List.append_of_mem member
    subst split
    exact equal_of_never_overtaken several same_stream ordered
  intro s x at_x y at_y
  obtain ⟨first, first_member, rfl⟩ := List.mem_map.mp at_x
  obtain ⟨last, last_member, rfl⟩ := List.mem_map.mp at_y
  obtain ⟨first_in, first_stream⟩ := List.mem_filter.mp first_member
  obtain ⟨last_in, last_stream⟩ := List.mem_filter.mp last_member
  have same_stream : first.stream = last.stream :=
    (of_decide_eq_true first_stream).trans (of_decide_eq_true last_stream).symm
  obtain ⟨early, later, split⟩ := List.append_of_mem first_in
  rw [split] at last_in
  rcases List.mem_append.mp last_in with before | here
  · obtain ⟨early', between, split'⟩ := List.append_of_mem before
    refine (earlier_equal early' last (between ++ first :: later) ?_ first (by simp)
      same_stream).symm
    rw [split, split']
    simp
  · rcases List.mem_cons.mp here with rfl | after
    · rfl
    · exact earlier_equal early first later split last after same_stream.symm

end Order

/-- A payload of one byte stands for a heartbeat. -/
def decodeByte : Bytes → Except String AgentEvent
  | [_] => .ok (.heartbeat {
      protocolVersion := protocolVersion
      requestId := "request-1"
      agentId := "agent-1"
      occurredAt := "2026-03-01T12:00:00Z"
      agentVersion := "1.0" })
  | _ => .error "failed to parse AgentEvent"

/-- A frame of one byte, cut after its length. -/
def cutFrame : List (EventChunk Unit) := [⟨(), [0, 0, 0, 1]⟩, ⟨(), [7]⟩]

end WorkerPool
