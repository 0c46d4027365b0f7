import ZFleet.Foundations.Runs
import ZFleet.Server.EventChunks

/-!
The response of one request on the events path. Chunks become jobs of the worker pool,
completions come back in any order, and the end of the stream may come before or after
them. The stream answers once nothing is pending, with 200 unless an error was noted.
-/
namespace EventResponse
open FrameCodec Message Transactions Schema ControlService ControlDispatcher

def kControlEventsPath : String := "/v1/control/events"

/-- A request that does not open the command stream. Its body comes in chunks; a request
    that ends with its headers has none. -/
structure Request where
  method : String
  path : String
  endsWithHeaders : Bool
  chunks : List Bytes
  headersOnly : endsWithHeaders = true → chunks = []
  notCommands : ¬ (method = "GET" ∧ endsWithHeaders = true)

def Request.toEvents (request : Request) : Bool :=
  request.method = "POST" && request.path = kControlEventsPath

inductive ResponseStatus where
  | ok
  | badRequest
  deriving DecidableEq, Repr

structure StreamState where
  pendingEventChunks : Nat := 0
  hasError : Bool := false
  endStreamReceived : Bool := false
  responseSubmitted : Bool := false
  deriving DecidableEq, Repr

/-- What the control service answers when its turn comes. Other jobs may have changed the
    store since the last event, so every event has a store and an environment of its own. -/
abbrev Moment := Environment × Session Store

def answer (moment : Moment) (event : AgentEvent) : ControlEventResult :=
  match (handleAgentEvent moment.1 event moment.2).1 with
  | .ok result => result
  | .error _ => internalError

/-- A job ends with its results or with what it threw. -/
abbrev Outcome := Except String (List ControlEventResult)

structure Server where
  /-- Whether the headers are still to come, which chunks, and the end of the stream. -/
  headersDue : Bool
  incoming : List Bytes
  endDue : Bool
  stream : Option StreamState
  stopping : Bool
  tasks : List Bytes
  /-- The jobs that a worker has taken and that wait for the dispatcher mutex. -/
  dequeued : List Bytes
  completions : List Outcome
  dispatcher : Dispatcher
  responses : List ResponseStatus
  /-- What has happened: the outcomes of the jobs, the chunks that were pushed, and the
      events that were handled with the answers. -/
  outcomes : List Outcome
  handed : List Bytes
  log : List (AgentEvent × ControlEventResult)

inductive Action where
  | headers
  | data
  | endOfData
  | dequeue
  | push (worker : Nat) (moments : Nat → Moment)
  | throw (worker : Nat) (message : String)
  | complete (index : Nat)
  | stop
  | close

def start (connectionId : String) (request : Request) : Server where
  headersDue := true
  incoming := request.chunks
  endDue := !request.endsWithHeaders
  stream := none
  stopping := false
  tasks := []
  dequeued := []
  completions := []
  dispatcher := newDispatcher connectionId
  responses := []
  outcomes := []
  handed := []
  log := []

def responseFor (stream : StreamState) : ResponseStatus :=
  if stream.hasError then .badRequest else .ok

/-- Store the stream, and answer when it has ended and nothing is pending. -/
def trySubmitEventResponse (server : Server) (stream : StreamState) : Server :=
  if stream.responseSubmitted || !stream.endStreamReceived || stream.pendingEventChunks ≠ 0 then
    { server with stream := some stream }
  else
    { server with
      stream := some { stream with responseSubmitted := true }
      responses := server.responses ++ [responseFor stream] }

/-- The headers of the request. A request that ends with them is answered at once. -/
def onHeaders (request : Request) (server : Server) : Server :=
  { server with
    headersDue := false
    stream := some { }
    responses := if request.endsWithHeaders then server.responses ++ [responseFor { }]
      else server.responses }

/-- The pool takes the job, or posts a completion with an error when it is stopping. -/
def onDataChunkRecv (request : Request) (server : Server) (stream : StreamState) (bytes : Bytes) :
    Server :=
  if request.toEvents = false then { server with stream := some { stream with hasError := true } }
  else if server.stopping then
    trySubmitEventResponse
      { server with
        completions := server.completions ++ [.error "http2 control worker pool is stopped"] }
      { stream with hasError := true }
  else
    { server with
      stream := some { stream with pendingEventChunks := stream.pendingEventChunks + 1 }
      tasks := server.tasks ++ [bytes] }

def refused (outcome : Outcome) : Bool :=
  match outcome with
  | .error _ => true
  | .ok results => results.any fun result => result.status ≠ .accepted

def onCompletion (server : Server) (stream : StreamState) (outcome : Outcome) : Server :=
  trySubmitEventResponse server { stream with
    pendingEventChunks := stream.pendingEventChunks - 1
    hasError := stream.hasError || refused outcome }

/-- The events of a pushed chunk with the answers they get. -/
def handledLog (moments : Nat → Moment) (events : List AgentEvent) :
    List (AgentEvent × ControlEventResult) :=
  events.mapIdx fun n event => (event, answer (moments n) event)

/-- What pushing a chunk returns. -/
def pushResults (decoded : Except String (List AgentEvent)) (moments : Nat → Moment) :
    List ControlEventResult :=
  match decoded with
  | .error message => [invalidArgument message]
  | .ok events => (handledLog moments events).map Prod.snd

/-! The results of a push are those of the dispatcher on its store, where the moments are the
stores between its events. -/

theorem handleEvents_log (env : Nat → Environment) (connectionId : String) (n : Nat)
    (events : List AgentEvent) (registry : ConnectionRegistry.Registry) (s : Session Store) :
    ∃ moments registry' s', handleEvents env connectionId n events registry s =
      (.ok (registry', (handledLog moments events).map Prod.snd), s') := by
  induction events generalizing n registry s with
  | nil => exact ⟨fun _ => (env n, s), registry, s, rfl⟩
  | cons event events ih =>
    obtain ⟨result, middle, handled⟩ := handleAgentEvent_returns (env n) event s
    obtain ⟨moments, registry', s', later⟩ := ih (n + 1)
      (if result.status = .accepted then recordAcceptedEvent connectionId registry event
        else registry) middle
    have answered : answer (env n, s) event = result := by
      unfold answer
      simp only [handled]
    refine ⟨fun k => Nat.casesOn k (env n, s) moments, registry', s', ?_⟩
    unfold handleEvents
    rw [bind_of_ok handled, bind_of_ok later]
    simp [handledLog, List.mapIdx_cons, answered]
    rfl

theorem pushEventBytes_results (decode : Bytes → Except String AgentEvent)
    (env : Nat → Environment) (dispatcher : Dispatcher) (bytes : Bytes)
    (registry : ConnectionRegistry.Registry) (s : Session Store) :
    ∃ moments registry' s', pushEventBytes decode env dispatcher bytes registry s =
      (.ok ((decodeEvents decode dispatcher bytes).1, registry',
        pushResults (decodeEvents decode dispatcher bytes).2 moments), s') := by
  unfold pushEventBytes
  cases decoded : decodeEvents decode dispatcher bytes with
  | mk dispatcher' outcome =>
    cases outcome with
    | error message => exact ⟨fun n => (env n, s), registry, s, rfl⟩
    | ok events =>
      obtain ⟨moments, registry', s', handled⟩ :=
        handleEvents_log env dispatcher.connectionId 0 events registry s
      refine ⟨moments, registry', s', ?_⟩
      simp only
      rw [bind_of_ok handled]
      rfl

section Machine
variable (decode : Bytes → Except String AgentEvent) (request : Request)

/-- A worker that has the dispatcher mutex pushes its chunk and posts the results. -/
def pushChunk (server : Server) (moments : Nat → Moment) (chunk : Bytes) : Server :=
  let decoded := decodeEvents decode server.dispatcher chunk
  { server with
    completions := server.completions ++ [.ok (pushResults decoded.2 moments)]
    dispatcher := decoded.1
    outcomes := server.outcomes ++ [.ok (pushResults decoded.2 moments)]
    handed := server.handed ++ [chunk]
    log := server.log ++ handledLog moments (handledEvents decoded.2) }

/-- An action that is not possible leaves the server as it is, and so do callbacks on a
    stream that is closed. -/
def step (server : Server) : Action → Server
  | .headers => if server.headersDue then onHeaders request server else server
  | .data =>
    match server.headersDue, server.incoming with
    | false, chunk :: rest =>
      match server.stream with
      | none => { server with incoming := rest }
      | some stream => onDataChunkRecv request { server with incoming := rest } stream chunk
    | _, _ => server
  | .endOfData =>
    match server.headersDue, server.incoming, server.endDue with
    | false, [], true =>
      match server.stream with
      | none => { server with endDue := false }
      | some stream =>
        trySubmitEventResponse { server with endDue := false }
          { stream with endStreamReceived := true }
    | _, _, _ => server
  | .dequeue =>
    match server.tasks with
    | [] => server
    | chunk :: rest => { server with tasks := rest, dequeued := server.dequeued ++ [chunk] }
  | .push worker moments =>
    match server.dequeued[worker]? with
    | none => server
    | some chunk =>
      pushChunk decode { server with dequeued := server.dequeued.eraseIdx worker } moments chunk
  | .throw worker message =>
    match server.dequeued[worker]? with
    | none => server
    | some _ =>
      { server with
        dequeued := server.dequeued.eraseIdx worker
        completions := server.completions ++ [.error message]
        outcomes := server.outcomes ++ [.error message] }
  | .complete index =>
    match server.completions[index]? with
    | none => server
    | some outcome =>
      match server.stream with
      | none => { server with completions := server.completions.eraseIdx index }
      | some stream =>
        onCompletion { server with completions := server.completions.eraseIdx index } stream
          outcome
  | .stop => { server with stopping := true }
  | .close => if server.headersDue then server else { server with stream := none }

end Machine

/-! One response -/

/-- The stream is gone, has its response, or can get none any more. -/
def Silenced (server : Server) (stream : StreamState) : Prop :=
  stream.responseSubmitted = true ∨ (server.endDue = false ∧ stream.endStreamReceived = false)

def Silent (server : Server) : Prop :=
  server.headersDue = false ∧ ∀ stream, server.stream = some stream → Silenced server stream

/-- The books of a stream without error: every job is under way, or was completed
    without a refusal. -/
structure Accounts (request : Request) (server : Server) (stream : StreamState) : Prop where
  pending : stream.pendingEventChunks =
    server.tasks.length + server.dequeued.length + server.completions.length
  unsettled : ∀ outcome ∈ server.outcomes, outcome ∈ server.completions ∨ refused outcome = false
  count : server.outcomes.length + server.tasks.length + server.dequeued.length +
    server.incoming.length = request.chunks.length
  events : server.incoming.length < request.chunks.length → request.toEvents = true

structure Opened (request : Request) (server : Server) (stream : StreamState) : Prop where
  due : server.headersDue = false
  unsubmitted : stream.responseSubmitted = false
  unanswered : server.responses = []
  ended : stream.endStreamReceived = true → server.incoming = []
  accounts : stream.hasError = false → Accounts request server stream

/-- No job is left, and none was refused. -/
structure AllDone (request : Request) (server : Server) : Prop where
  incoming : server.incoming = []
  tasks : server.tasks = []
  dequeued : server.dequeued = []
  completions : server.completions = []
  clean : ∀ outcome ∈ server.outcomes, refused outcome = false
  count : server.outcomes.length = request.chunks.length
  events : request.chunks ≠ [] → request.toEvents = true

inductive Kept (connectionId : String) (request : Request) (server : Server) : Prop where
  | waiting (stopping : Bool)
      (same : server = { start connectionId request with stopping := stopping })
  | opened (stream : StreamState) (present : server.stream = some stream)
      (opened : Opened request server stream)
  | silent (silent : Silent server) (one : server.responses.length ≤ 1)
      (done : .ok ∈ server.responses → AllDone request server)

variable {decode : Bytes → Except String AgentEvent} {request : Request} {connectionId : String}

theorem trySubmit_silenced {server : Server} {stream : StreamState}
    (silenced : Silenced server stream) :
    trySubmitEventResponse server stream = { server with stream := some stream } := by
  unfold trySubmitEventResponse
  rcases silenced with submitted | ⟨-, unended⟩
  · simp [submitted]
  · simp [unended]

theorem keep_trySubmit {server : Server} {stream : StreamState}
    (opened : Opened request server stream) :
    Kept connectionId request (trySubmitEventResponse server stream) := by
  unfold trySubmitEventResponse
  split
  · exact .opened stream rfl ⟨opened.due, opened.unsubmitted, opened.unanswered, opened.ended,
      fun clean => ⟨(opened.accounts clean).pending, (opened.accounts clean).unsettled,
        (opened.accounts clean).count, (opened.accounts clean).events⟩⟩
  · rename_i ready
    simp only [Bool.or_eq_true, Bool.not_eq_true', decide_eq_true_eq, not_or, Bool.not_eq_true,
      Bool.not_eq_false, Decidable.not_not] at ready
    obtain ⟨⟨-, ended⟩, drained⟩ := ready
    refine .silent ⟨opened.due, ?_⟩ ?_ ?_
    · intro other same
      cases same
      exact .inl rfl
    · simp [opened.unanswered]
    · intro answered
      simp only [opened.unanswered, List.nil_append, List.mem_singleton] at answered
      have clean : stream.hasError = false := by
        by_contra failed
        simp [responseFor, failed] at answered
      have accounts := opened.accounts clean
      have all_done := accounts.pending
      rw [drained] at all_done
      have no_tasks : server.tasks = [] := List.eq_nil_of_length_eq_zero (by omega)
      have no_dequeued : server.dequeued = [] := List.eq_nil_of_length_eq_zero (by omega)
      have no_completions : server.completions = [] := List.eq_nil_of_length_eq_zero (by omega)
      have no_incoming := opened.ended ended
      have count := accounts.count
      rw [no_tasks, no_dequeued, no_incoming] at count
      refine ⟨no_incoming, no_tasks, no_dequeued, no_completions, ?_, by simpa using count, ?_⟩
      · intro outcome member
        rcases accounts.unsettled outcome member with waiting | fine
        · rw [no_completions] at waiting
          cases waiting
        · exact fine
      · intro some_chunk
        apply accounts.events
        rw [no_incoming]
        exact List.length_pos_iff.mpr some_chunk

/-- What one action can do. -/
inductive Moves (decode : Bytes → Except String AgentEvent) (request : Request)
    (server : Server) : Server → Prop where
  | idle : Moves decode request server server
  | headers (due : server.headersDue = true) :
      Moves decode request server (onHeaders request server)
  | missed {chunk : Bytes} {rest : List Bytes} (due : server.headersDue = false)
      (coming : server.incoming = chunk :: rest) (gone : server.stream = none) :
      Moves decode request server { server with incoming := rest }
  | data {chunk : Bytes} {rest : List Bytes} {stream : StreamState}
      (due : server.headersDue = false) (coming : server.incoming = chunk :: rest)
      (present : server.stream = some stream) :
      Moves decode request server
        (onDataChunkRecv request { server with incoming := rest } stream chunk)
  | endMissed (due : server.headersDue = false) (gone : server.stream = none) :
      Moves decode request server { server with endDue := false }
  | ended {stream : StreamState} (due : server.headersDue = false)
      (all_here : server.incoming = []) (ending : server.endDue = true)
      (present : server.stream = some stream) :
      Moves decode request server (trySubmitEventResponse { server with endDue := false }
        { stream with endStreamReceived := true })
  | dequeue {chunk : Bytes} {rest : List Bytes} (queued : server.tasks = chunk :: rest) :
      Moves decode request server
        { server with tasks := rest, dequeued := server.dequeued ++ [chunk] }
  | push {worker : Nat} {chunk : Bytes} (moments : Nat → Moment)
      (held : server.dequeued[worker]? = some chunk) :
      Moves decode request server (pushChunk decode
        { server with dequeued := server.dequeued.eraseIdx worker } moments chunk)
  | throw {worker : Nat} {chunk : Bytes} (message : String)
      (held : server.dequeued[worker]? = some chunk) :
      Moves decode request server { server with
        dequeued := server.dequeued.eraseIdx worker
        completions := server.completions ++ [.error message]
        outcomes := server.outcomes ++ [.error message] }
  | completeMissed {index : Nat} {outcome : Outcome}
      (posted : server.completions[index]? = some outcome) (gone : server.stream = none) :
      Moves decode request server
        { server with completions := server.completions.eraseIdx index }
  | complete {index : Nat} {outcome : Outcome} {stream : StreamState}
      (posted : server.completions[index]? = some outcome)
      (present : server.stream = some stream) :
      Moves decode request server (onCompletion
        { server with completions := server.completions.eraseIdx index } stream outcome)
  | stop : Moves decode request server { server with stopping := true }
  | close (due : server.headersDue = false) :
      Moves decode request server { server with stream := none }

theorem step_moves (server : Server) (action : Action) :
    Moves decode request server (step decode request server action) := by
  obtain ⟨headersDue, incoming, endDue, stream, stopping, tasks, dequeued, completions, dispatcher,
    responses, outcomes, handed, log⟩ := server
  cases action with
  | headers =>
    cases headersDue with
    | false => exact .idle
    | true => exact .headers rfl
  | data =>
    cases headersDue with
    | true => exact .idle
    | false =>
      cases incoming with
      | nil => exact .idle
      | cons chunk rest =>
        cases stream with
        | none => exact .missed rfl rfl rfl
        | some stream => exact .data rfl rfl rfl
  | endOfData =>
    cases headersDue with
    | true => exact .idle
    | false =>
      cases incoming with
      | cons chunk rest => exact .idle
      | nil =>
        cases endDue with
        | false => exact .idle
        | true =>
          cases stream with
          | none => exact .endMissed rfl rfl
          | some stream => exact .ended rfl rfl rfl rfl
  | dequeue =>
    cases tasks with
    | nil => exact .idle
    | cons chunk rest => exact .dequeue rfl
  | push worker moments =>
    cases held : dequeued[worker]? with
    | none =>
      simp only [step, held]
      exact .idle
    | some chunk =>
      simp only [step, held]
      exact .push moments held
  | throw worker message =>
    cases held : dequeued[worker]? with
    | none =>
      simp only [step, held]
      exact .idle
    | some chunk =>
      simp only [step, held]
      exact .throw message held
  | complete index =>
    cases posted : completions[index]? with
    | none =>
      simp only [step, posted]
      exact .idle
    | some outcome =>
      simp only [step, posted]
      cases stream with
      | none => exact .completeMissed posted rfl
      | some stream => exact .complete posted rfl
  | stop => exact .stop
  | close =>
    cases headersDue with
    | true => exact .idle
    | false => exact .close rfl

theorem silent_of_stream {server : Server} {stream : StreamState}
    (due : server.headersDue = false) (present : server.stream = some stream)
    (silenced : Silenced server stream) : Silent server := by
  refine ⟨due, ?_⟩
  intro other same
  rw [present] at same
  cases same
  exact silenced

theorem silent_gone {server : Server} (due : server.headersDue = false)
    (gone : server.stream = none) : Silent server := by
  refine ⟨due, ?_⟩
  intro stream same
  rw [gone] at same
  cases same

theorem silent_trySubmit {server : Server} {stream : StreamState}
    (due : server.headersDue = false) (silenced : Silenced server stream) :
    Silent (trySubmitEventResponse server stream) ∧
      (trySubmitEventResponse server stream).responses = server.responses := by
  rw [trySubmit_silenced silenced]
  exact ⟨silent_of_stream due rfl silenced, rfl⟩

/-- A silent stream stays silent. -/
theorem silent_moves {server server' : Server} (silent : Silent server)
    (moves : Moves decode request server server') :
    Silent server' ∧ server'.responses = server.responses := by
  obtain ⟨due, silenced⟩ := silent
  cases moves with
  | idle => exact ⟨⟨due, silenced⟩, rfl⟩
  | headers still_due =>
    rw [due] at still_due
    cases still_due
  | missed due coming gone => exact ⟨silent_gone due gone, rfl⟩
  | @data chunk rest stream due coming present =>
    have quiet := silenced stream present
    unfold onDataChunkRecv
    split
    · exact ⟨silent_of_stream due rfl quiet, rfl⟩
    · split
      · exact silent_trySubmit due quiet
      · exact ⟨silent_of_stream due rfl quiet, rfl⟩
  | endMissed due gone => exact ⟨silent_gone due gone, rfl⟩
  | @ended stream due all_here ending present =>
    rcases silenced stream present with submitted | ⟨ended, -⟩
    · exact silent_trySubmit due (.inl submitted)
    · rw [ending] at ended
      cases ended
  | dequeue queued => exact ⟨⟨due, silenced⟩, rfl⟩
  | push moments held => exact ⟨⟨due, silenced⟩, rfl⟩
  | throw message held => exact ⟨⟨due, silenced⟩, rfl⟩
  | completeMissed posted gone => exact ⟨⟨due, silenced⟩, rfl⟩
  | @complete index outcome stream posted present =>
    have quiet := silenced stream present
    exact silent_trySubmit due quiet
  | stop => exact ⟨⟨due, silenced⟩, rfl⟩
  | close due => exact ⟨silent_gone due rfl, rfl⟩

/-- Nothing is handled any more when no job is left. -/
theorem allDone_moves {server server' : Server} (done : AllDone request server)
    (due : server.headersDue = false) (moves : Moves decode request server server') :
    AllDone request server' := by
  obtain ⟨incoming, tasks, dequeued, completions, clean, count, events⟩ := done
  cases moves with
  | idle => exact ⟨incoming, tasks, dequeued, completions, clean, count, events⟩
  | headers still_due =>
    rw [due] at still_due
    cases still_due
  | missed due coming gone =>
    rw [incoming] at coming
    cases coming
  | data due coming present =>
    rw [incoming] at coming
    cases coming
  | endMissed due gone => exact ⟨incoming, tasks, dequeued, completions, clean, count, events⟩
  | ended due all_here ending present =>
    unfold trySubmitEventResponse
    split
    · exact ⟨incoming, tasks, dequeued, completions, clean, count, events⟩
    · exact ⟨incoming, tasks, dequeued, completions, clean, count, events⟩
  | dequeue queued =>
    rw [tasks] at queued
    cases queued
  | push moments held =>
    rw [dequeued] at held
    cases held
  | throw message held =>
    rw [dequeued] at held
    cases held
  | completeMissed posted gone =>
    rw [completions] at posted
    cases posted
  | complete posted present =>
    rw [completions] at posted
    cases posted
  | stop => exact ⟨incoming, tasks, dequeued, completions, clean, count, events⟩
  | close due => exact ⟨incoming, tasks, dequeued, completions, clean, count, events⟩

theorem length_of_getElem? {α : Type} {xs : List α} {i : Nat} {x : α} (found : xs[i]? = some x) :
    (xs.eraseIdx i).length + 1 = xs.length := by
  have bound := (List.getElem?_eq_some_iff.mp found).1
  rw [List.length_eraseIdx_of_lt bound]
  omega

theorem mem_eraseIdx_or {α : Type} {xs : List α} {i : Nat} {x y : α} (found : xs[i]? = some x)
    (member : y ∈ xs) : y ∈ xs.eraseIdx i ∨ y = x := by
  obtain ⟨bound, here⟩ := List.getElem?_eq_some_iff.mp found
  obtain ⟨j, small, there⟩ := List.mem_iff_getElem.mp member
  by_cases same : j = i
  · right
    subst same
    rw [← here, there]
  · left
    exact List.mem_eraseIdx_iff_getElem.mpr ⟨j, small, same, there⟩

/-- A job that ends posts its outcome. -/
theorem accounts_job {server : Server} {stream : StreamState}
    (accounts : Accounts request server stream) {worker : Nat} {chunk : Bytes}
    (held : server.dequeued[worker]? = some chunk) (outcome : Outcome) {dispatcher : Dispatcher}
    {handed : List Bytes} {log : List (AgentEvent × ControlEventResult)} :
    Accounts request { server with
      dequeued := server.dequeued.eraseIdx worker
      completions := server.completions ++ [outcome]
      dispatcher := dispatcher
      outcomes := server.outcomes ++ [outcome]
      handed := handed
      log := log } stream := by
  obtain ⟨pending, unsettled, count, events⟩ := accounts
  have one_less := length_of_getElem? held
  refine ⟨?_, ?_, ?_, events⟩
  · simp only [List.length_append, List.length_singleton]
    omega
  · intro other member
    rcases List.mem_append.mp member with early | new
    · rcases unsettled other early with waiting | fine
      · exact .inl (List.mem_append_left _ waiting)
      · exact .inr fine
    · exact .inl (List.mem_append_right _ new)
  · simp only [List.length_append, List.length_singleton]
    omega

theorem kept_data {server : Server} {stream : StreamState} {chunk : Bytes} {rest : List Bytes}
    (opened : Opened request server stream) (coming : server.incoming = chunk :: rest) :
    Kept connectionId request
      (onDataChunkRecv request { server with incoming := rest } stream chunk) := by
  have unended : stream.endStreamReceived = true → rest = [] := by
    intro ended
    have nothing := opened.ended ended
    rw [coming] at nothing
    cases nothing
  have failing : ∀ (noted : Option StreamState) (completions : List Outcome), Opened request
      { server with
        incoming := rest
        stream := noted
        completions := completions }
      { stream with hasError := true } := by
    intro noted completions
    exact ⟨opened.due, opened.unsubmitted, opened.unanswered, unended, fun clean => by cases clean⟩
  unfold onDataChunkRecv
  split
  · exact .opened _ rfl (failing _ server.completions)
  · rename_i to_events
    split
    · exact keep_trySubmit (failing _ _)
    · refine .opened _ rfl ⟨opened.due, opened.unsubmitted, opened.unanswered, unended, ?_⟩
      intro clean
      obtain ⟨pending, unsettled, count, events⟩ := opened.accounts clean
      rw [coming, List.length_cons] at count
      refine ⟨?_, unsettled, ?_, fun _ => by simpa using to_events⟩
      · simp only [List.length_append, List.length_singleton]
        omega
      · simp only [List.length_append, List.length_singleton]
        omega

theorem kept_complete {server : Server} {stream : StreamState} {index : Nat} {outcome : Outcome}
    (opened : Opened request server stream)
    (posted : server.completions[index]? = some outcome) :
    Kept connectionId request (onCompletion
      { server with completions := server.completions.eraseIdx index } stream outcome) := by
  apply keep_trySubmit
  refine ⟨opened.due, opened.unsubmitted, opened.unanswered, opened.ended, ?_⟩
  intro clean
  simp only [Bool.or_eq_false_iff] at clean
  obtain ⟨pending, unsettled, count, events⟩ := opened.accounts clean.1
  have one_less := length_of_getElem? posted
  refine ⟨?_, ?_, count, events⟩
  · simp only
    omega
  · intro other member
    rcases unsettled other member with waiting | fine
    · rcases mem_eraseIdx_or posted waiting with still | same
      · exact .inl still
      · rw [same]
        exact .inr clean.2
    · exact .inr fine

theorem kept_moves {server server' : Server} (kept : Kept connectionId request server)
    (moves : Moves decode request server server') : Kept connectionId request server' := by
  cases kept with
  | waiting stopping same =>
    subst same
    cases moves with
    | idle => exact .waiting stopping rfl
    | headers due =>
      unfold onHeaders
      cases ends : request.endsWithHeaders with
      | false =>
        refine .opened { } rfl ?_
        constructor
        · rfl
        · rfl
        · simp [start]
        · intro ended
          cases ended
        · intro clean
          exact ⟨rfl, by simp [start], by simp [start], by simp [start]⟩
      | true =>
        have no_chunks := request.headersOnly ends
        refine .silent (silent_of_stream rfl rfl (.inr ⟨by simp [start, ends], rfl⟩))
          (by simp [start, ends]) ?_
        intro answered
        exact ⟨no_chunks, rfl, rfl, rfl, by simp [start], by simp [start, no_chunks],
          fun some_chunk => absurd no_chunks some_chunk⟩
    | missed due coming gone => cases due
    | data due coming present => cases due
    | endMissed due gone => cases due
    | ended due all_here ending present => cases due
    | dequeue queued => cases queued
    | push moments held => cases held
    | throw message held => cases held
    | completeMissed posted gone => cases posted
    | complete posted present => cases posted
    | stop => exact .waiting true rfl
    | close due => cases due
  | silent silent one done =>
    obtain ⟨silent', same⟩ := silent_moves silent moves
    refine .silent silent' (by rw [same]; exact one) ?_
    intro answered
    rw [same] at answered
    exact allDone_moves (done answered) silent.1 moves
  | opened stream present opened =>
    cases moves with
    | idle => exact .opened stream present opened
    | headers due =>
      rw [opened.due] at due
      cases due
    | missed due coming gone =>
      rw [present] at gone
      cases gone
    | @data chunk rest stream' due coming present' =>
      rw [present] at present'
      cases present'
      exact kept_data opened coming
    | endMissed due gone =>
      rw [present] at gone
      cases gone
    | @ended stream' due all_here ending present' =>
      rw [present] at present'
      cases present'
      exact keep_trySubmit ⟨due, opened.unsubmitted, opened.unanswered, fun _ => all_here,
        fun clean => ⟨(opened.accounts clean).pending, (opened.accounts clean).unsettled,
          (opened.accounts clean).count, (opened.accounts clean).events⟩⟩
    | dequeue queued =>
      refine .opened stream present ⟨opened.due, opened.unsubmitted, opened.unanswered,
        opened.ended, ?_⟩
      intro clean
      obtain ⟨pending, unsettled, count, events⟩ := opened.accounts clean
      rw [queued, List.length_cons] at pending count
      refine ⟨?_, unsettled, ?_, events⟩
      · simp only [List.length_append, List.length_singleton]
        omega
      · simp only [List.length_append, List.length_singleton]
        omega
    | push moments held =>
      refine .opened stream present ⟨opened.due, opened.unsubmitted, opened.unanswered,
        opened.ended, fun clean => ?_⟩
      exact accounts_job (opened.accounts clean) held _
    | throw message held =>
      refine .opened stream present ⟨opened.due, opened.unsubmitted, opened.unanswered,
        opened.ended, fun clean => ?_⟩
      exact accounts_job (opened.accounts clean) held _
    | completeMissed posted gone =>
      rw [present] at gone
      cases gone
    | @complete index outcome stream' posted present' =>
      rw [present] at present'
      cases present'
      exact kept_complete opened posted
    | stop =>
      exact .opened stream present ⟨opened.due, opened.unsubmitted, opened.unanswered,
        opened.ended, fun clean => ⟨(opened.accounts clean).pending,
          (opened.accounts clean).unsettled, (opened.accounts clean).count,
          (opened.accounts clean).events⟩⟩
    | close due =>
      refine .silent (silent_gone due rfl) ?_ ?_
      · simp [opened.unanswered]
      · intro answered
        simp [opened.unanswered] at answered

theorem kept_run (schedule : List Action) :
    Kept connectionId request
      (Runs.run (step decode request) (start connectionId request) schedule) :=
  Runs.run_invariant_always (Kept connectionId request)
    (fun server action kept => kept_moves kept (step_moves server action)) _
    (.waiting false rfl) schedule

/-! What was handled -/

/-- While no job was refused, the dispatcher has read what it was handed, and every event
    in it was accepted. -/
def Traced (decode : Bytes → Except String AgentEvent) (server : Server) : Prop :=
  (∀ outcome ∈ server.outcomes, refused outcome = false) →
    server.handed.length = server.outcomes.length ∧
    ∃ frames, FrameDecoder.fresh.push server.handed.flatten =
        (server.dispatcher.decoder, .ok frames) ∧
      frames.mapM decode = .ok (server.log.map Prod.fst) ∧
      ∀ entry ∈ server.log, entry.2.status = .accepted

theorem handledLog_events (moments : Nat → Moment) (events : List AgentEvent) :
    (handledLog moments events).map Prod.fst = events := by
  apply List.ext_getElem
  · simp [handledLog]
  · intro n small small'
    simp [handledLog]

/-- A push that is not refused decodes its chunk, and all its events are accepted. -/
theorem accepted_push {decoded : Except String (List AgentEvent)} {moments : Nat → Moment}
    (fine : refused (.ok (pushResults decoded moments)) = false) :
    ∃ events, decoded = .ok events ∧
      ∀ entry ∈ handledLog moments events, entry.2.status = .accepted := by
  cases decoded with
  | error message => simp [refused, pushResults, invalidArgument] at fine
  | ok events =>
    refine ⟨events, rfl, ?_⟩
    intro entry member
    simp only [refused, pushResults, List.any_eq_false] at fine
    have one_fine := fine entry.2 (List.mem_map_of_mem member)
    simpa using one_fine

theorem traced_push {server : Server} (traced : Traced decode server) (moments : Nat → Moment)
    (chunk : Bytes) : Traced decode (pushChunk decode server moments chunk) := by
  intro fine
  obtain ⟨count, frames, pushed, mapped, accepted⟩ :=
    traced fun outcome member => fine outcome (List.mem_append_left _ member)
  obtain ⟨events, decoded, accepted_now⟩ :=
    accepted_push (fine _ (List.mem_append_right _ (List.mem_singleton_self _)))
  obtain ⟨decoder', late, pushed_now, mapped_now⟩ := decodeEvents_ok decoded
  have same : (decodeEvents decode server.dispatcher chunk).1.decoder = decoder' := by
    rw [decodeEvents_of_push pushed_now]
  refine ⟨by simp [pushChunk, count], frames ++ late, ?_, ?_, ?_⟩
  · simp only [pushChunk, List.flatten_append, List.flatten_singleton, same]
    exact push_then pushed pushed_now
  · simp only [pushChunk, decoded, handledEvents, List.map_append, handledLog_events]
    rw [List.mapM_append, mapped, mapped_now]
    rfl
  · intro entry member
    simp only [pushChunk, decoded, handledEvents] at member
    rcases List.mem_append.mp member with early | now
    · exact accepted entry early
    · exact accepted_now entry now

theorem traced_trySubmit (server : Server) (stream : StreamState) :
    Traced decode (trySubmitEventResponse server stream) ↔ Traced decode server := by
  unfold trySubmitEventResponse
  split
  · exact Iff.rfl
  · exact Iff.rfl

theorem traced_moves {server server' : Server} (traced : Traced decode server)
    (moves : Moves decode request server server') : Traced decode server' := by
  cases moves with
  | idle => exact traced
  | headers due => exact traced
  | missed due coming gone => exact traced
  | data due coming present =>
    unfold onDataChunkRecv
    split
    · exact traced
    · split
      · exact (traced_trySubmit _ _).mpr traced
      · exact traced
  | endMissed due gone => exact traced
  | ended due all_here ending present => exact (traced_trySubmit _ _).mpr traced
  | dequeue queued => exact traced
  | push moments held => exact traced_push traced moments _
  | throw message held =>
    intro fine
    have impossible := fine (.error message) (List.mem_append_right _ (List.mem_singleton_self _))
    cases impossible
  | completeMissed posted gone => exact traced
  | complete posted present => exact (traced_trySubmit _ _).mpr traced
  | stop => exact traced
  | close due => exact traced

theorem traced_run (schedule : List Action) :
    Traced decode (Runs.run (step decode request) (start connectionId request) schedule) := by
  apply Runs.run_invariant_always (Traced decode)
  · intro server action traced
    exact traced_moves traced (step_moves server action)
  · intro fine
    exact ⟨rfl, [], rfl, rfl, by simp [start]⟩

/-! The claim of a 200 -/

def Request.body (request : Request) : Bytes := request.chunks.flatten

/-- The request is a POST of events, its body is frames without a rest, the frames decode,
    and every event was handled and accepted. -/
def AllProcessed (decode : Bytes → Except String AgentEvent) (request : Request)
    (server : Server) : Prop :=
  request.method = "POST" ∧ request.path = kControlEventsPath ∧
    ∃ frames events, Splits kDefaultMaxFrameBytes request.body frames [] ∧
      frames.mapM decode = .ok events ∧ server.log.map Prod.fst = events ∧
      ∀ entry ∈ server.log, entry.2.status = .accepted

/-- Behind the last whole frame there are bytes, and they start another frame. -/
def EndsInsideFrame (body : Bytes) : Prop :=
  ∃ frames tail, Splits kDefaultMaxFrameBytes body frames tail ∧ tail ≠ [] ∧
    takeFrame kDefaultMaxFrameBytes tail = .ok none

theorem Request.toEvents_iff (request : Request) : request.toEvents = true ↔
    request.method = "POST" ∧ request.path = kControlEventsPath := by
  simp [Request.toEvents]

theorem allDone_of_ok {server : Server} (kept : Kept connectionId request server)
    (answered : .ok ∈ server.responses) : AllDone request server := by
  cases kept with
  | waiting stopping same =>
    rw [same] at answered
    cases answered
  | opened stream present opened =>
    rw [opened.unanswered] at answered
    cases answered
  | silent silent one done => exact done answered

theorem one_response {server : Server} (kept : Kept connectionId request server) :
    server.responses.length ≤ 1 := by
  cases kept with
  | waiting stopping same =>
    rw [same]
    exact Nat.zero_le 1
  | opened stream present opened =>
    rw [opened.unanswered]
    exact Nat.zero_le 1
  | silent silent one done => exact one

/-- There is at most one response in every run. When it is a 200 and the chunks were pushed in
    the order of arrival, everything was processed if the request was for events or had a
    chunk at all and its body does not end inside a frame, and only then. -/
theorem ok_means_processed_iff (decode : Bytes → Except String AgentEvent) (connectionId : String)
    (request : Request) (schedule : List Action) :
    (Runs.run (step decode request) (start connectionId request) schedule).responses.length ≤ 1 ∧
    (.ok ∈ (Runs.run (step decode request) (start connectionId request) schedule).responses →
      (Runs.run (step decode request) (start connectionId request) schedule).handed <+:
        request.chunks →
      (AllProcessed decode request
          (Runs.run (step decode request) (start connectionId request) schedule) ↔
        ((request.method = "POST" ∧ request.path = kControlEventsPath) ∨ request.chunks ≠ []) ∧
          ¬ EndsInsideFrame request.body)) := by
  have kept := @kept_run decode request connectionId schedule
  have traced := @traced_run decode request connectionId schedule
  generalize Runs.run (step decode request) (start connectionId request) schedule = server at *
  refine ⟨one_response kept, ?_⟩
  intro answered in_order
  have done := allDone_of_ok kept answered
  obtain ⟨count, frames, pushed, mapped, accepted⟩ := traced done.clean
  have all_handed : server.handed = request.chunks :=
    in_order.eq_of_length (by rw [count, done.count])
  rw [all_handed] at pushed
  have unfinished := push_settled pushed
  have limit : server.dispatcher.decoder.maxFrameBytes = kDefaultMaxFrameBytes := by
    have same := congrArg (fun result => result.1.maxFrameBytes) pushed
    exact same.symm
  have splits : Splits kDefaultMaxFrameBytes request.body frames
      server.dispatcher.decoder.buffer := by
    obtain ⟨found, tail, split⟩ := exists_splits kDefaultMaxFrameBytes request.body
    have pushed_body : FrameDecoder.fresh.push request.body = _ := push_body split
    rw [Request.body, pushed] at pushed_body
    cases taken : takeFrame kDefaultMaxFrameBytes tail with
    | error message =>
      rw [taken] at pushed_body
      cases congrArg Prod.snd pushed_body
    | ok none_or_more =>
      rw [taken] at pushed_body
      have same_frames : frames = found := Except.ok.inj (congrArg Prod.snd pushed_body)
      have same_tail := congrArg (fun result => result.1.buffer) pushed_body
      simp only at same_tail
      rw [same_frames, same_tail]
      exact split
  constructor
  · intro processed
    obtain ⟨post, path, frames', events, whole, -⟩ := processed
    refine ⟨.inl ⟨post, path⟩, ?_⟩
    intro inside
    obtain ⟨found, tail, split, some_left, -⟩ := inside
    exact some_left (splits_unique split whole).2
  · intro condition
    obtain ⟨attended, outside⟩ := condition
    have to_events : request.method = "POST" ∧ request.path = kControlEventsPath := by
      rcases attended with events | some_chunk
      · exact events
      · exact (Request.toEvents_iff request).mp (done.events some_chunk)
    have nothing_left : server.dispatcher.decoder.buffer = [] := by
      by_contra some_left
      unfold Settled at unfinished
      rw [limit] at unfinished
      exact outside ⟨frames, _, splits, some_left, unfinished⟩
    rw [nothing_left] at splits
    exact ⟨to_events.1, to_events.2, frames, _, splits, mapped, rfl, accepted⟩

/-- One byte of a length, and the body is over. -/
def truncatedRequest : Request where
  method := "POST"
  path := kControlEventsPath
  endsWithHeaders := false
  chunks := [[0]]
  headersOnly := by decide
  notCommands := by decide

def idleEnvironment : Environment where
  auditId _ := "audit-1"
  auditTime _ := "2026-03-01T12:00:00Z"
  now := "2026-03-01T12:00:00Z"
  sha256BytesHex text := text
  serializeAgentEventBlob _ := ""
  serializeTaskResultDataBlob _ := ""
  serializeTaskErrorBlob _ := ""

def pushedInOrder : List Action :=
  [.headers, .data, .dequeue, .push 0 fun _ => (idleEnvironment, ⟨Store.empty, []⟩), .complete 0,
    .endOfData]

/-- A body that breaks off inside its first frame is answered with 200. -/
theorem truncated_body_answered_ok :
    (Runs.run (step decodeNonempty truncatedRequest) (start "connection-1" truncatedRequest)
      pushedInOrder).responses = [.ok] ∧
    ¬ AllProcessed decodeNonempty truncatedRequest
      (Runs.run (step decodeNonempty truncatedRequest) (start "connection-1" truncatedRequest)
        pushedInOrder) := by
  refine ⟨rfl, ?_⟩
  intro processed
  obtain ⟨-, -, frames, events, whole, -⟩ := processed
  have broken : Splits kDefaultMaxFrameBytes truncatedRequest.body [] [0] :=
    ⟨rfl, by simp, by simp [takeFrame]⟩
  cases (splits_unique whole broken).2

end EventResponse
