import ZFleet.Agent.Runtime
import ZFleet.Transport.FrameChunks

/-!
What the notes of a run say. A guarded machine accepts the notes that a well-behaved agent
may write: it registers before it opens its command stream, takes up one command at a time,
reports a task only after its start was accepted, and begins again after anything went
wrong. Beside the phase it keeps what each connection received and handled.
-/
namespace AgentRuntime
open Message FrameCodec Dialogues Runs
open ControlCodec hiding Bytes

inductive Phase where
  | closed
  | connected
  | greeted
  | streaming
  | handling (task : Task)
  | running (task : Task)
  | executed (task : Task) (input : PackageUpdateInput) (execution : PackageUpdateExecutionResult)
  | broken

/-- The phase behind a request: only the status 200 goes on. -/
def answered (phase : Phase) : Except String String → Phase
  | .ok status => if status = "200" then phase else .broken
  | .error _ => .broken

theorem answered_ok (phase : Phase) (status : String) :
    answered phase (.ok status) = if status = "200" then phase else .broken := rfl

/-- The inventory of the task, by the agent. -/
def ReportsInventory (agentId : String) (task : Task) (result : TaskResult) : Prop :=
  task.taskType = .collectBasicInventory ∧ result.taskId = task.taskId ∧
    result.agentId = agentId ∧ result.taskType = task.taskType ∧ result.status = .succeeded

/-- The result of the update, as its execution said. -/
def ReportsUpdate (agentId : String) (task : Task) (input : PackageUpdateInput)
    (execution : PackageUpdateExecutionResult) (result : TaskResult) : Prop :=
  result = packageUpdateResult agentId result.requestId result.occurredAt task input execution

def Starts (agentId : String) (task : Task) (running : TaskRunning) : Prop :=
  running.taskId = task.taskId ∧ running.agentId = agentId ∧ running.taskType = task.taskType

instance (agentId : String) (task : Task) (result : TaskResult) :
    Decidable (ReportsInventory agentId task result) := by
  unfold ReportsInventory
  infer_instance

instance (agentId : String) (task : Task) (input : PackageUpdateInput)
    (execution : PackageUpdateExecutionResult) (result : TaskResult) :
    Decidable (ReportsUpdate agentId task input execution result) := by
  unfold ReportsUpdate
  infer_instance

instance (agentId : String) (task : Task) (running : TaskRunning) :
    Decidable (Starts agentId task running) := by
  unfold Starts
  infer_instance

def begun (command : ServerCommand) : Phase :=
  match command.payload with
  | .task task => .handling task
  | .error _ => .broken

def started (task : Task) (taskId : String) (execution : PackageUpdateExecutionResult) :
    Option Phase :=
  match task.input with
  | .packageUpdate input =>
    if taskId = task.taskId ∧ task.taskType ≠ .collectBasicInventory then
      some (.executed task input execution)
    else none
  | .collectBasicInventory => none

/-- What an agent may note in a phase, and the phase behind it. -/
def nextPhase (agentId : String) : Phase → Note → Option Phase
  | .closed, .connect accepted => some (if accepted then .connected else .broken)
  | .connected, .post [.registration registration, .heartbeat heartbeat] status =>
    if registration.agentId = agentId ∧ heartbeat.agentId = agentId then
      some (answered .greeted status)
    else none
  | .greeted, .openStream status => some (answered .streaming status)
  | .streaming, .post [.heartbeat heartbeat] status =>
    if heartbeat.agentId = agentId then some (answered .streaming status) else none
  | .streaming, .receive _ => some .streaming
  | .streaming, .handle command => some (begun command)
  | .handling task, .post [.taskRunning running] status =>
    if Starts agentId task running then some (answered (.running task) status) else none
  | .running task, .execute taskId execution => started task taskId execution
  | .running task, .post [.taskResult result] status =>
    if ReportsInventory agentId task result then some (answered .streaming status) else none
  | .executed task input execution, .post [.taskResult result] status =>
    if ReportsUpdate agentId task input execution result then some (answered .streaming status)
    else none
  | .closed, .sleep _ => some .closed
  | _, .close => some .closed
  | _, _ => none

/-- What a connection received in its chunks and handled. -/
structure Link where
  chunks : List Bytes
  handled : List ServerCommand

/-- The connections, the newest in front. -/
def addNote : List Link → Note → List Link
  | links, .connect true => ⟨[], []⟩ :: links
  | link :: links, .receive bytes => { link with chunks := link.chunks ++ [bytes] } :: links
  | link :: links, .handle command => { link with handled := link.handled ++ [command] } :: links
  | links, _ => links

def addDelay (delays : List UInt32) : Note → List UInt32
  | .sleep seconds => delays ++ [seconds]
  | _ => delays

structure Observed where
  phase : Phase
  links : List Link
  delays : List UInt32

def follow (agentId : String) (seen : Observed) (entry : Note) : Option Observed :=
  (nextPhase agentId seen.phase entry).map fun phase =>
    ⟨phase, addNote seen.links entry, addDelay seen.delays entry⟩

def Observed.start : Observed := ⟨.closed, [], []⟩

/-- The notes so far lead to what was observed. -/
def At (agentId : String) (seen : Observed) (s : Agent) : Prop :=
  trace (follow agentId) .start s.log = some seen

/-- The notes are in order, whatever the phase. -/
def Somewhere (agentId : String) (links : List Link) (delays : List UInt32) (s : Agent) : Prop :=
  ∃ phase, At agentId ⟨phase, links, delays⟩ s

variable {agentId : String} {seen seen' : Observed} {links : List Link} {delays : List UInt32}
variable {α : Type} {env : Environment} {config : AgentConfig} {thrown : Agent → Prop}

/-! Single questions and notes -/

theorem somewhere_at {phase : Phase} {s : Agent} (here : At agentId ⟨phase, links, delays⟩ s) :
    Somewhere agentId links delays s := ⟨phase, here⟩

theorem at_snoc {log : List Note} {entry : Note}
    (here : trace (follow agentId) .start log = some seen)
    (allowed : follow agentId seen entry = some seen') :
    trace (follow agentId) .start (log ++ [entry]) = some seen' := by
  rw [trace_append, here]
  simp [trace, allowed]

theorem ask_at (answer : Nat → α) :
    Ensures (At agentId seen) (ask answer) (fun _ => At agentId seen) thrown := by
  apply ensures_step
  intro s here
  exact here

theorem note_at {entry : Note} (allowed : follow agentId seen entry = some seen') :
    Ensures (At agentId seen) (note entry) (fun _ => At agentId seen') thrown := by
  apply ensures_change
  intro s here
  exact at_snoc here allowed

theorem stopRequested_at :
    Ensures (At agentId seen) (stopRequested env) (fun _ => At agentId seen) thrown := by
  apply ensures_bind (ask_at _)
  intro signalled
  apply @ensures_bind _ _ _ _ _ _ _ _ fun _ => At agentId seen
  · apply ensures_change
    exact fun s here => here
  · intro _
    apply ensures_look
    exact fun s here => here

theorem countHeartbeat_at :
    Ensures (At agentId seen) countHeartbeat (fun _ => At agentId seen) thrown := by
  apply ensures_change
  exact fun s here => here

theorem requestStop_at :
    Ensures (At agentId seen) requestStop (fun _ => At agentId seen) thrown := by
  apply ensures_change
  exact fun s here => here

/-- A question whose answer decides whether the agent goes on. -/
theorem consult_at {phase goal : Phase} {answer : Nat → Except String String}
    {entry : Except String String → Note}
    (moved : ∀ status, follow agentId ⟨phase, links, delays⟩ (entry status) =
      some ⟨answered goal status, links, delays⟩) :
    Ensures (At agentId ⟨phase, links, delays⟩) (consult answer entry)
      (fun status => At agentId ⟨answered goal (.ok status), links, delays⟩)
      (Somewhere agentId links delays) := by
  apply ensures_step
  intro s here
  have noted := at_snoc here (moved (answer s.time))
  unfold consult
  cases status : answer s.time with
  | ok text =>
    rw [status] at noted
    exact noted
  | error message =>
    rw [status] at noted
    exact somewhere_at noted

/-- A request that the protocol allows, with the phase that the status 200 gives. -/
theorem postEvents_at {phase goal : Phase} {events : List AgentEvent}
    (allowed : ∀ status, nextPhase agentId phase (.post events status) =
      some (answered goal status)) :
    Ensures (At agentId ⟨phase, links, delays⟩) (postEvents env events)
      (fun status => At agentId ⟨answered goal (.ok status), links, delays⟩)
      (Somewhere agentId links delays) := by
  apply @ensures_bind _ _ _ _ _ _ _ _ fun _ => At agentId ⟨phase, links, delays⟩
  · apply ensures_ofExcept
    · exact fun s _ here _ => here
    · exact fun s here => somewhere_at here
  · intro _
    apply consult_at
    intro status
    unfold follow
    rw [allowed]
    cases links <;> rfl

/-! The events -/

theorem buildRegisterEvent_at :
    Ensures (At agentId seen) (buildRegisterEvent env config agentId)
      (fun event s => At agentId seen s ∧ ∃ registration, event = .registration registration ∧
        registration.agentId = agentId) thrown := by
  apply ensures_bind (ask_at _)
  intro requestId
  apply ensures_bind (ask_at _)
  intro occurredAt
  apply ensures_bind (ask_at _)
  intro hostname
  apply ensures_pure
  exact fun s here => ⟨here, _, rfl, rfl⟩

theorem buildHeartbeatEvent_at :
    Ensures (At agentId seen) (buildHeartbeatEvent env agentId)
      (fun event s => At agentId seen s ∧ ∃ heartbeat, event = .heartbeat heartbeat ∧
        heartbeat.agentId = agentId) thrown := by
  apply ensures_bind (ask_at _)
  intro requestId
  apply ensures_bind (ask_at _)
  intro occurredAt
  apply ensures_pure
  exact fun s here => ⟨here, _, rfl, rfl⟩

theorem buildTaskRunningEvent_at (task : Task) :
    Ensures (At agentId seen) (buildTaskRunningEvent env agentId task)
      (fun event s => At agentId seen s ∧ ∃ running, event = .taskRunning running ∧
        Starts agentId task running) thrown := by
  apply ensures_bind (ask_at _)
  intro requestId
  apply ensures_bind (ask_at _)
  intro occurredAt
  apply ensures_pure
  exact fun s here => ⟨here, _, rfl, rfl, rfl, rfl⟩

theorem buildTaskSucceededEvent_at {task : Task} (inventory : task.taskType = .collectBasicInventory) :
    Ensures (At agentId seen) (buildTaskSucceededEvent env agentId task)
      (fun event s => At agentId seen s ∧ ∃ result, event = .taskResult result ∧
        ReportsInventory agentId task result) thrown := by
  apply ensures_bind (ask_at _)
  intro requestId
  apply ensures_bind (ask_at _)
  intro occurredAt
  apply ensures_bind (ask_at _)
  intro hostname
  apply ensures_pure
  exact fun s here => ⟨here, _, rfl, inventory, rfl, rfl, rfl, rfl⟩

theorem buildPackageUpdateResultEvent_at (task : Task) (input : PackageUpdateInput)
    (execution : PackageUpdateExecutionResult) :
    Ensures (At agentId seen) (buildPackageUpdateResultEvent env agentId task input execution)
      (fun event s => At agentId seen s ∧ ∃ result, event = .taskResult result ∧
        ReportsUpdate agentId task input execution result) thrown := by
  apply ensures_bind (ask_at _)
  intro requestId
  apply ensures_bind (ask_at _)
  intro occurredAt
  apply ensures_pure
  exact fun s here => ⟨here, _, rfl, rfl⟩

/-! The parts of a run -/

/-- Whether the answer is accepted, and what is thrown when it is not. -/
theorem accepted_at {goal : Phase} {status message : String} {next : Program Agent α}
    {after : α → Agent → Prop}
    (goes_on : Ensures (At agentId ⟨goal, links, delays⟩) next after
      (Somewhere agentId links delays)) :
    Ensures (At agentId ⟨answered goal (.ok status), links, delays⟩)
      (if status ≠ "200" then raise message else next) after
      (Somewhere agentId links delays) := by
  rw [answered_ok]
  by_cases accepted : status = "200"
  · rw [if_pos accepted, if_neg (not_not_intro accepted)]
    exact goes_on
  · rw [if_neg accepted, if_pos accepted]
    apply ensures_raise
    exact fun s here => somewhere_at here

theorem sendConnectionBootstrap_at :
    Ensures (At agentId ⟨.connected, links, delays⟩) (sendConnectionBootstrap env config agentId)
      (fun _ => At agentId ⟨.greeted, links, delays⟩) (Somewhere agentId links delays) := by
  apply ensures_bind buildRegisterEvent_at
  intro registerEvent
  apply ensures_fact
  rintro ⟨registration, rfl, own⟩
  apply ensures_bind buildHeartbeatEvent_at
  intro heartbeatEvent
  apply ensures_fact
  rintro ⟨heartbeat, rfl, own'⟩
  apply ensures_bind (@postEvents_at agentId links delays env .connected .greeted _ _)
  · intro status
    exact accepted_at countHeartbeat_at
  · intro status
    simp [nextPhase, own, own']

theorem sendHeartbeat_at :
    Ensures (At agentId ⟨.streaming, links, delays⟩) (sendHeartbeat env agentId)
      (fun _ => At agentId ⟨.streaming, links, delays⟩) (Somewhere agentId links delays) := by
  apply ensures_bind buildHeartbeatEvent_at
  intro heartbeatEvent
  apply ensures_fact
  rintro ⟨heartbeat, rfl, own⟩
  apply ensures_bind (@postEvents_at agentId links delays env .streaming .streaming _ _)
  · intro status
    exact accepted_at countHeartbeat_at
  · intro status
    simp [nextPhase, own]

theorem sendCommandStream_at :
    Ensures (At agentId ⟨.greeted, links, delays⟩) (sendCommandStream env)
      (fun _ => At agentId ⟨.streaming, links, delays⟩) (Somewhere agentId links delays) := by
  apply @ensures_bind _ _ _ _ _ _ _ _ fun status =>
    At agentId ⟨answered .streaming (.ok status), links, delays⟩
  · apply ensures_bind (ask_at _)
    intro correlationId
    apply consult_at
    intro status
    cases links <;> rfl
  · intro status
    apply accepted_at
    exact ensures_pure () fun s here => here

/-- The event that reports the task, and how the notes go on with it. -/
def Reporting (agentId : String) (links : List Link) (delays : List UInt32) (event : AgentEvent)
    (s : Agent) : Prop :=
  ∃ phase, At agentId ⟨phase, links, delays⟩ s ∧
    ∀ status, nextPhase agentId phase (.post [event] status) = some (answered .streaming status)

theorem executeTask_at (task : Task) :
    Ensures (At agentId ⟨.running task, links, delays⟩) (executeTask env agentId task)
      (fun result => Reporting agentId links delays result.1)
      (Somewhere agentId links delays) := by
  unfold executeTask
  by_cases inventory : task.taskType = .collectBasicInventory
  · rw [if_pos inventory]
    apply ensures_bind (buildTaskSucceededEvent_at inventory)
    intro event
    apply ensures_fact
    rintro ⟨result, rfl, reports⟩
    apply ensures_pure
    intro s here
    refine ⟨_, here, ?_⟩
    intro status
    exact if_pos reports
  · rw [if_neg inventory]
    cases given : task.input with
    | collectBasicInventory =>
      apply ensures_raise
      exact fun s here => somewhere_at here
    | packageUpdate input =>
      apply ensures_bind (ask_at _)
      intro execution
      apply @ensures_bind _ _ _ _ _ _ _ _ fun _ =>
        At agentId ⟨.executed task input execution, links, delays⟩
      · apply note_at
        have executed : nextPhase agentId (.running task) (.execute task.taskId execution) =
            some (.executed task input execution) := by
          simp [nextPhase, started, given, inventory]
        unfold follow
        rw [executed]
        cases links <;> rfl
      · intro _
        apply ensures_bind (buildPackageUpdateResultEvent_at task input execution)
        intro event
        apply ensures_fact
        rintro ⟨result, rfl, reports⟩
        apply ensures_pure
        intro s here
        refine ⟨_, here, ?_⟩
        intro status
        exact if_pos reports

theorem handleTask_at (task : Task) :
    Ensures (At agentId ⟨.handling task, links, delays⟩) (handleTask env agentId task)
      (fun _ => At agentId ⟨.streaming, links, delays⟩) (Somewhere agentId links delays) := by
  apply ensures_bind (buildTaskRunningEvent_at task)
  intro runningEvent
  apply ensures_fact
  rintro ⟨running, rfl, starts⟩
  apply ensures_bind (@postEvents_at agentId links delays env (.handling task) (.running task) _ _)
  · intro runningStatus
    apply accepted_at
    apply ensures_bind (executeTask_at task)
    intro result
    apply ensures_exists
    intro phase
    apply ensures_fact
    intro goes_on
    apply ensures_bind (postEvents_at goes_on)
    intro taskStatus
    apply accepted_at
    split
    · exact requestStop_at
    · exact ensures_pure () fun s here => here
  · intro status
    exact if_pos starts

/-! What a connection handles -/

def FrameFits (frame : Bytes) : Prop := frame.length ≤ kDefaultMaxFrameBytes.toNat

/-- The commands are read off the first frames of the bytes. -/
def Decoded (wire : ControlCodec.Wire ControlCodec.ProtoServerCommand) (bytes : Bytes)
    (commands : List ServerCommand) : Prop :=
  ∃ (frames : List Bytes) (rest : Bytes), bytes = (frames.map frameOf).flatten ++ rest ∧
    (∀ frame ∈ frames, FrameFits frame) ∧
    frames.mapM (decodeServerCommandPayload wire) = .ok commands

def Faithful (env : Environment) (link : Link) : Prop :=
  Decoded env.commandWire link.chunks.flatten link.handled

/-- The notes are in order, and every connection handled what it received. -/
def Orderly (env : Environment) (agentId : String) (delays : List UInt32) (s : Agent) : Prop :=
  ∃ links, (∀ link ∈ links, Faithful env link) ∧ Somewhere agentId links delays s

theorem mapM_cons_ok {β γ : Type} {read : β → Except String γ} {item : β} {items : List β}
    {done : List γ} (ran : (item :: items).mapM read = .ok done) :
    ∃ first later, read item = .ok first ∧ items.mapM read = .ok later ∧ done = first :: later := by
  rw [List.mapM_cons] at ran
  cases here : read item with
  | error message =>
    rw [here] at ran
    cases ran
  | ok first =>
    cases behind : items.mapM read with
    | error message =>
      rw [here, behind] at ran
      cases ran
    | ok later =>
      rw [here, behind] at ran
      cases ran
      exact ⟨first, later, rfl, rfl, rfl⟩

theorem mapM_prefix {β γ : Type} {read : β → Except String γ} {items : List β} {done rest : List γ}
    (ran : items.mapM read = .ok (done ++ rest)) :
    ∃ first later, items = first ++ later ∧ first.mapM read = .ok done := by
  induction done generalizing items with
  | nil => exact ⟨[], items, rfl, rfl⟩
  | cons c done ih =>
    cases items with
    | nil => cases ran
    | cons item items =>
      obtain ⟨_, _, here, behind, same⟩ := mapM_cons_ok ran
      obtain ⟨rfl, rfl⟩ := List.cons.inj same
      obtain ⟨first, later, rfl, read_first⟩ := ih behind
      refine ⟨item :: first, later, rfl, ?_⟩
      rw [List.mapM_cons, here, read_first]
      rfl

theorem mapM_append_ok {β γ : Type} {read : β → Except String γ} {first later : List β}
    {early late : List γ} (ran : first.mapM read = .ok early) (ran' : later.mapM read = .ok late) :
    (first ++ later).mapM read = .ok (early ++ late) := by
  rw [List.mapM_append, ran, ran']
  rfl

/-- Who handled more has handled less. -/
theorem decoded_prefix {wire : ControlCodec.Wire ControlCodec.ProtoServerCommand} {bytes : Bytes}
    {done rest : List ServerCommand} (decoded : Decoded wire bytes (done ++ rest)) :
    Decoded wire bytes done := by
  obtain ⟨frames, behind, split, fit, ran⟩ := decoded
  obtain ⟨first, later, rfl, ran'⟩ := mapM_prefix ran
  refine ⟨first, (later.map frameOf).flatten ++ behind, ?_,
    fun frame member => fit frame (List.mem_append_left later member), ran'⟩
  rw [split, List.map_append, List.flatten_append, List.append_assoc]

theorem handleCommand_at (command : ServerCommand) (link : Link) :
    Ensures (At agentId ⟨.streaming, link :: links, delays⟩) (handleCommand env agentId command)
      (fun _ => At agentId
        ⟨.streaming, { link with handled := link.handled ++ [command] } :: links, delays⟩)
      (Somewhere agentId ({ link with handled := link.handled ++ [command] } :: links) delays) := by
  apply @ensures_bind _ _ _ _ _ _ _ _ fun _ => At agentId
    ⟨begun command, { link with handled := link.handled ++ [command] } :: links, delays⟩
  · exact note_at rfl
  · intro _
    unfold begun
    cases command.payload with
    | error error =>
      apply ensures_raise
      exact fun s here => somewhere_at here
    | task task => exact handleTask_at task

theorem handleCommands_at {commands : List ServerCommand} {link : Link}
    (others : ∀ link ∈ links, Faithful env link)
    (decoded : Decoded env.commandWire link.chunks.flatten (link.handled ++ commands)) :
    Ensures (At agentId ⟨.streaming, link :: links, delays⟩) (handleCommands env agentId commands)
      (fun _ => At agentId
        ⟨.streaming, { link with handled := link.handled ++ commands } :: links, delays⟩)
      (Orderly env agentId delays) := by
  induction commands generalizing link with
  | nil =>
    apply ensures_pure
    intro s here
    rw [List.append_nil]
    exact here
  | cons command commands ih =>
    have split : link.handled ++ command :: commands = (link.handled ++ [command]) ++ commands :=
      List.append_cons ..
    rw [split] at decoded ⊢
    have so_far := decoded_prefix decoded
    apply ensures_bind (ensures_mono (handleCommand_at command link) (fun _ here => here)
      (fun _ _ here => here) ?_)
    · intro _
      exact @ih { link with handled := link.handled ++ [command] } decoded
    · intro s here
      refine ⟨_, ?_, here⟩
      intro other member
      rcases List.mem_cons.mp member with rfl | old
      · exact so_far
      · exact others other old

/-- The decoder holds what came behind the frames that were handled. -/
def Synced (env : Environment) (decoder : FrameDecoder) (link : Link) : Prop :=
  decoder.maxFrameBytes = kDefaultMaxFrameBytes ∧ ∃ frames : List Bytes,
    link.chunks.flatten = (frames.map frameOf).flatten ++ decoder.buffer ∧
      (∀ frame ∈ frames, FrameFits frame) ∧ frames.mapM (decodeServerCommandPayload env.commandWire) = .ok link.handled

theorem Synced.faithful {decoder : FrameDecoder} {link : Link} (synced : Synced env decoder link) :
    Faithful env link := by
  obtain ⟨_, frames, bytes, fit, ran⟩ := synced
  exact ⟨frames, decoder.buffer, bytes, fit, ran⟩

theorem push_bytes {decoder decoder' : FrameDecoder} {bytes : Bytes} {frames : List Bytes}
    (pushed : decoder.push bytes = (decoder', .ok frames)) :
    decoder.buffer ++ bytes = (frames.map frameOf).flatten ++ decoder'.buffer ∧
      decoder'.maxFrameBytes = decoder.maxFrameBytes ∧
      ∀ frame ∈ frames, frame.length ≤ decoder.maxFrameBytes.toNat := by
  obtain ⟨cut, tail, splits⟩ := exists_splits decoder.maxFrameBytes (decoder.buffer ++ bytes)
  have drained := drain_splits splits
  unfold FrameDecoder.push at pushed
  rw [drained] at pushed
  cases taken : takeFrame decoder.maxFrameBytes tail with
  | error message =>
    simp only [taken] at pushed
    cases pushed
  | ok found =>
    simp only [taken] at pushed
    cases pushed
    exact ⟨splits.bytes, rfl, splits.fit⟩

theorem faithful_received {link : Link} (faithful : Faithful env link) (bytes : Bytes) :
    Faithful env { link with chunks := link.chunks ++ [bytes] } := by
  obtain ⟨frames, rest, split, fit, ran⟩ := faithful
  refine ⟨frames, rest ++ bytes, ?_, fit, ran⟩
  rw [List.flatten_append, split, List.append_assoc]
  simp

/-- The commands of the frames that the bytes complete are handled, and the decoder keeps the
    rest. -/
theorem handleCommandBytes_at {decoder : FrameDecoder} {bytes : Bytes} {link : Link}
    (others : ∀ link ∈ links, Faithful env link) (synced : Synced env decoder link) :
    Ensures (At agentId ⟨.streaming, link :: links, delays⟩)
      (handleCommandBytes env agentId decoder bytes)
      (fun decoder' s => ∃ link', At agentId ⟨.streaming, link' :: links, delays⟩ s ∧
        Synced env decoder' link')
      (Orderly env agentId delays) := by
  unfold handleCommandBytes
  by_cases nothing : bytes.isEmpty
  · rw [if_pos nothing]
    exact ensures_pure _ fun s here => ⟨link, here, synced⟩
  rw [if_neg nothing]
  let received : Link := { link with chunks := link.chunks ++ [bytes] }
  have kept : ∀ other ∈ received :: links, Faithful env other := by
    intro other member
    rcases List.mem_cons.mp member with rfl | old
    · exact faithful_received synced.faithful bytes
    · exact others other old
  apply @ensures_bind _ _ _ _ _ _ _ _ fun _ => At agentId ⟨.streaming, received :: links, delays⟩
  · exact note_at rfl
  intro _
  apply @ensures_bind _ _ _ _ _ _ _ _ fun commands s =>
    At agentId ⟨.streaming, received :: links, delays⟩ s ∧
      (decodeServerCommands env decoder bytes).2 = .ok commands
  · apply ensures_ofExcept
    · exact fun s commands here decoded => ⟨here, decoded⟩
    · exact fun s here => ⟨_, kept, somewhere_at here⟩
  intro commands
  apply ensures_fact
  intro decoded
  obtain ⟨standard, frames, split, fit, ran⟩ := synced
  unfold decodeServerCommands at decoded
  cases pushed : decoder.push bytes with
  | mk decoder' outcome =>
    rw [pushed] at decoded
    cases outcome with
    | error message => cases decoded
    | ok arrived =>
      have run_all := mapM_append_ok ran decoded
      obtain ⟨left, same_bound, fit_new⟩ := push_bytes pushed
      have fit_all : ∀ frame ∈ frames ++ arrived, FrameFits frame := by
        intro frame member
        rcases List.mem_append.mp member with old | new
        · exact fit frame old
        · have bounded := fit_new frame new
          rw [standard] at bounded
          exact bounded
      have cut : received.chunks.flatten =
          ((frames ++ arrived).map frameOf).flatten ++ decoder'.buffer := by
        have before : received.chunks.flatten = link.chunks.flatten ++ bytes := by simp [received]
        have both : ((frames ++ arrived).map frameOf).flatten =
            (frames.map frameOf).flatten ++ (arrived.map frameOf).flatten := by
          rw [List.map_append, List.flatten_append]
        rw [before, both, split, List.append_assoc, List.append_assoc, left]
      apply ensures_bind
      · exact @handleCommands_at agentId links delays env commands received others
          ⟨frames ++ arrived, decoder'.buffer, cut, fit_all, run_all⟩
      · intro _
        apply ensures_pure
        intro s here
        have same : (decodeServerCommands env decoder bytes).1 = decoder' := by
          unfold decodeServerCommands
          rw [pushed]
        rw [same]
        exact ⟨_, here, same_bound.trans standard, frames ++ arrived, cut, fit_all, run_all⟩

/-! Whole runs -/

theorem checkCommandStream_at :
    Ensures (At agentId seen) (checkCommandStream env) (fun _ => At agentId seen)
      (At agentId seen) := by
  apply ensures_bind (ask_at _)
  intro still
  split
  · exact ensures_pure () fun s here => here
  · apply ensures_bind (ask_at _)
    intro errorCode
    cases errorCode with
    | none => exact ensures_raise _ fun s here => here
    | some code =>
      dsimp only
      split
      · exact ensures_raise _ fun s here => here
      · exact ensures_raise _ fun s here => here

theorem orderly_at {phase : Phase} {s : Agent} (all : ∀ link ∈ links, Faithful env link)
    (here : At agentId ⟨phase, links, delays⟩ s) : Orderly env agentId delays s :=
  ⟨links, all, somewhere_at here⟩

theorem orderly_somewhere {s : Agent} (all : ∀ link ∈ links, Faithful env link)
    (here : Somewhere agentId links delays s) : Orderly env agentId delays s := ⟨links, all, here⟩

/-- The notes are in order in an open stream, and every connection handled what it received. -/
def Streaming (env : Environment) (agentId : String) (delays : List UInt32) (s : Agent) : Prop :=
  ∃ links, (∀ link ∈ links, Faithful env link) ∧ At agentId ⟨.streaming, links, delays⟩ s

theorem streamTurns_at {turns next : Nat} {decoder : FrameDecoder} {link : Link}
    (others : ∀ link ∈ links, Faithful env link) (synced : Synced env decoder link) :
    Ensures (At agentId ⟨.streaming, link :: links, delays⟩)
      (streamTurns env config agentId turns decoder next) (fun _ => Streaming env agentId delays)
      (Orderly env agentId delays) := by
  have all : ∀ {link' : Link} {decoder' : FrameDecoder}, Synced env decoder' link' →
      ∀ other ∈ link' :: links, Faithful env other := by
    intro link' decoder' synced' other member
    rcases List.mem_cons.mp member with rfl | old
    · exact synced'.faithful
    · exact others other old
  have stays : ∀ {link' : Link} {decoder' : FrameDecoder}, Synced env decoder' link' →
      ∀ value, Ensures (At agentId ⟨.streaming, link' :: links, delays⟩)
        (pure value : Program Agent Bool) (fun _ => Streaming env agentId delays)
        (Orderly env agentId delays) :=
    fun synced' value => ensures_pure value fun s here => ⟨_, all synced', here⟩
  induction turns generalizing decoder next link with
  | zero => exact stays synced false
  | succ turns ih =>
    apply ensures_bind stopRequested_at
    intro stop
    split
    · exact stays synced true
    apply ensures_bind (ensures_mono checkCommandStream_at (fun _ here => here)
      (fun _ _ here => here) fun s here => orderly_at (all synced) here)
    intro _
    apply ensures_bind (ask_at _)
    intro pumped
    apply @ensures_bind _ _ _ _ _ _ _ _ fun _ => At agentId ⟨.streaming, link :: links, delays⟩
    · exact ensures_ofExcept _ (fun s _ here _ => here) fun s here => orderly_at (all synced) here
    intro _
    apply ensures_bind (ask_at _)
    intro bytes
    apply ensures_bind (handleCommandBytes_at others synced)
    intro decoder'
    apply ensures_exists
    intro link'
    apply ensures_fact
    intro synced'
    apply ensures_bind stopRequested_at
    intro stop'
    split
    · exact stays synced' true
    apply ensures_bind (ask_at _)
    intro now
    split
    · apply ensures_bind (ensures_mono sendHeartbeat_at (fun _ here => here)
        (fun _ _ here => here) fun s here => orderly_somewhere (all synced') here)
      intro _
      exact ih synced'
    · exact ih synced'

theorem connect_at :
    Ensures (At agentId ⟨.closed, links, delays⟩) (connect env)
      (fun _ => At agentId ⟨.connected, ⟨[], []⟩ :: links, delays⟩)
      (Somewhere agentId links delays) := by
  apply ensures_step
  intro s here
  unfold connect consult
  cases answer : env.connect s.time with
  | ok _ => exact at_snoc here rfl
  | error message =>
    have refused : follow agentId ⟨.closed, links, delays⟩ (.connect false) =
        some ⟨.broken, links, delays⟩ := by
      cases links <;> rfl
    exact somewhere_at (at_snoc here refused)

theorem runConnection_at {turns : Nat} (all : ∀ link ∈ links, Faithful env link) :
    Ensures (At agentId ⟨.closed, links, delays⟩) (runConnection env config agentId turns)
      (fun _ => Streaming env agentId delays) (Orderly env agentId delays) := by
  have empty : Synced env .fresh ⟨[], []⟩ := ⟨rfl, [], rfl, by simp, rfl⟩
  have all' : ∀ link ∈ (⟨[], []⟩ : Link) :: links, Faithful env link := by
    intro link member
    rcases List.mem_cons.mp member with rfl | old
    · exact empty.faithful
    · exact all link old
  apply ensures_bind (ensures_mono connect_at (fun _ here => here) (fun _ _ here => here)
    fun s here => orderly_somewhere all here)
  intro _
  apply ensures_bind (ensures_mono sendConnectionBootstrap_at (fun _ here => here)
    (fun _ _ here => here) fun s here => orderly_somewhere all' here)
  intro _
  apply ensures_bind (ensures_mono sendCommandStream_at (fun _ here => here)
    (fun _ _ here => here) fun s here => orderly_somewhere all' here)
  intro _
  apply ensures_bind (ask_at _)
  intro now
  exact streamTurns_at all empty

/-- The notes are in order and no connection is open. -/
def Closed (env : Environment) (agentId : String) (delays : List UInt32) (s : Agent) : Prop :=
  ∃ links, (∀ link ∈ links, Faithful env link) ∧ At agentId ⟨.closed, links, delays⟩ s

theorem close_allowed (phase : Phase) :
    follow agentId ⟨phase, links, delays⟩ .close = some ⟨.closed, links, delays⟩ := by
  cases phase <;> cases links <;> rfl

theorem close_at : Ensures (Orderly env agentId delays) (note .close)
    (fun _ => Closed env agentId delays) thrown := by
  apply ensures_change
  intro s orderly
  obtain ⟨links, all, phase, here⟩ := orderly
  exact ⟨links, all, at_snoc here (close_allowed phase)⟩

theorem Closed.orderly {s : Agent} (closed : Closed env agentId delays s) :
    Orderly env agentId delays s := by
  obtain ⟨links, all, here⟩ := closed
  exact orderly_at all here

theorem Streaming.orderly {s : Agent} (streaming : Streaming env agentId delays s) :
    Orderly env agentId delays s := by
  obtain ⟨links, all, here⟩ := streaming
  exact orderly_at all here

/-- After a turn of the outer loop the agent has ended, or slept once more and goes on. -/
def After (env : Environment) (config : AgentConfig) (agentId : String) (delays : List UInt32)
    (backoff : UInt32) : Ending → Agent → Prop
  | .ended, s | .unfinished, s => Orderly env agentId delays s ∨
    Orderly env agentId (delays ++ [backoff]) s
  | .again backoff', s => Closed env agentId (delays ++ [backoff]) s ∧
    backoff' = nextBackoff config backoff

theorem stopRequested_closed :
    Ensures (Closed env agentId delays) (stopRequested env) (fun _ => Closed env agentId delays)
      thrown := by
  apply ensures_exists
  intro links
  apply ensures_mono (ensures_fact fun all => ensures_mono stopRequested_at (fun _ here => here)
    (fun _ s here => (⟨links, all, here⟩ : Closed env agentId delays s)) (fun _ failed => failed))
  · exact fun s here => ⟨here.2, here.1⟩
  · exact fun _ _ here => here
  · exact fun _ failed => failed

theorem sleepUntilStop_at {backoff : UInt32} :
    Ensures (Closed env agentId delays) (sleepUntilStop env backoff)
      (fun _ => Closed env agentId (delays ++ [backoff])) thrown := by
  apply @ensures_bind _ _ _ _ _ _ _ _ fun _ => Closed env agentId (delays ++ [backoff])
  · apply ensures_change
    intro s closed
    obtain ⟨links, all, here⟩ := closed
    refine ⟨links, all, at_snoc here ?_⟩
    cases links <;> rfl
  intro _
  apply ensures_bind stopRequested_closed
  intro stop
  exact ensures_pure _ fun s here => here

theorem connectionTurn_at {turns : Nat} {backoff : UInt32} :
    Ensures (Closed env agentId delays) (connectionTurn env config agentId turns backoff)
      (After env config agentId delays backoff) (fun _ => False) := by
  apply @ensures_attempt _ _ _ (Orderly env agentId delays)
  · apply ensures_exists
    intro links
    apply ensures_mono (ensures_fact fun all => ?_) (fun s here => ⟨here.2, here.1⟩)
      (fun _ _ here => here) fun _ here => here
    apply ensures_bind (runConnection_at all)
    intro ended
    split
    · apply ensures_bind (ensures_mono close_at (fun s here => here.orderly) (fun _ _ here => here)
        fun s here => here)
      intro _
      exact ensures_pure _ fun s here => Or.inl here.orderly
    · exact ensures_pure _ fun s here => Or.inl here.orderly
  · intro message
    apply ensures_bind close_at
    intro _
    apply ensures_bind sleepUntilStop_at
    intro goes_on
    split
    · exact ensures_pure _ fun s here => ⟨here, rfl⟩
    · apply ensures_bind (ensures_mono close_at (fun s here => here.orderly) (fun _ _ here => here)
        fun s here => here)
      intro _
      exact ensures_pure _ fun s here => Or.inr here.orderly

/-- The delay after so many failures. -/
def delay (config : AgentConfig) : Nat → UInt32
  | 0 => initialBackoff config
  | failures + 1 => nextBackoff config (delay config failures)

def firstDelays (config : AgentConfig) (count : Nat) : List UInt32 :=
  (List.range count).map (delay config)

theorem firstDelays_succ (config : AgentConfig) (count : Nat) :
    firstDelays config (count + 1) = firstDelays config count ++ [delay config count] := by
  unfold firstDelays
  rw [List.range_succ, List.map_append]
  rfl

theorem connections_at {turns attempts : Nat} (count : Nat) :
    Ensures (Closed env agentId (firstDelays config count))
      (connections env config agentId turns attempts (delay config count))
      (fun _ s => ∃ slept, Orderly env agentId (firstDelays config slept) s) (fun _ => False) := by
  induction attempts generalizing count with
  | zero => exact ensures_pure () fun s here => ⟨count, here.orderly⟩
  | succ attempts ih =>
    apply ensures_bind stopRequested_closed
    intro stop
    split
    · exact ensures_mono close_at (fun s here => here.orderly)
        (fun _ s here => ⟨count, here.orderly⟩) fun _ failed => failed
    apply ensures_bind connectionTurn_at
    intro ending
    have ended : ∀ s, Orderly env agentId (firstDelays config count) s ∨
        Orderly env agentId (firstDelays config count ++ [delay config count]) s →
        ∃ slept, Orderly env agentId (firstDelays config slept) s := by
      intro s either
      rcases either with now | once_more
      · exact ⟨count, now⟩
      · exact ⟨count + 1, by rw [firstDelays_succ]; exact once_more⟩
    cases ending with
    | ended => exact ensures_pure () ended
    | unfinished => exact ensures_pure () ended
    | again backoff =>
      apply ensures_fact
      intro doubled
      rw [doubled, ← firstDelays_succ]
      exact ih (count + 1)

/-- The notes of every run are those of a well-behaved agent; every connection handled the
    first commands of what it received; and the delays follow one another whatever came in
    between. -/
theorem run_orderly (env : Environment) (config : AgentConfig) (agentId : String)
    (turns attempts : Nat) : ∃ seen slept,
      trace (follow agentId) .start (logOf env config agentId turns attempts) = some seen ∧
        (∀ link ∈ seen.links, Faithful env link) ∧ seen.delays = firstDelays config slept := by
  have ran := @connections_at agentId env config turns attempts 0
  have closed : Closed env agentId (firstDelays config 0) .start := ⟨[], by simp, rfl⟩
  unfold logOf
  cases result : run env config agentId turns attempts .start with
  | mk outcome s =>
    cases outcome with
    | ok _ =>
      obtain ⟨slept, links, all, phase, here⟩ := ran.returns _ _ _ closed result
      exact ⟨_, slept, here, all, rfl⟩
    | error message => exact (ran.throws _ _ _ closed result).elim

end AgentRuntime
