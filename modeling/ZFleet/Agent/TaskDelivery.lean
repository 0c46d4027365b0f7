import ZFleet.Server.CommandWire
import ZFleet.Agent.SessionHistory
import ZFleet.Protocol.CodecRoundTrip

/-!
Tasks from the server to its agents and back. The server puts every task into one command
stream at most, an agent handles the first commands of what it has received, and a command
that is handled is started, executed and reported at most once. So no task is worked on
twice, whatever connections break and whoever connects again.
-/
namespace TaskDelivery
open Time Message Schema FrameCodec CommandStream CommandSessions CommandWakeups
open CommandPlaces CommandDelivery CommandWire AgentRuntime Tallies Runs
open ControlCodec hiding Bytes
open TaskStore hiding start
open Transactions hiding Session

/-! What a run does with a task -/

inductive Mark where
  | taken
  | started
  | executed
  | reported

variable {agentId taskId : String} {seen : Observed} {notes : List Note} {mark : Mark}

def carriesTask (taskId : String) (command : ServerCommand) : Bool :=
  match command.payload with
  | .task task => task.taskId = taskId
  | .error _ => false

def marksEvent (taskId : String) : Mark → AgentEvent → Bool
  | .started, .taskRunning running => running.taskId = taskId
  | .reported, .taskResult result => result.taskId = taskId
  | _, _ => false

/-- The note is one of the task. -/
def marks (mark : Mark) (taskId : String) : Note → Bool
  | .handle command => match mark with
    | .taken => carriesTask taskId command
    | _ => false
  | .execute other _ => match mark with
    | .executed => other = taskId
    | _ => false
  | .post events _ => events.any (marksEvent taskId mark)
  | _ => false

/-- The task that may still be marked. -/
def due (mark : Mark) : Phase → Option Task
  | .handling task => match mark with
    | .taken => none
    | _ => some task
  | .running task => match mark with
    | .taken | .started => none
    | _ => some task
  | .executed task _ _ => match mark with
    | .reported => some task
    | _ => none
  | _ => none

def dueOf (mark : Mark) (taskId : String) (phase : Phase) : Nat :=
  ((due mark phase).any fun task => task.taskId = taskId).toNat

/-- What is due behind a request, however it is answered. -/
theorem marks_answered {entry : Note} {goal : Phase} {bound : Nat}
    (within : (marks mark taskId entry).toNat + dueOf mark taskId goal ≤ bound)
    (status : Except String String) :
    (marks mark taskId entry).toNat + dueOf mark taskId (answered goal status) ≤ bound := by
  have less : dueOf mark taskId (answered goal status) ≤ dueOf mark taskId goal := by
    cases status with
    | error message => exact Nat.zero_le _
    | ok text =>
      rw [answered_ok]
      split
      · exact Nat.le_refl _
      · exact Nat.zero_le _
  omega

theorem dueOf_taken (phase : Phase) : dueOf .taken taskId phase = 0 := by
  cases phase <;> rfl

theorem due_begun (command : ServerCommand) :
    dueOf mark taskId (begun command) ≤ (carriesTask taskId command).toNat := by
  unfold begun carriesTask
  cases command.payload with
  | error error => exact Nat.le_refl 0
  | task task => cases mark <;> simp [dueOf, due]

theorem due_started {task : Task} {other : String} {phase : Phase}
    {execution : PackageUpdateExecutionResult} (next : started task other execution = some phase) :
    other = task.taskId ∧ ∃ input, phase = .executed task input execution := by
  unfold started at next
  split at next
  · rename_i input given
    split at next
    · rename_i own
      cases next
      exact ⟨own.1, input, rfl⟩
    · cases next
  · cases next

/-- A mark takes away what was due, and only a command that is taken makes anything due. -/
theorem marks_step {phase phase' : Phase} {entry : Note}
    (next : nextPhase agentId phase entry = some phase') (mark : Mark) (taskId : String) :
    (marks mark taskId entry).toNat + dueOf mark taskId phase' ≤
      dueOf mark taskId phase + (marks .taken taskId entry).toNat := by
  unfold nextPhase at next
  split at next
  · rename_i accepted
    cases next
    cases accepted <;> exact Nat.zero_le _
  · split at next
    · cases next
      apply marks_answered
      cases mark <;> exact Nat.zero_le _
    · cases next
  · cases next
    apply marks_answered
    exact Nat.zero_le _
  · split at next
    · cases next
      apply marks_answered
      cases mark <;> exact Nat.zero_le _
    · cases next
  · cases next
    exact Nat.zero_le _
  · -- a command is taken
    rename_i command
    cases next
    have dues := @due_begun taskId mark command
    cases mark with
    | taken => rw [dueOf_taken, Nat.add_zero]; exact Nat.le_add_left _ _
    | _ => simpa [marks, dueOf, due] using dues
  · rename_i task running status
    split at next
    · rename_i own
      cases next
      apply marks_answered
      have same := own.1
      cases mark <;> simp [marks, marksEvent, dueOf, due, same]
    · cases next
  · obtain ⟨rfl, input, rfl⟩ := due_started next
    cases mark <;> simp [marks, dueOf, due]
  · rename_i task result status
    split at next
    · rename_i own
      cases next
      apply marks_answered
      have same := own.2.1
      cases mark <;> simp [marks, marksEvent, dueOf, due, same]
    · cases next
  · rename_i task input execution result status
    split at next
    · rename_i own
      cases next
      apply marks_answered
      have same : result.taskId = task.taskId := by
        rw [own]
        rfl
      cases mark <;> simp [marks, marksEvent, dueOf, due, same]
    · cases next
  · cases next
    exact Nat.zero_le _
  · cases next
    exact Nat.zero_le _
  · cases next

/-- A task is marked at most as often as a command with it is taken. -/
theorem trace_marks {start : Observed} (ran : trace (follow agentId) start notes = some seen)
    (mark : Mark) (taskId : String) :
    notes.countP (marks mark taskId) + dueOf mark taskId seen.phase ≤
      dueOf mark taskId start.phase + notes.countP (marks .taken taskId) := by
  induction notes generalizing start with
  | nil =>
    obtain rfl : start = seen := Option.some.inj ran
    simp
  | cons entry notes ih =>
    obtain ⟨middle, taken, later⟩ := trace_cons_some ran
    have here := marks_step (follow_some taken).1 mark taskId
    have rest := ih later
    have counted : ∀ marked : Bool, (if marked = true then 1 else 0) = marked.toNat := by decide
    simp only [List.countP_cons, counted]
    omega

/-! What its connections handle -/

def takenIn (taskId : String) (links : List Link) : Nat :=
  (links.map fun link => link.handled.countP (carriesTask taskId)).sum

/-- An open connection is there. -/
def Linked (links : List Link) : Phase → Prop
  | .closed | .broken => True
  | _ => links ≠ []

theorem addNote_ne_nil {links : List Link} (some_link : links ≠ []) (entry : Note) :
    addNote links entry ≠ [] := by
  cases links with
  | nil => exact absurd rfl some_link
  | cons link links =>
    cases entry with
    | connect accepted => cases accepted <;> exact List.cons_ne_nil _ _
    | _ => exact List.cons_ne_nil _ _

theorem linked_of_ne_nil {links : List Link} (some_link : links ≠ []) (phase : Phase) :
    Linked links phase := by
  cases phase <;> trivial

theorem linked_step {links : List Link} {phase phase' : Phase} {entry : Note}
    (linked : Linked links phase) (next : nextPhase agentId phase entry = some phase') :
    Linked (addNote links entry) phase' := by
  cases phase with
  | closed =>
    cases entry with
    | connect accepted =>
      cases next
      cases accepted with
      | false => trivial
      | true => exact linked_of_ne_nil (List.cons_ne_nil _ _) _
    | sleep seconds | close =>
      cases next
      trivial
    | _ => cases next
  | broken =>
    cases entry with
    | close =>
      cases next
      trivial
    | _ => cases next
  | _ => exact linked_of_ne_nil (addNote_ne_nil linked entry) phase'

theorem takenIn_step {links : List Link} {phase phase' : Phase} {entry : Note}
    (linked : Linked links phase) (next : nextPhase agentId phase entry = some phase')
    (taskId : String) :
    takenIn taskId (addNote links entry) =
      takenIn taskId links + (marks .taken taskId entry).toNat := by
  cases entry with
  | connect accepted =>
    cases accepted with
    | false => cases links <;> rfl
    | true => simp [takenIn, addNote, marks]
  | handle command =>
    have streaming := next_handle next
    rw [streaming] at linked
    cases links with
    | nil => exact absurd rfl linked
    | cons link links =>
      simp only [takenIn, addNote, marks, List.map_cons, List.sum_cons, List.countP_append,
        List.countP_singleton]
      have counted : ∀ marked : Bool, (if marked = true then 1 else 0) = marked.toNat := by decide
      rw [counted]
      omega
  | post events status =>
    have unmarked : events.any (marksEvent taskId .taken) = false := by
      simp [marksEvent]
    simp only [marks, unmarked]
    cases links <;> rfl
  | _ => cases links <;> rfl

theorem trace_taken {start : Observed} (ran : trace (follow agentId) start notes = some seen)
    (linked : Linked start.links start.phase) (taskId : String) :
    takenIn taskId seen.links = takenIn taskId start.links + notes.countP (marks .taken taskId) := by
  induction notes generalizing start with
  | nil =>
    obtain rfl : start = seen := Option.some.inj ran
    rfl
  | cons entry notes ih =>
    obtain ⟨middle, taken, later⟩ := trace_cons_some ran
    obtain ⟨next, links, _⟩ := follow_some taken
    have linked' : Linked middle.links middle.phase := links ▸ linked_step linked next
    have here := takenIn_step linked next taskId
    have counted : ∀ marked : Bool, (if marked = true then 1 else 0) = marked.toNat := by decide
    rw [ih later linked', links, here, List.countP_cons, counted]
    omega

/-- In a run a task is marked at most as often as its connections handled it. -/
theorem run_marks (env : Environment) (config : AgentConfig) (agentId : String)
    (turns attempts : Nat) (mark : Mark) (taskId : String) :
    (logOf env config agentId turns attempts).countP (marks mark taskId) ≤
      takenIn taskId (linksOf (logOf env config agentId turns attempts)) := by
  obtain ⟨seen, _, ran, _⟩ := run_orderly env config agentId turns attempts
  have links : seen.links = linksOf (logOf env config agentId turns attempts) := (trace_folds ran).1
  have marked := trace_marks ran mark taskId
  have taken := trace_taken ran trivial taskId
  have first : dueOf mark taskId Observed.start.phase = 0 := rfl
  have none_taken : takenIn taskId Observed.start.links = 0 := rfl
  rw [← links]
  omega

/-! What the server sends -/

/-- The command of a task, as the server makes it. -/
def commandFor (task : Task) (messageId correlationId occurredAt : String) : ServerCommand where
  protocolVersion := protocolVersion
  messageId := messageId
  correlationId := correlationId
  agentId := task.agentId
  occurredAt := occurredAt
  payload := .task task

def encodeCommandFrame (wire : Wire ProtoServerCommand) (task : Task)
    (messageId correlationId occurredAt : String) : Except String Bytes := do
  let payload ← encodeServerCommandPayload wire
    (commandFor task messageId correlationId occurredAt)
  encodeFrame payload

/-- The frame that is put into the stream is the one of the task. -/
def Encoded (wire : Wire ProtoServerCommand) (loaded : Loaded) : Prop :=
  ∃ messageId correlationId occurredAt,
    encodeCommandFrame wire loaded.task messageId correlationId occurredAt =
      .ok (frameOf loaded.payload)

/-- What is written is read again. -/
def ReadsBack (wire : Wire ProtoServerCommand) : Prop :=
  ∀ message bytes, wire.serializeToString message = some bytes →
    wire.parseFromArray bytes = some message

theorem encoded_payload {wire : Wire ProtoServerCommand} {loaded : Loaded}
    (encoded : Encoded wire loaded) :
    loaded.payload.length ≤ (0xffffffff : UInt32).toNat ∧
      ∃ messageId correlationId occurredAt, encodeServerCommandPayload wire
        (commandFor loaded.task messageId correlationId occurredAt) = .ok loaded.payload := by
  obtain ⟨messageId, correlationId, occurredAt, framed⟩ := encoded
  unfold encodeCommandFrame at framed
  cases written : encodeServerCommandPayload wire
      (commandFor loaded.task messageId correlationId occurredAt) with
  | error message =>
    rw [written] at framed
    cases framed
  | ok payload =>
    rw [written] at framed
    have fits : payload.length ≤ (0xffffffff : UInt32).toNat := by
      by_contra large
      have refused : encodeFrame payload = .error "protobuf frame is too large" :=
        if_pos (Nat.not_le.mp large)
      change encodeFrame payload = _ at framed
      rw [refused] at framed
      cases framed
    have same_frame : frameOf payload = frameOf loaded.payload := by
      change encodeFrame payload = _ at framed
      rw [encodeFrame_fits fits] at framed
      exact Except.ok.inj framed
    have same : payload = loaded.payload := (List.append_inj same_frame rfl).2
    rw [← same]
    exact ⟨fits, messageId, correlationId, occurredAt, written⟩

/-- An agent reads the task of the frame, whatever its input. -/
theorem encoded_decodes {wire : Wire ProtoServerCommand} (reads_back : ReadsBack wire)
    {loaded : Loaded} (encoded : Encoded wire loaded) : ∃ command task,
      decodeServerCommandPayload wire loaded.payload = .ok command ∧
        command.payload = .task task ∧ command.agentId = loaded.task.agentId ∧
        task.taskId = loaded.task.taskId ∧ task.agentId = loaded.task.agentId ∧
        task.taskType = loaded.task.taskType := by
  obtain ⟨_, messageId, correlationId, occurredAt, written⟩ := encoded_payload encoded
  unfold encodeServerCommandPayload serializeProto at written
  split at written
  · cases written
  · rename_i bytes serialized
    cases written
    have read := reads_back _ _ serialized
    unfold decodeServerCommandPayload
    rw [read]
    simp only [toDomainServerCommand, toDomainServerCommandPayload, toProtoServerCommand,
      commandFor, toProtoServerCommandPayload, toDomainTask, toDomainTaskType_toProto,
      toDomainCapabilityLevel_toProto, Except.map]
    exact ⟨_, _, rfl, rfl, rfl, rfl, rfl, rfl⟩

/-- Who has taken frames off the front of a stream has taken the first payloads. -/
theorem frames_taken {frames payloads : List Bytes} {rest : Bytes}
    (fit : ∀ frame ∈ frames, FrameFits frame)
    (bounded : ∀ payload ∈ payloads, payload.length ≤ (0xffffffff : UInt32).toNat)
    (received : (frames.map frameOf).flatten ++ rest <+: (payloads.map frameOf).flatten) :
    frames <+: payloads := by
  induction frames generalizing payloads with
  | nil => exact List.nil_prefix
  | cons frame frames ih =>
    obtain ⟨later, whole⟩ := received
    cases payloads with
    | nil =>
      have empty := (List.append_eq_nil_iff.mp (List.append_eq_nil_iff.mp whole).1).1
      rw [List.map_cons, List.flatten_cons] at empty
      exact absurd (List.append_eq_nil_iff.mp empty).1 (frameOf_ne_nil frame)
    | cons payload payloads =>
      simp only [List.map_cons, List.flatten_cons, List.append_assoc] at whole
      have first : frame.length ≤ (0xffffffff : UInt32).toNat := by
        have small : frame.length ≤ kDefaultMaxFrameBytes.toNat := fit frame (by simp)
        have less : kDefaultMaxFrameBytes.toNat ≤ (0xffffffff : UInt32).toNat := by decide
        omega
      have one := takeFrame_frameOf first ((frames.map frameOf).flatten ++ (rest ++ later))
      rw [whole, takeFrame_frameOf (bounded payload (by simp))] at one
      obtain ⟨rfl, behind⟩ := Prod.mk.inj (Option.some.inj (Except.ok.inj one))
      rw [List.cons_prefix_cons]
      refine ⟨rfl, ih (fun other member => fit other (List.mem_cons_of_mem _ member))
        (fun other member => bounded other (List.mem_cons_of_mem _ member)) ⟨later, ?_⟩⟩
      rw [behind, List.append_assoc]

/-! From the streams to the runs -/

/-- The command is the one that the server made of the task. -/
def TakenFrom (command : ServerCommand) (loaded : Loaded) : Prop :=
  ∃ task, command.payload = .task task ∧ command.agentId = loaded.task.agentId ∧
    task.taskId = loaded.task.taskId ∧ task.agentId = loaded.task.agentId ∧
    task.taskType = loaded.task.taskType

theorem commands_taken {wire : Wire ProtoServerCommand} (reads_back : ReadsBack wire)
    {arrived : List Loaded} {handled : List ServerCommand}
    (encoded : ∀ loaded ∈ arrived, Encoded wire loaded)
    (ran : (arrived.map Loaded.payload).mapM (decodeServerCommandPayload wire) = .ok handled) :
    List.Forall₂ TakenFrom handled arrived := by
  induction arrived generalizing handled with
  | nil =>
    cases ran
    exact List.Forall₂.nil
  | cons loaded arrived ih =>
    obtain ⟨first, later, read, behind, rfl⟩ := mapM_cons_ok ran
    obtain ⟨command, task, decodes, taken⟩ :=
      encoded_decodes reads_back (encoded loaded (by simp))
    rw [decodes] at read
    cases read
    exact List.Forall₂.cons ⟨task, taken⟩
      (ih (fun other member => encoded other (List.mem_cons_of_mem _ member)) behind)

theorem countP_taken {handled : List ServerCommand} {arrived : List Loaded}
    (taken : List.Forall₂ TakenFrom handled arrived) (taskId : String) :
    handled.countP (carriesTask taskId) =
      arrived.countP fun loaded => loaded.task.taskId = taskId := by
  induction taken with
  | nil => rfl
  | cons first others ih =>
    obtain ⟨task, payload, _, same, _⟩ := first
    simp only [List.countP_cons, ih, carriesTask, payload, same]

theorem taken_member {handled : List ServerCommand} {arrived : List Loaded}
    (taken : List.Forall₂ TakenFrom handled arrived) {command : ServerCommand}
    (member : command ∈ handled) : ∃ loaded ∈ arrived, TakenFrom command loaded := by
  induction taken with
  | nil => cases member
  | cons first others ih =>
    rcases List.mem_cons.mp member with rfl | later
    · exact ⟨_, List.mem_cons_self, first⟩
    · obtain ⟨loaded, there, from_it⟩ := ih later
      exact ⟨loaded, List.mem_cons_of_mem _ there, from_it⟩

section Delivery
variable {server : Server} {actions : List Action} {wire : Wire ProtoServerCommand}

/-- What a connection handles are the first commands of its stream. -/
theorem handled_first {c : String} {streamId : Nat} {link : Link}
    (reads_back : ReadsBack wire) (steady : Steady server)
    (idle : waiting streamId (server.sessions c) = [])
    (encoded : ∀ loaded ∈ loadedIn server actions, Encoded wire loaded)
    (decoded : Decoded wire link.chunks.flatten link.handled)
    (received : link.chunks.flatten <+: sentOn c streamId server actions) :
    ∃ arrived, arrived <+: loadedOn c streamId server actions ∧
      List.Forall₂ TakenFrom link.handled arrived := by
  obtain ⟨flows, _⟩ := @run_feeds_stream c streamId server steady actions
  rw [idle, List.nil_append] at flows
  obtain ⟨frames, rest, split, fit, ran⟩ := decoded
  have framed : framesOf (loadedOn c streamId server actions) =
      (((loadedOn c streamId server actions).map Loaded.payload).map frameOf).flatten := by
    rw [List.map_map]
    rfl
  have front := received.trans ((List.prefix_append _ _).trans flows)
  rw [split, framed] at front
  have on_stream : ∀ loaded ∈ loadedOn c streamId server actions, Encoded wire loaded :=
    fun loaded member => encoded loaded (List.mem_filter.mp member).1
  have bounded : ∀ payload ∈ (loadedOn c streamId server actions).map Loaded.payload,
      payload.length ≤ (0xffffffff : UInt32).toNat := by
    intro payload member
    obtain ⟨loaded, there, rfl⟩ := List.mem_map.mp member
    exact (encoded_payload (on_stream loaded there)).1
  obtain ⟨others, whole⟩ := frames_taken fit bounded front
  obtain ⟨arrived, coming, cut, rfl, _⟩ := List.map_eq_append_iff.mp whole.symm
  refine ⟨arrived, ⟨coming, cut.symm⟩, commands_taken reads_back ?_ ran⟩
  intro loaded member
  exact on_stream loaded (cut ▸ List.mem_append_left coming member)

theorem takenIn_le {links : List Link} {streams : List (String × Nat)}
    (handles : List.Forall₂ (fun link stream => ∃ arrived,
      arrived <+: loadedOn stream.1 stream.2 server actions ∧
        List.Forall₂ TakenFrom link.handled arrived) links streams) (taskId : String) :
    takenIn taskId links ≤ (streams.map fun stream =>
      (loadedOn stream.1 stream.2 server actions).countP
        fun loaded => loaded.task.taskId = taskId).sum := by
  induction handles with
  | nil => exact Nat.le_refl 0
  | cons first others ih =>
    obtain ⟨arrived, front, taken⟩ := first
    have here := front.sublist.countP_le (p := fun loaded : Loaded =>
      decide (loaded.task.taskId = taskId))
    rw [← countP_taken taken] at here
    simp only [takenIn, List.map_cons, List.sum_cons] at ih ⊢
    omega

end Delivery

/-! Whole systems -/

/-- A run of an agent. An agent that is started again has another run. -/
structure AgentRun where
  env : Environment
  config : AgentConfig
  agentId : String
  turns : Nat
  attempts : Nat

def AgentRun.log (run : AgentRun) : List Note :=
  logOf run.env run.config run.agentId run.turns run.attempts

theorem runs_mark (runs : List AgentRun) (mark : Mark) (taskId : String) :
    (runs.flatMap AgentRun.log).countP (marks mark taskId) ≤
      takenIn taskId (runs.flatMap fun run => linksOf run.log) := by
  induction runs with
  | nil => exact Nat.le_refl 0
  | cons run runs ih =>
    have here := run_marks run.env run.config run.agentId run.turns run.attempts mark taskId
    change run.log.countP _ ≤ takenIn taskId (linksOf run.log) at here
    simp only [List.flatMap_cons, List.countP_append, takenIn, List.map_append,
      List.sum_append] at ih here ⊢
    omega

theorem onStream_disjoint (stream stream' : String × Nat) (loaded : Loaded)
    (on : onStream stream.1 stream.2 loaded = true)
    (on' : onStream stream'.1 stream'.2 loaded = true) : stream = stream' := by
  simp only [onStream, Bool.and_eq_true, decide_eq_true_eq] at on on'
  exact Prod.ext (on.1.symm.trans on'.1) (on.2.symm.trans on'.2)

def inventoryWire : Wire ProtoServerCommand :=
  wireOf (toProtoServerCommand (commandFor (ClaimSafety.inventoryTask "task-1") "m" "c" "t"))
    [7, 8]

/-- An agent that receives the stream of the one command. -/
def inventoryRun : AgentRun :=
  ⟨acceptingServer inventoryWire [0, 0, 0, 2, 7, 8], {}, "agent-1", 1, 1⟩

end TaskDelivery
