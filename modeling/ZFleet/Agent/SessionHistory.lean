import ZFleet.Agent.SessionProtocol
import ZFleet.Protocol.CodecRoundTrip

/-!
What stands before a note of a run. A command is handled in an open stream, an update is
executed and a result is posted right after the start of its task was accepted, and the
delays between the connections double up to their bound.
-/
namespace AgentRuntime
open Message FrameCodec Dialogues Runs
open ControlCodec hiding Bytes

variable {agentId : String} {seen seen' : Observed} {log before after : List Note}
variable {env : Environment} {config : AgentConfig} {turns attempts : Nat}

theorem follow_some {entry : Note} (allowed : follow agentId seen entry = some seen') :
    nextPhase agentId seen.phase entry = some seen'.phase ∧
      seen'.links = addNote seen.links entry ∧ seen'.delays = addDelay seen.delays entry := by
  obtain ⟨phase, next, rfl⟩ := Option.map_eq_some_iff.mp allowed
  exact ⟨next, rfl, rfl⟩

theorem trace_folds {start : Observed} (ran : trace (follow agentId) start log = some seen) :
    seen.links = log.foldl addNote start.links ∧ seen.delays = log.foldl addDelay start.delays := by
  induction log generalizing start with
  | nil =>
    obtain rfl : start = seen := Option.some.inj ran
    exact ⟨rfl, rfl⟩
  | cons entry log ih =>
    obtain ⟨next, taken, later⟩ := trace_cons_some ran
    obtain ⟨_, links, delays⟩ := follow_some taken
    obtain ⟨links', delays'⟩ := ih later
    rw [List.foldl_cons, List.foldl_cons, ← links, ← delays]
    exact ⟨links', delays'⟩

theorem trace_snoc {start : Observed} {entry : Note}
    (ran : trace (follow agentId) start (log ++ [entry]) = some seen') :
    ∃ seen, trace (follow agentId) start log = some seen ∧
      nextPhase agentId seen.phase entry = some seen'.phase := by
  obtain ⟨seen, early, last⟩ := trace_append_some ran
  obtain ⟨next, taken, done⟩ := trace_cons_some last
  obtain rfl : next = seen' := Option.some.inj done
  exact ⟨seen, early, (follow_some taken).1⟩

/-! Histories -/

def staysOpen : Note → Bool
  | .connect _ | .close => false
  | _ => true

/-- A connection that was registered and whose command stream was accepted, and is not
    closed since. -/
def Opened (agentId : String) (log : List Note) : Prop :=
  ∃ (earlier : List Note) (registration : AgentRegistration) (heartbeat : AgentHeartbeat)
    (later : List Note),
    log = earlier ++ [.connect true, .post [.registration registration, .heartbeat heartbeat]
      (.ok "200"), .openStream (.ok "200")] ++ later ∧
    registration.agentId = agentId ∧ heartbeat.agentId = agentId ∧ later.all staysOpen = true

/-- The task was taken up in an open stream, and its start was accepted. -/
def Begun (agentId : String) (task : Task) (log : List Note) : Prop :=
  ∃ earlier command running, Opened agentId earlier ∧ command.payload = .task task ∧
    Starts agentId task running ∧
    log = earlier ++ [.handle command, .post [.taskRunning running] (.ok "200")]

def History (agentId : String) : Phase → List Note → Prop
  | .closed, _ | .broken, _ => True
  | .connected, log => ∃ earlier, log = earlier ++ [.connect true]
  | .greeted, log => ∃ earlier registration heartbeat,
    registration.agentId = agentId ∧ heartbeat.agentId = agentId ∧
      log = earlier ++ [.connect true,
        .post [.registration registration, .heartbeat heartbeat] (.ok "200")]
  | .streaming, log => Opened agentId log
  | .handling task, log => ∃ earlier command, Opened agentId earlier ∧
    command.payload = .task task ∧ log = earlier ++ [.handle command]
  | .running task, log => Begun agentId task log
  | .executed task input execution, log => ∃ earlier, Begun agentId task earlier ∧
    task.taskType ≠ .collectBasicInventory ∧ task.input = .packageUpdate input ∧
      log = earlier ++ [.execute task.taskId execution]

theorem Opened.snoc {entry : Note} (opened : Opened agentId log) (stays : staysOpen entry = true) :
    Opened agentId (log ++ [entry]) := by
  obtain ⟨earlier, registration, heartbeat, later, rfl, own, own', all⟩ := opened
  refine ⟨earlier, registration, heartbeat, later ++ [entry], ?_, own, own', ?_⟩
  · rw [List.append_assoc]
  · rw [List.all_append, all]
    simp [stays]

theorem history_answered {goal : Phase} {status : Except String String}
    (goes_on : status = .ok "200" → History agentId goal log) :
    History agentId (answered goal status) log := by
  cases status with
  | error message => trivial
  | ok text =>
    rw [answered_ok]
    by_cases accepted : text = "200"
    · rw [if_pos accepted]
      exact goes_on (by rw [accepted])
    · rw [if_neg accepted]
      trivial

theorem Begun.opened {task : Task} (begun : Begun agentId task log) : Opened agentId log := by
  obtain ⟨earlier, command, running, opened, _, _, rfl⟩ := begun
  rw [List.append_cons]
  exact (opened.snoc rfl).snoc rfl

theorem history_begun {command : ServerCommand} (opened : Opened agentId log) :
    History agentId (begun command) (log ++ [.handle command]) := by
  unfold begun
  split
  · rename_i task payload
    exact ⟨log, command, opened, payload, rfl⟩
  · trivial

theorem history_started {task : Task} {taskId : String} {phase : Phase}
    {execution : PackageUpdateExecutionResult} (begun : Begun agentId task log)
    (next : started task taskId execution = some phase) :
    History agentId phase (log ++ [.execute taskId execution]) := by
  unfold started at next
  split at next
  · rename_i input given
    split at next
    · rename_i own
      cases next
      exact ⟨log, begun, own.2, given, by rw [own.1]⟩
    · cases next
  · cases next

theorem history_step {phase phase' : Phase} {entry : Note} (history : History agentId phase log)
    (next : nextPhase agentId phase entry = some phase') :
    History agentId phase' (log ++ [entry]) := by
  unfold nextPhase at next
  split at next
  · -- a connection is made
    rename_i accepted
    cases next
    cases accepted with
    | false => trivial
    | true => exact ⟨log, rfl⟩
  · -- and registered
    rename_i registration heartbeat status
    split at next
    · rename_i own
      cases next
      obtain ⟨earlier, rfl⟩ := history
      apply history_answered
      rintro rfl
      exact ⟨earlier, registration, heartbeat, own.1, own.2, by simp⟩
    · cases next
  · -- and its command stream is opened
    rename_i status
    cases next
    obtain ⟨earlier, registration, heartbeat, own, own', rfl⟩ := history
    apply history_answered
    rintro rfl
    exact ⟨earlier, registration, heartbeat, [], by simp, own, own', rfl⟩
  · rename_i heartbeat status
    split at next
    · cases next
      exact history_answered fun _ => Opened.snoc history rfl
    · cases next
  · cases next
    exact Opened.snoc history rfl
  · cases next
    exact history_begun history
  · -- the start of a task is posted
    rename_i task running status
    split at next
    · rename_i starts
      cases next
      obtain ⟨earlier, command, opened, payload, rfl⟩ := history
      apply history_answered
      rintro rfl
      exact ⟨earlier, command, running, opened, payload, starts, by simp⟩
    · cases next
  · exact history_started history next
  · split at next
    · cases next
      exact history_answered fun _ => (Begun.opened history).snoc rfl
    · cases next
  · -- the result of an executed update is posted
    split at next
    · cases next
      obtain ⟨earlier, begun, _, _, rfl⟩ := history
      exact history_answered fun _ => (begun.opened.snoc rfl).snoc rfl
    · cases next
  · cases next
    trivial
  · cases next
    trivial
  · cases next

theorem trace_history (ran : trace (follow agentId) .start log = some seen) :
    History agentId seen.phase log := by
  induction log using List.reverseRecOn generalizing seen with
  | nil =>
    obtain rfl : Observed.start = seen := Option.some.inj ran
    trivial
  | append_singleton log entry ih =>
    obtain ⟨earlier, early, next⟩ := trace_snoc ran
    exact history_step (ih early) next

/-! What a note tells -/

/-- The notes before one of a run, and what it follows on. -/
theorem noted {entry : Note} (split : logOf env config agentId turns attempts =
    before ++ entry :: after) : ∃ phase phase', History agentId phase before ∧
      nextPhase agentId phase entry = some phase' := by
  obtain ⟨seen, _, ran, _⟩ := run_orderly env config agentId turns attempts
  rw [split] at ran
  obtain ⟨middle, early, late⟩ := trace_append_some ran
  obtain ⟨next, taken, _⟩ := trace_cons_some late
  exact ⟨middle.phase, next.phase, trace_history early, (follow_some taken).1⟩

theorem next_handle {phase phase' : Phase} {command : ServerCommand}
    (next : nextPhase agentId phase (.handle command) = some phase') : phase = .streaming := by
  cases phase <;> first | rfl | cases next

theorem next_execute {phase phase' : Phase} {taskId : String}
    {execution : PackageUpdateExecutionResult}
    (next : nextPhase agentId phase (.execute taskId execution) = some phase') :
    ∃ task, phase = .running task ∧ started task taskId execution = some phase' := by
  cases phase with
  | running task => exact ⟨task, rfl, next⟩
  | _ => cases next

theorem started_some {task : Task} {taskId : String} {phase : Phase}
    {execution : PackageUpdateExecutionResult} (next : started task taskId execution = some phase) :
    task.taskId = taskId ∧ ∃ input, task.input = .packageUpdate input := by
  unfold started at next
  split at next
  · rename_i input given
    split at next
    · rename_i own
      exact ⟨own.1.symm, input, given⟩
    · cases next
  · cases next

theorem next_result {phase phase' : Phase} {events : List AgentEvent} {result : TaskResult}
    {status : Except String String} (reported : .taskResult result ∈ events)
    (next : nextPhase agentId phase (.post events status) = some phase') :
    events = [.taskResult result] ∧
      ((∃ task, phase = .running task ∧ ReportsInventory agentId task result) ∨
        ∃ task input execution, phase = .executed task input execution ∧
          ReportsUpdate agentId task input execution result) := by
  unfold nextPhase at next
  split at next
  case h_9 task reporting _ same =>
    cases same
    split at next
    · rename_i reports
      cases List.mem_singleton.mp reported
      exact ⟨rfl, Or.inl ⟨task, rfl, reports⟩⟩
    · cases next
  case h_10 task input execution reporting _ same =>
    cases same
    split at next
    · rename_i reports
      cases List.mem_singleton.mp reported
      exact ⟨rfl, Or.inr ⟨task, input, execution, rfl, reports⟩⟩
    · cases next
  case h_13 => cases next
  all_goals
    rename_i same
    cases same
  all_goals simp at reported

/-- A command is handled in an open stream of a registered connection. Right before an update
    is executed its task was taken up and the start of the task accepted, and so it is before
    a result is posted, which says what the execution said. -/
theorem reports_follow_starts (env : Environment) (config : AgentConfig) (agentId : String)
    (turns attempts : Nat) (before after : List Note) (entry : Note)
    (split : logOf env config agentId turns attempts = before ++ entry :: after) :
    (∀ command, entry = .handle command → Opened agentId before) ∧
    (∀ taskId execution, entry = .execute taskId execution →
      ∃ task input, Begun agentId task before ∧ task.taskId = taskId ∧
        task.input = .packageUpdate input) ∧
    ∀ events status result, entry = .post events status → .taskResult result ∈ events →
      events = [.taskResult result] ∧
      ((∃ task, Begun agentId task before ∧ ReportsInventory agentId task result) ∨
        ∃ task input execution earlier, Begun agentId task earlier ∧
          task.input = .packageUpdate input ∧
          before = earlier ++ [.execute task.taskId execution] ∧
          ReportsUpdate agentId task input execution result) := by
  obtain ⟨phase, phase', history, next⟩ := noted split
  refine ⟨?_, ?_, ?_⟩
  · rintro command rfl
    rw [next_handle next] at history
    exact history
  · rintro taskId execution rfl
    obtain ⟨task, rfl, begins⟩ := next_execute next
    obtain ⟨own, input, given⟩ := started_some begins
    exact ⟨task, input, history, own, given⟩
  · rintro events status result rfl reported
    obtain ⟨alone, either⟩ := next_result reported next
    refine ⟨alone, ?_⟩
    rcases either with ⟨task, rfl, reports⟩ | ⟨task, input, execution, rfl, reports⟩
    · exact Or.inl ⟨task, history, reports⟩
    · obtain ⟨earlier, begun, _, given, executed⟩ := history
      exact Or.inr ⟨task, input, execution, earlier, begun, given, executed, reports⟩

/-- A server that accepts everything and sends the same bytes in every turn. -/
def acceptingServer (commandWire : ControlCodec.Wire ControlCodec.ProtoServerCommand)
    (sent : Bytes) : Environment where
  generateUuid _ := "id"
  nowUtcRfc3339 _ := "2026-03-01T12:00:00Z"
  hostname _ := "host"
  os := "linux"
  arch := "x86_64"
  version := "1.0.0"
  wire := ⟨fun _ => some [], fun _ => none⟩
  commandWire := commandWire
  http2ErrorMessage _ := ""
  stopSignalled _ := false
  steadyNow _ := 0
  connect _ := .ok ()
  postEvents _ := .ok "200"
  startCommandStream _ := .ok "200"
  commandStreamOpen _ := true
  commandStreamErrorCode _ := none
  pumpFor _ := .ok ()
  drainCommandBytes _ := sent
  executePackageUpdate _ _ := { ok := true }

def updateCommand : ControlCodec.ProtoServerCommand where
  agentId := "agent-1"
  payload := .taskAssigned {
    taskId := "task-1"
    taskType := .packageUpdate
    capabilityLevel := .lowRiskWrite }

/-- The notes of one connection that receives an update. -/
def updateLog : List Note :=
  logOf (acceptingServer (ControlCodec.wireOf updateCommand [7, 8]) [0, 0, 0, 2, 7, 8]) {}
    "agent-1" 1 1

theorem update_begins : ∃ task input, Begun "agent-1" task (updateLog.take 6) ∧
    task.taskId = "task-1" ∧ task.input = .packageUpdate input := by
  have split : updateLog =
      updateLog.take 6 ++ .execute "task-1" { ok := true } :: updateLog.drop 7 := by
    decide +kernel
  exact (reports_follow_starts _ {} "agent-1" 1 1 _ _ _ split).2.1 _ _ rfl

/-! Connections and delays -/

/-- What each connection received and handled, the newest in front. -/
def linksOf (log : List Note) : List Link := log.foldl addNote []

def delaysOf (log : List Note) : List UInt32 := log.foldl addDelay []

theorem links_faithful (env : Environment) (config : AgentConfig) (agentId : String)
    (turns attempts : Nat) : ∀ link ∈ linksOf (logOf env config agentId turns attempts),
      Faithful env link := by
  obtain ⟨seen, _, ran, all, _⟩ := run_orderly env config agentId turns attempts
  have links : seen.links = linksOf (logOf env config agentId turns attempts) := (trace_folds ran).1
  rw [← links]
  exact all

/-- In every run what a connection has handled are the commands in the first frames of the
    bytes that it received itself, in order. -/
theorem run_links (env : Environment) (config : AgentConfig) (agentId : String)
    (turns attempts : Nat) (link : Link)
    (connected : link ∈ linksOf (logOf env config agentId turns attempts)) :
    ∃ (frames : List Bytes) (rest : Bytes),
      link.chunks.flatten = (frames.map frameOf).flatten ++ rest ∧
      (∀ frame ∈ frames, FrameFits frame) ∧
      frames.mapM (decodeServerCommandPayload env.commandWire) = .ok link.handled := by
  obtain ⟨frames, rest, received, fit, decoded⟩ :=
    links_faithful env config agentId turns attempts link connected
  exact ⟨frames, rest, received, fit, decoded⟩

theorem update_link : ∃ link ∈ linksOf updateLog, ∃ (frames : List Bytes) (rest : Bytes),
    link.chunks.flatten = (frames.map frameOf).flatten ++ rest ∧
    frames.mapM (decodeServerCommandPayload (wireOf updateCommand [7, 8])) = .ok link.handled := by
  obtain ⟨link, connected⟩ : ∃ link, link ∈ linksOf updateLog :=
    List.exists_mem_of_length_pos (by decide +kernel)
  obtain ⟨frames, rest, received, _, decoded⟩ := run_links _ {} "agent-1" 1 1 link connected
  exact ⟨link, connected, frames, rest, received, decoded⟩

theorem run_delays (env : Environment) (config : AgentConfig) (agentId : String)
    (turns attempts : Nat) : ∃ slept,
      delaysOf (logOf env config agentId turns attempts) = firstDelays config slept := by
  obtain ⟨seen, slept, ran, _, delays⟩ := run_orderly env config agentId turns attempts
  exact ⟨slept, (trace_folds ran).2.symm.trans delays⟩

theorem toNat_max (a b : UInt32) : (max a b).toNat = max a.toNat b.toNat := by
  by_cases ordered : a ≤ b
  · have greater : max a b = b := if_pos ordered
    rw [greater, Nat.max_eq_right (UInt32.le_iff_toNat_le.mp ordered)]
  · have greater : max a b = a := if_neg ordered
    have less := UInt32.lt_iff_toNat_lt.mp (UInt32.not_le.mp ordered)
    rw [greater]
    omega

theorem toNat_min (a b : UInt32) : (min a b).toNat = min a.toNat b.toNat := by
  by_cases ordered : a ≤ b
  · have less : min a b = a := if_pos ordered
    rw [less, Nat.min_eq_left (UInt32.le_iff_toNat_le.mp ordered)]
  · have less : min a b = b := if_neg ordered
    have greater := UInt32.lt_iff_toNat_lt.mp (UInt32.not_le.mp ordered)
    rw [less]
    omega

theorem initialBackoff_le (config : AgentConfig) :
    (initialBackoff config).toNat ≤ (maxBackoff config).toNat := by
  unfold maxBackoff
  rw [toNat_max]
  omega

theorem initialBackoff_pos (config : AgentConfig) : 1 ≤ (initialBackoff config).toNat := by
  unfold initialBackoff
  rw [toNat_max]
  exact Nat.le_max_left _ _

/-- The product is taken modulo the width of the counter. -/
theorem nextBackoff_toNat (config : AgentConfig) (backoff : UInt32) :
    (nextBackoff config backoff).toNat =
      min (backoff.toNat * 2 % 2 ^ 32) (maxBackoff config).toNat := by
  unfold nextBackoff
  rw [toNat_min, UInt32.toNat_mul]
  rfl

theorem delay_le (config : AgentConfig) (failures : Nat) :
    (delay config failures).toNat ≤ (maxBackoff config).toNat := by
  cases failures with
  | zero => exact initialBackoff_le config
  | succ failures =>
    rw [delay, nextBackoff_toNat]
    exact Nat.min_le_right _ _

theorem delay_doubles {config : AgentConfig} (narrow : (maxBackoff config).toNat < 2 ^ 31)
    (failures : Nat) : (delay config failures).toNat =
      min ((initialBackoff config).toNat * 2 ^ failures) (maxBackoff config).toNat := by
  induction failures with
  | zero =>
    rw [Nat.pow_zero, Nat.mul_one, Nat.min_eq_left (initialBackoff_le config)]
    rfl
  | succ failures ih =>
    have bounded := delay_le config failures
    have unwrapped : (delay config failures).toNat * 2 % 2 ^ 32 =
        (delay config failures).toNat * 2 := Nat.mod_eq_of_lt (by omega)
    rw [delay, nextBackoff_toNat, unwrapped, ih, Nat.pow_succ, ← Nat.mul_assoc]
    omega

/-- Until a delay reaches half of what the counter holds the delays double. -/
theorem delay_grows {config : AgentConfig} (wide : 2 ^ 31 ≤ (maxBackoff config).toNat)
    {failures : Nat} (small : ∀ i < failures, (delay config i).toNat < 2 ^ 31) :
    2 ^ failures ≤ (delay config failures).toNat ∨
      2 ^ 31 ≤ (delay config failures).toNat := by
  induction failures with
  | zero => exact Or.inl (initialBackoff_pos config)
  | succ failures ih =>
    have here := small failures (Nat.lt_succ_self failures)
    have unwrapped : (delay config failures).toNat * 2 % 2 ^ 32 =
        (delay config failures).toNat * 2 := Nat.mod_eq_of_lt (by omega)
    rw [delay, nextBackoff_toNat, unwrapped, Nat.pow_succ]
    rcases ih fun i less => small i (by omega) with grown | high
    · omega
    · omega

theorem delays_fall {config : AgentConfig} (wide : 2 ^ 31 ≤ (maxBackoff config).toNat) :
    ∃ failures, delay config (failures + 1) < delay config failures := by
  have high : ∃ failures, 2 ^ 31 ≤ (delay config failures).toNat := by
    by_contra none_high
    simp only [not_exists, Nat.not_le] at none_high
    have bound := none_high 31
    rcases @delay_grows config wide 31 fun i _ => none_high i with grown | high
    · omega
    · omega
  obtain ⟨failures, here⟩ := high
  refine ⟨failures, ?_⟩
  have bound := (delay config failures).toNat_lt
  rw [UInt32.lt_iff_toNat_lt, delay, nextBackoff_toNat]
  omega

end AgentRuntime
