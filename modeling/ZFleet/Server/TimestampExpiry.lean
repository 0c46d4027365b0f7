import ZFleet.Core.Rfc3339
import ZFleet.Server.RegistrationTokens
import ZFleet.Server.ClaimSafety

/-!
Expiry of tokens and tasks whose `expires_at` is any RFC 3339 timestamp. The statements
compare it as text with the canonical text of the server's time, so it is followed at a
time exactly when that time is not between the two seconds at which the text and the
instant expire.
-/
namespace TimestampExpiry
open Message KeyedTables Transactions Schema AgentStore TaskStore Time Rfc3339
open RegistrationTokens (consumeRegistrationToken_ok)
open ClaimSafety (noon oneOClock)

/-- The only token of this hash; every test of its use but that of its expiry passes. -/
structure ValidButForExpiry (store : Store) (tokenHash platform arch : String)
    (row : RegistrationTokenRow) : Prop where
  stored : row ∈ store.registrationTokens.rows
  alone : ∀ other ∈ store.registrationTokens.rows, other.tokenHash = tokenHash → other = row
  hash : row.tokenHash = tokenHash
  purpose : row.purpose = "agent_register"
  active : row.status = .active
  platform : row.platform.all (· = platform) = true
  arch : row.arch.all (· = arch) = true
  unspent : (row.maxUses.all fun limit => row.useCount < limit) = true

/-- The oldest queued task of the agent; its prerequisite is met. -/
structure NextButForExpiry (store : Store) (agentId : String) (row : TaskRow) : Prop where
  stored : row ∈ store.tasks.rows
  agent : row.agentId = agentId
  queued : row.state = .queued
  met : prerequisiteMet store.tasks row = true
  oldest : ∀ other ∈ store.tasks.rows, other.agentId = agentId → other.state = .queued →
    other ≠ row → row.createdAt < other.createdAt

/-- The second is between two others, one of which expires the text and one the instant. -/
def Between (x y second : Int) : Prop := min x y ≤ second ∧ second < max x y

def TokenMisread (expiry : Timestamp) (time : UtcSecond) : Prop :=
  Between expiry.textPassed expiry.passed time.epochSeconds

def TaskMisread (expiry : Timestamp) (time : UtcSecond) : Prop :=
  Between expiry.textReached expiry.reached time.epochSeconds

theorem between_iff (x y second : Int) :
    (x ≤ second ↔ y ≤ second) ↔ ¬ Between x y second := by
  unfold Between
  omega

/-- What the clock helper writes is never misread. -/
theorem ofUtc_not_misread (t time : UtcSecond) :
    ¬ TokenMisread (.ofUtc t) time ∧ ¬ TaskMisread (.ofUtc t) time := by
  have passed : (Timestamp.ofUtc t).textPassed = (Timestamp.ofUtc t).passed := by
    simp [Timestamp.textPassed, Timestamp.passed, Timestamp.utcSecond, Timestamp.ofUtc,
      Timestamp.plain, Zone.ahead]
  have reached : (Timestamp.ofUtc t).textReached = (Timestamp.ofUtc t).reached := by
    simp [Timestamp.textReached, Timestamp.reached, Timestamp.utcSecond, Timestamp.ofUtc,
      Zone.ahead]
  unfold TokenMisread TaskMisread Between
  omega

theorem changes_of_alone {store : Store} {tokenHash platform arch : String}
    {row : RegistrationTokenRow} (valid : ValidButForExpiry store tokenHash platform arch row)
    (usedAt : String) :
    store.registrationTokens.changes (tokenAccepts tokenHash platform arch usedAt) =
      if usedAt ≤ row.expiresAt then 1 else 0 := by
  have means : tokenAccepts tokenHash platform arch usedAt row =
      decide (usedAt ≤ row.expiresAt) := by
    simp [tokenAccepts, valid.hash, valid.purpose, valid.active, valid.platform, valid.arch,
      valid.unspent]
  have pinned : ∀ other ∈ store.registrationTokens.rows,
      tokenAccepts tokenHash platform arch usedAt other =
        decide (usedAt ≤ row.expiresAt ∧ other.tokenId = row.tokenId) := by
    intro other member
    by_cases same : other = row
    · rw [same, means]
      simp
    · have unlike : ¬ other.tokenId = row.tokenId :=
        fun key => same (Table.row_unique _ member valid.stored key)
      have unhashed : ¬ other.tokenHash = tokenHash :=
        fun hash => same (valid.alone other member hash)
      simp [tokenAccepts, unlike, unhashed]
  unfold Table.changes
  rw [List.countP_congr fun other member => by rw [pinned other member]]
  split
  · rename_i before
    have one := store.registrationTokens.count_key row.tokenId
    rw [Table.find_of_mem valid.stored] at one
    simpa [before] using one
  · rename_i after
    simp [after]

/-- A use of the token is rejected from the second on that expires its text. -/
theorem token_rejected_iff {expiry : Timestamp} {time : UtcSecond}
    {tokenHash platform arch : String} {row : RegistrationTokenRow} {s s' : Session Store}
    {accepted : Bool} (valid : ValidButForExpiry s.state tokenHash platform arch row)
    (expires : row.expiresAt = expiry.toText)
    (done : consumeRegistrationToken tokenHash platform arch time.toRfc3339 s =
      (.ok accepted, s')) :
    accepted = false ↔ expiry.textPassed ≤ time.epochSeconds := by
  rw [(consumeRegistrationToken_ok done).1, changes_of_alone valid, expires,
    ← Timestamp.lt_toRfc3339_iff, ← not_le, decide_eq_false_iff_not]
  split <;> simp_all

/-- The task is skipped from the second on that its text reaches. -/
theorem task_skipped_iff {expiry : Timestamp} {time : UtcSecond} {agentId auditId : String}
    {row : TaskRow} {s s' : Session Store} {answer : Option Task}
    (next : NextButForExpiry s.state agentId row) (expires : row.expiresAt = expiry.toText)
    (done : claimNextTaskForAgent agentId time.toRfc3339 auditId s = (.ok answer, s')) :
    answer ≠ some (storedTask row) ↔ expiry.textReached ≤ time.epochSeconds := by
  have means : claimable s.state agentId time.toRfc3339 row = true ↔
      time.epochSeconds < expiry.textReached := by
    rw [← Timestamp.toRfc3339_lt_iff, ← expires]
    simp [claimable, next.agent, next.queued, next.met]
  rw [← not_lt, ← means]
  apply not_congr
  rcases claimNextTaskForAgent_ok done with ⟨rfl, unselected, _⟩ | ⟨chosen, _, selected, rfl, _⟩
  · have refused := (selectClaimable_none_iff _ _ _).mp unselected row next.stored
    simp [refused]
  · obtain ⟨member, eligible⟩ := selectClaimable_mem selected
    obtain ⟨found, queued, agent⟩ := selectClaimable_queued selected
    constructor
    · intro same
      have key : chosen.taskId = row.taskId :=
        congrArg (fun answer => (answer.map Task.taskId).getD "") same
      rw [← Table.row_unique _ member next.stored key]
      exact eligible
    · intro claimed
      by_contra unlike
      have other : chosen ≠ row := fun same => unlike (by rw [same])
      have younger := next.oldest chosen member agent queued other
      exact absurd (selectClaimable_oldest selected next.stored claimed) (not_le.mpr younger)

/-- Whatever valid timestamp a token or a task expires at: at a given time the token is
    rejected exactly when that instant has passed, and the task is skipped exactly when it
    is reached, if and only if the time is not one at which the timestamp is misread. -/
theorem expiry_follows_time_iff (expiry : Timestamp) (time : UtcSecond) :
    (∀ tokenHash platform arch row s s' accepted,
      ValidButForExpiry s.state tokenHash platform arch row →
      row.expiresAt = expiry.toText →
      consumeRegistrationToken tokenHash platform arch time.toRfc3339 s = (.ok accepted, s') →
      ((accepted = false ↔ expiry.instant < time.epochSeconds) ↔ ¬ TokenMisread expiry time)) ∧
    (∀ agentId auditId row s s' answer,
      NextButForExpiry s.state agentId row → row.expiresAt = expiry.toText →
      claimNextTaskForAgent agentId time.toRfc3339 auditId s = (.ok answer, s') →
      ((answer ≠ some (storedTask row) ↔ expiry.instant ≤ time.epochSeconds) ↔
        ¬ TaskMisread expiry time)) := by
  constructor
  · intro tokenHash platform arch row s s' accepted valid expires done
    rw [token_rejected_iff valid expires done, Timestamp.instant_lt_iff]
    exact between_iff _ _ _
  · intro agentId auditId row s s' answer next expires done
    rw [task_skipped_iff next expires done, Timestamp.instant_le_iff]
    exact between_iff _ _ _

/-- A token and a task that expire at this timestamp. -/
def tokenUntil (expiry : Timestamp) : RegistrationTokenRow where
  tokenId := "token-1"
  tokenHash := "hash-1"
  purpose := "agent_register"
  channel := none
  platform := some "linux"
  arch := none
  maxUses := some 1
  useCount := 0
  status := .active
  createdAt := "2026-02-01T00:00:00Z"
  expiresAt := expiry.toText
  revokedAt := none

def taskUntil (expiry : Timestamp) : TaskRow where
  taskId := "task-1"
  protocolVersion := protocolVersion
  agentId := "agent-1"
  taskType := .collectBasicInventory
  capabilityLevel := .readonly
  createdAt := "2026-02-01T00:00:00Z"
  expiresAt := expiry.toText
  inputBlob := .collectBasicInventory
  state := .queued
  prerequisiteTaskId := none
  assignedAt := none
  completedAt := none

def storeUntil (expiry : Timestamp) : Store :=
  { Store.empty with
    tasks := ⟨[taskUntil expiry], List.nodup_singleton _⟩
    registrationTokens := ⟨[tokenUntil expiry], List.nodup_singleton _⟩ }

theorem tokenUntil_valid (expiry : Timestamp) :
    ValidButForExpiry (storeUntil expiry) "hash-1" "linux" "x86_64" (tokenUntil expiry) where
  stored := List.mem_singleton_self _
  alone := fun _ member _ => List.mem_singleton.mp member
  hash := rfl
  purpose := rfl
  active := rfl
  platform := rfl
  arch := rfl
  unspent := rfl

theorem taskUntil_next (expiry : Timestamp) :
    NextButForExpiry (storeUntil expiry) "agent-1" (taskUntil expiry) where
  stored := List.mem_singleton_self _
  agent := rfl
  queued := rfl
  met := rfl
  oldest := fun _ member _ _ other => absurd (List.mem_singleton.mp member) other

/-- With nothing in the way both operations answer. -/
theorem storeUntil_answers (expiry : Timestamp) (time : UtcSecond) :
    (∃ accepted s', consumeRegistrationToken "hash-1" "linux" "x86_64" time.toRfc3339
      ⟨storeUntil expiry, []⟩ = (.ok accepted, s')) ∧
    ∃ answer s', claimNextTaskForAgent "agent-1" time.toRfc3339 "audit-1"
      ⟨storeUntil expiry, []⟩ = (.ok answer, s') := by
  constructor
  · exact ⟨_, _, rfl⟩
  · cases selected : selectClaimable "agent-1" time.toRfc3339 (storeUntil expiry) with
    | none => exact ⟨_, _, claimNextTaskForAgent_none selected⟩
    | some row => exact ⟨_, _, claimNextTaskForAgent_some selected rfl⟩

def eleven : UtcSecond :=
  { noon with
    hour := 11
    day_le := noon.day_le
    hour_lt := by decide }

/-- Midnight in UTC, written as noon twelve hours ahead, and noon with half a second. -/
def noonAhead : Timestamp :=
  { Timestamp.ofUtc noon with
    zone := .offset false 12 0 }

def halfPastNoon : Timestamp :=
  { Timestamp.ofUtc noon with
    fraction := [⟨5, by decide⟩] }

theorem expiry_follows_time_plainly :
    (∃ accepted s', consumeRegistrationToken "hash-1" "linux" "x86_64"
        oneOClock.toRfc3339 ⟨storeUntil (.ofUtc noon), []⟩ =
          (.ok accepted, s') ∧
      (accepted = false ↔
        (Timestamp.ofUtc noon).instant < oneOClock.epochSeconds)) ∧
    ∃ answer s', claimNextTaskForAgent "agent-1" oneOClock.toRfc3339 "audit-1"
        ⟨storeUntil (.ofUtc noon), []⟩ = (.ok answer, s') ∧
      (answer ≠ some (storedTask (taskUntil (.ofUtc noon))) ↔
        (Timestamp.ofUtc noon).instant ≤ oneOClock.epochSeconds) := by
  obtain ⟨⟨accepted, used, consumed⟩, answer, claimed, claims⟩ :=
    storeUntil_answers (.ofUtc noon) oneOClock
  obtain ⟨token, task⟩ := ofUtc_not_misread noon oneOClock
  obtain ⟨followed, followed'⟩ :=
    expiry_follows_time_iff (.ofUtc noon) oneOClock
  refine ⟨⟨accepted, used, consumed, ?_⟩, answer, claimed, claims, ?_⟩
  · exact (followed _ _ _ _ _ _ _ (tokenUntil_valid _) rfl consumed).mpr token
  · exact (followed' _ _ _ _ _ _ (taskUntil_next _) rfl claims).mpr task

/-- At eleven a token is accepted that expired at midnight, and at noon a task is skipped
    that has half a second left. -/
theorem expired_token_accepted :
    ¬ (∀ (expiry : Timestamp) (time : UtcSecond) tokenHash platform arch row s s' accepted,
      ValidButForExpiry s.state tokenHash platform arch row →
      row.expiresAt = expiry.toText →
      consumeRegistrationToken tokenHash platform arch time.toRfc3339 s = (.ok accepted, s') →
      (accepted = false ↔ expiry.instant < time.epochSeconds)) ∧
    ¬ (∀ (expiry : Timestamp) (time : UtcSecond) agentId auditId row s s' answer,
      NextButForExpiry s.state agentId row → row.expiresAt = expiry.toText →
      claimNextTaskForAgent agentId time.toRfc3339 auditId s = (.ok answer, s') →
      (answer ≠ some (storedTask row) ↔ expiry.instant ≤ time.epochSeconds)) := by
  constructor
  · intro follows
    obtain ⟨⟨accepted, used, consumed⟩, _⟩ := storeUntil_answers noonAhead eleven
    have followed := follows _ _ _ _ _ _ _ _ _ (tokenUntil_valid noonAhead) rfl consumed
    rw [token_rejected_iff (tokenUntil_valid noonAhead) rfl consumed,
      Timestamp.instant_lt_iff] at followed
    revert followed
    decide
  · intro follows
    obtain ⟨_, answer, claimed, claims⟩ := storeUntil_answers halfPastNoon noon
    have followed := follows _ _ _ _ _ _ _ _ (taskUntil_next halfPastNoon) rfl claims
    rw [task_skipped_iff (taskUntil_next halfPastNoon) rfl claims,
      Timestamp.instant_le_iff] at followed
    revert followed
    decide

end TimestampExpiry
