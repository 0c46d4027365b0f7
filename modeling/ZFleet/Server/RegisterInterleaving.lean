import ZFleet.Foundations.Threads
import ZFleet.Server.EventAtomicity

/-!
Register events on several worker threads. A handler makes one store call after the other,
and between two of them the other threads make theirs: whether the agent is known, whether
its token may be used and the upsert are separate calls. An agent that registers twice at
once is charged twice, or it is refused after it was accepted.
-/
namespace RegisterInterleaving
open Message KeyedTables Transactions Schema AgentStore ControlService EventAtomicity Threads
open RegistrationTokens (SameTokens sameTokens_refl consumeRegistrationToken_ok
  consumeRegistrationToken_atomic)

/-- A register event that carries a token. -/
structure Registration where
  env : Environment
  request : AgentRegistration
  token : String
  carries : request.registrationToken = some token

/-- Before which call a handler is, with its local variables. -/
inductive Phase where
  | asking
  | consuming
  | refusing
  | auditing
  | looking (tokenUsed : Bool)
  | upserting (tokenUsed : Bool) (previous : Option AgentRow)
  | rereading (previous : Option AgentRow)
  | confirming (previous current : Option AgentRow)
  | snapshotting
  | closing
  | answered (result : ControlEventResult)
  deriving DecidableEq, Repr

def refusal : ControlEventResult := invalidArgument "registration token is invalid or expired"

def refusedAudit (event : Registration) : AuditEventRow :=
  auditEvent event.env 0 .registrationTokenRejected event.request.requestId
    event.request.agentId "error" [("status", "rejected"), ("message", "invalid or expired token")]

def usedAudit (event : Registration) : AuditEventRow :=
  auditEvent event.env 0 .registrationTokenUsed event.request.requestId event.request.agentId
    "success" [("status", "consumed"), ("platform", event.request.os),
      ("arch", event.request.arch)]

/-- The next store call of a handler. -/
def proceed (event : Registration) : Phase → Job Store Phase
  | .asking => do
    let known ← agentExists event.request.agentId
    pure (if known then .looking false else .consuming)
  | .consuming => do
    let tokenUsed ← consumeFor event.env event.request event.token
    pure (if tokenUsed then .auditing else .refusing)
  | .refusing => do
    recordAuditEvent (refusedAudit event)
    pure (.answered refusal)
  | .auditing => do
    recordAuditEvent (usedAudit event)
    pure (.looking true)
  | .looking tokenUsed => do
    let previous ← findAgent event.request.agentId
    pure (.upserting tokenUsed previous)
  | .upserting _ previous => do
    upsertAgent event.request
    pure (.rereading previous)
  | .rereading previous => do
    let current ← findAgent event.request.agentId
    pure (.confirming previous current)
  | .confirming previous current => do
    auditConfirmation event.env event.request previous current
    pure .snapshotting
  | .snapshotting => do
    recordAssetSnapshot (registrationSnapshot event.request)
      (event.env.serializeAgentEventBlob (.registration event.request))
    pure .closing
  | .closing => do
    recordAuditEvent (registerAudit event.env event.request)
    pure (.answered (accepted "accepted"))
  | .answered result => pure (.answered result)

/-- The calls of one handler without the others in between. -/
def drive (event : Registration) : Nat → Phase → Job Store ControlEventResult
  | _, .answered result => pure result
  | 0, _ => fail (.error "handler has not answered")
  | n + 1, phase => proceed event phase >>= drive event n

theorem drive_call {α : Type} {event : Registration} {phase : Phase} {call : Job Store α}
    {next : α → Phase} (proceeds : proceed event phase = (call >>= fun a => pure (next a)))
    (unanswered : ∀ result, phase ≠ .answered result) (n : Nat) :
    drive event (n + 1) phase = (call >>= fun a => drive event n (next a)) := by
  have unfolded : drive event (n + 1) phase = (proceed event phase >>= drive event n) := by
    cases phase with
    | answered result => exact absurd rfl (unanswered result)
    | _ => rfl
  rw [unfolded, proceeds, bind_assoc_run]
  rfl

theorem drive_answered (event : Registration) (result : ControlEventResult) (n : Nat) :
    drive event n (.answered result) = pure result := by
  cases n with
  | zero => rfl
  | succ n => rfl

theorem drive_upserting (event : Registration) (tokenUsed : Bool) (previous : Option AgentRow)
    (n : Nat) :
    drive event (n + 5) (.upserting tokenUsed previous) =
      (upsertAgent event.request >>= fun _ =>
        recordRegistration event.env event.request previous) := by
  rw [drive_call rfl (by simp)]
  congr 1
  funext _
  rw [drive_call rfl (by simp)]
  unfold recordRegistration
  congr 1
  funext current
  rw [drive_call rfl (by simp)]
  congr 1
  funext _
  rw [drive_call rfl (by simp)]
  congr 1
  funext _
  rw [drive_call rfl (by simp)]
  congr 1
  funext _
  exact drive_answered event (accepted "accepted") n

theorem drive_looking (event : Registration) (tokenUsed : Bool) (n : Nat) :
    drive event (n + 6) (.looking tokenUsed) = register event.env event.request := by
  rw [drive_call rfl (by simp), register_eq]
  congr 1
  funext previous
  exact drive_upserting event tokenUsed previous n

theorem drive_token (event : Registration) (tokenUsed : Bool) (n : Nat) :
    drive event (n + 7) (if tokenUsed then .auditing else .refusing) =
      answerToken event.env event.request tokenUsed := by
  cases tokenUsed with
  | false =>
    rw [if_neg Bool.false_ne_true, drive_call rfl (by simp)]
    unfold answerToken
    congr 1
  | true =>
    rw [if_pos rfl, drive_call rfl (by simp)]
    unfold answerToken
    congr 1
    funext _
    exact drive_looking event true n

/-- Without other threads the calls are those of the handler. -/
theorem drive_asking (event : Registration) :
    recover (drive event 9 .asking) (fun _ => internalError) =
      handleRegister event.env event.request := by
  rw [handleRegister_eq, drive_call rfl (by simp)]
  congr 2
  funext known
  unfold registerKnown
  rw [event.carries]
  cases known with
  | true => exact drive_looking event false 2
  | false =>
    rw [if_neg Bool.false_ne_true, drive_call rfl (by simp)]
    congr 1
    funext tokenUsed
    exact drive_token event tokenUsed 0

/-! The workers -/

structure Worker where
  event : Registration
  phase : Phase

/-- The database, the token uses charged for agents, and the answers in their order. -/
structure Registry where
  store : Store
  charges : List (String × String)
  answers : List (String × ControlEventResult)

def answer? : Phase → Option ControlEventResult
  | .answered result => some result
  | _ => none

/-- A call that throws ends the handler. -/
def phaseAfter : Except Failure Phase → Phase
  | .ok phase => phase
  | .error _ => .answered internalError

/-- The tokens with another use count than before. -/
def charged (before after : Store) : List String :=
  (before.registrationTokens.rows.filter fun row =>
    (after.registrationTokens.find row.tokenId).map RegistrationTokenRow.useCount ≠
      some row.useCount).map RegistrationTokenRow.tokenId

def newAnswers (phase phase' : Phase) : List ControlEventResult :=
  if (answer? phase).isSome then [] else (answer? phase').toList

def afterCall (worker : Worker) (registry : Registry) (faults : List (Option Fault)) :
    Except Failure Phase × Session Store :=
  proceed worker.event worker.phase ⟨registry.store, faults⟩

/-- One store call of a worker. -/
def next (registry : Registry) (worker : Worker) (faults : List (Option Fault)) :
    Registry × Worker :=
  let (answer, final) := afterCall worker registry faults
  let agentId := worker.event.request.agentId
  ({ store := final.state
     charges := registry.charges ++ (charged registry.store final.state).map (agentId, ·)
     answers := registry.answers ++ (newAnswers worker.phase (phaseAfter answer)).map (agentId, ·) },
    { worker with phase := phaseAfter answer })

abbrev System := Pool Registry Worker

abbrev Input := Threads.Input Registration (List (Option Fault))

/-- An event begins with its first call ahead, or a worker makes its next call. -/
def step (system : System) : Input → System
  | .start event => Threads.step next system (.start ⟨event, .asking⟩)
  | .run i faults => Threads.step next system (.run i faults)

def System.begin (store : Store) : System := ⟨⟨store, [], []⟩, []⟩

/-- The uses charged for an agent. -/
def usesOf (registry : Registry) (agentId : String) : List (String × String) :=
  registry.charges.filter fun charge => charge.1 = agentId

/-- No `later` stands behind a `first` in the list. -/
def NeverBehind {α : Type} (first later : α) (list : List α) : Prop :=
  ∀ before after, list = before ++ later :: after → first ∉ before

/-- One use for each agent, and no refusal behind an acceptance. -/
structure Kept (registry : Registry) : Prop where
  once : ∀ agentId, (usesOf registry agentId).length ≤ 1
  ordered : ∀ agentId,
    NeverBehind (agentId, accepted "accepted") (agentId, refusal) registry.answers

/-! When a handler acts on what is no longer so -/

/-- A use was charged for the event and its agent is not upserted yet. -/
def HoldsUse : Phase → Prop
  | .auditing => True
  | .looking tokenUsed => tokenUsed = true
  | .upserting tokenUsed _ => tokenUsed = true
  | _ => False

def Known (store : Store) (agentId : String) : Prop := (store.agents.find agentId).isSome

def acceptsToken (event : Registration) : RegistrationTokenRow → Bool :=
  tokenAccepts (event.env.sha256BytesHex event.token) event.request.os event.request.arch
    event.env.now

/-- Another worker has a use for the same agent. -/
def Contended (system : System) (i : Nat) (agentId : String) : Prop :=
  ∃ j other, j ≠ i ∧ system.threads[j]? = some other ∧
    other.event.request.agentId = agentId ∧ HoldsUse other.phase

/-- The token grants a use, but the agent is known by now, or another event of it has a use;
    or the hash names several tokens. -/
def Overcharges (system : System) (i : Nat) (worker : Worker) : Prop :=
  worker.phase = .consuming ∧
    (∃ row ∈ system.shared.store.registrationTokens.rows, acceptsToken worker.event row = true) ∧
    (Known system.shared.store worker.event.request.agentId ∨
      Contended system i worker.event.request.agentId ∨
      1 < system.shared.store.registrationTokens.changes (acceptsToken worker.event))

/-- The agent is known by now. -/
def RefusesKnown (system : System) (worker : Worker) : Prop :=
  worker.phase = .refusing ∧ Known system.shared.store worker.event.request.agentId

/-- A call throws between the use of a token and the upsert. -/
def LosesUse (system : System) (worker : Worker) (faults : List (Option Fault)) : Prop :=
  HoldsUse worker.phase ∧
    Thrown (proceed worker.event worker.phase) ⟨system.shared.store, faults⟩

def Stale (system : System) : Input → Prop
  | .start _ => False
  | .run i faults => ∃ worker, system.threads[i]? = some worker ∧
    (Overcharges system i worker ∨ RefusesKnown system worker ∨ LosesUse system worker faults)

instance : DecidablePred HoldsUse := fun phase => by
  unfold HoldsUse
  cases phase <;> infer_instance

instance (store : Store) (agentId : String) : Decidable (Known store agentId) :=
  inferInstanceAs (Decidable ((store.agents.find agentId).isSome = true))

instance (system : System) (i : Nat) (agentId : String) :
    Decidable (Contended system i agentId) :=
  decidable_of_iff (∃ j ∈ List.range system.threads.length, j ≠ i ∧
    ∃ other ∈ system.threads[j]?, other.event.request.agentId = agentId ∧ HoldsUse other.phase)
    (by
      constructor
      · rintro ⟨j, _, differs, other, there, rest⟩
        exact ⟨j, other, differs, there, rest⟩
      · rintro ⟨j, other, differs, there, rest⟩
        obtain ⟨inside, _⟩ := List.getElem?_eq_some_iff.mp there
        exact ⟨j, List.mem_range.mpr inside, differs, other, there, rest⟩)

instance (system : System) (i : Nat) (worker : Worker) : Decidable (Overcharges system i worker) := by
  unfold Overcharges
  infer_instance

instance (system : System) (worker : Worker) : Decidable (RefusesKnown system worker) := by
  unfold RefusesKnown
  infer_instance

instance {α : Type} (job : Job Store α) (s : Session Store) : Decidable (Thrown job s) :=
  match ran : job s with
  | (.error e, s') => isTrue ⟨e, s', ran⟩
  | (.ok a, s') => isFalse (by
      rintro ⟨e, s'', threw⟩
      rw [ran] at threw
      cases threw)

instance (system : System) (worker : Worker) (faults : List (Option Fault)) :
    Decidable (LosesUse system worker faults) := by
  unfold LosesUse
  infer_instance

instance (system : System) : (input : Input) → Decidable (Stale system input)
  | .start _ => isFalse id
  | .run i faults =>
    decidable_of_iff (∃ worker ∈ system.threads[i]?, Overcharges system i worker ∨
      RefusesKnown system worker ∨ LosesUse system worker faults) Iff.rfl

/-! What a call does to the agents and the tokens -/

def KeepsKnown (before after : Store) : Prop :=
  ∀ agentId, Known before agentId → Known after agentId

theorem keepsKnown_of_same {before after : Store} (same : after.agents = before.agents) :
    KeepsKnown before after := by
  intro agentId known
  unfold Known
  rw [same]
  exact known

theorem known_upsert (agents : Table AgentRow AgentRow.agentId) (request : AgentRegistration)
    (agentId : String) :
    ((upsertInto agents (registeredRow request) mergeRegistration
      (mergeRegistration_agentId _)).find agentId).isSome ↔
      request.agentId = agentId ∨ (agents.find agentId).isSome := by
  rw [find_upsertInto]
  by_cases own : (registeredRow request).agentId = agentId
  · rw [if_pos own]
    exact iff_of_true rfl (Or.inl own)
  · rw [if_neg own]
    exact ⟨Or.inr, fun either => either.resolve_left own⟩

theorem upsertAgent_keepsKnown (request : AgentRegistration) :
    Evolves KeepsKnown (upsertAgent request) :=
  evolves_of_atomic (upsertAgent_atomic request) (fun _ _ => id) fun s _ s' done agentId known => by
    unfold Known
    rw [upsertAgent_ok done]
    exact (known_upsert s.state.agents request agentId).mpr (Or.inr known)

theorem consumeFor_atomic (event : Registration) :
    Atomic (consumeFor event.env event.request event.token) :=
  consumeRegistrationToken_atomic _ _ _ _

theorem recordAssetSnapshot_keeps (request : AssetSnapshot) (eventBlob : Blob) :
    Evolves SameAgentsAndTokens (recordAssetSnapshot request eventBlob) :=
  submitWrite_evolves sameAgentsAndTokens_trans
    (evolves_execute (fun _ => ⟨rfl, rfl⟩) fun _ => ⟨rfl, rfl⟩)

/-- Everything but the upsert leaves the agents, everything but the use the tokens. -/
theorem proceed_keeps (event : Registration) {phase : Phase} (other : phase ≠ .consuming)
    (no_upsert : ∀ tokenUsed previous, phase ≠ .upserting tokenUsed previous) :
    Evolves SameAgentsAndTokens (proceed event phase) := by
  have quiet : ∀ {α β : Type} {call : Job Store α} {f : α → β}, Evolves Untouched call →
      Evolves SameAgentsAndTokens (call >>= fun a => pure (f a)) := fun untouched =>
    evolves_trans (evolves_mono untouched untouched_sameAgentsAndTokens)
      (fun _ => evolves_pure (fun _ => ⟨rfl, rfl⟩) _) sameAgentsAndTokens_trans
  cases phase with
  | asking => exact quiet (agentExists_untouched _)
  | consuming => exact absurd rfl other
  | refusing => exact quiet (recordAuditEvent_untouched _)
  | auditing => exact quiet (recordAuditEvent_untouched _)
  | looking tokenUsed => exact quiet (findAgent_untouched _)
  | upserting tokenUsed previous => exact absurd rfl (no_upsert tokenUsed previous)
  | rereading previous => exact quiet (findAgent_untouched _)
  | confirming previous current => exact quiet (auditConfirmation_untouched _ _ _ _)
  | snapshotting =>
    exact evolves_trans (recordAssetSnapshot_keeps _ _)
      (fun _ => evolves_pure (fun _ => ⟨rfl, rfl⟩) _) sameAgentsAndTokens_trans
  | closing => exact quiet (recordAuditEvent_untouched _)
  | answered result => exact evolves_pure (fun _ => ⟨rfl, rfl⟩) _

theorem consuming_ok {event : Registration} {s s' : Session Store} {phase : Phase}
    (done : proceed event .consuming s = (.ok phase, s')) :
    phase = (if s.state.registrationTokens.changes (acceptsToken event) = 1 then .auditing
      else .refusing) ∧
      s'.state = { s.state with
        registrationTokens := s.state.registrationTokens.update (acceptsToken event) useToken
          useToken_tokenId } := by
  obtain ⟨tokenUsed, middle, used, rest⟩ := bind_ok done
  obtain ⟨rfl, rfl⟩ := pure_ok rest
  obtain ⟨rfl, after⟩ := consumeRegistrationToken_ok used
  refine ⟨?_, after⟩
  simp only [decide_eq_true_eq]
  rfl

theorem consuming_error {event : Registration} {s s' : Session Store} {e : Failure}
    (failed : proceed event .consuming s = (.error e, s')) : s'.state = s.state := by
  rcases bind_error failed with early | ⟨_, _, _, late⟩
  · exact consumeFor_atomic event s e s' early
  · cases late

theorem upserting_ok {event : Registration} {tokenUsed : Bool} {previous : Option AgentRow}
    {s s' : Session Store} {phase : Phase}
    (done : proceed event (.upserting tokenUsed previous) s = (.ok phase, s')) :
    phase = .rereading previous ∧ Known s'.state event.request.agentId ∧
      s'.state.registrationTokens = s.state.registrationTokens := by
  obtain ⟨_, middle, upserted, rest⟩ := bind_ok done
  obtain ⟨rfl, rfl⟩ := pure_ok rest
  unfold Known
  rw [upsertAgent_ok upserted]
  exact ⟨rfl, (known_upsert s.state.agents event.request _).mpr (Or.inl rfl), rfl⟩

theorem upserting_error {event : Registration} {tokenUsed : Bool} {previous : Option AgentRow}
    {s s' : Session Store} {e : Failure}
    (failed : proceed event (.upserting tokenUsed previous) s = (.error e, s')) :
    s'.state = s.state := by
  rcases bind_error failed with early | ⟨_, _, _, late⟩
  · exact upsertAgent_atomic event.request s e s' early
  · cases late

/-- No call forgets an agent. -/
theorem proceed_keepsKnown (event : Registration) (phase : Phase) :
    Evolves KeepsKnown (proceed event phase) := by
  have same : ∀ {phase : Phase}, Evolves SameAgentsAndTokens (proceed event phase) →
      Evolves KeepsKnown (proceed event phase) := fun keeps =>
    evolves_mono keeps fun _ _ same => keepsKnown_of_same same.1
  cases phase with
  | consuming =>
    intro s result s' ran
    cases result with
    | ok phase => exact keepsKnown_of_same (by rw [(consuming_ok ran).2])
    | error e => exact keepsKnown_of_same (by rw [consuming_error ran])
  | upserting tokenUsed previous =>
    exact evolves_trans (upsertAgent_keepsKnown event.request)
      (fun _ => evolves_pure (fun _ _ => id) _)
      fun _ _ _ first rest agentId known => rest agentId (first agentId known)
  | _ => exact same (proceed_keeps event (by simp) (by simp))

/-- Only the use of a token writes the tokens. -/
theorem proceed_sameTokens (event : Registration) {phase : Phase} (other : phase ≠ .consuming) :
    Evolves SameTokens (proceed event phase) := by
  cases phase with
  | consuming => exact absurd rfl other
  | upserting tokenUsed previous =>
    intro s result s' ran
    cases result with
    | ok phase => exact (upserting_ok ran).2.2
    | error e =>
      rw [upserting_error ran]
      exact sameTokens_refl s.state
  | _ => exact evolves_mono (proceed_keeps event (by simp) (by simp)) fun _ _ same => same.2

/-! The charged uses -/

theorem charged_same {before after : Store} (same : SameTokens before after) :
    charged before after = [] := by
  unfold charged
  rw [same, List.map_eq_nil_iff, List.filter_eq_nil_iff]
  intro row member
  simp [Table.find_of_mem member]

theorem charged_used {before after : Store} {selects : RegistrationTokenRow → Bool}
    (used : after.registrationTokens =
      before.registrationTokens.update selects useToken useToken_tokenId) :
    charged before after =
      (before.registrationTokens.rows.filter selects).map RegistrationTokenRow.tokenId := by
  unfold charged
  congr 1
  apply List.filter_congr
  intro row member
  rw [used, Table.find_update, Table.find_of_mem member]
  by_cases selected : selects row = true
  · have grown : row.useCount + 1 ≠ row.useCount := by omega
    simp [selected, useToken, grown]
  · simp [selected]

/-- The use count of a token grows by the uses that are charged for it. -/
def CountsCharged (before after : Store) : Prop :=
  ∀ tokenId row, before.registrationTokens.find tokenId = some row →
    ∃ row', after.registrationTokens.find tokenId = some row' ∧
      row'.useCount = row.useCount + (charged before after).count tokenId

theorem countsCharged_same {before after : Store} (same : SameTokens before after) :
    CountsCharged before after := by
  intro tokenId row found
  rw [charged_same same]
  refine ⟨row, ?_, by simp⟩
  rw [same]
  exact found

theorem countsCharged_used {before after : Store} {selects : RegistrationTokenRow → Bool}
    (used : after.registrationTokens =
      before.registrationTokens.update selects useToken useToken_tokenId) :
    CountsCharged before after := by
  intro tokenId row found
  have member := Table.find_mem found
  obtain rfl := Table.find_key found
  have once := before.registrationTokens.count_selected selects member
  rw [charged_used used]
  rw [used, Table.find_update, found, Option.map_some]
  refine ⟨_, rfl, ?_⟩
  have counted : ((before.registrationTokens.rows.filter selects).map
      RegistrationTokenRow.tokenId).count row.tokenId = if selects row then 1 else 0 := by
    rw [← once, List.count, List.countP_map]
    apply List.countP_congr
    intro other _
    simp
  rw [counted]
  by_cases selected : selects row = true
  · simp [selected, useToken]
  · simp [selected]

theorem proceed_counts (event : Registration) (phase : Phase) :
    Evolves CountsCharged (proceed event phase) := by
  intro s result s' ran
  by_cases consumes : phase = .consuming
  · subst consumes
    cases result with
    | ok phase =>
      apply @countsCharged_used _ _ (acceptsToken event)
      rw [(consuming_ok ran).2]
    | error e =>
      apply countsCharged_same
      rw [consuming_error ran]
      exact sameTokens_refl s.state
  · exact countsCharged_same (proceed_sameTokens event consumes s result s' ran)

theorem next_charges (registry : Registry) (worker : Worker) (faults : List (Option Fault)) :
    (next registry worker faults).1.charges = registry.charges ++
      (charged registry.store (next registry worker faults).1.store).map
        (worker.event.request.agentId, ·) := rfl

theorem next_counts (registry : Registry) (worker : Worker) (faults : List (Option Fault)) :
    CountsCharged registry.store (next registry worker faults).1.store :=
  proceed_counts worker.event worker.phase ⟨registry.store, faults⟩ _ _ rfl

theorem usesOf_next (registry : Registry) (worker : Worker) (faults : List (Option Fault))
    (agentId : String) :
    usesOf (next registry worker faults).1 agentId = usesOf registry agentId ++
      if worker.event.request.agentId = agentId then
        (charged registry.store (next registry worker faults).1.store).map (agentId, ·)
      else [] := by
  unfold usesOf
  rw [next_charges, List.filter_append]
  congr 1
  by_cases own : worker.event.request.agentId = agentId
  · subst own
    rw [if_pos rfl, List.filter_eq_self]
    intro charge member
    obtain ⟨tokenId, _, rfl⟩ := List.mem_map.mp member
    simp
  · rw [if_neg own, List.filter_eq_nil_iff]
    intro charge member
    obtain ⟨tokenId, _, rfl⟩ := List.mem_map.mp member
    simpa using own

/-! What holds while no handler acts on what is no longer so -/

/-- The upsert of the handler has returned. -/
def PastUpsert : Phase → Prop
  | .rereading _ => True
  | .confirming _ _ => True
  | .snapshotting => True
  | .closing => True
  | _ => False

def KnownBehind (registry : Registry) (worker : Worker) : Prop :=
  PastUpsert worker.phase → Known registry.store worker.event.request.agentId

structure Orderly (system : System) : Prop where
  kept : Kept system.shared
  held : ∀ agentId, usesOf system.shared agentId ≠ [] → Known system.shared.store agentId ∨
    ∃ (i : Nat) (worker : Worker), system.threads[i]? = some worker ∧
      worker.event.request.agentId = agentId ∧ HoldsUse worker.phase
  behind : Owned KnownBehind system
  accepted : ∀ agentId, (agentId, accepted "accepted") ∈ system.shared.answers →
    Known system.shared.store agentId

theorem orderly_begin (store : Store) : Orderly (System.begin store) where
  kept := ⟨fun _ => by simp [usesOf, System.begin], fun _ => by simp [NeverBehind, System.begin]⟩
  held := by simp [usesOf, System.begin]
  behind := by
    intro worker member
    cases member
  accepted := by simp [System.begin]

theorem neverBehind_append {α : Type} {first later : α} {list new : List α}
    (ordered : NeverBehind first later list) (short : new.length ≤ 1)
    (allowed : later ∈ new → first ∉ list) : NeverBehind first later (list ++ new) := by
  intro before after split
  cases new with
  | nil =>
    rw [List.append_nil] at split
    exact ordered before after split
  | cons z rest =>
    obtain rfl : rest = [] := by simpa using short
    rcases List.eq_nil_or_concat after with rfl | ⟨after', last, rfl⟩
    · obtain ⟨rfl, same⟩ := List.append_inj' split rfl
      cases same
      exact allowed (by simp)
    · have split' : list ++ [z] = (before ++ later :: after') ++ [last] := by
        rw [split]
        simp
      exact ordered before after' (List.append_inj' split' rfl).1

theorem next_known (registry : Registry) (worker : Worker) (faults : List (Option Fault)) :
    KeepsKnown registry.store (next registry worker faults).1.store :=
  proceed_keepsKnown worker.event worker.phase ⟨registry.store, faults⟩ _ _ rfl

/-! One call -/

section
variable {system : System} {i : Nat} {worker : Worker} {faults : List (Option Fault)}

theorem calm_of_not_stale (here : system.threads[i]? = some worker)
    (fresh : ¬ Stale system (.run i faults)) :
    ¬ Overcharges system i worker ∧ ¬ RefusesKnown system worker ∧
      ¬ LosesUse system worker faults := by
  refine ⟨fun bad => fresh ?_, fun bad => fresh ?_, fun bad => fresh ?_⟩
  · exact ⟨worker, here, Or.inl bad⟩
  · exact ⟨worker, here, Or.inr (Or.inl bad)⟩
  · exact ⟨worker, here, Or.inr (Or.inr bad)⟩

/-- A call that charges a use is the first for its agent, charges one, and the use is held. -/
theorem charges_first (orderly : Orderly system) (here : system.threads[i]? = some worker)
    (calm : ¬ Overcharges system i worker)
    (charges : charged system.shared.store (next system.shared worker faults).1.store ≠ []) :
    usesOf system.shared worker.event.request.agentId = [] ∧
      (charged system.shared.store (next system.shared worker faults).1.store).length = 1 ∧
      (next system.shared worker faults).2.phase = .auditing := by
  cases ran : proceed worker.event worker.phase ⟨system.shared.store, faults⟩ with
  | mk result final =>
    have store : (next system.shared worker faults).1.store = final.state := by
      simp only [next, afterCall, ran]
    have phase : (next system.shared worker faults).2.phase = phaseAfter result := by
      simp only [next, afterCall, ran]
    rw [store] at charges ⊢
    by_cases consumes : worker.phase = .consuming
    · rw [consumes] at ran
      cases result with
      | error e =>
        have same : SameTokens system.shared.store final.state := by
          rw [consuming_error ran]
          exact sameTokens_refl _
        exact absurd (charged_same same) charges
      | ok reached =>
        obtain ⟨is_phase, used⟩ := consuming_ok ran
        have tokens : final.state.registrationTokens =
            system.shared.store.registrationTokens.update (acceptsToken worker.event) useToken
              useToken_tokenId := by rw [used]
        have counted := charged_used tokens
        rw [counted] at charges ⊢
        rw [List.length_map, ← List.countP_eq_length_filter]
        have grants : ∃ row ∈ system.shared.store.registrationTokens.rows,
            acceptsToken worker.event row = true := by
          obtain ⟨tokenId, member⟩ := List.exists_mem_of_ne_nil _ charges
          obtain ⟨row, chosen, _⟩ := List.mem_map.mp member
          exact ⟨row, List.mem_filter.mp chosen⟩
        have free : ¬ (Known system.shared.store worker.event.request.agentId ∨
            Contended system i worker.event.request.agentId ∨
            1 < system.shared.store.registrationTokens.changes (acceptsToken worker.event)) :=
          fun bad => calm ⟨consumes, grants, bad⟩
        simp only [not_or] at free
        obtain ⟨unknown, uncontended, one⟩ := free
        have some_row : 0 < system.shared.store.registrationTokens.changes
            (acceptsToken worker.event) := List.countP_pos_iff.mpr grants
        have exactly : system.shared.store.registrationTokens.changes
            (acceptsToken worker.event) = 1 := by omega
        refine ⟨?_, exactly, ?_⟩
        · by_contra some_use
          rcases orderly.held _ some_use with known | ⟨j, other, there, same, holds⟩
          · exact unknown known
          · refine uncontended ⟨j, other, ?_, there, same, holds⟩
            rintro rfl
            cases here.symm.trans there
            rw [consumes] at holds
            exact holds
        · rw [phase, is_phase, if_pos exactly]
          rfl
    · exact absurd (charged_same (proceed_sameTokens worker.event consumes _ _ _ ran)) charges

/-- A held use stays held until its agent is known. -/
theorem held_next (holds : HoldsUse worker.phase) (keeps : ¬ LosesUse system worker faults) :
    Known (next system.shared worker faults).1.store worker.event.request.agentId ∨
      HoldsUse (next system.shared worker faults).2.phase := by
  cases ran : proceed worker.event worker.phase ⟨system.shared.store, faults⟩ with
  | mk result final =>
    have store : (next system.shared worker faults).1.store = final.state := by
      simp only [next, afterCall, ran]
    have phase : (next system.shared worker faults).2.phase = phaseAfter result := by
      simp only [next, afterCall, ran]
    rw [store, phase]
    cases result with
    | error e => exact absurd ⟨holds, e, final, ran⟩ keeps
    | ok reached =>
      cases at_phase : worker.phase with
      | auditing =>
        rw [at_phase] at ran
        obtain ⟨_, _, _, rest⟩ := bind_ok ran
        cases (pure_ok rest).1
        exact Or.inr rfl
      | looking tokenUsed =>
        rw [at_phase] at ran holds
        obtain ⟨_, _, _, rest⟩ := bind_ok ran
        cases (pure_ok rest).1
        exact Or.inr holds
      | upserting tokenUsed previous =>
        rw [at_phase] at ran
        exact Or.inl (upserting_ok ran).2.1
      | _ =>
        rw [at_phase] at holds
        exact holds.elim

/-- A handler past its upsert got there from one or from the upsert itself. -/
theorem pastUpsert_next (past : PastUpsert (next system.shared worker faults).2.phase) :
    PastUpsert worker.phase ∨
      Known (next system.shared worker faults).1.store worker.event.request.agentId := by
  cases ran : proceed worker.event worker.phase ⟨system.shared.store, faults⟩ with
  | mk result final =>
    have store : (next system.shared worker faults).1.store = final.state := by
      simp only [next, afterCall, ran]
    have phase : (next system.shared worker faults).2.phase = phaseAfter result := by
      simp only [next, afterCall, ran]
    rw [phase] at past
    rw [store]
    cases result with
    | error e => exact past.elim
    | ok reached =>
      cases at_phase : worker.phase with
      | upserting tokenUsed previous =>
        rw [at_phase] at ran
        exact Or.inr (upserting_ok ran).2.1
      | consuming =>
        rw [at_phase] at ran
        rw [(consuming_ok ran).1] at past
        split at past
        · exact past.elim
        · exact past.elim
      | asking =>
        rw [at_phase] at ran
        obtain ⟨known, _, _, rest⟩ := bind_ok ran
        cases (pure_ok rest).1
        cases known with
        | true => exact past.elim
        | false => exact past.elim
      | answered result =>
        rw [at_phase] at ran
        cases (pure_ok ran).1
        exact past.elim
      | rereading previous => exact Or.inl trivial
      | confirming previous current => exact Or.inl trivial
      | snapshotting => exact Or.inl trivial
      | closing => exact Or.inl trivial
      | _ =>
        rw [at_phase] at ran
        obtain ⟨_, _, _, rest⟩ := bind_ok ran
        cases (pure_ok rest).1
        exact past.elim

theorem newAnswers_length (phase phase' : Phase) : (newAnswers phase phase').length ≤ 1 := by
  unfold newAnswers
  split
  · simp
  · cases answer? phase' with
    | none => simp
    | some result => simp

/-- A handler that accepts has one call left, and so has one that refuses. -/
theorem newAnswers_next {result : ControlEventResult}
    (member : result ∈ newAnswers worker.phase (next system.shared worker faults).2.phase) :
    (result = accepted "accepted" → worker.phase = .closing) ∧
      (result = refusal → worker.phase = .refusing) := by
  cases ran : proceed worker.event worker.phase ⟨system.shared.store, faults⟩ with
  | mk outcome final =>
    have phase : (next system.shared worker faults).2.phase = phaseAfter outcome := by
      simp only [next, afterCall, ran]
    rw [phase] at member
    unfold newAnswers at member
    split at member
    · cases member
    · rename_i unanswered
      cases outcome with
      | error e =>
        obtain rfl : result = internalError := by simpa [answer?, phaseAfter] using member
        constructor
        · intro same
          cases same
        · intro same
          cases same
      | ok reached =>
        have reaches : reached = .answered result := by
          cases reached with
          | answered other =>
            have same : result = other := by simpa [answer?, phaseAfter] using member
            rw [same]
          | _ => simp [answer?, phaseAfter] at member
        subst reaches
        cases at_phase : worker.phase with
        | closing =>
          rw [at_phase] at ran
          obtain ⟨_, _, _, rest⟩ := bind_ok ran
          cases (pure_ok rest).1
          refine ⟨fun _ => rfl, ?_⟩
          intro same
          cases same
        | refusing =>
          rw [at_phase] at ran
          obtain ⟨_, _, _, rest⟩ := bind_ok ran
          cases (pure_ok rest).1
          refine ⟨?_, fun _ => rfl⟩
          intro same
          cases same
        | answered other =>
          rw [at_phase] at unanswered
          exact absurd rfl unanswered
        | consuming =>
          rw [at_phase] at ran
          have reached := (consuming_ok ran).1
          split at reached
          · cases reached
          · cases reached
        | asking =>
          rw [at_phase] at ran
          obtain ⟨known, _, _, rest⟩ := bind_ok ran
          have reached := (pure_ok rest).1
          cases known with
          | true => cases reached
          | false => cases reached
        | _ =>
          rw [at_phase] at ran
          obtain ⟨_, _, _, rest⟩ := bind_ok ran
          cases (pure_ok rest).1

/-- What the others may rely on: an agent that is known stays known. -/
theorem knownBehind_free (registry : Registry) (worker : Worker) (faults : List (Option Fault))
    (other : Worker) (behind : KnownBehind registry other) :
    KnownBehind (next registry worker faults).1 other :=
  fun past => next_known registry worker faults _ (behind past)

theorem kept_next (orderly : Orderly system) (here : system.threads[i]? = some worker)
    (fresh : ¬ Stale system (.run i faults)) : Kept (next system.shared worker faults).1 := by
  obtain ⟨calm, unknown, _⟩ := calm_of_not_stale here fresh
  refine ⟨?_, ?_⟩
  · intro agentId
    rw [usesOf_next]
    by_cases own : worker.event.request.agentId = agentId
    · rw [if_pos own]
      by_cases charges : charged system.shared.store (next system.shared worker faults).1.store = []
      · rw [charges, List.map_nil, List.append_nil]
        exact orderly.kept.once agentId
      · obtain ⟨none_before, one, _⟩ := charges_first orderly here calm charges
        rw [← own, none_before, List.nil_append, List.length_map, one]
    · rw [if_neg own, List.append_nil]
      exact orderly.kept.once agentId
  · intro agentId
    apply neverBehind_append (orderly.kept.ordered agentId)
    · rw [List.length_map]
      exact newAnswers_length _ _
    · intro refused accepts
      obtain ⟨result, member, same⟩ := List.mem_map.mp refused
      cases same
      have refusing := (newAnswers_next member).2 rfl
      exact unknown ⟨refusing, orderly.accepted _ accepts⟩

theorem accepted_next (orderly : Orderly system) (here : system.threads[i]? = some worker)
    {agentId : String}
    (accepts : (agentId, accepted "accepted") ∈ (next system.shared worker faults).1.answers) :
    Known (next system.shared worker faults).1.store agentId := by
  apply next_known
  rcases List.mem_append.mp accepts with before | now
  · exact orderly.accepted agentId before
  · obtain ⟨result, member, same⟩ := List.mem_map.mp now
    cases same
    have closing := (newAnswers_next member).1 rfl
    exact orderly.behind worker (List.mem_of_getElem? here) (by rw [closing]; trivial)

theorem held_put (orderly : Orderly system) (here : system.threads[i]? = some worker)
    (fresh : ¬ Stale system (.run i faults)) {agentId : String}
    (uses : usesOf (next system.shared worker faults).1 agentId ≠ []) :
    Known (next system.shared worker faults).1.store agentId ∨
      ∃ (j : Nat) (other : Worker),
        (system.put i (next system.shared worker faults)).threads[j]? = some other ∧
        other.event.request.agentId = agentId ∧ HoldsUse other.phase := by
  obtain ⟨calm, _, keeps⟩ := calm_of_not_stale here fresh
  by_cases some_before : usesOf system.shared agentId = []
  · rw [usesOf_next, some_before, List.nil_append] at uses
    split at uses
    · rename_i own
      have charges : charged system.shared.store (next system.shared worker faults).1.store ≠ [] :=
        fun none_charged => uses (by rw [none_charged, List.map_nil])
      obtain ⟨_, _, auditing⟩ := charges_first orderly here calm charges
      refine Or.inr ⟨i, _, put_self here _, own, ?_⟩
      rw [auditing]
      trivial
    · exact absurd rfl uses
  · rcases orderly.held agentId some_before with known | ⟨j, other, there, same, holds⟩
    · exact Or.inl (next_known _ _ _ agentId known)
    · by_cases moved : j = i
      · subst moved
        cases here.symm.trans there
        rcases held_next holds keeps with known | still
        · exact Or.inl (same ▸ known)
        · exact Or.inr ⟨j, _, put_self here _, same, still⟩
      · exact Or.inr ⟨j, other, (put_other moved _).trans there, same, holds⟩

end

theorem orderly_start {system : System} (orderly : Orderly system) (event : Registration) :
    Orderly (step system (.start event)) where
  kept := orderly.kept
  held := by
    intro agentId uses
    rcases orderly.held agentId uses with known | ⟨i, worker, here, rest⟩
    · exact Or.inl known
    · obtain ⟨inside, _⟩ := List.getElem?_eq_some_iff.mp here
      exact Or.inr ⟨i, worker, (List.getElem?_append_left inside).trans here, rest⟩
  behind := by
    refine step_owned orderly.behind ?_ (fun _ _ _ impossible => by cases impossible)
      (knownBehind_free _)
    rintro worker ⟨⟩ past
    exact past.elim
  accepted := orderly.accepted

theorem orderly_run {system : System} {i : Nat} {faults : List (Option Fault)}
    (orderly : Orderly system) (fresh : ¬ Stale system (.run i faults)) :
    Orderly (step system (.run i faults)) := by
  have behind : Owned KnownBehind (step system (.run i faults)) := by
    refine step_owned orderly.behind (fun _ impossible => by cases impossible) ?_
      (knownBehind_free _)
    intro j faults' worker _ here past
    rcases pastUpsert_next past with already | known
    · exact next_known _ _ _ _ (orderly.behind worker (List.mem_of_getElem? here) already)
    · exact known
  cases here : system.threads[i]? with
  | none =>
    have idle : step system (.run i faults) = system := by
      simp only [step, Threads.step, here]
    rw [idle]
    exact orderly
  | some worker =>
    have moved : step system (.run i faults) = system.put i (next system.shared worker faults) :=
      step_run here faults
    rw [moved] at behind ⊢
    exact ⟨kept_next orderly here fresh, fun _ => held_put orderly here fresh, behind,
      fun _ => accepted_next orderly here⟩

theorem orderly_step {system : System} {input : Input} (orderly : Orderly system)
    (fresh : ¬ Stale system input) : Orderly (step system input) := by
  cases input with
  | start event => exact orderly_start orderly event
  | run i faults => exact orderly_run orderly fresh

/-! Whole runs -/

/-- The use count of a token is what it was and the uses charged since. -/
def UsesCounted (start : Store) (registry : Registry) : Prop :=
  ∀ tokenId row, start.registrationTokens.find tokenId = some row →
    ∃ row', registry.store.registrationTokens.find tokenId = some row' ∧
      row'.useCount = row.useCount + (registry.charges.map Prod.snd).count tokenId

theorem usesCounted_step {start : Store} {system : System}
    (counted : UsesCounted start system.shared) (input : Input) :
    UsesCounted start (step system input).shared := by
  cases input with
  | start event => exact counted
  | run i faults =>
    cases here : system.threads[i]? with
    | none =>
      have idle : step system (.run i faults) = system := by
        simp only [step, Threads.step, here]
      rw [idle]
      exact counted
    | some worker =>
      have moved : step system (.run i faults) =
          system.put i (next system.shared worker faults) := step_run here faults
      rw [moved]
      intro tokenId row found
      obtain ⟨middle, found_middle, count⟩ := counted tokenId row found
      obtain ⟨row', found', count'⟩ :=
        next_counts system.shared worker faults tokenId middle found_middle
      refine ⟨row', found', ?_⟩
      have ids : ∀ tokens : List String,
          (tokens.map (worker.event.request.agentId, ·)).map Prod.snd = tokens := by
        intro tokens
        rw [List.map_map]
        exact List.map_id tokens
      have grown : ((next system.shared worker faults).1.charges.map Prod.snd).count tokenId =
          (system.shared.charges.map Prod.snd).count tokenId +
            (charged system.shared.store
              (next system.shared worker faults).1.store).count tokenId := by
        rw [next_charges, List.map_append, ids, List.count_append]
      change row'.useCount = row.useCount +
        ((next system.shared worker faults).1.charges.map Prod.snd).count tokenId
      omega

/-- However the calls of the handlers interleave, each agent is charged one token use at
    most and is not refused after it was accepted, as long as no handler acts on what is no
    longer so; and the use counts are what was charged. -/
theorem registration_consumes_once {store : Store} {inputs : List Input}
    (current : Runs.AllSteps step (System.begin store) inputs
      (fun system input => ¬ Stale system input)) :
    Runs.AllSteps step (System.begin store) inputs
        (fun system input => Kept (step system input).shared) ∧
      UsesCounted store (Runs.run step (System.begin store) inputs).shared := by
  constructor
  · intro before input after split
    have fresh := current before input after split
    have orderly : Orderly (Runs.run step (System.begin store) before) := by
      refine Runs.run_invariant Orderly (fun system input => ¬ Stale system input)
        (fun _ _ => orderly_step) ?_ (orderly_begin store)
      rw [split] at current
      exact Runs.allSteps_prefix current
    exact (orderly_step orderly fresh).kept
  · refine Runs.run_invariant_always
      (fun system : System => UsesCounted store system.shared)
      (fun _ input counted => usesCounted_step counted input) (System.begin store) ?_ inputs
    intro tokenId row found
    exact ⟨row, found, by simp [System.begin]⟩

def serviceOf (auditId : String) : Environment where
  auditId := fun n => if n = 0 then auditId ++ "-token" else auditId
  auditTime := fun _ => "2026-05-24T10:00:00Z"
  now := "2026-05-24T10:00:00Z"
  sha256BytesHex := fun token => token
  serializeAgentEventBlob := fun _ => ""
  serializeTaskResultDataBlob := fun _ => ""
  serializeTaskErrorBlob := fun _ => ""

/-- A registration of `agent-1` with the token `secret`. -/
def registrationFor (requestId : String) : Registration where
  env := serviceOf requestId
  request :=
    { protocolVersion := protocolVersion
      requestId := requestId
      agentId := "agent-1"
      occurredAt := "2026-05-24T10:00:00Z"
      agentVersion := "1.0.0"
      hostname := "host-1"
      os := "linux"
      arch := "x86_64"
      registrationToken := some "secret" }
  token := "secret"
  carries := rfl

/-- A database with one token, for one use. -/
def oneUseStore : Store :=
  { Store.empty with
    registrationTokens := Table.empty.put
      { tokenId := "token-1"
        tokenHash := "secret"
        purpose := "agent_register"
        channel := none
        platform := none
        arch := none
        maxUses := some 1
        useCount := 0
        status := .active
        createdAt := "2026-05-24T09:00:00Z"
        expiresAt := "2026-05-25T09:00:00Z"
        revokedAt := none } }

/-- The agent reconnects when its first registration is answered. -/
def inTurn : List Input :=
  .start (registrationFor "register-1") :: List.replicate 9 (.run 0 []) ++
    .start (registrationFor "register-2") :: List.replicate 7 (.run 1 [])

theorem in_turn_consumes_once :
    Runs.AllSteps step (System.begin oneUseStore) inTurn
        (fun system input => Kept (step system input).shared) ∧
      UsesCounted oneUseStore (Runs.run step (System.begin oneUseStore) inTurn).shared :=
  registration_consumes_once (by decide)

/-- The agent reconnects when its first registration has asked whether it is known. -/
def overlapping : List Input :=
  [.start (registrationFor "register-1"), .run 0 [], .start (registrationFor "register-2"),
    .run 1 []] ++ List.replicate 8 (.run 0 []) ++ [.run 1 [], .run 1 []]

/-- Of two registrations at once the second is refused after the first was accepted. -/
theorem overlapping_refused_after_accepted :
    ¬ Runs.AllSteps step (System.begin oneUseStore) overlapping
      (fun system input => Kept (step system input).shared) := by
  intro kept
  have last := kept (overlapping.dropLast) (.run 1 []) [] rfl
  have answers : (step (Runs.run step (System.begin oneUseStore) overlapping.dropLast)
      (.run 1 [])).shared.answers =
        [("agent-1", accepted "accepted")] ++ ("agent-1", refusal) :: [] := by decide
  exact last.ordered "agent-1" _ _ answers (by simp)

end RegisterInterleaving
