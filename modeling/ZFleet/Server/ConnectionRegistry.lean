import ZFleet.Foundations.Directories
import ZFleet.Foundations.Runs

/-!
The registry of control connections: the records of the open connections and, for
every agent, its current connection. The two maps stay inverse to each other as long
as no connection is opened while it is the current one of an agent, bound while it is
the current one of another agent, or bound after it was closed.
-/
namespace ConnectionRegistry
open Directories Function

structure ControlConnectionSnapshot where
  connectionId : String
  agentId : Option String
  connectedAt : String
  disconnectedAt : Option String
  lastHeartbeatAt : Option String
  deriving DecidableEq

structure ClosedConnectionSnapshot where
  connectionId : String
  agentId : Option String
  disconnectedAt : String
  wasCurrentAgentConnection : Bool
  deriving DecidableEq

structure Registry where
  connectionsById : AList fun _ : String => ControlConnectionSnapshot
  connectionByAgentId : AList fun _ : String => String

namespace Registry

def empty : Registry where
  connectionsById := ∅
  connectionByAgentId := ∅

/-- A connection that no agent has used yet. -/
def unboundConnection (connectionId connectedAt : String) : ControlConnectionSnapshot where
  connectionId := connectionId
  agentId := none
  connectedAt := connectedAt
  disconnectedAt := none
  lastHeartbeatAt := none

def openConnection (registry : Registry) (connectionId connectedAt : String) :
    Except String Registry :=
  if connectionId = "" then .error "connection_id must not be empty"
  else if connectedAt = "" then .error "connected_at must not be empty"
  else .ok { registry with
    connectionsById := registry.connectionsById.insert connectionId
      (unboundConnection connectionId connectedAt) }

def isCurrent (registry : Registry) (connection : ControlConnectionSnapshot) : Bool :=
  match connection.agentId with
  | none => false
  | some agentId =>
    registry.connectionByAgentId.lookup agentId = some connection.connectionId

/-- The index without the connection. -/
def indexWithout (registry : Registry) (connection : ControlConnectionSnapshot) :
    AList fun _ : String => String :=
  match connection.agentId with
  | none => registry.connectionByAgentId
  | some agentId =>
    if registry.isCurrent connection then registry.connectionByAgentId.erase agentId
    else registry.connectionByAgentId

def closeConnection (registry : Registry) (connectionId disconnectedAt : String) :
    Option ClosedConnectionSnapshot × Registry :=
  match registry.connectionsById.lookup connectionId with
  | none => (none, registry)
  | some connection =>
    (some {
      connectionId := connection.connectionId
      agentId := connection.agentId
      disconnectedAt := disconnectedAt
      wasCurrentAgentConnection := registry.isCurrent connection },
    { connectionsById := registry.connectionsById.erase connectionId
      connectionByAgentId := registry.indexWithout connection })

/-- The record of the connection, created when there is none. -/
def recordOf (registry : Registry) (connectionId observedAt : String) :
    ControlConnectionSnapshot :=
  (registry.connectionsById.lookup connectionId).getD
    (unboundConnection connectionId observedAt)

/-- The records without the former connection of the agent. -/
def withoutPrevious (registry : Registry) (agentId current : String) :
    AList fun _ : String => ControlConnectionSnapshot :=
  match registry.connectionByAgentId.lookup agentId with
  | none => registry.connectionsById
  | some previous =>
    if previous ≠ current then registry.connectionsById.erase previous
    else registry.connectionsById

/-- The record is written in place, so the former connection is gone by then. -/
def bindAgentLocked (registry : Registry) (connectionId agentId observedAt : String) : Registry :=
  let connection := registry.recordOf connectionId observedAt
  { connectionsById := (registry.withoutPrevious agentId connection.connectionId).insert
      connectionId { connection with agentId := some agentId, disconnectedAt := none }
    connectionByAgentId := registry.connectionByAgentId.insert agentId connection.connectionId }

def bindAgent (registry : Registry) (connectionId agentId observedAt : String) :
    Except String Registry :=
  if agentId = "" then .error "agent_id must not be empty"
  else if observedAt = "" then .error "observed_at must not be empty"
  else .ok (registry.bindAgentLocked connectionId agentId observedAt)

def recordHeartbeat (registry : Registry) (connectionId agentId heartbeatAt : String) :
    Except String Registry :=
  if agentId = "" then .error "agent_id must not be empty"
  else if heartbeatAt = "" then .error "heartbeat_at must not be empty"
  else
    let bound := registry.bindAgentLocked connectionId agentId heartbeatAt
    .ok (match bound.connectionsById.lookup connectionId with
      | none => bound
      | some connection => { bound with
          connectionsById := bound.connectionsById.insert connectionId
            { connection with lastHeartbeatAt := some heartbeatAt } })

def findByConnection (registry : Registry) (connectionId : String) :
    Option ControlConnectionSnapshot :=
  registry.connectionsById.lookup connectionId

def findByAgent (registry : Registry) (agentId : String) : Option ControlConnectionSnapshot :=
  match registry.connectionByAgentId.lookup agentId with
  | none => none
  | some connectionId =>
    match registry.connectionsById.lookup connectionId with
    | none => none
    | some connection => if connection.disconnectedAt.isSome then none else some connection

end Registry

inductive RegistryOp where
  | openConnection (connectionId connectedAt : String)
  | closeConnection (connectionId disconnectedAt : String)
  | bindAgent (connectionId agentId observedAt : String)
  | recordHeartbeat (connectionId agentId heartbeatAt : String)

def executeOp (registry : Registry) : RegistryOp → Except String Registry
  | .openConnection c connectedAt => registry.openConnection c connectedAt
  | .closeConnection c disconnectedAt => .ok (registry.closeConnection c disconnectedAt).2
  | .bindAgent c a observedAt => registry.bindAgent c a observedAt
  | .recordHeartbeat c a heartbeatAt => registry.recordHeartbeat c a heartbeatAt

/-- A call that throws leaves the registry as it was. -/
def step (registry : Registry) (op : RegistryOp) : Registry :=
  match executeOp registry op with
  | .ok registry' => registry'
  | .error _ => registry

def registryAfter (ops : List RegistryOp) : Registry := Runs.run step Registry.empty ops

/-- The call opens the connection. -/
def Opens (c : String) : RegistryOp → Prop
  | .openConnection d connectedAt => d = c ∧ c ≠ "" ∧ connectedAt ≠ ""
  | _ => False

/-- The call binds the connection to the agent. -/
def Binds (c a : String) : RegistryOp → Prop
  | .bindAgent d b observedAt => d = c ∧ b = a ∧ a ≠ "" ∧ observedAt ≠ ""
  | .recordHeartbeat d b heartbeatAt => d = c ∧ b = a ∧ a ≠ "" ∧ heartbeatAt ≠ ""
  | _ => False

/-- The connection was closed and not opened again. -/
def Closed (c : String) (ops : List RegistryOp) : Prop :=
  ∃ before disconnectedAt later, ops = before ++ .closeConnection c disconnectedAt :: later ∧
    ∀ op ∈ later, ¬ Opens c op

/-- What the registry promises after the calls `ops`. -/
structure Coherent (ops : List RegistryOp) : Prop where
  current_owned : ∀ a c, (registryAfter ops).connectionByAgentId.lookup a = some c →
    ∃ connection, (registryAfter ops).connectionsById.lookup c = some connection ∧
      connection.agentId = some a
  one_agent : ∀ a b c, (registryAfter ops).connectionByAgentId.lookup a = some c →
    (registryAfter ops).connectionByAgentId.lookup b = some c → a = b
  closed_unknown : ∀ c, Closed c ops → (registryAfter ops).findByConnection c = none
  closed_not_current : ∀ c, Closed c ops → ∀ a connection,
    (registryAfter ops).findByAgent a = some connection → connection.connectionId ≠ c

/-- Binding an agent keeps the records of the other agents. -/
def KeepsOthers (registry : Registry) (op : RegistryOp) : Prop :=
  ∀ c a, Binds c a op → ∀ d connection b, registry.connectionsById.lookup d = some connection →
    connection.agentId = some b → b ≠ a →
    ((step registry op).connectionsById.lookup d).isSome

/-- The calls that the registry does not cope with. -/
def Conflicts (before : List RegistryOp) (op : RegistryOp) : Prop :=
  ∃ c, (Opens c op ∧ ∃ a, (registryAfter before).connectionByAgentId.lookup a = some c) ∨
    ∃ a, Binds c a op ∧ (Closed c before ∨
      ∃ b, b ≠ a ∧ (registryAfter before).connectionByAgentId.lookup b = some c)

/-! What a call does to the two maps -/

abbrev recordsOf (registry : Registry) : String → Option ControlConnectionSnapshot :=
  contents registry.connectionsById

abbrev currentOf (registry : Registry) : String → Option String :=
  contents registry.connectionByAgentId

/-- Every record stands under its own id. -/
abbrev OwnIds (registry : Registry) : Prop :=
  Every (fun c connection => connection.connectionId = c) (recordsOf registry)

abbrev MatchedMaps (registry : Registry) : Prop :=
  Matched ControlConnectionSnapshot.agentId (recordsOf registry) (currentOf registry)

theorem openConnection_cases {registry registry' : Registry} {c connectedAt : String}
    (opened : registry.openConnection c connectedAt = .ok registry') :
    Opens c (.openConnection c connectedAt) ∧
    recordsOf registry' =
      update (recordsOf registry) c (some (Registry.unboundConnection c connectedAt)) ∧
    currentOf registry' = currentOf registry := by
  unfold Registry.openConnection at opened
  split at opened
  · cases opened
  · rename_i some_id
    split at opened
    · cases opened
    · rename_i some_time
      cases opened
      exact ⟨⟨rfl, some_id, some_time⟩, contents_insert _ _ _, rfl⟩

theorem recordOf_id {registry : Registry} (ids : OwnIds registry) (c observedAt : String) :
    (registry.recordOf c observedAt).connectionId = c := by
  unfold Registry.recordOf
  cases found : registry.connectionsById.lookup c with
  | none => rfl
  | some connection => exact ids c connection found

/-- The record that a bind writes. -/
structure BoundTo (c a : String) (connection : ControlConnectionSnapshot) : Prop where
  id : connection.connectionId = c
  agent : connection.agentId = some a
  connected : connection.disconnectedAt = none

/-- What a bind does: the former connection of the agent goes, and the record of the new one
    belongs to the agent. -/
structure BindEffect (c a : String) (registry registry' : Registry) : Prop where
  current : currentOf registry' = update (currentOf registry) a (some c)
  records : ∃ connection, BoundTo c a connection ∧
    ((∃ previous, currentOf registry a = some previous ∧ previous ≠ c ∧
      recordsOf registry' =
        update (update (recordsOf registry) previous none) c (some connection)) ∨
    ((∀ previous, currentOf registry a = some previous → previous = c) ∧
      recordsOf registry' = update (recordsOf registry) c (some connection)))

theorem bindAgentLocked_effect {registry : Registry} (ids : OwnIds registry)
    (c a observedAt : String) :
    BindEffect c a registry (registry.bindAgentLocked c a observedAt) := by
  have own_id := recordOf_id ids c observedAt
  unfold Registry.bindAgentLocked
  generalize registry.recordOf c observedAt = connection at own_id
  subst own_id
  constructor
  · exact contents_insert _ _ _
  · refine ⟨{ connection with agentId := some a, disconnectedAt := none }, ⟨rfl, rfl, rfl⟩, ?_⟩
    unfold recordsOf
    rw [contents_insert]
    unfold Registry.withoutPrevious
    cases former : registry.connectionByAgentId.lookup a with
    | none =>
      right
      constructor
      · intro d found
        have absent : none = some d := former.symm.trans found
        cases absent
      · rfl
    | some previous =>
      by_cases same : previous = connection.connectionId
      · right
        constructor
        · intro d found
          have same_key : some previous = some d := former.symm.trans found
          exact (Option.some.inj same_key).symm.trans same
        · simp only [same, ne_eq, not_true_eq_false, if_false]
      · left
        refine ⟨previous, former, same, ?_⟩
        simp only [if_pos same, ne_eq]
        rw [contents_erase]

theorem find_after_bind {c a : String} {registry registry' : Registry}
    (effect : BindEffect c a registry registry') :
    ∃ connection, BoundTo c a connection ∧ recordsOf registry' c = some connection := by
  obtain ⟨connection, bound, ⟨previous, _, _, records⟩ | ⟨_, records⟩⟩ := effect.records
  · exact ⟨connection, bound, by rw [records, update_self]⟩
  · exact ⟨connection, bound, by rw [records, update_self]⟩

/-- The record of a bound connection may be written again. -/
theorem bindEffect_rewrite {c a : String} {registry middle registry' : Registry}
    {connection : ControlConnectionSnapshot} (effect : BindEffect c a registry middle)
    (bound : BoundTo c a connection) (current : currentOf registry' = currentOf middle)
    (rewritten : recordsOf registry' = update (recordsOf middle) c (some connection)) :
    BindEffect c a registry registry' := by
  constructor
  · rw [current, effect.current]
  · refine ⟨connection, bound, ?_⟩
    obtain ⟨old, _, ⟨previous, former, other, records⟩ | ⟨alone, records⟩⟩ := effect.records
    · left
      exact ⟨previous, former, other, by rw [rewritten, records, update_idem]⟩
    · right
      exact ⟨alone, by rw [rewritten, records, update_idem]⟩

theorem recordHeartbeat_effect {registry registry' : Registry} (ids : OwnIds registry)
    {c a heartbeatAt : String}
    (recorded : registry.recordHeartbeat c a heartbeatAt = .ok registry') :
    BindEffect c a registry registry' := by
  have bind := bindAgentLocked_effect ids c a heartbeatAt
  obtain ⟨connection, bound, found⟩ := find_after_bind bind
  unfold Registry.recordHeartbeat at recorded
  split at recorded
  · cases recorded
  · split at recorded
    · cases recorded
    · have at_c : (registry.bindAgentLocked c a heartbeatAt).connectionsById.lookup c =
          some connection := found
      simp only [at_c] at recorded
      cases recorded
      have bound_again : BoundTo c a { connection with lastHeartbeatAt := some heartbeatAt } :=
        ⟨bound.id, bound.agent, bound.connected⟩
      exact bindEffect_rewrite bind bound_again rfl (contents_insert _ _ _)

theorem step_ok {registry registry' : Registry} {op : RegistryOp}
    (executed : executeOp registry op = .ok registry') : step registry op = registry' := by
  unfold step
  rw [executed]

theorem step_error {registry : Registry} {op : RegistryOp} {message : String}
    (thrown : executeOp registry op = .error message) : step registry op = registry := by
  unfold step
  rw [thrown]

/-- All that a call can do. -/
inductive StepEffect (registry : Registry) (op : RegistryOp) (registry' : Registry) : Prop where
  | opened (c : String) (connection : ControlConnectionSnapshot) (opens : Opens c op)
      (id : connection.connectionId = c) (unbound : connection.agentId = none)
      (connected : connection.disconnectedAt = none)
      (records : recordsOf registry' = update (recordsOf registry) c (some connection))
      (current : currentOf registry' = currentOf registry)
  | closedCurrent (c disconnectedAt a : String)
      (closes : op = .closeConnection c disconnectedAt) (current : currentOf registry a = some c)
      (records : recordsOf registry' = update (recordsOf registry) c none)
      (left : currentOf registry' = update (currentOf registry) a none)
  | closedOther (c disconnectedAt : String) (connection : ControlConnectionSnapshot)
      (closes : op = .closeConnection c disconnectedAt)
      (found : recordsOf registry c = some connection)
      (other : ∀ a, connection.agentId = some a → currentOf registry a ≠ some c)
      (records : recordsOf registry' = update (recordsOf registry) c none)
      (same : currentOf registry' = currentOf registry)
  | closedUnknown (c disconnectedAt : String)
      (closes : op = .closeConnection c disconnectedAt) (unknown : recordsOf registry c = none)
      (same : registry' = registry)
  | bound (c a : String) (binds : Binds c a op) (effect : BindEffect c a registry registry')
  | refused (message : String) (thrown : executeOp registry op = .error message)
      (same : registry' = registry)

theorem isCurrent_iff (registry : Registry) (connection : ControlConnectionSnapshot) :
    registry.isCurrent connection = true ↔ ∃ a, connection.agentId = some a ∧
      currentOf registry a = some connection.connectionId := by
  unfold Registry.isCurrent currentOf contents
  cases connection.agentId with
  | none => simp
  | some a => simp

theorem contents_indexWithout (registry : Registry) (connection : ControlConnectionSnapshot) :
    (∃ a, connection.agentId = some a ∧
      currentOf registry a = some connection.connectionId ∧
      contents (registry.indexWithout connection) = update (currentOf registry) a none) ∨
    ((∀ a, connection.agentId = some a →
        currentOf registry a ≠ some connection.connectionId) ∧
      contents (registry.indexWithout connection) = currentOf registry) := by
  by_cases current : registry.isCurrent connection = true
  · left
    obtain ⟨a, owned, indexed⟩ := (isCurrent_iff registry connection).mp current
    refine ⟨a, owned, indexed, ?_⟩
    simp only [Registry.indexWithout, owned, current, if_true]
    exact contents_erase _ _
  · right
    constructor
    · intro a owned indexed
      exact current ((isCurrent_iff registry connection).mpr ⟨a, owned, indexed⟩)
    · unfold Registry.indexWithout
      cases connection.agentId with
      | none => rfl
      | some a =>
        simp only [if_neg current]

theorem closeConnection_found {registry : Registry} {c : String}
    {connection : ControlConnectionSnapshot}
    (found : registry.connectionsById.lookup c = some connection) {disconnectedAt : String} :
    registry.closeConnection c disconnectedAt =
      (some {
        connectionId := connection.connectionId
        agentId := connection.agentId
        disconnectedAt := disconnectedAt
        wasCurrentAgentConnection := registry.isCurrent connection },
      { connectionsById := registry.connectionsById.erase c
        connectionByAgentId := registry.indexWithout connection }) := by
  simp only [Registry.closeConnection, found]

theorem closeConnection_unknown {registry : Registry} {c : String}
    (unknown : registry.connectionsById.lookup c = none) {disconnectedAt : String} :
    registry.closeConnection c disconnectedAt = (none, registry) := by
  simp only [Registry.closeConnection, unknown]

theorem closeConnection_effect {registry : Registry} (ids : OwnIds registry)
    (c disconnectedAt : String) :
    StepEffect registry (.closeConnection c disconnectedAt)
      (registry.closeConnection c disconnectedAt).2 := by
  cases found : registry.connectionsById.lookup c with
  | none =>
    rw [closeConnection_unknown found]
    exact .closedUnknown c disconnectedAt rfl found rfl
  | some connection =>
    obtain rfl : connection.connectionId = c := ids c connection found
    rw [closeConnection_found found]
    obtain ⟨a, _, current, left⟩ | ⟨other, same⟩ := contents_indexWithout registry connection
    · exact .closedCurrent connection.connectionId disconnectedAt a rfl current
        (contents_erase _ _) left
    · exact .closedOther connection.connectionId disconnectedAt connection rfl found other
        (contents_erase _ _) same

theorem step_effect {registry : Registry} (ids : OwnIds registry) (op : RegistryOp) :
    StepEffect registry op (step registry op) := by
  cases result : executeOp registry op with
  | error message => exact .refused message result (step_error result)
  | ok registry' =>
    rw [step_ok result]
    cases op with
    | openConnection c connectedAt =>
      obtain ⟨opens, records, current⟩ := openConnection_cases result
      exact .opened c (Registry.unboundConnection c connectedAt) opens rfl rfl rfl records
        current
    | closeConnection c disconnectedAt =>
      cases result
      exact closeConnection_effect ids c disconnectedAt
    | bindAgent c a observedAt =>
      change registry.bindAgent c a observedAt = .ok registry' at result
      unfold Registry.bindAgent at result
      by_cases no_agent : a = ""
      · rw [if_pos no_agent] at result
        cases result
      · by_cases no_time : observedAt = ""
        · rw [if_neg no_agent, if_pos no_time] at result
          cases result
        · rw [if_neg no_agent, if_neg no_time] at result
          cases result
          exact .bound c a ⟨rfl, rfl, no_agent, no_time⟩ (bindAgentLocked_effect ids c a observedAt)
    | recordHeartbeat c a heartbeatAt =>
      change registry.recordHeartbeat c a heartbeatAt = .ok registry' at result
      have effect := recordHeartbeat_effect ids result
      unfold Registry.recordHeartbeat at result
      by_cases no_agent : a = ""
      · rw [if_pos no_agent] at result
        cases result
      · by_cases no_time : heartbeatAt = ""
        · rw [if_neg no_agent, if_pos no_time] at result
          cases result
        · exact .bound c a ⟨rfl, rfl, no_agent, no_time⟩ effect

theorem opens_effect (registry : Registry) {op : RegistryOp} {c : String} (opens : Opens c op) :
    ∃ connection, connection.agentId = none ∧
      recordsOf (step registry op) c = some connection ∧
      currentOf (step registry op) = currentOf registry := by
  cases op with
  | openConnection d connectedAt =>
    obtain ⟨rfl, some_id, some_time⟩ := opens
    cases result : registry.openConnection d connectedAt with
    | error message => simp [Registry.openConnection, some_id, some_time] at result
    | ok registry' =>
      obtain ⟨_, records, same⟩ := openConnection_cases result
      have opened : executeOp registry (.openConnection d connectedAt) = .ok registry' := result
      rw [step_ok opened, records, same]
      exact ⟨_, rfl, update_self _ _ _, rfl⟩
  | closeConnection | bindAgent | recordHeartbeat => exact opens.elim

/-- A call that binds does bind. -/
theorem binds_effect {registry : Registry} (ids : OwnIds registry) {op : RegistryOp}
    {c a : String} (binds : Binds c a op) : BindEffect c a registry (step registry op) := by
  cases op with
  | openConnection | closeConnection => exact binds.elim
  | bindAgent d b observedAt =>
    obtain ⟨rfl, rfl, some_agent, some_time⟩ := binds
    have bound : executeOp registry (.bindAgent d b observedAt) =
        .ok (registry.bindAgentLocked d b observedAt) := by
      change registry.bindAgent d b observedAt = _
      unfold Registry.bindAgent
      rw [if_neg some_agent, if_neg some_time]
    rw [step_ok bound]
    exact bindAgentLocked_effect ids d b observedAt
  | recordHeartbeat d b heartbeatAt =>
    obtain ⟨rfl, rfl, some_agent, some_time⟩ := binds
    cases result : executeOp registry (.recordHeartbeat d b heartbeatAt) with
    | error message =>
      simp [executeOp, Registry.recordHeartbeat, some_agent, some_time] at result
    | ok registry' =>
      rw [step_ok result]
      exact recordHeartbeat_effect ids result

/-! What calls keep -/

/-- A property of the records that every new record has. -/
theorem every_step {right : String → ControlConnectionSnapshot → Prop} {registry : Registry}
    (ids : OwnIds registry) (every : Every right (recordsOf registry))
    (fresh : ∀ c connection, connection.connectionId = c → connection.disconnectedAt = none →
      right c connection) (op : RegistryOp) : Every right (recordsOf (step registry op)) := by
  cases step_effect ids op with
  | opened c connection opens id unbound connected records current =>
    rw [records]
    exact every_insert every (fresh c connection id connected)
  | closedCurrent c disconnectedAt a closes current records left =>
    rw [records]
    exact every_erase every c
  | closedOther c disconnectedAt connection closes found other records same =>
    rw [records]
    exact every_erase every c
  | closedUnknown c disconnectedAt closes unknown same =>
    rw [same]
    exact every
  | bound c a binds effect =>
    obtain ⟨connection, bound, ⟨previous, _, _, records⟩ | ⟨_, records⟩⟩ := effect.records
    · rw [records]
      exact every_insert (every_erase every previous)
        (fresh c connection bound.id bound.connected)
    · rw [records]
      exact every_insert every (fresh c connection bound.id bound.connected)
  | refused message thrown same =>
    rw [same]
    exact every

theorem ownIds_step {registry : Registry} (ids : OwnIds registry) (op : RegistryOp) :
    OwnIds (step registry op) := every_step ids ids (fun _ _ id _ => id) op

theorem ownIds_after (ops : List RegistryOp) : OwnIds (registryAfter ops) :=
  Runs.run_invariant_always OwnIds (fun _ op ids => ownIds_step ids op) _
    (fun c record found => by cases found) ops

theorem registryAfter_snoc (ops : List RegistryOp) (op : RegistryOp) :
    registryAfter (ops ++ [op]) = step (registryAfter ops) op :=
  Runs.run_snoc step Registry.empty ops op

theorem closed_snoc (c : String) (ops : List RegistryOp) (op : RegistryOp) :
    Closed c (ops ++ [op]) ↔
      (∃ disconnectedAt, op = .closeConnection c disconnectedAt) ∨ Closed c ops ∧ ¬ Opens c op := by
  constructor
  · rintro ⟨before, disconnectedAt, later, split, unopened⟩
    cases later using List.reverseRecOn with
    | nil =>
      have last := (List.append_inj' split rfl).2
      exact .inl ⟨disconnectedAt, List.head_eq_of_cons_eq last⟩
    | append_singleton later last =>
      rw [← List.cons_append, ← List.append_assoc] at split
      obtain ⟨same, last_eq⟩ := List.append_inj' split rfl
      obtain rfl : op = last := List.head_eq_of_cons_eq last_eq
      right
      constructor
      · refine ⟨before, disconnectedAt, later, same, ?_⟩
        intro o member
        exact unopened o (by simp [member])
      · exact unopened op (by simp)
  · rintro (⟨disconnectedAt, rfl⟩ | ⟨⟨before, disconnectedAt, later, rfl, unopened⟩, other⟩)
    · exact ⟨ops, disconnectedAt, [], rfl, by simp⟩
    · refine ⟨before, disconnectedAt, later ++ [op], by simp, ?_⟩
      intro o member
      rcases List.mem_append.mp member with earlier | last
      · exact unopened o earlier
      · obtain rfl := List.mem_singleton.mp last
        exact other

/-- The call opens no current connection and binds no current connection of another agent. -/
structure Orderly (registry : Registry) (op : RegistryOp) : Prop where
  opens : ∀ c, Opens c op → ∀ a, currentOf registry a ≠ some c
  binds : ∀ c a, Binds c a op → ∀ b, currentOf registry b = some c → b = a

theorem orderly_of_no_conflict {before : List RegistryOp} {op : RegistryOp}
    (fine : ¬ Conflicts before op) : Orderly (registryAfter before) op where
  opens c opens a current := fine ⟨c, .inl ⟨opens, a, current⟩⟩
  binds c a binds b current := by
    by_contra other
    exact fine ⟨c, .inr ⟨a, binds, .inr ⟨b, other, current⟩⟩⟩

theorem matched_step {registry : Registry} {op : RegistryOp} (matched : MatchedMaps registry)
    (ids : OwnIds registry) (orderly : Orderly registry op) : MatchedMaps (step registry op) := by
  unfold MatchedMaps
  cases step_effect ids op with
  | opened c connection opens id unbound connected records current =>
    rw [records, current]
    exact matched_insert_free matched unbound (orderly.opens c opens)
  | closedCurrent c disconnectedAt a closes current records left =>
    rw [records, left]
    exact matched_erase_owned matched current
  | closedOther c disconnectedAt connection closes found other records same =>
    rw [records, same]
    apply matched_erase_free matched
    intro record at_c
    rw [found] at at_c
    cases at_c
    cases owner : connection.agentId with
    | none => rfl
    | some a => exact absurd ((matched a c).mpr ⟨connection, found, owner⟩) (other a owner)
  | closedUnknown c disconnectedAt closes unknown same =>
    rw [same]
    exact matched
  | bound c a binds effect =>
    have unnamed := orderly.binds c a binds
    obtain ⟨connection, bound, ⟨previous, former, _, records⟩ | ⟨alone, records⟩⟩ := effect.records
    · rw [records, effect.current]
      exact matched_take_over matched bound.agent former unnamed
    · rw [records, effect.current]
      exact matched_insert_owned matched bound.agent alone unnamed
  | refused message thrown same =>
    rw [same]
    exact matched

theorem closed_unknown_step {ops : List RegistryOp} {op : RegistryOp}
    (unknown : ∀ c, Closed c ops → recordsOf (registryAfter ops) c = none)
    (fine : ¬ Conflicts ops op) (c : String) (closed : Closed c (ops ++ [op])) :
    recordsOf (registryAfter (ops ++ [op])) c = none := by
  have kept : ∀ d, recordsOf (registryAfter ops) c = none ∨ d = c →
      update (recordsOf (registryAfter ops)) d none c = none := by
    intro d either
    by_cases same : c = d
    · subst same
      rw [update_self]
    · rw [update_of_ne same]
      exact either.resolve_right fun back => same back.symm
  rw [registryAfter_snoc]
  rcases (closed_snoc c ops op).mp closed with ⟨disconnectedAt, rfl⟩ | ⟨closed_before, unopened⟩
  · cases step_effect (ownIds_after ops) (.closeConnection c disconnectedAt) with
    | opened d connection opens => exact opens.elim
    | closedCurrent d disconnectedAt' a closes current records left =>
      cases closes
      rw [records]
      exact kept c (.inr rfl)
    | closedOther d disconnectedAt' connection closes found other records same =>
      cases closes
      rw [records]
      exact kept c (.inr rfl)
    | closedUnknown d disconnectedAt' closes at_d same =>
      cases closes
      rw [same]
      exact at_d
    | bound d a binds => exact binds.elim
    | refused message thrown => cases thrown
  · have gone := unknown c closed_before
    cases step_effect (ownIds_after ops) op with
    | opened d connection opens id unbound connected records current =>
      have other : c ≠ d := by
        rintro rfl
        exact unopened opens
      rw [records, update_of_ne other]
      exact gone
    | closedCurrent d disconnectedAt a closes current records left =>
      rw [records]
      exact kept d (.inl gone)
    | closedOther d disconnectedAt connection closes found other records same =>
      rw [records]
      exact kept d (.inl gone)
    | closedUnknown d disconnectedAt closes at_d same =>
      rw [same]
      exact gone
    | bound d a binds effect =>
      have other : c ≠ d := by
        rintro rfl
        exact fine ⟨c, .inr ⟨a, binds, .inl closed_before⟩⟩
      obtain ⟨connection, bound, ⟨previous, former, _, records⟩ | ⟨_, records⟩⟩ := effect.records
      · rw [records, update_of_ne other]
        exact kept previous (.inl gone)
      · rw [records, update_of_ne other]
        exact gone
    | refused message thrown same =>
      rw [same]
      exact gone

/-- No call of the run conflicts. -/
def NoConflicts (ops : List RegistryOp) : Prop :=
  ∀ before op after, ops = before ++ op :: after → ¬ Conflicts before op

theorem noConflicts_of_append {first rest : List RegistryOp} (fine : NoConflicts (first ++ rest)) :
    NoConflicts first := by
  intro before op after split
  exact fine before op (after ++ rest) (by rw [split]; simp)

theorem matched_after {ops : List RegistryOp} (fine : NoConflicts ops) :
    MatchedMaps (registryAfter ops) ∧
      ∀ c, Closed c ops → recordsOf (registryAfter ops) c = none := by
  induction ops using List.reverseRecOn with
  | nil =>
    constructor
    · exact matched_empty _
    · rintro c ⟨before, disconnectedAt, later, split, _⟩
      simp at split
  | append_singleton ops op ih =>
    obtain ⟨matched, unknown⟩ := ih (noConflicts_of_append fine)
    have last := fine ops op [] rfl
    constructor
    · rw [registryAfter_snoc]
      exact matched_step matched (ownIds_after ops) (orderly_of_no_conflict last)
    · exact closed_unknown_step unknown last

theorem findByAgent_some {registry : Registry} {a : String}
    {connection : ControlConnectionSnapshot} (found : registry.findByAgent a = some connection) :
    ∃ c, currentOf registry a = some c ∧ recordsOf registry c = some connection := by
  unfold Registry.findByAgent at found
  split at found
  · cases found
  · rename_i c current
    split at found
    · cases found
    · rename_i record at_c
      split at found
      · cases found
      · cases found
        exact ⟨c, current, at_c⟩

theorem coherent_after {ops : List RegistryOp} (fine : NoConflicts ops) : Coherent ops := by
  obtain ⟨matched, unknown⟩ := matched_after fine
  constructor
  · intro a c current
    exact indexed_owned matched current
  · intro a b c at_a at_b
    exact indexed_once matched at_a at_b
  · exact unknown
  · intro c closed a connection found own_id
    obtain ⟨d, _, at_d⟩ := findByAgent_some found
    have same : connection.connectionId = d := ownIds_after ops d connection at_d
    rw [← same, own_id, unknown c closed] at at_d
    cases at_d

theorem keepsOthers_of_matched {registry : Registry} (matched : MatchedMaps registry)
    (ids : OwnIds registry) (op : RegistryOp) : KeepsOthers registry op := by
  intro c a binds d connection b found owned other
  have effect := binds_effect ids binds
  change (recordsOf (step registry op) d).isSome
  by_cases same : d = c
  · subst same
    obtain ⟨_, _, at_d⟩ := find_after_bind effect
    rw [at_d]
    rfl
  · obtain ⟨_, _, ⟨previous, former, _, records⟩ | ⟨_, records⟩⟩ := effect.records
    · have kept : d ≠ previous := by
        rintro rfl
        -- the former connection of `a` is a record of `a`, and this one is of `b`
        obtain ⟨record, at_d, owned'⟩ := indexed_owned matched former
        have same_record : some record = some connection := at_d.symm.trans found
        cases same_record
        rw [owned] at owned'
        exact other (Option.some.inj owned')
      rw [records, update_of_ne same, update_of_ne kept, show recordsOf registry d = _ from found]
      rfl
    · rw [records, update_of_ne same, show recordsOf registry d = _ from found]
      rfl

theorem conflict_breaks_coherence {before : List RegistryOp} {op : RegistryOp}
    (coherent : Coherent (before ++ [op])) : ¬ Conflicts before op := by
  have ids := ownIds_after before
  rintro ⟨c, ⟨opens, a, current⟩ | ⟨a, binds, closed | ⟨b, other, current⟩⟩⟩
  · obtain ⟨connection, unbound, found, same⟩ := opens_effect (registryAfter before) opens
    rw [← registryAfter_snoc] at found same
    have still : currentOf (registryAfter (before ++ [op])) a = some c := by
      rw [same]
      exact current
    obtain ⟨owned, at_c, of_a⟩ := coherent.current_owned a c still
    have same_record : some connection = some owned := found.symm.trans at_c
    cases same_record
    rw [unbound] at of_a
    cases of_a
  · have not_opens : ¬ Opens c op := by
      cases op with
      | openConnection | closeConnection => exact binds.elim
      | bindAgent | recordHeartbeat => exact fun opens => opens
    have gone := coherent.closed_unknown c ((closed_snoc c before op).mpr (.inr ⟨closed, not_opens⟩))
    have effect := binds_effect ids binds
    rw [← registryAfter_snoc] at effect
    obtain ⟨_, _, found⟩ := find_after_bind effect
    have same_record : none = some _ := gone.symm.trans found
    cases same_record
  · have effect := binds_effect ids binds
    rw [← registryAfter_snoc] at effect
    apply other
    apply coherent.one_agent b a c
    · change currentOf _ b = some c
      rw [effect.current, update_of_ne other]
      exact current
    · change currentOf _ a = some c
      rw [effect.current, update_self]

/-- The promises hold throughout a run of the calls. -/
structure CoherentRun (ops : List RegistryOp) : Prop where
  states : ∀ before after, ops = before ++ after → Coherent before
  binds : ∀ before op after, ops = before ++ op :: after → KeepsOthers (registryAfter before) op

/-- The registry keeps its promises throughout a run exactly when no call conflicts. -/
theorem coherent_iff_no_conflicts (ops : List RegistryOp) : CoherentRun ops ↔ NoConflicts ops := by
  constructor
  · intro coherent before op after split
    apply conflict_breaks_coherence
    exact coherent.states (before ++ [op]) after (by rw [split]; simp)
  · intro fine
    constructor
    · rintro before after rfl
      exact coherent_after (noConflicts_of_append fine)
    · rintro before op after rfl
      exact keepsOthers_of_matched (matched_after (noConflicts_of_append fine)).1
        (ownIds_after before) op

/-- A worker that binds after the connection was closed brings the connection back. -/
theorem closed_connection_found :
    ¬ CoherentRun [.openConnection "conn-1" "12:00:00", .closeConnection "conn-1" "12:00:05",
      .bindAgent "conn-1" "agent-1" "12:00:01"] := by
  intro coherent
  have last := coherent.states _ [] (List.append_nil _).symm
  have closed : Closed "conn-1" [.openConnection "conn-1" "12:00:00",
      .closeConnection "conn-1" "12:00:05", .bindAgent "conn-1" "agent-1" "12:00:01"] := by
    refine ⟨[.openConnection "conn-1" "12:00:00"], "12:00:05", _, rfl, ?_⟩
    intro op member
    obtain rfl := List.mem_singleton.mp member
    exact fun opens => opens
  exact last.closed_not_current "conn-1" closed "agent-1" _ rfl rfl

end ConnectionRegistry
