import ZFleet.Foundations.Runs
import ZFleet.Foundations.Worklists
import ZFleet.Server.ControlDispatcher

/-!
Who is online. The store has a status for every agent and the registry a current
connection, and registrations and closed sessions change both, one after the other.
Where the two parts of one change fall between those of another, the status and the
connection disagree for good.
-/
namespace Presence
open Message KeyedTables Transactions Schema AgentStore ControlService ControlDispatcher
open ConnectionRegistry Directories

/-- A write that waits for the write actor. -/
inductive StoreWrite where
  | upsertAgent (connectionId : String) (request : AgentRegistration)
  | markAgentOffline (agentId disconnectedAt : String)

structure System where
  store : Store
  registry : Registry
  opened : List String
  closed : List String
  writes : List StoreWrite
  /-- Registrations that are stored and not yet bound, one for each worker at work. -/
  stored : List (String × AgentRegistration)
  /-- Agents whose current connection is closed and whose status is not yet written. -/
  closing : List (String × String)

inductive Action where
  | openConnection (connectionId connectedAt : String)
  | submitUpsert (connectionId : String) (request : AgentRegistration)
  | applyWrite
  | bindAgent (worker : Nat)
  | closeConnection (connectionId disconnectedAt : String)
  | submitOffline (session : Nat)

/-- The write actor runs a write that the engine accepts. -/
def applyWrite (store : Store) : StoreWrite → Store
  | .upsertAgent _ request => (upsertAgent request ⟨store, []⟩).2.state
  | .markAgentOffline agentId disconnectedAt =>
    (markAgentOffline agentId disconnectedAt ⟨store, []⟩).2.state

/-- The registration that goes on once its write is done. -/
def registrations : StoreWrite → List (String × AgentRegistration)
  | .upsertAgent connectionId request => [(connectionId, request)]
  | .markAgentOffline _ _ => []

/-- A session marks the agent offline if it was the current connection of the agent. -/
def offlineMarks : Option ClosedConnectionSnapshot → List (String × String)
  | none => []
  | some closed =>
    match closed.agentId with
    | none => []
    | some agentId =>
      if closed.wasCurrentAgentConnection then [(agentId, closed.disconnectedAt)] else []

/-- An action that is not possible leaves the system as it is. -/
def step (system : System) : Action → System
  | .openConnection c connectedAt =>
    -- connection ids are new
    if c ∈ system.opened then system
    else match system.registry.openConnection c connectedAt with
      | .error _ => system
      | .ok registry => { system with registry := registry, opened := c :: system.opened }
  | .submitUpsert c request =>
    if c ∈ system.opened ∧ (validateEnvelope (.registration request)).status = .accepted then
      { system with writes := system.writes ++ [.upsertAgent c request] }
    else system
  | .applyWrite =>
    match system.writes with
    | [] => system
    | write :: rest => { system with
        store := applyWrite system.store write
        writes := rest
        stored := system.stored ++ registrations write }
  | .bindAgent worker =>
    match system.stored[worker]? with
    | none => system
    | some (c, request) => { system with
        registry := recordAcceptedEvent c system.registry (.registration request)
        stored := system.stored.eraseIdx worker }
  | .closeConnection c disconnectedAt =>
    if c ∈ system.opened ∧ c ∉ system.closed then { system with
      registry := (system.registry.closeConnection c disconnectedAt).2
      closed := c :: system.closed
      closing := system.closing ++
        offlineMarks (system.registry.closeConnection c disconnectedAt).1 }
    else system
  | .submitOffline session =>
    match system.closing[session]? with
    | none => system
    | some (agentId, disconnectedAt) => { system with
        writes := system.writes ++ [.markAgentOffline agentId disconnectedAt]
        closing := system.closing.eraseIdx session }

def start (store : Store) : System where
  store := store
  registry := Registry.empty
  opened := []
  closed := []
  writes := []
  stored := []
  closing := []

def Online (agentId : String) (store : Store) : Prop :=
  ∃ row, store.agents.find agentId = some row ∧ row.status = .online

structure Quiescent (system : System) : Prop where
  writes : system.writes = []
  stored : system.stored = []
  closing : system.closing = []

/-- An agent is online when it has a current connection whose session is open. -/
def Agrees (system : System) : Prop :=
  ∀ agentId, Online agentId system.store ↔
    ∃ connection, system.registry.findByAgent agentId = some connection ∧
      connection.connectionId ∉ system.closed

/-- A registration of the agent is being handled. -/
def Registering (system : System) (agentId : String) : Prop :=
  (∃ c request, .upsertAgent c request ∈ system.writes ∧ request.agentId = agentId) ∨
    ∃ entry ∈ system.stored, entry.2.agentId = agentId

/-- The step does not fall into another change: a connection is bound while its session is
    open and to one agent only, and an agent is marked offline while none of its registrations
    is being handled and it has no other connection. -/
def Undisturbed (system : System) : Action → Prop
  | .bindAgent worker => ∀ c request, system.stored[worker]? = some (c, request) →
      c ∉ system.closed ∧ ∀ b, currentOf system.registry b = some c → b = request.agentId
  | .submitOffline session => ∀ agentId disconnectedAt,
      system.closing[session]? = some (agentId, disconnectedAt) →
      ¬ Registering system agentId ∧ currentOf system.registry agentId = none
  | _ => True

/-! Writes -/

theorem applyWrite_upsertAgent (store : Store) (c : String) (request : AgentRegistration) :
    applyWrite store (.upsertAgent c request) =
      { store with
        agents := upsertInto store.agents (registeredRow request) mergeRegistration
          (mergeRegistration_agentId _) } :=
  succeeds_state (upsertAgent_succeeds request store)

theorem applyWrite_markAgentOffline (store : Store) (agentId disconnectedAt : String) :
    applyWrite store (.markAgentOffline agentId disconnectedAt) =
      { store with
        agents := store.agents.update (onlineIs agentId) (goOffline disconnectedAt)
          (goOffline_agentId _) } :=
  succeeds_state (markAgentOffline_succeeds agentId disconnectedAt store)

theorem online_upsertAgent (agentId : String) (store : Store) (c : String)
    (request : AgentRegistration) :
    Online agentId (applyWrite store (.upsertAgent c request)) ↔
      request.agentId = agentId ∨ Online agentId store := by
  unfold Online
  rw [applyWrite_upsertAgent]
  simp only [find_upsertInto]
  by_cases same : request.agentId = agentId
  · have at_agent : (registeredRow request).agentId = agentId := same
    rw [if_pos at_agent]
    constructor
    · intro _
      exact .inl same
    · intro _
      cases store.agents.find agentId with
      | none => exact ⟨_, rfl, rfl⟩
      | some row => exact ⟨_, rfl, rfl⟩
  · have elsewhere : (registeredRow request).agentId ≠ agentId := same
    rw [if_neg elsewhere]
    constructor
    · exact .inr
    · rintro (here | online)
      · exact absurd here same
      · exact online

theorem online_markAgentOffline (agentId : String) (store : Store) (b disconnectedAt : String) :
    Online agentId (applyWrite store (.markAgentOffline b disconnectedAt)) ↔
      agentId ≠ b ∧ Online agentId store := by
  unfold Online
  rw [applyWrite_markAgentOffline]
  simp only [Table.find_update]
  cases found : store.agents.find agentId with
  | none => simp
  | some row =>
    have at_row := Table.find_key found
    by_cases same : agentId = b
    · subst same
      by_cases online : row.status = .online
      · have chosen : onlineIs agentId row = true := by simp [onlineIs, at_row, online]
        simp [chosen, goOffline]
      · by_cases chosen : onlineIs agentId row = true
        · simp [chosen, goOffline]
        · simp [chosen, online]
    · have unchosen : onlineIs b row = false := by simp [onlineIs, at_row, same]
      simp [unchosen, same]

/-- The store once all waiting writes are applied. -/
def settledStore (system : System) : Store := Runs.run applyWrite system.store system.writes

/-! What the steps keep -/

/-- The parts agree up to the changes that are under way. -/
structure Coupled (system : System) : Prop where
  matched : MatchedMaps system.registry
  ids : OwnIds system.registry
  connected : Every (fun _ connection => connection.disconnectedAt = none)
    (recordsOf system.registry)
  live : ∀ a c, currentOf system.registry a = some c → c ∈ system.opened ∧ c ∉ system.closed
  named : ∀ c ∈ system.opened, c ≠ ""
  queued : ∀ c request, .upsertAgent c request ∈ system.writes →
    c ∈ system.opened ∧ ValidEnvelope (.registration request)
  held : ∀ entry ∈ system.stored,
    entry.1 ∈ system.opened ∧ ValidEnvelope (.registration entry.2)
  present : ∀ a, currentOf system.registry a ≠ none ∨ Registering system a →
    Online a (settledStore system)
  accounted : ∀ a, Online a (settledStore system) →
    currentOf system.registry a ≠ none ∨ Registering system a ∨
      ∃ entry ∈ system.closing, entry.1 = a

variable {system : System}

theorem coupled_openConnection (coupled : Coupled system) (c connectedAt : String) :
    Coupled (step system (.openConnection c connectedAt)) := by
  simp only [step]
  split
  · exact coupled
  · rename_i fresh
    split
    · exact coupled
    · rename_i registry opened
      have same : ConnectionRegistry.step system.registry (.openConnection c connectedAt) =
          registry := step_ok opened
      obtain ⟨⟨_, some_id, _⟩, _, current⟩ := openConnection_cases opened
      have orderly : Orderly system.registry (.openConnection c connectedAt) := by
        constructor
        · rintro d ⟨rfl, _, _⟩ a at_a
          exact fresh (coupled.live a c at_a).1
        · intro d a binds
          exact binds.elim
      constructor
      · rw [← same]
        exact matched_step coupled.matched coupled.ids orderly
      · rw [← same]
        exact ownIds_step coupled.ids _
      · rw [← same]
        exact every_step coupled.ids coupled.connected (fun _ _ _ connected => connected) _
      · intro a d at_a
        simp only [current] at at_a
        obtain ⟨known, still⟩ := coupled.live a d at_a
        exact ⟨List.mem_cons_of_mem c known, still⟩
      · intro d member
        rcases List.mem_cons.mp member with rfl | known
        · exact some_id
        · exact coupled.named d known
      · intro d request member
        obtain ⟨known, valid⟩ := coupled.queued d request member
        exact ⟨List.mem_cons_of_mem c known, valid⟩
      · intro entry member
        obtain ⟨known, valid⟩ := coupled.held entry member
        exact ⟨List.mem_cons_of_mem c known, valid⟩
      · intro a
        simp only [current]
        exact coupled.present a
      · intro a
        simp only [current]
        exact coupled.accounted a

theorem settledStore_submit (writes : List StoreWrite) (write : StoreWrite) (store : Store) :
    Runs.run applyWrite store (writes ++ [write]) =
      applyWrite (Runs.run applyWrite store writes) write :=
  Runs.run_snoc applyWrite store writes write

theorem coupled_submitUpsert (coupled : Coupled system) (c : String)
    (request : AgentRegistration) : Coupled (step system (.submitUpsert c request)) := by
  simp only [step]
  split
  · rename_i possible
    obtain ⟨known, accepted⟩ := possible
    have valid := (validateEnvelope_iff _).mp accepted
    constructor
    · exact coupled.matched
    · exact coupled.ids
    · exact coupled.connected
    · exact coupled.live
    · exact coupled.named
    · intro d request' member
      rcases List.mem_append.mp member with waiting | added
      · exact coupled.queued d request' waiting
      · cases List.mem_singleton.mp added
        exact ⟨known, valid⟩
    · exact coupled.held
    · intro a either
      unfold settledStore
      rw [settledStore_submit, online_upsertAgent]
      rcases either with current | ⟨d, request', member, of_a⟩ | held
      · exact .inr (coupled.present a (.inl current))
      · rcases List.mem_append.mp member with waiting | added
        · exact .inr (coupled.present a (.inr (.inl ⟨d, request', waiting, of_a⟩)))
        · cases List.mem_singleton.mp added
          exact .inl of_a
      · exact .inr (coupled.present a (.inr (.inr held)))
    · intro a online
      unfold settledStore at online
      rw [settledStore_submit, online_upsertAgent] at online
      rcases online with of_a | online
      · exact .inr (.inl (.inl ⟨c, request, by simp, of_a⟩))
      · rcases coupled.accounted a online with current | registering | closing
        · exact .inl current
        · right
          left
          rcases registering with ⟨d, request', waiting, of_a⟩ | held
          · exact .inl ⟨d, request', List.mem_append_left _ waiting, of_a⟩
          · exact .inr held
        · exact .inr (.inr closing)
  · exact coupled

theorem registering_applied {write : StoreWrite} {rest : List StoreWrite} {store : Store}
    (waiting : system.writes = write :: rest) (a : String) :
    Registering { system with
      store := store
      writes := rest
      stored := system.stored ++ registrations write } a ↔ Registering system a := by
  unfold Registering
  rw [waiting]
  cases write with
  | markAgentOffline b disconnectedAt => simp [registrations]
  | upsertAgent d request =>
    simp only [registrations, List.mem_append, List.mem_cons, List.not_mem_nil, or_false,
      StoreWrite.upsertAgent.injEq]
    constructor
    · rintro (⟨c, request', member, of_a⟩ | ⟨entry, held | rfl, of_a⟩)
      · exact .inl ⟨c, request', .inr member, of_a⟩
      · exact .inr ⟨entry, held, of_a⟩
      · exact .inl ⟨d, request, .inl ⟨rfl, rfl⟩, of_a⟩
    · rintro (⟨c, request', ⟨rfl, rfl⟩ | member, of_a⟩ | ⟨entry, held, of_a⟩)
      · exact .inr ⟨(c, request'), .inr rfl, of_a⟩
      · exact .inl ⟨c, request', member, of_a⟩
      · exact .inr ⟨entry, .inl held, of_a⟩

theorem coupled_applyWrite (coupled : Coupled system) : Coupled (step system .applyWrite) := by
  simp only [step]
  split
  · exact coupled
  · rename_i write rest waiting
    have same_store : settledStore { system with
        store := applyWrite system.store write
        writes := rest
        stored := system.stored ++ registrations write } = settledStore system := by
      unfold settledStore
      rw [waiting, Runs.run_cons]
    constructor
    · exact coupled.matched
    · exact coupled.ids
    · exact coupled.connected
    · exact coupled.live
    · exact coupled.named
    · intro c request member
      exact coupled.queued c request (by rw [waiting]; exact List.mem_cons_of_mem write member)
    · intro entry member
      rcases List.mem_append.mp member with held | applied
      · exact coupled.held entry held
      · cases write with
        | markAgentOffline b disconnectedAt => cases applied
        | upsertAgent c request =>
          cases List.mem_singleton.mp applied
          exact coupled.queued c request (by rw [waiting]; exact List.mem_cons_self)
    · intro a either
      rw [same_store]
      rw [registering_applied waiting] at either
      exact coupled.present a either
    · intro a online
      rw [same_store] at online
      rw [registering_applied waiting]
      exact coupled.accounted a online

/-- An accepted registration does bind its agent. -/
theorem recordAcceptedEvent_binds {registry : Registry} (ids : OwnIds registry) {c : String}
    (named : c ≠ "") {request : AgentRegistration} (valid : ValidEnvelope (.registration request)) :
    recordAcceptedEvent c registry (.registration request) =
        ConnectionRegistry.step registry (.bindAgent c request.agentId request.occurredAt) ∧
      Binds c request.agentId (.bindAgent c request.agentId request.occurredAt) ∧
      BindEffect c request.agentId registry
        (recordAcceptedEvent c registry (.registration request)) := by
  obtain ⟨_, _, some_agent, some_time⟩ := valid
  have binds : Binds c request.agentId (.bindAgent c request.agentId request.occurredAt) :=
    ⟨rfl, rfl, some_agent, some_time⟩
  have same : recordAcceptedEvent c registry (.registration request) =
      ConnectionRegistry.step registry (.bindAgent c request.agentId request.occurredAt) := by
    unfold recordAcceptedEvent
    rw [if_neg named]
    rfl
  refine ⟨same, binds, ?_⟩
  rw [same]
  exact binds_effect ids binds

theorem coupled_bindAgent (coupled : Coupled system) {worker : Nat}
    (undisturbed : Undisturbed system (.bindAgent worker)) :
    Coupled (step system (.bindAgent worker)) := by
  simp only [step]
  split
  · exact coupled
  · rename_i c request found
    obtain ⟨still_open, unnamed⟩ := undisturbed c request found
    obtain ⟨known, valid⟩ := coupled.held _ (Worklists.mem_of_found found)
    obtain ⟨same, binds, effect⟩ :=
      recordAcceptedEvent_binds coupled.ids (coupled.named c known) valid
    have current := effect.current
    have orderly : Orderly system.registry
        (.bindAgent c request.agentId request.occurredAt) := by
      constructor
      · intro d opens
        exact opens.elim
      · rintro d a ⟨rfl, rfl, _, _⟩
        exact unnamed
    constructor
    · rw [same]
      exact matched_step coupled.matched coupled.ids orderly
    · rw [same]
      exact ownIds_step coupled.ids _
    · rw [same]
      exact every_step coupled.ids coupled.connected (fun _ _ _ connected => connected) _
    · intro a d at_a
      rw [current] at at_a
      by_cases same_agent : a = request.agentId
      · subst same_agent
        rw [Function.update_self] at at_a
        cases at_a
        exact ⟨known, still_open⟩
      · rw [Function.update_of_ne same_agent] at at_a
        exact coupled.live a d at_a
    · exact coupled.named
    · exact coupled.queued
    · intro entry member
      exact coupled.held entry (List.mem_of_mem_eraseIdx member)
    · intro a either
      have before : currentOf system.registry a ≠ none ∨ Registering system a := by
        rcases either with at_a | waiting | ⟨entry, member, of_a⟩
        · rw [current] at at_a
          by_cases same_agent : a = request.agentId
          · exact .inr (.inr ⟨_, Worklists.mem_of_found found, same_agent.symm⟩)
          · rw [Function.update_of_ne same_agent] at at_a
            exact .inl at_a
        · exact .inr (.inl waiting)
        · exact .inr (.inr ⟨entry, List.mem_of_mem_eraseIdx member, of_a⟩)
      exact coupled.present a before
    · intro a online
      rw [current]
      by_cases same_agent : a = request.agentId
      · left
        rw [same_agent, Function.update_self]
        exact Option.some_ne_none c
      · rw [Function.update_of_ne same_agent]
        rcases coupled.accounted a online with at_a | (waiting | ⟨entry, held, of_a⟩) | closing
        · exact .inl at_a
        · exact .inr (.inl (.inl waiting))
        · rcases (Worklists.mem_taken_iff found entry).mp held with rfl | other
          · exact absurd of_a.symm same_agent
          · exact .inr (.inl (.inr ⟨entry, other, of_a⟩))
        · exact .inr (.inr closing)

/-- What a close does to the index, and whether the session marks an agent. -/
theorem closeConnection_marks {registry : Registry} (matched : MatchedMaps registry)
    (ids : OwnIds registry) (c disconnectedAt : String) :
    (∃ a, currentOf registry a = some c ∧
      currentOf (registry.closeConnection c disconnectedAt).2 =
        Function.update (currentOf registry) a none ∧
      offlineMarks (registry.closeConnection c disconnectedAt).1 = [(a, disconnectedAt)]) ∨
    ((∀ a, currentOf registry a ≠ some c) ∧
      currentOf (registry.closeConnection c disconnectedAt).2 = currentOf registry ∧
      offlineMarks (registry.closeConnection c disconnectedAt).1 = []) := by
  cases found : registry.connectionsById.lookup c with
  | none =>
    right
    rw [closeConnection_unknown found]
    refine ⟨?_, rfl, rfl⟩
    intro a current
    obtain ⟨connection, at_c, _⟩ := indexed_owned matched current
    have absent : none = some connection := found.symm.trans at_c
    cases absent
  | some connection =>
    obtain rfl : connection.connectionId = c := ids c connection found
    rw [closeConnection_found found]
    obtain ⟨a, owned, current, left⟩ | ⟨other, same⟩ := contents_indexWithout registry connection
    · left
      have is_current := (isCurrent_iff registry connection).mpr ⟨a, owned, current⟩
      refine ⟨a, current, left, ?_⟩
      simp [offlineMarks, owned, is_current]
    · right
      refine ⟨?_, same, ?_⟩
      · intro a current
        obtain ⟨owner, at_c, owned⟩ := indexed_owned matched current
        have same_record : some connection = some owner := found.symm.trans at_c
        cases same_record
        exact other a owned current
      · cases owner : connection.agentId with
        | none => simp [offlineMarks]
        | some a =>
          have not_current : registry.isCurrent connection = false := by
            rw [← Bool.not_eq_true]
            intro is_current
            obtain ⟨b, owned, current⟩ := (isCurrent_iff registry connection).mp is_current
            exact other b owned current
          simp [offlineMarks, not_current]

theorem coupled_closeConnection (coupled : Coupled system) (c disconnectedAt : String) :
    Coupled (step system (.closeConnection c disconnectedAt)) := by
  simp only [step]
  split
  · have same : ConnectionRegistry.step system.registry (.closeConnection c disconnectedAt) =
        (system.registry.closeConnection c disconnectedAt).2 := step_ok rfl
    have orderly : Orderly system.registry (.closeConnection c disconnectedAt) := by
      constructor
      · intro d opens
        exact opens.elim
      · intro d a binds
        exact binds.elim
    have marks := closeConnection_marks coupled.matched coupled.ids c disconnectedAt
    constructor
    · rw [← same]
      exact matched_step coupled.matched coupled.ids orderly
    · rw [← same]
      exact ownIds_step coupled.ids _
    · rw [← same]
      exact every_step coupled.ids coupled.connected (fun _ _ _ connected => connected) _
    · intro a d at_a
      have before : currentOf system.registry a = some d ∧ d ≠ c := by
        obtain ⟨b, current, left, _⟩ | ⟨none_current, left, _⟩ := marks
        · rw [left] at at_a
          by_cases same_agent : a = b
          · subst same_agent
            rw [Function.update_self] at at_a
            cases at_a
          · rw [Function.update_of_ne same_agent] at at_a
            refine ⟨at_a, ?_⟩
            rintro rfl
            exact same_agent (indexed_once coupled.matched at_a current)
        · rw [left] at at_a
          refine ⟨at_a, ?_⟩
          rintro rfl
          exact none_current a at_a
      obtain ⟨known, still⟩ := coupled.live a d before.1
      refine ⟨known, ?_⟩
      intro closed
      rcases List.mem_cons.mp closed with here | earlier
      · exact before.2 here
      · exact still earlier
    · exact coupled.named
    · exact coupled.queued
    · exact coupled.held
    · intro a either
      apply coupled.present a
      rcases either with at_a | registering
      · left
        obtain ⟨b, _, left, _⟩ | ⟨_, left, _⟩ := marks
        · rw [left] at at_a
          intro absent
          apply at_a
          by_cases same_agent : a = b
          · rw [same_agent, Function.update_self]
          · rw [Function.update_of_ne same_agent]
            exact absent
        · rw [left] at at_a
          exact at_a
      · exact .inr registering
    · intro a online
      obtain ⟨b, _, left, marked⟩ | ⟨_, left, unmarked⟩ := marks
      · rw [left, marked]
        by_cases same_agent : a = b
        · exact .inr (.inr ⟨(b, disconnectedAt), by simp, same_agent.symm⟩)
        · rw [Function.update_of_ne same_agent]
          rcases coupled.accounted a online with at_a | registering | ⟨entry, member, of_a⟩
          · exact .inl at_a
          · exact .inr (.inl registering)
          · exact .inr (.inr ⟨entry, List.mem_append_left _ member, of_a⟩)
      · rw [left, unmarked, List.append_nil]
        exact coupled.accounted a online
  · exact coupled

theorem coupled_submitOffline (coupled : Coupled system) {session : Nat}
    (undisturbed : Undisturbed system (.submitOffline session)) :
    Coupled (step system (.submitOffline session)) := by
  simp only [step]
  split
  · exact coupled
  · rename_i b disconnectedAt found
    obtain ⟨idle, no_connection⟩ := undisturbed b disconnectedAt found
    have same_registering : ∀ a, Registering { system with
        writes := system.writes ++ [.markAgentOffline b disconnectedAt]
        closing := system.closing.eraseIdx session } a ↔ Registering system a := by
      intro a
      simp [Registering]
    constructor
    · exact coupled.matched
    · exact coupled.ids
    · exact coupled.connected
    · exact coupled.live
    · exact coupled.named
    · intro c request member
      rcases List.mem_append.mp member with waiting | added
      · exact coupled.queued c request waiting
      · cases List.mem_singleton.mp added
    · exact coupled.held
    · intro a either
      rw [same_registering] at either
      unfold settledStore
      rw [settledStore_submit, online_markAgentOffline]
      refine ⟨?_, coupled.present a either⟩
      rintro rfl
      rcases either with current | registering
      · exact current no_connection
      · exact idle registering
    · intro a online
      unfold settledStore at online
      rw [settledStore_submit, online_markAgentOffline] at online
      obtain ⟨other, online⟩ := online
      rw [same_registering]
      rcases coupled.accounted a online with current | registering | ⟨entry, member, of_a⟩
      · exact .inl current
      · exact .inr (.inl registering)
      · rcases (Worklists.mem_taken_iff found entry).mp member with rfl | kept
        · exact absurd of_a.symm other
        · exact .inr (.inr ⟨entry, kept, of_a⟩)

theorem coupled_step (coupled : Coupled system) {action : Action}
    (undisturbed : Undisturbed system action) : Coupled (step system action) := by
  cases action with
  | openConnection c connectedAt => exact coupled_openConnection coupled c connectedAt
  | submitUpsert c request => exact coupled_submitUpsert coupled c request
  | applyWrite => exact coupled_applyWrite coupled
  | bindAgent worker => exact coupled_bindAgent coupled undisturbed
  | closeConnection c disconnectedAt => exact coupled_closeConnection coupled c disconnectedAt
  | submitOffline session => exact coupled_submitOffline coupled undisturbed

theorem coupled_start {store : Store} (all_offline : ∀ a, ¬ Online a store) :
    Coupled (start store) where
  matched := matched_empty _
  ids := by
    intro c connection found
    cases found
  connected := by
    intro c connection found
    cases found
  live := by
    intro a c current
    cases current
  named := by simp [start]
  queued := by simp [start]
  held := by simp [start]
  present := by
    rintro a (current | ⟨c, request, member, _⟩ | ⟨entry, member, _⟩)
    · exact absurd rfl current
    · cases member
    · cases member
  accounted := by
    intro a online
    exact absurd online (all_offline a)

/-- Once nothing is under way, the parts agree. -/
theorem agrees_of_coupled (coupled : Coupled system) (quiescent : Quiescent system) :
    Agrees system := by
  have nothing_registers : ∀ a, ¬ Registering system a := by
    rintro a (⟨c, request, member, _⟩ | ⟨entry, member, _⟩)
    · rw [quiescent.writes] at member
      cases member
    · rw [quiescent.stored] at member
      cases member
  have same_store : settledStore system = system.store := by
    unfold settledStore
    rw [quiescent.writes, Runs.run_nil]
  intro a
  constructor
  · intro online
    rw [← same_store] at online
    rcases coupled.accounted a online with current | registering | ⟨entry, member, _⟩
    · obtain ⟨c, at_a⟩ := Option.ne_none_iff_exists'.mp current
      obtain ⟨connection, found, _⟩ := indexed_owned coupled.matched at_a
      have own_id : connection.connectionId = c := coupled.ids c connection found
      have connected : connection.disconnectedAt = none := coupled.connected c connection found
      refine ⟨connection, ?_, ?_⟩
      · have index_at : system.registry.connectionByAgentId.lookup a = some c := at_a
        have record_at : system.registry.connectionsById.lookup c = some connection := found
        simp [Registry.findByAgent, index_at, record_at, connected]
      · rw [own_id]
        exact (coupled.live a c at_a).2
    · exact absurd registering (nothing_registers a)
    · rw [quiescent.closing] at member
      cases member
  · rintro ⟨connection, found, _⟩
    obtain ⟨c, at_a, _⟩ := findByAgent_some found
    rw [← same_store]
    apply coupled.present a
    left
    rw [at_a]
    exact Option.some_ne_none c

/-- In a run that no step disturbs, the status and the connection of every agent agree
    whenever nothing is under way. -/
theorem presence_agrees_undisturbed {store : Store} (all_offline : ∀ a, ¬ Online a store)
    (actions : List Action)
    (undisturbed : Runs.AllSteps step (start store) actions Undisturbed)
    (quiescent : Quiescent (Runs.run step (start store) actions)) :
    Agrees (Runs.run step (start store) actions) := by
  apply agrees_of_coupled _ quiescent
  apply Runs.run_invariant Coupled Undisturbed _ undisturbed (coupled_start all_offline)
  intro system action coupled here
  exact coupled_step coupled here

def registrationOf (agentId : String) : AgentRegistration where
  protocolVersion := protocolVersion
  requestId := "request-1"
  agentId := agentId
  occurredAt := "2026-03-01T12:00:00Z"
  agentVersion := "1.0"
  hostname := "host"
  os := "linux"
  arch := "x86_64"
  registrationToken := none

/-- One connection from its registration to its end. -/
def oneConnection : List Action :=
  [.openConnection "conn-1" "2026-03-01T12:00:00Z",
    .submitUpsert "conn-1" (registrationOf "agent-1"), .applyWrite, .bindAgent 0,
    .closeConnection "conn-1" "2026-03-01T12:01:00Z", .submitOffline 0, .applyWrite]

theorem nobody_online (agentId : String) : ¬ Online agentId Store.empty := by
  rintro ⟨row, found, _⟩
  cases found

theorem presence_agrees_undisturbed_once :
    Agrees (Runs.run step (start Store.empty) oneConnection) := by
  apply presence_agrees_undisturbed nobody_online
  · unfold oneConnection
    simp only [Runs.allSteps_cons]
    refine ⟨trivial, trivial, trivial, ?_, trivial, ?_, trivial, Runs.allSteps_nil _ _ _⟩
    · intro c request found
      cases found
      exact ⟨by decide, fun b current => by cases current⟩
    · intro a disconnectedAt found
      cases found
      refine ⟨?_, rfl⟩
      rintro (⟨c, request, member, _⟩ | ⟨entry, member, _⟩)
      · cases member
      · cases member
  · exact ⟨rfl, rfl, rfl⟩

/-- The agent comes back on a second connection while the first one is closed. -/
def reconnect : List Action :=
  [.openConnection "conn-1" "2026-03-01T12:00:00Z",
    .submitUpsert "conn-1" (registrationOf "agent-1"), .applyWrite, .bindAgent 0,
    .openConnection "conn-2" "2026-03-01T12:01:00Z",
    .submitUpsert "conn-2" (registrationOf "agent-1"), .applyWrite,
    .closeConnection "conn-1" "2026-03-01T12:01:01Z", .submitOffline 0, .applyWrite,
    .bindAgent 0]

/-- The connection ends while its registration is handled. -/
def earlyEnd : List Action :=
  [.openConnection "conn-1" "2026-03-01T12:00:00Z",
    .submitUpsert "conn-1" (registrationOf "agent-1"), .applyWrite,
    .closeConnection "conn-1" "2026-03-01T12:00:01Z", .bindAgent 0]

/-- An agent that is connected counts as offline, and one that is gone as online. -/
theorem presence_disagrees :
    (Quiescent (Runs.run step (start Store.empty) reconnect) ∧
      ¬ Agrees (Runs.run step (start Store.empty) reconnect)) ∧
    Quiescent (Runs.run step (start Store.empty) earlyEnd) ∧
      ¬ Agrees (Runs.run step (start Store.empty) earlyEnd) := by
  refine ⟨⟨⟨rfl, rfl, rfl⟩, ?_⟩, ⟨rfl, rfl, rfl⟩, ?_⟩
  · intro agrees
    obtain ⟨row, found, online⟩ := (agrees "agent-1").mpr ⟨_, rfl, by decide⟩
    cases found
    cases online
  · intro agrees
    obtain ⟨connection, found, still_open⟩ := (agrees "agent-1").mp ⟨_, rfl, rfl⟩
    cases found
    exact still_open (by decide)

end Presence
