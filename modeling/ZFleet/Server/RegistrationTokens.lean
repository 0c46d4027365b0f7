import ZFleet.Foundations.Runs
import ZFleet.Server.InstallApi

/-!
What registration tokens admit. Over every run of creations, uses and revocations the
use count of a token is the number of uses that were granted for it, never more than its
limit, and a token that is used up or revoked stays as it is.
-/
namespace RegistrationTokens
open Message KeyedTables Transactions Schema AgentStore InstallApi

inductive TokenOp where
  | createToken (input : TokenCreateRequestBody) (origin : TokenOrigin)
  | consumeRegistrationToken (tokenHash platform arch usedAt : String)
  | revokeRegistrationToken (tokenId revokedAt : String)

def execute : TokenOp → Job Store Bool
  | .createToken input origin => do
    let answer ← createToken input origin
    pure answer.toBool
  | .consumeRegistrationToken tokenHash platform arch usedAt =>
    consumeRegistrationToken tokenHash platform arch usedAt
  | .revokeRegistrationToken tokenId revokedAt => revokeRegistrationToken tokenId revokedAt

structure Call where
  op : TokenOp
  faults : List (Option Fault)

/-- The store, and the hashes of the uses that were granted. -/
structure Admissions where
  store : Store
  granted : List String

def reply (s : Admissions) (call : Call) : Except Failure Bool :=
  (execute call.op ⟨s.store, call.faults⟩).1

def grantedBy (op : TokenOp) (answer : Except Failure Bool) : List String :=
  match op, answer with
  | .consumeRegistrationToken tokenHash _ _ _, .ok true => [tokenHash]
  | _, _ => []

def step (s : Admissions) (call : Call) : Admissions where
  store := (execute call.op ⟨s.store, call.faults⟩).2.state
  granted := s.granted ++ grantedBy call.op (reply s call)

/-- The hash of the token a call creates. -/
def createdHash (call : Call) : Option String :=
  match call.op with
  | .createToken _ origin => some origin.tokenHash
  | _ => none

abbrev Tokens := Table RegistrationTokenRow RegistrationTokenRow.tokenId

/-! What one operation does to the tokens -/

/-- The other tables may differ. -/
def SameTokens (before after : Store) : Prop :=
  after.registrationTokens = before.registrationTokens

theorem sameTokens_refl (store : Store) : SameTokens store store := rfl

theorem recordAuditEvent_sameTokens (event : AuditEventRow) :
    Evolves SameTokens (recordAuditEvent event) :=
  submitWrite_evolves (fun _ _ _ first rest => rest.trans first) <|
    insertRow_evolves sameTokens_refl fun _ _ => rfl

/-- A creation adds one checked token at most, whether its audit event is written or not. -/
def Created (input : TokenCreateRequestBody) (origin : TokenOrigin) (before after : Store) :
    Prop :=
  after.registrationTokens = before.registrationTokens ∨
    ∃ token, tokenRecord input origin = .ok token ∧
      before.registrationTokens.insert token = some after.registrationTokens

theorem created_refl (input : TokenCreateRequestBody) (origin : TokenOrigin) (store : Store) :
    Created input origin store store := Or.inl rfl

theorem createRegistrationToken_atomic (token : RegistrationTokenRow) :
    Atomic (createRegistrationToken token) := submitWrite_atomic insertRow_atomic

theorem createRegistrationToken_ok {token : RegistrationTokenRow} {s s' : Session Store} {u : Unit}
    (done : createRegistrationToken token s = (.ok u, s')) :
    ∃ tokens, s.state.registrationTokens.insert token = some tokens ∧
      s'.state = { s.state with registrationTokens := tokens } := by
  obtain ⟨start, same, ran⟩ := submitWrite_ok insertRow_atomic done
  rw [← same]
  exact insertRow_ok ran

theorem createRegistrationToken_evolves {input : TokenCreateRequestBody} {origin : TokenOrigin}
    {token : RegistrationTokenRow} (passed : tokenRecord input origin = .ok token) :
    Evolves (Created input origin) (createRegistrationToken token) :=
  evolves_of_atomic (createRegistrationToken_atomic token) (created_refl input origin)
    fun s _ s' done => by
      obtain ⟨tokens, inserted, after⟩ := createRegistrationToken_ok done
      exact Or.inr ⟨token, passed, by rw [after]; exact inserted⟩

theorem createToken_evolves (input : TokenCreateRequestBody) (origin : TokenOrigin) :
    Evolves (Created input origin) (createToken input origin) := by
  unfold createToken
  cases passed : tokenRecord input origin with
  | error refusal => exact evolves_pure (created_refl input origin) _
  | ok token =>
    refine evolves_bind (createRegistrationToken_evolves passed)
      (fun _ => evolves_trans (recordAuditEvent_sameTokens _)
        (fun _ => evolves_pure sameTokens_refl _) fun _ _ _ first rest => rest.trans first)
      (fun _ _ created => created) ?_
    intro x y z created same
    unfold Created
    rw [show z.registrationTokens = y.registrationTokens from same]
    exact created

/-! Uses and revocations -/

theorem updateTokens_ok {selects : RegistrationTokenRow → Bool}
    {change : RegistrationTokenRow → RegistrationTokenRow}
    {keeps : ∀ r, (change r).tokenId = r.tokenId} {s s' : Session Store} {changed : Nat}
    (done : updateTokens selects change keeps s = (.ok changed, s')) :
    changed = s.state.registrationTokens.changes selects ∧
      s'.state = { s.state with
        registrationTokens := s.state.registrationTokens.update selects change keeps } := by
  have ran := statement_ok done
  simp only [Except.ok.injEq, Prod.mk.injEq] at ran
  exact ⟨ran.1.symm, ran.2.symm⟩

/-- A write that updates tokens and answers whether it changed one row. -/
def updatesOne (selects : RegistrationTokenRow → Bool)
    (change : RegistrationTokenRow → RegistrationTokenRow)
    (keeps : ∀ r, (change r).tokenId = r.tokenId) : Job Store Bool := do
  let changed ← updateTokens selects change keeps
  pure (changed = 1)

theorem updatesOne_atomic (selects : RegistrationTokenRow → Bool)
    (change : RegistrationTokenRow → RegistrationTokenRow)
    (keeps : ∀ r, (change r).tokenId = r.tokenId) : Atomic (updatesOne selects change keeps) :=
  bind_total_atomic (statement_atomic _) fun changed s e s' failed => by cases failed

theorem submitted_ok {selects : RegistrationTokenRow → Bool}
    {change : RegistrationTokenRow → RegistrationTokenRow}
    {keeps : ∀ r, (change r).tokenId = r.tokenId} {s s' : Session Store} {answer : Bool}
    (done : submitWrite (updatesOne selects change keeps) s = (.ok answer, s')) :
    answer = decide (s.state.registrationTokens.changes selects = 1) ∧
      s'.state = { s.state with
        registrationTokens := s.state.registrationTokens.update selects change keeps } := by
  obtain ⟨start, same, ran⟩ := submitWrite_ok (updatesOne_atomic _ _ _) done
  rw [← same]
  obtain ⟨changed, middle, wrote, rest⟩ := bind_ok ran
  obtain ⟨count, after⟩ := updateTokens_ok wrote
  obtain ⟨answered, rfl⟩ := pure_ok rest
  rw [← answered, count]
  exact ⟨rfl, after⟩

theorem consumeRegistrationToken_ok {tokenHash platform arch usedAt : String}
    {s s' : Session Store} {answer : Bool}
    (done : consumeRegistrationToken tokenHash platform arch usedAt s = (.ok answer, s')) :
    answer = decide (s.state.registrationTokens.changes
        (tokenAccepts tokenHash platform arch usedAt) = 1) ∧
      s'.state = { s.state with
        registrationTokens := s.state.registrationTokens.update
          (tokenAccepts tokenHash platform arch usedAt) useToken useToken_tokenId } :=
  submitted_ok done

theorem consumeRegistrationToken_atomic (tokenHash platform arch usedAt : String) :
    Atomic (consumeRegistrationToken tokenHash platform arch usedAt) :=
  submitWrite_atomic (updatesOne_atomic _ _ _)

theorem revokeRegistrationToken_atomic (tokenId revokedAt : String) :
    Atomic (revokeRegistrationToken tokenId revokedAt) :=
  submitWrite_atomic (updatesOne_atomic _ _ _)

def revocable (tokenId : String) (row : RegistrationTokenRow) : Bool :=
  row.tokenId = tokenId && row.status = .active

theorem revokeRegistrationToken_ok {tokenId revokedAt : String} {s s' : Session Store}
    {answer : Bool} (done : revokeRegistrationToken tokenId revokedAt s = (.ok answer, s')) :
    s'.state = { s.state with
      registrationTokens := s.state.registrationTokens.update (revocable tokenId)
        (revoke revokedAt) (revoke_tokenId _) } :=
  (submitted_ok done).2

/-- The token that a use with these arguments would be charged to. -/
structure Grants (tokenHash platform arch usedAt : String) (row : RegistrationTokenRow) :
    Prop where
  hash : row.tokenHash = tokenHash
  purpose : row.purpose = "agent_register"
  active : row.status = .active
  unexpired : ¬ row.expiresAt < usedAt
  platform : ∀ required, row.platform = some required → required = platform
  arch : ∀ required, row.arch = some required → required = arch
  unused : ∀ limit, row.maxUses = some limit → row.useCount < limit

theorem tokenAccepts_iff (tokenHash platform arch usedAt : String) (row : RegistrationTokenRow) :
    tokenAccepts tokenHash platform arch usedAt row = true ↔
      Grants tokenHash platform arch usedAt row := by
  simp only [tokenAccepts, Bool.and_eq_true, decide_eq_true_eq, Option.all_eq_true]
  constructor
  · rintro ⟨⟨⟨⟨⟨⟨hash, purpose⟩, active⟩, unexpired⟩, platform⟩, arch⟩, unused⟩
    exact ⟨hash, purpose, active, not_lt.mpr unexpired, platform, arch, unused⟩
  · intro grants
    exact ⟨⟨⟨⟨⟨⟨grants.hash, grants.purpose⟩, grants.active⟩, not_lt.mp grants.unexpired⟩,
      grants.platform⟩, grants.arch⟩, grants.unused⟩

/-! The accounts -/

/-- The account of one token is settled against the uses that were granted. -/
structure RowAccount (granted : List String) (row : RegistrationTokenRow) : Prop where
  limited : ∃ limit, row.maxUses = some limit ∧ row.useCount ≤ limit ∧
    (row.status = .consumed ↔ row.useCount = limit)
  counted : row.useCount = granted.count row.tokenHash

structure Accounted (s : Admissions) : Prop where
  distinct : (s.store.registrationTokens.rows.map RegistrationTokenRow.tokenHash).Nodup
  rows : ∀ row ∈ s.store.registrationTokens.rows, RowAccount s.granted row
  known : ∀ tokenHash ∈ s.granted,
    ∃ row ∈ s.store.registrationTokens.rows, row.tokenHash = tokenHash

/-- The hashes of a table do not notice an update that leaves them alone. -/
theorem update_hashes {tokens : Tokens} {selects : RegistrationTokenRow → Bool}
    {change : RegistrationTokenRow → RegistrationTokenRow}
    (keeps : ∀ r, (change r).tokenId = r.tokenId)
    (hash : ∀ r, (change r).tokenHash = r.tokenHash) :
    (tokens.update selects change keeps).rows.map RegistrationTokenRow.tokenHash =
      tokens.rows.map RegistrationTokenRow.tokenHash := by
  simp only [Table.update, List.map_map]
  apply List.map_congr_left
  intro row _
  simp only [Function.comp]
  split
  · exact hash row
  · rfl

theorem accounted_created {s : Admissions} {input : TokenCreateRequestBody}
    {origin : TokenOrigin} {store : Store} (created : Created input origin s.store store)
    (unseen : ∀ row ∈ s.store.registrationTokens.rows, row.tokenHash ≠ origin.tokenHash)
    (accounted : Accounted s) : Accounted ⟨store, s.granted⟩ := by
  rcases created with same | ⟨token, passed, inserted⟩
  · refine ⟨?_, ?_, ?_⟩
    · rw [same]
      exact accounted.distinct
    · rw [same]
      exact accounted.rows
    · rw [same]
      exact accounted.known
  · obtain ⟨hash, _, active, unused, _, limit, limited, positive⟩ := tokenRecord_ok passed
    have rows := (Table.insert_some inserted).2
    refine ⟨?_, ?_, ?_⟩
    · rw [rows, List.map_append, List.map_singleton]
      refine accounted.distinct.append (List.nodup_singleton _) ?_
      intro known here_too again
      rw [List.mem_singleton.mp again] at here_too
      obtain ⟨row, member, same⟩ := List.mem_map.mp here_too
      exact unseen row member (same.trans hash)
    · intro row member
      rw [rows, List.mem_append, List.mem_singleton] at member
      rcases member with old | rfl
      · exact accounted.rows row old
      · refine ⟨⟨limit, limited, by omega, ?_⟩, ?_⟩
        · rw [active, unused]
          simp only [reduceCtorEq, false_iff]
          omega
        · rw [unused, hash]
          have none_granted : s.granted.count origin.tokenHash = 0 := by
            rw [List.count_eq_zero]
            intro granted
            obtain ⟨row, member, same⟩ := accounted.known _ granted
            exact unseen row member same
          rw [none_granted]
          rfl
    · intro tokenHash granted
      obtain ⟨row, member, same⟩ := accounted.known tokenHash granted
      exact ⟨row, by rw [rows]; simp [member], same⟩

/-- A use is granted exactly when a token accepts it, and only that token is charged. -/
theorem granted_iff {s : Admissions} (accounted : Accounted s)
    (tokenHash platform arch usedAt : String) :
    s.store.registrationTokens.changes (tokenAccepts tokenHash platform arch usedAt) = 1 ↔
      ∃ row ∈ s.store.registrationTokens.rows, Grants tokenHash platform arch usedAt row := by
  have pinned : ∀ row, tokenAccepts tokenHash platform arch usedAt row = true →
      row.tokenHash = tokenHash := fun row accepts => ((tokenAccepts_iff ..).mp accepts).hash
  constructor
  · intro one
    have some_row : 0 < s.store.registrationTokens.changes
        (tokenAccepts tokenHash platform arch usedAt) := by omega
    obtain ⟨row, member, accepts⟩ := List.countP_pos_iff.mp some_row
    exact ⟨row, member, (tokenAccepts_iff ..).mp accepts⟩
  · rintro ⟨row, member, grants⟩
    rcases s.store.registrationTokens.changes_by_column accounted.distinct
      (tokenAccepts tokenHash platform arch usedAt) tokenHash pinned with one | ⟨_, none_accepts⟩
    · exact one
    · have refused := none_accepts row member
      rw [(tokenAccepts_iff ..).mpr grants] at refused
      cases refused

theorem rowAccount_used {granted : List String} {row : RegistrationTokenRow}
    {tokenHash platform arch usedAt : String} (account : RowAccount granted row)
    (grants : Grants tokenHash platform arch usedAt row) :
    RowAccount (granted ++ [tokenHash]) (useToken row) := by
  obtain ⟨limit, limited, le, consumed⟩ := account.limited
  have below := grants.unused limit limited
  refine ⟨⟨limit, limited, ?_, ?_⟩, ?_⟩
  · change row.useCount + 1 ≤ limit
    omega
  · simp only [useToken, limited, Option.any_some, decide_eq_true_eq]
    split
    · rename_i full
      simp only [true_iff]
      omega
    · rename_i free
      rw [grants.active]
      simp only [reduceCtorEq, false_iff]
      omega
  · change row.useCount + 1 = ((granted ++ [tokenHash]).count row.tokenHash : Int)
    rw [grants.hash, List.count_append, List.count_singleton_self, ← grants.hash,
      account.counted]
    push_cast
    rfl

theorem accounted_used {s : Admissions} {tokenHash platform arch usedAt : String}
    (accounted : Accounted s) :
    Accounted
      ⟨{ s.store with
          registrationTokens := s.store.registrationTokens.update
            (tokenAccepts tokenHash platform arch usedAt) useToken useToken_tokenId },
        s.granted ++ if s.store.registrationTokens.changes
          (tokenAccepts tokenHash platform arch usedAt) = 1 then [tokenHash] else []⟩ := by
  have untouched : ∀ {row : RegistrationTokenRow} {extra : List String},
      (∀ tokenHash ∈ extra, tokenHash ≠ row.tokenHash) → RowAccount s.granted row →
        RowAccount (s.granted ++ extra) row := by
    intro row extra elsewhere account
    refine ⟨account.limited, ?_⟩
    have none_extra : extra.count row.tokenHash = 0 :=
      List.count_eq_zero.mpr fun member => elsewhere _ member rfl
    rw [List.count_append, none_extra]
    exact account.counted
  refine ⟨?_, ?_, ?_⟩
  · rw [update_hashes useToken_tokenId fun _ => rfl]
    exact accounted.distinct
  · intro changed member
    obtain ⟨row, old, rfl⟩ := (Table.mem_updated useToken_tokenId).mp member
    have account := accounted.rows row old
    by_cases accepts : tokenAccepts tokenHash platform arch usedAt row = true
    · have grants := (tokenAccepts_iff ..).mp accepts
      have granted := (granted_iff accounted tokenHash platform arch usedAt).mpr ⟨row, old, grants⟩
      rw [if_pos accepts]
      simp only [if_pos granted]
      exact rowAccount_used account grants
    · rw [if_neg accepts]
      apply untouched _ account
      intro other extra
      split at extra
      · rename_i granted
        obtain ⟨charged, kept, grants⟩ :=
          (granted_iff accounted tokenHash platform arch usedAt).mp granted
        rw [List.mem_singleton.mp extra]
        intro same
        have only : row = charged := List.inj_on_of_nodup_map accounted.distinct old kept
          (same.symm.trans grants.hash.symm)
        rw [only] at accepts
        exact accepts ((tokenAccepts_iff ..).mpr grants)
      · cases extra
  · intro other granted
    have hashes : ∀ row ∈ s.store.registrationTokens.rows,
        ∃ changed ∈ (s.store.registrationTokens.update
          (tokenAccepts tokenHash platform arch usedAt) useToken useToken_tokenId).rows,
          changed.tokenHash = row.tokenHash := by
      intro row old
      refine ⟨_, (Table.mem_updated useToken_tokenId).mpr ⟨row, old, rfl⟩, ?_⟩
      split <;> rfl
    rcases List.mem_append.mp granted with earlier | now
    · obtain ⟨row, old, same⟩ := accounted.known other earlier
      obtain ⟨changed, member, hash⟩ := hashes row old
      exact ⟨changed, member, hash.trans same⟩
    · split at now
      · rename_i one
        obtain ⟨row, old, grants⟩ :=
          (granted_iff accounted tokenHash platform arch usedAt).mp one
        obtain ⟨changed, member, hash⟩ := hashes row old
        rw [List.mem_singleton.mp now]
        exact ⟨changed, member, hash.trans grants.hash⟩
      · cases now

theorem accounted_revoked {s : Admissions} (tokenId revokedAt : String)
    (accounted : Accounted s) :
    Accounted
      ⟨{ s.store with
          registrationTokens := s.store.registrationTokens.update (revocable tokenId)
            (revoke revokedAt) (revoke_tokenId _) }, s.granted⟩ := by
  refine ⟨?_, ?_, ?_⟩
  · rw [update_hashes (revoke_tokenId revokedAt) fun _ => rfl]
    exact accounted.distinct
  · intro changed member
    obtain ⟨row, old, rfl⟩ := (Table.mem_updated (revoke_tokenId revokedAt)).mp member
    have account := accounted.rows row old
    by_cases chosen : revocable tokenId row = true
    · rw [if_pos chosen]
      simp only [revocable, Bool.and_eq_true, decide_eq_true_eq] at chosen
      obtain ⟨limit, limited, le, consumed⟩ := account.limited
      rw [chosen.2] at consumed
      refine ⟨⟨limit, limited, le, ?_⟩, account.counted⟩
      simp only [revoke, reduceCtorEq, false_iff] at consumed ⊢
      exact consumed
    · rw [if_neg chosen]
      exact account
  · intro tokenHash granted
    obtain ⟨row, old, same⟩ := accounted.known tokenHash granted
    refine ⟨_, (Table.mem_updated (revoke_tokenId revokedAt)).mpr ⟨row, old, rfl⟩, ?_⟩
    split <;> exact same

/-! One call -/

/-- The state after a use was tried: the accepting rows are charged. -/
def charged (s : Admissions) (tokenHash platform arch usedAt : String) : Admissions where
  store := { s.store with
    registrationTokens := s.store.registrationTokens.update
      (tokenAccepts tokenHash platform arch usedAt) useToken useToken_tokenId }
  granted := s.granted ++ if s.store.registrationTokens.changes
    (tokenAccepts tokenHash platform arch usedAt) = 1 then [tokenHash] else []

def revoked (s : Admissions) (tokenId revokedAt : String) : Admissions where
  store := { s.store with
    registrationTokens := s.store.registrationTokens.update (revocable tokenId)
      (revoke revokedAt) (revoke_tokenId _) }
  granted := s.granted

theorem run_of_reply {s : Admissions} {call : Call} {answer : Except Failure Bool}
    (replied : reply s call = answer) :
    ∃ final, execute call.op ⟨s.store, call.faults⟩ = (answer, final) ∧
      final.state = (step s call).store := by
  refine ⟨(execute call.op ⟨s.store, call.faults⟩).2, ?_, rfl⟩
  rw [← replied]
  rfl

/-- All that a call can do. -/
theorem step_cases (s : Admissions) (call : Call) :
    (∃ input origin, call.op = .createToken input origin ∧
      Created input origin s.store (step s call).store ∧ (step s call).granted = s.granted) ∨
    (∃ tokenHash platform arch usedAt,
      call.op = .consumeRegistrationToken tokenHash platform arch usedAt ∧
      step s call = charged s tokenHash platform arch usedAt) ∨
    (∃ tokenId revokedAt, call.op = .revokeRegistrationToken tokenId revokedAt ∧
      step s call = revoked s tokenId revokedAt) ∨
    step s call = s := by
  obtain ⟨op, faults⟩ := call
  cases replied : reply s ⟨op, faults⟩ with
  | error e =>
    obtain ⟨final, ran, after⟩ := run_of_reply replied
    have nothing : grantedBy op (reply s ⟨op, faults⟩) = [] := by
      rw [replied]
      cases op <;> rfl
    have same_if : final.state = s.store → step s ⟨op, faults⟩ = s := by
      intro same
      have store : (step s ⟨op, faults⟩).store = s.store := after.symm.trans same
      have granted : (step s ⟨op, faults⟩).granted = s.granted := by
        change s.granted ++ grantedBy op _ = s.granted
        rw [nothing, List.append_nil]
      cases s
      simp only [step] at store granted ⊢
      rw [store, granted]
    cases op with
    | createToken input origin =>
      refine Or.inl ⟨input, origin, rfl, ?_, List.append_nil _⟩
      rw [← after]
      refine evolves_bind (createToken_evolves input origin) (R := SameTokens)
        (fun _ => evolves_pure sameTokens_refl _) (fun _ _ created => created) ?_ _ _ _ ran
      intro x y z created same
      unfold Created
      rw [show z.registrationTokens = y.registrationTokens from same]
      exact created
    | consumeRegistrationToken =>
      exact Or.inr (Or.inr (Or.inr (same_if (consumeRegistrationToken_atomic _ _ _ _ _ _ _ ran))))
    | revokeRegistrationToken =>
      exact Or.inr (Or.inr (Or.inr (same_if (revokeRegistrationToken_atomic _ _ _ _ _ ran))))
  | ok answer =>
    obtain ⟨final, ran, after⟩ := run_of_reply replied
    cases op with
    | createToken input origin =>
      refine Or.inl ⟨input, origin, rfl, ?_, List.append_nil _⟩
      rw [← after]
      refine evolves_bind (createToken_evolves input origin) (R := SameTokens)
        (fun _ => evolves_pure sameTokens_refl _) (fun _ _ created => created) ?_ _ _ _ ran
      intro x y z created same
      unfold Created
      rw [show z.registrationTokens = y.registrationTokens from same]
      exact created
    | consumeRegistrationToken tokenHash platform arch usedAt =>
      refine Or.inr (Or.inl ⟨tokenHash, platform, arch, usedAt, rfl, ?_⟩)
      obtain ⟨answered, state⟩ := consumeRegistrationToken_ok ran
      have store : (step s ⟨.consumeRegistrationToken tokenHash platform arch usedAt,
          faults⟩).store = (charged s tokenHash platform arch usedAt).store :=
        after.symm.trans state
      have granted : (step s ⟨.consumeRegistrationToken tokenHash platform arch usedAt,
          faults⟩).granted = (charged s tokenHash platform arch usedAt).granted := by
        change s.granted ++ grantedBy _ (reply s _) = _
        rw [replied, answered]
        unfold charged
        congr 1
        by_cases one : s.store.registrationTokens.changes
            (tokenAccepts tokenHash platform arch usedAt) = 1
        · simp [grantedBy, one]
        · simp [grantedBy, one]
      generalize step s _ = next at store granted
      cases next
      simp only at store granted
      rw [store, granted]
    | revokeRegistrationToken tokenId revokedAt =>
      refine Or.inr (Or.inr (Or.inl ⟨tokenId, revokedAt, rfl, ?_⟩))
      have store : (step s ⟨.revokeRegistrationToken tokenId revokedAt, faults⟩).store =
          (revoked s tokenId revokedAt).store :=
        after.symm.trans (revokeRegistrationToken_ok ran)
      have granted : (step s ⟨.revokeRegistrationToken tokenId revokedAt, faults⟩).granted =
          s.granted := List.append_nil _
      generalize step s _ = next at store granted
      cases next
      simp only at store granted
      rw [store, granted]
      rfl

theorem step_accounted {s : Admissions} {call : Call}
    (unseen : ∀ tokenHash, createdHash call = some tokenHash →
      ∀ row ∈ s.store.registrationTokens.rows, row.tokenHash ≠ tokenHash)
    (accounted : Accounted s) : Accounted (step s call) := by
  rcases step_cases s call with ⟨input, origin, op, created, granted⟩ |
    ⟨tokenHash, platform, arch, usedAt, _, charges⟩ | ⟨tokenId, revokedAt, _, revokes⟩ | same
  · have new := accounted_created created (unseen origin.tokenHash (by simp [createdHash, op]))
      accounted
    rw [← granted] at new
    exact new
  · rw [charges]
    exact accounted_used accounted
  · rw [revokes]
    exact accounted_revoked tokenId revokedAt accounted
  · rw [same]
    exact accounted

/-- A token has its hash from the call that created it. -/
theorem step_hashes {s : Admissions} {call : Call} {row : RegistrationTokenRow}
    (member : row ∈ (step s call).store.registrationTokens.rows) :
    (∃ old ∈ s.store.registrationTokens.rows, old.tokenHash = row.tokenHash) ∨
      createdHash call = some row.tokenHash := by
  rcases step_cases s call with ⟨input, origin, op, created, _⟩ |
    ⟨tokenHash, platform, arch, usedAt, _, charges⟩ | ⟨tokenId, revokedAt, _, revokes⟩ | same
  · rcases created with unchanged | ⟨token, passed, inserted⟩
    · rw [unchanged] at member
      exact Or.inl ⟨row, member, rfl⟩
    · rw [(Table.insert_some inserted).2, List.mem_append, List.mem_singleton] at member
      rcases member with old | rfl
      · exact Or.inl ⟨row, old, rfl⟩
      · refine Or.inr ?_
        simp [createdHash, op, (tokenRecord_ok passed).1]
  · rw [charges] at member
    obtain ⟨old, kept, rfl⟩ := (Table.mem_updated useToken_tokenId).mp member
    exact Or.inl ⟨old, kept, by split <;> rfl⟩
  · rw [revokes] at member
    obtain ⟨old, kept, rfl⟩ := (Table.mem_updated (revoke_tokenId revokedAt)).mp member
    exact Or.inl ⟨old, kept, by split <;> rfl⟩
  · rw [same] at member
    exact Or.inl ⟨row, member, rfl⟩

/-- A token that is revoked or used up stays as it is. -/
theorem step_keeps_spent {s : Admissions} {row : RegistrationTokenRow}
    (member : row ∈ s.store.registrationTokens.rows) (spent : row.status ≠ .active)
    (call : Call) : row ∈ (step s call).store.registrationTokens.rows := by
  rcases step_cases s call with ⟨input, origin, op, created, _⟩ |
    ⟨tokenHash, platform, arch, usedAt, _, charges⟩ | ⟨tokenId, revokedAt, _, revokes⟩ | same
  · rcases created with unchanged | ⟨token, passed, inserted⟩
    · rw [unchanged]
      exact member
    · rw [(Table.insert_some inserted).2]
      exact List.mem_append_left _ member
  · rw [charges]
    refine (Table.mem_updated useToken_tokenId).mpr ⟨row, member, if_neg ?_⟩
    intro accepts
    exact spent ((tokenAccepts_iff ..).mp accepts).active
  · rw [revokes]
    refine (Table.mem_updated (revoke_tokenId revokedAt)).mpr ⟨row, member, if_neg ?_⟩
    intro chosen
    simp only [revocable, Bool.and_eq_true, decide_eq_true_eq] at chosen
    exact spent chosen.2
  · rw [same]
    exact member

/-! Runs -/

theorem run_hashes {start : Admissions} (fresh : start.store.registrationTokens.rows = [])
    (calls : List Call) {row : RegistrationTokenRow}
    (member : row ∈ (Runs.run step start calls).store.registrationTokens.rows) :
    row.tokenHash ∈ calls.filterMap createdHash := by
  induction calls using List.reverseRecOn generalizing row with
  | nil =>
    rw [Runs.run_nil, fresh] at member
    cases member
  | append_singleton calls call ih =>
    rw [Runs.run_snoc] at member
    rw [List.filterMap_append, List.mem_append]
    rcases step_hashes member with ⟨old, kept, same⟩ | created
    · rw [← same]
      exact Or.inl (ih kept)
    · refine Or.inr ?_
      simp [created]

theorem run_accounted {store : Store} (fresh : store.registrationTokens.rows = [])
    {calls : List Call} (distinct : (calls.filterMap createdHash).Nodup) :
    Accounted (Runs.run step ⟨store, []⟩ calls) := by
  apply Runs.run_invariant Accounted (fun s call => ∀ tokenHash,
    createdHash call = some tokenHash →
      ∀ row ∈ s.store.registrationTokens.rows, row.tokenHash ≠ tokenHash)
    (fun _ _ accounted unseen => step_accounted unseen accounted)
  · intro before call after split tokenHash created row member same
    have earlier := run_hashes fresh before member
    rw [split, List.filterMap_append, List.nodup_append] at distinct
    refine distinct.2.2 _ earlier tokenHash ?_ same
    simp [created]
  · exact ⟨by rw [fresh]; exact List.nodup_nil, by rw [fresh]; simp, by simp⟩

theorem run_keeps_spent {s : Admissions} {row : RegistrationTokenRow}
    (member : row ∈ s.store.registrationTokens.rows) (spent : row.status ≠ .active)
    (later : List Call) :
    row ∈ (Runs.run step s later).store.registrationTokens.rows :=
  Runs.run_invariant_always (fun s => row ∈ s.store.registrationTokens.rows)
    (fun _ call member => step_keeps_spent member spent call) s member later

/-- A use that meets no fault is answered. -/
theorem consume_answers (s : Admissions) (tokenHash platform arch usedAt : String) :
    reply s ⟨.consumeRegistrationToken tokenHash platform arch usedAt, []⟩ =
      .ok (decide (s.store.registrationTokens.changes
        (tokenAccepts tokenHash platform arch usedAt) = 1)) := rfl

/-- A use is granted only if a token accepts it. -/
theorem granted_of_reply {s : Admissions} (accounted : Accounted s)
    {tokenHash platform arch usedAt : String} {faults : List (Option Fault)} {answer : Bool}
    (replied : reply s ⟨.consumeRegistrationToken tokenHash platform arch usedAt, faults⟩ =
      .ok answer) :
    answer = true ↔
      ∃ row ∈ s.store.registrationTokens.rows, Grants tokenHash platform arch usedAt row := by
  obtain ⟨final, ran, _⟩ := run_of_reply replied
  rw [(consumeRegistrationToken_ok ran).1, decide_eq_true_iff]
  exact granted_iff accounted tokenHash platform arch usedAt

/-- A refused use charges nobody. -/
theorem refused_unchanged {s : Admissions} (accounted : Accounted s)
    {tokenHash platform arch usedAt : String} {faults : List (Option Fault)}
    (refused : reply s ⟨.consumeRegistrationToken tokenHash platform arch usedAt, faults⟩ =
      .ok false) :
    (step s ⟨.consumeRegistrationToken tokenHash platform arch usedAt,
      faults⟩).store.registrationTokens = s.store.registrationTokens := by
  obtain ⟨final, ran, after⟩ := run_of_reply refused
  have unselected : ∀ row ∈ s.store.registrationTokens.rows,
      tokenAccepts tokenHash platform arch usedAt row = false := by
    intro row member
    rw [Bool.eq_false_iff]
    intro accepts
    have granted := (granted_of_reply accounted refused).mpr
      ⟨row, member, (tokenAccepts_iff ..).mp accepts⟩
    cases granted
  have kept : s.store.registrationTokens.update (tokenAccepts tokenHash platform arch usedAt)
      useToken useToken_tokenId = s.store.registrationTokens :=
    Table.update_of_unselected unselected
  rw [← after, (consumeRegistrationToken_ok ran).2]
  exact kept

/-- Tokens are charged for what they admit: the use count of a token is the number of uses
    granted for it and is within its limit, a token is consumed exactly when its limit is
    reached, only a token that accepts a use grants it, a refusal changes no token, and a
    spent token does not change any more. -/
theorem tokens_admit_what_they_count (store : Store) (fresh : store.registrationTokens.rows = [])
    (calls : List Call) (distinct : (calls.filterMap createdHash).Nodup) :
    (∀ row ∈ (Runs.run step ⟨store, []⟩ calls).store.registrationTokens.rows,
      RowAccount (Runs.run step ⟨store, []⟩ calls).granted row) ∧
    ∀ before call after, calls = before ++ call :: after →
      let s := Runs.run step ⟨store, []⟩ before
      (∀ tokenHash platform arch usedAt,
        call.op = .consumeRegistrationToken tokenHash platform arch usedAt →
        ((¬ ∃ row ∈ s.store.registrationTokens.rows, Grants tokenHash platform arch usedAt row) →
          reply s call ≠ .ok true ∧ (call.faults = [] → reply s call = .ok false)) ∧
        (reply s call = .ok false →
          (step s call).store.registrationTokens = s.store.registrationTokens)) ∧
      ∀ row ∈ s.store.registrationTokens.rows, row.status ≠ .active →
        row ∈ (Runs.run step ⟨store, []⟩ calls).store.registrationTokens.rows := by
  refine ⟨(run_accounted fresh distinct).rows, ?_⟩
  intro before call after split
  have accounted : Accounted (Runs.run step ⟨store, []⟩ before) := by
    apply run_accounted fresh
    rw [split, List.filterMap_append] at distinct
    exact distinct.of_append_left
  refine ⟨?_, ?_⟩
  · intro tokenHash platform arch usedAt consumes
    obtain ⟨op, faults⟩ := call
    subst consumes
    refine ⟨?_, refused_unchanged accounted⟩
    intro unaccepted
    refine ⟨fun granted => unaccepted ((granted_of_reply accounted granted).mp rfl), ?_⟩
    rintro rfl
    rw [consume_answers, Except.ok.injEq, decide_eq_false_iff_not]
    exact fun one => unaccepted ((granted_iff accounted ..).mp one)
  · intro row member spent
    rw [split, Runs.run_append]
    exact run_keeps_spent member spent (call :: after)

def oneUse : TokenCreateRequestBody where
  purpose := "agent_register"
  channel := none
  platform := some "linux"
  arch := none
  maxUses := some 1
  expiresAt := "2026-06-01T00:00:00Z"

def oneUseOrigin : TokenOrigin where
  tokenId := "token-1"
  tokenHash := "hash-1"
  now := "2026-05-01T00:00:00Z"
  auditId := "audit-1"
  auditTime := "2026-05-01T00:00:00Z"

/-- A token for one use is used twice and then revoked. -/
def oneUseRun : List Call :=
  [⟨.createToken oneUse oneUseOrigin, []⟩,
    ⟨.consumeRegistrationToken "hash-1" "linux" "x86_64" "2026-05-02T00:00:00Z", []⟩,
    ⟨.consumeRegistrationToken "hash-1" "linux" "x86_64" "2026-05-02T00:00:00Z", []⟩,
    ⟨.revokeRegistrationToken "token-1" "2026-05-03T00:00:00Z", []⟩]

theorem one_use_admits_one :
    ∃ row ∈ (Runs.run step ⟨.empty, []⟩ oneUseRun).store.registrationTokens.rows,
      row.useCount = 1 ∧ row.status = .consumed ∧
        RowAccount (Runs.run step ⟨.empty, []⟩ oneUseRun).granted row := by
  refine ⟨_, List.mem_cons_self, by decide +kernel, by decide +kernel, ?_⟩
  exact (tokens_admit_what_they_count .empty rfl oneUseRun (by decide)).1 _ List.mem_cons_self

end RegistrationTokens
