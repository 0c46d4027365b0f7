import ZFleet.Server.AgentStore

/-!
The install API's token creation and the answers of the admin server. A token is
stored with the expiry text of its request.
-/
namespace InstallApi
open Message Transactions Schema AgentStore

structure ErrorResponse where
  status : Nat
  code : String
  message : String
  deriving DecidableEq, Repr

structure TokenCreateRequestBody where
  purpose : String
  channel : Option String
  platform : Option String
  arch : Option String
  maxUses : Option Int
  expiresAt : String
  deriving DecidableEq, Repr

/-- The generated values of one request. -/
structure TokenOrigin where
  tokenId : String
  tokenHash : String
  now : String
  auditId : String
  auditTime : String

def recordAdminAudit (auditId occurredAt : String) (eventType : AuditEventType)
    (requestId result : String) (payload : List (String × String)) : Job Store Unit :=
  recordAuditEvent
    { auditId := auditId
      occurredAt := occurredAt
      agentId := none
      eventType := eventType
      requestId := requestId
      result := result
      payload := payload }

/-- The checks of the request, and the record they let through. -/
def tokenRecord (input : TokenCreateRequestBody) (origin : TokenOrigin) :
    Except ErrorResponse RegistrationTokenRow :=
  if input.purpose = "" then .error ⟨400, "token_purpose_required", "purpose is required"⟩
  else if input.purpose ≠ "agent_register" then
    .error ⟨400, "token_purpose_unsupported", "purpose must be agent_register"⟩
  else if input.expiresAt = "" then
    .error ⟨400, "token_expiry_required", "expires_at is required"⟩
  else if input.maxUses.all fun limit => limit ≤ 0 then
    .error ⟨400, "token_max_uses_invalid", "max_uses must be greater than zero"⟩
  else .ok
    { tokenId := origin.tokenId
      tokenHash := origin.tokenHash
      purpose := input.purpose
      channel := input.channel
      platform := input.platform
      arch := input.arch
      maxUses := input.maxUses
      useCount := 0
      status := .active
      createdAt := origin.now
      expiresAt := input.expiresAt
      revokedAt := none }

/-- The token and, in a write of its own, its audit event. -/
def createToken (input : TokenCreateRequestBody) (origin : TokenOrigin) :
    Job Store (Except ErrorResponse RegistrationTokenRow) :=
  match tokenRecord input origin with
  | .error refusal => pure (.error refusal)
  | .ok token => do
    createRegistrationToken token
    recordAdminAudit origin.auditId origin.auditTime .registrationTokenCreated token.tokenId
      "success" [("token_id", token.tokenId), ("purpose", token.purpose),
        ("channel", token.channel.getD ""), ("platform", token.platform.getD ""),
        ("arch", token.arch.getD "")]
    pure (.ok token)

/-- What the API lets through is unused, active and good for one use at least. -/
theorem tokenRecord_ok {input : TokenCreateRequestBody} {origin : TokenOrigin}
    {token : RegistrationTokenRow} (passed : tokenRecord input origin = .ok token) :
    token.tokenHash = origin.tokenHash ∧ token.purpose = "agent_register" ∧
      token.status = .active ∧ token.useCount = 0 ∧ token.expiresAt = input.expiresAt ∧
      ∃ limit, token.maxUses = some limit ∧ 0 < limit := by
  unfold tokenRecord at passed
  split at passed
  · cases passed
  · split at passed
    · cases passed
    · rename_i purpose
      split at passed
      · cases passed
      · split at passed
        · cases passed
        · rename_i unlimited
          cases passed
          cases limit : input.maxUses with
          | none => simp [limit] at unlimited
          | some most =>
            have positive : 0 < most := by simpa [limit] using unlimited
            exact ⟨rfl, not_not.mp purpose, rfl, rfl, rfl, most, rfl, positive⟩

end InstallApi
