import ZFleet.Foundations.Runs
import ZFleet.Server.PackageApi

/-!
The life of packages and publications over whole runs of package requests. Publishing and
retiring write both tables in one transaction, but validating writes the package alone: a
published package that is validated again loses its status and stays the default, so that
the lookup finds nothing. Without such requests the tables agree in every state.
-/
namespace PublicationLifecycle
open Message Package KeyedTables Transactions Schema PackageStore PackageApi

inductive Request where
  | upload (upload : Upload)
  | validate (stored : Except String Archive) (packageId : String)
  | publish (body packageId : String)
  | retire (packageId : String)

/-- A request, its generated values and what the engine answers to its statements. -/
structure Call where
  request : Request
  origin : Origin
  faults : List (Option Fault)

def execute (env : Environment) (origin : Origin) :
    Request → Job Depot (Answer AgentPackageRow)
  | .upload upload => respond (commitAgentPackageUpload env origin upload)
  | .validate stored packageId => respond (validatePackage env origin stored packageId)
  | .publish body packageId => respond (publishPackage env origin body packageId)
  | .retire packageId => respond (retirePackage origin packageId)

def step (env : Environment) (depot : Depot) (call : Call) : Depot :=
  (execute env call.origin call.request ⟨depot, call.faults⟩).2.state

/-- The request published the package in the slot: its database call returned. -/
def PublishesIn (env : Environment) (depot : Depot) (call : Call) (packageId : String)
    (slot : Slot) : Prop :=
  ∃ body package read input published, call.request = .publish body packageId ∧
    findAgentPackage packageId ⟨depot, call.faults⟩ = (.ok (some package), read) ∧
    (package.status = .validated ∨ package.status = .published) ∧
    parsePublishRequestBody env.json body = .ok input ∧
    checkPublication package (channelOf input) = none ∧
    slot = packageSlot package (channelOf input) ∧
    publishAgentPackage packageId slot input.publishedBy call.origin.now read =
      (.ok (), published)

/-- The request retired the package. -/
def RetiresIn (depot : Depot) (call : Call) (packageId : String) : Prop :=
  ∃ package read retired, call.request = .retire packageId ∧
    findAgentPackage packageId ⟨depot, call.faults⟩ = (.ok (some package), read) ∧
    retireAgentPackage packageId call.origin.now read = (.ok (), retired)

/-- The tables and, for each slot, what was published in it last and not retired since. -/
structure Shelf where
  depot : Depot
  latest : Slot → String → Prop

def Shelf.empty : Shelf := ⟨.empty, fun _ _ => False⟩

def advance (env : Environment) (shelf : Shelf) (call : Call) : Shelf where
  depot := step env shelf.depot call
  latest := fun slot packageId =>
    PublishesIn env shelf.depot call packageId slot ∨
      (shelf.latest slot packageId ∧ (∀ other, ¬ PublishesIn env shelf.depot call other slot) ∧
        ¬ RetiresIn shelf.depot call packageId)

/-- What must hold behind every request. -/
structure Kept (before : Depot) (after : Shelf) : Prop where
  one_default : ∀ p ∈ after.depot.publications.table.rows,
    ∀ q ∈ after.depot.publications.table.rows, p.isDefault = true → q.isDefault = true →
      p.slot = q.slot → p = q
  published : ∀ p ∈ after.depot.publications.table.rows, p.isDefault = true →
    ∃ row, after.depot.packages.find p.packageId = some row ∧ row.status = .published
  found : ∀ slot packageId, after.latest slot packageId → ∃ row, row.packageId = packageId ∧
    Succeeds (findDefaultPublishedAgentPackage slot) after.depot (some row) after.depot
  retired : ∀ row, before.packages.find row.packageId = some row → row.status = .retired →
    (∃ row', after.depot.packages.find row.packageId = some row' ∧ row'.status = .retired) ∧
      ∀ p ∈ after.depot.publications.table.rows, p.isDefault = true →
        p.packageId ≠ row.packageId
  stable : ∀ p ∈ after.depot.publications.table.rows, p.isDefault = true →
    p.slot.channel = "stable" → p.slot.buildType ≠ "debug" ∧
      ∀ row, after.depot.packages.find p.packageId = some row → row.buildType ≠ "debug"

/-- The package is retired, or the default of a slot. -/
def Marked (depot : Depot) (packageId : String) : Prop :=
  (∃ row, depot.packages.find packageId = some row ∧ row.status = .retired) ∨
    ∃ p ∈ depot.publications.table.rows, p.isDefault = true ∧ p.packageId = packageId

/-- The upload passes its checks. -/
def Accepted (env : Environment) (upload : Upload) : Prop :=
  upload.uploadedBytes ≠ 0 ∧
    (∃ path, safePackageStoragePath env.packageRepository upload.packageId.text = .ok path) ∧
    ∃ metadata, validateAgentPackageUpload env.json upload.stored upload.filename = .ok metadata

/-- A package that is the default of a slot is validated again; or a generated id is that
    of a package that is retired or a default. -/
def Overwrites (env : Environment) (depot : Depot) (call : Call) : Prop :=
  match call.request with
  | .validate _ packageId =>
    ∃ p ∈ depot.publications.table.rows, p.isDefault = true ∧ p.packageId = packageId
  | .upload upload => Accepted env upload ∧ Marked depot upload.packageId.text
  | _ => False

/-! What a request does to the two tables -/

/-- Packages and publications are the same. -/
def SameShelves (before after : Depot) : Prop :=
  after.packages = before.packages ∧ after.publications = before.publications

theorem sameShelves_refl (depot : Depot) : SameShelves depot depot := ⟨rfl, rfl⟩

theorem sameShelves_trans (x y z : Depot) (first : SameShelves x y) (rest : SameShelves y z) :
    SameShelves x z := ⟨rest.1.trans first.1, rest.2.trans first.2⟩

/-- A package was written with a status it has before its publication. -/
def Rewritten (packageId : String) (before after : Depot) : Prop :=
  after.publications = before.publications ∧ ∃ row : AgentPackageRow,
    row.packageId = packageId ∧ row.status ≠ .published ∧ row.status ≠ .retired ∧
    ∀ k, after.packages.find k = if k = packageId then some row else before.packages.find k

def Touched (packageId : String) (before after : Depot) : Prop :=
  SameShelves before after ∨ Rewritten packageId before after

theorem rewritten_trans (packageId : String) (x y z : Depot) (first : Touched packageId x y)
    (rest : Rewritten packageId y z) : Rewritten packageId x z := by
  obtain ⟨publications, row, own, unpublished, unretired, find⟩ := rest
  rcases first with ⟨packages, publications'⟩ | ⟨publications', _, _, _, _, find'⟩
  · refine ⟨publications.trans publications', row, own, unpublished, unretired, ?_⟩
    intro k
    rw [find, packages]
  · refine ⟨publications.trans publications', row, own, unpublished, unretired, ?_⟩
    intro k
    rw [find, find']
    split <;> rfl

theorem touched_trans (packageId : String) (x y z : Depot) (first : Touched packageId x y)
    (rest : Touched packageId y z) : Touched packageId x z := by
  rcases rest with same | written
  · rcases first with same' | ⟨publications, row, own, unpublished, unretired, find⟩
    · exact Or.inl (sameShelves_trans x y z same' same)
    · refine Or.inr ⟨same.2.trans publications, row, own, unpublished, unretired, ?_⟩
      rw [same.1]
      exact find
  · exact Or.inr (rewritten_trans packageId x y z first written)

theorem touched_refl (packageId : String) (depot : Depot) : Touched packageId depot depot :=
  Or.inl (sameShelves_refl depot)

theorem findAgentPackage_same (packageId : String) :
    Evolves SameShelves (findAgentPackage packageId) :=
  evolves_of_atomic (findAgentPackage_atomic packageId) sameShelves_refl fun s _ s' done => by
    rw [(findAgentPackage_ok done).2]
    exact sameShelves_refl s.state

theorem onStore_same {α : Type} (job : Job Store α) : Evolves SameShelves (onStore job) := by
  refine evolves_mono (onStore_storeOnly job) ?_
  rintro x y ⟨store, rfl⟩
  exact ⟨rfl, rfl⟩

theorem audit_same (origin : Origin) (n : Nat) (eventType : AuditEventType)
    (requestId result : String) (payload : List (String × String)) :
    Evolves SameShelves (audit origin n eventType requestId result payload) := onStore_same _

theorem answerPackage_same (packageId : String) :
    Evolves SameShelves (answerPackage packageId) := by
  refine evolves_trans (findAgentPackage_same packageId) ?_ sameShelves_trans
  intro found
  cases found with
  | none => exact evolves_fail sameShelves_refl _
  | some row => exact evolves_pure sameShelves_refl _

theorem upsertAgentPackage_rewrites {row : AgentPackageRow} (unpublished : row.status ≠ .published)
    (unretired : row.status ≠ .retired) {s s' : Session Depot} {u : Unit}
    (done : upsertAgentPackage row s = (.ok u, s')) :
    Rewritten row.packageId s.state s'.state := by
  rw [upsertAgentPackage_ok done]
  refine ⟨rfl, row, rfl, unpublished, unretired, ?_⟩
  intro k
  rw [Table.find_put]
  simp only [eq_comm]

theorem upsertAgentPackage_touches {row : AgentPackageRow} (unpublished : row.status ≠ .published)
    (unretired : row.status ≠ .retired) :
    Evolves (Touched row.packageId) (upsertAgentPackage row) :=
  evolves_of_atomic (upsertAgentPackage_atomic row) (touched_refl _) fun _ _ _ done =>
    Or.inr (upsertAgentPackage_rewrites unpublished unretired done)

theorem same_touches {α : Type} {job : Job Depot α} (packageId : String)
    (same : Evolves SameShelves job) : Evolves (Touched packageId) job :=
  evolves_mono same fun _ _ => Or.inl

theorem bind_touches {α β : Type} {packageId : String} {job : Job Depot α}
    {next : α → Job Depot β} (first : Evolves (Touched packageId) job)
    (rest : ∀ a, Evolves (Touched packageId) (next a)) :
    Evolves (Touched packageId) (job >>= next) := evolves_trans first rest (touched_trans packageId)

theorem acceptValidation_touches (env : Environment) (origin : Origin)
    (stored : Except String Archive) (package : AgentPackageRow) :
    Evolves (Touched package.packageId) (acceptValidation env origin stored package) := by
  apply bind_touches (evolves_ofExcept (touched_refl _) _)
  intro metadata
  have written := @upsertAgentPackage_touches (validatedRow package metadata origin.now)
    (by simp [validatedRow]) (by simp [validatedRow])
  apply bind_touches written
  intro _
  apply bind_touches (same_touches _ (audit_same _ _ _ _ _ _))
  intro _
  exact same_touches _ (answerPackage_same _)

theorem rejectValidation_touches (origin : Origin) (package : AgentPackageRow) (e : Failure) :
    Evolves (Touched package.packageId) (rejectValidation origin package e) := by
  have written := @upsertAgentPackage_touches (rejectedRow package) (by simp [rejectedRow])
    (by simp [rejectedRow])
  apply bind_touches written
  intro _
  apply bind_touches (same_touches _ (audit_same _ _ _ _ _ _))
  intro _
  exact evolves_pure (touched_refl _) _

theorem storeUpload_touches (env : Environment) (origin : Origin) (upload : Upload) :
    Evolves (Touched upload.packageId.text) (storeUpload env origin upload) := by
  apply bind_touches (evolves_ofExcept (touched_refl _) _)
  intro path
  apply bind_touches (evolves_ofExcept (touched_refl _) _)
  intro metadata
  let uploaded := uploadedRow upload.packageId.text upload.filename path origin.now metadata
  have first := @upsertAgentPackage_touches uploaded (by simp [uploaded, uploadedRow])
    (by simp [uploaded, uploadedRow])
  have second := @upsertAgentPackage_touches
    { uploaded with status := .validated, validatedAt := some origin.now } (by simp) (by simp)
  apply bind_touches first
  intro _
  apply bind_touches second
  intro _
  apply bind_touches (same_touches _ (audit_same _ _ _ _ _ _))
  intro _
  exact evolves_pure (touched_refl _) _

/-- Ids have no colon, so an id of a publication begins with that of its package. -/
def Plain (packageId : String) : Prop := ':' ∉ packageId.toList

theorem uuid_plain (uuid : Uuid) : Plain uuid.text :=
  fun colon => absurd (List.all_eq_true.mp uuid.plain ':' colon) (by decide)

/-- All that a request can do to the two tables. -/
inductive Change (env : Environment) (before : Depot) (call : Call) (after : Depot) : Prop where
  | same : SameShelves before after → (∀ other slot, ¬ PublishesIn env before call other slot) →
      (∀ other, ¬ RetiresIn before call other) → Change env before call after
  | rewritten (packageId : String) : Rewritten packageId before after →
      Plain packageId ∨ (∃ row, before.packages.find packageId = some row) →
      (Marked before packageId → Overwrites env before call) →
      (∀ other slot, ¬ PublishesIn env before call other slot) →
      (∀ other, ¬ RetiresIn before call other) → Change env before call after
  | published (packageId channel : String) (package : AgentPackageRow)
      (publishedBy : Option String) (publishedAt : String) :
      before.packages.find packageId = some package → package.status ≠ .retired →
      (channel = "stable" → package.buildType ≠ "debug") →
      PublishedIn packageId (packageSlot package channel) publishedBy publishedAt before after →
      (∀ other slot, PublishesIn env before call other slot ↔
        other = packageId ∧ slot = packageSlot package channel) →
      (∀ other, ¬ RetiresIn before call other) → Change env before call after
  | retired (packageId retiredAt : String) : RetiredIn packageId retiredAt before after →
      (∀ other slot, ¬ PublishesIn env before call other slot) →
      (∀ other, RetiresIn before call other ↔ other = packageId) → Change env before call after

theorem publishes_request {env : Environment} {depot : Depot} {call : Call}
    {packageId : String} {slot : Slot} (publishes : PublishesIn env depot call packageId slot) :
    ∃ body, call.request = .publish body packageId := by
  obtain ⟨body, _, _, _, _, request, _⟩ := publishes
  exact ⟨body, request⟩

theorem retires_request {depot : Depot} {call : Call} {packageId : String}
    (retires : RetiresIn depot call packageId) : call.request = .retire packageId := by
  obtain ⟨_, _, _, request, _⟩ := retires
  exact request

theorem upload_change (env : Environment) (depot : Depot) (upload : Upload) (origin : Origin)
    (faults : List (Option Fault)) :
    Change env depot ⟨.upload upload, origin, faults⟩
      (step env depot ⟨.upload upload, origin, faults⟩) := by
  have unpublished : ∀ other slot,
      ¬ PublishesIn env depot ⟨.upload upload, origin, faults⟩ other slot := by
    intro other slot publishes
    obtain ⟨_, request⟩ := publishes_request publishes
    cases request
  have unretired : ∀ other, ¬ RetiresIn depot ⟨.upload upload, origin, faults⟩ other := by
    intro other retires
    cases retires_request retires
  have final : step env depot ⟨.upload upload, origin, faults⟩ =
      (commitAgentPackageUpload env origin upload ⟨depot, faults⟩).2.state :=
    congrArg Session.state (recover_state _ _ _)
  rw [final]
  unfold commitAgentPackageUpload
  by_cases empty : upload.uploadedBytes = 0
  · rw [if_pos empty]
    exact .same (sameShelves_refl depot) unpublished unretired
  rw [if_neg empty, recover_state]
  cases path : safePackageStoragePath env.packageRepository upload.packageId.text with
  | error message =>
    refine .same ?_ unpublished unretired
    unfold storeUpload
    rw [path]
    exact sameShelves_refl depot
  | ok storagePath =>
    cases checked : validateAgentPackageUpload env.json upload.stored upload.filename with
    | error message =>
      refine .same ?_ unpublished unretired
      unfold storeUpload
      rw [path, checked]
      exact sameShelves_refl depot
    | ok metadata =>
      rcases storeUpload_touches env origin upload ⟨depot, faults⟩ _ _ rfl with same | written
      · exact .same same unpublished unretired
      · refine .rewritten _ written (Or.inl (uuid_plain upload.packageId)) ?_ unpublished unretired
        intro marked
        exact ⟨⟨empty, ⟨storagePath, path⟩, metadata, checked⟩, marked⟩

theorem validate_change (env : Environment) (depot : Depot) (stored : Except String Archive)
    (packageId : String) (origin : Origin) (faults : List (Option Fault)) :
    Change env depot ⟨.validate stored packageId, origin, faults⟩
      (step env depot ⟨.validate stored packageId, origin, faults⟩) := by
  have unpublished : ∀ other slot,
      ¬ PublishesIn env depot ⟨.validate stored packageId, origin, faults⟩ other slot := by
    intro other slot publishes
    obtain ⟨_, request⟩ := publishes_request publishes
    cases request
  have unretired : ∀ other,
      ¬ RetiresIn depot ⟨.validate stored packageId, origin, faults⟩ other := by
    intro other retires
    cases retires_request retires
  have final : step env depot ⟨.validate stored packageId, origin, faults⟩ =
      (validatePackage env origin stored packageId ⟨depot, faults⟩).2.state :=
    congrArg Session.state (recover_state _ _ _)
  rw [final]
  unfold validatePackage
  cases read : findAgentPackage packageId ⟨depot, faults⟩ with
  | mk result middle =>
    have same : SameShelves depot middle.state := findAgentPackage_same packageId _ _ _ read
    cases result with
    | error e =>
      rw [bind_of_error read]
      exact .same same unpublished unretired
    | ok found =>
      rw [bind_of_ok read]
      obtain ⟨stored_row, state⟩ := findAgentPackage_ok read
      cases found with
      | none => exact .same same unpublished unretired
      | some package =>
        have own : package.packageId = packageId := Table.find_key stored_row.symm
        dsimp only
        split
        · exact .same same unpublished unretired
        · rename_i current
          have touched := evolves_rescue (acceptValidation_touches env origin stored package)
            (rejectValidation_touches origin package) (touched_trans package.packageId) middle _ _ rfl
          rw [state, own] at touched
          rcases touched with quiet | written
          · exact .same quiet unpublished unretired
          · refine .rewritten packageId written (Or.inr ⟨package, stored_row.symm⟩) ?_
              unpublished unretired
            rintro (⟨row, stored_as, status⟩ | default)
            · cases stored_row.trans stored_as
              exact absurd status current
            · exact default

theorem checkPublication_none {package : AgentPackageRow} {channel : String}
    (passed : checkPublication package channel = none) :
    (channel = "stable" → package.buildType ≠ "debug") ∧ package.status ≠ .retired := by
  unfold checkPublication at passed
  split at passed
  · cases passed
  · split at passed
    · cases passed
    · rename_i debug
      split at passed
      · cases passed
      · rename_i current
        exact ⟨fun stable build => debug ⟨stable, build⟩, current⟩

/-- The part of a publish request behind its checks. -/
theorem published_change {env : Environment} {depot : Depot} {body packageId : String}
    {origin : Origin} {faults : List (Option Fault)} {middle : Session Depot}
    {package : AgentPackageRow} {input : PublishRequestBody}
    (read : findAgentPackage packageId ⟨depot, faults⟩ = (.ok (some package), middle))
    (status : package.status = .validated ∨ package.status = .published)
    (parsed : parsePublishRequestBody env.json body = .ok input)
    (passed : checkPublication package (channelOf input) = none)
    (unretired : ∀ other, ¬ RetiresIn depot ⟨.publish body packageId, origin, faults⟩ other) :
    Change env depot ⟨.publish body packageId, origin, faults⟩
      ((do
        publishAgentPackage packageId (packageSlot package (channelOf input)) input.publishedBy
          origin.now
        audit origin 0 .packagePublished packageId "success"
          [("package_id", packageId), ("channel", channelOf input)]
        answerPackage packageId : Job Depot (Answer AgentPackageRow)) middle).2.state := by
  obtain ⟨stored_row, state⟩ := findAgentPackage_ok read
  obtain ⟨undebugged, current⟩ := checkPublication_none passed
  cases wrote : publishAgentPackage packageId (packageSlot package (channelOf input))
      input.publishedBy origin.now middle with
  | mk result written =>
    cases result with
    | error e =>
      have kept : written.state = middle.state :=
        publishAgentPackage_atomic _ _ _ _ middle e written wrote
      rw [bind_of_error wrote]
      refine .same ?_ ?_ unretired
      · rw [show written.state = depot from kept.trans state]
        exact sameShelves_refl depot
      · rintro other slot ⟨body', package', read', input', final, request, found, _, parsed', _,
          rfl, wrote'⟩
        cases request
        rw [read] at found
        cases found
        rw [parsed] at parsed'
        cases parsed'
        rw [wrote] at wrote'
        cases wrote'
    | ok u =>
      rw [bind_of_ok wrote]
      have publishes := publishAgentPackage_ok wrote
      rw [state] at publishes
      have rest := evolves_trans (audit_same origin 0 .packagePublished packageId "success"
          [("package_id", packageId), ("channel", channelOf input)])
        (fun _ => answerPackage_same packageId) sameShelves_trans written _ _ rfl
      refine @Change.published env depot _ _ packageId (channelOf input) package
        input.publishedBy origin.now stored_row.symm current undebugged ?_ ?_ unretired
      · exact ⟨publishes.found, rest.1.trans publishes.packages,
          publishes.publications.trans (congrArg some rest.2.symm)⟩
      · intro other slot
        constructor
        · rintro ⟨body', package', read', input', final, request, found, _, parsed', _, rfl, _⟩
          cases request
          rw [read] at found
          cases found
          rw [parsed] at parsed'
          cases parsed'
          exact ⟨rfl, rfl⟩
        · rintro ⟨rfl, rfl⟩
          exact ⟨body, package, middle, input, written, rfl, read, status, parsed, passed, rfl,
            wrote⟩

theorem publish_change (env : Environment) (depot : Depot) (body packageId : String)
    (origin : Origin) (faults : List (Option Fault)) :
    Change env depot ⟨.publish body packageId, origin, faults⟩
      (step env depot ⟨.publish body packageId, origin, faults⟩) := by
  have unretired : ∀ other,
      ¬ RetiresIn depot ⟨.publish body packageId, origin, faults⟩ other := by
    intro other retires
    cases retires_request retires
  have final : step env depot ⟨.publish body packageId, origin, faults⟩ =
      (publishPackage env origin body packageId ⟨depot, faults⟩).2.state :=
    congrArg Session.state (recover_state _ _ _)
  rw [final]
  unfold publishPackage
  cases read : findAgentPackage packageId ⟨depot, faults⟩ with
  | mk result middle =>
    have same : SameShelves depot middle.state := findAgentPackage_same packageId _ _ _ read
    cases result with
    | error e =>
      rw [bind_of_error read]
      refine .same same ?_ unretired
      rintro other slot ⟨_, _, _, _, _, request, found, _⟩
      cases request
      rw [read] at found
      cases found
    | ok stored =>
      rw [bind_of_ok read]
      cases stored with
      | none =>
        refine .same same ?_ unretired
        rintro other slot ⟨_, _, _, _, _, request, found, _⟩
        cases request
        rw [read] at found
        cases found
      | some package =>
        dsimp only
        split
        · rename_i early
          refine .same same ?_ unretired
          rintro other slot ⟨_, _, _, _, _, request, found, status, _⟩
          cases request
          rw [read] at found
          cases found
          exact status.elim early.1 early.2
        · rename_i late
          cases parsed : parsePublishRequestBody env.json body with
          | error message =>
            refine .same same ?_ unretired
            rintro other slot ⟨_, _, _, _, _, request, _, _, parsed', _⟩
            cases request
            rw [parsed] at parsed'
            cases parsed'
          | ok input =>
            rw [ofExcept_bind]
            cases passed : checkPublication package (channelOf input) with
            | some refusal =>
              refine .same same ?_ unretired
              rintro other slot ⟨_, _, _, _, _, request, found, _, parsed', passed', _⟩
              cases request
              rw [read] at found
              cases found
              rw [parsed] at parsed'
              cases parsed'
              rw [passed] at passed'
              cases passed'
            | none =>
              have status : package.status = .validated ∨ package.status = .published := by
                by_cases validated : package.status = .validated
                · exact Or.inl validated
                · exact Or.inr (not_not.mp fun unpublished => late ⟨validated, unpublished⟩)
              exact published_change read status parsed passed unretired

theorem retire_change (env : Environment) (depot : Depot) (packageId : String)
    (origin : Origin) (faults : List (Option Fault)) :
    Change env depot ⟨.retire packageId, origin, faults⟩
      (step env depot ⟨.retire packageId, origin, faults⟩) := by
  have unpublished : ∀ other slot,
      ¬ PublishesIn env depot ⟨.retire packageId, origin, faults⟩ other slot := by
    intro other slot publishes
    obtain ⟨_, request⟩ := publishes_request publishes
    cases request
  have final : step env depot ⟨.retire packageId, origin, faults⟩ =
      (retirePackage origin packageId ⟨depot, faults⟩).2.state :=
    congrArg Session.state (recover_state _ _ _)
  rw [final]
  unfold retirePackage
  cases read : findAgentPackage packageId ⟨depot, faults⟩ with
  | mk result middle =>
    have same : SameShelves depot middle.state := findAgentPackage_same packageId _ _ _ read
    cases result with
    | error e =>
      rw [bind_of_error read]
      refine .same same unpublished ?_
      rintro other ⟨_, _, _, request, found, _⟩
      cases request
      rw [read] at found
      cases found
    | ok stored =>
      rw [bind_of_ok read]
      cases stored with
      | none =>
        refine .same same unpublished ?_
        rintro other ⟨_, _, _, request, found, _⟩
        cases request
        rw [read] at found
        cases found
      | some package =>
        dsimp only
        have state := (findAgentPackage_ok read).2
        cases wrote : retireAgentPackage packageId origin.now middle with
        | mk result written =>
          cases result with
          | error e =>
            have kept : written.state = middle.state :=
              retireAgentPackage_atomic _ _ middle e written wrote
            rw [bind_of_error wrote]
            refine .same ?_ unpublished ?_
            · rw [show written.state = depot from kept.trans state]
              exact sameShelves_refl depot
            · rintro other ⟨_, _, _, request, found, wrote'⟩
              cases request
              rw [read] at found
              cases found
              rw [wrote] at wrote'
              cases wrote'
          | ok u =>
            rw [bind_of_ok wrote]
            have retires := retireAgentPackage_ok wrote
            rw [state] at retires
            have rest := evolves_trans (audit_same origin 0 .packageRetired packageId "success"
                [("package_id", packageId)])
              (fun _ => answerPackage_same packageId) sameShelves_trans written _ _ rfl
            refine @Change.retired env depot _ _ packageId origin.now ?_ unpublished ?_
            · exact ⟨retires.found, rest.1.trans retires.packages,
                rest.2.trans retires.publications⟩
            · intro other
              constructor
              · intro retires
                cases retires_request retires
                rfl
              · rintro rfl
                exact ⟨package, middle, written, rfl, read, wrote⟩

theorem step_change (env : Environment) (depot : Depot) (call : Call) :
    Change env depot call (step env depot call) := by
  obtain ⟨request, origin, faults⟩ := call
  cases request with
  | upload upload => exact upload_change env depot upload origin faults
  | validate stored packageId => exact validate_change env depot stored packageId origin faults
  | publish body packageId => exact publish_change env depot body packageId origin faults
  | retire packageId => exact retire_change env depot packageId origin faults

/-! The invariant -/

/-- Every default belongs to a published package, in a slot of that package. -/
structure Orderly (shelf : Shelf) : Prop where
  plain : ∀ packageId row, shelf.depot.packages.find packageId = some row → Plain packageId
  named : ∀ p ∈ shelf.depot.publications.table.rows,
    p.publicationId = publicationId p.packageId p.slot ∧ Plain p.packageId
  defaults : ∀ p ∈ shelf.depot.publications.table.rows, p.isDefault = true →
    ∃ row, shelf.depot.packages.find p.packageId = some row ∧ row.status = .published ∧
      p.slot = packageSlot row p.slot.channel
  stable : ∀ p ∈ shelf.depot.publications.table.rows, p.isDefault = true →
    p.slot.channel = "stable" → p.slot.buildType ≠ "debug"
  latest : ∀ slot packageId, shelf.latest slot packageId →
    ∃ p ∈ shelf.depot.publications.table.rows, p.isDefault = true ∧ p.slot = slot ∧
      p.packageId = packageId

theorem orderly_empty : Orderly .empty where
  plain := by simp [Shelf.empty, Depot.empty]
  named := by simp [Shelf.empty, Depot.empty, Publications.empty, Table.empty]
  defaults := by simp [Shelf.empty, Depot.empty, Publications.empty, Table.empty]
  stable := by simp [Shelf.empty, Depot.empty, Publications.empty, Table.empty]
  latest := fun _ _ never => never.elim

theorem publicationId_toList (packageId : String) (slot : Slot) :
    (publicationId packageId slot).toList = packageId.toList ++ ':' :: (slot.channel.toList ++
      ':' :: (slot.platform.toList ++ ':' :: (slot.arch.toList ++
      ':' :: slot.buildType.toList))) := by
  simp [publicationId, String.toList_append]

/-- The package of a publication can be read off its id. -/
theorem publicationId_package {packageId packageId' : String} {slot slot' : Slot}
    (plain : Plain packageId) (plain' : Plain packageId')
    (same : publicationId packageId slot = publicationId packageId' slot') :
    packageId = packageId' := by
  have texts := congrArg String.toList same
  rw [publicationId_toList, publicationId_toList] at texts
  have front : ∀ {id : String} {rest : List Char}, Plain id →
      (id.toList ++ ':' :: rest).takeWhile (· ≠ ':') = id.toList := by
    intro id rest plain
    rw [List.takeWhile_append_of_pos]
    · simp
    · intro c inside
      have other : c ≠ ':' := fun colon => plain (colon ▸ inside)
      simpa using other
  have fronts := congrArg (List.takeWhile (· ≠ ':')) texts
  rw [front plain, front plain'] at fronts
  exact String.toList_inj.mp fronts

/-- And of one package the channel. -/
theorem publicationId_channel {packageId : String} {package : AgentPackageRow}
    {channel channel' : String}
    (same : publicationId packageId (packageSlot package channel) =
      publicationId packageId (packageSlot package channel')) : channel = channel' := by
  have texts := congrArg String.toList same
  rw [publicationId_toList, publicationId_toList] at texts
  simp only [packageSlot, List.append_cancel_left_eq, List.cons.injEq, true_and,
    List.append_cancel_right_eq] at texts
  exact String.toList_inj.mp texts

/-- What is left of the publications behind a new one. -/
theorem mem_published {publications after : Publications} {slot : Slot} {row : PublicationRow}
    (put : (publications.clear (isDefaultOf slot)).put row = some after) {p : PublicationRow} :
    p ∈ after.table.rows ↔ p = row ∨
      (∃ q ∈ publications.table.rows, (if isDefaultOf slot q then undefault q else q) = p) ∧
        p.publicationId ≠ row.publicationId := by
  unfold Publications.put at put
  split at put
  · cases put
  · cases put
    rw [Table.mem_put]
    exact or_congr_right (and_congr_left fun _ => Publications.mem_clear)

/-- A default behind a publication is that publication or was one of another slot. -/
theorem default_published {publications after : Publications} {slot : Slot}
    {row : PublicationRow}
    (put : (publications.clear (isDefaultOf slot)).put row = some after) {p : PublicationRow}
    (member : p ∈ after.table.rows) (default : p.isDefault = true) :
    p = row ∨ (p ∈ publications.table.rows ∧ p.slot ≠ slot) := by
  rcases (mem_published put).mp member with rfl | ⟨⟨q, earlier, rfl⟩, _⟩
  · exact Or.inl rfl
  · right
    by_cases chosen : isDefaultOf slot q = true
    · simp [chosen, undefault] at default
    · rw [if_neg chosen] at default ⊢
      refine ⟨earlier, fun same => chosen ?_⟩
      simp [isDefaultOf, same, default]

theorem mem_cleared {publications : Publications} {packageId : String} {p : PublicationRow}
    (member : p ∈ (publications.clear fun row => row.packageId = packageId).table.rows)
    (default : p.isDefault = true) :
    p ∈ publications.table.rows ∧ p.packageId ≠ packageId := by
  obtain ⟨q, earlier, rfl⟩ := Publications.mem_clear.mp member
  by_cases chosen : q.packageId = packageId
  · simp [chosen, undefault] at default
  · simp only [chosen, decide_false, Bool.false_eq_true, if_false]
    exact ⟨earlier, chosen⟩

variable {env : Environment} {shelf : Shelf} {call : Call}

/-- Nothing but the packages and publications of the last step is looked at. -/
theorem orderly_of_same (orderly : Orderly shelf) {after : Shelf}
    (same : SameShelves shelf.depot after.depot)
    (latest : ∀ slot packageId, after.latest slot packageId → shelf.latest slot packageId) :
    Orderly after where
  plain := by
    rw [same.1]
    exact orderly.plain
  named := by
    rw [same.2]
    exact orderly.named
  defaults := by
    rw [same.1, same.2]
    exact orderly.defaults
  stable := by
    rw [same.2]
    exact orderly.stable
  latest := by
    rw [same.2]
    exact fun slot packageId later => orderly.latest slot packageId (latest slot packageId later)

/-- Without a publication the remembered ones can only be fewer. -/
theorem latest_unpublished
    (unpublished : ∀ other slot, ¬ PublishesIn env shelf.depot call other slot) {slot : Slot}
    {packageId : String} (later : (advance env shelf call).latest slot packageId) :
    shelf.latest slot packageId ∧ ¬ RetiresIn shelf.depot call packageId := by
  rcases later with publishes | ⟨earlier, _, unretired⟩
  · exact absurd publishes (unpublished _ _)
  · exact ⟨earlier, unretired⟩

theorem orderly_rewritten (orderly : Orderly shelf) {packageId : String}
    (written : Rewritten packageId shelf.depot (step env shelf.depot call))
    (plain : Plain packageId ∨ ∃ row, shelf.depot.packages.find packageId = some row)
    (unmarked : ¬ Marked shelf.depot packageId)
    (unpublished : ∀ other slot, ¬ PublishesIn env shelf.depot call other slot) :
    Orderly (advance env shelf call) := by
  obtain ⟨publications, row, own, unpublishedRow, unretiredRow, find⟩ := written
  have defaults_elsewhere : ∀ p ∈ shelf.depot.publications.table.rows, p.isDefault = true →
      p.packageId ≠ packageId :=
    fun p member default same => unmarked (Or.inr ⟨p, member, default, same⟩)
  constructor
  · intro k row' found
    change (step env shelf.depot call).packages.find k = some row' at found
    rw [find] at found
    split at found
    · rename_i same
      rw [same]
      exact plain.elim id fun known => orderly.plain packageId _ known.choose_spec
    · exact orderly.plain k row' found
  · change ∀ p ∈ (step env shelf.depot call).publications.table.rows, _
    rw [publications]
    exact orderly.named
  · change ∀ p ∈ (step env shelf.depot call).publications.table.rows, _
    rw [publications]
    intro p member default
    obtain ⟨row', found, status, slot⟩ := orderly.defaults p member default
    refine ⟨row', ?_, status, slot⟩
    change (step env shelf.depot call).packages.find p.packageId = some row'
    rw [find, if_neg (defaults_elsewhere p member default), found]
  · change ∀ p ∈ (step env shelf.depot call).publications.table.rows, _
    rw [publications]
    exact orderly.stable
  · intro slot k later
    change ∃ p ∈ (step env shelf.depot call).publications.table.rows, _
    rw [publications]
    exact orderly.latest slot k (latest_unpublished unpublished later).1

theorem orderly_published (orderly : Orderly shelf) {packageId channel : String}
    {package : AgentPackageRow} {publishedBy : Option String} {publishedAt : String}
    (found : shelf.depot.packages.find packageId = some package)
    (undebugged : channel = "stable" → package.buildType ≠ "debug")
    (published : PublishedIn packageId (packageSlot package channel) publishedBy publishedAt
      shelf.depot (step env shelf.depot call))
    (publishes : ∀ other slot, PublishesIn env shelf.depot call other slot ↔
      other = packageId ∧ slot = packageSlot package channel) :
    Orderly (advance env shelf call) := by
  have find : ∀ k, (step env shelf.depot call).packages.find k =
      if k = packageId then some (publish publishedAt package)
      else shelf.depot.packages.find k := by
    intro k
    rw [published.packages]
    exact find_updatePackage (publish_packageId publishedAt) found k
  have plain := orderly.plain packageId package found
  constructor
  · intro k row found'
    change (step env shelf.depot call).packages.find k = some row at found'
    rw [find] at found'
    split at found'
    · rename_i same
      rw [same]
      exact plain
    · exact orderly.plain k row found'
  · intro p member
    rcases (mem_published published.publications).mp member with rfl | ⟨⟨q, earlier, rfl⟩, _⟩
    · exact ⟨rfl, plain⟩
    · have before := orderly.named q earlier
      split
      · exact before
      · exact before
  · intro p member default
    change ∃ row, (step env shelf.depot call).packages.find p.packageId = some row ∧ _
    rcases default_published published.publications member default with rfl | ⟨earlier, _⟩
    · exact ⟨publish publishedAt package, by rw [find]; exact if_pos rfl, rfl, rfl⟩
    · obtain ⟨row, stored, status, slot⟩ := orderly.defaults p earlier default
      by_cases same : p.packageId = packageId
      · rw [same, found] at stored
        cases stored
        exact ⟨publish publishedAt package, by rw [find, if_pos same], rfl, slot⟩
      · exact ⟨row, by rw [find, if_neg same, stored], status, slot⟩
  · intro p member default stable
    rcases default_published published.publications member default with rfl | ⟨earlier, _⟩
    · exact undebugged stable
    · exact orderly.stable p earlier default stable
  · intro slot k later
    change ∃ p ∈ (step env shelf.depot call).publications.table.rows, _
    rcases later with publication | ⟨earlier, unpublished, _⟩
    · obtain ⟨rfl, rfl⟩ := (publishes k slot).mp publication
      exact ⟨_, (mem_published published.publications).mpr (Or.inl rfl), rfl, rfl, rfl⟩
    · obtain ⟨q, member, default, inSlot, ofPackage⟩ := orderly.latest slot k earlier
      have elsewhere : q.slot ≠ packageSlot package channel := by
        intro same
        exact unpublished packageId ((publishes packageId slot).mpr
          ⟨rfl, inSlot.symm.trans same⟩)
      have kept : isDefaultOf (packageSlot package channel) q = false := by
        simp [isDefaultOf, elsewhere]
      refine ⟨q, (mem_published published.publications).mpr (Or.inr ⟨⟨q, member, ?_⟩, ?_⟩),
        default, inSlot, ofPackage⟩
      · rw [kept]
        rfl
      · -- only another publication of the package could share the id, and its channel differs
        intro same
        obtain ⟨named, plain'⟩ := orderly.named q member
        rw [named] at same
        have samePackage : q.packageId = packageId := publicationId_package plain' plain same
        obtain ⟨row, stored, _, slotOf⟩ := orderly.defaults q member default
        rw [samePackage, found] at stored
        cases stored
        rw [samePackage, slotOf] at same
        have channels : q.slot.channel = channel := publicationId_channel same
        rw [channels] at slotOf
        exact elsewhere slotOf

theorem orderly_retired (orderly : Orderly shelf) {packageId retiredAt : String}
    (retired : RetiredIn packageId retiredAt shelf.depot (step env shelf.depot call))
    (unpublished : ∀ other slot, ¬ PublishesIn env shelf.depot call other slot)
    (retires : ∀ other, RetiresIn shelf.depot call other ↔ other = packageId) :
    Orderly (advance env shelf call) := by
  obtain ⟨package, found⟩ := retired.found
  have find : ∀ k, (step env shelf.depot call).packages.find k =
      if k = packageId then some (retire retiredAt package)
      else shelf.depot.packages.find k := by
    intro k
    rw [retired.packages]
    exact find_updatePackage (retire_packageId retiredAt) found k
  constructor
  · intro k row found'
    change (step env shelf.depot call).packages.find k = some row at found'
    rw [find] at found'
    split at found'
    · rename_i same
      rw [same]
      exact orderly.plain packageId package found
    · exact orderly.plain k row found'
  · change ∀ p ∈ (step env shelf.depot call).publications.table.rows, _
    rw [retired.publications]
    intro p member
    obtain ⟨q, earlier, rfl⟩ := Publications.mem_clear.mp member
    have before := orderly.named q earlier
    split
    · exact before
    · exact before
  · change ∀ p ∈ (step env shelf.depot call).publications.table.rows, _
    rw [retired.publications]
    intro p member default
    obtain ⟨earlier, other⟩ := mem_cleared member default
    obtain ⟨row, stored, status, slot⟩ := orderly.defaults p earlier default
    refine ⟨row, ?_, status, slot⟩
    change (step env shelf.depot call).packages.find p.packageId = some row
    rw [find, if_neg other, stored]
  · change ∀ p ∈ (step env shelf.depot call).publications.table.rows, _
    rw [retired.publications]
    intro p member default
    exact orderly.stable p (mem_cleared member default).1 default
  · intro slot k later
    change ∃ p ∈ (step env shelf.depot call).publications.table.rows, _
    obtain ⟨earlier, unretired⟩ := latest_unpublished unpublished later
    obtain ⟨q, member, default, inSlot, ofPackage⟩ := orderly.latest slot k earlier
    have other : q.packageId ≠ packageId := by
      intro same
      exact unretired ((retires k).mpr (ofPackage.symm.trans same))
    refine ⟨q, ?_, default, inSlot, ofPackage⟩
    rw [retired.publications]
    exact Publications.mem_clear.mpr ⟨q, member, by simp [other]⟩

theorem orderly_advance (orderly : Orderly shelf)
    (calm : ¬ Overwrites env shelf.depot call) : Orderly (advance env shelf call) := by
  cases step_change env shelf.depot call with
  | same same unpublished _ =>
    exact orderly_of_same orderly same fun _ _ later => (latest_unpublished unpublished later).1
  | rewritten packageId written plain marked unpublished _ =>
    exact orderly_rewritten orderly written plain (fun mark => calm (marked mark)) unpublished
  | published packageId channel package publishedBy publishedAt found _ undebugged published
      publishes _ =>
    exact orderly_published orderly found undebugged published publishes
  | retired packageId retiredAt retired unpublished retires =>
    exact orderly_retired orderly retired unpublished retires

/-- A package that was retired before the request still is. -/
theorem retired_stays {row : AgentPackageRow} (calm : ¬ Overwrites env shelf.depot call)
    (stored : shelf.depot.packages.find row.packageId = some row) (status : row.status = .retired) :
    ∃ row', (step env shelf.depot call).packages.find row.packageId = some row' ∧
      row'.status = .retired := by
  cases step_change env shelf.depot call with
  | same same _ _ => exact ⟨row, by rw [same.1, stored], status⟩
  | rewritten packageId written _ marked _ _ =>
    obtain ⟨_, row', _, _, _, find⟩ := written
    have other : row.packageId ≠ packageId := by
      rintro rfl
      exact calm (marked (Or.inl ⟨row, stored, status⟩))
    exact ⟨row, by rw [find, if_neg other, stored], status⟩
  | published packageId channel package publishedBy publishedAt found current _ published _ _ =>
    have other : row.packageId ≠ packageId := by
      rintro rfl
      rw [stored] at found
      cases found
      exact current status
    refine ⟨row, ?_, status⟩
    rw [published.packages, find_updatePackage (publish_packageId publishedAt) found,
      if_neg other, stored]
  | retired packageId retiredAt retired _ _ =>
    obtain ⟨package, found⟩ := retired.found
    rw [retired.packages, find_updatePackage (retire_packageId retiredAt) found]
    by_cases same : row.packageId = packageId
    · exact ⟨_, if_pos same, rfl⟩
    · exact ⟨row, by rw [if_neg same, stored], status⟩

/-- In an orderly state everything that is asked for holds. -/
theorem kept_of_orderly (calm : ¬ Overwrites env shelf.depot call)
    (orderly : Orderly (advance env shelf call)) :
    Kept shelf.depot (advance env shelf call) where
  one_default := (advance env shelf call).depot.publications.one_default
  published := by
    intro p member default
    obtain ⟨row, found, status, _⟩ := orderly.defaults p member default
    exact ⟨row, found, status⟩
  found := by
    intro slot packageId later
    obtain ⟨p, member, default, inSlot, ofPackage⟩ := orderly.latest slot packageId later
    obtain ⟨row, found, status, _⟩ := orderly.defaults p member default
    refine ⟨row, (Table.find_key found).trans ofPackage, ?_⟩
    have looked := findDefaultPublishedAgentPackage_succeeds slot (advance env shelf call).depot
    rw [defaultPublished_iff.mpr ⟨p, member, default, inSlot, found, status⟩] at looked
    exact looked
  retired := by
    intro row stored status
    obtain ⟨row', stored', status'⟩ := retired_stays calm stored status
    refine ⟨⟨row', stored', status'⟩, ?_⟩
    rintro p member default same
    obtain ⟨other, found, published, _⟩ := orderly.defaults p member default
    rw [same] at found
    cases found.symm.trans stored'
    rw [status'] at published
    cases published
  stable := by
    intro p member default stable
    have undebugged := orderly.stable p member default stable
    refine ⟨undebugged, ?_⟩
    intro row stored debug
    obtain ⟨row', found, _, slot⟩ := orderly.defaults p member default
    cases found.symm.trans stored
    rw [slot] at undebugged
    exact undebugged debug

/-! The other direction, when the engine lets every statement through -/

/-- The package is there and neither published nor retired. -/
def Lowered (packageId : String) (depot : Depot) : Prop :=
  ∃ row, depot.packages.find packageId = some row ∧ row.status ≠ .published ∧
    row.status ≠ .retired

theorem touched_lowered {packageId : String} {before after : Depot}
    (touched : Touched packageId before after) (lowered : Lowered packageId before) :
    Lowered packageId after := by
  rcases touched with same | ⟨_, row, _, unpublished, unretired, find⟩
  · unfold Lowered
    rw [same.1]
    exact lowered
  · exact ⟨row, by rw [find, if_pos rfl], unpublished, unretired⟩

/-- A job that begins by writing the package leaves it lowered. -/
theorem lowers_of_upsert {α : Type} {row : AgentPackageRow} {rest : Unit → Job Depot α}
    (unpublished : row.status ≠ .published) (unretired : row.status ≠ .retired)
    (touches : ∀ u, Evolves (Touched row.packageId) (rest u)) (depot : Depot) :
    Lowered row.packageId ((upsertAgentPackage row >>= rest) ⟨depot, []⟩).2.state := by
  rw [succeeds_then (upsertAgentPackage_succeeds row depot)]
  refine touched_lowered (touches () _ _ _ rfl) ⟨row, ?_, unpublished, unretired⟩
  rw [Table.find_put, if_pos rfl]

theorem rejectValidation_lowers (origin : Origin) (package : AgentPackageRow) (e : Failure)
    (depot : Depot) :
    Lowered package.packageId (rejectValidation origin package e ⟨depot, []⟩).2.state := by
  refine @lowers_of_upsert _ (rejectedRow package) _ (by simp [rejectedRow])
    (by simp [rejectedRow]) (fun _ => ?_) depot
  apply bind_touches (same_touches _ (audit_same _ _ _ _ _ _))
  intro _
  exact evolves_pure (touched_refl _) _

theorem acceptValidation_lowers {env : Environment} {stored : Except String Archive}
    {package : AgentPackageRow} {metadata : AgentPackageMetadata} (origin : Origin)
    (checked : validateAgentPackageUpload env.json stored package.filename = .ok metadata)
    (depot : Depot) :
    Lowered package.packageId
      (acceptValidation env origin stored package ⟨depot, []⟩).2.state := by
  unfold acceptValidation
  rw [checked, ofExcept_bind]
  refine @lowers_of_upsert _ (validatedRow package metadata origin.now) _
    (by simp [validatedRow]) (by simp [validatedRow]) (fun _ => ?_) depot
  apply bind_touches (same_touches _ (audit_same _ _ _ _ _ _))
  intro _
  exact same_touches _ (answerPackage_same _)

theorem validate_lowers {packageId : String} {package : AgentPackageRow} {depot : Depot}
    (found : depot.packages.find packageId = some package) (current : package.status ≠ .retired)
    (stored : Except String Archive) (origin : Origin) :
    Lowered packageId (step env depot ⟨.validate stored packageId, origin, []⟩) := by
  have own := Table.find_key found
  have final : step env depot ⟨.validate stored packageId, origin, []⟩ =
      (validatePackage env origin stored packageId ⟨depot, []⟩).2.state :=
    congrArg Session.state (recover_state _ _ _)
  rw [final]
  unfold validatePackage
  rw [succeeds_then (findAgentPackage_succeeds packageId depot), found]
  simp only [current, if_false]
  cases ran : acceptValidation env origin stored package ⟨depot, []⟩ with
  | mk result middle =>
    cases checked : validateAgentPackageUpload env.json stored package.filename with
    | error message =>
      have thrown : acceptValidation env origin stored package ⟨depot, []⟩ =
          (.error (.error message), ⟨depot, []⟩) := by
        unfold acceptValidation
        rw [checked]
        rfl
      rw [rescue_of_error thrown, ← own]
      exact rejectValidation_lowers origin package _ depot
    | ok metadata =>
      have lowered := acceptValidation_lowers origin checked depot
      rw [ran] at lowered
      cases result with
      | ok answer =>
        rw [rescue_of_ok ran, ← own]
        exact lowered
      | error e =>
        rw [rescue_of_error ran, ← own]
        exact touched_lowered (rejectValidation_touches origin package e middle _ _ rfl) lowered

theorem upload_lowers {upload : Upload} (accepted : Accepted env upload) (origin : Origin)
    (depot : Depot) :
    Lowered upload.packageId.text (step env depot ⟨.upload upload, origin, []⟩) := by
  obtain ⟨nonempty, ⟨path, safe⟩, metadata, checked⟩ := accepted
  have final : step env depot ⟨.upload upload, origin, []⟩ =
      (commitAgentPackageUpload env origin upload ⟨depot, []⟩).2.state :=
    congrArg Session.state (recover_state _ _ _)
  rw [final]
  unfold commitAgentPackageUpload
  rw [if_neg nonempty, recover_state]
  unfold storeUpload
  rw [safe, ofExcept_bind, checked, ofExcept_bind]
  let uploaded := uploadedRow upload.packageId.text upload.filename path origin.now metadata
  refine @lowers_of_upsert _ uploaded _ (by simp [uploaded, uploadedRow])
    (by simp [uploaded, uploadedRow]) (fun _ => ?_) depot
  have second := @upsertAgentPackage_touches
    { uploaded with status := .validated, validatedAt := some origin.now } (by simp) (by simp)
  apply bind_touches second
  intro _
  apply bind_touches (same_touches _ (audit_same _ _ _ _ _ _))
  intro _
  exact evolves_pure (touched_refl _) _

/-- Only publish and retire requests write the publications. -/
theorem publications_same (unpublished : ∀ body packageId, call.request ≠ .publish body packageId)
    (unretired : ∀ packageId, call.request ≠ .retire packageId) :
    (step env shelf.depot call).publications = shelf.depot.publications := by
  cases step_change env shelf.depot call with
  | same same _ _ => exact same.2
  | rewritten _ written _ _ _ _ => exact written.1
  | published packageId channel package _ _ _ _ _ _ publishes _ =>
    obtain ⟨body, request⟩ := publishes_request ((publishes packageId _).mpr ⟨rfl, rfl⟩)
    exact absurd request (unpublished body packageId)
  | retired packageId _ _ _ retires =>
    exact absurd (retires_request ((retires packageId).mpr rfl)) (unretired packageId)

/-- A marked package that is lowered breaks what is asked for. -/
theorem lowered_breaks {packageId : String}
    (same : (step env shelf.depot call).publications = shelf.depot.publications)
    (marked : Marked shelf.depot packageId)
    (lowered : Lowered packageId (step env shelf.depot call)) :
    ¬ Kept shelf.depot (advance env shelf call) := by
  intro kept
  obtain ⟨row, found, unpublished, unretired⟩ := lowered
  rcases marked with ⟨row', stored, status⟩ | ⟨p, member, default, rfl⟩
  · have own := Table.find_key stored
    rw [← own] at stored found
    obtain ⟨⟨later, found', status'⟩, _⟩ := kept.retired row' stored status
    cases found.symm.trans found'
    exact unretired status'
  · obtain ⟨later, found', status'⟩ := kept.published p
      (show p ∈ (step env shelf.depot call).publications.table.rows from same ▸ member) default
    cases found.symm.trans found'
    exact unpublished status'

theorem overwrites_breaks (orderly : Orderly shelf) (reliable : call.faults = [])
    (overwrites : Overwrites env shelf.depot call) :
    ¬ Kept shelf.depot (advance env shelf call) := by
  obtain ⟨request, origin, faults⟩ := call
  obtain rfl : faults = [] := reliable
  cases request with
  | upload upload =>
    exact lowered_breaks (publications_same (by simp) (by simp)) overwrites.2
      (upload_lowers overwrites.1 origin shelf.depot)
  | validate stored packageId =>
    obtain ⟨p, member, default, rfl⟩ := overwrites
    obtain ⟨row, found, status, _⟩ := orderly.defaults p member default
    exact lowered_breaks (publications_same (by simp) (by simp))
      (Or.inr ⟨p, member, default, rfl⟩)
      (validate_lowers found (by simp [status]) stored origin)
  | publish body packageId => exact overwrites.elim
  | retire packageId => exact overwrites.elim

/-! Whole runs -/

/-- From the empty database everything that is asked for holds behind every request when no
    request overwrites a default or retired package, whatever the engine answers; and when
    it lets every statement through, only then. -/
theorem publications_kept_iff (env : Environment) (calls : List Call) :
    (Runs.AllSteps (advance env) .empty calls
        (fun shelf call => ¬ Overwrites env shelf.depot call) →
      Runs.AllSteps (advance env) .empty calls
        (fun shelf call => Kept shelf.depot (advance env shelf call))) ∧
    ((∀ call ∈ calls, call.faults = []) →
      (Runs.AllSteps (advance env) .empty calls
          (fun shelf call => Kept shelf.depot (advance env shelf call)) ↔
        Runs.AllSteps (advance env) .empty calls
          (fun shelf call => ¬ Overwrites env shelf.depot call))) := by
  constructor
  · intro calm before call after split
    have orderly : Orderly (Runs.run (advance env) .empty before) := by
      refine Runs.run_invariant Orderly (fun shelf call => ¬ Overwrites env shelf.depot call)
        (fun _ _ => orderly_advance) ?_ orderly_empty
      rw [split] at calm
      exact Runs.allSteps_prefix calm
    have here := calm before call after split
    exact kept_of_orderly here (orderly_advance orderly here)
  · intro reliable
    refine Runs.allSteps_iff_sides_on calls (fun call => call.faults = []) reliable Orderly _ _
      orderly_empty (fun _ _ => orderly_advance) ?_
    intro shelf call reliable orderly
    constructor
    · intro kept overwrites
      exact overwrites_breaks orderly reliable overwrites kept
    · intro calm
      exact kept_of_orderly calm (orderly_advance orderly calm)

def releaseManifest : JsonObject
  | "schema_version" => some (.integer 2)
  | "component" => some (.text "agent")
  | "version" => some (.text "1.1.0")
  | "platform" => some (.text "linux")
  | "arch" => some (.text "x86_64")
  | "build_type" => some (.text "release")
  | "min_installer_version" => some (.text "1.0.0")
  | _ => none

def plainEnvironment : Environment where
  json := { parse := fun _ => .ok (some releaseManifest), files := fun _ => .ok [] }
  sha256BytesHex := fun text => text
  packageRepository := "packages"
  allowHighRiskWrite := true
  packageDownloadBaseUrl := "http://localhost"

def plainOrigin : Origin where
  now := "2026-05-24T10:00:00Z"
  taskId := "task-1"
  prerequisiteTaskId := "task-0"
  auditId := fun n => if n = 0 then "audit-0" else "audit-1"
  auditTime := fun _ => "2026-05-24T10:00:00Z"

def releaseArchive : Archive where
  entries := [⟨manifestPath, .ok ⟨2, ""⟩⟩]
  manifestJson := .ok "{}"
  sizeBytes := 2
  sha256 := ""

def releaseId : Uuid := ⟨"a1", by decide⟩

def uploadRelease : Call where
  request := .upload {
    packageId := releaseId
    filename := "zfleet_agent-v1.1.0-linux-x86_64-release.zip"
    uploadedBytes := 2
    stored := .ok releaseArchive }
  origin := plainOrigin
  faults := []

def publishRelease : Call where
  request := .publish "" "a1"
  origin := { plainOrigin with auditId := fun _ => "audit-2" }
  faults := []

def validateRelease : Call where
  request := .validate (.ok releaseArchive) "a1"
  origin := { plainOrigin with auditId := fun _ => "audit-3" }
  faults := []

/-- A published package that is validated again stays the default and is not published. -/
theorem revalidated_default_unpublished :
    ¬ Runs.AllSteps (advance plainEnvironment) .empty
      [uploadRelease, publishRelease, validateRelease]
      (fun shelf call => Kept shelf.depot (advance plainEnvironment shelf call)) := by
  intro kept
  have last := kept [uploadRelease, publishRelease] validateRelease [] rfl
  let final := Runs.run (advance plainEnvironment) .empty
    [uploadRelease, publishRelease, validateRelease]
  have broken : ∃ p ∈ final.depot.publications.table.rows, p.isDefault = true ∧
      (final.depot.packages.find p.packageId).map AgentPackageRow.status ≠ some .published := by
    decide
  obtain ⟨p, member, default, unpublished⟩ := broken
  obtain ⟨row, found, status⟩ := last.published p member default
  apply unpublished
  rw [show final.depot.packages.find p.packageId = some row from found, Option.map_some, status]

end PublicationLifecycle
