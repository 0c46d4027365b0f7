import ZFleet.Server.AgentStore

/-!
Packages and their publications. A publication makes a package the default of a slot; a
partial unique index allows one default for each slot. The default of a slot is looked up
in the join of the two tables, which asks for a published package.
-/
namespace PackageStore
open KeyedTables Transactions Schema

inductive PackageStatus where
  | uploaded
  | validated
  | published
  | retired
  | rejected
  deriving DecidableEq, Repr

structure AgentPackageRow where
  packageId : String
  component : String
  version : String
  platform : String
  arch : String
  buildType : String
  filename : String
  storagePath : String
  sizeBytes : Nat
  sha256 : String
  manifestJson : String
  status : PackageStatus
  uploadedAt : String
  validatedAt : Option String
  publishedAt : Option String
  retiredAt : Option String
  deriving DecidableEq, Repr

/-- The columns of the unique index. -/
structure Slot where
  component : String
  channel : String
  platform : String
  arch : String
  buildType : String
  deriving DecidableEq, Repr

structure PublicationRow where
  publicationId : String
  packageId : String
  slot : Slot
  isDefault : Bool
  publishedAt : String
  publishedBy : Option String
  deriving DecidableEq, Repr

/-- The table of publications with its partial unique index. -/
structure Publications where
  table : Table PublicationRow PublicationRow.publicationId
  one_default : ∀ p ∈ table.rows, ∀ q ∈ table.rows, p.isDefault = true → q.isDefault = true →
    p.slot = q.slot → p = q

def Publications.empty : Publications := ⟨.empty, by simp [Table.empty]⟩

def undefault (row : PublicationRow) : PublicationRow := { row with isDefault := false }

theorem undefault_publicationId (row : PublicationRow) :
    (undefault row).publicationId = row.publicationId := rfl

/-- Take the default away from the selected publications. -/
def Publications.clear (publications : Publications) (selects : PublicationRow → Bool) :
    Publications where
  table := publications.table.update selects undefault undefault_publicationId
  one_default := by
    intro p first q second default default' same
    obtain ⟨p', member, rfl⟩ := Table.mem_update.mp first
    obtain ⟨q', member', rfl⟩ := Table.mem_update.mp second
    by_cases chosen : selects p' = true
    · simp [chosen, undefault] at default
    · by_cases chosen' : selects q' = true
      · simp [chosen', undefault] at default'
      · simp only [chosen, chosen', Bool.false_eq_true, if_false] at default default' same ⊢
        exact publications.one_default p' member q' member' default default' same

theorem Publications.mem_clear {publications : Publications} {selects : PublicationRow → Bool}
    {p : PublicationRow} :
    p ∈ (publications.clear selects).table.rows ↔
      ∃ q ∈ publications.table.rows, (if selects q then undefault q else q) = p :=
  Table.mem_updated undefault_publicationId

/-- Another publication is the default of the row's slot. -/
def Publications.Taken (publications : Publications) (row : PublicationRow) : Prop :=
  row.isDefault = true ∧ ∃ q ∈ publications.table.rows, q.isDefault = true ∧ q.slot = row.slot ∧
    q.publicationId ≠ row.publicationId

instance (publications : Publications) (row : PublicationRow) :
    Decidable (publications.Taken row) := by
  unfold Publications.Taken
  infer_instance

theorem Publications.put_one_default {publications : Publications} {row : PublicationRow}
    (free : ¬ publications.Taken row) (p : PublicationRow)
    (first : p ∈ (publications.table.put row).rows) (q : PublicationRow)
    (second : q ∈ (publications.table.put row).rows) (default : p.isDefault = true)
    (default' : q.isDefault = true) (same : p.slot = q.slot) : p = q := by
  rcases Table.mem_put.mp first with rfl | ⟨member, other⟩
  · rcases Table.mem_put.mp second with rfl | ⟨member', other'⟩
    · rfl
    · exact absurd ⟨default, q, member', default', same.symm, other'⟩ free
  · rcases Table.mem_put.mp second with rfl | ⟨member', other'⟩
    · exact absurd ⟨default', p, member, default, same, other⟩ free
    · exact publications.one_default p member q member' default default' same

/-- `insert ... on conflict(publication_id) do update`, refused by the index. -/
def Publications.put (publications : Publications) (row : PublicationRow) :
    Option Publications :=
  if taken : publications.Taken row then none
  else some ⟨publications.table.put row, Publications.put_one_default taken⟩

/-- The server database with these two tables. -/
structure Depot where
  store : Store
  packages : Table AgentPackageRow AgentPackageRow.packageId
  publications : Publications

def Depot.empty : Depot := ⟨.empty, .empty, .empty⟩

/-- A call that knows the other tables only. -/
def onStore {α : Type} (job : Job Store α) : Job Depot α := fun s =>
  ((job ⟨s.state.store, s.faults⟩).1,
    ⟨{ s.state with store := (job ⟨s.state.store, s.faults⟩).2.state },
      (job ⟨s.state.store, s.faults⟩).2.faults⟩)

def submit {α : Type} (job : Job Depot α) : Job Depot α := retry busyRetryAttempts job

/-! The calls of the database -/

def upsertAgentPackage (package : AgentPackageRow) : Job Depot Unit :=
  submit <| execute fun depot => { depot with packages := depot.packages.put package }

def findAgentPackage (packageId : String) : Job Depot (Option AgentPackageRow) :=
  submit <| query fun depot => depot.packages.find packageId

/-- Latest upload first; packages uploaded together by their ids. -/
def listedBefore (p q : AgentPackageRow) : Bool :=
  q.uploadedAt < p.uploadedAt || (p.uploadedAt = q.uploadedAt && p.packageId ≤ q.packageId)

def listAgentPackages : Job Depot (List AgentPackageRow) :=
  submit <| query fun depot => depot.packages.rows.mergeSort listedBefore

/-- An update of packages reports how many rows it changed. -/
def updatePackage (packageId : String) (change : AgentPackageRow → AgentPackageRow)
    (keeps : ∀ r, (change r).packageId = r.packageId) : Job Depot Nat := statement fun depot =>
  .ok (depot.packages.changes fun r => r.packageId = packageId,
    { depot with
      packages := depot.packages.update (fun r => r.packageId = packageId) change keeps })

def clearDefaults (selects : PublicationRow → Bool) : Job Depot Unit :=
  execute fun depot => { depot with publications := depot.publications.clear selects }

def putPublication (row : PublicationRow) : Job Depot Unit := statement fun depot =>
  match depot.publications.put row with
  | some publications => .ok ((), { depot with publications := publications })
  | none => .error <| uniqueViolation <|
    "package_publications.component, package_publications.channel, " ++
    "package_publications.platform, package_publications.arch, package_publications.build_type"

def commit : Job Depot Unit := execute id

def publicationId (packageId : String) (slot : Slot) : String :=
  packageId ++ ":" ++ slot.channel ++ ":" ++ slot.platform ++ ":" ++ slot.arch ++ ":" ++
    slot.buildType

def publication (packageId : String) (slot : Slot) (publishedBy : Option String)
    (publishedAt : String) : PublicationRow where
  publicationId := publicationId packageId slot
  packageId := packageId
  slot := slot
  isDefault := true
  publishedAt := publishedAt
  publishedBy := publishedBy

def isDefaultOf (slot : Slot) (row : PublicationRow) : Bool := row.slot = slot && row.isDefault

def publish (publishedAt : String) (row : AgentPackageRow) : AgentPackageRow :=
  { row with status := .published, publishedAt := some publishedAt }

def retire (retiredAt : String) (row : AgentPackageRow) : AgentPackageRow :=
  { row with status := .retired, retiredAt := some retiredAt }

theorem publish_packageId (publishedAt : String) (row : AgentPackageRow) :
    (publish publishedAt row).packageId = row.packageId := rfl

theorem retire_packageId (retiredAt : String) (row : AgentPackageRow) :
    (retire retiredAt row).packageId = row.packageId := rfl

def publishBody (packageId : String) (slot : Slot) (publishedBy : Option String)
    (publishedAt : String) : Job Depot (Ending Unit) := do
  clearDefaults (isDefaultOf slot)
  putPublication (publication packageId slot publishedBy publishedAt)
  let changed ← updatePackage packageId (publish publishedAt) (publish_packageId _)
  if changed ≠ 1 then fail (.error "agent package not found for publish")
  else do
    commit
    pure (.committed ())

def publishAgentPackage (packageId : String) (slot : Slot) (publishedBy : Option String)
    (publishedAt : String) : Job Depot Unit :=
  submit <| transaction (publishBody packageId slot publishedBy publishedAt)

def retireBody (packageId retiredAt : String) : Job Depot (Ending Unit) := do
  let changed ← updatePackage packageId (retire retiredAt) (retire_packageId _)
  if changed ≠ 1 then fail (.error "agent package not found for retire")
  else do
    clearDefaults fun row => row.packageId = packageId
    commit
    pure (.committed ())

def retireAgentPackage (packageId retiredAt : String) : Job Depot Unit :=
  submit <| transaction (retireBody packageId retiredAt)

/-- The rows of the join for a slot. -/
def publishedDefaults (slot : Slot) (depot : Depot) : List (PublicationRow × AgentPackageRow) :=
  (depot.publications.table.rows.filter (isDefaultOf slot)).flatMap fun publication =>
    ((depot.packages.find publication.packageId).toList.filter
      fun package => package.status = .published).map fun package => (publication, package)

/-- Of these the one published last. -/
def defaultPublished (slot : Slot) (depot : Depot) : Option AgentPackageRow :=
  ((publishedDefaults slot depot).mergeSort
    fun p q => q.1.publishedAt ≤ p.1.publishedAt).head?.map Prod.snd

def findDefaultPublishedAgentPackage (slot : Slot) : Job Depot (Option AgentPackageRow) :=
  submit <| query (defaultPublished slot)

/-! What a call does when it returns, and that it does nothing when it fails -/

theorem submit_atomic {α : Type} {job : Job Depot α} (atomic : Atomic job) :
    Atomic (submit job) := retry_atomic busyRetryAttempts atomic

theorem submit_ok {α : Type} {job : Job Depot α} (atomic : Atomic job) {s s' : Session Depot}
    {a : α} (done : submit job s = (.ok a, s')) :
    ∃ start, start.state = s.state ∧ job start = (.ok a, s') := retry_ok atomic done

theorem upsertAgentPackage_atomic (package : AgentPackageRow) :
    Atomic (upsertAgentPackage package) := submit_atomic (execute_atomic _)

theorem upsertAgentPackage_ok {package : AgentPackageRow} {s s' : Session Depot} {u : Unit}
    (done : upsertAgentPackage package s = (.ok u, s')) :
    s'.state = { s.state with packages := s.state.packages.put package } := by
  obtain ⟨start, same, ran⟩ := submit_ok (execute_atomic _) done
  rw [← same]
  exact execute_ok ran

theorem findAgentPackage_atomic (packageId : String) : Atomic (findAgentPackage packageId) :=
  submit_atomic (query_atomic _)

theorem findAgentPackage_ok {packageId : String} {s s' : Session Depot}
    {found : Option AgentPackageRow} (done : findAgentPackage packageId s = (.ok found, s')) :
    found = s.state.packages.find packageId ∧ s'.state = s.state := by
  obtain ⟨start, same, ran⟩ := submit_ok (query_atomic _) done
  rw [← same]
  exact query_ok ran

theorem listAgentPackages_ok {s s' : Session Depot} {listed : List AgentPackageRow}
    (done : listAgentPackages s = (.ok listed, s')) :
    listed = s.state.packages.rows.mergeSort listedBefore ∧ s'.state = s.state := by
  obtain ⟨start, same, ran⟩ := submit_ok (query_atomic _) done
  rw [← same]
  exact query_ok ran

theorem clearDefaults_ok {selects : PublicationRow → Bool} {s s' : Session Depot} {u : Unit}
    (done : clearDefaults selects s = (.ok u, s')) :
    s'.state = { s.state with publications := s.state.publications.clear selects } :=
  execute_ok done

theorem putPublication_ok {row : PublicationRow} {s s' : Session Depot} {u : Unit}
    (done : putPublication row s = (.ok u, s')) :
    ∃ publications, s.state.publications.put row = some publications ∧
      s'.state = { s.state with publications := publications } := by
  have ran := statement_ok done
  split at ran
  · rename_i publications put
    simp only [Except.ok.injEq, Prod.mk.injEq] at ran
    exact ⟨publications, put, ran.2.symm⟩
  · cases ran

theorem updatePackage_ok {packageId : String} {change : AgentPackageRow → AgentPackageRow}
    {keeps : ∀ r, (change r).packageId = r.packageId} {s s' : Session Depot} {changed : Nat}
    (done : updatePackage packageId change keeps s = (.ok changed, s')) :
    changed = s.state.packages.changes (fun r => r.packageId = packageId) ∧
      s'.state = { s.state with
        packages := s.state.packages.update (fun r => r.packageId = packageId) change keeps } := by
  have ran := statement_ok done
  simp only [Except.ok.injEq, Prod.mk.injEq] at ran
  exact ⟨ran.1.symm, ran.2.symm⟩

/-- An update by the key changes one package exactly when there is one. -/
theorem changes_package (packages : Table AgentPackageRow AgentPackageRow.packageId)
    (packageId : String) :
    packages.changes (fun r => r.packageId = packageId) = 1 ↔
      ∃ row, packages.find packageId = some row := by
  rw [packages.changes_pinned _ packageId (by simp)]
  cases found : packages.find packageId with
  | none => simp
  | some row => simp [Table.find_key found]

/-- The packages after one of them was changed. -/
theorem find_updatePackage {packages : Table AgentPackageRow AgentPackageRow.packageId}
    {change : AgentPackageRow → AgentPackageRow}
    (keeps : ∀ r, (change r).packageId = r.packageId) {packageId : String}
    {row : AgentPackageRow} (found : packages.find packageId = some row) (k : String) :
    (packages.update (fun r => r.packageId = packageId) change keeps).find k =
      if k = packageId then some (change row) else packages.find k :=
  Table.find_update_pinned found (by simp [Table.find_key found]) (by simp) k

/-- A package was published: the only default of the slot is its publication. -/
structure PublishedIn (packageId : String) (slot : Slot) (publishedBy : Option String)
    (publishedAt : String) (before after : Depot) : Prop where
  found : ∃ row, before.packages.find packageId = some row
  packages : after.packages =
    before.packages.update (fun r => r.packageId = packageId) (publish publishedAt) (publish_packageId _)
  publications : (before.publications.clear (isDefaultOf slot)).put
    (publication packageId slot publishedBy publishedAt) = some after.publications

theorem publishAgentPackage_atomic (packageId : String) (slot : Slot)
    (publishedBy : Option String) (publishedAt : String) :
    Atomic (publishAgentPackage packageId slot publishedBy publishedAt) :=
  submit_atomic (transaction_atomic _)

theorem publishAgentPackage_ok {packageId : String} {slot : Slot} {publishedBy : Option String}
    {publishedAt : String} {s s' : Session Depot} {u : Unit}
    (done : publishAgentPackage packageId slot publishedBy publishedAt s = (.ok u, s')) :
    PublishedIn packageId slot publishedBy publishedAt s.state s'.state := by
  obtain ⟨start, same, ran⟩ := submit_ok (transaction_atomic _) done
  obtain ⟨begun, same', body | ⟨inner, body, _⟩⟩ := transaction_ok ran
  · obtain ⟨_, cleared, clear, rest⟩ := bind_ok body
    obtain ⟨_, written, put, rest⟩ := bind_ok rest
    obtain ⟨changed, updated, update, rest⟩ := bind_ok rest
    obtain ⟨publications, putting, after_put⟩ := putPublication_ok put
    obtain ⟨rfl, after_update⟩ := updatePackage_ok update
    rw [after_put, clearDefaults_ok clear, same', same] at after_update rest
    rw [clearDefaults_ok clear, same', same] at putting
    split at rest
    · cases rest
    · rename_i one
      obtain ⟨_, final, committed, rest⟩ := bind_ok rest
      obtain ⟨_, rfl⟩ := pure_ok rest
      rw [execute_ok committed, id_eq, after_update]
      exact ⟨(changes_package _ _).mp (not_not.mp one), rfl, putting⟩
  · obtain ⟨_, _, _, rest⟩ := bind_ok body
    obtain ⟨_, _, _, rest⟩ := bind_ok rest
    obtain ⟨_, _, _, rest⟩ := bind_ok rest
    split at rest
    · cases rest
    · obtain ⟨_, _, _, rest⟩ := bind_ok rest
      cases (pure_ok rest).1

theorem retireAgentPackage_atomic (packageId retiredAt : String) :
    Atomic (retireAgentPackage packageId retiredAt) := submit_atomic (transaction_atomic _)

/-- A package was retired and is the default of no slot. -/
structure RetiredIn (packageId retiredAt : String) (before after : Depot) : Prop where
  found : ∃ row, before.packages.find packageId = some row
  packages : after.packages =
    before.packages.update (fun r => r.packageId = packageId) (retire retiredAt) (retire_packageId _)
  publications : after.publications =
    before.publications.clear fun row => row.packageId = packageId

theorem retireAgentPackage_ok {packageId retiredAt : String} {s s' : Session Depot} {u : Unit}
    (done : retireAgentPackage packageId retiredAt s = (.ok u, s')) :
    RetiredIn packageId retiredAt s.state s'.state := by
  obtain ⟨start, same, ran⟩ := submit_ok (transaction_atomic _) done
  obtain ⟨begun, same', body | ⟨inner, body, _⟩⟩ := transaction_ok ran
  · obtain ⟨changed, updated, update, rest⟩ := bind_ok body
    obtain ⟨rfl, after_update⟩ := updatePackage_ok update
    rw [same', same] at after_update rest
    split at rest
    · cases rest
    · rename_i one
      obtain ⟨_, cleared, clear, rest⟩ := bind_ok rest
      obtain ⟨_, final, committed, rest⟩ := bind_ok rest
      obtain ⟨_, rfl⟩ := pure_ok rest
      rw [execute_ok committed, id_eq, clearDefaults_ok clear, after_update]
      exact ⟨(changes_package _ _).mp (not_not.mp one), rfl, rfl⟩
  · obtain ⟨_, _, _, rest⟩ := bind_ok body
    split at rest
    · cases rest
    · obtain ⟨_, _, _, rest⟩ := bind_ok rest
      obtain ⟨_, _, _, rest⟩ := bind_ok rest
      cases (pure_ok rest).1

/-- Only the other tables may differ. -/
def StoreOnly (before after : Depot) : Prop := ∃ store, after = { before with store := store }

theorem storeOnly_refl (depot : Depot) : StoreOnly depot depot := ⟨depot.store, rfl⟩

theorem storeOnly_trans (x y z : Depot) (first : StoreOnly x y) (rest : StoreOnly y z) :
    StoreOnly x z := by
  obtain ⟨_, rfl⟩ := first
  obtain ⟨store, rfl⟩ := rest
  exact ⟨store, rfl⟩

theorem onStore_storeOnly {α : Type} (job : Job Store α) : Evolves StoreOnly (onStore job) := by
  intro s result s' ran
  cases ran
  exact ⟨_, rfl⟩

theorem onStore_ok {α : Type} {job : Job Store α} {s s' : Session Depot} {a : α}
    (done : onStore job s = (.ok a, s')) :
    ∃ final, job ⟨s.state.store, s.faults⟩ = (.ok a, final) ∧
      s'.state = { s.state with store := final.state } := by
  unfold onStore at done
  cases ran : job ⟨s.state.store, s.faults⟩ with
  | mk result final =>
    rw [ran] at done
    cases done
    exact ⟨final, rfl, rfl⟩

theorem onStore_evolves {α : Type} {R : Depot → Depot → Prop} {T : Store → Store → Prop}
    {job : Job Store α} (evolves : Evolves T job)
    (lifts : ∀ depot store, T depot.store store → R depot { depot with store := store }) :
    Evolves R (onStore job) := by
  intro s result s' ran
  cases ran
  exact lifts s.state _ (evolves ⟨s.state.store, s.faults⟩ _ _ rfl)

/-! Calls that meet no fault -/

theorem submit_succeeds {α : Type} {job : Job Depot α} {depot final : Depot} {a : α}
    (ran : Succeeds job depot a final) : Succeeds (submit job) depot a final :=
  succeeds_retry busyRetryAttempts ran

theorem onStore_succeeds {α : Type} {job : Job Store α} {depot : Depot} {store : Store} {a : α}
    (ran : Succeeds job depot.store a store) :
    Succeeds (onStore job) depot a { depot with store := store } := by
  unfold Succeeds onStore
  rw [show job ⟨depot.store, []⟩ = _ from ran]

theorem listAgentPackages_succeeds (depot : Depot) :
    Succeeds listAgentPackages depot (depot.packages.rows.mergeSort listedBefore) depot :=
  submit_succeeds (succeeds_query _ depot)

theorem findAgentPackage_succeeds (packageId : String) (depot : Depot) :
    Succeeds (findAgentPackage packageId) depot (depot.packages.find packageId) depot :=
  submit_succeeds (succeeds_query _ depot)

theorem upsertAgentPackage_succeeds (package : AgentPackageRow) (depot : Depot) :
    Succeeds (upsertAgentPackage package) depot ()
      { depot with packages := depot.packages.put package } :=
  submit_succeeds (succeeds_execute _ depot)

theorem findDefaultPublishedAgentPackage_succeeds (slot : Slot) (depot : Depot) :
    Succeeds (findDefaultPublishedAgentPackage slot) depot (defaultPublished slot depot) depot :=
  submit_succeeds (succeeds_query _ depot)

/-! The default of a slot -/

theorem mem_publishedDefaults {slot : Slot} {depot : Depot} {p : PublicationRow}
    {row : AgentPackageRow} :
    (p, row) ∈ publishedDefaults slot depot ↔
      p ∈ depot.publications.table.rows ∧ p.isDefault = true ∧ p.slot = slot ∧
      depot.packages.find p.packageId = some row ∧ row.status = .published := by
  unfold publishedDefaults isDefaultOf
  simp only [List.mem_flatMap, List.mem_filter, List.mem_map, Bool.and_eq_true,
    decide_eq_true_eq, Option.mem_toList]
  constructor
  · rintro ⟨p', ⟨member, same, default⟩, row', ⟨found, status⟩, pair⟩
    cases pair
    exact ⟨member, default, same, found, status⟩
  · rintro ⟨member, default, same, found, status⟩
    exact ⟨p, ⟨member, same, default⟩, row, ⟨found, status⟩, rfl⟩

/-- The lookup finds the package of the only default, when it is published. -/
theorem defaultPublished_iff {slot : Slot} {depot : Depot} {row : AgentPackageRow} :
    defaultPublished slot depot = some row ↔
      ∃ p ∈ depot.publications.table.rows, p.isDefault = true ∧ p.slot = slot ∧
        depot.packages.find p.packageId = some row ∧ row.status = .published := by
  unfold defaultPublished
  constructor
  · intro found
    obtain ⟨⟨p, row'⟩, head, same⟩ := Option.map_eq_some_iff.mp found
    cases same
    have member := List.mem_mergeSort.mp (List.mem_of_head? head)
    obtain ⟨inside, rest⟩ := mem_publishedDefaults.mp member
    exact ⟨p, inside, rest⟩
  · rintro ⟨p, member, default, same, found, status⟩
    have joined : (p, row) ∈ publishedDefaults slot depot :=
      mem_publishedDefaults.mpr ⟨member, default, same, found, status⟩
    cases head : ((publishedDefaults slot depot).mergeSort
        fun p q => q.1.publishedAt ≤ p.1.publishedAt).head? with
    | none =>
      have sorted := List.head?_eq_none_iff.mp head
      have inside : (p, row) ∈ (publishedDefaults slot depot).mergeSort
          (fun p q => q.1.publishedAt ≤ p.1.publishedAt) := List.mem_mergeSort.mpr joined
      rw [sorted] at inside
      cases inside
    | some pair =>
      obtain ⟨q, row'⟩ := pair
      have inside := List.mem_mergeSort.mp (List.mem_of_head? head)
      obtain ⟨member', default', same', found', _⟩ := mem_publishedDefaults.mp inside
      have only := depot.publications.one_default q member' p member default' default
        (same'.trans same.symm)
      subst only
      rw [found] at found'
      cases found'
      rfl

end PackageStore
