import ZFleet.Core.SemverText
import ZFleet.Foundations.Selections
import ZFleet.Server.PackageApi

/-!
The choice of an installer for a package: among the published installers of the package's
build that are new enough, one of the highest version. Versions are compared as the parser
reads them, so a version written with `-0` counts as an N.N.N version, and which of two
texts of one version is chosen depends on the order of the list.
-/
namespace InstallerChoice
open Semver PackageStore PackageApi Transactions Selections

/-- What `FindCompatibleInstallerPackage` returns for the listed packages. -/
def compatibleInstaller (listed : List AgentPackageRow) (package : AgentPackageRow)
    (minInstallerVersion : String) : Option AgentPackageRow :=
  match parseSemver3 minInstallerVersion with
  | none => none
  | some minimum => chooseInstaller package minimum listed

/-- A published installer for the build of the package. -/
structure Matching (package candidate : AgentPackageRow) : Prop where
  component : candidate.component = "installer"
  status : candidate.status = .published
  platform : candidate.platform = package.platform
  arch : candidate.arch = package.arch
  buildType : candidate.buildType = package.buildType

/-- Two versions in numeric lexicographic order. -/
def NotBelow (version minimum : String) : Prop :=
  ∃ v w, parseSemver3 version = some v ∧ parseSemver3 minimum = some w ∧ ¬ LexicographicLt v w

/-- The packages to choose from, given what counts as a version. -/
structure Eligible (isVersion : String → Prop) (package : AgentPackageRow) (minimum : String)
    (candidate : AgentPackageRow) : Prop where
  matching : Matching package candidate
  version : isVersion candidate.version
  newEnough : NotBelow candidate.version minimum

/-- The choice is maximal, given what counts as a version and when versions are the same. -/
structure Maximal {Version : Type} (isVersion : String → Prop) (identity : String → Version)
    (listed : List AgentPackageRow) (package : AgentPackageRow) (minimum : String) : Prop where
  none_iff : compatibleInstaller listed package minimum = none ↔
    ¬ isVersion minimum ∨
      ¬ ∃ candidate ∈ listed, Eligible isVersion package minimum candidate
  maximal : ∀ chosen, compatibleInstaller listed package minimum = some chosen →
    chosen ∈ listed ∧ Eligible isVersion package minimum chosen ∧
      ∀ candidate ∈ listed, Eligible isVersion package minimum candidate →
        NotBelow chosen.version candidate.version
  stable : ∀ listed', listed'.Perm listed →
    (compatibleInstaller listed' package minimum).map (fun chosen => identity chosen.version) =
      (compatibleInstaller listed package minimum).map (fun chosen => identity chosen.version)

/-- What the parser takes for a version. -/
def Readable (text : String) : Prop := (parseSemver3 text).isSome = true

instance (text : String) : Decidable (Readable text) :=
  inferInstanceAs (Decidable ((parseSemver3 text).isSome = true))

def versionOf (candidate : AgentPackageRow) : Semver3 :=
  (parseSemver3 candidate.version).getD ⟨0, 0, 0⟩

theorem versionOf_eq {candidate : AgentPackageRow} (readable : Readable candidate.version) :
    parseSemver3 candidate.version = some (versionOf candidate) := by
  obtain ⟨v, parsed⟩ := Option.isSome_iff_exists.mp readable
  simp [versionOf, parsed]

theorem notBelow_iff {version minimum : String} {v w : Semver3}
    (parsed : parseSemver3 version = some v) (parsed' : parseSemver3 minimum = some w) :
    NotBelow version minimum ↔ w ≤ v := by
  constructor
  · rintro ⟨v', w', read, read', order⟩
    rw [parsed] at read
    rw [parsed'] at read'
    cases read
    cases read'
    rw [← lt_iff] at order
    exact not_lt.mp order
  · intro order
    refine ⟨v, w, parsed, parsed', ?_⟩
    rw [← lt_iff]
    exact not_lt.mpr order

theorem NotBelow.readable {version minimum : String} (order : NotBelow version minimum) :
    Readable version ∧ Readable minimum := by
  obtain ⟨v, w, read, read', _⟩ := order
  exact ⟨by simp [Readable, read], by simp [Readable, read']⟩

theorem fitsInstaller_iff {package candidate : AgentPackageRow} {text : String} {minimum : Semver3}
    (parsed : parseSemver3 text = some minimum) :
    fitsInstaller package minimum candidate = true ↔
      Eligible Readable package text candidate := by
  unfold fitsInstaller
  constructor
  · intro fits
    simp only [Bool.and_eq_true, decide_eq_true_eq] at fits
    obtain ⟨⟨⟨⟨⟨component, status⟩, platform⟩, arch⟩, buildType⟩, order⟩ := fits
    cases read : parseSemver3 candidate.version with
    | none => rw [read] at order; cases order
    | some version =>
      rw [read] at order
      simp only [Bool.not_eq_true', decide_eq_false_iff_not, not_lt] at order
      exact ⟨⟨component, status, platform, arch, buildType⟩, by simp [Readable, read],
        (notBelow_iff read parsed).mpr order⟩
  · rintro ⟨⟨component, status, platform, arch, buildType⟩, readable, order⟩
    have read := versionOf_eq readable
    have newEnough := (notBelow_iff read parsed).mp order
    simp [component, status, platform, arch, buildType, read, not_lt.mpr newEnough]

/-- On versions that can be read the fold keeps the best one. -/
theorem chooseInstaller_eq (package : AgentPackageRow) (minimum : Semver3)
    (listed : List AgentPackageRow) :
    chooseInstaller package minimum listed =
      select versionOf (listed.filter (fitsInstaller package minimum)) := by
  unfold chooseInstaller select
  have readable : ∀ candidate ∈ listed.filter (fitsInstaller package minimum),
      Readable candidate.version := by
    intro candidate member
    have fits := (List.mem_filter.mp member).2
    simp only [fitsInstaller, Bool.and_eq_true] at fits
    have order := fits.2
    cases read : parseSemver3 candidate.version with
    | none => rw [read] at order; cases order
    | some version => simp [Readable, read]
  have general : ∀ (candidates : List AgentPackageRow) (best : Option AgentPackageRow),
      (∀ candidate ∈ candidates, Readable candidate.version) →
      (∀ chosen ∈ best, Readable chosen.version) →
      candidates.foldl newerInstaller best = candidates.foldl (better versionOf) best := by
    intro candidates
    induction candidates with
    | nil => intro best _ _; rfl
    | cons candidate candidates ih =>
      intro best all kept
      have now : newerInstaller best candidate = better versionOf best candidate := by
        cases best with
        | none => rfl
        | some chosen =>
          simp only [newerInstaller, better, versionOf_eq (all candidate (by simp)),
            versionOf_eq (kept chosen rfl)]
      rw [List.foldl_cons, List.foldl_cons, now]
      apply ih
      · intro c inside
        exact all c (by simp [inside])
      · intro chosen is_best
        cases best with
        | none =>
          cases is_best
          exact all candidate (by simp)
        | some before =>
          simp only [better] at is_best
          split at is_best
          · cases is_best
            exact all candidate (by simp)
          · cases is_best
            exact kept _ rfl
  exact general _ none readable fun _ chosen => by cases chosen

theorem findCompatibleInstallerPackage_eq (package : AgentPackageRow) (minimum : String) :
    findCompatibleInstallerPackage package minimum =
      if Readable minimum then do
        let listed ← listAgentPackages
        pure (compatibleInstaller listed package minimum)
      else pure none := by
  unfold findCompatibleInstallerPackage compatibleInstaller
  by_cases readable : Readable minimum
  · obtain ⟨least, parsed⟩ := Option.isSome_iff_exists.mp readable
    have nonempty : minimum ≠ "" := by
      intro empty
      rw [empty] at readable
      exact absurd readable (by decide)
    simp [nonempty, readable, parsed]
  · have unreadable : parseSemver3 minimum = none := by simpa [Readable] using readable
    simp [readable, unreadable]

theorem compatibleInstaller_none_iff {listed : List AgentPackageRow} {package : AgentPackageRow}
    {minimum : String} : compatibleInstaller listed package minimum = none ↔
      ¬ ∃ candidate ∈ listed, Eligible Readable package minimum candidate := by
  unfold compatibleInstaller
  cases parsed : parseSemver3 minimum with
  | none =>
    simp only [true_iff]
    rintro ⟨candidate, _, eligible⟩
    have readable := eligible.newEnough.readable.2
    simp [Readable, parsed] at readable
  | some least =>
    simp only [chooseInstaller_eq, select_eq_none_iff, List.filter_eq_nil_iff,
      fitsInstaller_iff parsed]
    simp

/-- An eligible package that no eligible one of the list is above. -/
structure Highest (listed : List AgentPackageRow) (package : AgentPackageRow) (minimum : String)
    (candidate : AgentPackageRow) : Prop where
  member : candidate ∈ listed
  eligible : Eligible Readable package minimum candidate
  above : ∀ other ∈ listed, Eligible Readable package minimum other →
    NotBelow candidate.version other.version

theorem Eligible.readable {package candidate : AgentPackageRow} {minimum : String}
    (eligible : Eligible Readable package minimum candidate) :
    ∃ v, parseSemver3 minimum = some v :=
  Option.isSome_iff_exists.mp eligible.newEnough.readable.2

theorem compatibleInstaller_highest {listed : List AgentPackageRow} {package chosen : AgentPackageRow}
    {minimum : String} (found : compatibleInstaller listed package minimum = some chosen) :
    Highest listed package minimum chosen := by
  unfold compatibleInstaller at found
  cases parsed : parseSemver3 minimum with
  | none => rw [parsed] at found; cases found
  | some least =>
    simp only [parsed, chooseInstaller_eq] at found
    obtain ⟨inside, highest⟩ := select_spec found
    obtain ⟨member, fits⟩ := List.mem_filter.mp inside
    have eligible := (fitsInstaller_iff parsed).mp fits
    refine ⟨member, eligible, fun other listed_too eligible' => ?_⟩
    have fits' := (fitsInstaller_iff parsed).mpr eligible'
    exact (notBelow_iff (versionOf_eq eligible.version) (versionOf_eq eligible'.version)).mpr
      (highest other (List.mem_filter.mpr ⟨listed_too, fits'⟩))

theorem Highest.chosen_in_some_order {listed : List AgentPackageRow}
    {package candidate : AgentPackageRow} {minimum : String}
    (highest : Highest listed package minimum candidate) :
    ∃ listed', listed'.Perm listed ∧ compatibleInstaller listed' package minimum = some candidate := by
  obtain ⟨least, parsed⟩ := highest.eligible.readable
  refine ⟨listed.erase candidate ++ [candidate], ?_, ?_⟩
  · exact (List.perm_append_singleton _ _).trans (List.perm_cons_erase highest.member).symm
  · have fits := (fitsInstaller_iff parsed).mpr highest.eligible
    simp only [compatibleInstaller, parsed, chooseInstaller_eq, List.filter_append,
      List.filter_cons_of_pos fits, List.filter_nil]
    apply select_last
    intro other inside
    obtain ⟨listed_too, fits'⟩ := List.mem_filter.mp inside
    have eligible' := (fitsInstaller_iff parsed).mp fits'
    exact (notBelow_iff (versionOf_eq highest.eligible.version) (versionOf_eq eligible'.version)).mp
      (highest.above other (List.mem_of_mem_erase listed_too) eligible')

theorem compatibleInstaller_perm {listed listed' : List AgentPackageRow} {package : AgentPackageRow}
    {minimum : String} (same : listed'.Perm listed) :
    (compatibleInstaller listed' package minimum).map (fun chosen => parseSemver3 chosen.version) =
      (compatibleInstaller listed package minimum).map
        (fun chosen => parseSemver3 chosen.version) := by
  have read : ∀ listed, (compatibleInstaller listed package minimum).map
      (fun chosen => parseSemver3 chosen.version) =
      ((compatibleInstaller listed package minimum).map versionOf).map some := by
    intro listed
    cases found : compatibleInstaller listed package minimum with
    | none => rfl
    | some chosen =>
      exact congrArg some (versionOf_eq (compatibleInstaller_highest found).eligible.version)
  rw [read, read]
  apply congrArg
  unfold compatibleInstaller
  cases parseSemver3 minimum with
  | none => rfl
  | some least =>
    simp only [chooseInstaller_eq]
    exact rank_select_perm (same.filter _)

theorem readable_maximal (listed : List AgentPackageRow) (package : AgentPackageRow)
    (minimum : String) : Maximal Readable parseSemver3 listed package minimum := by
  refine ⟨?_, ?_, fun listed' same => compatibleInstaller_perm same⟩
  · rw [compatibleInstaller_none_iff]
    constructor
    · exact Or.inr
    · rintro (unreadable | none_eligible)
      · rintro ⟨candidate, _, eligible⟩
        exact unreadable eligible.newEnough.readable.2
      · exact none_eligible
  · intro chosen found
    have highest := compatibleInstaller_highest found
    exact ⟨highest.member, highest.eligible, highest.above⟩

theorem canonical_of_readable {text : String} (readable : Readable text)
    (unsigned : ¬ WithSignedZero text) : Canonical text :=
  ((accepted_iff text).mp readable).resolve_right unsigned

theorem readable_of_canonical {text : String} (canonical : Canonical text) : Readable text :=
  (accepted_iff text).mpr (Or.inl canonical)

theorem Eligible.of_canonical {package candidate : AgentPackageRow} {minimum : String}
    (eligible : Eligible Canonical package minimum candidate) :
    Eligible Readable package minimum candidate :=
  ⟨eligible.matching, readable_of_canonical eligible.version, eligible.newEnough⟩

/-- The choice is maximal among what the parser reads. It is maximal among the N.N.N versions
    unless a version written with `-0` is the minimum or one of the highest. -/
theorem choice_maximal_iff (listed : List AgentPackageRow) (package : AgentPackageRow)
    (minimum : String) :
    Maximal Readable parseSemver3 listed package minimum ∧
      (Maximal Canonical id listed package minimum ↔
        ((∃ candidate ∈ listed, Eligible Readable package minimum candidate) →
          ¬ WithSignedZero minimum ∧
            ∀ candidate, Highest listed package minimum candidate →
              ¬ WithSignedZero candidate.version)) := by
  refine ⟨readable_maximal listed package minimum, ?_⟩
  constructor
  · intro maximal some_eligible
    constructor
    · intro signed
      have none_chosen : compatibleInstaller listed package minimum = none :=
        maximal.none_iff.mpr (Or.inl signed.not_canonical)
      exact compatibleInstaller_none_iff.mp none_chosen some_eligible
    · intro candidate highest signed
      obtain ⟨listed', same, chosen⟩ := highest.chosen_in_some_order
      have stable := maximal.stable listed' same
      rw [chosen] at stable
      cases found : compatibleInstaller listed package minimum with
      | none => rw [found] at stable; cases stable
      | some other =>
        rw [found] at stable
        have text : candidate.version = other.version := Option.some.inj stable
        obtain ⟨_, eligible, _⟩ := maximal.maximal other found
        exact signed.not_canonical (text ▸ eligible.version)
  · intro exact_when
    cases found : compatibleInstaller listed package minimum with
    | none =>
      have none_eligible := compatibleInstaller_none_iff.mp found
      refine ⟨?_, ?_, ?_⟩
      · refine iff_of_true found (Or.inr ?_)
        rintro ⟨candidate, member, eligible⟩
        exact none_eligible ⟨candidate, member, eligible.of_canonical⟩
      · intro chosen impossible
        rw [found] at impossible
        cases impossible
      · intro listed' same
        have still_none : compatibleInstaller listed' package minimum = none := by
          rw [compatibleInstaller_none_iff]
          rintro ⟨candidate, member, eligible⟩
          exact none_eligible ⟨candidate, same.mem_iff.mp member, eligible⟩
        rw [found, still_none]
    | some chosen =>
      have highest := compatibleInstaller_highest found
      obtain ⟨unsigned, unsigned_highest⟩ :=
        exact_when ⟨chosen, highest.member, highest.eligible⟩
      have canonical : Canonical minimum :=
        canonical_of_readable highest.eligible.newEnough.readable.2 unsigned
      have canonical_highest : ∀ candidate, Highest listed package minimum candidate →
          Canonical candidate.version := fun candidate is_highest =>
        canonical_of_readable is_highest.eligible.version (unsigned_highest candidate is_highest)
      have eligible : Eligible Canonical package minimum chosen :=
        ⟨highest.eligible.matching, canonical_highest chosen highest, highest.eligible.newEnough⟩
      refine ⟨?_, ?_, ?_⟩
      · rw [found]
        refine iff_of_false nofun ?_
        rintro (not_canonical | none_eligible)
        · exact not_canonical canonical
        · exact none_eligible ⟨chosen, highest.member, eligible⟩
      · intro chosen' found'
        rw [found] at found'
        cases found'
        exact ⟨highest.member, eligible, fun other member eligible' =>
          highest.above other member eligible'.of_canonical⟩
      · intro listed' same
        have versions := @compatibleInstaller_perm _ _ package minimum same
        rw [found] at versions ⊢
        cases found' : compatibleInstaller listed' package minimum with
        | none => rw [found'] at versions; cases versions
        | some chosen' =>
          rw [found'] at versions
          have highest' := compatibleInstaller_highest found'
          have listed_too : Highest listed package minimum chosen' :=
            ⟨same.mem_iff.mp highest'.member, highest'.eligible,
              fun other member => highest'.above other (same.mem_iff.mpr member)⟩
          have parsed := versionOf_eq highest.eligible.version
          have parsed' : parseSemver3 chosen'.version = some (versionOf chosen) :=
            (Option.some.inj versions).trans parsed
          have same_text : chosen'.version = chosen.version :=
            (exact_iff chosen'.version).2 chosen.version
              (unsigned_highest chosen' listed_too) (unsigned_highest chosen highest) _
              parsed' parsed
          exact congrArg some same_text

def installerWith (version : String) : AgentPackageRow :=
  { packageId := "i1"
    component := "installer"
    version := version
    platform := "linux"
    arch := "x86_64"
    buildType := "release"
    filename := "installer.zip"
    storagePath := "/srv/packages/i1.zip"
    sizeBytes := 1
    sha256 := ""
    manifestJson := ""
    status := .published
    uploadedAt := "2026-03-01T12:00:00Z"
    validatedAt := none
    publishedAt := none
    retiredAt := none }

/-- An installer that is no N.N.N version is chosen for a minimum of 1.0.0. -/
theorem minus_zero_installer_chosen :
    ¬ Maximal Canonical id [installerWith "1.-0.0"] (installerWith "1.0.0") "1.0.0" := by
  intro maximal
  have chosen : compatibleInstaller [installerWith "1.-0.0"] (installerWith "1.0.0") "1.0.0" =
      some (installerWith "1.-0.0") := by decide
  obtain ⟨_, eligible, _⟩ := maximal.maximal _ chosen
  obtain ⟨v, parsed, prints⟩ := eligible.version.parsed
  have value : v = ⟨1, 0, 0⟩ := Option.some.inj (parsed.symm.trans (by decide))
  rw [value] at prints
  exact absurd prints (by decide)

end InstallerChoice
