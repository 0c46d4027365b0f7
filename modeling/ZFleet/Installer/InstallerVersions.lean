import ZFleet.Installer.InstalledFiles

/-!
The version of an installer is read twice: a manifest takes any safe name, the check of
`min_installer_version` wants three numbers. After an installer is applied, packages can be
installed only if its version passes both.
-/
namespace Installer
open FileTrees Transactions Package Semver

/-- The version check lets the package through. -/
def Accepts (host : Host) (t : Tree) (component minInstallerVersion : String) : Prop :=
  ∃ version resolved, (resolveInstallerVersionForPackage host component version
    minInstallerVersion ⟨t, []⟩).1 = .ok resolved

/-- Agents and servers that ask for a version of three numbers not above the given one are
    let through. -/
def AcceptsAllUpTo (host : Host) (t : Tree) (installerVersion : String) : Prop :=
  ∀ component minInstallerVersion minimum, component = "agent" ∨ component = "server" →
    parseSemver3 minInstallerVersion = some minimum →
    (∀ actual, parseSemver3 installerVersion = some actual → ¬ actual < minimum) →
    Accepts host t component minInstallerVersion

section Versions
variable {host : Host} {t : Tree}

theorem accepted_active {component minInstallerVersion : String} (other : component ≠ "installer")
    (accepted : Accepts host t component minInstallerVersion) :
    ∃ active actual, Active host t "installer" active ∧ parseSemver3 active = some actual := by
  obtain ⟨version, resolved, answer⟩ := accepted
  obtain ⟨-, found⟩ := resolveInstallerVersion_reads component version minInstallerVersion
    ⟨t, []⟩ _ _ rfl
  rcases found resolved answer with ⟨installer, -⟩ | ⟨-, active, actual, -, actual_eq, -⟩
  · exact absurd installer other
  · exact ⟨resolved, actual, active, actual_eq⟩

theorem zero_not_below (v : Semver3) : ¬ v < ⟨0, 0, 0⟩ := by
  have least : (⟨0, 0, 0⟩ : Semver3) ≤ v := by
    change precedence _ ≤ precedence v
    simp [precedence, Prod.Lex.toLex_le_toLex]
    omega
  exact not_lt.mpr least

end Versions

def installerManifest (version : String) (files : List ManifestFile) : Manifest :=
  ⟨2, "installer", version, "linux", "x64", "release", "0.0.0", files⟩

end Installer
