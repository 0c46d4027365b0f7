import ZFleet.Foundations.Runs

/-!
Trails: things that move through phases, and records of the phases they entered. The trail
of a run remembers every entry; it is honest when only entries are recorded and complete
when all of them are. Phases have a rank that moves raise, so nothing enters a phase twice.
-/
namespace Trails
variable {S A K P : Type}

/-- How to look at a state: the phase of each thing and the recorded entries. Phases of
    rank zero are where things begin; entering them is not recorded. -/
structure View (S K P : Type) where
  phase : S → K → Option P
  recorded : S → K → P → Prop
  rank : P → Nat

def Enters (view : View S K P) (before after : S) (k : K) (p : P) : Prop :=
  0 < view.rank p ∧ view.phase before k ≠ some p ∧ view.phase after k = some p

/-- A state and the entries made so far. -/
structure Trail (S K P : Type) where
  state : S
  entered : K → P → Prop

def start (s : S) : Trail S K P := ⟨s, fun _ _ => False⟩

def advance (view : View S K P) (step : S → A → S) (t : Trail S K P) (a : A) : Trail S K P where
  state := step t.state a
  entered := fun k p => t.entered k p ∨ Enters view t.state (step t.state a) k p

def Complete (view : View S K P) (t : Trail S K P) : Prop :=
  ∀ k p, t.entered k p → view.recorded t.state k p

def Honest (view : View S K P) (t : Trail S K P) : Prop :=
  ∀ k p, view.recorded t.state k p → t.entered k p

/-- Moves raise the rank of a phase. -/
def Rising (view : View S K P) (before after : S) : Prop :=
  ∀ k p, view.phase before k = some p →
    ∃ p', view.phase after k = some p' ∧ (p' = p ∨ view.rank p < view.rank p')

/-- Exactly the entries of the step are recorded in it. -/
def Written (view : View S K P) (before after : S) : Prop :=
  ∀ k p, view.recorded after k p ↔ view.recorded before k p ∨ Enters view before after k p

/-- Something enters a phase and nothing is recorded. -/
def Missing (view : View S K P) (before after : S) : Prop :=
  (∃ k p, Enters view before after k p) ∧
    ∀ k p, view.recorded after k p ↔ view.recorded before k p

/-- The invariant while no entry was missed: what entered a phase is past it. -/
structure Kept (view : View S K P) (t : Trail S K P) : Prop where
  complete : Complete view t
  honest : Honest view t
  past : ∀ k p, t.entered k p → ∃ p', view.phase t.state k = some p' ∧
    view.rank p ≤ view.rank p'

theorem honest_advance {view : View S K P} {step : S → A → S} {t : Trail S K P} {a : A}
    (writes : Written view t.state (step t.state a) ∨ Missing view t.state (step t.state a))
    (honest : Honest view t) : Honest view (advance view step t a) := by
  intro k p recorded
  rcases writes with written | ⟨_, same⟩
  · rcases (written k p).mp recorded with earlier | now
    · exact Or.inl (honest k p earlier)
    · exact Or.inr now
  · exact Or.inl (honest k p ((same k p).mp recorded))

theorem past_advance {view : View S K P} {step : S → A → S} {t : Trail S K P} {a : A}
    (rises : Rising view t.state (step t.state a))
    (past : ∀ k p, t.entered k p → ∃ p', view.phase t.state k = some p' ∧
      view.rank p ≤ view.rank p') (k : K) (p : P) (entered : (advance view step t a).entered k p) :
    ∃ p', view.phase (step t.state a) k = some p' ∧ view.rank p ≤ view.rank p' := by
  rcases entered with earlier | ⟨_, _, now⟩
  · obtain ⟨middle, at_phase, le⟩ := past k p earlier
    obtain ⟨p', at_phase', same | lt⟩ := rises k middle at_phase
    · exact ⟨p', at_phase', by rw [same]; exact le⟩
    · exact ⟨p', at_phase', by omega⟩
  · exact ⟨p, now, Nat.le_refl _⟩

/-- Nothing enters a phase again. -/
theorem enters_once {view : View S K P} {before after : S} (rises : Rising view before after)
    {k : K} {p p' : P} (enters : Enters view before after k p)
    (at_phase : view.phase before k = some p') : view.rank p' < view.rank p := by
  obtain ⟨_, elsewhere, now⟩ := enters
  obtain ⟨q, at_phase', same | lt⟩ := rises k p' at_phase
  · rw [now] at at_phase'
    rw [same] at at_phase'
    exact absurd (at_phase.trans at_phase'.symm) elsewhere
  · rw [now] at at_phase'
    cases at_phase'
    exact lt

/-- One step: complete afterwards exactly when nothing was missing in it. -/
theorem complete_advance_iff {view : View S K P} {step : S → A → S} {t : Trail S K P} {a : A}
    {silent : Prop} (kept : Kept view t) (rises : Rising view t.state (step t.state a))
    (loud : ¬ silent → Written view t.state (step t.state a))
    (mute : silent → Missing view t.state (step t.state a)) :
    Complete view (advance view step t a) ↔ ¬ silent := by
  constructor
  · intro complete quiet
    obtain ⟨⟨k, p, enters⟩, same⟩ := mute quiet
    have recorded := (same k p).mp (complete k p (Or.inr enters))
    obtain ⟨p', at_phase, le⟩ := kept.past k p (kept.honest k p recorded)
    have lt := enters_once rises enters at_phase
    omega
  · intro heard k p entered
    rcases entered with earlier | now
    · exact ((loud heard) k p).mpr (Or.inl (kept.complete k p earlier))
    · exact ((loud heard) k p).mpr (Or.inr now)

/-- Whole runs: the trail is always honest, and it stays complete exactly when no step is
    silent. -/
theorem trail_complete_iff {view : View S K P} {step : S → A → S} (silent : S → A → Prop)
    (rises : ∀ s a, Rising view s (step s a))
    (loud : ∀ s a, ¬ silent s a → Written view s (step s a))
    (mute : ∀ s a, silent s a → Missing view s (step s a)) {s : S}
    (unrecorded : ∀ k p, ¬ view.recorded s k p) (inputs : List A) :
    Honest view (Runs.run (advance view step) (start s) inputs) ∧
    (Runs.AllSteps (advance view step) (start s) inputs
        (fun t a => Complete view (advance view step t a)) ↔
      Runs.AllSteps (advance view step) (start s) inputs (fun t a => ¬ silent t.state a)) := by
  constructor
  · apply Runs.run_invariant_always (Honest view)
    · intro t a honest
      by_cases quiet : silent t.state a
      · exact honest_advance (Or.inr (mute t.state a quiet)) honest
      · exact honest_advance (Or.inl (loud t.state a quiet)) honest
    · exact fun k p recorded => absurd recorded (unrecorded k p)
  · apply Runs.allSteps_iff_sides inputs (Kept view)
    · exact ⟨fun k p entered => entered.elim,
        fun k p recorded => absurd recorded (unrecorded k p), fun k p entered => entered.elim⟩
    · intro t a kept heard
      have complete := (complete_advance_iff kept (rises t.state a) (loud t.state a)
        (mute t.state a)).mpr heard
      exact ⟨complete, honest_advance (Or.inl (loud t.state a heard)) kept.honest,
        past_advance (rises t.state a) kept.past⟩
    · intro t a kept
      exact complete_advance_iff kept (rises t.state a) (loud t.state a) (mute t.state a)

end Trails
