import Mathlib.Logic.Relation
import Mathlib.Logic.Function.Basic

/-!
A ledger of jobs that are opened once and closed once. Every job has a phase; the
job is closed together with the one outcome that names its final phase. The
phases, the outcomes and the moves between open phases are parameters.
-/
namespace Ledgers
variable {Key Phase Outcome : Type}

/-- How the phases may move and which phase an outcome closes a job with. -/
structure Rules (Phase Outcome : Type) where
  initial : Phase
  move : Phase → Phase → Prop
  closing : Outcome → Phase
  initial_open : ∀ o, closing o ≠ initial
  move_from_open : ∀ p q o, move p q → closing o ≠ p
  move_to_open : ∀ p q o, move p q → closing o ≠ q
  move_away : ∀ p q, move p q → q ≠ initial

def Rules.Closed (rules : Rules Phase Outcome) (p : Phase) : Prop := ∃ o, rules.closing o = p

structure Ledger (Key Phase Outcome : Type) where
  phase : Key → Option Phase
  outcome : Key → Option Outcome

variable {rules : Rules Phase Outcome}

/-- Closed jobs and outcomes are the same jobs, and they agree. -/
structure Balanced (rules : Rules Phase Outcome) (l : Ledger Key Phase Outcome) : Prop where
  closed_has_outcome : ∀ k p, l.phase k = some p → rules.Closed p →
    ∃ o, l.outcome k = some o
  outcome_closes : ∀ k o, l.outcome k = some o → l.phase k = some (rules.closing o)

theorem balanced_of_empty {l : Ledger Key Phase Outcome} (phases : ∀ k, l.phase k = none)
    (outcomes : ∀ k, l.outcome k = none) : Balanced rules l where
  closed_has_outcome := by
    intro k p found
    rw [phases k] at found
    cases found
  outcome_closes := by
    intro k o found
    rw [outcomes k] at found
    cases found

/-- A job that is absent or open has no outcome yet. -/
theorem Balanced.no_outcome {l : Ledger Key Phase Outcome} (balanced : Balanced rules l) {k : Key}
    (unclosed : ∀ p, l.phase k = some p → ¬ rules.Closed p) : l.outcome k = none := by
  cases outcome : l.outcome k with
  | none => rfl
  | some o => exact absurd ⟨o, rfl⟩ (unclosed _ (balanced.outcome_closes k o outcome))

variable [DecidableEq Key]

def Ledger.enter (l : Ledger Key Phase Outcome) (k : Key) (p : Phase) :
    Ledger Key Phase Outcome :=
  ⟨Function.update l.phase k (some p), l.outcome⟩

def Ledger.record (l : Ledger Key Phase Outcome) (k : Key) (o : Outcome) :
    Ledger Key Phase Outcome :=
  ⟨l.phase, Function.update l.outcome k (some o)⟩

@[simp] theorem enter_phase (l : Ledger Key Phase Outcome) (k : Key) (p : Phase) :
    (l.enter k p).phase k = some p := Function.update_self ..

theorem enter_phase_other (l : Ledger Key Phase Outcome) {k j : Key} (p : Phase)
    (other : j ≠ k) : (l.enter k p).phase j = l.phase j := Function.update_of_ne other ..

@[simp] theorem enter_outcome (l : Ledger Key Phase Outcome) (k : Key) (p : Phase) :
    (l.enter k p).outcome = l.outcome := rfl

@[simp] theorem record_phase (l : Ledger Key Phase Outcome) (k : Key) (o : Outcome) :
    (l.record k o).phase = l.phase := rfl

@[simp] theorem record_outcome (l : Ledger Key Phase Outcome) (k : Key) (o : Outcome) :
    (l.record k o).outcome k = some o := Function.update_self ..

theorem record_outcome_other (l : Ledger Key Phase Outcome) {k j : Key} (o : Outcome)
    (other : j ≠ k) : (l.record k o).outcome j = l.outcome j := Function.update_of_ne other ..

inductive Step (rules : Rules Phase Outcome) (l : Ledger Key Phase Outcome) :
    Ledger Key Phase Outcome → Prop where
  | birth (k : Key) : l.phase k = none → Step rules l (l.enter k rules.initial)
  | move (k : Key) (p q : Phase) : l.phase k = some p → rules.move p q →
      Step rules l (l.enter k q)
  | settle (k : Key) (p : Phase) (o : Outcome) : l.phase k = some p → ¬ rules.Closed p →
      Step rules l ((l.enter k (rules.closing o)).record k o)

abbrev Steps (rules : Rules Phase Outcome) :
    Ledger Key Phase Outcome → Ledger Key Phase Outcome → Prop :=
  Relation.ReflTransGen (Step rules)

/-- Putting an open job in an open phase keeps the books. -/
theorem balanced_enter {l : Ledger Key Phase Outcome} (balanced : Balanced rules l) {k : Key}
    {q : Phase} (unclosed : ∀ p, l.phase k = some p → ¬ rules.Closed p)
    (still_open : ¬ rules.Closed q) : Balanced rules (l.enter k q) where
  closed_has_outcome := by
    intro j p found closed
    by_cases same : j = k
    · subst same
      rw [enter_phase] at found
      cases found
      exact absurd closed still_open
    · rw [enter_phase_other l q same] at found
      exact balanced.closed_has_outcome j p found closed
  outcome_closes := by
    intro j o found
    have other : j ≠ k := by
      rintro rfl
      rw [enter_outcome, balanced.no_outcome unclosed] at found
      cases found
    rw [enter_phase_other l q other]
    exact balanced.outcome_closes j o found

theorem balanced_settle {l : Ledger Key Phase Outcome} (balanced : Balanced rules l) (k : Key)
    (o : Outcome) : Balanced rules ((l.enter k (rules.closing o)).record k o) where
  closed_has_outcome := by
    intro j p found closed
    by_cases same : j = k
    · subst same
      exact ⟨o, record_outcome _ j o⟩
    · rw [record_phase, enter_phase_other l _ same] at found
      rw [record_outcome_other _ o same]
      exact balanced.closed_has_outcome j p found closed
  outcome_closes := by
    intro j o' found
    by_cases same : j = k
    · subst same
      rw [record_outcome] at found
      cases found
      exact enter_phase l j _
    · rw [record_outcome_other _ o same] at found
      rw [record_phase, enter_phase_other l _ same]
      exact balanced.outcome_closes j o' found

theorem step_balanced {l l' : Ledger Key Phase Outcome} (step : Step rules l l')
    (balanced : Balanced rules l) : Balanced rules l' := by
  cases step with
  | birth k absent =>
    apply balanced_enter balanced
    · intro p found
      rw [absent] at found
      cases found
    · rintro ⟨o, closes⟩
      exact rules.initial_open o closes
  | move k p q found moves =>
    apply balanced_enter balanced
    · intro p' found'
      rw [found] at found'
      cases found'
      rintro ⟨o, closes⟩
      exact rules.move_from_open p q o moves closes
    · rintro ⟨o, closes⟩
      exact rules.move_to_open p q o moves closes
  | settle k p o found still_open => exact balanced_settle balanced k o

theorem steps_balanced {l l' : Ledger Key Phase Outcome} (steps : Steps rules l l')
    (balanced : Balanced rules l) : Balanced rules l' := by
  induction steps with
  | refl => exact balanced
  | tail _ step ih => exact step_balanced step ih

/-- A closed job is never touched again. -/
theorem step_closed {l l' : Ledger Key Phase Outcome} (step : Step rules l l') {k : Key}
    {p : Phase} (found : l.phase k = some p) (closed : rules.Closed p) :
    l'.phase k = some p ∧ l'.outcome k = l.outcome k := by
  cases step with
  | birth j absent =>
    have other : k ≠ j := by
      rintro rfl
      rw [absent] at found
      cases found
    exact ⟨(enter_phase_other l _ other).trans found, rfl⟩
  | move j p' q found' moves =>
    have other : k ≠ j := by
      rintro rfl
      rw [found] at found'
      cases found'
      obtain ⟨o, closes⟩ := closed
      exact rules.move_from_open p q o moves closes
    exact ⟨(enter_phase_other l _ other).trans found, rfl⟩
  | settle j p' o found' still_open =>
    have other : k ≠ j := by
      rintro rfl
      rw [found] at found'
      cases found'
      exact still_open closed
    refine ⟨?_, record_outcome_other _ o other⟩
    rw [record_phase, enter_phase_other l _ other, found]

theorem steps_closed {l l' : Ledger Key Phase Outcome} (steps : Steps rules l l') {k : Key}
    {p : Phase} (found : l.phase k = some p) (closed : rules.Closed p) :
    l'.phase k = some p ∧ l'.outcome k = l.outcome k := by
  induction steps with
  | refl => exact ⟨found, rfl⟩
  | tail _ step ih =>
    obtain ⟨found', outcome_eq⟩ := step_closed step ih.1 closed
    exact ⟨found', outcome_eq.trans ih.2⟩

/-- A job that left the initial phase never returns to it. -/
theorem step_left {l l' : Ledger Key Phase Outcome} (step : Step rules l l') {k : Key}
    {p : Phase} (found : l.phase k = some p) (left : p ≠ rules.initial) :
    ∃ q, l'.phase k = some q ∧ q ≠ rules.initial := by
  cases step with
  | birth j absent =>
    have other : k ≠ j := by
      rintro rfl
      rw [absent] at found
      cases found
    exact ⟨p, (enter_phase_other l _ other).trans found, left⟩
  | move j p' q found' moves =>
    by_cases same : k = j
    · subst same
      exact ⟨q, enter_phase l k q, rules.move_away p' q moves⟩
    · exact ⟨p, (enter_phase_other l _ same).trans found, left⟩
  | settle j p' o found' still_open =>
    by_cases same : k = j
    · subst same
      exact ⟨_, enter_phase l k _, rules.initial_open o⟩
    · exact ⟨p, (enter_phase_other l _ same).trans found, left⟩

theorem steps_left {l l' : Ledger Key Phase Outcome} (steps : Steps rules l l') {k : Key}
    {p : Phase} (found : l.phase k = some p) (left : p ≠ rules.initial) :
    ∃ q, l'.phase k = some q ∧ q ≠ rules.initial := by
  induction steps with
  | refl => exact ⟨p, found, left⟩
  | tail _ step ih =>
    obtain ⟨q, found', left'⟩ := ih
    exact step_left step found' left'

end Ledgers
