import ZFleet.Foundations.Runs

/-!
Programs over a state that may throw, and the rules to reason about them: what holds when a
program returns and what holds when it throws. Programs that note what they did keep to a
protocol when a guarded machine accepts their notes.
-/
namespace Dialogues

/-- A program reads and changes a state and may throw a message. What it changed before it
    throws stays. -/
def Program (σ α : Type) := σ → Except String α × σ

variable {σ α β : Type}

instance : Monad (Program σ) where
  pure a := fun s => (.ok a, s)
  bind program next := fun s =>
    match program s with
    | (.ok a, s') => next a s'
    | (.error message, s') => (.error message, s')

def raise (message : String) : Program σ α := fun s => (.error message, s)

/-- Run the body; the handler goes on when it throws. -/
def attempt (body : Program σ α) (handler : String → Program σ α) : Program σ α := fun s =>
  match body s with
  | (.ok a, s') => (.ok a, s')
  | (.error message, s') => handler message s'

def look (read : σ → α) : Program σ α := fun s => (.ok (read s), s)

def change (f : σ → σ) : Program σ Unit := fun s => (.ok (), f s)

def ofExcept (result : Except String α) : Program σ α := fun s => (result, s)

/-- From a state with `before` the program returns with `after` or throws with `thrown`. -/
structure Ensures (before : σ → Prop) (program : Program σ α) (after : α → σ → Prop)
    (thrown : σ → Prop) : Prop where
  returns : ∀ s a s', before s → program s = (.ok a, s') → after a s'
  throws : ∀ s message s', before s → program s = (.error message, s') → thrown s'

variable {before middle : σ → Prop} {after : α → σ → Prop} {thrown : σ → Prop}

theorem ensures_mono {program : Program σ α} {before' : σ → Prop} {after' : α → σ → Prop}
    {thrown' : σ → Prop} (ensures : Ensures before program after thrown)
    (weaker : ∀ s, before' s → before s) (stronger : ∀ a s, after a s → after' a s)
    (worse : ∀ s, thrown s → thrown' s) : Ensures before' program after' thrown' where
  returns := fun s a s' holds ran => stronger a s' (ensures.returns s a s' (weaker s holds) ran)
  throws := fun s message s' holds ran =>
    worse s' (ensures.throws s message s' (weaker s holds) ran)

/-- A fact that does not depend on the state. -/
theorem ensures_fact {program : Program σ α} {fact : Prop}
    (ensures : fact → Ensures before program after thrown) :
    Ensures (fun s => before s ∧ fact) program after thrown where
  returns := fun s a s' here => (ensures here.2).returns s a s' here.1
  throws := fun s message s' here => (ensures here.2).throws s message s' here.1

theorem ensures_exists {ι : Type} {holds : ι → σ → Prop} {program : Program σ α}
    (ensures : ∀ i, Ensures (holds i) program after thrown) :
    Ensures (fun s => ∃ i, holds i s) program after thrown where
  returns := fun s a s' ⟨i, here⟩ => (ensures i).returns s a s' here
  throws := fun s message s' ⟨i, here⟩ => (ensures i).throws s message s' here

theorem ensures_pure (a : α) (holds : ∀ s, before s → after a s) :
    Ensures before (pure a) after thrown where
  returns := by
    intro s a' s' here ran
    cases ran
    exact holds s here
  throws := by
    intro s message s' _ ran
    cases ran

theorem ensures_raise (message : String) (holds : ∀ s, before s → thrown s) :
    Ensures before (raise message : Program σ α) after thrown where
  returns := by
    intro s a s' _ ran
    cases ran
  throws := by
    intro s message' s' here ran
    cases ran
    exact holds s here

theorem bind_run (program : Program σ α) (next : α → Program σ β) (s : σ) :
    (program >>= next) s = match program s with
      | (.ok a, s') => next a s'
      | (.error message, s') => (.error message, s') := rfl

theorem ensures_bind {program : Program σ β} {next : β → Program σ α} {between : β → σ → Prop}
    (first : Ensures before program between thrown)
    (rest : ∀ b, Ensures (between b) (next b) after thrown) :
    Ensures before (program >>= next) after thrown where
  returns := by
    intro s a s' here ran
    rw [bind_run] at ran
    cases result : program s with
    | mk value s₁ =>
      rw [result] at ran
      cases value with
      | ok b => exact (rest b).returns s₁ a s' (first.returns s b s₁ here result) ran
      | error message => cases ran
  throws := by
    intro s message s' here ran
    rw [bind_run] at ran
    cases result : program s with
    | mk value s₁ =>
      rw [result] at ran
      cases value with
      | ok b => exact (rest b).throws s₁ message s' (first.returns s b s₁ here result) ran
      | error other =>
        cases ran
        exact first.throws s message s' here result

theorem ensures_attempt {body : Program σ α} {handler : String → Program σ α}
    (tried : Ensures before body after middle)
    (handled : ∀ message, Ensures middle (handler message) after thrown) :
    Ensures before (attempt body handler) after thrown where
  returns := by
    intro s a s' here ran
    unfold attempt at ran
    cases result : body s with
    | mk value s₁ =>
      rw [result] at ran
      cases value with
      | ok b =>
        cases ran
        exact tried.returns s a s' here result
      | error message =>
        exact (handled message).returns s₁ a s' (tried.throws s message s₁ here result) ran
  throws := by
    intro s message s' here ran
    unfold attempt at ran
    cases result : body s with
    | mk value s₁ =>
      rw [result] at ran
      cases value with
      | ok b => cases ran
      | error other =>
        exact (handled other).throws s₁ message s' (tried.throws s other s₁ here result) ran

theorem ensures_look (read : σ → α) (holds : ∀ s, before s → after (read s) s) :
    Ensures before (look read) after thrown where
  returns := by
    intro s a s' here ran
    cases ran
    exact holds s here
  throws := by
    intro s message s' _ ran
    cases ran

theorem ensures_change {f : σ → σ} {after : Unit → σ → Prop}
    (holds : ∀ s, before s → after () (f s)) : Ensures before (change f) after thrown where
  returns := by
    intro s a s' here ran
    cases ran
    exact holds s here
  throws := by
    intro s message s' _ ran
    cases ran

theorem ensures_ofExcept (result : Except String α)
    (holds : ∀ s a, before s → result = .ok a → after a s)
    (fails : ∀ s, before s → thrown s) : Ensures before (ofExcept result) after thrown where
  returns := by
    intro s a s' here ran
    cases ran
    exact holds s a here rfl
  throws := by
    intro s message s' here ran
    cases ran
    exact fails s here

/-- A program of one step, told by its result. -/
theorem ensures_step {program : Program σ α}
    (holds : ∀ s, before s → match program s with
      | (.ok a, s') => after a s'
      | (.error _, s') => thrown s') : Ensures before program after thrown where
  returns := by
    intro s a s' here ran
    have result := holds s here
    rw [ran] at result
    exact result
  throws := by
    intro s message s' here ran
    have result := holds s here
    rw [ran] at result
    exact result

end Dialogues
