import Mathlib.Data.List.Basic
import Mathlib.Data.List.Induction

/-!
Runs of deterministic machines. A machine is either total (`run` folds its
inputs) or guarded (`trace` stops at the first input that is not enabled).
Invariants are proved of one step and used for whole runs; the last section
follows one observable through a run and finds the step that changed it.
-/
namespace Runs
variable {S A X : Type}

def run (step : S → A → S) (start : S) (inputs : List A) : S := inputs.foldl step start

@[simp] theorem run_nil (step : S → A → S) (start : S) : run step start [] = start := rfl

@[simp] theorem run_cons (step : S → A → S) (start : S) (a : A) (rest : List A) :
    run step start (a :: rest) = run step (step start a) rest := rfl

theorem run_append (step : S → A → S) (start : S) (first rest : List A) :
    run step start (first ++ rest) = run step (run step start first) rest := by
  simp [run]

theorem run_snoc (step : S → A → S) (start : S) (inputs : List A) (a : A) :
    run step start (inputs ++ [a]) = step (run step start inputs) a := by
  simp [run]

/-- The step at position `before.length` of a run, named by the inputs around it. -/
def AllSteps (step : S → A → S) (start : S) (inputs : List A) (holds : S → A → Prop) : Prop :=
  ∀ before a after, inputs = before ++ a :: after → holds (run step start before) a

theorem allSteps_nil (step : S → A → S) (start : S) (holds : S → A → Prop) :
    AllSteps step start [] holds := by
  intro before a after split
  simp at split

theorem allSteps_cons (step : S → A → S) (start : S) (a : A) (rest : List A)
    (holds : S → A → Prop) :
    AllSteps step start (a :: rest) holds ↔
      holds start a ∧ AllSteps step (step start a) rest holds := by
  constructor
  · intro all
    refine ⟨all [] a rest rfl, ?_⟩
    intro before b after split
    exact all (a :: before) b after (by rw [split]; rfl)
  · rintro ⟨first, later⟩ before b after split
    cases before with
    | nil =>
      obtain ⟨rfl, rfl⟩ := List.cons.inj split
      exact first
    | cons c before =>
      obtain ⟨rfl, rest_eq⟩ := List.cons.inj split
      exact later before b after rest_eq

instance decidableAllSteps (step : S → A → S) (holds : S → A → Prop)
    [decides : ∀ s a, Decidable (holds s a)] :
    ∀ (start : S) (inputs : List A), Decidable (AllSteps step start inputs holds)
  | start, [] => isTrue (allSteps_nil step start holds)
  | start, a :: rest =>
    have := decidableAllSteps step holds (step start a) rest
    decidable_of_iff (holds start a ∧ AllSteps step (step start a) rest holds)
      (allSteps_cons step start a rest holds).symm

theorem allSteps_mono {step : S → A → S} {start : S} {inputs : List A}
    {holds weaker : S → A → Prop} (all : AllSteps step start inputs holds)
    (imp : ∀ s a, holds s a → weaker s a) : AllSteps step start inputs weaker :=
  fun before a after split => imp _ _ (all before a after split)

theorem allSteps_prefix {step : S → A → S} {start : S} {first rest : List A}
    {holds : S → A → Prop} (all : AllSteps step start (first ++ rest) holds) :
    AllSteps step start first holds := by
  intro before a after split
  exact all before a (after ++ rest) (by rw [split]; simp)

/-- A step that keeps the invariant whenever its side condition holds keeps it over
    every run whose steps all meet the condition. -/
theorem run_invariant {step : S → A → S} {start : S} {inputs : List A}
    (keep : S → Prop) (side : S → A → Prop)
    (step_keeps : ∀ s a, keep s → side s a → keep (step s a))
    (sides : AllSteps step start inputs side) (first : keep start) :
    keep (run step start inputs) := by
  induction inputs generalizing start with
  | nil => exact first
  | cons a rest ih =>
    obtain ⟨here, later⟩ := (allSteps_cons step start a rest side).mp sides
    exact ih later (step_keeps start a first here)

theorem run_invariant_always {step : S → A → S} (keep : S → Prop)
    (step_keeps : ∀ s a, keep s → keep (step s a)) (start : S) (first : keep start)
    (inputs : List A) : keep (run step start inputs) :=
  run_invariant keep (fun _ _ => True) (fun s a k _ => step_keeps s a k)
    (fun _ _ _ _ => trivial) first

/-- The invariant also holds before every step of the run. -/
theorem allSteps_of_invariant {step : S → A → S} (keep : S → Prop)
    (step_keeps : ∀ s a, keep s → keep (step s a)) (start : S) (first : keep start)
    (inputs : List A) : AllSteps step start inputs (fun s _ => keep s) :=
  fun before _ _ _ => run_invariant_always keep step_keeps start first before

/-- While the side condition held so far the invariant does, and then a step with an allowed
    input is good exactly when it meets the condition: a run of such inputs is good in every
    step exactly when every step meets the condition. -/
theorem allSteps_iff_sides_on {step : S → A → S} {start : S} (inputs : List A)
    (allowed : A → Prop) (all_allowed : ∀ a ∈ inputs, allowed a) (keep : S → Prop)
    (side good : S → A → Prop) (first : keep start)
    (step_keeps : ∀ s a, keep s → side s a → keep (step s a))
    (exact_here : ∀ s a, allowed a → keep s → (good s a ↔ side s a)) :
    AllSteps step start inputs good ↔ AllSteps step start inputs side := by
  induction inputs generalizing start with
  | nil => exact iff_of_true (allSteps_nil step start good) (allSteps_nil step start side)
  | cons a rest ih =>
    rw [allSteps_cons, allSteps_cons, exact_here start a (all_allowed a (by simp)) first]
    apply and_congr_right
    intro here
    exact ih (fun b member => all_allowed b (List.mem_cons_of_mem a member))
      (step_keeps start a first here)

theorem allSteps_iff_sides {step : S → A → S} {start : S} (inputs : List A) (keep : S → Prop)
    (side good : S → A → Prop) (first : keep start)
    (step_keeps : ∀ s a, keep s → side s a → keep (step s a))
    (exact_here : ∀ s a, keep s → (good s a ↔ side s a)) :
    AllSteps step start inputs good ↔ AllSteps step start inputs side :=
  allSteps_iff_sides_on inputs (fun _ => True) (fun _ _ => trivial) keep side good first
    step_keeps fun s a _ => exact_here s a

/-- Two runs in lockstep: a relation kept by paired steps relates the final states. -/
theorem run_simulation {T : Type} {step : S → A → S} {other : T → A → T}
    (related : S → T → Prop)
    (step_keeps : ∀ s t a, related s t → related (step s a) (other t a))
    {start : S} {start' : T} (first : related start start') (inputs : List A) :
    related (run step start inputs) (run other start' inputs) := by
  induction inputs generalizing start start' with
  | nil => exact first
  | cons a rest ih => exact ih (step_keeps start start' a first)

/-! Guarded machines -/

def trace (step : S → A → Option S) (start : S) : List A → Option S
  | [] => some start
  | a :: rest => (step start a).bind fun next => trace step next rest

theorem trace_cons_some {step : S → A → Option S} {start final : S} {a : A} {rest : List A}
    (ran : trace step start (a :: rest) = some final) :
    ∃ next, step start a = some next ∧ trace step next rest = some final :=
  Option.bind_eq_some_iff.mp ran

theorem trace_append (step : S → A → Option S) (start : S) (first rest : List A) :
    trace step start (first ++ rest) =
      (trace step start first).bind fun middle => trace step middle rest := by
  induction first generalizing start with
  | nil => rfl
  | cons a first ih =>
    simp only [List.cons_append, trace, Option.bind_assoc]
    congr 1
    funext next
    exact ih next

theorem trace_append_some {step : S → A → Option S} {start final : S} {first rest : List A}
    (ran : trace step start (first ++ rest) = some final) :
    ∃ middle, trace step start first = some middle ∧ trace step middle rest = some final := by
  rw [trace_append] at ran
  exact Option.bind_eq_some_iff.mp ran

/-- Every step of a guarded run satisfies `holds`. -/
def Along (step : S → A → Option S) (holds : S → A → Prop) (start : S) : List A → Prop
  | [] => True
  | a :: rest => holds start a ∧ ∀ next, step start a = some next → Along step holds next rest

theorem trace_invariant {step : S → A → Option S} {start final : S} {inputs : List A}
    (keep : S → Prop) (side : S → A → Prop)
    (step_keeps : ∀ s a s', keep s → side s a → step s a = some s' → keep s')
    (sides : Along step side start inputs) (first : keep start)
    (ran : trace step start inputs = some final) : keep final := by
  induction inputs generalizing start with
  | nil =>
    obtain rfl : start = final := Option.some.inj ran
    exact first
  | cons a rest ih =>
    obtain ⟨next, taken, later⟩ := trace_cons_some ran
    exact ih (sides.2 next taken) (step_keeps start a next first sides.1 taken) later

theorem along_of_always {step : S → A → Option S} {holds : S → A → Prop}
    (always : ∀ s a, holds s a) (start : S) (inputs : List A) :
    Along step holds start inputs := by
  induction inputs generalizing start with
  | nil => trivial
  | cons a rest ih => exact ⟨always start a, fun next _ => ih next⟩

theorem trace_invariant_always {step : S → A → Option S} {start final : S} {inputs : List A}
    (keep : S → Prop) (step_keeps : ∀ s a s', keep s → step s a = some s' → keep s')
    (first : keep start) (ran : trace step start inputs = some final) : keep final :=
  trace_invariant keep (fun _ _ => True) (fun s a s' k _ => step_keeps s a s' k)
    (along_of_always (fun _ _ => trivial) start inputs) first ran

/-! One observable followed through a run -/

/-- If the observable ends at `y` and did not start there, some step moved it to `y`. -/
theorem observable_entered {step : S → A → S} (view : S → X) {start : S} {inputs : List A}
    {y : X} (ends : view (run step start inputs) = y) (elsewhere : view start ≠ y) :
    ∃ before a after, inputs = before ++ a :: after ∧
      view (run step start before) ≠ y ∧ view (run step start (before ++ [a])) = y := by
  induction inputs using List.reverseRecOn with
  | nil => exact absurd ends elsewhere
  | append_singleton inputs a ih =>
    by_cases already : view (run step start inputs) = y
    · obtain ⟨before, b, after, split, out, into⟩ := ih already
      exact ⟨before, b, after ++ [a], by rw [split]; simp, out, into⟩
    · exact ⟨inputs, a, [], rfl, already, ends⟩

end Runs
