import Mathlib
import ZFleet.Foundations.Runs

/-!
What the steps of a run add up to. Every step gives a list or an amount, and over a run
the lists are joined and the amounts are added. What each step changes by what comes in
and by what goes out, a run changes by all that came in and by all that went out.
-/
namespace Tallies
open Runs
variable {S A X : Type}

/-- What the steps give, in their order. -/
def gathered (step : S → A → S) (gives : S → A → List X) (start : S) : List A → List X
  | [] => []
  | a :: rest => gives start a ++ gathered step gives (step start a) rest

def tally (step : S → A → S) (amount : S → A → Nat) (start : S) : List A → Nat
  | [] => 0
  | a :: rest => amount start a + tally step amount (step start a) rest

theorem mem_gathered {step : S → A → S} {gives : S → A → List X} {start : S} {inputs : List A}
    {x : X} : x ∈ gathered step gives start inputs ↔
      ∃ before a after, inputs = before ++ a :: after ∧ x ∈ gives (run step start before) a := by
  induction inputs generalizing start with
  | nil => simp [gathered]
  | cons b rest ih =>
    simp only [gathered, List.mem_append, ih]
    constructor
    · intro either
      rcases either with now | ⟨before, a, after, split, later⟩
      · exact ⟨[], b, rest, rfl, now⟩
      · exact ⟨b :: before, a, after, by rw [split]; rfl, later⟩
    · intro given
      obtain ⟨before, a, after, split, here⟩ := given
      cases before with
      | nil =>
        obtain ⟨rfl, rfl⟩ := List.cons.inj split
        exact Or.inl here
      | cons c before =>
        obtain ⟨rfl, rest_eq⟩ := List.cons.inj split
        exact Or.inr ⟨before, a, after, rest_eq, here⟩

theorem countP_gathered (step : S → A → S) (gives : S → A → List X) (p : X → Bool) (start : S)
    (inputs : List A) :
    (gathered step gives start inputs).countP p =
      tally step (fun s a => (gives s a).countP p) start inputs := by
  induction inputs generalizing start with
  | nil => rfl
  | cons a rest ih => rw [gathered, List.countP_append, ih, tally]

theorem tally_eq_zero_iff {step : S → A → S} {amount : S → A → Nat} {start : S}
    {inputs : List A} : tally step amount start inputs = 0 ↔
      AllSteps step start inputs fun s a => amount s a = 0 := by
  induction inputs generalizing start with
  | nil => exact iff_of_true rfl (allSteps_nil step start _)
  | cons a rest ih => rw [tally, Nat.add_eq_zero_iff, ih, allSteps_cons]

theorem tally_mono {less more : S → A → Nat} (le : ∀ s a, less s a ≤ more s a)
    (step : S → A → S) (start : S) (inputs : List A) : tally step less start inputs ≤ tally step more start inputs := by
  induction inputs generalizing start with
  | nil => exact Nat.le_refl 0
  | cons a rest ih => exact Nat.add_le_add (le start a) (ih (step start a))

/-- A quantity that grows by what comes in and shrinks by what goes out. -/
theorem run_conserves {step : S → A → S} {keep : S → Prop} {quantity : S → Nat}
    {gained lost : S → A → Nat} (step_keeps : ∀ s a, keep s → keep (step s a))
    (conserves : ∀ s a, keep s → quantity (step s a) + lost s a = quantity s + gained s a)
    {start : S} (first : keep start) (inputs : List A) :
    quantity (run step start inputs) + tally step lost start inputs =
      quantity start + tally step gained start inputs := by
  induction inputs generalizing start with
  | nil => rfl
  | cons a rest ih =>
    have here := conserves start a first
    have later := ih (step_keeps start a first)
    simp only [run_cons, tally]
    omega

/-- What has ended stays so, and nothing comes in any more. -/
theorem run_ended {step : S → A → S} {keep ended : S → Prop} {enters : S → A → List X}
    (step_keeps : ∀ s a, keep s → keep (step s a))
    (stays : ∀ s a, keep s → ended s → ended (step s a))
    (silent : ∀ s a, keep s → ended s → enters s a = []) {start : S} (first : keep start)
    (past : ended start) (inputs : List A) :
    ended (run step start inputs) ∧ gathered step enters start inputs = [] := by
  induction inputs generalizing start with
  | nil => exact ⟨past, rfl⟩
  | cons a rest ih =>
    obtain ⟨still, nothing⟩ := ih (step_keeps start a first) (stays start a first past)
    refine ⟨still, ?_⟩
    rw [gathered, silent start a first past, nothing]
    rfl

/-- A queue that may end: what comes in goes behind what is there, and what goes out is its
    front. When it ends it drops what it holds. -/
theorem run_feeds {step : S → A → S} {keep ended : S → Prop} {contents : S → List X}
    {enters leaves : S → A → List X} (step_keeps : ∀ s a, keep s → keep (step s a))
    (stays : ∀ s a, keep s → ended s → ended (step s a))
    (silent : ∀ s a, keep s → ended s → enters s a = [])
    (feeds : ∀ s a, keep s → leaves s a ++ contents (step s a) = contents s ++ enters s a ∨
      ended (step s a) ∧ leaves s a ++ contents (step s a) = [])
    {start : S} (first : keep start) (inputs : List A) :
    gathered step leaves start inputs ++ contents (run step start inputs) <+:
        contents start ++ gathered step enters start inputs ∧
      (¬ ended (run step start inputs) →
        gathered step leaves start inputs ++ contents (run step start inputs) =
          contents start ++ gathered step enters start inputs) := by
  induction inputs generalizing start with
  | nil => simp [gathered]
  | cons a rest ih =>
    have kept := step_keeps start a first
    obtain ⟨later, exactly⟩ := ih kept
    simp only [run_cons, gathered, List.append_assoc]
    rcases feeds start a first with flows | ⟨past, nothing⟩
    · have onward : contents start ++ (enters start a ++ gathered step enters (step start a) rest) =
          leaves start a ++
            (contents (step start a) ++ gathered step enters (step start a) rest) := by
        rw [← List.append_assoc, ← flows, List.append_assoc]
      rw [onward, List.prefix_append_right_inj]
      refine ⟨later, ?_⟩
      intro going
      rw [exactly going]
    · obtain ⟨still, none_in⟩ := run_ended step_keeps stays silent kept past rest
      obtain ⟨left, held⟩ := List.append_eq_nil_iff.mp nothing
      rw [none_in, held] at later
      rw [left, List.nil_append, List.prefix_nil.mp later]
      exact ⟨List.nil_prefix, fun going => absurd still going⟩

/-- A sum past a list without repetitions in which one term is another one now. -/
theorem sum_exchanged {f g : X → Nat} {x : X} {l : List X} (same : ∀ y, y ≠ x → g y = f y)
    (once : l.Nodup) (absent : x ∉ l → f x = g x) :
    (l.map g).sum + f x = (l.map f).sum + g x := by
  induction l with
  | nil => simpa using absent
  | cons y l ih =>
    obtain ⟨missing, rest⟩ := List.nodup_cons.mp once
    simp only [List.map_cons, List.sum_cons]
    by_cases here : y = x
    · subst here
      have others : l.map g = l.map f := by
        apply List.map_congr_left
        intro z inside
        exact same z fun equal => missing (equal ▸ inside)
      rw [others]
      omega
    · have later := ih rest fun missing' => absent (by simp [Ne.symm here, missing'])
      rw [same y here]
      omega

/-- Different keys that select different things count nothing twice. -/
theorem sum_countP_le {K : Type} {selects : K → X → Bool}
    (disjoint : ∀ k k' x, selects k x = true → selects k' x = true → k = k') (p : X → Bool)
    {keys : List K} (distinct : keys.Nodup) (l : List X) :
    (keys.map fun k => (l.filter (selects k)).countP p).sum ≤ l.countP p := by
  induction keys generalizing l with
  | nil => exact Nat.zero_le _
  | cons k keys ih =>
    obtain ⟨missing, rest⟩ := List.nodup_cons.mp distinct
    have others : ∀ k' ∈ keys, l.filter (selects k') =
        (l.filter fun x => !selects k x).filter (selects k') := by
      intro k' member
      rw [List.filter_filter]
      apply List.filter_congr
      intro x _
      cases chosen : selects k' x with
      | false => rfl
      | true =>
        cases here : selects k x with
        | false => rfl
        | true => exact absurd (disjoint k k' x here chosen ▸ member) missing
    have later := ih rest (l.filter fun x => !selects k x)
    rw [List.map_cons, List.sum_cons, List.countP_eq_countP_filter_add l p (selects k)]
    rw [List.map_congr_left fun k' member => by rw [others k' member]]
    omega

end Tallies
