import ZFleet.Foundations.Runs

/-!
Threads that share a state. An input starts a thread or lets one of them take its next step;
what a step does depends on the shared state, on the thread and on an oracle. A property of
the threads survives every step when the stepping thread has it afterwards and no step can
take it from another.
-/
namespace Threads

structure Pool (S L : Type) where
  shared : S
  threads : List L

inductive Input (L A : Type) where
  | start (thread : L)
  | run (i : Nat) (a : A)

variable {S L A : Type}

/-- The other threads stay where they are. -/
def Pool.put (pool : Pool S L) (i : Nat) (moved : S × L) : Pool S L :=
  ⟨moved.1, pool.threads.set i moved.2⟩

def step (next : S → L → A → S × L) (pool : Pool S L) : Input L A → Pool S L
  | .start thread => ⟨pool.shared, pool.threads ++ [thread]⟩
  | .run i a =>
    match pool.threads[i]? with
    | none => pool
    | some thread => pool.put i (next pool.shared thread a)

variable {next : S → L → A → S × L} {pool : Pool S L}

theorem step_run {i : Nat} {thread : L} (here : pool.threads[i]? = some thread) (a : A) :
    step next pool (.run i a) = pool.put i (next pool.shared thread a) := by
  simp only [step, here]

/-- All that an input can do. -/
inductive Moves (next : S → L → A → S × L) (pool : Pool S L) : Input L A → Pool S L → Prop where
  | started (thread : L) :
      Moves next pool (.start thread) ⟨pool.shared, pool.threads ++ [thread]⟩
  | idle (i : Nat) (a : A) : Moves next pool (.run i a) pool
  | moved (i : Nat) (a : A) (thread : L) : pool.threads[i]? = some thread →
      Moves next pool (.run i a) (pool.put i (next pool.shared thread a))

theorem step_moves (next : S → L → A → S × L) (pool : Pool S L) (input : Input L A) :
    Moves next pool input (step next pool input) := by
  cases input with
  | start thread => exact .started thread
  | run i a =>
    cases here : pool.threads[i]? with
    | none =>
      simp only [step, here]
      exact .idle i a
    | some thread =>
      rw [step_run here]
      exact .moved i a thread here

theorem put_self {i : Nat} {thread : L} (here : pool.threads[i]? = some thread) (moved : S × L) :
    (pool.put i moved).threads[i]? = some moved.2 := by
  obtain ⟨inside, _⟩ := List.getElem?_eq_some_iff.mp here
  unfold Pool.put
  simp [inside]

theorem put_other {i j : Nat} (other : j ≠ i) (moved : S × L) :
    (pool.put i moved).threads[j]? = pool.threads[j]? := by
  unfold Pool.put
  simp [Ne.symm other]

/-- A thread of the new pool is the one that moved or was there before. -/
theorem mem_put {i : Nat} {moved : S × L} {thread : L}
    (member : thread ∈ (pool.put i moved).threads) :
    thread = moved.2 ∨ thread ∈ pool.threads := (List.mem_or_eq_of_mem_set member).symm

/-- What every thread has by itself, under the steps of the others. -/
def Owned (owns : S → L → Prop) (pool : Pool S L) : Prop :=
  ∀ thread ∈ pool.threads, owns pool.shared thread

/-- The rule of assertions free of interference. -/
theorem step_owned {owns : S → L → Prop} {input : Input L A} (owned : Owned owns pool)
    (fresh : ∀ thread, input = .start thread → owns pool.shared thread)
    (own : ∀ i a thread, input = .run i a → pool.threads[i]? = some thread →
      owns (next pool.shared thread a).1 (next pool.shared thread a).2)
    (free : ∀ thread a other, owns pool.shared other →
      owns (next pool.shared thread a).1 other) :
    Owned owns (step next pool input) := by
  intro thread member
  have moves := step_moves next pool input
  generalize step next pool input = after at member moves ⊢
  cases moves with
  | started new =>
    rcases List.mem_append.mp member with before | last
    · exact owned thread before
    · obtain rfl := List.mem_singleton.mp last
      exact fresh thread rfl
  | idle => exact owned thread member
  | moved i a stepped here =>
    rcases mem_put member with rfl | before
    · exact own i a stepped rfl here
    · exact free stepped a thread (owned thread before)

end Threads
