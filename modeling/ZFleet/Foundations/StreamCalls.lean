import Mathlib.Data.List.Infix

/-!
Calls of a coder that has a buffer for its input and one for its output. A call takes in and
delivers as far as the buffers allow; how far it goes on taking in when the output is full is
left to the coder. A call that can do neither says so.
-/
namespace StreamCalls

/-- How much was taken in and delivered so far. -/
structure Progress where
  consumed : Nat
  produced : Nat
  deriving DecidableEq, Repr

inductive Code where
  | ok
  | streamEnd
  | streamError
  | bufError
  deriving DecidableEq, Repr

/-- The coder's choices, for what it can deliver once it has taken in so many items. -/
structure Calls {α : Type} (room : Nat) (output : Nat → List α) where
  take : Nat → Nat → Nat → Nat
  /-- The end is told with the last output, also if that fills the buffer. -/
  endsFull : Bool
  within : ∀ consumed produced limit, consumed ≤ limit →
    consumed ≤ take consumed produced limit ∧ take consumed produced limit ≤ limit
  /-- It stops at the end of the input or with a full output. -/
  exhausts : ∀ consumed produced limit, consumed ≤ limit → take consumed produced limit = limit ∨
    produced + room ≤ (output (take consumed produced limit)).length

/-- The coder that takes all of its input in at once. -/
def Calls.eager {α : Type} (room : Nat) (output : Nat → List α) : Calls room output where
  take _ _ limit := limit
  endsFull := true
  within _ _ limit below := ⟨below, Nat.le_refl limit⟩
  exhausts _ _ _ _ := .inl rfl

/-- Not further than the input, and not more than what it gives. -/
structure Sound {α : Type} (output : Nat → List α) (limit : Nat) (s : Progress) : Prop where
  consumed : s.consumed ≤ limit
  produced : s.produced ≤ (output s.consumed).length

/-- A number of full buffers stands between the two. -/
def Aligned (room before after : Nat) : Prop := ∃ j, 0 < j ∧ after = before + j * room

section Call

variable {α : Type} {room : Nat} {output : Nat → List α}

def Calls.out (z : Calls room output) (limit : Nat) (s : Progress) : List α :=
  ((output (z.take s.consumed s.produced limit)).drop s.produced).take room

def Calls.next (z : Calls room output) (limit : Nat) (s : Progress) : Progress where
  consumed := z.take s.consumed s.produced limit
  produced := s.produced + (z.out limit s).length

/-- What a call says; `last` if nothing comes behind the input. -/
def Calls.code (z : Calls room output) (last : Bool) (limit : Nat) (s : Progress) : Code :=
  if last = true ∧ z.next limit s = ⟨limit, (output limit).length⟩ ∧
      ((z.out limit s).length < room ∨ z.endsFull = true) then .streamEnd
  else if (z.next limit s).consumed = s.consumed ∧ z.out limit s = [] then .bufError
  else .ok

variable (z : Calls room output) {limit : Nat} {s : Progress}

theorem out_length_le : (z.out limit s).length ≤ room := by
  unfold Calls.out
  rw [List.length_take]
  exact Nat.min_le_left _ _

theorem out_length : (z.out limit s).length =
    min room ((output (z.next limit s).consumed).length - s.produced) := by
  unfold Calls.out
  rw [List.length_take, List.length_drop]
  rfl

theorem code_not_streamError (last : Bool) : z.code last limit s ≠ .streamError := by
  unfold Calls.code
  split
  · nofun
  · split
    · nofun
    · nofun

/-- A call that fills the output is no failure. -/
theorem full_code (positive : 0 < room) (last : Bool) (full : (z.out limit s).length = room) :
    z.code last limit s = .ok ∨ z.code last limit s = .streamEnd := by
  have some_out : z.out limit s ≠ [] := by
    intro nothing
    rw [nothing] at full
    exact Nat.lt_irrefl 0 (by rw [← full] at positive; exact positive)
  unfold Calls.code
  split
  · exact .inr rfl
  · rw [if_neg (fun idle => some_out idle.2)]
    exact .inl rfl

variable (grows : ∀ n m, n ≤ m → output n <+: output m) (sound : Sound output limit s)
include grows sound

theorem next_produced : s.produced ≤ (output (z.next limit s).consumed).length := by
  have onward := (z.within s.consumed s.produced limit sound.consumed).1
  have longer := (grows _ _ onward).length_le
  exact Nat.le_trans sound.produced longer

theorem next_sound : Sound output limit (z.next limit s) := by
  have below := next_produced z grows sound
  constructor
  · exact (z.within s.consumed s.produced limit sound.consumed).2
  · change s.produced + (z.out limit s).length ≤ _
    rw [out_length]
    omega

/-- What is delivered goes on where the calls before stopped. -/
theorem out_written : (output limit).take s.produced ++ z.out limit s =
    (output limit).take (z.next limit s).produced := by
  obtain ⟨behind, whole⟩ := grows _ _ (z.within s.consumed s.produced limit sound.consumed).2
  have below := next_produced z grows sound
  have added := @out_length α room output z limit s
  have shown : z.out limit s = ((output limit).drop s.produced).take (z.out limit s).length := by
    rw [added, ← whole]
    change s.produced ≤ (output (z.take s.consumed s.produced limit)).length at below
    change z.out limit s = (((output (z.take s.consumed s.produced limit)) ++ behind).drop
      s.produced).take (min room ((output (z.take s.consumed s.produced limit)).length - s.produced))
    have least := Nat.min_le_right room
      ((output (z.take s.consumed s.produced limit)).length - s.produced)
    rw [List.drop_append_of_le_length below, List.take_append_of_le_length]
    · rw [← List.length_drop, ← List.take_eq_take_min]
      rfl
    · rw [List.length_drop]
      exact least
  change _ = (output limit).take (s.produced + (z.out limit s).length)
  rw [List.take_add, ← shown]

/-- A call that leaves room has taken in and delivered everything. -/
theorem short_ends (short : (z.out limit s).length ≠ room) :
    z.next limit s = ⟨limit, (output limit).length⟩ := by
  have below := next_produced z grows sound
  have added := @out_length α room output z limit s
  have all_taken : (z.next limit s).consumed = limit := by
    rcases z.exhausts s.consumed s.produced limit sound.consumed with whole | full
    · exact whole
    · change s.produced + room ≤ (output (z.next limit s).consumed).length at full
      omega
  have all_out : (z.next limit s).produced = (output limit).length := by
    change s.produced + (z.out limit s).length = _
    rw [all_taken] at added below
    omega
  cases moved : z.next limit s with
  | mk consumed produced =>
    rw [moved] at all_taken all_out
    rw [show consumed = limit from all_taken, show produced = (output limit).length from all_out]

/-- It says so at the end, and it has done nothing if everything was done before. -/
theorem short_code (last : Bool) (short : (z.out limit s).length ≠ room) :
    z.code last limit s = if last then .streamEnd
      else if s = ⟨limit, (output limit).length⟩ then .bufError else .ok := by
  have ended := short_ends z grows sound short
  have below : (z.out limit s).length < room :=
    Nat.lt_of_le_of_ne (out_length_le z) short
  unfold Calls.code
  cases last with
  | true => rw [if_pos ⟨rfl, ended, .inl below⟩, if_pos rfl]
  | false =>
    have total : s.produced + (z.out limit s).length = (output limit).length :=
      congrArg Progress.produced ended
    have idle : ((z.next limit s).consumed = s.consumed ∧ z.out limit s = []) ↔
        s = ⟨limit, (output limit).length⟩ := by
      rw [ended]
      constructor
      · rintro ⟨taken, nothing⟩
        rw [nothing] at total
        cases s with
        | mk consumed produced =>
          rw [show consumed = limit from taken.symm,
            show produced = (output limit).length from total]
      · intro done
        refine ⟨by rw [done], List.eq_nil_of_length_eq_zero ?_⟩
        rw [show s.produced = (output limit).length from congrArg Progress.produced done] at total
        omega
    rw [if_neg (by simp), if_neg (show ¬ (false = true) by simp)]
    exact if_congr idle rfl rfl

end Call

end StreamCalls
