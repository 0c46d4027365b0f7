import Mathlib.Data.List.Basic

/-!
Output streams with a position. Writing at the end appends; going back, writing over what is
there and returning changes that part alone.
-/
namespace OutputStreams

structure OutputStream (α : Type) where
  written : List α
  position : Nat
  deriving DecidableEq, Repr

variable {α : Type}

/-- The stream stands behind everything that was written. -/
def atEnd (written : List α) : OutputStream α := ⟨written, written.length⟩

/-- What is behind the position is written over. -/
def OutputStream.write (stream : OutputStream α) (items : List α) : OutputStream α where
  written := stream.written.take stream.position ++ items ++
    stream.written.drop (stream.position + items.length)
  position := stream.position + items.length

def OutputStream.seekp (stream : OutputStream α) (position : Nat) : OutputStream α :=
  { stream with position }

@[simp] theorem atEnd_position (written : List α) : (atEnd written).position = written.length :=
  rfl

@[simp] theorem atEnd_written (written : List α) : (atEnd written).written = written := rfl

@[simp] theorem write_position (stream : OutputStream α) (items : List α) :
    (stream.write items).position = stream.position + items.length := rfl

theorem seekp_end {written : List α} {position : Nat} (there : position = written.length) :
    (atEnd written).seekp position = atEnd written := by
  rw [there]
  rfl

theorem write_atEnd (front items : List α) :
    (atEnd front).write items = atEnd (front ++ items) := by
  unfold OutputStream.write atEnd
  simp [List.take_length, List.drop_eq_nil_of_le]

/-- Items that take the place of as many others. -/
theorem write_over (front old new behind : List α) (same : new.length = old.length) :
    (((atEnd (front ++ old ++ behind)).seekp front.length).write new).seekp
      (front ++ old ++ behind).length = atEnd (front ++ new ++ behind) := by
  have kept : (front ++ old ++ behind).take front.length = front := by
    rw [List.append_assoc, List.take_left]
  have rest : (front ++ old ++ behind).drop (front.length + new.length) = behind := by
    rw [same, ← List.length_append, List.drop_left]
  have length : (front ++ old ++ behind).length = (front ++ new ++ behind).length := by
    simp [same]
  unfold OutputStream.write OutputStream.seekp atEnd
  simp only
  rw [kept, rest, length]

end OutputStreams
