import Mathlib.Data.UInt
import Mathlib.Data.List.Basic
import Mathlib.Tactic.IntervalCases

/-!
Frames with a four-byte big-endian length in front. The decoder keeps what is left of
a frame that has not arrived in full, so the frames it finds do not depend on where
the bytes were cut into chunks.
-/
namespace FrameCodec

abbrev Bytes := List UInt8

def lengthPrefixBytes : Nat := 4

def kDefaultMaxFrameBytes : UInt32 := 1024 * 1024

/-- The length in the first four bytes. -/
def readBigEndianLength (b₀ b₁ b₂ b₃ : UInt8) : UInt32 :=
  b₀.toUInt32 <<< 24 ||| b₁.toUInt32 <<< 16 ||| b₂.toUInt32 <<< 8 ||| b₃.toUInt32

def bigEndianLength (length : UInt32) : Bytes :=
  [((length >>> 24) &&& 0xff).toUInt8, ((length >>> 16) &&& 0xff).toUInt8,
    ((length >>> 8) &&& 0xff).toUInt8, (length &&& 0xff).toUInt8]

def frameOf (payload : Bytes) : Bytes := bigEndianLength payload.length.toUInt32 ++ payload

theorem frameOf_ne_nil (payload : Bytes) : frameOf payload ≠ [] := by
  simp [frameOf, bigEndianLength]

def encodeFrame (payload : Bytes) : Except String Bytes :=
  if payload.length > UInt32.size - 1 then .error "protobuf frame is too large"
  else .ok (frameOf payload)

/-- One turn of the loop: the first frame and the bytes behind it. -/
def takeFrame (maxFrameBytes : UInt32) : Bytes → Except String (Option (Bytes × Bytes))
  | b₀ :: b₁ :: b₂ :: b₃ :: rest =>
    let length := readBigEndianLength b₀ b₁ b₂ b₃
    if length > maxFrameBytes then .error "protobuf frame exceeds maximum size"
    else if rest.length < length.toNat then .ok none
    else .ok (some (rest.take length.toNat, rest.drop length.toNat))
  | _ => .ok none

/-- The loop, with a turn for every byte. Frames found before an oversized one are lost
    with the exception, and their bytes are gone. -/
def drainFrames (maxFrameBytes : UInt32) : Nat → Bytes → Bytes × Except String (List Bytes)
  | 0, buffer => (buffer, .ok [])
  | turns + 1, buffer =>
    match takeFrame maxFrameBytes buffer with
    | .error message => (buffer, .error message)
    | .ok none => (buffer, .ok [])
    | .ok (some (frame, rest)) =>
      ((drainFrames maxFrameBytes turns rest).1,
        (drainFrames maxFrameBytes turns rest).2.map (frame :: ·))

def drain (maxFrameBytes : UInt32) (buffer : Bytes) : Bytes × Except String (List Bytes) :=
  drainFrames maxFrameBytes buffer.length buffer

structure FrameDecoder where
  maxFrameBytes : UInt32
  positive : maxFrameBytes ≠ 0
  buffer : Bytes

namespace FrameDecoder

def new (maxFrameBytes : UInt32) : Except String FrameDecoder :=
  if positive : maxFrameBytes = 0 then .error "max frame size must be positive"
  else .ok { maxFrameBytes, positive, buffer := [] }

def fresh : FrameDecoder where
  maxFrameBytes := kDefaultMaxFrameBytes
  positive := by decide
  buffer := []

def push (decoder : FrameDecoder) (bytes : Bytes) : FrameDecoder × Except String (List Bytes) :=
  let drained := drain decoder.maxFrameBytes (decoder.buffer ++ bytes)
  ({ decoder with buffer := drained.1 }, drained.2)

end FrameDecoder

/-! One frame -/

theorem takeFrame_shorter {maxFrameBytes : UInt32} {buffer frame rest : Bytes}
    (taken : takeFrame maxFrameBytes buffer = .ok (some (frame, rest))) :
    rest.length < buffer.length := by
  unfold takeFrame at taken
  split at taken
  · rename_i b₀ b₁ b₂ b₃ tail
    simp only at taken
    split at taken
    · cases taken
    · split at taken
      · cases taken
      · cases taken
        simp only [List.length_drop, List.length_cons]
        omega
  · cases taken

/-- A frame that has arrived is the same whatever arrives behind it. -/
theorem takeFrame_append {maxFrameBytes : UInt32} {buffer frame rest : Bytes}
    (taken : takeFrame maxFrameBytes buffer = .ok (some (frame, rest))) (more : Bytes) :
    takeFrame maxFrameBytes (buffer ++ more) = .ok (some (frame, rest ++ more)) := by
  unfold takeFrame at taken
  split at taken
  · rename_i b₀ b₁ b₂ b₃ tail
    simp only at taken
    split at taken
    · cases taken
    · rename_i fits
      split at taken
      · cases taken
      · rename_i arrived
        cases taken
        have enough : (readBigEndianLength b₀ b₁ b₂ b₃).toNat ≤ tail.length := by omega
        have arrived' : ¬ (tail ++ more).length < (readBigEndianLength b₀ b₁ b₂ b₃).toNat := by
          rw [List.length_append]
          omega
        simp only [List.cons_append, takeFrame, if_neg fits, if_neg arrived',
          List.take_append_of_le_length enough, List.drop_append_of_le_length enough]
  · cases taken

theorem takeFrame_error_append {maxFrameBytes : UInt32} {buffer : Bytes} {message : String}
    (failed : takeFrame maxFrameBytes buffer = .error message) (more : Bytes) :
    takeFrame maxFrameBytes (buffer ++ more) = .error message := by
  unfold takeFrame at failed
  split at failed
  · rename_i b₀ b₁ b₂ b₃ tail
    simp only at failed
    split at failed
    · rename_i exceeds
      cases failed
      simp only [List.cons_append, takeFrame, if_pos exceeds]
    · split at failed
      · cases failed
      · cases failed
  · cases failed

/-! The loop -/

theorem drainFrames_enough {maxFrameBytes : UInt32} {turns : Nat} {buffer : Bytes}
    (enough : buffer.length ≤ turns) :
    drainFrames maxFrameBytes turns buffer = drain maxFrameBytes buffer := by
  induction turns using Nat.strongRecOn generalizing buffer with
  | ind turns ih =>
    unfold drain
    cases turns with
    | zero =>
      have none_left : buffer.length = 0 := by omega
      rw [none_left]
    | succ turns =>
      cases size : buffer.length with
      | zero =>
        have empty : buffer = [] := List.eq_nil_of_length_eq_zero size
        subst empty
        rfl
      | succ size' =>
        simp only [drainFrames]
        cases taken : takeFrame maxFrameBytes buffer with
        | error message => rfl
        | ok found =>
          cases found with
          | none => rfl
          | some pair =>
            obtain ⟨frame, rest⟩ := pair
            have shorter := takeFrame_shorter taken
            simp only [ih turns (by omega) (show rest.length ≤ turns by omega),
              ih size' (by omega) (show rest.length ≤ size' by omega)]

theorem drain_eq (maxFrameBytes : UInt32) (buffer : Bytes) :
    drain maxFrameBytes buffer =
      match takeFrame maxFrameBytes buffer with
      | .error message => (buffer, .error message)
      | .ok none => (buffer, .ok [])
      | .ok (some (frame, rest)) =>
        ((drain maxFrameBytes rest).1, (drain maxFrameBytes rest).2.map (frame :: ·)) := by
  rw [← drainFrames_enough (Nat.le_succ buffer.length)]
  simp only [drainFrames]
  cases taken : takeFrame maxFrameBytes buffer with
  | error message => rfl
  | ok found =>
    cases found with
    | none => rfl
    | some pair =>
      obtain ⟨frame, rest⟩ := pair
      have shorter := takeFrame_shorter taken
      simp only [drainFrames_enough (show rest.length ≤ buffer.length by omega)]

theorem drain_of_frame {maxFrameBytes : UInt32} {buffer frame rest : Bytes}
    (taken : takeFrame maxFrameBytes buffer = .ok (some (frame, rest))) :
    drain maxFrameBytes buffer =
      ((drain maxFrameBytes rest).1, (drain maxFrameBytes rest).2.map (frame :: ·)) := by
  rw [drain_eq, taken]

theorem drain_of_none {maxFrameBytes : UInt32} {buffer : Bytes}
    (taken : takeFrame maxFrameBytes buffer = .ok none) :
    drain maxFrameBytes buffer = (buffer, .ok []) := by
  rw [drain_eq, taken]

theorem drain_of_error {maxFrameBytes : UInt32} {buffer : Bytes} {message : String}
    (taken : takeFrame maxFrameBytes buffer = .error message) :
    drain maxFrameBytes buffer = (buffer, .error message) := by
  rw [drain_eq, taken]

/-- Draining a buffer and then what arrives behind it is draining both at once. -/
theorem drain_append (maxFrameBytes : UInt32) (buffer more : Bytes) :
    drain maxFrameBytes (buffer ++ more) =
      match drain maxFrameBytes buffer with
      | (left, .error message) => (left ++ more, .error message)
      | (left, .ok frames) =>
        ((drain maxFrameBytes (left ++ more)).1,
          (drain maxFrameBytes (left ++ more)).2.map (frames ++ ·)) := by
  induction size : buffer.length using Nat.strongRecOn generalizing buffer with
  | ind size ih =>
    cases taken : takeFrame maxFrameBytes buffer with
    | error message =>
      rw [drain_of_error taken, drain_of_error (takeFrame_error_append taken more)]
    | ok found =>
      cases found with
      | none =>
        rw [drain_of_none taken]
        cases result : drain maxFrameBytes (buffer ++ more) with
        | mk left outcome =>
          cases outcome <;> simp [result, Except.map]
      | some pair =>
        obtain ⟨frame, rest⟩ := pair
        have shorter := takeFrame_shorter taken
        rw [drain_of_frame taken, drain_of_frame (takeFrame_append taken more),
          ih rest.length (by omega) rest rfl]
        cases result : drain maxFrameBytes rest with
        | mk left outcome =>
          cases outcome with
          | error message => rfl
          | ok frames =>
            simp only [Except.map]
            cases (drain maxFrameBytes (left ++ more)).2 <;> rfl

/-- The buffer holds no frame that has arrived in full. -/
def Settled (decoder : FrameDecoder) : Prop :=
  takeFrame decoder.maxFrameBytes decoder.buffer = .ok none

theorem drain_settled {maxFrameBytes : UInt32} {buffer left : Bytes} {frames : List Bytes}
    (drained : drain maxFrameBytes buffer = (left, .ok frames)) :
    takeFrame maxFrameBytes left = .ok none := by
  induction size : buffer.length using Nat.strongRecOn generalizing buffer frames with
  | ind size ih =>
    cases taken : takeFrame maxFrameBytes buffer with
    | error message =>
      rw [drain_of_error taken] at drained
      cases drained
    | ok found =>
      cases found with
      | none =>
        rw [drain_of_none taken] at drained
        cases drained
        exact taken
      | some pair =>
        obtain ⟨frame, rest⟩ := pair
        have shorter := takeFrame_shorter taken
        rw [drain_of_frame taken] at drained
        cases result : drain maxFrameBytes rest with
        | mk left' outcome =>
          rw [result] at drained
          cases outcome with
          | error message => cases drained
          | ok later =>
            cases drained
            exact ih rest.length (by omega) result rfl

theorem push_settled {decoder decoder' : FrameDecoder} {bytes : Bytes} {frames : List Bytes}
    (pushed : decoder.push bytes = (decoder', .ok frames)) : Settled decoder' := by
  unfold FrameDecoder.push at pushed
  cases drained : drain decoder.maxFrameBytes (decoder.buffer ++ bytes) with
  | mk left outcome =>
    simp only [drained] at pushed
    cases pushed
    exact drain_settled drained

theorem push_nil {decoder : FrameDecoder} (settled : Settled decoder) :
    decoder.push [] = (decoder, .ok []) := by
  unfold FrameDecoder.push
  rw [List.append_nil, drain_of_none settled]

/-- Two chunks pushed at once give the frames of the first and then those of the second. -/
theorem push_append {decoder decoder' : FrameDecoder} {first rest : Bytes} {frames : List Bytes}
    (pushed : decoder.push (first ++ rest) = (decoder', .ok frames)) :
    ∃ middle early late, decoder.push first = (middle, .ok early) ∧
      middle.push rest = (decoder', .ok late) ∧ frames = early ++ late := by
  unfold FrameDecoder.push at pushed
  rw [← List.append_assoc, drain_append] at pushed
  cases drained : drain decoder.maxFrameBytes (decoder.buffer ++ first) with
  | mk left outcome =>
    simp only [drained] at pushed
    cases outcome with
    | error message => cases pushed
    | ok early =>
      refine ⟨{ decoder with buffer := left }, early, ?_⟩
      cases drained_later : drain decoder.maxFrameBytes (left ++ rest) with
      | mk left' outcome =>
        simp only [drained_later] at pushed
        cases outcome with
        | error message => cases pushed
        | ok late =>
          cases pushed
          refine ⟨late, ?_, ?_, rfl⟩
          · unfold FrameDecoder.push
            rw [drained]
          · unfold FrameDecoder.push
            simp only [drained_later]

/-! Round trips -/

theorem readBigEndianLength_of_bytes (n : UInt32) :
    readBigEndianLength ((n >>> 24) &&& 0xff).toUInt8 ((n >>> 16) &&& 0xff).toUInt8
      ((n >>> 8) &&& 0xff).toUInt8 (n &&& 0xff).toUInt8 = n := by
  unfold readBigEndianLength
  apply UInt32.toBitVec_inj.mp
  apply BitVec.eq_of_getLsbD_eq
  intro i small
  simp only [UInt32.toBitVec_or, UInt32.toBitVec_shiftLeft, UInt32.toBitVec_shiftRight,
    UInt32.toBitVec_and, UInt8.toBitVec_toUInt32, UInt32.toBitVec_toUInt8, BitVec.getLsbD_or,
    BitVec.getLsbD_setWidth, BitVec.getLsbD_and, BitVec.getLsbD_shiftLeft, BitVec.shiftLeft_eq',
    BitVec.ushiftRight_eq', BitVec.getLsbD_ushiftRight]
  -- every bit of the length stands in one byte
  interval_cases i <;> simp

theorem takeFrame_frameOf {maxFrameBytes : UInt32} {payload : Bytes}
    (fits : payload.length ≤ maxFrameBytes.toNat) (more : Bytes) :
    takeFrame maxFrameBytes (frameOf payload ++ more) = .ok (some (payload, more)) := by
  have small : payload.length < UInt32.size := by
    have bound := maxFrameBytes.toNat_lt
    simp only [UInt32.size]
    omega
  have same : (payload.length.toUInt32).toNat = payload.length := by
    rw [Nat.toUInt32, UInt32.toNat_ofNat']
    exact Nat.mod_eq_of_lt small
  have not_over : ¬ payload.length.toUInt32 > maxFrameBytes := by
    intro exceeds
    have larger : maxFrameBytes.toNat < payload.length.toUInt32.toNat :=
      UInt32.lt_iff_toNat_lt.mp exceeds
    omega
  have arrived : ¬ (payload ++ more).length < payload.length := by
    rw [List.length_append]
    omega
  simp only [frameOf, bigEndianLength, List.cons_append, List.nil_append, takeFrame,
    readBigEndianLength_of_bytes, if_neg not_over, same, if_neg arrived, List.take_left,
    List.drop_left]

/-- Frames in one buffer come out one by one, and the bytes behind them stay. -/
theorem drain_frames (maxFrameBytes : UInt32) (payloads : List Bytes)
    (fit : ∀ payload ∈ payloads, payload.length ≤ maxFrameBytes.toNat) {more : Bytes}
    (unfinished : takeFrame maxFrameBytes more = .ok none) :
    drain maxFrameBytes ((payloads.map frameOf).flatten ++ more) = (more, .ok payloads) := by
  induction payloads with
  | nil => exact drain_of_none unfinished
  | cons payload payloads ih =>
    have first := fit payload (by simp)
    have others := ih fun p member => fit p (List.mem_cons_of_mem payload member)
    rw [List.map_cons, List.flatten_cons, List.append_assoc,
      drain_of_frame (takeFrame_frameOf first _), others]
    rfl

end FrameCodec
