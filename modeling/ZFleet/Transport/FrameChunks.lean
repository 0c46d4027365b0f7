import ZFleet.Transport.FrameCodec

/-!
A stream of frames that arrives in chunks. Wherever the chunks are cut, the decoder has
taken the frames that have arrived in full and holds the start of the next one.
-/
namespace FrameCodec

/-- The loop without a count of its turns: the result it returns with, when it does. -/
inductive Drains (maxFrameBytes : UInt32) :
    Bytes → Bytes × Except String (List Bytes) → Prop where
  | oversized {buffer : Bytes} {message : String}
      (taken : takeFrame maxFrameBytes buffer = .error message) :
      Drains maxFrameBytes buffer (buffer, .error message)
  | unfinished {buffer : Bytes} (taken : takeFrame maxFrameBytes buffer = .ok none) :
      Drains maxFrameBytes buffer (buffer, .ok [])
  | frame {buffer frame rest left : Bytes} {outcome : Except String (List Bytes)}
      (taken : takeFrame maxFrameBytes buffer = .ok (some (frame, rest)))
      (later : Drains maxFrameBytes rest (left, outcome)) :
      Drains maxFrameBytes buffer (left, outcome.map (frame :: ·))

/-- The lists that the pushes return, up to the first push that throws. -/
def FrameDecoder.pushAll :
    FrameDecoder → List Bytes → FrameDecoder × Except String (List (List Bytes))
  | decoder, [] => (decoder, .ok [])
  | decoder, chunk :: rest =>
    match decoder.push chunk with
    | (decoder', .error message) => (decoder', .error message)
    | (decoder', .ok frames) =>
      ((decoder'.pushAll rest).1, (decoder'.pushAll rest).2.map (frames :: ·))

/-- What has arrived of the next frame. -/
def PartOfNext (part : Bytes) : List Bytes → Prop
  | [] => part = []
  | next :: _ => part <+: frameOf next ∧ part ≠ frameOf next

/-- A body is whole frames, and then bytes with no further frame in front. -/
structure Splits (maxFrameBytes : UInt32) (body : Bytes) (frames : List Bytes) (tail : Bytes) :
    Prop where
  bytes : body = (frames.map frameOf).flatten ++ tail
  fit : ∀ frame ∈ frames, frame.length ≤ maxFrameBytes.toNat
  last : ∀ found, takeFrame maxFrameBytes tail ≠ .ok (some found)

/-- The tail starts with a length that is too large. -/
def Oversized (maxFrameBytes : UInt32) (tail : Bytes) : Prop :=
  ∃ message, takeFrame maxFrameBytes tail = .error message

/-! The loop ends -/

theorem drains_drain (maxFrameBytes : UInt32) (buffer : Bytes) :
    Drains maxFrameBytes buffer (drain maxFrameBytes buffer) := by
  induction size : buffer.length using Nat.strongRecOn generalizing buffer with
  | ind size ih =>
    cases taken : takeFrame maxFrameBytes buffer with
    | error message =>
      rw [drain_of_error taken]
      exact .oversized taken
    | ok found =>
      cases found with
      | none =>
        rw [drain_of_none taken]
        exact .unfinished taken
      | some pair =>
        obtain ⟨frame, rest⟩ := pair
        have shorter := takeFrame_shorter taken
        rw [drain_of_frame taken]
        exact .frame taken (ih rest.length (by omega) rest rfl)

theorem drains_only {maxFrameBytes : UInt32} {buffer : Bytes}
    {result : Bytes × Except String (List Bytes)} (drains : Drains maxFrameBytes buffer result) :
    drain maxFrameBytes buffer = result := by
  induction drains with
  | oversized taken => exact drain_of_error taken
  | unfinished taken => exact drain_of_none taken
  | frame taken later ih => rw [drain_of_frame taken, ih]

/-! Frames that have arrived in part -/

theorem encodeFrame_fits {maxFrameBytes : UInt32} {payload : Bytes}
    (fits : payload.length ≤ maxFrameBytes.toNat) :
    encodeFrame payload = .ok (frameOf payload) := by
  have bound := maxFrameBytes.toNat_lt
  have small : ¬ payload.length > UInt32.size - 1 := by
    simp only [UInt32.size]
    omega
  rw [encodeFrame, if_neg small]

theorem encodeFrames_fit {maxFrameBytes : UInt32} {payloads : List Bytes}
    (fit : ∀ payload ∈ payloads, payload.length ≤ maxFrameBytes.toNat) :
    payloads.mapM encodeFrame = .ok (payloads.map frameOf) := by
  induction payloads with
  | nil => rfl
  | cons payload payloads ih =>
    have first := encodeFrame_fits (fit payload (by simp))
    have others := ih fun p member => fit p (List.mem_cons_of_mem payload member)
    rw [List.mapM_cons, first, others]
    rfl

/-- A frame that has not arrived in full is not taken, and its length is not refused. -/
theorem takeFrame_part {maxFrameBytes : UInt32} {payload part : Bytes}
    (fits : payload.length ≤ maxFrameBytes.toNat) (starts : part <+: frameOf payload)
    (proper : part ≠ frameOf payload) : takeFrame maxFrameBytes part = .ok none := by
  obtain ⟨missing, whole⟩ := starts
  have complete := takeFrame_frameOf fits []
  rw [List.append_nil, ← whole] at complete
  cases taken : takeFrame maxFrameBytes part with
  | error message =>
    rw [takeFrame_error_append taken missing] at complete
    cases complete
  | ok found =>
    cases found with
    | none => rfl
    | some pair =>
      obtain ⟨frame, rest⟩ := pair
      rw [takeFrame_append taken missing] at complete
      have behind : rest ++ missing = [] :=
        congrArg Prod.snd (Option.some.inj (Except.ok.inj complete))
      have arrived : missing = [] := (List.append_eq_nil_iff.mp behind).2
      rw [arrived, List.append_nil] at whole
      exact absurd whole proper

theorem takeFrame_partOfNext {maxFrameBytes : UInt32} {payloads : List Bytes} {part : Bytes}
    (fit : ∀ payload ∈ payloads, payload.length ≤ maxFrameBytes.toNat)
    (started : PartOfNext part payloads) : takeFrame maxFrameBytes part = .ok none := by
  cases payloads with
  | nil =>
    have empty : part = [] := started
    rw [empty]
    rfl
  | cons next later => exact takeFrame_part (fit next (by simp)) started.1 started.2

/-- A stream of frames that is cut anywhere: whole frames, then a part of the next one. -/
theorem cut_frames {payloads : List Bytes} {received later : Bytes}
    (cut : received ++ later = (payloads.map frameOf).flatten) :
    ∃ done left part, payloads = done ++ left ∧
      received = (done.map frameOf).flatten ++ part ∧ PartOfNext part left := by
  induction payloads generalizing received with
  | nil =>
    have nothing : received = [] := (List.append_eq_nil_iff.mp cut).1
    exact ⟨[], [], [], rfl, nothing, rfl⟩
  | cons payload payloads ih =>
    rw [List.map_cons, List.flatten_cons] at cut
    obtain ⟨missing, frame, rest⟩ | ⟨more, beyond, rest⟩ := List.append_eq_append_iff.mp cut
    · -- the first frame is still on its way, unless nothing of it is missing
      by_cases arrived : missing = []
      · have whole : received = frameOf payload := by
          rw [frame, arrived, List.append_nil]
        have others : [] ++ later = (payloads.map frameOf).flatten := by
          rw [List.nil_append, rest, arrived, List.nil_append]
        obtain ⟨done, left, part, split, at_cut, started⟩ := ih others
        refine ⟨payload :: done, left, part, by rw [split]; rfl, ?_, started⟩
        rw [whole, List.map_cons, List.flatten_cons, List.append_assoc, ← at_cut, List.append_nil]
      · have proper : received ≠ frameOf payload := by
          intro same
          rw [same] at frame
          exact arrived (List.append_cancel_left (frame.symm.trans (List.append_nil _).symm))
        exact ⟨[], payload :: payloads, received, rfl, rfl, ⟨missing, frame.symm⟩, proper⟩
    · obtain ⟨done, left, part, split, at_cut, started⟩ := ih rest.symm
      refine ⟨payload :: done, left, part, by rw [split]; rfl, ?_, started⟩
      rw [beyond, at_cut, List.map_cons, List.flatten_cons, List.append_assoc]

/-! Chunks -/

theorem push_then {decoder middle decoder' : FrameDecoder} {first rest : Bytes}
    {early late : List Bytes} (pushed : decoder.push first = (middle, .ok early))
    (pushed_rest : middle.push rest = (decoder', .ok late)) :
    decoder.push (first ++ rest) = (decoder', .ok (early ++ late)) := by
  unfold FrameDecoder.push at pushed pushed_rest ⊢
  rw [← List.append_assoc, drain_append]
  cases drained : drain decoder.maxFrameBytes (decoder.buffer ++ first) with
  | mk left outcome =>
    simp only [drained] at pushed
    cases pushed
    cases drained_rest : drain decoder.maxFrameBytes (left ++ rest) with
    | mk left' outcome' =>
      simp only [drained_rest] at pushed_rest ⊢
      cases pushed_rest
      rfl

/-- Chunks that are pushed one by one give the frames of their concatenation. -/
theorem pushAll_of_push {decoder decoder' : FrameDecoder} {chunks : List Bytes}
    {frames : List Bytes} (settled : Settled decoder)
    (pushed : decoder.push chunks.flatten = (decoder', .ok frames)) :
    ∃ returned, decoder.pushAll chunks = (decoder', .ok returned) ∧
      returned.length = chunks.length ∧ returned.flatten = frames := by
  induction chunks generalizing decoder frames with
  | nil =>
    rw [List.flatten_nil, push_nil settled] at pushed
    cases pushed
    exact ⟨[], rfl, rfl, rfl⟩
  | cons chunk chunks ih =>
    rw [List.flatten_cons] at pushed
    obtain ⟨middle, early, late, first, rest, rfl⟩ := push_append pushed
    obtain ⟨returned, run, count, same⟩ := ih (push_settled first) rest
    refine ⟨early :: returned, ?_, by rw [List.length_cons, count, List.length_cons], ?_⟩
    · simp only [FrameDecoder.pushAll, first, run, Except.map]
    · rw [List.flatten_cons, same]

theorem new_decoder {maxFrameBytes : UInt32} {decoder : FrameDecoder}
    (created : FrameDecoder.new maxFrameBytes = .ok decoder) :
    decoder.maxFrameBytes = maxFrameBytes ∧ decoder.buffer = [] := by
  unfold FrameDecoder.new at created
  split at created
  · cases created
  · cases created
    exact ⟨rfl, rfl⟩

/-- An empty decoder that is given frames and a part of the next one. -/
theorem pushAll_frames {decoder : FrameDecoder} (empty : decoder.buffer = [])
    {chunks done : List Bytes} {part : Bytes}
    (received : chunks.flatten = (done.map frameOf).flatten ++ part)
    (fit : ∀ payload ∈ done, payload.length ≤ decoder.maxFrameBytes.toNat)
    (unfinished : takeFrame decoder.maxFrameBytes part = .ok none) :
    ∃ returned, decoder.pushAll chunks = ({ decoder with buffer := part }, .ok returned) ∧
      returned.length = chunks.length ∧ returned.flatten = done := by
  have settled : Settled decoder := by
    unfold Settled
    rw [empty]
    rfl
  apply pushAll_of_push settled
  unfold FrameDecoder.push
  rw [empty, List.nil_append, received, drain_frames decoder.maxFrameBytes done fit unfinished]

/-- Frames that are pushed in any chunks come out in order. After every push the frames
    returned so far and the buffer are what has arrived, and every push returns. -/
theorem frames_survive_chunking {maxFrameBytes : UInt32} {decoder : FrameDecoder}
    (created : FrameDecoder.new maxFrameBytes = .ok decoder) {payloads : List Bytes}
    (fit : ∀ payload ∈ payloads, payload.length ≤ maxFrameBytes.toNat) :
    ∃ frames, payloads.mapM encodeFrame = .ok frames ∧
      (∀ chunks : List Bytes, chunks.flatten = frames.flatten →
        (∃ decoder' returned, decoder.pushAll chunks = (decoder', .ok returned) ∧
          returned.length = chunks.length ∧ returned.flatten = payloads ∧ decoder'.buffer = []) ∧
        ∀ before after, chunks = before ++ after →
          ∃ decoder' returned left, decoder.pushAll before = (decoder', .ok returned) ∧
            returned.flatten ++ left = payloads ∧
            before.flatten = (returned.flatten.map frameOf).flatten ++ decoder'.buffer ∧
            PartOfNext decoder'.buffer left) ∧
      ∀ (reached : FrameDecoder) (chunk : Bytes), Drains reached.maxFrameBytes
        (reached.buffer ++ chunk) ((reached.push chunk).1.buffer, (reached.push chunk).2) := by
  obtain ⟨rfl, empty⟩ := new_decoder created
  refine ⟨payloads.map frameOf, encodeFrames_fit fit, ?_, ?_⟩
  · intro chunks arrives
    constructor
    · have all_received : chunks.flatten = (payloads.map frameOf).flatten ++ [] := by
        rw [arrives, List.append_nil]
      obtain ⟨returned, run, count, same⟩ := pushAll_frames empty all_received fit rfl
      exact ⟨_, returned, run, count, same, rfl⟩
    · intro before after cut
      rw [cut, List.flatten_append] at arrives
      obtain ⟨done, left, part, rfl, received, started⟩ := cut_frames arrives
      have fit_done : ∀ payload ∈ done, payload.length ≤ decoder.maxFrameBytes.toNat :=
        fun payload member => fit payload (List.mem_append_left left member)
      have fit_left : ∀ payload ∈ left, payload.length ≤ decoder.maxFrameBytes.toNat :=
        fun payload member => fit payload (List.mem_append_right done member)
      obtain ⟨returned, run, -, rfl⟩ :=
        pushAll_frames empty received fit_done (takeFrame_partOfNext fit_left started)
      exact ⟨_, returned, left, run, rfl, received, started⟩
  · intro reached chunk
    exact drains_drain reached.maxFrameBytes (reached.buffer ++ chunk)

theorem two_frames_in_four_chunks :
    ∃ decoder' returned,
      FrameDecoder.fresh.pushAll [[0, 0], [0, 2, 7, 8, 0], [], [0, 0, 0]] =
        (decoder', .ok returned) ∧ returned.flatten = [[7, 8], []] := by
  have created : FrameDecoder.new kDefaultMaxFrameBytes = .ok FrameDecoder.fresh := rfl
  have fit : ∀ payload ∈ ([[7, 8], []] : List Bytes),
      payload.length ≤ kDefaultMaxFrameBytes.toNat := by decide
  obtain ⟨frames, encoded, chunked, -⟩ := frames_survive_chunking created fit
  have framed : [frameOf [7, 8], frameOf []] = frames :=
    Except.ok.inj ((encodeFrames_fit fit).symm.trans encoded)
  obtain ⟨⟨decoder', returned, run, -, same, -⟩, -⟩ :=
    chunked [[0, 0], [0, 2, 7, 8, 0], [], [0, 0, 0]] (by rw [← framed]; decide)
  exact ⟨decoder', returned, run, same⟩

/-! Any body -/

section
variable {maxFrameBytes : UInt32}

theorem bigEndianLength_of_bytes (b₀ b₁ b₂ b₃ : UInt8) :
    bigEndianLength (readBigEndianLength b₀ b₁ b₂ b₃) = [b₀, b₁, b₂, b₃] := by
  simp only [bigEndianLength, readBigEndianLength, List.cons.injEq, and_true]
  refine ⟨?_, ?_, ?_, ?_⟩ <;>
  · apply UInt8.toBitVec_inj.mp
    apply BitVec.eq_of_getLsbD_eq
    intro i small
    simp only [UInt32.toBitVec_or, UInt32.toBitVec_shiftLeft, UInt32.toBitVec_shiftRight,
      UInt32.toBitVec_and, UInt8.toBitVec_toUInt32, UInt32.toBitVec_toUInt8, BitVec.getLsbD_or,
      BitVec.getLsbD_setWidth, BitVec.getLsbD_and, BitVec.getLsbD_shiftLeft, BitVec.shiftLeft_eq',
      BitVec.ushiftRight_eq', BitVec.getLsbD_ushiftRight]
    interval_cases i <;> simp

theorem takeFrame_bytes {buffer frame rest : Bytes}
    (taken : takeFrame maxFrameBytes buffer = .ok (some (frame, rest))) :
    buffer = frameOf frame ++ rest ∧ frame.length ≤ maxFrameBytes.toNat := by
  unfold takeFrame at taken
  split at taken
  · rename_i b₀ b₁ b₂ b₃ tail
    simp only at taken
    split at taken
    · cases taken
    · rename_i fits
      split at taken
      · cases taken
      · rename_i arrived
        have enough : (readBigEndianLength b₀ b₁ b₂ b₃).toNat ≤ tail.length := by omega
        have bounded : (readBigEndianLength b₀ b₁ b₂ b₃).toNat ≤ maxFrameBytes.toNat :=
          UInt32.le_iff_toNat_le.mp (UInt32.not_lt.mp fits)
        cases taken
        have size : (tail.take (readBigEndianLength b₀ b₁ b₂ b₃).toNat).length =
            (readBigEndianLength b₀ b₁ b₂ b₃).toNat := by
          rw [List.length_take]
          omega
        constructor
        · rw [frameOf, size, Nat.toUInt32, UInt32.ofNat_toNat, bigEndianLength_of_bytes]
          simp
        · omega
  · cases taken

/-- Every body splits. -/
theorem exists_splits (maxFrameBytes : UInt32) (body : Bytes) :
    ∃ frames tail, Splits maxFrameBytes body frames tail := by
  induction size : body.length using Nat.strongRecOn generalizing body with
  | ind size ih =>
    cases taken : takeFrame maxFrameBytes body with
    | error message => exact ⟨[], body, rfl, by simp, by simp [taken]⟩
    | ok found =>
      cases found with
      | none => exact ⟨[], body, rfl, by simp, by simp [taken]⟩
      | some pair =>
        obtain ⟨frame, rest⟩ := pair
        have shorter := takeFrame_shorter taken
        obtain ⟨whole, fits⟩ := takeFrame_bytes taken
        obtain ⟨frames, tail, bytes, fit, last⟩ := ih rest.length (by omega) rest rfl
        refine ⟨frame :: frames, tail, ?_, ?_, last⟩
        · rw [whole, bytes, List.map_cons, List.flatten_cons, List.append_assoc]
        · intro other member
          rcases List.mem_cons.mp member with same | later
          · rw [same]
            exact fits
          · exact fit other later

theorem splits_frame {body tail frame : Bytes} {frames : List Bytes}
    (splits : Splits maxFrameBytes body (frame :: frames) tail) :
    takeFrame maxFrameBytes body = .ok (some (frame, (frames.map frameOf).flatten ++ tail)) := by
  rw [splits.bytes, List.map_cons, List.flatten_cons, List.append_assoc]
  exact takeFrame_frameOf (splits.fit frame (by simp)) _

theorem Splits.rest {body tail frame : Bytes} {frames : List Bytes}
    (splits : Splits maxFrameBytes body (frame :: frames) tail) :
    Splits maxFrameBytes ((frames.map frameOf).flatten ++ tail) frames tail where
  bytes := rfl
  fit other member := splits.fit other (List.mem_cons_of_mem frame member)
  last := splits.last

/-- A body splits in one way only. -/
theorem splits_unique {body tail tail' : Bytes} {frames frames' : List Bytes}
    (splits : Splits maxFrameBytes body frames tail)
    (splits' : Splits maxFrameBytes body frames' tail') : frames = frames' ∧ tail = tail' := by
  induction frames generalizing body frames' with
  | nil =>
    have whole : body = tail := splits.bytes
    cases frames' with
    | nil => exact ⟨rfl, whole ▸ splits'.bytes⟩
    | cons frame' frames' =>
      have taken := splits_frame splits'
      rw [whole] at taken
      exact absurd taken (splits.last _)
  | cons frame frames ih =>
    have taken := splits_frame splits
    cases frames' with
    | nil =>
      have whole : body = tail' := splits'.bytes
      rw [whole] at taken
      exact absurd taken (splits'.last _)
    | cons frame' frames' =>
      rw [splits_frame splits'] at taken
      have pair := Option.some.inj (Except.ok.inj taken)
      have same_frame : frame' = frame := congrArg Prod.fst pair
      have behind : (frames'.map frameOf).flatten ++ tail' =
          (frames.map frameOf).flatten ++ tail := congrArg Prod.snd pair
      have later := splits'.rest
      rw [behind] at later
      obtain ⟨same_frames, same_tail⟩ := ih splits.rest later
      exact ⟨by rw [same_frame, same_frames], same_tail⟩

theorem drain_splits {body tail : Bytes} {frames : List Bytes}
    (splits : Splits maxFrameBytes body frames tail) :
    drain maxFrameBytes body = (tail, match takeFrame maxFrameBytes tail with
      | .error message => .error message
      | .ok _ => .ok frames) := by
  have at_tail : drain maxFrameBytes ((frames.map frameOf).flatten ++ tail) =
      ((drain maxFrameBytes tail).1, (drain maxFrameBytes tail).2.map (frames ++ ·)) := by
    have plain := drain_frames maxFrameBytes frames splits.fit
      (show takeFrame maxFrameBytes [] = .ok none from rfl)
    rw [List.append_nil] at plain
    rw [drain_append, plain]
    rfl
  rw [splits.bytes, at_tail]
  cases taken : takeFrame maxFrameBytes tail with
  | error message =>
    rw [drain_of_error taken]
    rfl
  | ok found =>
    cases found with
    | none =>
      rw [drain_of_none taken]
      simp [Except.map]
    | some found => exact absurd taken (splits.last found)

/-- What a buffer splits into stays in front when more arrives. -/
theorem splits_append {buffer more tail left : Bytes} {frames done : List Bytes}
    (splits : Splits maxFrameBytes (buffer ++ more) frames tail)
    (arrived : Splits maxFrameBytes buffer done left) :
    ∃ coming, frames = done ++ coming ∧ Splits maxFrameBytes (left ++ more) coming tail := by
  obtain ⟨coming, tail', later⟩ := exists_splits maxFrameBytes (left ++ more)
  have together : Splits maxFrameBytes (buffer ++ more) (done ++ coming) tail' := by
    refine ⟨?_, ?_, later.last⟩
    · rw [arrived.bytes, List.append_assoc, later.bytes, List.map_append, List.flatten_append,
        List.append_assoc]
    · intro frame member
      rcases List.mem_append.mp member with early | late
      · exact arrived.fit frame early
      · exact later.fit frame late
  obtain ⟨same_frames, same_tail⟩ := splits_unique splits together
  subst same_tail
  exact ⟨coming, same_frames, later⟩

end

end FrameCodec
