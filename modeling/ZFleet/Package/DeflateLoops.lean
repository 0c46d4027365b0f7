import ZFleet.Foundations.StreamCalls
import ZFleet.Package.ArchiveIntegrity
import Mathlib.Tactic.Ring

/-!
The loops around zlib (WriteDeflatedFileData, InflateDeflatedEntry): a loop that refills the
input buffer around one that drains the output buffer. What zlib makes of the data is given,
and so is how far its calls go within their contract.
-/
namespace PackageArchive
open ByteReader StreamCalls

theorem kBufferSize_positive : 0 < kBufferSize := by decide

theorem chunk_apart {n m : Nat} (at_chunk : kBufferSize ∣ n) (at_chunk' : kBufferSize ∣ m)
    (later : n < m) : n + kBufferSize ≤ m := by
  obtain ⟨a, rfl⟩ := at_chunk
  obtain ⟨b, rfl⟩ := at_chunk'
  have more : a + 1 ≤ b := Nat.lt_of_mul_lt_mul_left later
  calc kBufferSize * a + kBufferSize = kBufferSize * (a + 1) := by ring
    _ ≤ kBufferSize * b := Nat.mul_le_mul_left _ more

/-! Deflating -/

/-- What deflate has to deliver for the first bytes of the content, and for all of it. -/
structure Compressed (content : Bytes) where
  emitted : Nat → Bytes
  stream : Bytes
  nothing : emitted 0 = []
  grows : ∀ n m, n ≤ m → emitted n <+: emitted m
  whole : ∀ n, emitted n <+: stream

/-- With Z_FINISH the stream ends behind the last byte. -/
def Compressed.output {content : Bytes} (z : Compressed content) (finish : Bool) (n : Nat) :
    Bytes :=
  if finish = true ∧ content.length ≤ n then z.stream else z.emitted n

abbrev Deflater {content : Bytes} (z : Compressed content) :=
  ∀ finish, Calls kBufferSize (z.output finish)

structure FileWriteStats where
  crc32 : UInt32
  compressedSize : Nat
  uncompressedSize : Nat
  deriving DecidableEq, Repr

/-- zlib's crc32 goes on from the value before; it is 0 at the start. -/
def crc32From (crc : UInt32) (data : Bytes) : UInt32 :=
  data.foldl crcByte (crc ^^^ 0xffffffff) ^^^ 0xffffffff

/-- The input buffer holds the content up to `limit`; what is behind `consumed` is left. -/
structure Writing where
  progress : Progress
  limit : Nat
  finishedInput : Bool
  stats : FileWriteStats
  written : Bytes

def Writing.availIn (w : Writing) : Nat := w.limit - w.progress.consumed

def maxSize : Nat := 0xffffffff

section Deflate

variable (sourcePath : String) (content : Bytes)

def refillInput (w : Writing) : Except String Writing :=
  if w.availIn = 0 ∧ w.finishedInput = false then
    let bytesRead := min kBufferSize (content.length - w.limit)
    if bytesRead = 0 then .ok { w with finishedInput := true }
    else if w.stats.uncompressedSize + bytesRead > maxSize then
      .error ("file is too large for ZIP32: " ++ sourcePath)
    else .ok { w with
      limit := w.limit + bytesRead
      finishedInput := bytesRead < kBufferSize
      stats := { w.stats with
        uncompressedSize := w.stats.uncompressedSize + bytesRead
        crc32 := crc32From w.stats.crc32 ((content.drop w.limit).take bytesRead) } }
  else .ok w

def Writing.called {output : Nat → Bytes} (z : Calls kBufferSize output) (w : Writing) :
    Writing :=
  { w with
    progress := z.next w.limit w.progress
    written := w.written ++ z.out w.limit w.progress
    stats := { w.stats with
      compressedSize := w.stats.compressedSize + (z.out w.limit w.progress).length } }

/-- Calls of deflate until one leaves room in the output buffer. -/
def drainDeflate {output : Nat → Bytes} (z : Calls kBufferSize output) (finish : Bool) :
    Nat → Writing → Option (Except String (Writing × Code))
  | 0, _ => none
  | fuel + 1, w =>
    let code := z.code finish w.limit w.progress
    if code = .streamError then some (.error "failed to deflate archive entry")
    else if z.out w.limit w.progress ≠ [] ∧ (w.called z).stats.compressedSize > maxSize then
      some (.error ("compressed file is too large for ZIP32: " ++ sourcePath))
    else if (z.out w.limit w.progress).length = kBufferSize then
      drainDeflate z finish fuel (w.called z)
    else some (.ok (w.called z, code))

def deflateLoop {z : Compressed content} (zlib : Deflater z) :
    Nat → Writing → Option (Except String (Bytes × FileWriteStats))
  | 0, _ => none
  | fuel + 1, w =>
    match refillInput sourcePath content w with
    | .error message => some (.error message)
    | .ok w =>
      match drainDeflate sourcePath (zlib w.finishedInput) w.finishedInput fuel w with
      | none => none
      | some (.error message) => some (.error message)
      | some (.ok (w, code)) =>
        if code = .streamEnd then some (.ok (w.written, w.stats))
        else if w.finishedInput = true ∧ w.availIn = 0 then deflateLoop zlib fuel w
        else if code ≠ .ok then some (.error "failed to deflate archive entry")
        else deflateLoop zlib fuel w

/-- The bytes that are written to the archive, and their description. -/
def writeDeflatedFileData {z : Compressed content} (zlib : Deflater z) (fuel : Nat) :
    Option (Except String (Bytes × FileWriteStats)) :=
  deflateLoop sourcePath content zlib fuel ⟨⟨0, 0⟩, 0, false, ⟨0, 0, 0⟩, []⟩

end Deflate

/-! Inflating -/

/-- What inflate has to deliver for the first bytes of a stream that is whole and valid. -/
structure Decoded (data : Bytes) where
  output : Nat → Bytes
  nothing : output 0 = []
  grows : ∀ n m, n ≤ m → output n <+: output m
  nonempty : data ≠ []

def Decoded.contents {data : Bytes} (z : Decoded data) : Bytes := z.output data.length

structure Reading where
  progress : Progress
  limit : Nat
  delivered : Bytes

def Reading.availIn (r : Reading) : Nat := r.limit - r.progress.consumed

section Inflate

variable {data : Bytes} {output : Nat → Bytes} (zlib : Calls kBufferSize output)

def Reading.refilled (data : Bytes) (r : Reading) : Reading :=
  if r.availIn = 0 ∧ r.limit < data.length then
    { r with limit := r.limit + min kBufferSize (data.length - r.limit) }
  else r

def Reading.called (r : Reading) : Reading :=
  { r with
    progress := zlib.next r.limit r.progress
    delivered := r.delivered ++ zlib.out r.limit r.progress }

/-- What went to the sink stays there if a call fails. -/
def drainInflate (last : Bool) : Nat → Reading → Option (Reading × Except String Code)
  | 0, _ => none
  | fuel + 1, r =>
    let code := zlib.code last r.limit r.progress
    if code ≠ .ok ∧ code ≠ .streamEnd then some (r, .error "failed to inflate ZIP entry: ")
    else if (zlib.out r.limit r.progress).length = kBufferSize then
      drainInflate last fuel (r.called zlib)
    else some (r.called zlib, .ok code)

def inflateLoop (data : Bytes) : Nat → Reading → Option (Bytes × Except String Unit)
  | 0, _ => none
  | fuel + 1, r =>
    let r := r.refilled data
    match drainInflate zlib (r.limit = data.length) fuel r with
    | none => none
    | some (r, .error message) => some (r.delivered, .error message)
    | some (r, .ok code) =>
      if code = .streamEnd then
        if r.limit ≠ data.length ∨ r.availIn ≠ 0 then
          some (r.delivered, .error "deflated ZIP entry contains trailing data: ")
        else some (r.delivered, .ok ())
      else if r.limit = data.length ∧ r.availIn = 0 then
        some (r.delivered, .error "deflated ZIP entry is truncated: ")
      else inflateLoop data fuel r

/-- The loop over the data of an entry, and the comparison with the recorded size behind it. -/
def inflateEntry (archive : ArchiveFile) (entry : ArchiveRecord) (dataOffset fuel : Nat) :
    Option Delivery :=
  (inflateLoop zlib (archive.contents.range dataOffset entry.compressedSize).bytes fuel
    ⟨⟨0, 0⟩, 0, []⟩).map fun result => inflateDeflatedEntry (fun _ => result) archive entry dataOffset

end Inflate

/-! The checksum goes on over the chunks -/

theorem crc32From_start (data : Bytes) : crc32From 0 data = crc32 data := by
  unfold crc32From crc32
  rw [UInt32.zero_xor]

theorem crc32From_append (before behind : Bytes) :
    crc32From (crc32 before) behind = crc32 (before ++ behind) := by
  unfold crc32From crc32
  rw [List.foldl_append, UInt32.xor_assoc, UInt32.xor_self, UInt32.xor_zero]

/-! The drain loop of deflate -/

/-- The next full buffer is one more; before the first one there is input to take in. -/
def Behind (base limit : Nat) (s : Progress) : Prop :=
  ∃ j, s.produced = base + j * kBufferSize ∧ (j = 0 → s.consumed < limit)

/-- What was written is what was delivered. -/
structure Ready (output : Nat → Bytes) (w : Writing) : Prop where
  sound : Sound output w.limit w.progress
  written : w.written = (output w.limit).take w.progress.produced
  counted : w.stats.compressedSize = w.progress.produced

def Writing.drained (output : Nat → Bytes) (w : Writing) : Writing :=
  { w with
    progress := ⟨w.limit, (output w.limit).length⟩
    written := output w.limit
    stats := { w.stats with compressedSize := (output w.limit).length } }

section DrainDeflate

variable {sourcePath : String} {output : Nat → Bytes} {z : Calls kBufferSize output} {w : Writing}
  {finish : Bool} {fuel : Nat} (grows : ∀ n m, n ≤ m → output n <+: output m)
  (ready : Ready output w)
include grows ready

theorem ready_called : Ready output (w.called z) := by
  constructor
  · exact next_sound z grows ready.sound
  · change w.written ++ z.out w.limit w.progress = _
    rw [ready.written]
    exact out_written z grows ready.sound
  · change w.stats.compressedSize + _ = w.progress.produced + _
    rw [ready.counted]

theorem called_short (short : (z.out w.limit w.progress).length ≠ kBufferSize) :
    w.called z = w.drained output := by
  have again := ready_called (z := z) grows ready
  have ended := short_ends z grows ready.sound short
  have progress : (w.called z).progress = ⟨w.limit, (output w.limit).length⟩ := ended
  have written := again.written
  have counted := again.counted
  rw [progress] at written counted
  change (w.called z).written = (output w.limit).take (output w.limit).length at written
  rw [List.take_length] at written
  change { w with
    progress := (w.called z).progress
    written := (w.called z).written
    stats := { w.stats with compressedSize := (w.called z).stats.compressedSize } } = _
  rw [progress, written, counted]
  rfl

/-- What a drain loop that ends has done, and what the last call said. -/
theorem drainDeflate_ends {w' : Writing} {code : Code}
    (done : drainDeflate sourcePath z finish fuel w = some (.ok (w', code))) :
    w' = w.drained output ∧
    (w.stats.compressedSize ≤ maxSize → (output w.limit).length ≤ maxSize) ∧
    (finish = true → code = .streamEnd) ∧
    (finish = false → code = .ok ∨ code = .bufError ∧ ∀ base, Behind base w.limit w.progress →
      Aligned kBufferSize base (output w.limit).length) := by
  induction fuel generalizing w with
  | zero => cases done
  | succ fuel ih =>
    rw [drainDeflate] at done
    rw [if_neg (code_not_streamError z finish)] at done
    split at done
    · cases done
    · rename_i small
      have still : w.stats.compressedSize ≤ maxSize →
          (w.called z).stats.compressedSize ≤ maxSize := by
        intro before
        by_contra large
        apply small
        refine ⟨?_, Nat.not_le.mp large⟩
        intro nothing
        apply large
        change w.stats.compressedSize + (z.out w.limit w.progress).length ≤ maxSize
        rw [nothing]
        exact before
      split at done
      · rename_i full
        obtain ⟨same, fits, ended, goes_on⟩ := ih (ready_called grows ready) done
        refine ⟨same, fun before => fits (still before), ended, ?_⟩
        intro more
        rcases goes_on more with fine | ⟨stuck, aligned⟩
        · exact .inl fine
        · refine .inr ⟨stuck, fun base ⟨j, behind, _⟩ => aligned base ⟨j + 1, ?_, nofun⟩⟩
          change w.progress.produced + (z.out w.limit w.progress).length = _
          rw [behind, full]
          ring
      · rename_i short
        have drained := called_short grows ready short
        have told := short_code z grows ready.sound finish short
        cases done
        refine ⟨drained, ?_, ?_, ?_⟩
        · intro before
          have fits := still before
          rwa [drained] at fits
        · rintro rfl
          exact told
        · rintro rfl
          rw [told]
          by_cases everything : w.progress = ⟨w.limit, (output w.limit).length⟩
          · rw [if_neg (by simp), if_pos everything]
            refine .inr ⟨rfl, fun base ⟨j, behind, first⟩ => ⟨j, ?_, ?_⟩⟩
            · rcases Nat.eq_zero_or_pos j with none_yet | positive
              · have left := first none_yet
                rw [everything] at left
                exact absurd left (Nat.lt_irrefl _)
              · exact positive
            · rw [everything] at behind
              exact behind
          · rw [if_neg (by simp), if_neg everything]
            exact .inl rfl

/-- The loop ends: every call but the last one fills the buffer. -/
theorem drainDeflate_terminates (fits : (output w.limit).length ≤ maxSize)
    (enough : (output w.limit).length - w.progress.produced < fuel) :
    ∃ w' code, drainDeflate sourcePath z finish fuel w = some (.ok (w', code)) := by
  induction fuel generalizing w with
  | zero => exact absurd enough (Nat.not_lt_zero _)
  | succ fuel ih =>
    have again := ready_called (z := z) grows ready
    have produced : (w.called z).progress.produced ≤ (output w.limit).length :=
      Nat.le_trans again.sound.produced (grows _ _ again.sound.consumed).length_le
    rw [drainDeflate]
    rw [if_neg (code_not_streamError z finish), if_neg]
    · split
      · rename_i full
        have more : (w.called z).progress.produced = w.progress.produced + kBufferSize := by
          rw [← full]
          rfl
        have positive := kBufferSize_positive
        exact ih again fits (by
          change (output w.limit).length - _ < fuel
          omega)
      · exact ⟨_, _, rfl⟩
    · rintro ⟨_, large⟩
      rw [again.counted] at large
      omega

end DrainDeflate

/-- The eager coder has nothing left to do after a number of full buffers. -/
theorem drainDeflate_eager {sourcePath : String} {output : Nat → Bytes} {w w' : Writing}
    {fuel : Nat} {code : Code} (grows : ∀ n m, n ≤ m → output n <+: output m)
    (ready : Ready output w) (j : Nat)
    (full : (output w.limit).length = w.progress.produced + j * kBufferSize)
    (first : j = 0 → w.progress.consumed = w.limit)
    (done : drainDeflate sourcePath (.eager kBufferSize output) false fuel w =
      some (.ok (w', code))) : code = .bufError := by
  induction fuel generalizing w j with
  | zero => cases done
  | succ fuel ih =>
    have length : ((Calls.eager kBufferSize output).out w.limit w.progress).length =
        min kBufferSize (j * kBufferSize) := by
      rw [out_length]
      change min kBufferSize ((output w.limit).length - w.progress.produced) = _
      rw [full, Nat.add_sub_cancel_left]
    have positive := kBufferSize_positive
    rw [drainDeflate] at done
    rw [if_neg (code_not_streamError _ false)] at done
    split at done
    · cases done
    · cases j with
      | zero =>
        rw [Nat.zero_mul, Nat.min_zero] at length
        have short : ((Calls.eager kBufferSize output).out w.limit w.progress).length ≠
            kBufferSize := by omega
        rw [if_neg short] at done
        cases done
        rw [short_code _ grows ready.sound false short, if_neg (by simp), if_pos]
        have consumed := first rfl
        rw [Nat.zero_mul, Nat.add_zero] at full
        cases at_end : w.progress with
        | mk c p =>
          rw [at_end] at consumed full
          rw [show c = w.limit from consumed, full]
      | succ j =>
        have whole : ((Calls.eager kBufferSize output).out w.limit w.progress).length =
            kBufferSize := by
          rw [length, Nat.succ_mul]
          omega
        rw [if_pos whole] at done
        refine ih (ready_called grows ready) j ?_ (fun _ => rfl) done
        change (output w.limit).length = (w.progress.produced + _) + _
        rw [whole, full]
        ring

/-! The loop over the chunks of a file -/

section Deflated

variable {content : Bytes} (z : Compressed content)

theorem output_running {n : Nat} (more : n < content.length) (finish : Bool) :
    z.output finish n = z.emitted n :=
  if_neg fun ended => Nat.not_le.mpr more ended.2

theorem output_end : z.output true content.length = z.stream := if_pos ⟨rfl, Nat.le_refl _⟩

theorem output_grows (finish : Bool) (n m : Nat) (onward : n ≤ m) :
    z.output finish n <+: z.output finish m := by
  unfold Compressed.output
  split
  · rename_i ended
    rw [if_pos ⟨ended.1, Nat.le_trans ended.2 onward⟩]
  · split
    · exact z.whole n
    · exact z.grows n m onward

/-- The chunks up to here are done. -/
def boundary (n : Nat) : Writing where
  progress := ⟨n, (z.emitted n).length⟩
  limit := n
  finishedInput := false
  stats := ⟨crc32 (content.take n), (z.emitted n).length, n⟩
  written := z.emitted n

/-- A full chunk is read. -/
def fullChunk (n : Nat) : Writing :=
  { boundary z n with
    limit := n + kBufferSize
    stats := ⟨crc32 (content.take (n + kBufferSize)), (z.emitted n).length, n + kBufferSize⟩ }

/-- The rest of the file is read. -/
def lastChunk (n : Nat) : Writing :=
  { boundary z n with
    limit := content.length
    finishedInput := true
    stats := ⟨crc32 content, (z.emitted n).length, content.length⟩ }

/-- The chunks of which the next one uses up its input with a full output. -/
def DeflateAligned (n : Nat) : Prop :=
  Aligned kBufferSize (z.emitted n).length (z.emitted (n + kBufferSize)).length

variable (sourcePath : String) {n : Nat}

theorem refillInput_full (whole : n + kBufferSize ≤ content.length) :
    refillInput sourcePath content (boundary z n) =
      if n + kBufferSize ≤ maxSize then .ok (fullChunk z n)
      else .error ("file is too large for ZIP32: " ++ sourcePath) := by
  have bytes : min kBufferSize (content.length - n) = kBufferSize := by omega
  have positive := kBufferSize_positive
  have empty : (boundary z n).availIn = 0 := Nat.sub_self n
  unfold refillInput
  rw [if_pos ⟨empty, rfl⟩]
  simp only [boundary, bytes]
  rw [if_neg (by omega)]
  by_cases small : n + kBufferSize ≤ maxSize
  · rw [if_neg (by omega), if_pos small, crc32From_append, ← List.take_add]
    simp [fullChunk, boundary]
  · rw [if_pos (by omega), if_neg small]

theorem refillInput_last (some_left : n ≤ content.length)
    (rest : content.length < n + kBufferSize) (before : n ≤ maxSize) :
    refillInput sourcePath content (boundary z n) =
      if content.length ≤ maxSize then .ok (lastChunk z n)
      else .error ("file is too large for ZIP32: " ++ sourcePath) := by
  have bytes : min kBufferSize (content.length - n) = content.length - n := by omega
  have empty : (boundary z n).availIn = 0 := Nat.sub_self n
  unfold refillInput
  rw [if_pos ⟨empty, rfl⟩]
  simp only [boundary, bytes]
  by_cases none_left : content.length - n = 0
  · have ended : n = content.length := by omega
    rw [if_pos none_left, if_pos (by omega)]
    simp [lastChunk, boundary, ended]
  · rw [if_neg none_left]
    have sum : n + (content.length - n) = content.length := by omega
    by_cases small : content.length ≤ maxSize
    · rw [sum, if_neg (by omega), if_pos small, crc32From_append, ← List.take_add, sum,
        List.take_length]
      have short : content.length - n < kBufferSize := by omega
      simp [lastChunk, boundary, short]
    · rw [sum, if_pos (by omega), if_neg small]

theorem chunk_ready {output : Nat → Bytes} {w : Writing} (grows : z.emitted n <+: output w.limit)
    (sound : Sound output w.limit w.progress) (progress : w.progress.produced = (z.emitted n).length)
    (written : w.written = z.emitted n) (counted : w.stats.compressedSize = (z.emitted n).length) :
    Ready output w := by
  refine ⟨sound, ?_, by rw [counted, progress]⟩
  rw [written, progress]
  exact List.prefix_iff_eq_take.mp grows

theorem fullChunk_ready : Ready (z.output false) (fullChunk z n) := by
  have plain : ∀ m, z.output false m = z.emitted m := fun m => if_neg (by simp)
  refine chunk_ready z ?_ ⟨Nat.le_add_right _ _, ?_⟩ rfl rfl rfl
  · rw [plain]
    exact z.grows _ _ (Nat.le_add_right _ _)
  · rw [plain]
    exact Nat.le_refl _

theorem lastChunk_ready (some_left : n ≤ content.length) :
    Ready (z.output true) (lastChunk z n) := by
  refine chunk_ready z ?_ ⟨some_left, ?_⟩ rfl rfl rfl
  · change z.emitted n <+: z.output true content.length
    rw [output_end]
    exact z.whole n
  · change (z.emitted n).length ≤ (z.output true n).length
    unfold Compressed.output
    split
    · exact (z.whole n).length_le
    · exact Nat.le_refl _

theorem fullChunk_drained :
    (fullChunk z n).drained (z.output false) = boundary z (n + kBufferSize) := by
  have plain : z.output false (n + kBufferSize) = z.emitted (n + kBufferSize) := if_neg (by simp)
  unfold Writing.drained
  change { fullChunk z n with
    progress := ⟨n + kBufferSize, (z.output false (n + kBufferSize)).length⟩
    written := z.output false (n + kBufferSize)
    stats := { (fullChunk z n).stats with
      compressedSize := (z.output false (n + kBufferSize)).length } } = _
  rw [plain]
  rfl

theorem fullChunk_behind : Behind (z.emitted n).length (fullChunk z n).limit
    (fullChunk z n).progress := by
  refine ⟨0, ?_, fun _ => Nat.lt_add_of_pos_right kBufferSize_positive⟩
  rw [Nat.zero_mul]
  rfl

/-- What the loop does with a chunk that was read. -/
theorem deflateLoop_refilled {zlib : Deflater z} {fuel : Nat} {w chunk : Writing}
    (refilled : refillInput sourcePath content w = .ok chunk) :
    deflateLoop sourcePath content zlib (fuel + 1) w =
      match drainDeflate sourcePath (zlib chunk.finishedInput) chunk.finishedInput fuel chunk with
      | none => none
      | some (.error message) => some (.error message)
      | some (.ok (w, code)) =>
        if code = .streamEnd then some (.ok (w.written, w.stats))
        else if w.finishedInput = true ∧ w.availIn = 0 then
          deflateLoop sourcePath content zlib fuel w
        else if code ≠ .ok then some (.error "failed to deflate archive entry")
        else deflateLoop sourcePath content zlib fuel w := by
  rw [deflateLoop, refilled]

/-- The last chunk ends the stream. -/
theorem deflateLoop_last {zlib : Deflater z} {fuel : Nat} {r : Bytes × FileWriteStats}
    (some_left : n ≤ content.length) (rest : content.length < n + kBufferSize)
    (before : n ≤ maxSize) (fits : (z.emitted n).length ≤ maxSize) :
    deflateLoop sourcePath content zlib (fuel + 1) (boundary z n) = some (.ok r) →
      content.length ≤ maxSize ∧ z.stream.length ≤ maxSize := by
  intro done
  rw [deflateLoop, refillInput_last z sourcePath some_left rest before] at done
  split at done
  · cases done
  · rename_i w refilled
    split at refilled
    · rename_i small
      cases refilled
      refine ⟨small, ?_⟩
      split at done
      · cases done
      · cases done
      · rename_i w' code drained
        have ends := drainDeflate_ends (output_grows z true) (lastChunk_ready z some_left) drained
        have all := ends.2.1 fits
        change (z.output true content.length).length ≤ maxSize at all
        rwa [output_end] at all
    · cases refilled

theorem deflateLoop_finishes {zlib : Deflater z} {fuel : Nat} (some_left : n ≤ content.length)
    (rest : content.length < n + kBufferSize) (before : n ≤ maxSize)
    (small : content.length ≤ maxSize) (fits : z.stream.length ≤ maxSize)
    (enough : z.stream.length < fuel) :
    deflateLoop sourcePath content zlib (fuel + 1) (boundary z n) =
      some (.ok (z.stream, ⟨crc32 content, z.stream.length, content.length⟩)) := by
  have ready := lastChunk_ready z some_left
  have whole : z.output true (lastChunk z n).limit = z.stream := output_end z
  obtain ⟨w', code, drained⟩ := @drainDeflate_terminates sourcePath (z.output true) (zlib true)
    (lastChunk z n) true fuel (output_grows z true) ready (by rwa [whole])
    (by rw [whole]; exact Nat.lt_of_le_of_lt (Nat.sub_le _ _) enough)
  obtain ⟨same, _, ended, _⟩ := drainDeflate_ends (output_grows z true) ready drained
  have refilled := refillInput_last z sourcePath some_left rest before
  rw [if_pos small] at refilled
  have run : drainDeflate sourcePath (zlib (lastChunk z n).finishedInput)
      (lastChunk z n).finishedInput fuel (lastChunk z n) = some (.ok (w', code)) := drained
  rw [deflateLoop_refilled z sourcePath refilled, run]
  simp only
  rw [if_pos (ended rfl), same]
  simp only [Writing.drained, whole]
  rfl

/-- A full chunk leads to the next one, if its last call has something to do. -/
theorem deflateLoop_goes_on {zlib : Deflater z} {fuel : Nat}
    (whole : n + kBufferSize ≤ content.length) (small : n + kBufferSize ≤ maxSize)
    (fits : z.stream.length ≤ maxSize) (enough : z.stream.length < fuel)
    (smooth : ¬ DeflateAligned z n) :
    deflateLoop sourcePath content zlib (fuel + 1) (boundary z n) =
      deflateLoop sourcePath content zlib fuel (boundary z (n + kBufferSize)) := by
  have ready := @fullChunk_ready content z n
  have plain : z.output false (n + kBufferSize) = z.emitted (n + kBufferSize) := if_neg (by simp)
  have shorter : (z.output false (n + kBufferSize)).length ≤ z.stream.length := by
    rw [plain]
    exact (z.whole _).length_le
  obtain ⟨w', code, drained⟩ := @drainDeflate_terminates sourcePath (z.output false) (zlib false)
    (fullChunk z n) false fuel (output_grows z false) ready (Nat.le_trans shorter fits)
    (Nat.lt_of_le_of_lt (Nat.le_trans (Nat.sub_le _ _) shorter) enough)
  obtain ⟨same, _, _, goes_on⟩ := drainDeflate_ends (output_grows z false) ready drained
  have fine : code = .ok := by
    rcases goes_on rfl with fine | ⟨_, aligned⟩
    · exact fine
    · have stuck := aligned _ (fullChunk_behind z)
      change Aligned kBufferSize _ (z.output false (n + kBufferSize)).length at stuck
      rw [plain] at stuck
      exact absurd stuck smooth
  have refilled := refillInput_full z sourcePath whole
  rw [if_pos small] at refilled
  have run : drainDeflate sourcePath (zlib (fullChunk z n).finishedInput)
      (fullChunk z n).finishedInput fuel (fullChunk z n) = some (.ok (w', code)) := drained
  rw [deflateLoop_refilled z sourcePath refilled, run, same, fullChunk_drained, fine]
  simp only
  rw [if_neg (by decide), if_neg (by simp [boundary]), if_neg (by simp)]

theorem deflateLoop_succeeds {zlib : Deflater z} {fuel : Nat} (some_left : n ≤ content.length)
    (small : content.length ≤ maxSize) (fits : z.stream.length ≤ maxSize)
    (at_chunk : kBufferSize ∣ n)
    (smooth : ∀ m, kBufferSize ∣ m → m + kBufferSize ≤ content.length → ¬ DeflateAligned z m)
    (enough : content.length - n + z.stream.length + 1 < fuel) :
    deflateLoop sourcePath content zlib fuel (boundary z n) =
      some (.ok (z.stream, ⟨crc32 content, z.stream.length, content.length⟩)) := by
  have positive := kBufferSize_positive
  induction fuel generalizing n with
  | zero => exact absurd enough (Nat.not_lt_zero _)
  | succ fuel ih =>
    by_cases whole : n + kBufferSize ≤ content.length
    · rw [deflateLoop_goes_on z sourcePath whole (Nat.le_trans whole small) fits (by omega)
        (smooth n at_chunk whole)]
      exact ih whole (Nat.dvd_add at_chunk (Nat.dvd_refl _)) (by omega)
    · exact deflateLoop_finishes z sourcePath some_left (by omega) (by omega) small fits (by omega)

/-- With the eager coder the loop only gets through if no chunk is aligned. -/
theorem deflateLoop_eager {fuel : Nat} {r : Bytes × FileWriteStats}
    (some_left : n ≤ content.length) (before : n ≤ maxSize)
    (fits : (z.emitted n).length ≤ maxSize) (at_chunk : kBufferSize ∣ n)
    (done : deflateLoop sourcePath content (fun finish => .eager kBufferSize (z.output finish))
      fuel (boundary z n) = some (.ok r)) :
    content.length ≤ maxSize ∧ z.stream.length ≤ maxSize ∧ ∀ m, n ≤ m → kBufferSize ∣ m →
      m + kBufferSize ≤ content.length → ¬ DeflateAligned z m := by
  have positive := kBufferSize_positive
  induction fuel generalizing n with
  | zero => cases done
  | succ fuel ih =>
    by_cases whole : n + kBufferSize ≤ content.length
    · by_cases small : n + kBufferSize ≤ maxSize
      · have refilled := refillInput_full z sourcePath whole
        rw [if_pos small] at refilled
        rw [deflateLoop_refilled z sourcePath refilled] at done
        split at done
        · cases done
        · cases done
        · rename_i w' code drained
          have ready := @fullChunk_ready content z n
          have plain : z.output false (n + kBufferSize) = z.emitted (n + kBufferSize) :=
            if_neg (by simp)
          obtain ⟨same, all, _, goes_on⟩ :=
            drainDeflate_ends (output_grows z false) ready drained
          have not_ended : code ≠ .streamEnd := by
            rcases goes_on rfl with fine | ⟨stuck, _⟩
            · rw [fine]
              nofun
            · rw [stuck]
              nofun
          rw [fullChunk_drained] at same
          rw [if_neg not_ended, if_neg (by rw [same]; simp [boundary])] at done
          split at done
          · cases done
          · rename_i fine
            have fits' := all fits
            change (z.output false (n + kBufferSize)).length ≤ maxSize at fits'
            rw [plain] at fits'
            rw [same] at done
            obtain ⟨short, whole_stream, smooth⟩ :=
              ih whole small fits' (Nat.dvd_add at_chunk (Nat.dvd_refl _)) done
            refine ⟨short, whole_stream, ?_⟩
            intro m onward at_chunk' some_more
            rcases Nat.eq_or_lt_of_le onward with rfl | later
            · rintro ⟨j, some_full, length⟩
              have stuck := drainDeflate_eager (output_grows z false) ready j
                (by rw [← plain] at length; exact length) (by omega) drained
              rw [stuck] at fine
              exact fine (by nofun)
            · exact smooth m (chunk_apart at_chunk at_chunk' later) at_chunk' some_more
      · have refilled := refillInput_full z sourcePath whole
        rw [if_neg small] at refilled
        rw [deflateLoop, refilled] at done
        cases done
    · have rest : content.length < n + kBufferSize := by omega
      obtain ⟨small, fits'⟩ := deflateLoop_last z sourcePath some_left rest before fits done
      refine ⟨small, fits', ?_⟩
      intro m onward _ some_more
      omega

/-- Whatever its calls do within the contract, the file is deflated. -/
def Deflates : Prop :=
  ∀ zlib : Deflater z, ∃ fuel, writeDeflatedFileData sourcePath content zlib fuel =
    some (.ok (z.stream, ⟨crc32 content, z.stream.length, content.length⟩))

theorem deflates_iff : Deflates z sourcePath ↔
    content.length ≤ maxSize ∧ z.stream.length ≤ maxSize ∧
    ∀ n, kBufferSize ∣ n → n + kBufferSize ≤ content.length → ¬ DeflateAligned z n := by
  have start : (⟨⟨0, 0⟩, 0, false, ⟨0, 0, 0⟩, []⟩ : Writing) = boundary z 0 := by
    unfold boundary
    rw [z.nothing, List.take_zero, show crc32 [] = 0 by decide]
    rfl
  unfold Deflates writeDeflatedFileData
  rw [start]
  constructor
  · intro deflates
    obtain ⟨fuel, done⟩ := deflates fun finish => .eager kBufferSize (z.output finish)
    obtain ⟨small, fits, smooth⟩ := deflateLoop_eager z sourcePath (Nat.zero_le _)
      (Nat.zero_le _) (by rw [z.nothing]; exact Nat.zero_le _) (Nat.dvd_zero _) done
    exact ⟨small, fits, fun n => smooth n (Nat.zero_le _)⟩
  · rintro ⟨small, fits, smooth⟩ zlib
    exact ⟨_, deflateLoop_succeeds z sourcePath (Nat.zero_le _) small fits (Nat.dvd_zero _) smooth
      (Nat.lt_succ_self _)⟩

end Deflated

/-! The drain loop of inflate -/

/-- What was handed on is what was delivered. -/
structure Handed (output : Nat → Bytes) (r : Reading) : Prop where
  sound : Sound output r.limit r.progress
  delivered : r.delivered = (output r.limit).take r.progress.produced

def Reading.drained (output : Nat → Bytes) (r : Reading) : Reading :=
  { r with progress := ⟨r.limit, (output r.limit).length⟩, delivered := output r.limit }

section DrainInflate

variable {output : Nat → Bytes} {z : Calls kBufferSize output} {r : Reading} {last : Bool}
  {fuel : Nat} (grows : ∀ n m, n ≤ m → output n <+: output m) (handed : Handed output r)
include grows handed

theorem handed_called : Handed output (r.called z) := by
  constructor
  · exact next_sound z grows handed.sound
  · change r.delivered ++ z.out r.limit r.progress = _
    rw [handed.delivered]
    exact out_written z grows handed.sound

theorem handed_short (short : (z.out r.limit r.progress).length ≠ kBufferSize) :
    r.called z = r.drained output := by
  have ended := short_ends z grows handed.sound short
  have progress : (r.called z).progress = ⟨r.limit, (output r.limit).length⟩ := ended
  have delivered := (handed_called (z := z) grows handed).delivered
  rw [progress] at delivered
  change (r.called z).delivered = (output r.limit).take (output r.limit).length at delivered
  rw [List.take_length] at delivered
  change { r with progress := (r.called z).progress, delivered := (r.called z).delivered } = _
  rw [progress, delivered]
  rfl

/-- How a drain loop ends: everything is delivered, or a call had nothing to do. -/
theorem drainInflate_ends {r' : Reading} {ending : Except String Code}
    (done : drainInflate z last fuel r = some (r', ending)) :
    (r' = r.drained output ∧ ending = .ok (if last then .streamEnd else .ok)) ∨
    (last = false ∧ (∃ message, ending = .error message) ∧
      ∀ base, Behind base r.limit r.progress → Aligned kBufferSize base (output r.limit).length) := by
  induction fuel generalizing r with
  | zero => cases done
  | succ fuel ih =>
    have again := handed_called (z := z) grows handed
    rw [drainInflate] at done
    by_cases full : (z.out r.limit r.progress).length = kBufferSize
    · have fine := full_code z kBufferSize_positive last full
      rw [if_neg (by rcases fine with fine | fine <;> simp [fine]), if_pos full] at done
      rcases ih again done with ⟨same, ended⟩ | ⟨more, failed, aligned⟩
      · exact .inl ⟨same, ended⟩
      · refine .inr ⟨more, failed, fun base ⟨j, behind, _⟩ => aligned base ⟨j + 1, ?_, nofun⟩⟩
        change r.progress.produced + (z.out r.limit r.progress).length = _
        rw [behind, full]
        ring
    · have told := short_code z grows handed.sound last full
      rw [told] at done
      cases last with
      | true =>
        rw [if_pos rfl, if_neg (by simp), if_neg full, handed_short grows handed full] at done
        cases done
        exact .inl ⟨rfl, rfl⟩
      | false =>
        rw [if_neg (show ¬ false = true by simp)] at done
        by_cases everything : r.progress = ⟨r.limit, (output r.limit).length⟩
        · rw [if_pos everything, if_pos (by simp)] at done
          cases done
          refine .inr ⟨rfl, ⟨_, rfl⟩, fun base ⟨j, behind, first⟩ => ⟨j, ?_, ?_⟩⟩
          · rcases Nat.eq_zero_or_pos j with none_yet | positive
            · have left := first none_yet
              rw [everything] at left
              exact absurd left (Nat.lt_irrefl _)
            · exact positive
          · rw [everything] at behind
            exact behind
        · rw [if_neg everything, if_neg (by simp), if_neg full, handed_short grows handed full]
            at done
          cases done
          exact .inl ⟨rfl, rfl⟩

theorem drainInflate_terminates (enough : (output r.limit).length - r.progress.produced < fuel) :
    ∃ result, drainInflate z last fuel r = some result := by
  induction fuel generalizing r with
  | zero => exact absurd enough (Nat.not_lt_zero _)
  | succ fuel ih =>
    have again := handed_called (z := z) grows handed
    have produced : (r.called z).progress.produced ≤ (output r.limit).length :=
      Nat.le_trans again.sound.produced (grows _ _ again.sound.consumed).length_le
    rw [drainInflate]
    split
    · exact ⟨_, rfl⟩
    · split
      · rename_i full
        have more : (r.called z).progress.produced = r.progress.produced + kBufferSize := by
          rw [← full]
          rfl
        have positive := kBufferSize_positive
        exact ih again (by
          change (output r.limit).length - _ < fuel
          omega)
      · exact ⟨_, rfl⟩

end DrainInflate

theorem drainInflate_eager {output : Nat → Bytes} {r r' : Reading} {fuel : Nat}
    {ending : Except String Code} (grows : ∀ n m, n ≤ m → output n <+: output m)
    (handed : Handed output r) (j : Nat)
    (full : (output r.limit).length = r.progress.produced + j * kBufferSize)
    (first : j = 0 → r.progress.consumed = r.limit)
    (done : drainInflate (.eager kBufferSize output) false fuel r = some (r', ending)) :
    ∃ message, ending = .error message := by
  induction fuel generalizing r j with
  | zero => cases done
  | succ fuel ih =>
    have length : ((Calls.eager kBufferSize output).out r.limit r.progress).length =
        min kBufferSize (j * kBufferSize) := by
      rw [out_length]
      change min kBufferSize ((output r.limit).length - r.progress.produced) = _
      rw [full, Nat.add_sub_cancel_left]
    have positive := kBufferSize_positive
    rw [drainInflate] at done
    cases j with
    | zero =>
      rw [Nat.zero_mul, Nat.min_zero] at length
      have short : ((Calls.eager kBufferSize output).out r.limit r.progress).length ≠
          kBufferSize := by omega
      have everything : r.progress = ⟨r.limit, (output r.limit).length⟩ := by
        have consumed := first rfl
        rw [Nat.zero_mul, Nat.add_zero] at full
        cases at_end : r.progress with
        | mk c p =>
          rw [at_end] at consumed full
          rw [show c = r.limit from consumed, full]
      rw [short_code _ grows handed.sound false short, if_neg (show ¬ false = true by simp),
        if_pos everything, if_pos (by simp)] at done
      cases done
      exact ⟨_, rfl⟩
    | succ j =>
      have whole : ((Calls.eager kBufferSize output).out r.limit r.progress).length =
          kBufferSize := by
        rw [length, Nat.succ_mul]
        omega
      have fine := full_code (.eager kBufferSize output) positive false whole
      rw [if_neg (by rcases fine with fine | fine <;> simp [fine]), if_pos whole] at done
      refine ih (handed_called grows handed) j ?_ (fun _ => rfl) done
      change (output r.limit).length = (r.progress.produced + _) + _
      rw [whole, full]
      ring

/-! The loop over the chunks of an entry -/

section Inflated

variable {data : Bytes} (z : Decoded data) {n : Nat}

/-- The chunks up to here are done. -/
def readingAt (n : Nat) : Reading := ⟨⟨n, (z.output n).length⟩, n, z.output n⟩

/-- The next chunk is read. -/
def readChunk (n : Nat) : Reading :=
  { readingAt z n with limit := n + min kBufferSize (data.length - n) }

/-- The next chunk uses up its input with a full output. -/
def InflateAligned (n : Nat) : Prop :=
  Aligned kBufferSize (z.output n).length (z.output (n + kBufferSize)).length

theorem refilled_chunk (more : n < data.length) :
    (readingAt z n).refilled data = readChunk z n := by
  have empty : (readingAt z n).availIn = 0 := Nat.sub_self n
  unfold Reading.refilled
  rw [if_pos ⟨empty, more⟩]
  rfl

theorem readChunk_handed : Handed z.output (readChunk z n) :=
  ⟨⟨Nat.le_add_right _ _, Nat.le_refl _⟩,
    List.prefix_iff_eq_take.mp (z.grows _ _ (Nat.le_add_right _ _))⟩

theorem readChunk_behind (more : n < data.length) : Behind (z.output n).length
    (readChunk z n).limit (readChunk z n).progress := by
  have positive := kBufferSize_positive
  refine ⟨0, ?_, fun _ => ?_⟩
  · rw [Nat.zero_mul]
    rfl
  · change n < n + min kBufferSize (data.length - n)
    omega

theorem readChunk_drained : (readChunk z n).drained z.output =
    readingAt z (n + min kBufferSize (data.length - n)) := rfl

/-- What the loop does with a chunk that was drained. -/
theorem inflateLoop_drained {zlib : Calls kBufferSize z.output} {fuel : Nat} {r : Reading}
    {code : Code} (more : n < data.length)
    (drained : drainInflate zlib ((readChunk z n).limit = data.length) fuel (readChunk z n) =
      some (r, .ok code)) :
    inflateLoop zlib data (fuel + 1) (readingAt z n) =
      if code = .streamEnd then
        if r.limit ≠ data.length ∨ r.availIn ≠ 0 then
          some (r.delivered, .error "deflated ZIP entry contains trailing data: ")
        else some (r.delivered, .ok ())
      else if r.limit = data.length ∧ r.availIn = 0 then
        some (r.delivered, .error "deflated ZIP entry is truncated: ")
      else inflateLoop zlib data fuel r := by
  rw [inflateLoop, refilled_chunk z more, drained]

theorem inflateLoop_failed {zlib : Calls kBufferSize z.output} {fuel : Nat} {r : Reading}
    {message : String} (more : n < data.length)
    (failed : drainInflate zlib ((readChunk z n).limit = data.length) fuel (readChunk z n) =
      some (r, .error message)) :
    inflateLoop zlib data (fuel + 1) (readingAt z n) = some (r.delivered, .error message) := by
  rw [inflateLoop, refilled_chunk z more, failed]

theorem inflateLoop_finishes {zlib : Calls kBufferSize z.output} {fuel : Nat}
    (more : n < data.length) (rest : data.length ≤ n + kBufferSize)
    (enough : z.contents.length < fuel) :
    inflateLoop zlib data (fuel + 1) (readingAt z n) = some (z.contents, .ok ()) := by
  have whole : n + min kBufferSize (data.length - n) = data.length := by omega
  have limit : (readChunk z n).limit = data.length := whole
  obtain ⟨⟨r, ending⟩, drained⟩ := @drainInflate_terminates z.output zlib (readChunk z n)
    ((readChunk z n).limit = data.length) fuel z.grows (readChunk_handed z)
    (by rw [limit]; exact Nat.lt_of_le_of_lt (Nat.sub_le _ _) enough)
  rcases drainInflate_ends z.grows (readChunk_handed z) drained with
    ⟨same, ended⟩ | ⟨not_last, _⟩
  · rw [limit] at ended
    rw [ended] at drained
    rw [inflateLoop_drained z more drained, if_pos (by simp), same, readChunk_drained, whole,
      if_neg (by simp [readingAt, Reading.availIn])]
    rfl
  · simp [limit] at not_last

theorem inflateLoop_goes_on {zlib : Calls kBufferSize z.output} {fuel : Nat}
    (more : n + kBufferSize < data.length) (enough : z.contents.length < fuel)
    (smooth : ¬ InflateAligned z n) :
    inflateLoop zlib data (fuel + 1) (readingAt z n) =
      inflateLoop zlib data fuel (readingAt z (n + kBufferSize)) := by
  have positive := kBufferSize_positive
  have some_more : n < data.length := by omega
  have whole : n + min kBufferSize (data.length - n) = n + kBufferSize := by omega
  have limit : (readChunk z n).limit = n + kBufferSize := whole
  have shorter : (z.output (readChunk z n).limit).length ≤ z.contents.length := by
    rw [limit]
    exact (z.grows _ _ (Nat.le_of_lt more)).length_le
  obtain ⟨⟨r, ending⟩, drained⟩ := @drainInflate_terminates z.output zlib (readChunk z n)
    ((readChunk z n).limit = data.length) fuel z.grows (readChunk_handed z)
    (Nat.lt_of_le_of_lt (Nat.le_trans (Nat.sub_le _ _) shorter) enough)
  have not_last : ¬ (n + kBufferSize = data.length) := by omega
  rcases drainInflate_ends z.grows (readChunk_handed z) drained with
    ⟨same, ended⟩ | ⟨_, _, aligned⟩
  · rw [limit] at ended
    rw [ended] at drained
    rw [inflateLoop_drained z some_more drained, if_neg (by simp [not_last]), same,
      readChunk_drained, whole, if_neg (by simp [readingAt, not_last])]
  · have stuck := aligned _ (readChunk_behind z some_more)
    rw [limit] at stuck
    exact absurd stuck smooth

theorem inflateLoop_succeeds {zlib : Calls kBufferSize z.output} {fuel : Nat}
    (more : n < data.length) (at_chunk : kBufferSize ∣ n)
    (smooth : ∀ m, kBufferSize ∣ m → m + kBufferSize < data.length → ¬ InflateAligned z m)
    (enough : data.length - n + z.contents.length < fuel) :
    inflateLoop zlib data fuel (readingAt z n) = some (z.contents, .ok ()) := by
  have positive := kBufferSize_positive
  induction fuel generalizing n with
  | zero => exact absurd enough (Nat.not_lt_zero _)
  | succ fuel ih =>
    by_cases behind : n + kBufferSize < data.length
    · rw [inflateLoop_goes_on z behind (by omega) (smooth n at_chunk behind)]
      exact ih behind (Nat.dvd_add at_chunk (Nat.dvd_refl _)) (by omega)
    · exact inflateLoop_finishes z more (by omega) (by omega)

theorem inflateLoop_eager {fuel : Nat} {contents : Bytes} (more : n < data.length)
    (at_chunk : kBufferSize ∣ n)
    (done : inflateLoop (.eager kBufferSize z.output) data fuel (readingAt z n) =
      some (contents, .ok ())) :
    ∀ m, n ≤ m → kBufferSize ∣ m → m + kBufferSize < data.length → ¬ InflateAligned z m := by
  have positive := kBufferSize_positive
  induction fuel generalizing n with
  | zero => cases done
  | succ fuel ih =>
    intro m onward at_chunk' some_more
    have behind : n + kBufferSize < data.length := by omega
    have whole : n + min kBufferSize (data.length - n) = n + kBufferSize := by omega
    have limit : (readChunk z n).limit = n + kBufferSize := whole
    have not_last : ¬ (n + kBufferSize = data.length) := by omega
    have last : decide ((readChunk z n).limit = data.length) = false := by simp [limit, not_last]
    cases drained : drainInflate (.eager kBufferSize z.output)
        ((readChunk z n).limit = data.length) fuel (readChunk z n) with
    | none =>
      rw [inflateLoop, refilled_chunk z more, drained] at done
      cases done
    | some pair =>
      obtain ⟨r, ending⟩ := pair
      cases ending with
      | error message =>
        rw [inflateLoop_failed z more drained] at done
        cases done
      | ok code =>
        rcases drainInflate_ends z.grows (readChunk_handed z) drained with
          ⟨same, ended⟩ | ⟨_, ⟨_, failed⟩, _⟩
        · rw [last] at ended
          cases ended
          rw [inflateLoop_drained z more drained, if_neg (by simp), same, readChunk_drained, whole,
            if_neg (by simp [readingAt, not_last])] at done
          rcases Nat.eq_or_lt_of_le onward with rfl | later
          · rintro ⟨j, some_full, length⟩
            rw [last] at drained
            obtain ⟨message, failed⟩ := drainInflate_eager z.grows (readChunk_handed z) j
              (by rw [limit]; exact length) (by omega) drained
            cases failed
          · exact ih behind (Nat.dvd_add at_chunk (Nat.dvd_refl _)) done m
              (chunk_apart at_chunk at_chunk' later) at_chunk' some_more
        · cases failed

end Inflated

/-- Whatever its calls do within the contract, the entry is inflated. -/
def Inflates (archive : ArchiveFile) (entry : ArchiveRecord) (dataOffset : Nat)
    (z : Decoded (archive.contents.range dataOffset entry.compressedSize).bytes) : Prop :=
  ∀ zlib : Calls kBufferSize z.output, ∃ fuel,
    inflateEntry zlib archive entry dataOffset fuel = some (z.contents, .ok ())

theorem inflates_iff {archive : ArchiveFile} {entry : ArchiveRecord} {dataOffset : Nat}
    (z : Decoded (archive.contents.range dataOffset entry.compressedSize).bytes) :
    Inflates archive entry dataOffset z ↔
      z.contents.length = entry.uncompressedSize ∧ ∀ n, kBufferSize ∣ n →
        n + kBufferSize < (archive.contents.range dataOffset entry.compressedSize).bytes.length →
        ¬ InflateAligned z n := by
  have start : (⟨⟨0, 0⟩, 0, []⟩ : Reading) = readingAt z 0 := by
    unfold readingAt
    rw [z.nothing]
    rfl
  have some_data := List.length_pos_of_ne_nil z.nonempty
  unfold Inflates inflateEntry
  rw [start]
  constructor
  · intro inflates
    obtain ⟨fuel, done⟩ := inflates (.eager kBufferSize z.output)
    obtain ⟨result, looped, delivered⟩ := Option.map_eq_some_iff.mp done
    obtain ⟨rfl, size⟩ := inflateDeflatedEntry_ok.mp delivered
    exact ⟨size, fun n => inflateLoop_eager z some_data (Nat.dvd_zero _) looped n (Nat.zero_le _)⟩
  · rintro ⟨size, smooth⟩ zlib
    obtain ⟨fuel, looped⟩ : ∃ fuel, inflateLoop zlib _ fuel (readingAt z 0) =
        some (z.contents, .ok ()) :=
      ⟨_, inflateLoop_succeeds z some_data (Nat.dvd_zero _) smooth (Nat.lt_succ_self _)⟩
    refine ⟨fuel, ?_⟩
    rw [looped, Option.map_some, inflateDeflatedEntry_ok.mpr ⟨rfl, size⟩]

/-- Both loops get through exactly if no chunk but the last is used up by calls that fill the
    output buffer a number of times; what is deflated has to fit the fields of the archive. -/
theorem zlib_loops_iff {content : Bytes} (z : Compressed content) (sourcePath : String)
    (archive : ArchiveFile) (entry : ArchiveRecord) (dataOffset : Nat)
    (decoded : Decoded (archive.contents.range dataOffset entry.compressedSize).bytes) :
    (Deflates z sourcePath ↔ content.length ≤ maxSize ∧ z.stream.length ≤ maxSize ∧
      ∀ n, kBufferSize ∣ n → n + kBufferSize ≤ content.length → ¬ DeflateAligned z n) ∧
    (Inflates archive entry dataOffset decoded ↔
      decoded.contents.length = entry.uncompressedSize ∧ ∀ n, kBufferSize ∣ n →
        n + kBufferSize < (archive.contents.range dataOffset entry.compressedSize).bytes.length →
        ¬ InflateAligned decoded n) :=
  ⟨deflates_iff z sourcePath, inflates_iff decoded⟩

/-! An entry of 64 KiB that is not inflated -/

/-- A block of one byte and a match of eight, a stored block of 65527 bytes that ends with
    the first chunk, and an empty last block. -/
def alignedStream : Bytes :=
  [74, 132, 1, 0, 0, 247, 255, 8, 0] ++ List.replicate 65527 97 ++ [1, 0, 0, 255, 255]

theorem alignedStream_length : alignedStream.length = 65541 := by
  rw [alignedStream, List.length_append, List.length_append, List.length_replicate]
  rfl

/-- The file from its data on. -/
def alignedArchive : ArchiveFile where
  path := "p.zip"
  contents := ⟨alignedStream, by rw [alignedStream_length]; decide⟩

def alignedEntry : ArchiveRecord where
  path := "a"
  executable := false
  compressedSize := 65541
  uncompressedSize := 65536
  localHeaderOffset := 0
  crc32 := 0xc32091ff
  compressionMethod := kDeflatedCompressionMethod
  generalPurposeBitFlag := 0
  versionMadeBy := 20

/-- How much is decoded of the first bytes. -/
def alignedCount (n : Nat) : Nat :=
  if n < 2 then 0 else if n < 3 then 1 else if n < 9 then 9 else min n 65536

theorem aligned_data : (alignedArchive.contents.range 0 alignedEntry.compressedSize).bytes =
    alignedStream := by
  change (alignedStream.drop 0).take 65541 = alignedStream
  rw [List.drop_zero, ← alignedStream_length, List.take_length]

def alignedDecoded :
    Decoded (alignedArchive.contents.range 0 alignedEntry.compressedSize).bytes where
  output n := List.replicate (alignedCount n) 97
  nothing := rfl
  grows n m onward := by
    have more : alignedCount n ≤ alignedCount m := by
      unfold alignedCount
      split_ifs <;> omega
    refine ⟨List.replicate (alignedCount m - alignedCount n) 97, ?_⟩
    rw [List.replicate_append_replicate, Nat.add_sub_cancel' more]
  nonempty := by
    rw [aligned_data]
    exact List.ne_nil_of_length_pos (by rw [alignedStream_length]; decide)

/-- The first chunk is used up by the call that fills the output, and the call behind it has
    nothing to do. -/
theorem aligned_not_inflated : ¬ Inflates alignedArchive alignedEntry 0 alignedDecoded := by
  intro inflates
  have smooth := ((inflates_iff alignedDecoded).mp inflates).2 0 (Nat.dvd_zero _) (by
    rw [aligned_data, alignedStream_length]
    decide)
  apply smooth
  refine ⟨1, Nat.one_pos, ?_⟩
  change (List.replicate (alignedCount 65536) (97 : UInt8)).length =
    (List.replicate (alignedCount 0) (97 : UInt8)).length + 1 * kBufferSize
  rw [List.length_replicate, List.length_replicate]
  decide

end PackageArchive
