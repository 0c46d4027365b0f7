import Mathlib.Data.UInt
import Mathlib.Data.List.Basic
import Mathlib.Tactic.IntervalCases

/-!
Readers over a buffer, numbers with the least significant byte first. A read outside the
buffer is a fault of its own, so that it can be proved not to happen. What a reader lets
through is compared with a grammar, which says what is written for a value.
-/
namespace ByteReader

abbrev Bytes := List UInt8

/-- Bytes that fit into the address space. -/
structure Buffer where
  bytes : Bytes
  sized : bytes.length < 2 ^ 64

def Buffer.range (buffer : Buffer) (offset size : Nat) : Buffer where
  bytes := (buffer.bytes.drop offset).take size
  sized := by
    have sized := buffer.sized
    rw [List.length_take, List.length_drop]
    omega

inductive Fault where
  | thrown (message : String)
  | outOfBounds
  deriving DecidableEq, Repr

def throw {α : Type} (message : String) : Except Fault α := .error (.thrown message)

/-! Machine arithmetic -/

def add64 (a b : Nat) : Nat := (a + b) % 2 ^ 64

def sub64 (a b : Nat) : Nat := (a + 2 ^ 64 - b) % 2 ^ 64

theorem add64_of_lt {a b : Nat} (small : a + b < 2 ^ 64) : add64 a b = a + b :=
  Nat.mod_eq_of_lt small

theorem sub64_of_le {a b : Nat} (ordered : b ≤ a) (small : a < 2 ^ 64) : sub64 a b = a - b := by
  unfold sub64
  omega

/-! Numbers -/

def joinU16 (b₀ b₁ : UInt8) : UInt16 := b₀.toUInt16 ||| b₁.toUInt16 <<< 8

def joinU32 (b₀ b₁ b₂ b₃ : UInt8) : UInt32 :=
  b₀.toUInt32 ||| b₁.toUInt32 <<< 8 ||| b₂.toUInt32 <<< 16 ||| b₃.toUInt32 <<< 24

def writeU16 (value : UInt16) : Bytes := [(value &&& 0xff).toUInt8, ((value >>> 8) &&& 0xff).toUInt8]

def writeU32 (value : UInt32) : Bytes :=
  [(value &&& 0xff).toUInt8, ((value >>> 8) &&& 0xff).toUInt8,
    ((value >>> 16) &&& 0xff).toUInt8, ((value >>> 24) &&& 0xff).toUInt8]

@[simp] theorem writeU16_length (value : UInt16) : (writeU16 value).length = 2 := rfl

@[simp] theorem writeU32_length (value : UInt32) : (writeU32 value).length = 4 := rfl

theorem joinU16_write (value : UInt16) :
    joinU16 (value &&& 0xff).toUInt8 ((value >>> 8) &&& 0xff).toUInt8 = value := by
  unfold joinU16
  apply UInt16.toBitVec_inj.mp
  apply BitVec.eq_of_getLsbD_eq
  intro i small
  simp only [UInt16.toBitVec_or, UInt16.toBitVec_shiftLeft, UInt16.toBitVec_shiftRight,
    UInt16.toBitVec_and, UInt8.toBitVec_toUInt16, UInt16.toBitVec_toUInt8, BitVec.getLsbD_or,
    BitVec.getLsbD_setWidth, BitVec.getLsbD_and, BitVec.getLsbD_shiftLeft, BitVec.shiftLeft_eq',
    BitVec.ushiftRight_eq', BitVec.getLsbD_ushiftRight]
  interval_cases i <;> simp

theorem joinU32_write (value : UInt32) :
    joinU32 (value &&& 0xff).toUInt8 ((value >>> 8) &&& 0xff).toUInt8
      ((value >>> 16) &&& 0xff).toUInt8 ((value >>> 24) &&& 0xff).toUInt8 = value := by
  unfold joinU32
  apply UInt32.toBitVec_inj.mp
  apply BitVec.eq_of_getLsbD_eq
  intro i small
  simp only [UInt32.toBitVec_or, UInt32.toBitVec_shiftLeft, UInt32.toBitVec_shiftRight,
    UInt32.toBitVec_and, UInt8.toBitVec_toUInt32, UInt32.toBitVec_toUInt8, BitVec.getLsbD_or,
    BitVec.getLsbD_setWidth, BitVec.getLsbD_and, BitVec.getLsbD_shiftLeft, BitVec.shiftLeft_eq',
    BitVec.ushiftRight_eq', BitVec.getLsbD_ushiftRight]
  interval_cases i <;> simp

theorem writeU16_join (b₀ b₁ : UInt8) : writeU16 (joinU16 b₀ b₁) = [b₀, b₁] := by
  unfold writeU16 joinU16
  simp only [List.cons.injEq, and_true]
  constructor
  all_goals
    apply UInt8.toBitVec_inj.mp
    apply BitVec.eq_of_getLsbD_eq
    intro i small
    simp only [UInt16.toBitVec_or, UInt16.toBitVec_shiftLeft, UInt16.toBitVec_shiftRight,
      UInt16.toBitVec_and, UInt8.toBitVec_toUInt16, UInt16.toBitVec_toUInt8, BitVec.getLsbD_or,
      BitVec.getLsbD_setWidth, BitVec.getLsbD_and, BitVec.getLsbD_shiftLeft, BitVec.shiftLeft_eq',
      BitVec.ushiftRight_eq', BitVec.getLsbD_ushiftRight]
    interval_cases i <;> simp

theorem writeU32_join (b₀ b₁ b₂ b₃ : UInt8) :
    writeU32 (joinU32 b₀ b₁ b₂ b₃) = [b₀, b₁, b₂, b₃] := by
  unfold writeU32 joinU32
  simp only [List.cons.injEq, and_true]
  refine ⟨?_, ?_, ?_, ?_⟩
  all_goals
    apply UInt8.toBitVec_inj.mp
    apply BitVec.eq_of_getLsbD_eq
    intro i small
    simp only [UInt32.toBitVec_or, UInt32.toBitVec_shiftLeft, UInt32.toBitVec_shiftRight,
      UInt32.toBitVec_and, UInt8.toBitVec_toUInt32, UInt32.toBitVec_toUInt8, BitVec.getLsbD_or,
      BitVec.getLsbD_setWidth, BitVec.getLsbD_and, BitVec.getLsbD_shiftLeft, BitVec.shiftLeft_eq',
      BitVec.ushiftRight_eq', BitVec.getLsbD_ushiftRight]
    interval_cases i <;> simp

/-- Bytes as a text, one character each. -/
def textOf (bytes : Bytes) : String := String.ofList (bytes.map fun b => Char.ofNat b.toNat)

def bytesOf (text : String) : Bytes := text.toList.map fun ch => ch.toNat.toUInt8

theorem bytesOf_textOf (bytes : Bytes) : bytesOf (textOf bytes) = bytes := by
  unfold bytesOf textOf
  rw [String.toList_ofList, List.map_map]
  conv_rhs => rw [← List.map_id bytes]
  apply List.map_congr_left
  intro b _
  have small := b.toNat_lt
  have valid : Nat.isValidChar b.toNat := .inl (by omega)
  have number : (Char.ofNat b.toNat).toNat = b.toNat := by
    rw [Char.ofNat, dif_pos valid]
    rfl
  simp [number]

theorem textOf_inj {bytes bytes' : Bytes} (same : textOf bytes = textOf bytes') :
    bytes = bytes' := by
  rw [← bytesOf_textOf bytes, same, bytesOf_textOf]

/-! Reading at a place -/

def byteAt (data : Bytes) (offset : Nat) : Except Fault UInt8 :=
  match data[offset]? with
  | some b => .ok b
  | none => .error .outOfBounds

def u16At (data : Bytes) (offset : Nat) : Except Fault UInt16 := do
  let b₀ ← byteAt data offset
  let b₁ ← byteAt data (offset + 1)
  pure (joinU16 b₀ b₁)

def u32At (data : Bytes) (offset : Nat) : Except Fault UInt32 := do
  let b₀ ← byteAt data offset
  let b₁ ← byteAt data (offset + 1)
  let b₂ ← byteAt data (offset + 2)
  let b₃ ← byteAt data (offset + 3)
  pure (joinU32 b₀ b₁ b₂ b₃)

theorem byteAt_drop {data rest : Bytes} {offset : Nat} {b : UInt8}
    (there : data.drop offset = b :: rest) : byteAt data offset = .ok b := by
  have first := congrArg List.head? there
  rw [List.head?_drop, List.head?_cons] at first
  unfold byteAt
  rw [first]

theorem drop_succ {data rest : Bytes} {offset : Nat} {b : UInt8}
    (there : data.drop offset = b :: rest) : data.drop (offset + 1) = rest := by
  rw [← List.drop_drop, there]
  rfl

theorem u16At_written {data rest : Bytes} {offset : Nat} {value : UInt16}
    (there : data.drop offset = writeU16 value ++ rest) : u16At data offset = .ok value := by
  have later := drop_succ there
  unfold u16At
  rw [byteAt_drop there, byteAt_drop later]
  exact congrArg Except.ok (joinU16_write value)

theorem u32At_written {data rest : Bytes} {offset : Nat} {value : UInt32}
    (there : data.drop offset = writeU32 value ++ rest) : u32At data offset = .ok value := by
  have second := drop_succ there
  have third := drop_succ second
  have last := drop_succ third
  unfold u32At
  rw [byteAt_drop there, byteAt_drop second, byteAt_drop third, byteAt_drop last]
  exact congrArg Except.ok (joinU32_write value)

theorem u16At_total {data : Bytes} {offset : Nat} (fits : offset + 2 ≤ data.length) :
    ∃ value, u16At data offset = .ok value ∧
      data.drop offset = writeU16 value ++ data.drop (offset + 2) := by
  have first := List.drop_eq_getElem_cons (show offset < data.length by omega)
  have second := List.drop_eq_getElem_cons (show offset + 1 < data.length by omega)
  refine ⟨joinU16 data[offset] data[offset + 1], ?_, ?_⟩
  · unfold u16At
    rw [byteAt_drop first, byteAt_drop second]
    rfl
  · rw [writeU16_join, first, second]
    rfl

theorem u32At_total {data : Bytes} {offset : Nat} (fits : offset + 4 ≤ data.length) :
    ∃ value, u32At data offset = .ok value ∧
      data.drop offset = writeU32 value ++ data.drop (offset + 4) := by
  have first := List.drop_eq_getElem_cons (show offset < data.length by omega)
  have second := List.drop_eq_getElem_cons (show offset + 1 < data.length by omega)
  have third := List.drop_eq_getElem_cons (show offset + 2 < data.length by omega)
  have last := List.drop_eq_getElem_cons (show offset + 3 < data.length by omega)
  refine ⟨joinU32 data[offset] data[offset + 1] data[offset + 2] data[offset + 3], ?_, ?_⟩
  · unfold u32At
    rw [byteAt_drop first, byteAt_drop second, byteAt_drop third, byteAt_drop last]
    rfl
  · rw [writeU32_join, first, second, third, last]
    rfl

/-! Readers -/

/-- A reader goes on from an offset into the buffer. -/
def Reader (α : Type) := Buffer → Nat → Except Fault (α × Nat)

variable {α β : Type}

instance : Monad Reader where
  pure a := fun _ offset => .ok (a, offset)
  bind reader next := fun buffer offset =>
    match reader buffer offset with
    | .ok (a, offset') => next a buffer offset'
    | .error fault => .error fault

def remaining : Reader Nat := fun buffer offset =>
  .ok (sub64 buffer.bytes.length offset, offset)

/-- Go on if the condition holds. -/
def check (condition : Prop) [Decidable condition] (message : String) : Reader Unit :=
  fun _ offset => if condition then .ok ((), offset) else throw message

/-- A computation that may throw and reads nothing. -/
def ofResult (result : Except String α) : Reader α := fun _ offset =>
  match result with
  | .ok a => .ok (a, offset)
  | .error message => throw message

/-- There are this many bytes left. -/
def ensure (size : Nat) (message : String) : Reader Unit := do
  let left ← remaining
  check (size ≤ left) message

def require (size : Nat) : Reader Unit := ensure size "archive payload is truncated"

/-- Look at the offset with a function that may leave the buffer, and go on behind it. -/
def advance (size : Nat) (look : Bytes → Nat → Except Fault α) : Reader α :=
  fun buffer offset =>
    match look buffer.bytes offset with
    | .ok a => .ok (a, add64 offset size)
    | .error fault => .error fault

def readU16 : Reader UInt16 := require 2 >>= fun _ => advance 2 u16At

def readU32 : Reader UInt32 := require 4 >>= fun _ => advance 4 u32At

/-- A range of the buffer; one that leaves it is a fault. -/
def textAt (size : Nat) (data : Bytes) (offset : Nat) : Except Fault String :=
  if offset + size ≤ data.length then .ok (textOf ((data.drop offset).take size))
  else .error .outOfBounds

def readString (size : Nat) : Reader String := require size >>= fun _ => advance size (textAt size)

def skip (size : Nat) : Reader Unit :=
  require size >>= fun _ => advance size fun _ _ => .ok ()

/-! Grammars -/

/-- What may be written for a value. -/
abbrev Grammar (α : Type) := α → Bytes → Prop

/-- The reader stays inside, and lets through what the grammar writes and nothing else. -/
structure Exact (reader : Reader α) (grammar : Grammar α) : Prop where
  inside : ∀ buffer offset, offset ≤ buffer.bytes.length →
    reader buffer offset ≠ .error .outOfBounds
  sound : ∀ buffer offset a offset', offset ≤ buffer.bytes.length →
    reader buffer offset = .ok (a, offset') → offset' ≤ buffer.bytes.length ∧
      ∃ written, grammar a written ∧ offset' = offset + written.length ∧
        buffer.bytes.drop offset = written ++ buffer.bytes.drop offset'
  complete : ∀ buffer offset a written rest, offset ≤ buffer.bytes.length → grammar a written →
    buffer.bytes.drop offset = written ++ rest →
    reader buffer offset = .ok (a, offset + written.length)

/-- One grammar behind another. -/
def Grammar.andThen (first : Grammar α) (next : α → Grammar β) : Grammar β := fun b written =>
  ∃ a u v, first a u ∧ next a b v ∧ written = u ++ v

theorem written_fits {data written rest : Bytes} {offset : Nat}
    (there : data.drop offset = written ++ rest) (inside : offset ≤ data.length) :
    offset + written.length + rest.length = data.length := by
  have lengths := congrArg List.length there
  rw [List.length_drop, List.length_append] at lengths
  omega

theorem drop_written {data written rest : Bytes} {offset : Nat}
    (there : data.drop offset = written ++ rest) :
    data.drop (offset + written.length) = rest := by
  rw [← List.drop_drop, there, List.drop_left]

theorem exact_pure (a : α) : Exact (pure a) fun b written => b = a ∧ written = [] := by
  constructor
  · intro buffer offset _ failed
    cases failed
  · intro buffer offset b offset' inside read
    cases read
    exact ⟨inside, [], ⟨rfl, rfl⟩, rfl, rfl⟩
  · intro buffer offset b written rest _ wrote _
    obtain ⟨rfl, rfl⟩ := wrote
    rfl

theorem bind_run (reader : Reader α) (next : α → Reader β) (buffer : Buffer) (offset : Nat) :
    (reader >>= next) buffer offset =
      match reader buffer offset with
      | .ok (a, offset') => next a buffer offset'
      | .error fault => .error fault := rfl

theorem exact_bind {reader : Reader α} {next : α → Reader β} {first : Grammar α}
    {second : α → Grammar β} (exact_first : Exact reader first)
    (exact_next : ∀ a, Exact (next a) (second a)) :
    Exact (reader >>= next) (first.andThen second) := by
  constructor
  · intro buffer offset inside failed
    rw [bind_run] at failed
    cases read : reader buffer offset with
    | error fault =>
      rw [read] at failed
      cases failed
      exact exact_first.inside buffer offset inside read
    | ok pair =>
      obtain ⟨a, middle⟩ := pair
      rw [read] at failed
      exact (exact_next a).inside buffer middle
        (exact_first.sound buffer offset a middle inside read).1 failed
  · intro buffer offset b offset' inside done
    rw [bind_run] at done
    cases read : reader buffer offset with
    | error fault =>
      rw [read] at done
      cases done
    | ok pair =>
      obtain ⟨a, middle⟩ := pair
      rw [read] at done
      obtain ⟨inside', u, wrote, length, there⟩ :=
        exact_first.sound buffer offset a middle inside read
      obtain ⟨inside'', v, wrote', length', there'⟩ :=
        (exact_next a).sound buffer middle b offset' inside' done
      refine ⟨inside'', u ++ v, ⟨a, u, v, wrote, wrote', rfl⟩, ?_, ?_⟩
      · rw [List.length_append, length', length, Nat.add_assoc]
      · rw [there, there', List.append_assoc]
  · intro buffer offset b written rest inside wrote there
    obtain ⟨a, u, v, wrote_u, wrote_v, rfl⟩ := wrote
    rw [List.append_assoc] at there
    have read := exact_first.complete buffer offset a u _ inside wrote_u there
    have inside' : offset + u.length ≤ buffer.bytes.length := by
      have fits := written_fits there inside
      omega
    rw [bind_run, read]
    simp only
    rw [(exact_next a).complete buffer _ b v rest inside' wrote_v (drop_written there),
      List.length_append, Nat.add_assoc]

theorem exact_check (condition : Prop) [Decidable condition] (message : String) :
    Exact (check condition message) fun _ written => condition ∧ written = [] := by
  constructor
  · intro buffer offset _ failed
    unfold check at failed
    split at failed
    · cases failed
    · cases failed
  · intro buffer offset u offset' inside read
    unfold check at read
    split at read
    · rename_i holds
      cases read
      exact ⟨inside, [], ⟨holds, rfl⟩, rfl, rfl⟩
    · cases read
  · intro buffer offset u written rest _ wrote _
    obtain ⟨holds, rfl⟩ := wrote
    exact if_pos holds

theorem exact_ofResult (result : Except String α) :
    Exact (ofResult result) fun a written => result = .ok a ∧ written = [] := by
  constructor
  · intro buffer offset _ failed
    unfold ofResult at failed
    split at failed
    · cases failed
    · cases failed
  · intro buffer offset a offset' inside read
    unfold ofResult at read
    split at read
    · rename_i b
      cases read
      exact ⟨inside, [], ⟨rfl, rfl⟩, rfl, rfl⟩
    · cases read
  · intro buffer offset a written rest _ wrote _
    obtain ⟨rfl, rfl⟩ := wrote
    rfl

theorem Exact.congr {reader : Reader α} {grammar grammar' : Grammar α}
    (exact_reader : Exact reader grammar) (same : ∀ a written, grammar a written ↔ grammar' a written) :
    Exact reader grammar' := by
  have equal : grammar = grammar' := by
    funext a written
    exact propext (same a written)
  rw [← equal]
  exact exact_reader

theorem ensure_run {buffer : Buffer} {offset : Nat} (inside : offset ≤ buffer.bytes.length)
    (size : Nat) (message : String) (reader : Reader α) :
    (ensure size message >>= fun _ => reader) buffer offset =
      if size ≤ buffer.bytes.length - offset then reader buffer offset else throw message := by
  have ensures : ensure size message buffer offset =
      check (size ≤ sub64 buffer.bytes.length offset) message buffer offset := rfl
  rw [bind_run, ensures, sub64_of_le inside buffer.sized]
  unfold check
  by_cases holds : size ≤ buffer.bytes.length - offset
  · rw [if_pos holds, if_pos holds]
  · rw [if_neg holds, if_neg holds]
    rfl

/-- There has to be as much as is written. -/
theorem exact_ensure {reader : Reader α} {grammar : Grammar α} {size : Nat}
    (exact_reader : Exact reader grammar) (message : String)
    (long : ∀ a written, grammar a written → size ≤ written.length) :
    Exact (ensure size message >>= fun _ => reader) grammar := by
  constructor
  · intro buffer offset inside failed
    rw [ensure_run inside] at failed
    split at failed
    · exact exact_reader.inside buffer offset inside failed
    · cases failed
  · intro buffer offset a offset' inside read
    rw [ensure_run inside] at read
    split at read
    · exact exact_reader.sound buffer offset a offset' inside read
    · cases read
  · intro buffer offset a written rest inside wrote there
    have fits := written_fits there inside
    have enough := long a written wrote
    rw [ensure_run inside, if_pos (by omega)]
    exact exact_reader.complete buffer offset a written rest inside wrote there

/-- A look at a range that is known to be there. -/
theorem exact_look {look : Bytes → Nat → Except Fault α} {grammar : Grammar α} {size : Nat}
    (fixed : ∀ a written, grammar a written → written.length = size)
    (total : ∀ data offset, offset + size ≤ data.length → ∃ a written, look data offset = .ok a ∧
      grammar a written ∧ data.drop offset = written ++ data.drop (offset + size))
    (only : ∀ data offset a written rest, offset ≤ data.length → grammar a written →
      data.drop offset = written ++ rest → look data offset = .ok a) :
    Exact (require size >>= fun _ => advance size look) grammar := by
  have advances : ∀ (buffer : Buffer) offset a, offset + size ≤ buffer.bytes.length →
      look buffer.bytes offset = .ok a →
      advance size look buffer offset = .ok (a, offset + size) := by
    intro buffer offset a fits looked
    have small := buffer.sized
    unfold advance
    rw [looked]
    simp only
    rw [add64_of_lt (by omega)]
  constructor
  · intro buffer offset inside failed
    rw [require, ensure_run inside] at failed
    split at failed
    · obtain ⟨a, _, looked, _⟩ := total buffer.bytes offset (by omega)
      rw [advances buffer offset a (by omega) looked] at failed
      cases failed
    · cases failed
  · intro buffer offset a offset' inside read
    rw [require, ensure_run inside] at read
    split at read
    · obtain ⟨a', written, looked, wrote, there⟩ := total buffer.bytes offset (by omega)
      rw [advances buffer offset a' (by omega) looked] at read
      cases read
      refine ⟨by omega, written, wrote, ?_, there⟩
      rw [fixed _ _ wrote]
    · cases read
  · intro buffer offset a written rest inside wrote there
    have fits := written_fits there inside
    have length := fixed a written wrote
    rw [require, ensure_run inside, if_pos (by omega), length]
    exact advances buffer offset a (by omega) (only _ _ _ _ _ inside wrote there)

theorem exact_readU16 : Exact readU16 fun value written => written = writeU16 value := by
  apply exact_look
  · rintro value _ rfl
    rfl
  · intro data offset fits
    obtain ⟨value, looked, there⟩ := u16At_total fits
    exact ⟨value, _, looked, rfl, there⟩
  · rintro data offset value _ rest - rfl there
    exact u16At_written there

theorem exact_readU32 : Exact readU32 fun value written => written = writeU32 value := by
  apply exact_look
  · rintro value _ rfl
    rfl
  · intro data offset fits
    obtain ⟨value, looked, there⟩ := u32At_total fits
    exact ⟨value, _, looked, rfl, there⟩
  · rintro data offset value _ rest - rfl there
    exact u32At_written there

theorem drop_range (data : Bytes) (offset size : Nat) :
    data.drop offset = (data.drop offset).take size ++ data.drop (offset + size) := by
  rw [← List.drop_drop, List.take_append_drop]

theorem exact_readString (size : Nat) : Exact (readString size) fun text written =>
    written.length = size ∧ text = textOf written := by
  apply exact_look
  · intro text written wrote
    exact wrote.1
  · intro data offset fits
    refine ⟨_, (data.drop offset).take size, if_pos fits, ⟨?_, rfl⟩, drop_range data offset size⟩
    rw [List.length_take, List.length_drop]
    omega
  · rintro data offset _ written rest inside ⟨length, rfl⟩ there
    have fits := written_fits there inside
    unfold textAt
    rw [if_pos (by omega), there, ← length, List.take_left]

theorem exact_skip (size : Nat) : Exact (skip size) fun _ written => written.length = size := by
  apply exact_look
  · intro _ written wrote
    exact wrote
  · intro data offset fits
    refine ⟨(), (data.drop offset).take size, rfl, ?_, drop_range data offset size⟩
    rw [List.length_take, List.length_drop]
    omega
  · intro data offset _ written rest _ _ _
    rfl

/-! Items one behind the other -/

section Many
variable {σ : Type}

/-- Read this many items, each from the state that the one before left. -/
def readMany (step : σ → Reader (α × σ)) : Nat → σ → Reader (List α)
  | 0, _ => pure []
  | count + 1, state => do
    let (a, state') ← step state
    let rest ← readMany step count state'
    pure (a :: rest)

inductive Sequence (grammar : σ → Grammar (α × σ)) : σ → List α → Bytes → Prop
  | nil (state : σ) : Sequence grammar state [] []
  | cons {state state' : σ} {a : α} {rest : List α} {u v : Bytes} :
      grammar state (a, state') u → Sequence grammar state' rest v →
      Sequence grammar state (a :: rest) (u ++ v)

theorem exact_readMany {step : σ → Reader (α × σ)} {grammar : σ → Grammar (α × σ)}
    (exact_step : ∀ state, Exact (step state) (grammar state)) (count : Nat) (state : σ) :
    Exact (readMany step count state) fun items written =>
      items.length = count ∧ Sequence grammar state items written := by
  induction count generalizing state with
  | zero =>
    refine (exact_pure []).congr ?_
    intro items written
    constructor
    · rintro ⟨rfl, rfl⟩
      exact ⟨rfl, .nil state⟩
    · rintro ⟨length, wrote⟩
      cases wrote with
      | nil => exact ⟨rfl, rfl⟩
      | cons _ _ => cases length
  | succ count ih =>
    have one_more : readMany step (count + 1) state = step state >>= fun item =>
        readMany step count item.2 >>= fun rest => pure (item.1 :: rest) := rfl
    rw [one_more]
    refine Exact.congr (exact_bind (exact_step state) fun item =>
      exact_bind (ih item.2) fun rest => exact_pure (item.1 :: rest)) ?_
    intro items written
    constructor
    · intro wrote
      obtain ⟨item, u, _, first, wrote, w₁⟩ := wrote
      obtain ⟨rest, v, _, ⟨length, later⟩, ⟨e₁, e₂⟩, w₂⟩ := wrote
      rw [e₁, w₁, w₂, e₂, List.append_nil, List.length_cons, length]
      exact ⟨rfl, .cons first later⟩
    · rintro ⟨length, wrote⟩
      cases wrote with
      | nil => cases length
      | @cons _ state' a rest u v first later =>
        have shorter : rest.length = count := by simpa using length
        exact ⟨(a, state'), u, v, first,
          ⟨rest, v, [], ⟨shorter, later⟩, ⟨rfl, rfl⟩, (List.append_nil v).symm⟩, rfl⟩

end Many

end ByteReader
