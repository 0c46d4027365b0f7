import Mathlib.Data.List.Basic

/-!
Percent codes of byte strings, one character for each byte. A byte is written as itself or
as a percent sign with two hexadecimal digits; a plus sign stands for a space. Which bytes
may be written as themselves is a parameter.
-/
namespace PercentCodes

def hexValue (c : Char) : Option Nat :=
  if '0' ≤ c ∧ c ≤ '9' then some (c.toNat - 48)
  else if 'a' ≤ c ∧ c ≤ 'f' then some (c.toNat - 87)
  else if 'A' ≤ c ∧ c ≤ 'F' then some (c.toNat - 55)
  else none

def unplus (c : Char) : Char := if c = '+' then ' ' else c

/-- The reference decoding: whole escapes are bytes, everything else but the plus sign is
    copied. -/
def decode : List Char → List Char
  | '%' :: x :: y :: rest =>
    match hexValue x, hexValue y with
    | some high, some low => Char.ofNat (16 * high + low) :: decode rest
    | _, _ => '%' :: decode (x :: y :: rest)
  | c :: rest => unplus c :: decode rest
  | [] => []

theorem decode_plain {c : Char} (plain : c ≠ '%') (rest : List Char) :
    decode (c :: rest) = unplus c :: decode rest := by
  match rest with
  | [] => simp [decode]
  | [x] => simp [decode]
  | x :: y :: rest => rw [decode]; intro x' y' rest' percent; exact absurd percent plain

theorem decode_escape (x y : Char) (rest : List Char) :
    decode ('%' :: x :: y :: rest) =
      match hexValue x, hexValue y with
      | some high, some low => Char.ofNat (16 * high + low) :: decode rest
      | _, _ => '%' :: decode (x :: y :: rest) := by
  rw [decode]

/-- The ways to write a byte string; `plain` are the bytes that may stand for themselves. -/
inductive Encodes (plain : Char → Prop) : List Char → List Char → Prop
  | nil : Encodes plain [] []
  | byte {c : Char} {encoded bytes : List Char} (allowed : plain c)
      (rest : Encodes plain encoded bytes) : Encodes plain (c :: encoded) (c :: bytes)
  | escape {x y : Char} {high low : Nat} {encoded bytes : List Char}
      (first : hexValue x = some high) (second : hexValue y = some low)
      (rest : Encodes plain encoded bytes) :
      Encodes plain ('%' :: x :: y :: encoded) (Char.ofNat (16 * high + low) :: bytes)

/-- The signs with a meaning of their own. -/
def Literal (c : Char) : Prop := c ≠ '%' ∧ c ≠ '+'

theorem Encodes.weaken {plain plain' : Char → Prop} {encoded bytes : List Char}
    (weaker : ∀ c, plain c → plain' c) (encodes : Encodes plain encoded bytes) :
    Encodes plain' encoded bytes := by
  induction encodes with
  | nil => exact .nil
  | byte allowed _ ih => exact .byte (weaker _ allowed) ih
  | escape first second _ ih => exact .escape first second ih

theorem Encodes.append {plain : Char → Prop} {encoded encoded' bytes bytes' : List Char}
    (first : Encodes plain encoded bytes) (second : Encodes plain encoded' bytes') :
    Encodes plain (encoded ++ encoded') (bytes ++ bytes') := by
  induction first with
  | nil => exact second
  | byte allowed _ ih => exact .byte allowed ih
  | escape high low _ ih => exact .escape high low ih

theorem Encodes.self {plain : Char → Prop} {bytes : List Char} (all : ∀ c ∈ bytes, plain c) :
    Encodes plain bytes bytes := by
  induction bytes with
  | nil => exact .nil
  | cons c bytes ih =>
    exact .byte (all c List.mem_cons_self) (ih fun d inside => all d (List.mem_cons_of_mem _ inside))

/-- Decoding undoes every encoding. -/
theorem Encodes.decoded {encoded bytes : List Char} (encodes : Encodes Literal encoded bytes) :
    decode encoded = bytes := by
  induction encodes with
  | nil => rfl
  | byte allowed _ ih => rw [decode_plain allowed.1, ih, unplus, if_neg allowed.2]
  | escape first second _ ih => rw [decode_escape, first, second, ih]

/-- A character of the encoding is plain, a percent sign or a hexadecimal digit. -/
theorem Encodes.mem {plain : Char → Prop} {encoded bytes : List Char}
    (encodes : Encodes plain encoded bytes) :
    ∀ c ∈ encoded, plain c ∨ c = '%' ∨ (hexValue c).isSome = true := by
  induction encodes with
  | nil => simp
  | byte allowed _ ih =>
    intro c inside
    rcases List.mem_cons.mp inside with rfl | later
    · exact Or.inl allowed
    · exact ih c later
  | escape first second _ ih =>
    intro c inside
    simp only [List.mem_cons] at inside
    rcases inside with percent | x | y | later
    · exact Or.inr (Or.inl percent)
    · exact Or.inr (Or.inr (by rw [x, first]; rfl))
    · exact Or.inr (Or.inr (by rw [y, second]; rfl))
    · exact ih c later

/-! The encoding that escapes every byte but the plain ones -/

def hexDigit (n : Nat) : Char := Char.ofNat (if n < 10 then 48 + n else 55 + n)

theorem hexValue_hexDigit {n : Nat} (small : n < 16) : hexValue (hexDigit n) = some n := by
  have all : ∀ n : Fin 16, hexValue (hexDigit n) = some n.val := by decide
  exact all ⟨n, small⟩

def encodeByte (plain : Char → Bool) (c : Char) : List Char :=
  if plain c then [c] else ['%', hexDigit (c.toNat / 16), hexDigit (c.toNat % 16)]

def encode (plain : Char → Bool) (bytes : List Char) : List Char := bytes.flatMap (encodeByte plain)

theorem encode_encodes (plain : Char → Bool) {bytes : List Char}
    (isBytes : ∀ c ∈ bytes, c.toNat < 256) :
    Encodes (fun c => plain c = true) (encode plain bytes) bytes := by
  induction bytes with
  | nil => exact .nil
  | cons c bytes ih =>
    have rest := ih fun d inside => isBytes d (List.mem_cons_of_mem _ inside)
    have bound := isBytes c List.mem_cons_self
    unfold encode
    rw [List.flatMap_cons, encodeByte]
    by_cases allowed : plain c = true
    · rw [if_pos allowed]
      exact .byte allowed rest
    · rw [if_neg allowed]
      have high := hexValue_hexDigit (show c.toNat / 16 < 16 by omega)
      have low := hexValue_hexDigit (show c.toNat % 16 < 16 by omega)
      have whole : Char.ofNat (16 * (c.toNat / 16) + c.toNat % 16) = c := by
        rw [show 16 * (c.toNat / 16) + c.toNat % 16 = c.toNat by omega, Char.ofNat_toNat]
      have step := Encodes.escape high low rest
      rw [whole] at step
      exact step

end PercentCodes
