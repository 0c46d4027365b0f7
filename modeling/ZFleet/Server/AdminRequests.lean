import Mathlib.Data.List.Forall2
import Mathlib.Data.List.Nodup
import Mathlib.Data.List.TakeWhile
import ZFleet.Foundations.PercentCodes

/-!
Requests of the admin server: the decoding of paths and of queries. Texts are lists of
characters, one for each byte. An escape is read by `std::from_chars` from the two bytes
behind the percent sign, which takes a single digit and a minus sign as well.
-/
namespace AdminRequests
open PercentCodes

/-- `std::from_chars` with base 16 on two bytes; bytes behind the number are not looked at. -/
def fromCharsHex (x y : Char) : Option Int :=
  match hexValue x, hexValue y with
  | some high, some low => some (16 * high + low)
  | some digit, none => some digit
  | none, some digit => if x = '-' then some (-digit) else none
  | none, none => none

def toByte (value : Int) : Char := Char.ofNat (value % 256).toNat

def urlDecode : List Char → List Char
  | '%' :: x :: y :: rest =>
    match fromCharsHex x y with
    | some byte => toByte byte :: urlDecode rest
    | none => '%' :: urlDecode (x :: y :: rest)
  | c :: rest => unplus c :: urlDecode rest
  | [] => []

/-- A map keeps the first value of a name. -/
def emplace (values : List (List Char × List Char)) (item : List Char × List Char) :
    List (List Char × List Char) :=
  if item.1 ∈ values.map Prod.fst then values else values ++ [item]

def queryItem (item : List Char) : List Char × List Char :=
  match item.dropWhile (· ≠ '=') with
  | [] => (urlDecode item, [])
  | _ :: value => (urlDecode (item.takeWhile (· ≠ '=')), urlDecode value)

/-- The items that the loop over the query takes off its front. -/
def queryItems (query : List Char) : List (List Char) :=
  if query = [] then []
  else
    match _behind : query.dropWhile (· ≠ '&') with
    | [] => [query]
    | _ :: rest => query.takeWhile (· ≠ '&') :: queryItems rest
termination_by query.length
decreasing_by
  have shorter := (List.dropWhile_suffix (l := query) (· ≠ '&')).length_le
  rw [_behind, List.length_cons] at shorter
  omega

def parseQuery (query : List Char) : List (List Char × List Char) :=
  (queryItems query).foldl (fun values item => emplace values (queryItem item)) []

structure HttpRequest where
  method : String
  target : List Char
  path : List Char
  query : List (List Char × List Char)
  deriving DecidableEq, Repr

def toApplicationRequest (method : String) (target : List Char) : HttpRequest :=
  match target.dropWhile (· ≠ '?') with
  | [] => ⟨method, target, urlDecode target, []⟩
  | _ :: query => ⟨method, target, urlDecode (target.takeWhile (· ≠ '?')), parseQuery query⟩

/-! Escapes that are not whole -/

/-- The two bytes are read as a number although they are not two hexadecimal digits. -/
def PartialPair (x y : Char) : Prop :=
  ((hexValue x).isSome = true ∧ hexValue y = none) ∨ (x = '-' ∧ (hexValue y).isSome = true)

def PartialEscape (text : List Char) : Prop :=
  ∃ before x y rest, text = before ++ '%' :: x :: y :: rest ∧ PartialPair x y

theorem partialEscape_cons {c : Char} {rest : List Char} :
    PartialEscape (c :: rest) ↔
      (c = '%' ∧ ∃ x y behind, rest = x :: y :: behind ∧ PartialPair x y) ∨ PartialEscape rest := by
  constructor
  · rintro ⟨before, x, y, behind, shape, pair⟩
    cases before with
    | nil =>
      obtain ⟨percent, rest_eq⟩ := List.cons.inj shape
      exact Or.inl ⟨percent, x, y, behind, rest_eq, pair⟩
    | cons d before =>
      obtain ⟨_, rest_eq⟩ := List.cons.inj shape
      exact Or.inr ⟨before, x, y, behind, rest_eq, pair⟩
  · rintro (⟨rfl, x, y, behind, rfl, pair⟩ | ⟨before, x, y, behind, rfl, pair⟩)
    · exact ⟨[], x, y, behind, rfl, pair⟩
    · exact ⟨c :: before, x, y, behind, rfl, pair⟩

theorem not_partialEscape_nil : ¬ PartialEscape [] := by
  rintro ⟨before, x, y, rest, shape, _⟩
  simp at shape

theorem partialEscape_plain {c : Char} (plain : c ≠ '%') {rest : List Char} :
    PartialEscape (c :: rest) ↔ PartialEscape rest := by
  rw [partialEscape_cons]
  simp [plain]

theorem hexValue_lt {c : Char} {value : Nat} (read : hexValue c = some value) : value < 16 := by
  unfold hexValue at read
  simp only [Char.le_def, UInt32.le_iff_toNat_le] at read
  have digit : c.toNat = c.val.toNat := rfl
  split at read
  · rename_i range
    have upper : c.val.toNat ≤ 57 := range.2
    cases read
    omega
  · split at read
    · rename_i range
      have upper : c.val.toNat ≤ 102 := range.2
      cases read
      omega
    · split at read
      · rename_i range
        have upper : c.val.toNat ≤ 70 := range.2
        cases read
        omega
      · cases read

theorem hexValue_percent : hexValue '%' = none := by decide

theorem hexValue_minus : hexValue '-' = none := by decide

theorem ne_percent {c : Char} {value : Nat} (read : hexValue c = some value) : c ≠ '%' := by
  rintro rfl
  rw [hexValue_percent] at read
  cases read

/-- What is read from a pair that is not whole is never a percent sign. -/
theorem partialPair_read {x y : Char} (pair : PartialPair x y) :
    ∃ byte, fromCharsHex x y = some byte ∧ toByte byte ≠ '%' := by
  have digit_byte : ∀ digit : Fin 16, toByte (digit.val : Int) ≠ '%' := by decide
  have signed_byte : ∀ digit : Fin 16, toByte (-(digit.val : Int)) ≠ '%' := by decide
  rcases pair with ⟨digit, other⟩ | ⟨rfl, digit⟩
  · obtain ⟨value, read⟩ := Option.isSome_iff_exists.mp digit
    refine ⟨value, by simp [fromCharsHex, read, other], ?_⟩
    exact digit_byte ⟨value, hexValue_lt read⟩
  · obtain ⟨value, read⟩ := Option.isSome_iff_exists.mp digit
    refine ⟨-value, by simp [fromCharsHex, read, hexValue_minus], ?_⟩
    exact signed_byte ⟨value, hexValue_lt read⟩

theorem whole_read {x y : Char} {high low : Nat} (first : hexValue x = some high)
    (second : hexValue y = some low) :
    ∃ byte, fromCharsHex x y = some byte ∧ toByte byte = Char.ofNat (16 * high + low) := by
  have bound := hexValue_lt first
  have bound' := hexValue_lt second
  refine ⟨16 * high + low, by simp [fromCharsHex, first, second], ?_⟩
  unfold toByte
  congr 1
  omega

theorem nothing_read {x y : Char} (not_whole : hexValue x = none ∨ hexValue y = none)
    (unpaired : ¬ PartialPair x y) : fromCharsHex x y = none := by
  simp only [PartialPair, not_or, not_and] at unpaired
  unfold fromCharsHex
  cases first : hexValue x with
  | none =>
    cases second : hexValue y with
    | none => rfl
    | some digit =>
      have sign : x ≠ '-' := fun minus => unpaired.2 minus (by rw [second]; rfl)
      simp [sign]
  | some high =>
    cases second : hexValue y with
    | none => exact absurd second (unpaired.1 (by rw [first]; rfl))
    | some low => simp [first, second] at not_whole

theorem urlDecode_plain {c : Char} (plain : c ≠ '%') (rest : List Char) :
    urlDecode (c :: rest) = unplus c :: urlDecode rest := by
  match rest with
  | [] => simp [urlDecode]
  | [x] => simp [urlDecode]
  | x :: y :: rest => rw [urlDecode]; intro x' y' rest' percent; exact absurd percent plain

theorem urlDecode_escape (x y : Char) (rest : List Char) :
    urlDecode ('%' :: x :: y :: rest) =
      match fromCharsHex x y with
      | some byte => toByte byte :: urlDecode rest
      | none => '%' :: urlDecode (x :: y :: rest) := by
  rw [urlDecode]

/-- The decoding is the reference decoding but for escapes that are not whole. -/
theorem urlDecode_eq_iff (text : List Char) :
    urlDecode text = decode text ↔ ¬ PartialEscape text := by
  induction text using decode.induct with
  | case1 x y rest high low second first ih =>
    obtain ⟨byte, read, same⟩ := whole_read first second
    have whole : PartialEscape ('%' :: x :: y :: rest) ↔ PartialEscape rest := by
      rw [partialEscape_cons, partialEscape_plain (ne_percent first),
        partialEscape_plain (ne_percent second)]
      constructor
      · rintro (⟨_, x', y', behind, shape, pair⟩ | later)
        · cases shape
          rcases pair with ⟨_, other⟩ | ⟨rfl, _⟩
          · rw [second] at other
            cases other
          · rw [hexValue_minus] at first
            cases first
        · exact later
      · exact Or.inr
    rw [urlDecode_escape, decode_escape, read, first, second, whole, ← ih]
    simp [same]
  | case2 x y rest not_whole ih =>
    have absent : hexValue x = none ∨ hexValue y = none := by
      cases first : hexValue x with
      | none => exact Or.inl rfl
      | some high =>
        cases second : hexValue y with
        | none => exact Or.inr rfl
        | some low => exact absurd second (not_whole high low first)
    have copied : decode ('%' :: x :: y :: rest) = '%' :: decode (x :: y :: rest) := by
      rw [decode_escape]
      rcases absent with none_first | none_second
      · rw [none_first]
      · rw [none_second]
        cases hexValue x <;> rfl
    rw [copied, urlDecode_escape, partialEscape_cons]
    by_cases pair : PartialPair x y
    · obtain ⟨byte, read, other⟩ := partialPair_read pair
      rw [read]
      constructor
      · intro same
        exact absurd (List.cons.inj same).1 other
      · intro whole_only
        exact absurd (Or.inl ⟨rfl, x, y, rest, rfl, pair⟩) whole_only
    · rw [nothing_read absent pair]
      constructor
      · rintro same (⟨_, x', y', behind, shape, pair'⟩ | later)
        · cases shape
          exact pair pair'
        · exact ih.mp (List.cons.inj same).2 later
      · intro whole_only
        have same := ih.mpr fun later => whole_only (Or.inr later)
        exact congrArg (List.cons '%') same
  | case3 c rest not_escape ih =>
    by_cases percent : c = '%'
    · have short : rest = [] ∨ ∃ x, rest = [x] := by
        match rest, not_escape with
        | [], _ => exact Or.inl rfl
        | [x], _ => exact Or.inr ⟨x, rfl⟩
        | x :: y :: behind, not_escape => exact (not_escape x y behind percent rfl).elim
      have same : urlDecode rest = decode rest := by
        rcases short with rfl | ⟨x, rfl⟩
        · rfl
        · simp [urlDecode, decode]
      have whole_only : ¬ PartialEscape (c :: rest) := by
        rw [partialEscape_cons, not_or]
        refine ⟨?_, ih.mp same⟩
        rintro ⟨_, x, y, behind, shape, _⟩
        exact not_escape x y behind percent shape
      refine iff_of_true ?_ whole_only
      rcases short with rfl | ⟨x, rfl⟩
      · simp [urlDecode, decode]
      · simp [urlDecode, decode]
    · rw [urlDecode_plain percent, decode_plain percent, partialEscape_plain percent, ← ih]
      simp
  | case4 => simp [urlDecode, decode, not_partialEscape_nil]

/-- An encoding has whole escapes only. -/
theorem encodes_whole {text bytes : List Char} (encodes : Encodes Literal text bytes) :
    ¬ PartialEscape text := by
  induction encodes with
  | nil => exact not_partialEscape_nil
  | byte allowed _ ih => rwa [partialEscape_plain allowed.1]
  | escape first second _ ih =>
    rw [partialEscape_cons, partialEscape_plain (ne_percent first),
      partialEscape_plain (ne_percent second), not_or]
    refine ⟨?_, ih⟩
    rintro ⟨_, x, y, behind, shape, pair⟩
    cases shape
    rcases pair with ⟨_, other⟩ | ⟨rfl, _⟩
    · rw [second] at other
      cases other
    · rw [hexValue_minus] at first
      cases first

theorem urlDecode_encodes {text bytes : List Char} (encodes : Encodes Literal text bytes) :
    urlDecode text = bytes :=
  ((urlDecode_eq_iff text).mpr (encodes_whole encodes)).trans encodes.decoded

/-! Queries -/

/-- Bytes that stand for themselves in a name or a value of a query. -/
def Component (c : Char) : Prop := Literal c ∧ c ≠ '&' ∧ c ≠ '='

/-- A name and a value, each encoded, with an equals sign between them. -/
structure EncodedPair (item : List Char) (pair : List Char × List Char) : Prop where
  parts : ∃ name value, item = name ++ '=' :: value ∧ Encodes Component name pair.1 ∧
    Encodes Component value pair.2

/-- The encoded pairs with ampersands between them. -/
def EncodedQuery (query : List Char) (pairs : List (List Char × List Char)) : Prop :=
  ∃ items, query = ['&'].intercalate items ∧ List.Forall₂ EncodedPair items pairs

theorem component_absent {text bytes : List Char} (encodes : Encodes Component text bytes) :
    '&' ∉ text ∧ '=' ∉ text := by
  have ampersand : hexValue '&' = none := by decide
  have equals : hexValue '=' = none := by decide
  constructor
  · intro inside
    rcases encodes.mem _ inside with plain | percent | digit
    · exact plain.2.1 rfl
    · exact absurd percent (by decide)
    · rw [ampersand] at digit
      cases digit
  · intro inside
    rcases encodes.mem _ inside with plain | percent | digit
    · exact plain.2.2 rfl
    · exact absurd percent (by decide)
    · rw [equals] at digit
      cases digit

theorem split_first {stop : Char} {before behind : List Char} (absent : stop ∉ before) :
    (before ++ stop :: behind).takeWhile (· ≠ stop) = before ∧
      (before ++ stop :: behind).dropWhile (· ≠ stop) = stop :: behind := by
  have inside : ∀ c ∈ before, decide (c ≠ stop) = true := by
    intro c member
    exact decide_eq_true fun same => absent (same ▸ member)
  rw [List.takeWhile_append_of_pos inside, List.dropWhile_append_of_pos inside]
  simp

theorem no_stop {stop : Char} {text : List Char} (absent : stop ∉ text) :
    text.dropWhile (· ≠ stop) = [] := by
  rw [List.dropWhile_eq_nil_iff]
  intro c member
  exact decide_eq_true fun same => absent (same ▸ member)

theorem EncodedPair.decoded {item : List Char} {pair : List Char × List Char}
    (encoded : EncodedPair item pair) : queryItem item = pair := by
  obtain ⟨name, value, rfl, first, second⟩ := encoded.parts
  obtain ⟨front, back⟩ := @split_first '=' name value (component_absent first).2
  have decoded := urlDecode_encodes (first.weaken fun c plain => plain.1)
  have decoded' := urlDecode_encodes (second.weaken fun c plain => plain.1)
  unfold queryItem
  simp only [back, front, decoded, decoded']

theorem EncodedPair.plain {item : List Char} {pair : List Char × List Char}
    (encoded : EncodedPair item pair) : item ≠ [] ∧ '&' ∉ item := by
  obtain ⟨name, value, rfl, first, second⟩ := encoded.parts
  constructor
  · simp
  · simp [(component_absent first).1, (component_absent second).1]

theorem queryItems_last {item : List Char} (nonempty : item ≠ []) (absent : '&' ∉ item) :
    queryItems item = [item] := by
  rw [queryItems, if_neg nonempty]
  split
  · rfl
  · rename_i behind
    rw [no_stop absent] at behind
    cases behind

theorem queryItems_next {item rest : List Char} (absent : '&' ∉ item) :
    queryItems (item ++ '&' :: rest) = item :: queryItems rest := by
  obtain ⟨front, back⟩ := @split_first '&' item rest absent
  rw [queryItems, if_neg (by simp)]
  split
  · rename_i behind
    rw [back] at behind
    cases behind
  · rename_i behind
    rw [back] at behind
    cases behind
    rw [front]

/-- The loop takes off just the encoded items. -/
theorem queryItems_intercalate {items : List (List Char)}
    (plain : ∀ item ∈ items, item ≠ [] ∧ '&' ∉ item) :
    queryItems (['&'].intercalate items) = items := by
  induction items with
  | nil =>
    rw [queryItems]
    rfl
  | cons item items ih =>
    obtain ⟨nonempty, absent⟩ := plain item List.mem_cons_self
    cases items with
    | nil => rw [List.intercalate_singleton, queryItems_last nonempty absent]
    | cons next items =>
      have rest := ih fun other inside => plain other (List.mem_cons_of_mem _ inside)
      rw [List.intercalate_cons_cons, List.append_assoc, List.singleton_append,
        queryItems_next absent, rest]

/-- With different names nothing is left out. -/
theorem foldl_emplace {values pairs : List (List Char × List Char)}
    (distinct : ((values ++ pairs).map Prod.fst).Nodup) :
    pairs.foldl emplace values = values ++ pairs := by
  induction pairs generalizing values with
  | nil => simp
  | cons pair pairs ih =>
    have new : pair.1 ∉ values.map Prod.fst := by
      rw [List.map_append, List.nodup_append] at distinct
      intro inside
      exact distinct.2.2 _ inside _ List.mem_cons_self rfl
    rw [List.foldl_cons, emplace, if_neg new, ih]
    · simp
    · simpa using distinct

theorem parseQuery_encoded {query : List Char} {pairs : List (List Char × List Char)}
    (encoded : EncodedQuery query pairs) (distinct : (pairs.map Prod.fst).Nodup) :
    parseQuery query = pairs := by
  obtain ⟨items, rfl, each⟩ := encoded
  have plain : ∀ item ∈ items, item ≠ [] ∧ '&' ∉ item := by
    clear distinct
    induction each with
    | nil => simp
    | cons first _ ih =>
      intro item inside
      rcases List.mem_cons.mp inside with rfl | later
      · exact first.plain
      · exact ih item later
  have decoded : items.map queryItem = pairs := by
    clear distinct plain
    induction each with
    | nil => rfl
    | cons first _ ih => rw [List.map_cons, first.decoded, ih]
  unfold parseQuery
  rw [queryItems_intercalate plain, ← List.foldl_map, decoded,
    foldl_emplace (by simpa using distinct)]
  rfl

/-- The decoding of a text is exact unless it has an escape that is not whole; it undoes
    every encoding, and an encoded query gives its pairs. -/
theorem urlDecode_exact_iff (text : List Char) :
    (urlDecode text = decode text ↔ ¬ PartialEscape text) ∧
      (∀ bytes, Encodes Literal text bytes → urlDecode text = bytes) ∧
      ∀ pairs : List (List Char × List Char), EncodedQuery text pairs →
        (pairs.map Prod.fst).Nodup → parseQuery text = pairs :=
  ⟨urlDecode_eq_iff text, fun _ encodes => urlDecode_encodes encodes,
    fun _ encoded distinct => parseQuery_encoded encoded distinct⟩

theorem partial_escape_decoded : urlDecode "%1g".toList ≠ decode "%1g".toList := by decide

example : urlDecode "%-f".toList = [Char.ofNat 241] := by decide

end AdminRequests
