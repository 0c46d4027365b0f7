import Mathlib.Data.List.AList
import Mathlib.Logic.Function.Basic

/-!
Directories: records under keys, some of them owned, and an index from owners to
keys. The two are matched when the index names exactly the owned records. Each rule
says under which condition one kind of change keeps the match.
-/
namespace Directories
open Function
variable {K A V : Type}

def Matched (owner : V → Option A) (records : K → Option V) (index : A → Option K) : Prop :=
  ∀ a c, index a = some c ↔ ∃ record, records c = some record ∧ owner record = some a

theorem matched_empty (owner : V → Option A) :
    Matched owner (fun _ : K => none) (fun _ => none) := by
  intro a c
  simp

theorem indexed_owned {owner : V → Option A} {records : K → Option V} {index : A → Option K}
    (matched : Matched owner records index) {a : A} {c : K} (indexed : index a = some c) :
    ∃ record, records c = some record ∧ owner record = some a := (matched a c).mp indexed

/-- A record has one owner, so no key is indexed twice. -/
theorem indexed_once {owner : V → Option A} {records : K → Option V} {index : A → Option K}
    (matched : Matched owner records index) {a b : A} {c : K}
    (at_a : index a = some c) (at_b : index b = some c) : a = b := by
  obtain ⟨record, found, owned⟩ := indexed_owned matched at_a
  obtain ⟨record', found', owned'⟩ := indexed_owned matched at_b
  rw [found] at found'
  cases found'
  rw [owned] at owned'
  exact Option.some.inj owned'

variable [DecidableEq K]

/-- A new record without an owner, under a key that the index does not name. -/
theorem matched_insert_free {owner : V → Option A} {records : K → Option V}
    {index : A → Option K} (matched : Matched owner records index) {c : K} {record : V}
    (free : owner record = none) (unnamed : ∀ a, index a ≠ some c) :
    Matched owner (update records c (some record)) index := by
  intro a d
  by_cases same : d = c
  · subst same
    rw [update_self]
    constructor
    · intro indexed
      exact absurd indexed (unnamed a)
    · rintro ⟨record', found, owned⟩
      cases found
      rw [free] at owned
      cases owned
  · rw [update_of_ne same]
    exact matched a d

/-- A record without an owner goes. -/
theorem matched_erase_free {owner : V → Option A} {records : K → Option V}
    {index : A → Option K} (matched : Matched owner records index) {c : K}
    (free : ∀ record, records c = some record → owner record = none) :
    Matched owner (update records c none) index := by
  intro a d
  by_cases same : d = c
  · subst same
    rw [update_self]
    constructor
    · intro indexed
      obtain ⟨record, found, owned⟩ := indexed_owned matched indexed
      rw [free record found] at owned
      cases owned
    · rintro ⟨record, found, _⟩
      cases found
  · rw [update_of_ne same]
    exact matched a d

variable [DecidableEq A]

/-- A record goes together with the index entry of its owner. -/
theorem matched_erase_owned {owner : V → Option A} {records : K → Option V}
    {index : A → Option K} (matched : Matched owner records index) {a : A} {c : K}
    (indexed : index a = some c) :
    Matched owner (update records c none) (update index a none) := by
  intro b d
  by_cases same_owner : b = a
  · subst same_owner
    rw [update_self]
    constructor
    · intro none_eq
      cases none_eq
    · rintro ⟨record, found, owned⟩
      by_cases same : d = c
      · subst same
        rw [update_self] at found
        cases found
      · rw [update_of_ne same] at found
        have named := (matched b d).mpr ⟨record, found, owned⟩
        rw [indexed] at named
        exact absurd (Option.some.inj named).symm same
  · rw [update_of_ne same_owner]
    by_cases same : d = c
    · subst same
      rw [update_self]
      constructor
      · intro at_b
        exact absurd (indexed_once matched at_b indexed) same_owner
      · rintro ⟨record, found, _⟩
        cases found
    · rw [update_of_ne same]
      exact matched b d

/-- A record gets an owner that has no other record. -/
theorem matched_insert_owned {owner : V → Option A} {records : K → Option V}
    {index : A → Option K} (matched : Matched owner records index) {a : A} {c : K} {record : V}
    (owned : owner record = some a) (alone : ∀ d, index a = some d → d = c)
    (unnamed : ∀ b, index b = some c → b = a) :
    Matched owner (update records c (some record)) (update index a (some c)) := by
  intro b d
  by_cases same : d = c
  · subst same
    rw [update_self]
    by_cases same_owner : b = a
    · subst same_owner
      rw [update_self]
      exact ⟨fun _ => ⟨record, rfl, owned⟩, fun _ => rfl⟩
    · rw [update_of_ne same_owner]
      constructor
      · intro at_b
        exact absurd (unnamed b at_b) same_owner
      · rintro ⟨record', found, owned'⟩
        cases found
        rw [owned] at owned'
        exact absurd (Option.some.inj owned').symm same_owner
  · rw [update_of_ne same]
    by_cases same_owner : b = a
    · subst same_owner
      rw [update_self]
      constructor
      · intro here
        exact absurd (Option.some.inj here).symm same
      · intro there
        exact absurd (alone d ((matched b d).mpr there)) same
    · rw [update_of_ne same_owner]
      exact matched b d

/-- A record takes over an owner whose former record goes. -/
theorem matched_take_over {owner : V → Option A} {records : K → Option V}
    {index : A → Option K} (matched : Matched owner records index) {a : A} {c d : K} {record : V}
    (owned : owner record = some a) (former : index a = some d)
    (unnamed : ∀ b, index b = some c → b = a) :
    Matched owner (update (update records d none) c (some record))
      (update index a (some c)) := by
  have freed := matched_erase_owned matched former
  have taken := matched_insert_owned (c := c) freed owned
    (fun e named => by rw [update_self] at named; cases named)
    (fun b named => by
      by_cases same : b = a
      · exact same
      · rw [update_of_ne same] at named
        exact unnamed b named)
  rw [update_idem] at taken
  exact taken

/-- Every record is right for its key. -/
def Every (right : K → V → Prop) (records : K → Option V) : Prop :=
  ∀ c record, records c = some record → right c record

theorem every_update {right : K → V → Prop} {records : K → Option V}
    (every : Every right records) {c : K} {entry : Option V}
    (at_key : ∀ record, entry = some record → right c record) :
    Every right (update records c entry) := by
  intro d record found
  by_cases same : d = c
  · subst same
    rw [update_self] at found
    exact at_key record found
  · rw [update_of_ne same] at found
    exact every d record found

theorem every_erase {right : K → V → Prop} {records : K → Option V}
    (every : Every right records) (c : K) : Every right (update records c none) :=
  every_update every fun record absent => by cases absent

theorem every_insert {right : K → V → Prop} {records : K → Option V}
    (every : Every right records) {c : K} {record : V} (fits : right c record) :
    Every right (update records c (some record)) :=
  every_update every fun _ same => by cases same; exact fits

/-! Association lists as such maps -/

def contents (map : AList fun _ : K => V) (c : K) : Option V := map.lookup c

theorem contents_insert (map : AList fun _ : K => V) (c : K) (record : V) :
    contents (map.insert c record) = update (contents map) c (some record) := by
  funext d
  unfold contents
  by_cases same : d = c
  · subst same
    rw [AList.lookup_insert, update_self]
  · rw [AList.lookup_insert_ne same, update_of_ne same]

theorem contents_erase (map : AList fun _ : K => V) (c : K) :
    contents (map.erase c) = update (contents map) c none := by
  funext d
  unfold contents
  by_cases same : d = c
  · subst same
    rw [AList.lookup_erase, update_self]
  · rw [AList.lookup_erase_ne same, update_of_ne same]

end Directories
