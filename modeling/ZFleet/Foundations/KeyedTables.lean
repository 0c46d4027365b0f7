import Mathlib.Data.List.Nodup
import Mathlib.Data.List.MinMax

/-!
Tables with a primary key, as a relational engine keeps them: rows in insertion
order and never two rows with one key. The uniqueness is a field of the table, so
an insert must check it and an update must not touch the key.
-/
namespace KeyedTables

structure Table (Row : Type) {Key : Type} (key : Row → Key) where
  rows : List Row
  key_unique : (rows.map key).Nodup

namespace Table
variable {Row Key : Type} {key : Row → Key}

def empty : Table Row key := ⟨[], List.nodup_nil⟩

theorem ext_rows {t u : Table Row key} (same : t.rows = u.rows) : t = u := by
  cases t; cases u
  simp_all

/-- A row is determined by its key. -/
theorem row_unique (t : Table Row key) {r q : Row} (hr : r ∈ t.rows) (hq : q ∈ t.rows)
    (same : key r = key q) : r = q :=
  List.inj_on_of_nodup_map t.key_unique hr hq same

/-- Rewrite the selected rows. The change must leave the key alone. -/
def update (t : Table Row key) (selects : Row → Bool) (change : Row → Row)
    (keeps : ∀ r, key (change r) = key r) : Table Row key where
  rows := t.rows.map fun r => if selects r then change r else r
  key_unique := by
    have same : (t.rows.map fun r => if selects r then change r else r).map key =
        t.rows.map key := by
      rw [List.map_map]
      apply List.map_congr_left
      intro r _
      simp only [Function.comp]
      split
      · exact keeps r
      · rfl
    rw [same]
    exact t.key_unique

/-- The number of rows an update with this selection reports as changed. -/
def changes (t : Table Row key) (selects : Row → Bool) : Nat := t.rows.countP selects

def remove (t : Table Row key) (selects : Row → Bool) : Table Row key where
  rows := t.rows.filter fun r => !selects r
  key_unique := (t.key_unique.sublist ((List.filter_sublist).map key))

theorem mem_remove {t : Table Row key} {selects : Row → Bool} {r : Row} :
    r ∈ (t.remove selects).rows ↔ r ∈ t.rows ∧ selects r = false := by
  simp [remove]

theorem mem_update {t : Table Row key} {selects : Row → Bool} {change : Row → Row}
    {keeps : ∀ r, key (change r) = key r} {r : Row} :
    r ∈ (t.update selects change keeps).rows ↔
      ∃ q ∈ t.rows, (if selects q then change q else q) = r := by
  simp [update]

/-- The same with the proof about the key named, where it cannot be read off. -/
theorem mem_updated {t : Table Row key} {selects : Row → Bool} {change : Row → Row}
    (keeps : ∀ r, key (change r) = key r) {r : Row} :
    r ∈ (t.update selects change keeps).rows ↔
      ∃ q ∈ t.rows, (if selects q then change q else q) = r := mem_update

/-- An update whose selection changes no row is no update. -/
theorem update_of_unselected {t : Table Row key} {selects : Row → Bool} {change : Row → Row}
    {keeps : ∀ r, key (change r) = key r} (unselected : ∀ r ∈ t.rows, selects r = false) :
    t.update selects change keeps = t := by
  apply ext_rows
  simp only [update]
  conv_rhs => rw [← List.map_id t.rows]
  apply List.map_congr_left
  intro r member
  simp [unselected r member]

variable [DecidableEq Key]

def find (t : Table Row key) (k : Key) : Option Row := t.rows.find? fun r => key r = k

/-- Fails when the key is taken, otherwise appends. -/
def insert (t : Table Row key) (row : Row) : Option (Table Row key) :=
  if taken : key row ∈ t.rows.map key then none
  else some ⟨t.rows ++ [row], by
    simp only [List.map_append, List.map_cons, List.map_nil]
    exact t.key_unique.append (by simp) (by simpa using taken)⟩

@[simp] theorem find_empty (k : Key) : (empty : Table Row key).find k = none := rfl

theorem find_some_iff (t : Table Row key) (k : Key) (r : Row) :
    t.find k = some r ↔ r ∈ t.rows ∧ key r = k := by
  constructor
  · intro found
    exact ⟨List.mem_of_find?_eq_some found, by simpa using List.find?_some found⟩
  · rintro ⟨member, rfl⟩
    obtain ⟨q, found⟩ : ∃ q, t.find (key r) = some q :=
      Option.isSome_iff_exists.mp (List.find?_isSome.mpr ⟨r, member, by simp⟩)
    have same : key q = key r := by simpa using List.find?_some found
    rw [found, t.row_unique (List.mem_of_find?_eq_some found) member same]

theorem find_key {t : Table Row key} {k : Key} {r : Row} (found : t.find k = some r) :
    key r = k := ((t.find_some_iff k r).mp found).2

theorem find_mem {t : Table Row key} {k : Key} {r : Row} (found : t.find k = some r) :
    r ∈ t.rows := ((t.find_some_iff k r).mp found).1

theorem find_of_mem {t : Table Row key} {r : Row} (member : r ∈ t.rows) :
    t.find (key r) = some r := (t.find_some_iff _ _).mpr ⟨member, rfl⟩

theorem find_none_iff (t : Table Row key) (k : Key) :
    t.find k = none ↔ ∀ r ∈ t.rows, key r ≠ k := by
  simp [find]

theorem find_remove (t : Table Row key) (selects : Row → Bool) (k : Key) :
    (t.remove selects).find k = (t.find k).filter fun r => !selects r := by
  apply Option.ext
  intro r
  rw [find_some_iff, mem_remove, Option.filter_eq_some_iff, find_some_iff, Bool.not_eq_true']
  exact and_right_comm

theorem insert_some {t t' : Table Row key} {row : Row} (done : t.insert row = some t') :
    t.find (key row) = none ∧ t'.rows = t.rows ++ [row] := by
  unfold insert at done
  split at done
  · cases done
  · rename_i free
    cases done
    refine ⟨(t.find_none_iff _).mpr ?_, rfl⟩
    intro r member same
    exact free (List.mem_map.mpr ⟨r, member, same⟩)

theorem insert_isSome_iff (t : Table Row key) (row : Row) :
    (t.insert row).isSome ↔ t.find (key row) = none := by
  rw [find_none_iff]
  unfold insert
  split
  · rename_i taken
    obtain ⟨r, member, same⟩ := List.mem_map.mp taken
    simp only [Option.isSome_none, Bool.false_eq_true, false_iff, not_forall]
    exact ⟨r, member, fun other => other same⟩
  · rename_i free
    simp only [Option.isSome_some, true_iff]
    intro r member same
    exact free (List.mem_map.mpr ⟨r, member, same⟩)

theorem find_insert {t t' : Table Row key} {row : Row} (done : t.insert row = some t')
    (k : Key) : t'.find k = if key row = k then some row else t.find k := by
  obtain ⟨free, rows_eq⟩ := insert_some done
  simp only [find, rows_eq, List.find?_append]
  by_cases same : key row = k
  · subst same
    have absent : t.rows.find? (fun r => key r = key row) = none := free
    simp [absent]
  · simp [same]

/-- Insert rows one after the other; fails when one of them does. -/
def insertAll (t : Table Row key) (rows : List Row) : Option (Table Row key) :=
  rows.foldlM insert t

theorem insertAll_cons {t final : Table Row key} {row : Row} {rows : List Row}
    (done : t.insertAll (row :: rows) = some final) :
    ∃ t', t.insert row = some t' ∧ t'.insertAll rows = some final := by
  simpa [insertAll, Option.bind_eq_some_iff] using done

theorem insertAll_nil {t final : Table Row key} (done : t.insertAll [] = some final) :
    final = t := by
  simpa [insertAll] using done.symm

theorem insertAll_mono {t final : Table Row key} {rows : List Row}
    (done : t.insertAll rows = some final) {k : Key} {r : Row} (found : t.find k = some r) :
    final.find k = some r := by
  induction rows generalizing t with
  | nil =>
    rw [insertAll_nil done]
    exact found
  | cons row rows ih =>
    obtain ⟨t', inserted, rest⟩ := insertAll_cons done
    apply ih rest
    have other : key row ≠ k := by
      rintro rfl
      rw [(insert_some inserted).1] at found
      cases found
    rw [find_insert inserted, if_neg other, found]

/-- A row found after the inserts was there before or is one of them. -/
theorem find_insertAll {t final : Table Row key} {rows : List Row}
    (done : t.insertAll rows = some final) {k : Key} {r : Row} (found : final.find k = some r) :
    t.find k = some r ∨ (t.find k = none ∧ r ∈ rows) := by
  induction rows generalizing t with
  | nil =>
    rw [insertAll_nil done] at found
    exact Or.inl found
  | cons row rows ih =>
    obtain ⟨t', inserted, rest⟩ := insertAll_cons done
    rcases ih rest with earlier | ⟨absent, later⟩
    · rw [find_insert inserted] at earlier
      by_cases same : key row = k
      · subst same
        rw [if_pos rfl] at earlier
        cases earlier
        exact Or.inr ⟨(insert_some inserted).1, by simp⟩
      · rw [if_neg same] at earlier
        exact Or.inl earlier
    · rw [find_insert inserted] at absent
      by_cases same : key row = k
      · rw [if_pos same] at absent
        cases absent
      · rw [if_neg same] at absent
        exact Or.inr ⟨absent, List.mem_cons_of_mem row later⟩

@[simp] theorem find_update (t : Table Row key) (selects : Row → Bool) (change : Row → Row)
    (keeps : ∀ r, key (change r) = key r) (k : Key) :
    (t.update selects change keeps).find k =
      (t.find k).map fun r => if selects r then change r else r := by
  have key_eq : ∀ r, key (if selects r then change r else r) = key r := by
    intro r
    split
    · exact keeps r
    · rfl
  simp [find, update, List.find?_map, key_eq, Function.comp_def]

/-- An update pinned to one key that reaches its row changes that row and no other. -/
theorem find_update_pinned {t : Table Row key} {selects : Row → Bool} {change : Row → Row}
    {keeps : ∀ r, key (change r) = key r} {k : Key} {row : Row} (found : t.find k = some row)
    (chosen : selects row = true) (pinned : ∀ r, selects r = true → key r = k) (j : Key) :
    (t.update selects change keeps).find j = if j = k then some (change row) else t.find j := by
  rw [find_update]
  by_cases same : j = k
  · subst same
    simp [found, chosen]
  · rw [if_neg same]
    cases other : t.find j with
    | none => rfl
    | some r =>
      have unselected : selects r = false := by
        by_contra selected
        have at_k := pinned r (by simpa using selected)
        exact same ((find_key other).symm.trans at_k)
      simp [unselected]

/-- Rows under a key that is not selected stay as they are. -/
theorem find_update_other {t : Table Row key} {selects : Row → Bool} {change : Row → Row}
    {keeps : ∀ r, key (change r) = key r} {k : Key}
    (unselected : ∀ r, t.find k = some r → selects r = false) :
    (t.update selects change keeps).find k = t.find k := by
  rw [find_update]
  cases found : t.find k with
  | none => rfl
  | some r => simp [unselected r found]

/-- Exactly one row is changed when the selection pins the key to a row it accepts. -/
theorem changes_pinned (t : Table Row key) (selects : Row → Bool) (k : Key)
    (pinned : ∀ r, selects r = true → key r = k) :
    t.changes selects = if (t.find k).any selects then 1 else 0 := by
  unfold changes
  cases found : t.find k with
  | none =>
    have none_selected : t.rows.countP selects = 0 := by
      rw [List.countP_eq_zero]
      intro r member chosen
      exact (t.find_none_iff k).mp found r member (pinned r chosen)
    simpa using none_selected
  | some r =>
    have member := find_mem found
    have only : ∀ q ∈ t.rows, selects q = true → q = r := by
      intro q hq chosen
      exact t.row_unique hq member ((pinned q chosen).trans (find_key found).symm)
    have nodup : t.rows.Nodup := List.Nodup.of_map key t.key_unique
    by_cases chosen : selects r = true
    · have filtered : t.rows.filter selects = [r] := by
        apply List.perm_singleton.mp
        apply (List.perm_ext_iff_of_nodup (nodup.filter _) (List.nodup_singleton r)).mpr
        intro q
        simp only [List.mem_filter, List.mem_singleton]
        constructor
        · rintro ⟨hq, hs⟩
          exact only q hq hs
        · rintro rfl
          exact ⟨member, chosen⟩
      simp [List.countP_eq_length_filter, filtered, chosen]
    · have none_selected : t.rows.countP selects = 0 := by
        rw [List.countP_eq_zero]
        intro q hq hs
        exact chosen (only q hq hs ▸ hs)
      simpa [chosen] using none_selected

/-- Insert the row, or put it in the place of the row that has its key. -/
def put (t : Table Row key) (row : Row) : Table Row key :=
  (t.insert row).getD <| t.update (fun r => key r = key row)
    (fun r => if key r = key row then row else r) fun r => by
      split
      · rename_i same
        exact same.symm
      · rfl

theorem mem_put {t : Table Row key} {row r : Row} :
    r ∈ (t.put row).rows ↔ r = row ∨ (r ∈ t.rows ∧ key r ≠ key row) := by
  unfold put
  cases inserted : t.insert row with
  | some table =>
    obtain ⟨free, rows_eq⟩ := insert_some inserted
    have other : r ∈ t.rows → key r ≠ key row := (t.find_none_iff (key row)).mp free r
    rw [Option.getD_some, rows_eq, List.mem_append, List.mem_singleton]
    tauto
  | none =>
    have taken : t.find (key row) ≠ none := by
      intro free
      have fits := (t.insert_isSome_iff row).mpr free
      rw [inserted] at fits
      cases fits
    obtain ⟨q, found⟩ := Option.ne_none_iff_exists'.mp taken
    rw [Option.getD_none, mem_update]
    constructor
    · rintro ⟨r', member, rfl⟩
      by_cases same : key r' = key row
      · simp [same]
      · simp [same, member]
    · rintro (rfl | ⟨member, other⟩)
      · exact ⟨q, find_mem found, by simp [find_key found]⟩
      · exact ⟨r, member, by simp [other]⟩

theorem find_put (t : Table Row key) (row : Row) (k : Key) :
    (t.put row).find k = if key row = k then some row else t.find k := by
  by_cases same : key row = k
  · subst same
    rw [if_pos rfl]
    exact find_of_mem (mem_put.mpr (Or.inl rfl))
  · rw [if_neg same]
    cases found : t.find k with
    | none =>
      rw [find_none_iff]
      intro r member at_k
      rcases mem_put.mp member with rfl | ⟨earlier, _⟩
      · exact same at_k
      · exact (t.find_none_iff k).mp found r earlier at_k
    | some r =>
      have at_k := find_key found
      rw [← at_k]
      exact find_of_mem (mem_put.mpr (Or.inr ⟨find_mem found, fun other =>
        same (other.symm.trans at_k)⟩))

/-- A key holds one row or none. -/
theorem count_key (t : Table Row key) (k : Key) :
    (t.rows.countP fun r => key r = k) = if (t.find k).isSome then 1 else 0 := by
  have counted := t.changes_pinned (fun r => decide (key r = k)) k (by simp)
  unfold changes at counted
  rw [counted]
  cases found : t.find k with
  | none => rfl
  | some r => simp [find_key found]

/-- A column without repetitions is a key too. -/
def rekey {Column : Type} {column : Row → Column} (t : Table Row key)
    (unique : (t.rows.map column).Nodup) : Table Row column := ⟨t.rows, unique⟩

omit [DecidableEq Key] in
/-- An update pinned by such a column changes one row, or none is selected. -/
theorem changes_by_column {Column : Type} [DecidableEq Column] {column : Row → Column}
    (t : Table Row key) (unique : (t.rows.map column).Nodup) (selects : Row → Bool) (k : Column)
    (pinned : ∀ r, selects r = true → column r = k) :
    t.changes selects = 1 ∨ (t.changes selects = 0 ∧ ∀ r ∈ t.rows, selects r = false) := by
  have counted := (t.rekey unique).changes_pinned selects k pinned
  change t.changes selects = _ at counted
  by_cases chosen : ((t.rekey unique).find k).any selects = true
  · rw [if_pos chosen] at counted
    exact Or.inl counted
  · rw [if_neg chosen] at counted
    refine Or.inr ⟨counted, ?_⟩
    intro r member
    by_contra selected
    exact List.countP_eq_zero.mp counted r member (by simpa using selected)

/-- Of the selected rows, those with the key of a row are that row or none. -/
theorem count_selected (t : Table Row key) (selects : Row → Bool) {row : Row}
    (member : row ∈ t.rows) :
    (t.rows.filter selects).countP (fun r => key r = key row) = if selects row then 1 else 0 := by
  rw [List.countP_filter]
  have counted := t.changes_pinned (fun r => decide (key r = key row) && selects r) (key row)
    (by
      intro r chosen
      simp only [Bool.and_eq_true, decide_eq_true_eq] at chosen
      exact chosen.1)
  unfold changes at counted
  rw [counted, find_of_mem member]
  simp

omit [DecidableEq Key] in
/-- An update that is pinned to a row exchanges it. -/
theorem countP_pinned {t : Table Row key} {selects : Row → Bool} {change : Row → Row}
    (keeps : ∀ r, key (change r) = key r) {row : Row} (member : row ∈ t.rows)
    (chosen : selects row = true) (pinned : ∀ r, selects r = true → key r = key row)
    (p : Row → Bool) :
    (t.update selects change keeps).rows.countP p + (if p row then 1 else 0) =
      t.rows.countP p + if p (change row) then 1 else 0 := by
  obtain ⟨before, after, split⟩ := List.append_of_mem member
  have unique := t.key_unique
  rw [split, List.map_append, List.map_cons, List.nodup_append, List.nodup_cons] at unique
  obtain ⟨_, ⟨later, _⟩, apart⟩ := unique
  have same : ∀ l : List Row, (∀ r ∈ l, key r ≠ key row) →
      l.map (fun r => if selects r then change r else r) = l := by
    intro l others
    conv_rhs => rw [← List.map_id l]
    apply List.map_congr_left
    intro r inside
    rw [if_neg fun selected => others r inside (pinned r selected)]
    rfl
  have first := same before fun r inside equal =>
    apart (key r) (List.mem_map_of_mem inside) (key row) (by simp) equal
  have rest := same after fun r inside equal => later (equal ▸ List.mem_map_of_mem inside)
  change (t.rows.map _).countP p + _ = _
  rw [split, List.map_append, List.map_cons, first, rest, if_pos chosen]
  simp only [List.countP_append, List.countP_cons]
  omega

omit [DecidableEq Key] in
/-- An update that changes nothing of what is counted. -/
theorem countP_update {t : Table Row key} {selects : Row → Bool} {change : Row → Row}
    (keeps : ∀ r, key (change r) = key r) {p : Row → Bool}
    (same : ∀ r ∈ t.rows, selects r = true → p (change r) = p r) :
    (t.update selects change keeps).rows.countP p = t.rows.countP p := by
  change (t.rows.map _).countP p = _
  rw [List.countP_map]
  apply List.countP_congr
  intro r member
  change p (if selects r then change r else r) = true ↔ p r = true
  by_cases selected : selects r = true
  · rw [if_pos selected, same r member selected]
  · rw [if_neg selected]

end Table
end KeyedTables
