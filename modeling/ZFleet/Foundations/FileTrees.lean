import Mathlib.Data.List.Infix
import Mathlib.Data.List.Dedup
import Mathlib.Logic.Function.Basic

/-!
Trees of files. A tree carries that a parent of a node is a directory, so a path that is
not there has nothing below it. Operations either fail and give no tree, or give the
changed one. A link is a node of its own that leads nowhere.
-/
namespace FileTrees

/-- The names from the root of the tree. -/
abbrev Path := List String

inductive Node where
  | file (content : String) (executable : Bool)
  | directory
  | link
  deriving DecidableEq, Repr

/-- What has something below it is a directory. -/
def Closed (node : Path → Option Node) : Prop :=
  ∀ p q, q ≠ [] → node (p ++ q) ≠ none → node p = some .directory

structure Tree where
  node : Path → Option Node
  /-- Every name in the tree, so that a directory can be listed. -/
  names : List String
  /-- The paths that the file system has room for. -/
  fits : Path → Bool
  root : node [] = some .directory
  closed : Closed node
  named : ∀ p n, node (p ++ [n]) ≠ none → n ∈ names

def Tree.empty (fits : Path → Bool) : Tree where
  node p := if p = [] then some .directory else none
  names := []
  fits := fits
  root := if_pos rfl
  closed p q some_below there := by simp [some_below] at there
  named p n there := by simp at there

namespace Tree

/-! Looking -/

/-- A link leads nowhere, so it is not there for the one who follows it. -/
def exists? (t : Tree) (p : Path) : Bool :=
  match t.node p with
  | some (.file _ _) | some .directory => true
  | _ => false

def isDirectory (t : Tree) (p : Path) : Bool := t.node p = some .directory

def isLink (t : Tree) (p : Path) : Bool := t.node p = some .link

def regular (t : Tree) (p : Path) : Option (String × Bool) :=
  match t.node p with
  | some (.file content executable) => some (content, executable)
  | _ => none

def children (t : Tree) (p : Path) : List String :=
  t.names.dedup.filter fun n => t.node (p ++ [n]) ≠ none

theorem none_below {t : Tree} {p q : Path} (absent : t.node p = none) :
    t.node (p ++ q) = none := by
  by_cases empty : q = []
  · rw [empty, List.append_nil]
    exact absent
  · by_contra there
    have parent := t.closed p q empty there
    rw [absent] at parent
    cases parent

theorem none_below_file {t : Tree} {p q : Path} {content : String} {executable : Bool}
    (file : t.node p = some (.file content executable)) (below : q ≠ []) :
    t.node (p ++ q) = none := by
  by_contra there
  have parent := t.closed p q below there
  rw [file] at parent
  cases parent

theorem mem_children {t : Tree} {p : Path} {n : String} :
    n ∈ t.children p ↔ t.node (p ++ [n]) ≠ none := by
  simp only [children, List.mem_filter, List.mem_dedup, decide_eq_true_eq]
  exact ⟨fun listed => listed.2, fun there => ⟨t.named p n there, there⟩⟩

/-! Making and changing one node -/

/-- There is a directory for the node, and no directory or link in its place. -/
def Writable (t : Tree) (p : Path) : Prop :=
  p ≠ [] ∧ t.node p.dropLast = some .directory ∧
    ((t.node p = none ∧ t.fits p = true) ∨ (t.regular p).isSome)

instance (t : Tree) (p : Path) : Decidable (t.Writable p) := by
  unfold Writable
  infer_instance

theorem Writable.not_directory {t : Tree} {p : Path} (writable : t.Writable p) :
    t.node p ≠ some .directory := by
  intro directory
  rcases writable.2.2 with ⟨absent, -⟩ | regular
  · rw [absent] at directory
    cases directory
  · simp [Tree.regular, directory] at regular

theorem closed_update {t : Tree} {p : Path} (writable : t.Writable p) (v : Node) :
    Closed (Function.update t.node p (some v)) := by
  have parent := writable.2.1
  intro a b below there
  have above : t.node a = some .directory := by
    by_cases here : a ++ b = p
    · -- the changed node: its parent is a directory, and so is everything above that
      have b_split := List.dropLast_append_getLast below
      have parent_eq : p.dropLast = a ++ b.dropLast := by
        rw [← here, List.dropLast_append_of_ne_nil below]
      rw [parent_eq] at parent
      by_cases direct : b.dropLast = []
      · rw [direct, List.append_nil] at parent
        exact parent
      · exact t.closed a b.dropLast direct (by rw [parent]; simp)
    · rw [Function.update_of_ne here] at there
      exact t.closed a b below there
  have other : a ≠ p := by
    intro same
    rw [same] at above
    exact writable.not_directory above
  rw [Function.update_of_ne other]
  exact above

/-- Make the node, or put it in the place of a file. -/
def put (t : Tree) (p : Path) (v : Node) : Except String Tree :=
  if writable : t.Writable p then
    .ok {
      node := Function.update t.node p (some v)
      names := p.getLast writable.1 :: t.names
      fits := t.fits
      root := by rw [Function.update_of_ne (Ne.symm writable.1), t.root]
      closed := closed_update writable v
      named := by
        intro q n there
        by_cases here : q ++ [n] = p
        · subst here
          simp
        · rw [Function.update_of_ne here] at there
          exact List.mem_cons_of_mem _ (t.named q n there) }
  else .error "No such file or directory"

theorem put_ok {t t' : Tree} {p : Path} {v : Node} (done : t.put p v = .ok t') :
    t.Writable p ∧ t'.node = Function.update t.node p (some v) ∧ t'.fits = t.fits := by
  unfold put at done
  split at done
  · rename_i writable
    cases done
    exact ⟨writable, rfl, rfl⟩
  · cases done

theorem put_writable {t : Tree} {p : Path} (writable : t.Writable p) (v : Node) :
    ∃ t', t.put p v = .ok t' := by
  unfold put
  rw [dif_pos writable]
  exact ⟨_, rfl⟩

def makeDirectory (t : Tree) (p : Path) : Except String Tree :=
  if t.node p = none then t.put p .directory else .error "File exists"

/-- Write the content; a file keeps its permissions. -/
def writeFile (t : Tree) (p : Path) (content : String) : Except String Tree :=
  t.put p (.file content (match t.regular p with
    | some (_, executable) => executable
    | none => false))

theorem writeFile_writable {t : Tree} {p : Path} (writable : t.Writable p) (content : String) :
    ∃ t', t.writeFile p content = .ok t' :=
  put_writable writable _

/-- Copy content with its permissions. -/
def copyTo (t : Tree) (p : Path) (content : String) (executable : Bool) : Except String Tree :=
  t.put p (.file content executable)

def setExecutable (t : Tree) (p : Path) (executable : Bool) : Except String Tree :=
  match t.regular p with
  | some (content, _) => t.put p (.file content executable)
  | none => .error "Operation not permitted"

/-- The directories on the way down from `base`. -/
def makeDirectoriesFrom (t : Tree) (base : Path) : List String → Except String Tree
  | [] => .ok t
  | name :: rest =>
    match t.node (base ++ [name]) with
    | some .directory => t.makeDirectoriesFrom (base ++ [name]) rest
    | none =>
      match t.makeDirectory (base ++ [name]) with
      | .error message => .error message
      | .ok t' => t'.makeDirectoriesFrom (base ++ [name]) rest
    | some _ => .error "Not a directory"

def makeDirectories (t : Tree) (p : Path) : Except String Tree := t.makeDirectoriesFrom [] p

/-! Removing and moving subtrees -/

def prunedNode (t : Tree) (p q : Path) : Option Node := if p <+: q then none else t.node q

theorem prunedNode_outside {t : Tree} {p q : Path} (outside : ¬ p <+: q) :
    t.prunedNode p q = t.node q := if_neg outside

theorem prunedNode_inside {t : Tree} {p q : Path} (inside : p <+: q) : t.prunedNode p q = none :=
  if_pos inside

theorem outside_of_pruned {t : Tree} {p q : Path} (there : t.prunedNode p q ≠ none) :
    ¬ p <+: q := fun inside => there (prunedNode_inside inside)

/-- The tree without a node and what is below it. -/
def prune (t : Tree) (p : Path) (below_root : p ≠ []) : Tree where
  node := t.prunedNode p
  names := t.names
  fits := t.fits
  root := by
    have outside : ¬ p <+: [] := fun inside => below_root (List.prefix_nil.mp inside)
    rw [prunedNode_outside outside, t.root]
  closed := by
    intro a b below there
    have outside := outside_of_pruned there
    have outside_above : ¬ p <+: a := fun inside => outside (inside.trans (List.prefix_append a b))
    rw [prunedNode_outside outside] at there
    rw [prunedNode_outside outside_above]
    exact t.closed a b below there
  named := by
    intro q n there
    rw [prunedNode_outside (outside_of_pruned there)] at there
    exact t.named q n there

def remove (t : Tree) (p : Path) : Except String Tree :=
  if below_root : p ≠ [] then
    if t.isDirectory p ∧ t.children p ≠ [] then .error "Directory not empty"
    else .ok (t.prune p below_root)
  else .error "Device or resource busy"

def removeAll (t : Tree) (p : Path) : Except String Tree :=
  if below_root : p ≠ [] then .ok (t.prune p below_root) else .error "Device or resource busy"

/-- A directory may take the place of an empty one, another node that of a node that is
    no directory. -/
def Replaceable (t : Tree) (old new : Path) : Prop :=
  if t.isDirectory old then t.node new = none ∨ (t.isDirectory new ∧ t.children new = [])
  else t.isDirectory new = false

/-- The move is possible: nothing is moved into itself, and the new parent is there. -/
def Movable (t : Tree) (old new : Path) : Prop :=
  t.node old ≠ none ∧ new ≠ [] ∧ ¬ old <+: new ∧ ¬ new <+: old ∧
    t.node new.dropLast = some .directory ∧ t.fits new = true ∧ t.Replaceable old new

instance (t : Tree) (old new : Path) : Decidable (t.Movable old new) := by
  unfold Movable Replaceable
  infer_instance

/-- Where the node that is seen at `q` after the move was before. -/
def movedNode (t : Tree) (old new q : Path) : Option Node :=
  if new <+: q then t.node (old ++ q.drop new.length)
  else if old <+: q then none
  else t.node q

theorem movedNode_below (t : Tree) (old new q : Path) :
    t.movedNode old new (new ++ q) = t.node (old ++ q) := by
  simp [movedNode]

theorem movedNode_outside {t : Tree} {old new q : Path} (no_new : ¬ new <+: q)
    (no_old : ¬ old <+: q) : t.movedNode old new q = t.node q := by
  rw [movedNode, if_neg no_new, if_neg no_old]

theorem closed_moved {t : Tree} {old new : Path} (movable : t.Movable old new) :
    Closed (t.movedNode old new) := by
  obtain ⟨-, nonempty, apart, -, parent, -⟩ := movable
  intro a b below there
  by_cases inside : new <+: a
  · obtain ⟨c, rfl⟩ := inside
    rw [List.append_assoc, movedNode_below, ← List.append_assoc] at there
    rw [movedNode_below]
    exact t.closed (old ++ c) b below there
  · by_cases reached : new <+: a ++ b
    · -- the moved node itself: everything above it is what it was
      have above : a <+: new := by
        rcases List.prefix_or_prefix_of_prefix (List.prefix_append a b) reached with shorter | longer
        · exact shorter
        · exact absurd longer inside
      have not_old : ¬ old <+: a := fun under => apart (under.trans above)
      rw [movedNode_outside inside not_old]
      obtain ⟨c, rfl⟩ := above
      have c_nonempty : c ≠ [] := by
        intro empty
        rw [empty, List.append_nil] at inside
        exact inside (List.prefix_refl a)
      rw [List.dropLast_append_of_ne_nil c_nonempty] at parent
      by_cases direct : c.dropLast = []
      · rw [direct, List.append_nil] at parent
        exact parent
      · exact t.closed a c.dropLast direct (by rw [parent]; simp)
    · by_cases gone : old <+: a ++ b
      · rw [movedNode, if_neg reached, if_pos gone] at there
        exact absurd rfl there
      · rw [movedNode_outside reached gone] at there
        have not_old : ¬ old <+: a := fun under => gone (under.trans (List.prefix_append a b))
        rw [movedNode_outside inside not_old]
        exact t.closed a b below there

theorem named_moved {t : Tree} {old new : Path} (nonempty : new ≠ []) (q : Path) (n : String)
    (there : t.movedNode old new (q ++ [n]) ≠ none) : n ∈ new.getLast nonempty :: t.names := by
  by_cases inside : new <+: q
  · obtain ⟨c, rfl⟩ := inside
    rw [List.append_assoc, movedNode_below, ← List.append_assoc] at there
    exact List.mem_cons_of_mem _ (t.named _ n there)
  · by_cases reached : new <+: q ++ [n]
    · rcases List.prefix_concat_iff.mp reached with same | under
      · subst same
        simp
      · exact absurd under inside
    · by_cases gone : old <+: q ++ [n]
      · rw [movedNode, if_neg reached, if_pos gone] at there
        exact absurd rfl there
      · rw [movedNode_outside reached gone] at there
        exact List.mem_cons_of_mem _ (t.named q n there)

def rename (t : Tree) (old new : Path) : Except String Tree :=
  if movable : t.Movable old new then
    .ok {
      node := t.movedNode old new
      names := new.getLast movable.2.1 :: t.names
      fits := t.fits
      root := by
        have no_new : ¬ new <+: [] := fun inside => movable.2.1 (List.prefix_nil.mp inside)
        have no_old : ¬ old <+: [] := fun inside =>
          movable.2.2.1 (by rw [List.prefix_nil.mp inside]; exact List.nil_prefix)
        rw [movedNode_outside no_new no_old, t.root]
      closed := closed_moved movable
      named := named_moved movable.2.1 }
  else .error "Invalid cross-device link"

/-! What the operations do -/

theorem makeDirectory_ok {t t' : Tree} {p : Path} (done : t.makeDirectory p = .ok t') :
    t.node p = none ∧ t'.node = Function.update t.node p (some .directory) ∧ t'.fits = t.fits := by
  unfold makeDirectory at done
  split at done
  · rename_i absent
    exact ⟨absent, (put_ok done).2⟩
  · cases done

theorem makeDirectoriesFrom_ok {t t' : Tree} {base : Path} {rest : List String}
    (above : t.node base = some .directory) (done : t.makeDirectoriesFrom base rest = .ok t') :
    (∀ q, t'.node q = if base <+: q ∧ q <+: base ++ rest then some .directory else t.node q) ∧
      t'.fits = t.fits := by
  induction rest generalizing t base with
  | nil =>
    cases done
    refine ⟨?_, rfl⟩
    intro q
    split
    · rename_i inside
      have same : base = q :=
        inside.1.eq_of_length_le (by simpa using inside.2.length_le)
      rw [← same, above]
    · rfl
  | cons name rest ih =>
    -- the path with one more name: below it, or the base itself
    have one_more : ∀ q, (base <+: q ∧ q <+: base ++ name :: rest) ↔
        q = base ∨ (base ++ [name] <+: q ∧ q <+: base ++ [name] ++ rest) := by
      intro q
      rw [List.append_assoc, List.singleton_append]
      constructor
      · intro inside
        obtain ⟨⟨c, rfl⟩, within⟩ := inside
        have c_within : c <+: name :: rest := (List.prefix_append_right_inj base).mp within
        cases c with
        | nil => exact .inl (List.append_nil base)
        | cons n c =>
          right
          obtain ⟨same, -⟩ := List.cons_prefix_cons.mp c_within
          subst same
          exact ⟨⟨c, by simp⟩, within⟩
      · intro either
        rcases either with rfl | ⟨below, within⟩
        · exact ⟨List.prefix_refl q, List.prefix_append q _⟩
        · exact ⟨(List.prefix_append base [name]).trans below, within⟩
    simp only [makeDirectoriesFrom] at done
    cases found : t.node (base ++ [name]) with
    | none =>
      rw [found] at done
      simp only at done
      cases made : t.makeDirectory (base ++ [name]) with
      | error message =>
        rw [made] at done
        cases done
      | ok middle =>
        rw [made] at done
        obtain ⟨-, changed, same_room⟩ := makeDirectory_ok made
        have here : middle.node (base ++ [name]) = some .directory := by
          rw [changed, Function.update_self]
        obtain ⟨nodes, room⟩ := ih here done
        refine ⟨?_, room.trans same_room⟩
        intro q
        rw [nodes q]
        by_cases below : base ++ [name] <+: q ∧ q <+: base ++ [name] ++ rest
        · rw [if_pos below, if_pos ((one_more q).mpr (.inr below))]
        · rw [if_neg below]
          by_cases at_base : q = base
          · rw [if_pos ((one_more q).mpr (.inl at_base)), changed, at_base,
              Function.update_of_ne (by simp), above]
          · have outside : ¬ (base <+: q ∧ q <+: base ++ name :: rest) := by
              intro inside
              rcases (one_more q).mp inside with same | within
              · exact at_base same
              · exact below within
            have other : q ≠ base ++ [name] := by
              intro same
              exact below ⟨by rw [same], by rw [same]; exact List.prefix_append _ _⟩
            rw [if_neg outside, changed, Function.update_of_ne other]
    | some v =>
      rw [found] at done
      cases v with
      | file content executable => cases done
      | link => cases done
      | directory =>
        obtain ⟨nodes, room⟩ := ih found done
        refine ⟨?_, room⟩
        intro q
        rw [nodes q]
        by_cases below : base ++ [name] <+: q ∧ q <+: base ++ [name] ++ rest
        · rw [if_pos below, if_pos ((one_more q).mpr (.inr below))]
        · rw [if_neg below]
          by_cases at_base : q = base
          · rw [if_pos ((one_more q).mpr (.inl at_base)), at_base, above]
          · have outside : ¬ (base <+: q ∧ q <+: base ++ name :: rest) := by
              intro inside
              rcases (one_more q).mp inside with same | within
              · exact at_base same
              · exact below within
            rw [if_neg outside]

/-- The path and everything above it are directories now, and nothing else has changed. -/
theorem makeDirectories_ok {t t' : Tree} {p : Path} (done : t.makeDirectories p = .ok t') :
    (∀ q, t'.node q = if q <+: p then some .directory else t.node q) ∧ t'.fits = t.fits := by
  obtain ⟨nodes, room⟩ := makeDirectoriesFrom_ok t.root done
  refine ⟨?_, room⟩
  intro q
  rw [nodes q]
  simp

/-- What was on the way was a directory already. -/
theorem makeDirectoriesFrom_free {t t' : Tree} {base : Path} {rest : List String}
    (above : t.node base = some .directory) (done : t.makeDirectoriesFrom base rest = .ok t') :
    ∀ q, base <+: q → q <+: base ++ rest → t.node q = none ∨ t.node q = some .directory := by
  induction rest generalizing t base with
  | nil =>
    intro q below within
    rw [List.append_nil] at within
    rw [← below.eq_of_length_le within.length_le]
    exact .inr above
  | cons name rest ih =>
    intro q below within
    obtain ⟨c, rfl⟩ := below
    cases c with
    | nil =>
      rw [List.append_nil]
      exact .inr above
    | cons n c =>
      obtain ⟨same, c_within⟩ :=
        List.cons_prefix_cons.mp ((List.prefix_append_right_inj base).mp within)
      subst same
      have longer : base ++ n :: c = base ++ [n] ++ c := by simp
      rw [longer]
      simp only [makeDirectoriesFrom] at done
      cases found : t.node (base ++ [n]) with
      | none => exact .inl (none_below found)
      | some v =>
        rw [found] at done
        cases v with
        | file content executable => cases done
        | link => cases done
        | directory =>
          exact ih found done _ (List.prefix_append _ _)
            ((List.prefix_append_right_inj (base ++ [n])).mpr c_within)

theorem makeDirectories_free {t t' : Tree} {p : Path} (done : t.makeDirectories p = .ok t') :
    ∀ q, q <+: p → t.node q = none ∨ t.node q = some .directory :=
  fun q within => makeDirectoriesFrom_free t.root done q List.nil_prefix within

/-- What was not there had room. -/
theorem makeDirectoriesFrom_room {t t' : Tree} {base : Path} {rest : List String}
    (done : t.makeDirectoriesFrom base rest = .ok t') :
    ∀ q, base <+: q → q <+: base ++ rest → q ≠ base → t.node q = none → t.fits q = true := by
  induction rest generalizing t base with
  | nil =>
    intro q below within other
    rw [List.append_nil] at within
    exact absurd (below.eq_of_length_le within.length_le).symm other
  | cons name rest ih =>
    intro q below within other absent
    obtain ⟨c, rfl⟩ := below
    cases c with
    | nil => exact absurd (List.append_nil base) other
    | cons n c =>
      obtain ⟨same, c_within⟩ :=
        List.cons_prefix_cons.mp ((List.prefix_append_right_inj base).mp within)
      subst same
      have longer : base ++ n :: c = base ++ [n] ++ c := by simp
      rw [longer] at absent ⊢
      have c_inside := (List.prefix_append_right_inj (base ++ [n])).mpr c_within
      simp only [makeDirectoriesFrom] at done
      cases found : t.node (base ++ [n]) with
      | some v =>
        rw [found] at done
        cases v with
        | file content executable => cases done
        | link => cases done
        | directory =>
          refine ih done _ (List.prefix_append _ _) c_inside ?_ absent
          intro same
          rw [same, found] at absent
          cases absent
      | none =>
        rw [found] at done
        cases made : t.makeDirectory (base ++ [n]) with
        | error message =>
          rw [made] at done
          cases done
        | ok middle =>
          rw [made] at done
          rw [makeDirectory, if_pos found] at made
          obtain ⟨writable, changed, same_room⟩ := put_ok made
          by_cases here : base ++ [n] ++ c = base ++ [n]
          · rw [here]
            rcases writable.2.2 with ⟨-, fits⟩ | regular
            · exact fits
            · simp [Tree.regular, found] at regular
          · rw [← same_room]
            refine ih done _ (List.prefix_append _ _) c_inside here ?_
            rw [changed, Function.update_of_ne here, absent]

theorem makeDirectories_room {t t' : Tree} {p : Path} (done : t.makeDirectories p = .ok t') :
    ∀ q, q <+: p → t.node q = none → t.fits q = true := by
  intro q within absent
  refine makeDirectoriesFrom_room done q List.nil_prefix within ?_ absent
  intro root
  rw [root, t.root] at absent
  cases absent

theorem makeDirectoriesFrom_succeeds {t : Tree} {base : Path} {rest : List String}
    (above : t.node base = some .directory)
    (free : ∀ q, base <+: q → q <+: base ++ rest → t.node q = none ∨ t.node q = some .directory)
    (room : ∀ q, q <+: base ++ rest → t.node q = none → t.fits q = true) :
    ∃ t', t.makeDirectoriesFrom base rest = .ok t' := by
  induction rest generalizing t base with
  | nil => exact ⟨t, rfl⟩
  | cons name rest ih =>
    have longer : base ++ [name] ++ rest = base ++ name :: rest := by simp
    have on_the_way : base ++ [name] <+: base ++ name :: rest := by
      rw [← longer]
      exact List.prefix_append _ _
    simp only [makeDirectoriesFrom]
    rcases free (base ++ [name]) (List.prefix_append _ _) on_the_way with absent | directory
    · have writable : t.Writable (base ++ [name]) :=
        ⟨by simp, by rw [List.dropLast_concat]; exact above, .inl ⟨absent, room _ on_the_way absent⟩⟩
      obtain ⟨middle, made⟩ := put_writable writable .directory
      obtain ⟨-, changed, same_room⟩ := put_ok made
      have made' : t.makeDirectory (base ++ [name]) = .ok middle := by
        rw [makeDirectory, if_pos absent, made]
      rw [absent]
      simp only [made']
      apply ih
      · rw [changed, Function.update_self]
      · intro q below within
        rw [longer] at within
        by_cases same : q = base ++ [name]
        · right
          rw [changed, same, Function.update_self]
        · rw [changed, Function.update_of_ne same]
          exact free q ((List.prefix_append _ _).trans below) within
      · intro q within missing
        rw [longer] at within
        rw [same_room]
        by_cases same : q = base ++ [name]
        · rw [changed, same, Function.update_self] at missing
          cases missing
        · rw [changed, Function.update_of_ne same] at missing
          exact room q within missing
    · rw [directory]
      apply ih directory
      · intro q below within
        rw [longer] at within
        exact free q ((List.prefix_append _ _).trans below) within
      · intro q within
        rw [longer] at within
        exact room q within

theorem makeDirectories_succeeds {t : Tree} {p : Path}
    (free : ∀ q, q <+: p → t.node q = none ∨ t.node q = some .directory)
    (room : ∀ q, q <+: p → t.node q = none → t.fits q = true) :
    ∃ t', t.makeDirectories p = .ok t' :=
  makeDirectoriesFrom_succeeds t.root (fun q _ within => free q within) room

theorem removeAll_ok {t t' : Tree} {p : Path} (done : t.removeAll p = .ok t') :
    (∀ q, t'.node q = if p <+: q then none else t.node q) ∧ t'.fits = t.fits := by
  unfold removeAll at done
  split at done
  · cases done
    exact ⟨fun _ => rfl, rfl⟩
  · cases done

theorem remove_ok {t t' : Tree} {p : Path} (done : t.remove p = .ok t') :
    (∀ q, t'.node q = if p <+: q then none else t.node q) ∧ t'.fits = t.fits := by
  unfold remove at done
  split at done
  · split at done
    · cases done
    · cases done
      exact ⟨fun _ => rfl, rfl⟩
  · cases done

theorem rename_ok {t t' : Tree} {old new : Path} (done : t.rename old new = .ok t') :
    t.Movable old new ∧ t'.node = t.movedNode old new ∧ t'.fits = t.fits := by
  unfold rename at done
  split at done
  · rename_i movable
    cases done
    exact ⟨movable, rfl, rfl⟩
  · cases done

theorem rename_movable {t : Tree} {old new : Path} (movable : t.Movable old new) :
    ∃ t', t.rename old new = .ok t' := by
  unfold rename
  rw [dif_pos movable]
  exact ⟨_, rfl⟩

theorem setExecutable_ok {t t' : Tree} {p : Path} {executable : Bool}
    (done : t.setExecutable p executable = .ok t') :
    ∃ content before, t.regular p = some (content, before) ∧
      t'.node = Function.update t.node p (some (.file content executable)) ∧ t'.fits = t.fits := by
  unfold setExecutable at done
  cases found : t.regular p with
  | none =>
    rw [found] at done
    cases done
  | some pair =>
    obtain ⟨content, before⟩ := pair
    rw [found] at done
    exact ⟨content, before, rfl, (put_ok done).2⟩

theorem regular_iff {t : Tree} {p : Path} {content : String} {executable : Bool} :
    t.regular p = some (content, executable) ↔ t.node p = some (.file content executable) := by
  unfold regular
  cases found : t.node p with
  | none => simp
  | some v => cases v <;> simp

/-! Regular files -/

theorem regular_of_node_eq {t t' : Tree} {p q : Path} (same : t'.node q = t.node p) :
    t'.regular q = t.regular p := by
  unfold regular
  rw [same]

theorem makeDirectories_regular {t t' : Tree} {p : Path} (done : t.makeDirectories p = .ok t')
    (q : Path) : t'.regular q = t.regular q := by
  have changed := (makeDirectories_ok done).1 q
  by_cases within : q <+: p
  · rw [if_pos within] at changed
    unfold regular
    rcases makeDirectories_free done q within with absent | directory
    · rw [changed, absent]
    · rw [changed, directory]
  · rw [if_neg within] at changed
    exact regular_of_node_eq changed

theorem put_regular {t t' : Tree} {p : Path} {content : String} {executable : Bool}
    (done : t.put p (.file content executable) = .ok t') (q : Path) :
    t'.regular q = if q = p then some (content, executable) else t.regular q := by
  have changed := (put_ok done).2.1
  by_cases here : q = p
  · rw [if_pos here, here]
    apply regular_iff.mpr
    rw [changed, Function.update_self]
  · rw [if_neg here]
    exact regular_of_node_eq (by rw [changed, Function.update_of_ne here])

theorem setExecutable_regular {t t' : Tree} {p : Path} {executable : Bool}
    (done : t.setExecutable p executable = .ok t') : ∃ content before,
      t.regular p = some (content, before) ∧
      ∀ q, t'.regular q = if q = p then some (content, executable) else t.regular q := by
  unfold setExecutable at done
  cases found : t.regular p with
  | none =>
    rw [found] at done
    cases done
  | some pair =>
    rw [found] at done
    exact ⟨pair.1, pair.2, rfl, put_regular done⟩

theorem rename_below {t t' : Tree} {old new : Path} (done : t.rename old new = .ok t')
    (q : Path) : t'.node (new ++ q) = t.node (old ++ q) := by
  rw [(rename_ok done).2.1, movedNode_below]

end Tree

/-! What an operation may touch -/

/-- One of the paths leads to the other. -/
def Near (p q : Path) : Prop := q <+: p ∨ p <+: q

/-- The trees agree but on the touched paths. -/
structure AgreeBut (touched : Path → Prop) (t t' : Tree) : Prop where
  nodes : ∀ q, ¬ touched q → t'.node q = t.node q
  room : t'.fits = t.fits

section Frames
variable {touched wider : Path → Prop} {t t' t'' : Tree}

theorem AgreeBut.refl (touched : Path → Prop) (t : Tree) : AgreeBut touched t t :=
  ⟨fun _ _ => rfl, rfl⟩

theorem AgreeBut.trans (first : AgreeBut touched t t') (second : AgreeBut touched t' t'') :
    AgreeBut touched t t'' :=
  ⟨fun q outside => (second.nodes q outside).trans (first.nodes q outside),
    second.room.trans first.room⟩

theorem AgreeBut.mono (agree : AgreeBut touched t t') (included : ∀ q, touched q → wider q) :
    AgreeBut wider t t' :=
  ⟨fun q outside => agree.nodes q fun inside => outside (included q inside), agree.room⟩

theorem agree_put {p : Path} {v : Node} (done : t.put p v = .ok t') : AgreeBut (· = p) t t' := by
  obtain ⟨-, changed, room⟩ := Tree.put_ok done
  exact ⟨fun q other => by rw [changed, Function.update_of_ne other], room⟩

theorem agree_makeDirectories {p : Path} (done : t.makeDirectories p = .ok t') :
    AgreeBut (· <+: p) t t' := by
  obtain ⟨nodes, room⟩ := Tree.makeDirectories_ok done
  exact ⟨fun q outside => by rw [nodes q, if_neg outside], room⟩

theorem agree_removeAll {p : Path} (done : t.removeAll p = .ok t') : AgreeBut (p <+: ·) t t' := by
  obtain ⟨nodes, room⟩ := Tree.removeAll_ok done
  exact ⟨fun q outside => by rw [nodes q, if_neg outside], room⟩

theorem agree_remove {p : Path} (done : t.remove p = .ok t') : AgreeBut (p <+: ·) t t' := by
  obtain ⟨nodes, room⟩ := Tree.remove_ok done
  exact ⟨fun q outside => by rw [nodes q, if_neg outside], room⟩

theorem agree_writeFile {p : Path} {content : String} (done : t.writeFile p content = .ok t') :
    AgreeBut (· = p) t t' := agree_put done

theorem agree_copyTo {p : Path} {content : String} {executable : Bool}
    (done : t.copyTo p content executable = .ok t') : AgreeBut (· = p) t t' := agree_put done

theorem agree_rename {old new : Path} (done : t.rename old new = .ok t') :
    AgreeBut (fun q => old <+: q ∨ new <+: q) t t' := by
  obtain ⟨-, changed, room⟩ := Tree.rename_ok done
  refine ⟨?_, room⟩
  intro q outside
  rw [changed, Tree.movedNode_outside (fun inside => outside (.inr inside))
    fun inside => outside (.inl inside)]

theorem agree_setExecutable {p : Path} {executable : Bool}
    (done : t.setExecutable p executable = .ok t') : AgreeBut (· = p) t t' := by
  obtain ⟨content, before, -, changed, room⟩ := Tree.setExecutable_ok done
  exact ⟨fun q other => by rw [changed, Function.update_of_ne other], room⟩

end Frames

end FileTrees
