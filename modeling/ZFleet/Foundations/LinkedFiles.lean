import Mathlib.Data.List.Basic
import Mathlib.Data.List.Induction

/-!
A file tree with symbolic links and the walk of a path through it. A link's target takes the
place of its name, "." stays in a directory, ".." goes up, and a path with a name behind
something that is no directory leads nowhere.
-/
namespace LinkedFiles

abbrev Name := List Char
abbrev Place := List Name

inductive Entry (Content : Type) where
  | file (content : Content) (readable : Bool)
  | directory
  | link (absolute : Bool) (target : List Name)
  | special
  deriving DecidableEq, Repr

def Entry.isLink {Content : Type} : Entry Content → Bool
  | .link _ _ => true
  | _ => false

/-- Nothing is there, or the system could not tell. -/
inductive Fault where
  | missing
  | failed
  deriving DecidableEq, Repr

def dot : Name := ['.']
def dotDot : Name := ['.', '.']

/-- What stands at each place, a place being the way from the top without links and dots. -/
structure Tree (Content : Type) where
  look : Place → Except Fault (Entry Content)
  closed : ∀ {place entry}, look place = .ok entry → place ≠ [] →
    look place.dropLast = .ok .directory
  proper : ∀ {place entry}, look place = .ok entry → ∀ name ∈ place, name ≠ dot ∧ name ≠ dotDot

variable {Content : Type} (tree : Tree Content)

def walkNames (restart : Place → List Name → Except Fault Place) (followLast : Bool) :
    Place → List Name → Except Fault Place
  | here, [] => .ok here
  | here, name :: rest =>
    if name = dot then walkNames restart followLast here rest
    else if name = dotDot then walkNames restart followLast here.dropLast rest
    else
      match tree.look (here ++ [name]) with
      | .error fault => .error fault
      | .ok .directory => walkNames restart followLast (here ++ [name]) rest
      | .ok (.link absolute target) =>
        if rest = [] ∧ followLast = false then .ok (here ++ [name])
        else restart (if absolute then [] else here) (target ++ rest)
      | .ok _ => if rest = [] then .ok (here ++ [name]) else .error .missing

/-- The walk gives up behind more links than the system follows. -/
def walk (followLast : Bool) : Nat → Place → List Name → Except Fault Place
  | 0 => walkNames tree (fun _ _ => .error .failed) followLast
  | links + 1 => walkNames tree (walk followLast links) followLast

/-- What a path names, a link at its end followed or not. -/
def status (followLast : Bool) (links : Nat) (base : Place) (names : List Name) :
    Except Fault (Entry Content) := do
  tree.look (← walk tree followLast links base names)

section Walks

variable {tree}

theorem Tree.above {base behind : Place} {entry : Entry Content} (nonempty : behind ≠ [])
    (there : tree.look (base ++ behind) = .ok entry) : tree.look base = .ok .directory := by
  induction behind using List.reverseRecOn generalizing entry with
  | nil => contradiction
  | append_singleton behind name ih =>
    have parent := tree.closed there (by simp)
    rw [← List.append_assoc, List.dropLast_concat] at parent
    by_cases empty : behind = []
    · rwa [empty, List.append_nil] at parent
    · exact ih empty parent

/-- A walk is a walk by names, whatever the number of links left. -/
theorem walk_names (tree : Tree Content) (followLast : Bool) (links : Nat) :
    ∃ restart, walk tree followLast links = walkNames tree restart followLast := by
  cases links with
  | zero => exact ⟨_, rfl⟩
  | succ links => exact ⟨_, rfl⟩

variable {restart : Place → List Name → Except Fault Place} {followLast : Bool}

/-- Behind directories the walk goes on from the last of them. -/
theorem walkNames_directories {base way : Place} (names : List Name)
    (down : tree.look (base ++ way) = .ok .directory) :
    walkNames tree restart followLast base (way ++ names) =
      walkNames tree restart followLast (base ++ way) names := by
  induction way generalizing base with
  | nil => rw [List.append_nil, List.nil_append]
  | cons name way ih =>
    have plain := tree.proper down name (by simp)
    have whole : base ++ name :: way = base ++ [name] ++ way := by simp
    have first : tree.look (base ++ [name]) = .ok .directory := by
      by_cases empty : way = []
      · rwa [empty] at down
      · exact Tree.above empty (by rw [← whole]; exact down)
    rw [List.cons_append, walkNames, if_neg plain.1, if_neg plain.2, first, whole]
    exact ih (by rw [← whole]; exact down)

/-- A path straight down to something that is no link ends there. -/
theorem walkNames_down {base names : Place} {entry : Entry Content}
    (there : tree.look (base ++ names) = .ok entry) (no_link : entry.isLink = false) :
    walkNames tree restart followLast base names = .ok (base ++ names) := by
  induction names using List.reverseRecOn with
  | nil => rw [walkNames, List.append_nil]
  | append_singleton way name _ =>
    have plain := tree.proper there name (by simp)
    rw [← List.append_assoc] at there ⊢
    have down : tree.look (base ++ way) = .ok .directory := Tree.above (by simp) there
    rw [walkNames_directories [name] down, walkNames, if_neg plain.1, if_neg plain.2, there]
    cases entry with
    | file content readable => exact if_pos rfl
    | directory => rfl
    | link absolute target => contradiction
    | special => exact if_pos rfl

/-- Dots at the end of a path name a directory. -/
theorem walkNames_dots {base way : Place} {last : Name} {entry : Entry Content} {place : Place}
    (down : tree.look (base ++ way) = .ok .directory) (dots : last = dot ∨ last = dotDot)
    (walked : walkNames tree restart followLast base (way ++ [last]) = .ok place)
    (there : tree.look place = .ok entry) : entry = .directory := by
  rw [walkNames_directories [last] down] at walked
  rcases dots with rfl | rfl
  · rw [walkNames, if_pos rfl, walkNames] at walked
    have here := Except.ok.inj walked
    rw [← here, down] at there
    exact (Except.ok.inj there).symm
  · rw [walkNames, if_neg (by decide), if_pos rfl, walkNames] at walked
    have here := Except.ok.inj walked
    rw [← here] at there
    by_cases top : base ++ way = []
    · rw [top] at down there
      rw [List.dropLast_nil, down] at there
      exact (Except.ok.inj there).symm
    · rw [tree.closed down top] at there
      exact (Except.ok.inj there).symm

/-- A last name that is no link is where the path ends. -/
theorem walkNames_last {base way : Place} {last : Name} {entry : Entry Content} {place : Place}
    (down : tree.look (base ++ way) = .ok .directory) (plain : last ≠ dot ∧ last ≠ dotDot)
    (walked : walkNames tree restart false base (way ++ [last]) = .ok place)
    (there : tree.look place = .ok entry) : tree.look (base ++ (way ++ [last])) = .ok entry := by
  rw [walkNames_directories [last] down, walkNames, if_neg plain.1, if_neg plain.2] at walked
  rw [← List.append_assoc]
  cases found : tree.look (base ++ way ++ [last]) with
  | error fault => rw [found] at walked; cases walked
  | ok other =>
    rw [found] at walked
    have here : base ++ way ++ [last] = place := by
      cases other with
      | file content readable => exact Except.ok.inj walked
      | directory => exact Except.ok.inj walked
      | link absolute target => exact Except.ok.inj walked
      | special => exact Except.ok.inj walked
    rw [← here, found] at there
    exact there

theorem walk_down {base names : Place} {entry : Entry Content} (links : Nat)
    (there : tree.look (base ++ names) = .ok entry) (no_link : entry.isLink = false) :
    walk tree followLast links base names = .ok (base ++ names) := by
  obtain ⟨restart, by_names⟩ := walk_names tree followLast links
  rw [by_names]
  exact walkNames_down there no_link

theorem status_down {base names : Place} {entry : Entry Content} (links : Nat)
    (there : tree.look (base ++ names) = .ok entry) (no_link : entry.isLink = false) :
    status tree followLast links base names = .ok entry := by
  rw [status, walk_down links there no_link]
  exact there

/-- Only a directory is passed on the way. -/
theorem walkNames_through {base way : Place} {name : Name} {entry : Entry Content} {place : Place}
    (root : tree.look base = .ok .directory) (there : tree.look (base ++ way) = .ok entry)
    (no_link : entry.isLink = false)
    (walked : walkNames tree restart followLast base (way ++ [name]) = .ok place) :
    entry = .directory := by
  induction way using List.reverseRecOn with
  | nil =>
    rw [List.append_nil, root] at there
    exact (Except.ok.inj there).symm
  | append_singleton way last _ =>
    have plain := tree.proper there last (by simp)
    rw [← List.append_assoc] at there
    have down : tree.look (base ++ way) = .ok .directory := Tree.above (by simp) there
    rw [List.append_assoc, walkNames_directories _ down, List.singleton_append, walkNames,
      if_neg plain.1, if_neg plain.2, there] at walked
    cases entry with
    | file content readable => cases walked
    | directory => rfl
    | link absolute target => contradiction
    | special => cases walked

/-- Every step of the way was looked at by itself and was no link. -/
def Checked (tree : Tree Content) (links : Nat) (base : Place) (names : List Name) : Prop :=
  ∀ way, way <+: names → way ≠ [] →
    ∃ entry, status tree false links base way = .ok entry ∧ entry.isLink = false

theorem status_last {base way : Place} {last : Name} {entry : Entry Content} {links : Nat}
    (down : tree.look (base ++ way) = .ok .directory) (plain : last ≠ dot ∧ last ≠ dotDot)
    (found : status tree false links base (way ++ [last]) = .ok entry) :
    tree.look (base ++ (way ++ [last])) = .ok entry := by
  obtain ⟨restart, by_names⟩ := walk_names tree false links
  rw [status, by_names] at found
  cases walked : walkNames tree restart false base (way ++ [last]) with
  | error fault => rw [walked] at found; cases found
  | ok place =>
    rw [walked] at found
    exact walkNames_last down plain walked found

/-- The names in front of the last one of a checked path are directories. -/
theorem checked_directory {base way : Place} {last : Name} {links : Nat}
    (root : tree.look base = .ok .directory)
    (plain : ∀ name ∈ way, name ≠ dot ∧ name ≠ dotDot)
    (checked : Checked tree links base (way ++ [last])) :
    tree.look (base ++ way) = .ok .directory := by
  induction way using List.reverseRecOn generalizing last with
  | nil => rwa [List.append_nil]
  | append_singleton way name ih =>
    have before : Checked tree links base (way ++ [name]) := fun part front =>
      checked part (front.trans (List.prefix_append _ _))
    have down := ih (fun other inside => plain other (List.mem_append_left _ inside)) before
    obtain ⟨entry, found, no_link⟩ := before _ (List.prefix_rfl) (by simp)
    have there := status_last down (plain name (by simp)) found
    obtain ⟨next, passed, _⟩ := checked _ (List.prefix_rfl) (by simp)
    obtain ⟨restart, by_names⟩ := walk_names tree false links
    rw [status, by_names] at passed
    cases walked : walkNames tree restart false base (way ++ [name] ++ [last]) with
    | error fault => rw [walked] at passed; cases passed
    | ok place =>
      rw [walkNames_through root there no_link walked] at there
      exact there

/-- A checked path to a file leads straight down to it. -/
theorem checked_file {base way : Place} {last : Name} {links : Nat} {content : Content}
    {readable : Bool} (root : tree.look base = .ok .directory)
    (plain : ∀ name ∈ way, name ≠ dot ∧ name ≠ dotDot)
    (checked : Checked tree links base (way ++ [last]))
    (opened : status tree true links base (way ++ [last]) = .ok (.file content readable)) :
    tree.look (base ++ (way ++ [last])) = .ok (.file content readable) := by
  have down := checked_directory root plain checked
  by_cases dots : last = dot ∨ last = dotDot
  · obtain ⟨restart, by_names⟩ := walk_names tree true links
    rw [status, by_names] at opened
    cases walked : walkNames tree restart true base (way ++ [last]) with
    | error fault => rw [walked] at opened; cases opened
    | ok place =>
      rw [walked] at opened
      cases walkNames_dots down dots walked opened
  · obtain ⟨entry, found, no_link⟩ := checked _ (List.prefix_rfl) (by simp)
    have there := status_last down (not_or.mp dots) found
    have same : status tree true links base (way ++ [last]) = .ok entry :=
      status_down links there no_link
    rw [same] at opened
    rwa [← Except.ok.inj opened]

/-- All of a path that leads straight down is without links. -/
theorem checked_down {base names : Place} {entry : Entry Content} (links : Nat)
    (there : tree.look (base ++ names) = .ok entry) (no_link : entry.isLink = false) :
    Checked tree links base names := by
  intro way front _
  obtain ⟨behind, rfl⟩ := front
  by_cases empty : behind = []
  · rw [empty, List.append_nil] at there
    exact ⟨entry, status_down links there no_link, no_link⟩
  · rw [← List.append_assoc] at there
    exact ⟨.directory, status_down links (Tree.above empty there) rfl, rfl⟩

end Walks

end LinkedFiles
