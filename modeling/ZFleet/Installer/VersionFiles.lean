import ZFleet.Installer.FairCalls

/-!
Writing one version file: the temporary file beside it, then a rename, and if that fails the
old file is removed for a second attempt. When the write goes through, when nothing can
change the file, and what some failure leaves.
-/
namespace Installer
open FileTrees Transactions Package

theorem tempPath_var (component n : String) :
    tempPath (varRoot component ++ [n]) = varRoot component ++ [n ++ ".tmp"] := by
  simp [tempPath, List.getLastD_eq_getLast?]

theorem temp_ne (n : String) : n ++ ".tmp" ≠ n := by
  intro same
  have sizes := congrArg String.length same
  rw [String.length_append] at sizes
  have four : ".tmp".length = 4 := rfl
  omega

theorem siblings {dir : Path} {n m : String} (other : n ≠ m) : ¬ dir ++ [n] <+: dir ++ [m] := by
  intro inside
  have same := (List.prefix_append_right_inj dir).mp inside
  exact other (List.cons_prefix_cons.mp same).1

/-- A version file of the component can be replaced, or removed to make room for it. -/
structure Changeable (t : Tree) (component n : String) : Prop where
  var : t.node (varRoot component) = some .directory ∨
    (t.node (varRoot component) = none ∧ t.fits (varRoot component) = true)
  temp : (t.node (varRoot component ++ [n ++ ".tmp"]) = none ∧
      t.fits (varRoot component ++ [n ++ ".tmp"]) = true) ∨
    (t.regular (varRoot component ++ [n ++ ".tmp"])).isSome = true
  file : ¬ (t.isDirectory (varRoot component ++ [n]) = true ∧
    t.children (varRoot component ++ [n]) ≠ [])
  room : t.node (varRoot component ++ [n]) ≠ none ∨ t.fits (varRoot component ++ [n]) = true

section VersionFiles
variable {t t' : Tree} {component n version : String}

theorem not_above_file (m : String) : ¬ varRoot component ++ [m] <+: varRoot component := by
  intro within
  have sizes := within.length_le
  simp at sizes

/-- The steps before the rename: the temporary file is there, the others are what they were. -/
structure TempWritten (t t' : Tree) (component n version : String) : Prop where
  above : t'.node (varRoot component) = some .directory
  temp : ∃ executable,
    t'.regular (varRoot component ++ [n ++ ".tmp"]) = some (version ++ "\n", executable)
  others : ∀ m q, m ≠ n ++ ".tmp" →
    t'.node (varRoot component ++ m :: q) = t.node (varRoot component ++ m :: q)
  room : t'.fits = t.fits

theorem makeVar_others {m : String} {q : Path}
    (made : t.makeDirectories (varRoot component) = .ok t') :
    t'.node (varRoot component ++ m :: q) = t.node (varRoot component ++ m :: q) := by
  rw [(Tree.makeDirectories_ok made).1, if_neg]
  intro within
  have sizes := within.length_le
  simp at sizes

/-- The first part of a write: the directory and the temporary file. -/
def writeTemp (component n version : String) : Work Unit := do
  operation (·.makeDirectories (varRoot component))
  writeTextFile (varRoot component ++ [n ++ ".tmp"]) (version ++ "\n")

theorem writeTemp_fair (component n version : String) : Fair (writeTemp component n version) :=
  fair_bind (operation_fair _) fun _ => writeTextFile_fair _ _

theorem writeTemp_ok {s s' : Session Tree} {u : Unit}
    (done : writeTemp component n version s = (.ok u, s')) :
    TempWritten s.state s'.state component n version ∧
      (s.state.node (varRoot component) = some .directory ∨
        (s.state.node (varRoot component) = none ∧ s.state.fits (varRoot component) = true)) ∧
      ((s.state.node (varRoot component ++ [n ++ ".tmp"]) = none ∧
          s.state.fits (varRoot component ++ [n ++ ".tmp"]) = true) ∨
        (s.state.regular (varRoot component ++ [n ++ ".tmp"])).isSome = true) := by
  obtain ⟨_, first, make, rest⟩ := bind_ok done
  obtain ⟨_, second, make', write⟩ := bind_ok rest
  have made := operation_ok make
  have made' := operation_ok make'
  rw [List.dropLast_concat] at made'
  have wrote := operation_ok write
  obtain ⟨writable, nodes, room⟩ := Tree.put_ok wrote
  have same_temp : second.state.node (varRoot component ++ [n ++ ".tmp"]) =
      s.state.node (varRoot component ++ [n ++ ".tmp"]) :=
    (makeVar_others made').trans (makeVar_others made)
  have rooms : second.state.fits = s.state.fits :=
    (Tree.makeDirectories_ok made').2.trans (Tree.makeDirectories_ok made).2
  refine ⟨⟨?_, ?_, ?_, room.trans rooms⟩, ?_, ?_⟩
  · have parent := writable.2.1
    rw [List.dropLast_concat] at parent
    rw [nodes, Function.update_of_ne (by simp), parent]
  · rw [Tree.put_regular wrote, if_pos rfl]
    exact ⟨_, rfl⟩
  · intro m q other
    rw [nodes, Function.update_of_ne (by simp [other]), makeVar_others made', makeVar_others made]
  · rcases Tree.makeDirectories_free made _ (List.prefix_refl _) with absent | directory
    · exact .inr ⟨absent, Tree.makeDirectories_room made _ (List.prefix_refl _) absent⟩
    · exact .inl directory
  · rcases writable.2.2 with ⟨absent, fits⟩ | regular
    · rw [same_temp] at absent
      rw [rooms] at fits
      exact .inl ⟨absent, fits⟩
    · rw [Tree.regular_of_node_eq same_temp] at regular
      exact .inr regular

/-- The last part of a write: the temporary file takes the place of the other. -/
def replaceFile (component n : String) : Work Unit :=
  rescue (operation (·.rename (varRoot component ++ [n ++ ".tmp"]) (varRoot component ++ [n])))
    fun _ => do
      recover (operation (·.remove (varRoot component ++ [n]))) fun _ => ()
      operation (·.rename (varRoot component ++ [n ++ ".tmp"]) (varRoot component ++ [n]))

theorem writeVersionFile_split (s : Session Tree) :
    writeVersionFile (varRoot component ++ [n]) version s =
      (writeTemp component n version >>= fun _ => replaceFile component n) s := by
  unfold writeTemp
  rw [bind_assoc_run]
  unfold writeVersionFile replaceFile
  rw [tempPath_var, List.dropLast_concat]

theorem rename_temp_ok {s s' : Session Tree} {u : Unit}
    (temp : s.state.isDirectory (varRoot component ++ [n ++ ".tmp"]) = false)
    (done : operation (·.rename (varRoot component ++ [n ++ ".tmp"]) (varRoot component ++ [n])) s =
      (.ok u, s')) :
    s.state.isDirectory (varRoot component ++ [n]) = false ∧
      s.state.fits (varRoot component ++ [n]) = true := by
  obtain ⟨-, -, -, -, -, fits, replaceable⟩ := (Tree.rename_ok (operation_ok done)).1
  unfold Tree.Replaceable at replaceable
  rw [temp, if_neg (by simp)] at replaceable
  exact ⟨replaceable, fits⟩

/-- The removal of what is in the way goes well, or changes nothing. -/
theorem removeOld_cases (path : Path) (s : Session Tree) :
    ∃ s', recover (operation (·.remove path)) (fun _ => ()) s = (.ok (), s') ∧
      (s'.state = s.state ∨ ¬ (s.state.isDirectory path = true ∧ s.state.children path ≠ []) ∧
        (∀ q, s'.state.node q = if path <+: q then none else s.state.node q) ∧
        s'.state.fits = s.state.fits) := by
  cases tried : operation (·.remove path) s with
  | mk answer s' =>
    cases answer with
    | error e =>
      exact ⟨s', recover_of_error tried, .inl (operation_atomic _ s e s' tried)⟩
    | ok u =>
      have removed := operation_ok tried
      refine ⟨s', recover_of_ok tried, .inr ⟨?_, Tree.remove_ok removed⟩⟩
      intro filled
      unfold Tree.remove at removed
      split at removed
      · cases removed
      · cases removed

/-- Where the file cannot be changed the temporary one does not take its place. -/
theorem replaceFile_blocked {s s' : Session Tree} {answer : Except Failure Unit}
    (temp : s.state.isDirectory (varRoot component ++ [n ++ ".tmp"]) = false)
    (blocked : ¬ (s.state.isDirectory (varRoot component ++ [n]) = true ∧
        s.state.children (varRoot component ++ [n]) ≠ []) →
      s.state.node (varRoot component ++ [n]) = none ∧
        s.state.fits (varRoot component ++ [n]) = false)
    (ran : replaceFile component n s = (answer, s')) :
    s'.state.node (varRoot component ++ [n]) = s.state.node (varRoot component ++ [n]) ∧
      ∃ e, answer = .error e := by
  have refused : ∀ {middle after : Session Tree} {u : Unit}, middle.state = s.state →
      operation (·.rename (varRoot component ++ [n ++ ".tmp"]) (varRoot component ++ [n])) middle ≠
        (.ok u, after) := by
    intro middle after u same done
    obtain ⟨no_directory, fits⟩ := rename_temp_ok (by rw [same]; exact temp) done
    rw [same] at no_directory fits
    have no_room := (blocked (by rw [no_directory]; simp)).2
    rw [fits] at no_room
    cases no_room
  unfold replaceFile at ran
  cases tried : operation (·.rename (varRoot component ++ [n ++ ".tmp"])
      (varRoot component ++ [n])) s with
  | mk first middle =>
    cases first with
    | ok u => exact absurd tried (refused rfl)
    | error e =>
      have same := operation_atomic _ s e middle tried
      obtain ⟨cleared, remove, outcome⟩ := removeOld_cases (varRoot component ++ [n]) middle
      rw [rescue_of_error tried, bind_of_ok remove] at ran
      -- the second attempt fails as well, for the reason of the first or for want of room
      cases answer with
      | error e' =>
        refine ⟨?_, e', rfl⟩
        rw [operation_atomic _ cleared e' s' ran]
        rcases outcome with unchanged | ⟨file, nodes, -⟩
        · rw [unchanged, same]
        · rw [nodes, if_pos (List.prefix_refl _)]
          rw [same] at file
          exact (blocked file).1.symm
      | ok u =>
        exfalso
        rcases outcome with unchanged | ⟨file, nodes, rooms⟩
        · exact refused (unchanged.trans same) ran
        · have no_temp : cleared.state.isDirectory (varRoot component ++ [n ++ ".tmp"]) = false := by
            unfold Tree.isDirectory
            rw [nodes, if_neg (siblings (temp_ne n).symm), same]
            exact temp
          have fits := (rename_temp_ok no_temp ran).2
          rw [same] at file
          rw [rooms, same, (blocked file).2] at fits
          cases fits

theorem TempWritten.no_directory (written : TempWritten t t' component n version) :
    t'.isDirectory (varRoot component ++ [n ++ ".tmp"]) = false := by
  obtain ⟨executable, there⟩ := written.temp
  simp [Tree.isDirectory, Tree.regular_iff.mp there]

theorem TempWritten.file (written : TempWritten t t' component n version) :
    t'.node (varRoot component ++ [n]) = t.node (varRoot component ++ [n]) :=
  written.others n [] (temp_ne n).symm

/-- Whether a directory is there and not empty is seen at it and right below it. -/
theorem filled_of_nodes {p : Path} (same : ∀ q, t'.node (p ++ q) = t.node (p ++ q)) :
    (t'.isDirectory p = true ∧ t'.children p ≠ []) ↔
      (t.isDirectory p = true ∧ t.children p ≠ []) := by
  have here := same []
  rw [List.append_nil] at here
  have directory : t'.isDirectory p = t.isDirectory p := by
    unfold Tree.isDirectory
    rw [here]
  have filled : ∀ {u : Tree}, u.children p ≠ [] ↔ ∃ m, u.node (p ++ [m]) ≠ none := by
    intro u
    rw [List.ne_nil_iff_exists_cons]
    constructor
    · rintro ⟨m, rest, listed⟩
      exact ⟨m, Tree.mem_children.mp (by rw [listed]; simp)⟩
    · rintro ⟨m, there⟩
      exact List.exists_cons_of_ne_nil (List.ne_nil_of_mem (Tree.mem_children.mpr there))
  rw [directory, filled, filled]
  simp only [same]

theorem TempWritten.children (written : TempWritten t t' component n version) :
    (t'.isDirectory (varRoot component ++ [n]) = true ∧
        t'.children (varRoot component ++ [n]) ≠ []) ↔
      (t.isDirectory (varRoot component ++ [n]) = true ∧
        t.children (varRoot component ++ [n]) ≠ []) := by
  apply filled_of_nodes
  intro q
  rw [List.append_assoc]
  exact written.others n q (temp_ne n).symm

/-- A version file that cannot be changed stays, and its write fails. -/
theorem writeVersionFile_blocked {s s' : Session Tree} {answer : Except Failure Unit}
    (blocked : ¬ Changeable s.state component n)
    (ran : writeVersionFile (varRoot component ++ [n]) version s = (answer, s')) :
    s'.state.node (varRoot component ++ [n]) = s.state.node (varRoot component ++ [n]) ∧
      ∃ e, answer = .error e := by
  have early : Evolves (AgreeBut fun q => q <+: varRoot component ∨
      q = varRoot component ++ [n ++ ".tmp"])
      (writeTemp component n version) := by
    apply frame_bind
    · exact frame_mono (operation_frame fun _ _ => agree_makeDirectories) fun q above => .inl above
    · intro _
      refine frame_mono (writeTextFile_frame _ _) fun q near => ?_
      rw [List.dropLast_concat] at near
      exact near
  rw [writeVersionFile_split] at ran
  rcases bind_cases ran with ⟨e, failed⟩ | ⟨u, middle, began, ended⟩
  · refine ⟨(early _ _ _ failed).nodes _ ?_, e, ?_⟩
    · rintro (above | temp)
      · exact not_above_file n above
      · exact temp_ne n (by simpa using temp.symm)
    · rw [bind_of_error failed] at ran
      cases ran
      rfl
  · obtain ⟨written, var, temp⟩ := writeTemp_ok began
    obtain ⟨kept, e, failed⟩ := replaceFile_blocked written.no_directory (by
      rw [written.children, written.file, written.room]
      intro file
      by_contra room
      refine blocked ⟨var, temp, file, ?_⟩
      by_cases there : s.state.node (varRoot component ++ [n]) = none
      · right
        by_contra no_room
        exact room ⟨there, by simpa using no_room⟩
      · exact .inl there) ended
    exact ⟨kept.trans written.file, e, failed⟩

/-! Where it goes through -/

theorem makeVar_succeeds (above : t.node [component] = some .directory)
    (var : t.node (varRoot component) = some .directory ∨
      (t.node (varRoot component) = none ∧ t.fits (varRoot component) = true)) :
    ∃ t', t.makeDirectories (varRoot component) = .ok t' := by
  have on_the_way : ∀ q, q <+: varRoot component →
      q = varRoot component ∨ t.node q = some .directory := by
    intro q within
    rcases List.prefix_concat_iff.mp (show q <+: [component] ++ ["var"] from within) with
      whole | shorter
    · exact .inl whole
    · rcases List.prefix_concat_iff.mp (show q <+: [] ++ [component] from shorter) with one | empty
      · rw [one]
        exact .inr above
      · rw [List.prefix_nil.mp empty]
        exact .inr t.root
  apply Tree.makeDirectories_succeeds
  · intro q within
    rcases on_the_way q within with rfl | directory
    · rcases var with there | ⟨absent, -⟩
      · exact .inr there
      · exact .inl absent
    · exact .inr directory
  · intro q within absent
    rcases on_the_way q within with rfl | directory
    · rcases var with there | ⟨-, room⟩
      · rw [there] at absent
        cases absent
      · exact room
    · rw [directory] at absent
      cases absent

theorem writeTemp_succeeds (above : t.node [component] = some .directory)
    (changeable : Changeable t component n) :
    ∃ t', Succeeds (writeTemp component n version) t () t' := by
  obtain ⟨t₁, made⟩ := makeVar_succeeds above changeable.var
  obtain ⟨nodes₁, room₁⟩ := Tree.makeDirectories_ok made
  have var₁ : t₁.node (varRoot component) = some .directory := by
    rw [nodes₁, if_pos (List.prefix_refl _)]
  obtain ⟨t₂, made'⟩ := makeVar_succeeds
    (t₁.closed [component] ["var"] (by simp) (by
      rw [show t₁.node ([component] ++ ["var"]) = _ from var₁]
      simp)) (.inl var₁)
  obtain ⟨nodes₂, room₂⟩ := Tree.makeDirectories_ok made'
  have same : t₂.node (varRoot component ++ [n ++ ".tmp"]) =
      t.node (varRoot component ++ [n ++ ".tmp"]) :=
    (makeVar_others made').trans (makeVar_others made)
  have writable : t₂.Writable (varRoot component ++ [n ++ ".tmp"]) := by
    refine ⟨by simp, ?_, ?_⟩
    · rw [List.dropLast_concat, nodes₂, if_pos (List.prefix_refl _)]
    · rw [same, Tree.regular_of_node_eq same, room₂, room₁]
      exact changeable.temp
  obtain ⟨t₃, wrote⟩ := Tree.writeFile_writable writable (version ++ "\n")
  refine ⟨t₃, succeeds_bind (operation_succeeds made) (succeeds_bind (operation_succeeds ?_)
    (operation_succeeds wrote))⟩
  rw [List.dropLast_concat]
  exact made'

/-- What a version file is written over. -/
structure Writable (t : Tree) (component n : String) : Prop where
  above : t.node [component] = some .directory
  changeable : Changeable t component n
  no_directory : t.isDirectory (varRoot component ++ [n]) = false
  room : t.fits (varRoot component ++ [n]) = true

theorem writeVersionFile_succeeds (writable : Writable t component n) :
    ∃ t', Succeeds (writeVersionFile (varRoot component ++ [n]) version) t () t' ∧
      (∃ executable, t'.regular (varRoot component ++ [n]) = some (version ++ "\n", executable)) ∧
      t'.node (varRoot component ++ [n ++ ".tmp"]) = none ∧
      (∀ m, m ≠ n → m ≠ n ++ ".tmp" →
        t'.node (varRoot component ++ [m]) = t.node (varRoot component ++ [m])) ∧
      t'.fits = t.fits := by
  obtain ⟨above, changeable, no_directory, room⟩ := writable
  obtain ⟨t₁, ran⟩ := @writeTemp_succeeds t component n version above changeable
  obtain ⟨written, -⟩ := writeTemp_ok ran
  obtain ⟨executable, temp⟩ := written.temp
  have movable : t₁.Movable (varRoot component ++ [n ++ ".tmp"]) (varRoot component ++ [n]) := by
    refine ⟨?_, by simp, siblings (temp_ne n), siblings (temp_ne n).symm, ?_, ?_, ?_⟩
    · rw [Tree.regular_iff.mp temp]
      simp
    · rw [List.dropLast_concat, written.above]
    · rw [written.room, room]
    · unfold Tree.Replaceable
      rw [written.no_directory, if_neg (by simp)]
      unfold Tree.isDirectory
      rw [written.file]
      exact no_directory
  obtain ⟨t₂, moved⟩ := Tree.rename_movable movable
  obtain ⟨-, nodes, same_room⟩ := Tree.rename_ok moved
  refine ⟨t₂, ?_, ⟨executable, ?_⟩, ?_, ?_, same_room.trans written.room⟩
  · unfold Succeeds
    rw [writeVersionFile_split]
    exact succeeds_bind ran (rescue_of_ok (operation_succeeds moved))
  · have there := Tree.rename_below moved []
    rw [List.append_nil, List.append_nil] at there
    exact (Tree.regular_of_node_eq there).trans temp
  · rw [nodes, Tree.movedNode, if_neg (siblings (temp_ne n).symm), if_pos (List.prefix_refl _)]
  · intro m not_file not_temp
    rw [nodes, Tree.movedNode_outside (siblings not_file.symm) (siblings not_temp.symm)]
    exact written.others m [] not_temp

/-! What some failure leaves -/

/-- The rename fails, the old file is removed, and the rename fails again. -/
theorem replaceFile_loses (file : ¬ (t.isDirectory (varRoot component ++ [n]) = true ∧
      t.children (varRoot component ++ [n]) ≠ [])) :
    ∃ e t', Possible (replaceFile component n) t (.error e) t' ∧
      t'.node (varRoot component ++ [n]) = none := by
  have removed : t.remove (varRoot component ++ [n]) =
      .ok (t.prune (varRoot component ++ [n]) (by simp)) := by
    unfold Tree.remove
    rw [dif_pos (by simp), if_neg file]
  refine ⟨Fault.error.failure, t.prune (varRoot component ++ [n]) (by simp), ?_,
    Tree.prunedNode_inside (List.prefix_refl _)⟩
  apply possible_rescue (possible_fault _ t)
  apply possible_bind
  · exact possible_recover_ok ((operation_fair _).possible (operation_succeeds removed))
  · exact possible_fault _ _

/-- A changeable version file is changed in some failure of what begins with its write. -/
theorem write_breaks {α : Type} {rest : Unit → Work α}
    (above : t.node [component] = some .directory) (changeable : Changeable t component n)
    (fails : ∀ t', ∃ e, Possible (rest ()) t' (.error e) t') :
    ∃ e t', Possible (writeVersionFile (varRoot component ++ [n]) version >>= rest) t (.error e) t' ∧
      t'.node (varRoot component ++ [n]) ≠ t.node (varRoot component ++ [n]) := by
  by_cases there : t.node (varRoot component ++ [n]) = none
  · -- the write goes through, the file is new, and the next step fails
    have room : t.fits (varRoot component ++ [n]) = true := by
      rcases changeable.room with some_there | room
      · exact absurd there some_there
      · exact room
    obtain ⟨t', ran, ⟨executable, file⟩, -⟩ := @writeVersionFile_succeeds t component n version
      ⟨above, changeable, by simp [Tree.isDirectory, there], room⟩
    obtain ⟨e, failed⟩ := fails t'
    refine ⟨e, t', possible_bind ((writeVersionFile_fair _ _).possible ran) failed, ?_⟩
    rw [Tree.regular_iff.mp file, there]
    simp
  · obtain ⟨t₁, ran⟩ := @writeTemp_succeeds t component n version above changeable
    obtain ⟨written, -⟩ := writeTemp_ok ran
    obtain ⟨e, t₂, lost, gone⟩ := @replaceFile_loses t₁ component n (by
      rw [written.children]
      exact changeable.file)
    refine ⟨e, t₂, ?_, ?_⟩
    · apply possible_bind_error
      obtain ⟨faults, run⟩ := @possible_bind _ _ _ _ (fun _ => replaceFile component n) _ _ _ _ _
        ((writeTemp_fair component n version).possible ran) lost
      exact ⟨faults, fun others => (writeVersionFile_split _).trans (run others)⟩
    · rw [gone]
      exact Ne.symm there

end VersionFiles

end Installer
