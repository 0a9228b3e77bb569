import ResultBoards.Proofs.Store.CutWrites

/-!
# Writes that go on working

Whether a store in a file can be written depends on its path and on the directories of the tree,
not on what is written.  So one write that works shows two things: any other write would have
worked in its place, and the next one works whatever it is (`FileStore.isWritable_of_set`).

## Strategy

The first of the three changes of a write makes directories, and where they are there already it
changes nothing.  For the other two it is enough that the temporary file and the store itself
lead to places at which no directory stands (`FileSystem.IsReplaceable`).  A replacement that
works needs this, and keeps it, because no directory appears or disappears.
-/

namespace ResultBoards

namespace FileSystem

/-! ## Directories that are there -/

theorem isDirectory_eq_true_iff {files : FileSystem} {path : FilePath} :
    files.isDirectory path = true ↔
      ∃ place, files.locate path = .ok place ∧ files.node? place = some .directory := by
  unfold isDirectory
  cases files.locate path with
  | error problem => simp
  | ok place => simp

theorem KeepsDirectories.trans {files others last : FileSystem}
    (hfirst : files.KeepsDirectories others) (hsecond : others.KeepsDirectories last) :
    files.KeepsDirectories last :=
  fun place hplace => hsecond place (hfirst place hplace)

theorem KeepsDirectories.isDirectory {files others : FileSystem}
    (hkeeps : files.KeepsDirectories others) {path : FilePath}
    (hdirectory : files.isDirectory path = true) : others.isDirectory path = true := by
  obtain ⟨place, hplace, hnode⟩ := isDirectory_eq_true_iff.mp hdirectory
  exact isDirectory_eq_true_iff.mpr ⟨place, hkeeps.locate hplace, hkeeps place hnode⟩

theorem makeDirectory_of_isDirectory {files : FileSystem} {path : FilePath}
    (hdirectory : files.isDirectory path = true) :
    files.makeDirectory path = .error .alreadyExists := by
  obtain ⟨place, hplace, hnode⟩ := isDirectory_eq_true_iff.mp hdirectory
  simp only [makeDirectory, hplace, hnode]

theorem isDirectory_of_makeDirectory {files next : FileSystem} {path : FilePath}
    (hmake : files.makeDirectory path = .ok next) : next.isDirectory path = true := by
  have hextends := extends_of_makeDirectory hmake
  unfold makeDirectory at hmake
  split at hmake
  · contradiction
  · rename_i place hplace
    split at hmake
    · contradiction
    · rename_i hnone
      cases hmake
      have hnode : files.node? place ≠ some .directory := by simp [hnone]
      have hroot := ne_nil_of_node? hnode
      exact isDirectory_eq_true_iff.mpr
        ⟨place, hextends.keepsDirectories.locate hplace, files.node?_put_self _ hroot⟩

theorem isDirectory_of_ensureDirectory {files next : FileSystem} {path : FilePath}
    (hensure : files.ensureDirectory path = (.ok (), next)) : next.isDirectory path = true := by
  unfold ensureDirectory at hensure
  split at hensure
  · rename_i hmake
    cases hensure
    exact isDirectory_of_makeDirectory hmake
  · split at hensure
    · rename_i hdirectory
      cases hensure
      exact hdirectory
    · simp at hensure

theorem isDirectory_of_ensureDirectories {files next : FileSystem} {reversed : List String}
    (hensure : files.ensureDirectories reversed = (.ok (), next)) :
    next.isDirectory ⟨reversed.reverse, false⟩ = true := by
  cases reversed with
  | nil => rfl
  | cons name above =>
      simp only [ensureDirectories] at hensure
      -- whatever was made above, the directory itself comes last
      split at hensure
      · split at hensure
        · simp at hensure
        · exact isDirectory_of_ensureDirectory hensure
      · exact isDirectory_of_ensureDirectory hensure

/-- Nothing is made where the directory is there. -/
theorem ensureDirectories_of_isDirectory {files : FileSystem} {reversed : List String}
    (hdirectory : files.isDirectory ⟨reversed.reverse, false⟩ = true) :
    files.ensureDirectories reversed = (.ok (), files) := by
  cases reversed with
  | nil => rfl
  | cons name above =>
      simp only [ensureDirectories, makeDirectory_of_isDirectory hdirectory, ensureDirectory,
        hdirectory, if_true]

theorem not_hasNul_of_isDirectory {files : FileSystem} {path : FilePath}
    (hdirectory : files.isDirectory path = true) : path.hasNul = false := by
  obtain ⟨place, hplace, _⟩ := isDirectory_eq_true_iff.mp hdirectory
  unfold locate at hplace
  split at hplace
  · contradiction
  · rename_i hnul
    simpa using hnul

theorem isDirectory_of_apply {files next : FileSystem} {path : FilePath}
    (hstep : files.apply (.ensureDirectories path) = (.ok (), next)) :
    next.isDirectory ⟨path.names, false⟩ = true := by
  simp only [apply] at hstep
  split at hstep
  · simp at hstep
  · have hdirectory := isDirectory_of_ensureDirectories hstep
    rwa [List.reverse_reverse] at hdirectory

theorem apply_of_isDirectory {files : FileSystem} {path : FilePath}
    (hdirectory : files.isDirectory ⟨path.names, false⟩ = true) :
    files.apply (.ensureDirectories path) = (.ok (), files) := by
  have hnul : path.hasNul = false := not_hasNul_of_isDirectory hdirectory
  rw [apply, hnul, if_neg (by decide)]
  exact ensureDirectories_of_isDirectory (by rwa [List.reverse_reverse])

/-! ## Files that can be replaced -/

/-- A file at a path can be replaced through its temporary file: no directory stands in the way
of either. -/
structure IsReplaceable (files : FileSystem) (path : FilePath) : Prop where
  temporary : ∃ place, files.locate path.temporary = .ok place ∧
    files.node? place ≠ some .directory
  target : ∃ place, files.locate path = .ok place ∧ files.node? place ≠ some .directory
  temporary_file : path.temporary.meansDirectory = false
  target_file : path.meansDirectory = false

theorem write_of_locate {files : FileSystem} {path : FilePath} {place : List String}
    (bytes : ByteArray) (hlocate : files.locate path = .ok place)
    (hnode : files.node? place ≠ some .directory) (hfile : path.meansDirectory = false) :
    files.write path bytes = .ok (files.put place (.file bytes)) := by
  simp only [write, hlocate]
  cases hstands : files.node? place with
  | none => simp [hfile]
  | some node =>
      cases node with
      | directory => exact absurd hstands hnode
      | file => simp [hfile]

theorem exists_move_of_locate {files : FileSystem} {source target : FilePath}
    {old new : List String} {bytes : ByteArray} (hold : files.locate source = .ok old)
    (hnew : files.locate target = .ok new) (hnode : files.node? old = some (.file bytes))
    (hfile : target.meansDirectory = false) (hdirectory : files.node? new ≠ some .directory) :
    ∃ next, files.move source target = .ok next := by
  simp only [move, hold, hnew, hnode, hfile, hdirectory, if_false, Bool.false_eq_true]
  split
  · exact ⟨_, rfl⟩
  · exact ⟨_, rfl⟩

/-- The changes that put some bytes at a path. -/
def replacement (path : FilePath) (bytes : ByteArray) : List Step :=
  [.write path.temporary bytes, .move path.temporary path]

theorem applyAll_cons_of_ok {files changed : FileSystem} {step : Step} {steps : List Step}
    (hstep : files.apply step = (.ok (), changed)) :
    files.applyAll (step :: steps) = changed.applyAll steps := by
  rw [applyAll, hstep]

/-- A file that can be replaced can be replaced by any bytes. -/
theorem IsReplaceable.applyAll {files : FileSystem} {path : FilePath}
    (hreplaceable : files.IsReplaceable path) (bytes : ByteArray) :
    ∃ next, files.applyAll (replacement path bytes) = (.ok (), next) := by
  obtain ⟨⟨beside, hbeside, hbesideNode⟩, ⟨place, hplace, hplaceNode⟩, hbesideFile, hfile⟩ :=
    hreplaceable
  have hroot := ne_nil_of_node? hbesideNode
  have hkeeps := keepsDirectories_put bytes hbesideNode
  have hwrite := write_of_locate bytes hbeside hbesideNode hbesideFile
  obtain ⟨next, hmove⟩ := exists_move_of_locate (hkeeps.locate hbeside) (hkeeps.locate hplace)
    (files.node?_put_self _ hroot) hfile
      fun hnode => hplaceNode (keepsDirectories_of_put bytes hroot place hnode)
  refine ⟨next, ?_⟩
  rw [replacement, applyAll_cons_of_ok (by rw [apply, hwrite, orUnchanged]),
    applyAll_cons_of_ok (by rw [apply, hmove, orUnchanged])]
  rfl

/-- Only a file that can be replaced is replaced, and then it can be replaced again. -/
theorem isReplaceable_of_applyAll {files next : FileSystem} {path : FilePath} {bytes : ByteArray}
    (happly : files.applyAll (replacement path bytes) = (.ok (), next)) :
    files.IsReplaceable path ∧ files.KeepsDirectories next ∧ next.IsReplaceable path := by
  obtain ⟨written, hwritten, happly⟩ := applyAll_cons_eq_ok happly
  obtain ⟨moved, hmoved, happly⟩ := applyAll_cons_eq_ok happly
  cases happly
  have hwrite := orUnchanged_eq_ok hwritten
  have hmove := orUnchanged_eq_ok hmoved
  have hbesideFile : path.temporary.meansDirectory = false := by
    unfold write at hwrite
    cases hmeans : path.temporary.meansDirectory with
    | false => rfl
    | true =>
        -- a path that means a directory is never written
        simp only [hmeans, if_true] at hwrite
        split at hwrite
        · contradiction
        · split at hwrite <;> contradiction
  obtain ⟨beside, hbeside, hbesideNode, rfl⟩ := write_eq_ok hwrite
  have hroot := ne_nil_of_node? hbesideNode
  have hforth := keepsDirectories_put bytes hbesideNode
  have hback : (files.put beside (.file bytes)).KeepsDirectories files :=
    keepsDirectories_of_put bytes hroot
  obtain ⟨old, place, content, hold, hplace, hcontent, hfile, hplaceNode, hnext⟩ :=
    move_eq_ok hmove
  obtain rfl : beside = old := Except.ok.inj ((hforth.locate hbeside).symm.trans hold)
  have hbefore : files.IsReplaceable path :=
    ⟨⟨beside, hbeside, hbesideNode⟩,
      ⟨place, hback.locate hplace, fun hnode => hplaceNode (hforth place hnode)⟩, hbesideFile,
        hfile⟩
  have hplaceRoot := ne_nil_of_node? hplaceNode
  -- a move erases a file and puts it elsewhere, so directories stay what they are
  have hkeeps : (files.put beside (.file bytes)).KeepsDirectories next ∧
      next.node? beside ≠ some .directory ∧ next.node? place ≠ some .directory := by
    by_cases hsame : beside = place
    · rw [if_pos hsame] at hnext
      subst hnext
      exact ⟨fun _ hnode => hnode, by simp [hcontent], hplaceNode⟩
    · rw [if_neg hsame] at hnext
      subst hnext
      have herased := keepsDirectories_erase
        (hcontent ▸ by simp : (files.put beside (.file bytes)).node? beside ≠ some .directory)
      refine ⟨herased.trans (keepsDirectories_put _ ?_), ?_, ?_⟩
      · rwa [node?_erase_of_ne _ (Ne.symm hsame)]
      · rw [node?_put_of_ne _ _ hsame, node?_erase_self _ hroot]
        simp
      · rw [node?_put_self _ _ hplaceRoot]
        simp
  obtain ⟨hmovedKeeps, hbesideAfter, hplaceAfter⟩ := hkeeps
  have hall := hforth.trans hmovedKeeps
  exact ⟨hbefore, hall, ⟨beside, hall.locate hbeside, hbesideAfter⟩,
    ⟨place, hmovedKeeps.locate hplace, hplaceAfter⟩, hbesideFile, hfile⟩

end FileSystem

/-! ## The store -/

namespace FileStore

variable {path : FilePath} {files next : FileSystem} {entries : Entries}

/-- Any entries can be written to the file at a path. -/
def IsWritable (path : FilePath) (files : FileSystem) : Prop :=
  ∀ entries, ∃ next, files.applyAll (steps path entries) = (.ok (), next)

theorem isWritable_of_isReplaceable {made : FileSystem}
    (hmade : files.apply (.ensureDirectories ⟨path.names.dropLast, false⟩) = (.ok (), made))
    (hreplaceable : made.IsReplaceable path) : IsWritable path files := by
  intro entries
  rw [steps, FileSystem.applyAll_cons_of_ok hmade]
  exact hreplaceable.applyAll _

theorem isWritable_of_applyAll (happly : files.applyAll (steps path entries) = (.ok (), next)) :
    IsWritable path files ∧ IsWritable path next := by
  obtain ⟨made, hmade, happly⟩ := FileSystem.applyAll_cons_eq_ok happly
  obtain ⟨hbefore, hkeeps, hafter⟩ := FileSystem.isReplaceable_of_applyAll happly
  -- the directory of the store was made by then, and it is still there
  have hdirectory := hkeeps.isDirectory (FileSystem.isDirectory_of_apply hmade)
  exact ⟨isWritable_of_isReplaceable hmade hbefore,
    isWritable_of_isReplaceable (FileSystem.apply_of_isDirectory hdirectory) hafter⟩

/-- A write that works leaves new entries in the file. -/
theorem readEntries_of_set {key value : String}
    (hread : readEntries path files = .ok entries)
    (hset : set path files key value = (.ok (), next)) :
    readEntries path next = .ok (entries.insert key value) := by
  obtain ⟨others, hothers, hwritten⟩ := set_eq_ok hset
  obtain rfl : entries = others := Except.ok.inj (hread.symm.trans hothers)
  rw [readEntries, hwritten]
  exact entriesOfBytes_toText _

theorem isWritable_of_set {key value : String}
    (hset : set path files key value = (.ok (), next)) :
    IsWritable path files ∧ IsWritable path next := by
  obtain ⟨entries, hread, _⟩ := set_eq_ok hset
  rw [set_of_readEntries hread] at hset
  cases happly : files.applyAll (steps path (entries.insert key value)) with
  | mk result changed =>
      rw [happly] at hset
      cases result with
      | error problem => simp [Except.mapError] at hset
      | ok _ =>
          obtain rfl : changed = next := (Prod.mk.inj hset).2
          exact isWritable_of_applyAll happly

theorem IsWritable.exists_set (hwritable : IsWritable path files)
    (hread : readEntries path files = .ok entries) (key value : String) :
    ∃ next, set path files key value = (.ok (), next) := by
  obtain ⟨next, happly⟩ := hwritable (entries.insert key value)
  refine ⟨next, ?_⟩
  rw [set_of_readEntries hread, happly]
  rfl

end FileStore

end ResultBoards
