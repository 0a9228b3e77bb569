import ResultBoards.Proofs.Store.CutWrites

/-!
# Failed writes do no damage

A write to a store in a file that fails has made some of its changes already.  What it may
leave behind are directories and the temporary file.  Every other file has the bytes that it
had, and there is no other new one.  A write that fails because the old file cannot be read
has not changed anything.

## Strategy

The steps are followed up to the first that fails (`applyAll_cons_eq_error`).  Where
directories are made, the tree is extended by directories (`Extends`), also if this fails
halfway.  A write or a move that fails changes nothing, so what is left of the step before
decides: for a failed write the directories, and for a failed move the temporary file as
well.

The place of the temporary file is the one that its path leads to at the end.  The path may
lead nowhere before the directories are made.
-/

namespace ResultBoards

namespace FileSystem

variable {files changed next : FileSystem}

/-! ## Files that are spared -/

/-- All files stay as they are and there are no new ones, except for the place that a path
leads to in the end. -/
def SparesFiles (files next : FileSystem) (path : FilePath) : Prop :=
  ∀ place, next.locate path ≠ .ok place → ∀ bytes,
    next.node? place = some (.file bytes) ↔ files.node? place = some (.file bytes)

theorem Extends.sparesFiles (hextends : files.Extends next) (path : FilePath) :
    files.SparesFiles next path := by
  intro place _ bytes
  constructor
  · intro hafter
    exact hextends.node?_file hafter
  · intro hbefore
    exact hextends.node? hbefore

/-- A file that is written is the only one that changes. -/
theorem SparesFiles.write {path : FilePath} {bytes : ByteArray}
    (hspares : files.SparesFiles changed path) (hwrite : changed.write path bytes = .ok next) :
    files.SparesFiles next path := by
  obtain ⟨beside, hlocate, hdirectory, rfl⟩ := write_eq_ok hwrite
  have hstill := (keepsDirectories_put bytes hdirectory).locate hlocate
  intro place hplace content
  have hne : place ≠ beside := by
    rintro rfl
    exact hplace hstill
  rw [node?_put_of_ne _ _ hne]
  apply hspares
  intro hsame
  exact hplace (Except.ok.inj (hlocate.symm.trans hsame) ▸ hstill)

end FileSystem

/-! ## The store -/

namespace FileStore

open FileSystem (applyAll_cons_eq_error extends_of_apply orUnchanged_eq_ok orUnchanged_eq_error)

variable {path : FilePath} {files next : FileSystem}

/-- Whichever of the steps fails, the temporary file is the only file that has changed. -/
theorem sparesFiles_of_steps {entries : Entries} {problem : IoProblem}
    (happly : files.applyAll (steps path entries) = (.error problem, next)) :
    files.SparesFiles next path.temporary := by
  rcases applyAll_cons_eq_error happly with hdirectories | ⟨made, hdirectories, happly⟩
  · exact (extends_of_apply hdirectories).sparesFiles _
  have hmade := (extends_of_apply hdirectories).sparesFiles path.temporary
  rcases applyAll_cons_eq_error happly with hwrite | ⟨written, hwrite, happly⟩
  · obtain ⟨_, rfl⟩ := orUnchanged_eq_error hwrite
    exact hmade
  have hwritten := hmade.write (orUnchanged_eq_ok hwrite)
  rcases applyAll_cons_eq_error happly with hmove | ⟨moved, _, hnone⟩
  · obtain ⟨_, rfl⟩ := orUnchanged_eq_error hmove
    exact hwritten
  · -- there is no fourth step
    simp [FileSystem.applyAll] at hnone

/-- **Failed writes do no damage.**  Whatever the path and the file system, if the value of a
key cannot be set, every file but the temporary one is as it was and there is no other new
one.  If the file could not be read, nothing has changed at all. -/
theorem sparesFiles_of_set_error {key value : String} {failure : StoreFailure}
    (hset : set path files key value = (.error failure, next)) :
    files.SparesFiles next path.temporary ∧
      ∀ problem, readEntries path files = .error problem → problem = failure ∧ next = files := by
  cases hread : readEntries path files with
  | error problem =>
      simp only [set, hread, Prod.mk.injEq, Except.error.injEq] at hset
      obtain ⟨rfl, rfl⟩ := hset
      refine ⟨(FileSystem.Extends.refl files).sparesFiles _, ?_⟩
      rintro _ ⟨⟩
      exact ⟨rfl, rfl⟩
  | ok entries =>
      refine ⟨?_, fun problem hproblem => by simp at hproblem⟩
      rw [set_of_readEntries hread] at hset
      cases happly : files.applyAll (steps path (entries.insert key value)) with
      | mk result changed =>
          rw [happly] at hset
          obtain rfl : changed = next := (Prod.mk.inj hset).2
          cases result with
          | ok _ => simp [Except.mapError] at hset
          | error problem => exact sparesFiles_of_steps happly

/-- The move fails last, and the temporary file is left behind. -/
theorem sparesFiles_of_late_failure :
    let files : FileSystem := ⟨[(["other.txt"], .file "o".toUTF8)]⟩
    let next : FileSystem :=
      ⟨[(["other.txt"], .file "o".toUTF8),
        (["storage.tmp"], .file (Entries.empty.insert "k" "v").toText.toUTF8)]⟩
    let path : FilePath := ⟨["storage.json"], true⟩
    path.temporary = ⟨["storage.tmp"], false⟩ ∧
      set path files "k" "v" = (.error (.io .notADirectory), next) ∧
        files.SparesFiles next path.temporary := by
  intro files next path
  have hset : set path files "k" "v" = (.error (.io .notADirectory), next) := rfl
  exact ⟨rfl, hset, (sparesFiles_of_set_error hset).1⟩

/-- Nothing can be stored at an empty path. -/
example (files : FileSystem) (key value : String) :
    set (.ofText "") files key value = (.error (.io .notFound), files) := rfl

end FileStore

end ResultBoards
