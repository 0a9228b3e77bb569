import ResultBoards.Proofs.Store.Laws
import ResultBoards.Proofs.Text.Bytes
import ResultBoards.Store.FileStore

/-!
# Stores in files keep what is written

A write makes three changes of the file system, of which the first may make directories,
the second writes a file next to the store and the third moves it there.  What has to be
shown is that the path of the store still leads to the same place after these changes.
It does because names are followed through directories only, and neither writing nor
moving a file touches one.
-/

namespace ResultBoards

namespace FileSystem

/-! ## What stands where -/

theorem node?_erase_of_ne (files : FileSystem) {place other : List String} (hne : other ≠ place) :
    (files.erase place).node? other = files.node? other := by
  have hlookup : ∀ nodes : List (List String × Node),
      (nodes.filter fun entry => entry.1 ≠ place).lookup other = nodes.lookup other := by
    intro nodes
    induction nodes with
    | nil => rfl
    | cons entry nodes ih =>
        obtain ⟨stood, node⟩ := entry
        -- what is erased stood at the place itself and not at the other
        by_cases hplace : stood = place
        · have hother : (other == stood) = false := beq_false_of_ne (hplace ▸ hne)
          rw [List.filter_cons_of_neg (by simpa using hplace), ih, List.lookup_cons, hother]
        · rw [List.filter_cons_of_pos (by simpa using hplace), List.lookup_cons, List.lookup_cons,
            ih]
  simp only [node?, erase, hlookup]

theorem node?_put_of_ne (files : FileSystem) {place other : List String} (node : Node)
    (hne : other ≠ place) : (files.put place node).node? other = files.node? other := by
  have hlast : List.lookup other [(place, node)] = none := by
    rw [List.lookup_cons, beq_false_of_ne hne, List.lookup_nil]
  rw [← files.node?_erase_of_ne hne]
  simp [node?, put, List.lookup_append, hlast]

theorem node?_erase_self (files : FileSystem) {place : List String} (hroot : place ≠ []) :
    (files.erase place).node? place = none := by
  have hgone : ((files.erase place).nodes).lookup place = none := by
    rw [List.lookup_eq_none_iff]
    intro entry hentry
    have hne : entry.1 ≠ place := of_decide_eq_true (List.mem_filter.mp hentry).2
    simpa using hne.symm
  simp [node?, hgone, hroot]

theorem node?_put_self (files : FileSystem) {place : List String} (node : Node)
    (hroot : place ≠ []) : (files.put place node).node? place = some node := by
  have hgone : (files.erase place).nodes.lookup place = none := by
    simpa [node?, hroot] using files.node?_erase_self hroot
  simp [node?, put, List.lookup_append, hgone, hroot]

theorem ne_nil_of_node? {files : FileSystem} {place : List String}
    (hnode : files.node? place ≠ some .directory) : place ≠ [] := by
  rintro rfl
  exact hnode rfl

/-! ## Directories stay where they are -/

/-- All directories of the first tree are there in the second. -/
def KeepsDirectories (files others : FileSystem) : Prop :=
  ∀ place, files.node? place = some .directory → others.node? place = some .directory

theorem keepsDirectories_put {files : FileSystem} {place : List String} (bytes : ByteArray)
    (hplace : files.node? place ≠ some .directory) :
    files.KeepsDirectories (files.put place (.file bytes)) := by
  intro other hother
  have hne : other ≠ place := fun heq => hplace (heq ▸ hother)
  rw [files.node?_put_of_ne _ hne, hother]

/-- A file is no directory, and nothing else changes. -/
theorem keepsDirectories_of_put {files : FileSystem} {place : List String} (bytes : ByteArray)
    (hplace : place ≠ []) : (files.put place (.file bytes)).KeepsDirectories files := by
  intro other hother
  by_cases hsame : other = place
  · rw [hsame, files.node?_put_self _ hplace] at hother
    simp at hother
  · rwa [files.node?_put_of_ne _ hsame] at hother

theorem keepsDirectories_erase {files : FileSystem} {place : List String}
    (hplace : files.node? place ≠ some .directory) :
    files.KeepsDirectories (files.erase place) := by
  intro other hother
  have hne : other ≠ place := fun heq => hplace (heq ▸ hother)
  rw [files.node?_erase_of_ne hne, hother]

/-- Names lead to the same place wherever the same directories are. -/
theorem KeepsDirectories.follow {files others : FileSystem}
    (hkeeps : files.KeepsDirectories others) {place names target : List String}
    (hfollow : files.follow place names = .ok target) :
    others.follow place names = .ok target := by
  induction names generalizing place with
  | nil => exact hfollow
  | cons name names ih =>
      rw [FileSystem.follow] at hfollow ⊢
      split at hfollow
      · contradiction
      · contradiction
      · -- the place is a directory, and so it is in the second tree
        rename_i hdirectory
        rw [hkeeps place hdirectory]
        show (if name = FilePath.up then _ else _) = _
        split at hfollow
        · rename_i hup
          rw [if_pos hup]
          exact ih hfollow
        · rename_i hup
          rw [if_neg hup]
          split at hfollow
          · contradiction
          · exact ih hfollow

theorem KeepsDirectories.locate {files others : FileSystem}
    (hkeeps : files.KeepsDirectories others) {path : FilePath} {place : List String}
    (hlocate : files.locate path = .ok place) : others.locate path = .ok place := by
  unfold FileSystem.locate at hlocate ⊢
  split at hlocate
  · contradiction
  · rename_i hnul
    rw [if_neg hnul]
    exact hkeeps.follow hlocate

/-! ## Reading, writing and moving -/

theorem read_of_locate {files : FileSystem} {path : FilePath} {place : List String}
    {bytes : ByteArray} (hlocate : files.locate path = .ok place)
    (hnode : files.node? place = some (.file bytes)) (hfile : path.meansDirectory = false) :
    files.read path = .ok bytes := by
  simp only [read, hlocate, hnode, hfile]
  rfl

/-- A write puts a file where its path leads, which is no directory. -/
theorem write_eq_ok {files next : FileSystem} {path : FilePath} {bytes : ByteArray}
    (hwrite : files.write path bytes = .ok next) :
    ∃ place, files.locate path = .ok place ∧ files.node? place ≠ some .directory ∧
      next = files.put place (.file bytes) := by
  unfold write at hwrite
  split at hwrite
  · contradiction
  · rename_i place hlocate
    refine ⟨place, hlocate, ?_⟩
    split at hwrite
    · contradiction
    · rename_i hnode
      split at hwrite
      · contradiction
      · cases hwrite
        exact ⟨by simp [hnode], rfl⟩
    · rename_i hnode
      split at hwrite
      · contradiction
      · cases hwrite
        exact ⟨by simp [hnode], rfl⟩

/-- A move takes a file to where the target leads, which is no directory. -/
theorem move_eq_ok {files next : FileSystem} {source target : FilePath}
    (hmove : files.move source target = .ok next) :
    ∃ old new bytes, files.locate source = .ok old ∧ files.locate target = .ok new ∧
      files.node? old = some (.file bytes) ∧ target.meansDirectory = false ∧
        files.node? new ≠ some .directory ∧
          next = if old = new then files else (files.erase old).put new (.file bytes) := by
  unfold move at hmove
  split at hmove
  · contradiction
  · rename_i old hold
    split at hmove
    · contradiction
    · rename_i new hnew
      split at hmove
      · contradiction
      · contradiction
      · rename_i bytes hnode
        split at hmove
        · contradiction
        · rename_i hfile
          split at hmove
          · contradiction
          · rename_i hdirectory
            refine ⟨old, new, bytes, hold, hnew, hnode, by simpa using hfile, hdirectory, ?_⟩
            split at hmove <;> rename_i hsame <;> cases hmove
            · rw [if_pos hsame]
            · rw [if_neg hsame]

/-- Bytes that were moved to a path are what is read from it. -/
theorem read_of_move {files next : FileSystem} {source target : FilePath} {place : List String}
    {bytes : ByteArray} (hlocate : files.locate source = .ok place)
    (hnode : files.node? place = some (.file bytes))
    (hmove : files.move source target = .ok next) : next.read target = .ok bytes := by
  obtain ⟨old, new, moved, hold, hnew, hmoved, hfile, hdirectory, rfl⟩ := move_eq_ok hmove
  obtain rfl : place = old := Except.ok.inj (hlocate.symm.trans hold)
  obtain rfl : bytes = moved := by simpa [hnode] using hmoved
  split
  · rename_i hsame
    exact read_of_locate hnew (hsame ▸ hnode) hfile
  · have hkept : files.KeepsDirectories ((files.erase place).put new (.file bytes)) := by
      have herased := keepsDirectories_erase (hnode ▸ by simp : files.node? place ≠ some .directory)
      intro other hother
      have hne : other ≠ new := fun heq => hdirectory (heq ▸ hother)
      rw [node?_put_of_ne _ _ hne, herased other hother]
    exact read_of_locate (hkept.locate hnew)
      (node?_put_self _ _ (ne_nil_of_node? hdirectory)) hfile

theorem orUnchanged_eq_ok {files next : FileSystem} {result : Except IoProblem FileSystem}
    (hresult : files.orUnchanged result = (.ok (), next)) : result = .ok next := by
  cases result with
  | error problem => simp [orUnchanged] at hresult
  | ok changed =>
      cases hresult
      rfl

/-- A change that does not happen leaves everything as it is. -/
theorem orUnchanged_eq_error {files next : FileSystem} {problem : IoProblem}
    {result : Except IoProblem FileSystem}
    (hresult : files.orUnchanged result = (.error problem, next)) :
    result = .error problem ∧ next = files := by
  cases result with
  | ok changed => simp [orUnchanged] at hresult
  | error other =>
      cases hresult
      exact ⟨rfl, rfl⟩

theorem applyAll_cons_eq_ok {files next : FileSystem} {step : Step} {steps : List Step}
    (happly : files.applyAll (step :: steps) = (.ok (), next)) :
    ∃ changed, files.apply step = (.ok (), changed) ∧
      changed.applyAll steps = (.ok (), next) := by
  rw [applyAll] at happly
  split at happly
  · simp at happly
  · rename_i changed hstep
    exact ⟨changed, hstep, happly⟩

/-- Changes fail with the first of them that does. -/
theorem applyAll_cons_eq_error {files next : FileSystem} {problem : IoProblem} {step : Step}
    {steps : List Step} (happly : files.applyAll (step :: steps) = (.error problem, next)) :
    files.apply step = (.error problem, next) ∨
      ∃ changed, files.apply step = (.ok (), changed) ∧
        changed.applyAll steps = (.error problem, next) := by
  rw [applyAll] at happly
  split at happly
  · rename_i hstep
    cases happly
    exact .inl hstep
  · rename_i changed hstep
    exact .inr ⟨changed, hstep, happly⟩

end FileSystem

/-! ## The store -/

namespace FileStore

/-- Entries that were written are what the file holds. -/
theorem read_of_steps {path : FilePath} {entries : Entries} {files next : FileSystem}
    (happly : files.applyAll (steps path entries) = (.ok (), next)) :
    next.read path = .ok entries.toText.toUTF8 := by
  obtain ⟨made, _, happly⟩ := FileSystem.applyAll_cons_eq_ok happly
  obtain ⟨written, hwrite, happly⟩ := FileSystem.applyAll_cons_eq_ok happly
  obtain ⟨moved, hmove, happly⟩ := FileSystem.applyAll_cons_eq_ok happly
  cases happly
  -- the new file stands where there was no directory, so its path still leads there
  obtain ⟨place, hlocate, hdirectory, rfl⟩ :=
    FileSystem.write_eq_ok (FileSystem.orUnchanged_eq_ok hwrite)
  exact FileSystem.read_of_move
    ((FileSystem.keepsDirectories_put _ hdirectory).locate hlocate)
    (FileSystem.node?_put_self _ _ (FileSystem.ne_nil_of_node? hdirectory))
    (FileSystem.orUnchanged_eq_ok hmove)

/-- The bytes of a text of entries hold the entries. -/
theorem entriesOfBytes_toText (entries : Entries) :
    entriesOfBytes entries.toText.toUTF8 = .ok entries := by
  obtain ⟨spacing, htext⟩ := entries.toList_toText
  have hblank : Text.isAllBlank entries.toText.toList = false := by
    rw [htext, Text.isAllBlank, List.all_cons]
    rfl
  simp only [entriesOfBytes, fromUTF8?_toUTF8, hblank, Entries.decode_toText]
  rfl

theorem set_of_readEntries {path : FilePath} {files : FileSystem} {entries : Entries}
    (hread : readEntries path files = .ok entries) (key value : String) :
    set path files key value =
      ((files.applyAll (steps path (entries.insert key value))).1.mapError .io,
        (files.applyAll (steps path (entries.insert key value))).2) := by
  simp only [set, hread]

/-- A write that works read some entries and leaves the text of the new ones. -/
theorem set_eq_ok {path : FilePath} {files next : FileSystem} {key value : String}
    (hset : set path files key value = (.ok (), next)) :
    ∃ entries, readEntries path files = .ok entries ∧
      next.read path = .ok (entries.insert key value).toText.toUTF8 := by
  cases hread : readEntries path files with
  | error failure => simp [set, hread] at hset
  | ok entries =>
      rw [set_of_readEntries hread] at hset
      refine ⟨entries, rfl, ?_⟩
      cases happly : files.applyAll (steps path (entries.insert key value)) with
      | mk result changed =>
          rw [happly] at hset
          cases result with
          | error problem => simp [Except.mapError] at hset
          | ok _ =>
              obtain rfl : changed = next := (Prod.mk.inj hset).2
              exact read_of_steps happly

/-- **A store in a file keeps what is written.**  This holds for any path and any state of
the file system, as long as the write works. -/
theorem keepsWrites (path : FilePath) : (store path).KeepsWrites := by
  intro files next key value hset
  obtain ⟨entries, _, hwritten⟩ := set_eq_ok hset
  simp only [store, get, readEntries, hwritten, entriesOfBytes_toText]
  exact congrArg Except.ok (Entries.get?_insert_self entries key value)

end FileStore

end ResultBoards
