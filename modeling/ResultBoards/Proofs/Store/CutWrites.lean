import Mathlib.Data.List.Infix
import Mathlib.Logic.Relation
import ResultBoards.Proofs.Store.Paths

/-!
# Writes that are cut off

A write to a store in a file may end at any moment, be it because the machine stops or
because a step fails.  What a reader finds then is the old file or the new one, never a
piece of one.

## Strategy

`FileSystem.Midway` holds of the states that are seen while steps are made: between two
steps, between two of the directories that one step makes, and after any number of bytes
of a file.  Nothing else is assumed of the moment of the cut.

While directories are made the files stay as they are (`Extends`), and a path that led to
a file goes on leading there.  A path that led nowhere may begin to lead somewhere:
`d/../f` names no file as long as `d` is missing and names `f` afterwards.  Paths that do
not lead upwards have no such surprises (`Extends.found?_eq_or`).  What is written
afterwards goes to the temporary file, which the path of the store does not lead to, and
the move then shows all of it at once.
-/

namespace ResultBoards

namespace FileSystem

/-! ## Making directories -/

/-- The second tree has all that the first has, and besides only directories. -/
def Extends (files others : FileSystem) : Prop :=
  ∀ place, others.node? place = files.node? place ∨
    files.node? place = none ∧ others.node? place = some .directory

theorem Extends.refl (files : FileSystem) : files.Extends files := fun _ => .inl rfl

theorem Extends.trans {files others last : FileSystem} (hfirst : files.Extends others)
    (hsecond : others.Extends last) : files.Extends last := by
  intro place
  rcases hsecond place with hsame | ⟨hnone, hdirectory⟩
  · rw [hsame]
    exact hfirst place
  · rcases hfirst place with hsame | ⟨_, hmade⟩
    · exact .inr ⟨hsame ▸ hnone, hdirectory⟩
    · rw [hmade] at hnone
      contradiction

theorem Extends.node? {files others : FileSystem} (hextends : files.Extends others)
    {place : List String} {node : Node} (hnode : files.node? place = some node) :
    others.node? place = some node := by
  rcases hextends place with hsame | ⟨hnone, _⟩
  · rw [hsame, hnode]
  · rw [hnode] at hnone
    contradiction

theorem Extends.node?_file {files others : FileSystem} (hextends : files.Extends others)
    {place : List String} {bytes : ByteArray} (hnode : others.node? place = some (.file bytes)) :
    files.node? place = some (.file bytes) := by
  rcases hextends place with hsame | ⟨_, hdirectory⟩
  · rw [← hsame, hnode]
  · rw [hdirectory] at hnode
    simp at hnode

theorem Extends.keepsDirectories {files others : FileSystem} (hextends : files.Extends others) :
    files.KeepsDirectories others :=
  fun _ hdirectory => hextends.node? hdirectory

theorem extends_of_makeDirectory {files next : FileSystem} {path : FilePath}
    (hmake : files.makeDirectory path = .ok next) : files.Extends next := by
  unfold makeDirectory at hmake
  split at hmake
  · contradiction
  · rename_i place _
    split at hmake
    · contradiction
    · rename_i hnone
      cases hmake
      have hroot : place ≠ [] := by
        rintro rfl
        contradiction
      intro other
      by_cases hsame : other = place
      · subst hsame
        exact .inr ⟨hnone, files.node?_put_self _ hroot⟩
      · exact .inl (files.node?_put_of_ne _ hsame)

/-- One directory is made on the way along some names. -/
def MakesDirectory (names : List String) (files next : FileSystem) : Prop :=
  ∃ above, above <+: names ∧ files.makeDirectory ⟨above, false⟩ = .ok next

theorem extends_of_makesDirectory {names : List String} {files next : FileSystem}
    (hmake : MakesDirectory names files next) : files.Extends next := by
  obtain ⟨_, _, hmake⟩ := hmake
  exact extends_of_makeDirectory hmake

theorem extends_of_reflTransGen {names : List String} {files next : FileSystem}
    (hmake : Relation.ReflTransGen (MakesDirectory names) files next) : files.Extends next := by
  induction hmake with
  | refl => exact .refl files
  | tail _ hstep ih => exact ih.trans (extends_of_makesDirectory hstep)

theorem makesDirectory_ensureDirectory {names above : List String} (files : FileSystem)
    (habove : above <+: names) :
    Relation.ReflTransGen (MakesDirectory names) files
      (files.ensureDirectory ⟨above, false⟩).2 := by
  unfold ensureDirectory
  split
  · rename_i hmake
    exact .single ⟨above, habove, hmake⟩
  · split <;> exact .refl

/-- Directories are made one after the other. -/
theorem makesDirectory_ensureDirectories {names reversed : List String} (files : FileSystem)
    (hreversed : reversed.reverse <+: names) :
    Relation.ReflTransGen (MakesDirectory names) files
      (files.ensureDirectories reversed).2 := by
  induction reversed with
  | nil => exact .refl
  | cons name above ih =>
      have habove : above.reverse <+: names := by
        rw [List.reverse_cons] at hreversed
        exact (List.prefix_append _ _).trans hreversed
      have hfirst := ih habove
      simp only [ensureDirectories]
      split
      · split
        · rename_i hresult
          rw [hresult] at hfirst
          exact hfirst
        · rename_i hresult
          rw [hresult] at hfirst
          exact hfirst.trans (makesDirectory_ensureDirectory _ hreversed)
      · exact makesDirectory_ensureDirectory _ hreversed

/-- Directories that are made do not change what is found at a path, except that a path
that leads upwards may begin to lead to a file that was there before. -/
theorem Extends.found?_eq_or {files others : FileSystem} (hextends : files.Extends others)
    (htree : files.IsTree) (path : FilePath) :
    others.found? path = files.found? path ∨
      FilePath.up ∈ path.names ∧ files.found? path = none ∧
        ∃ place bytes, files.node? place = some (.file bytes) ∧
          others.found? path = some bytes := by
  cases hfound : others.found? path with
  | none =>
      left
      cases hbefore : files.found? path with
      | none => rfl
      | some bytes =>
          obtain ⟨place, hplace, hnode, hfile⟩ := found?_eq_some.mp hbefore
          have hstill := found?_eq_some.mpr
            ⟨place, hextends.keepsDirectories.locate hplace, hextends.node? hnode, hfile⟩
          exact hfound.symm.trans hstill
  | some bytes =>
      obtain ⟨place, hplace, hnode, hfile⟩ := found?_eq_some.mp hfound
      have hbefore := hextends.node?_file hnode
      cases hlocate : files.locate path with
      | ok other =>
          -- a path that led somewhere leads there still
          left
          obtain rfl : other = place :=
            Except.ok.inj ((hextends.keepsDirectories.locate hlocate).symm.trans hplace)
          exact (found?_eq_some.mpr ⟨other, hlocate, hbefore, hfile⟩).symm
      | error problem =>
          right
          refine ⟨?_, ?_, place, bytes, hbefore, rfl⟩
          · by_contra hup
            have hfollow := htree.follow hup (follow_of_locate hplace) hbefore
            unfold locate at hlocate hplace
            split at hplace
            · contradiction
            · rename_i hnul
              rw [if_neg hnul, hfollow] at hlocate
              contradiction
          · simp only [found?, read, hlocate]
            rfl

/-! ## States in the middle of steps -/

/-- The states that are seen in the middle of one step.  Directories are made one by one,
a file has any number of its bytes, and a move has not happened yet. -/
def Partway (files : FileSystem) : Step → FileSystem → Prop
  | .ensureDirectories path, state =>
      Relation.ReflTransGen (MakesDirectory path.names) files state
  | .write path bytes, state => ∃ count, files.write path (bytes.extract 0 count) = .ok state
  | .move _ _, state => state = files

/-- The states that are seen while steps are made one after the other. -/
inductive Midway : FileSystem → List Step → FileSystem → Prop
  | start {files : FileSystem} {steps : List Step} : Midway files steps files
  | partway {files state : FileSystem} {step : Step} {rest : List Step}
      (hstate : Partway files step state) : Midway files (step :: rest) state
  | next {files changed state : FileSystem} {step : Step} {rest : List Step}
      (hstep : files.apply step = (.ok (), changed)) (hstate : Midway changed rest state) :
      Midway files (step :: rest) state

theorem partway_ensureDirectories (files : FileSystem) (path : FilePath) :
    Partway files (.ensureDirectories path) (files.ensureDirectories path.names.reverse).2 := by
  have hreversed : path.names.reverse.reverse <+: path.names := by rw [List.reverse_reverse]
  exact makesDirectory_ensureDirectories files hreversed

theorem midway_of_error {files state : FileSystem} {step : Step} {problem : IoProblem}
    (hstep : files.apply step = (.error problem, state)) (rest : List Step) :
    Midway files (step :: rest) state := by
  cases step with
  | ensureDirectories path =>
      simp only [apply] at hstep
      split at hstep
      · cases hstep
        exact .start
      · have hmade := files.partway_ensureDirectories path
        rw [hstep] at hmade
        exact .partway hmade
  | write path bytes =>
      obtain ⟨_, rfl⟩ := orUnchanged_eq_error hstep
      exact .start
  | move source target =>
      obtain ⟨_, rfl⟩ := orUnchanged_eq_error hstep
      exact .start

/-- Where the steps end is one of the states that are seen. -/
theorem midway_applyAll (files : FileSystem) (steps : List Step) :
    Midway files steps (files.applyAll steps).2 := by
  induction steps generalizing files with
  | nil => exact .start
  | cons step rest ih =>
      rw [applyAll]
      split
      · rename_i hstep
        exact midway_of_error hstep rest
      · rename_i changed hstep
        exact .next hstep (ih changed)

/-- Making directories only adds directories, also if it fails halfway. -/
theorem extends_apply (files : FileSystem) (path : FilePath) :
    files.Extends (files.apply (.ensureDirectories path)).2 := by
  simp only [apply]
  split
  · exact .refl files
  · exact extends_of_reflTransGen (files.partway_ensureDirectories path)

theorem extends_of_apply {files changed : FileSystem} {path : FilePath}
    {result : Except IoProblem Unit}
    (hstep : files.apply (.ensureDirectories path) = (result, changed)) :
    files.Extends changed := by
  have hextends := files.extends_apply path
  rwa [hstep] at hextends

/-- While a file is moved to a path, what is found there is what was there or the moved
file. -/
theorem Midway.found?_of_move {files state : FileSystem} {source target : FilePath}
    {place : List String} {bytes : ByteArray} (hstate : Midway files [.move source target] state)
    (hlocate : files.locate source = .ok place)
    (hnode : files.node? place = some (.file bytes)) :
    state.found? target = files.found? target ∨ state.found? target = some bytes := by
  cases hstate with
  | start => exact .inl rfl
  | partway hstate =>
      obtain rfl : state = files := hstate
      exact .inl rfl
  | next hstep hstate =>
      cases hstate
      have hread := read_of_move hlocate hnode (orUnchanged_eq_ok hstep)
      exact .inr (congrArg Except.toOption hread)

/-- While a file is replaced through its temporary file, what is found at its path is what
was there or the new file. -/
theorem Midway.found?_of_replace {files state : FileSystem} {path : FilePath}
    {bytes : ByteArray} (hname : ¬ path.HasTemporaryName)
    (hstate : Midway files [.write path.temporary bytes, .move path.temporary path] state) :
    state.found? path = files.found? path ∨ state.found? path = some bytes := by
  cases hstate with
  | start => exact .inl rfl
  | partway hstate =>
      obtain ⟨count, hwrite⟩ := hstate
      exact .inl (found?_write_temporary hname hwrite)
  | next hstep hstate =>
      have hwrite := orUnchanged_eq_ok hstep
      obtain ⟨place, hlocate, hdirectory, rfl⟩ := write_eq_ok hwrite
      rw [← found?_write_temporary hname hwrite]
      exact hstate.found?_of_move ((keepsDirectories_put bytes hdirectory).locate hlocate)
        (node?_put_self _ _ (ne_nil_of_node? hdirectory))

end FileSystem

/-! ## The store -/

namespace FileStore

open FileSystem (Midway)

/-- **No part of a file is ever found.**  Wherever a write is cut off, the path of the store
leads to the old file or to none if there was none, or to the whole new file.  Only a path
that leads upwards, and led to no file so far, may lead to another file that has been there
all the time, once the directories that it leads through are made. -/
theorem found?_of_cut {path : FilePath} (hname : ¬ path.HasTemporaryName) {files : FileSystem}
    (htree : files.IsTree) {entries : Entries} (hread : readEntries path files = .ok entries)
    (key value : String) :
    Midway files (steps path (entries.insert key value)) (set path files key value).2 ∧
      ((set path files key value).1 = .ok () →
        (set path files key value).2.found? path =
          some (entries.insert key value).toText.toUTF8) ∧
      ∀ state, Midway files (steps path (entries.insert key value)) state →
        state.found? path = files.found? path ∨
          state.found? path = some (entries.insert key value).toText.toUTF8 ∨
          FilePath.up ∈ path.names ∧ files.found? path = none ∧
            ∃ place bytes, files.node? place = some (.file bytes) ∧
              state.found? path = some bytes := by
  rw [set_of_readEntries hread]
  refine ⟨FileSystem.midway_applyAll _ _, ?_, ?_⟩
  · intro hresult
    cases happly : files.applyAll (steps path (entries.insert key value)) with
    | mk result next =>
        cases result with
        | error problem => simp [happly, Except.mapError] at hresult
        | ok _ => exact congrArg Except.toOption (read_of_steps happly)
  · intro state hstate
    cases hstate with
    | start => exact .inl rfl
    | partway hstate =>
        have hmade := FileSystem.extends_of_reflTransGen hstate
        exact (hmade.found?_eq_or htree path).imp_right .inr
    | next hstep hstate =>
        have hmade := FileSystem.extends_of_apply hstep
        rcases hstate.found?_of_replace hname with hold | hnew
        · rw [hold]
          exact (hmade.found?_eq_or htree path).imp_right .inr
        · exact .inr (.inl hnew)

/-- One byte of the temporary file is written, and the old file is what is found. -/
theorem found?_after_one_byte :
    let old := (Entries.empty.insert "k" "old").toText.toUTF8
    let files : FileSystem := ⟨[(["data"], .directory), (["data", "storage.json"], .file old)]⟩
    let path : FilePath := ⟨["data", "storage.json"], false⟩
    let state : FileSystem := ⟨files.nodes ++ [(["data", "storage.tmp"], .file "\x7b".toUTF8)]⟩
    readEntries path files = .ok (Entries.empty.insert "k" "old") ∧
      Midway files (steps path ((Entries.empty.insert "k" "old").insert "k" "new")) state ∧
        state.found? path = some old := by
  intro old files path state
  have hname : ¬ path.HasTemporaryName := by
    rintro ⟨above, front, _, hnames⟩
    have hlast := congrArg (fun names => names.getLast?.map fun name => name.toList.reverse) hnames
    simp [path] at hlast
  have htree : files.IsTree := FileSystem.isTree_of_nodes (by decide)
  have hread : readEntries path files = .ok (Entries.empty.insert "k" "old") :=
    entriesOfBytes_toText _
  have hstate : Midway files (steps path ((Entries.empty.insert "k" "old").insert "k" "new"))
      state := .next rfl (.partway ⟨1, rfl⟩)
  refine ⟨hread, hstate, ?_⟩
  obtain ⟨_, _, hshown⟩ := found?_of_cut hname htree hread "k" "new"
  rcases hshown state hstate with hold | hnew | ⟨hup, _⟩
  · exact hold
  · exact absurd hnew (by decide)
  · exact absurd hup (by decide)

/-- At every moment of a write what is found at the path is the old file or the new one. -/
def ShowsOldOrNew (path : FilePath) (files : FileSystem) (entries : Entries) : Prop :=
  ∀ state, Midway files (steps path entries) state →
    state.found? path = files.found? path ∨ state.found? path = some entries.toText.toUTF8

/-- Neither condition on the path can be dropped.  Where `d` is missing, the path
`d/../storage.json` leads to no file, and to another one as soon as `d` is made.  And a
store that is called `storage.tmp` is its own temporary file, so a reader may find the part
of it that is written so far. -/
theorem not_showsOldOrNew :
    let files : FileSystem :=
      ⟨[(["storage.json"], .file "\x7b\"k\":\"old\"\x7d".toUTF8), (["storage.tmp"], .directory)]⟩
    (files.IsTree ∧ readEntries ⟨["d", "..", "storage.json"], false⟩ files = .ok .empty ∧
        ¬ ShowsOldOrNew ⟨["d", "..", "storage.json"], false⟩ files
          (Entries.empty.insert "k" "new")) ∧
      readEntries ⟨["storage.tmp"], false⟩ .empty = .ok .empty ∧
        ¬ ShowsOldOrNew ⟨["storage.tmp"], false⟩ .empty (Entries.empty.insert "k" "new") := by
  intro files
  refine ⟨⟨FileSystem.isTree_of_nodes (by decide), rfl, fun hshown => ?_⟩, rfl,
    fun hshown => ?_⟩
  · -- the write fails because its temporary file is a directory, but `d` has been made
    have hstate := FileSystem.midway_applyAll files
      (steps ⟨["d", "..", "storage.json"], false⟩ (Entries.empty.insert "k" "new"))
    rcases hshown _ hstate with hold | hnew
    · exact absurd hold (by decide)
    · exact absurd hnew (by decide)
  · have hstate : Midway .empty
        (steps ⟨["storage.tmp"], false⟩ (Entries.empty.insert "k" "new"))
        ⟨[(["storage.tmp"], .file "\x7b".toUTF8)]⟩ := .next rfl (.partway ⟨1, rfl⟩)
    rcases hshown _ hstate with hold | hnew
    · exact absurd hold (by decide)
    · exact absurd hnew (by decide)

end FileStore

end ResultBoards
