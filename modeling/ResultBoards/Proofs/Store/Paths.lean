import Mathlib.Data.List.Basic
import Mathlib.Data.List.Induction
import ResultBoards.Proofs.Store.Files

/-!
# Where paths lead

A path is followed name by name through directories, and `..` goes back up.  This file is
about the places that are reached in this way: the ones on the way are directories, names
that do not lead upwards add up to the place, and in a tree such a place can only be there
if all directories on the way are.

The temporary file of a store stands next to the store under another name, unless the name
of the store already ends in `.tmp`.  So what is written to the temporary file is never
what the path of the store leads to (`found?_write_temporary`).
-/

namespace ResultBoards

/-! ## Names of temporary files -/

namespace FilePath

/-- The last name of the path is one that temporary files have: it ends in `.tmp`, with
something in front. -/
def HasTemporaryName (path : FilePath) : Prop :=
  ∃ above front, front ≠ "" ∧ path.names = above ++ [front ++ ".tmp"]

theorem stem_ne_nil {name : List Char} (hname : name ≠ []) : stem name ≠ [] := by
  simp only [stem]
  split
  · exact hname
  · rename_i hbefore
    rw [not_or, List.isEmpty_iff] at hbefore
    exact hbefore.2

theorem temporary_concat {above : List String} {last : String} {meansDirectory : Bool}
    (hlast : last ≠ up) (hempty : last ≠ "") :
    temporary ⟨above ++ [last], meansDirectory⟩ =
      ⟨above ++ [String.ofList (stem last.toList) ++ ".tmp"], false⟩ := by
  have hname : String.ofList (stem last.toList ++ ".tmp".toList) =
      String.ofList (stem last.toList) ++ ".tmp" := by
    rw [String.ofList_append, String.ofList_toList]
  simp only [temporary, List.getLast?_concat, if_neg (not_or.mpr ⟨hlast, hempty⟩),
    List.dropLast_concat, hname]

theorem temporary_of_not_file {above : List String} {last : String} {meansDirectory : Bool}
    (hlast : last = up ∨ last = "") :
    temporary ⟨above ++ [last], meansDirectory⟩ = ⟨above ++ [last], meansDirectory⟩ := by
  simp only [temporary, List.getLast?_concat, if_pos hlast]

/-- The temporary file has another name than the store, unless this is a temporary name
itself. -/
theorem stem_append_ne {above : List String} {last : String} {meansDirectory : Bool}
    (hname : ¬ HasTemporaryName ⟨above ++ [last], meansDirectory⟩) :
    String.ofList (stem last.toList) ++ ".tmp" ≠ last := by
  intro hsame
  have hlast : last.toList ≠ [] := by
    intro hnil
    have hchars := congrArg String.toList hsame
    rw [hnil, String.toList_append] at hchars
    exact absurd (List.append_eq_nil_iff.mp hchars).2 (by decide)
  have hfront : String.ofList (stem last.toList) ≠ "" := by
    intro hempty
    have hchars := congrArg String.toList hempty
    rw [String.toList_ofList] at hchars
    exact stem_ne_nil hlast hchars
  exact hname ⟨above, _, hfront, by rw [hsame]⟩

theorem append_tmp_ne_up (front : String) : front ++ ".tmp" ≠ up := by
  intro hsame
  have hlength := congrArg String.length hsame
  rw [String.length_append] at hlength
  have htmp : ".tmp".length = 4 := rfl
  have hup : up.length = 2 := rfl
  omega

end FilePath

namespace FileSystem

/-! ## What is found at a path -/

/-- The bytes of the file that a path leads to, if there is one. -/
def found? (files : FileSystem) (path : FilePath) : Option ByteArray :=
  (files.read path).toOption

theorem found?_eq_some {files : FileSystem} {path : FilePath} {bytes : ByteArray} :
    files.found? path = some bytes ↔ ∃ place, files.locate path = .ok place ∧
      files.node? place = some (.file bytes) ∧ path.meansDirectory = false := by
  constructor
  · intro hfound
    simp only [found?, read] at hfound
    cases hlocate : files.locate path with
    | error problem => simp [hlocate, Except.toOption] at hfound
    | ok place =>
        simp only [hlocate] at hfound
        refine ⟨place, rfl, ?_⟩
        split at hfound
        · contradiction
        · contradiction
        · rename_i hnode
          split at hfound
          · contradiction
          · rename_i hfile
            cases hfound
            exact ⟨hnode, by simpa using hfile⟩
  · rintro ⟨place, hlocate, hnode, hfile⟩
    rw [found?, read_of_locate hlocate hnode hfile]
    rfl

/-- What is found depends on where the path leads and on what stands there. -/
theorem found?_congr {files others : FileSystem} {path : FilePath}
    (hlocate : ∀ place, files.locate path = .ok place ↔ others.locate path = .ok place)
    (hnode : ∀ place, files.locate path = .ok place → files.node? place = others.node? place) :
    files.found? path = others.found? path := by
  refine Option.ext fun bytes => ?_
  rw [found?_eq_some, found?_eq_some]
  constructor
  · rintro ⟨place, hplace, hfile, hmeans⟩
    exact ⟨place, (hlocate place).mp hplace, hnode place hplace ▸ hfile, hmeans⟩
  · rintro ⟨place, hplace, hfile, hmeans⟩
    have hhere := (hlocate place).mpr hplace
    exact ⟨place, hhere, (hnode place hhere).symm ▸ hfile, hmeans⟩

/-! ## Following names -/

theorem follow_of_locate {files : FileSystem} {path : FilePath} {place : List String}
    (hlocate : files.locate path = .ok place) : files.follow [] path.names = .ok place := by
  unfold locate at hlocate
  split at hlocate
  · contradiction
  · exact hlocate

theorem follow_cons_eq_ok {files : FileSystem} {place names target : List String} {name : String}
    (hfollow : files.follow place (name :: names) = .ok target) :
    files.node? place = some .directory ∧
      (name = FilePath.up ∧ files.follow place.dropLast names = .ok target ∨
        name ≠ FilePath.up ∧ nameProblem? name = none ∧
          files.follow (place ++ [name]) names = .ok target) := by
  rw [follow] at hfollow
  split at hfollow
  · contradiction
  · contradiction
  · rename_i hdirectory
    refine ⟨hdirectory, ?_⟩
    split at hfollow
    · rename_i hup
      exact .inl ⟨hup, hfollow⟩
    · rename_i hup
      split at hfollow
      · contradiction
      · rename_i hallowed
        exact .inr ⟨hup, hallowed, hfollow⟩

/-- Nothing has the empty name. -/
theorem ne_empty_of_follow {files : FileSystem} {place names target : List String} {name : String}
    (hfollow : files.follow place (name :: names) = .ok target) : name ≠ "" := by
  rintro rfl
  obtain ⟨_, ⟨hup, _⟩ | ⟨_, hallowed, _⟩⟩ := follow_cons_eq_ok hfollow
  · exact absurd hup (by decide)
  · exact absurd hallowed (by simp [nameProblem?])

theorem follow_append_eq_ok {files : FileSystem} {place front back target : List String}
    (hfollow : files.follow place (front ++ back) = .ok target) :
    ∃ middle, files.follow place front = .ok middle ∧ files.follow middle back = .ok target := by
  induction front generalizing place with
  | nil => exact ⟨place, rfl, hfollow⟩
  | cons name front ih =>
      rw [List.cons_append] at hfollow
      obtain ⟨hdirectory, ⟨hup, hrest⟩ | ⟨hup, hallowed, hrest⟩⟩ := follow_cons_eq_ok hfollow
      · obtain ⟨middle, hfront, hback⟩ := ih hrest
        refine ⟨middle, ?_, hback⟩
        rw [follow, hdirectory]
        simp only [if_pos hup, hfront]
      · obtain ⟨middle, hfront, hback⟩ := ih hrest
        refine ⟨middle, ?_, hback⟩
        rw [follow, hdirectory]
        simp only [if_neg hup, hallowed, hfront]

/-- All names in front of the last one of a place belong to directories. -/
def IsReached (files : FileSystem) (place : List String) : Prop :=
  ∀ above name below, place = above ++ name :: below → files.node? above = some .directory

theorem isReached_nil (files : FileSystem) : files.IsReached [] := by
  intro above name below hplace
  exact absurd hplace.symm (by simp)

theorem IsReached.dropLast {files : FileSystem} {place : List String}
    (hreached : files.IsReached place) : files.IsReached place.dropLast := by
  intro above name below hplace
  rcases List.eq_nil_or_concat' place with rfl | ⟨front, last, rfl⟩
  · exact absurd hplace.symm (by simp)
  · rw [List.dropLast_concat] at hplace
    exact hreached above name (below ++ [last]) (by rw [hplace]; simp)

theorem IsReached.concat {files : FileSystem} {place : List String}
    (hreached : files.IsReached place) (hdirectory : files.node? place = some .directory)
    (name : String) : files.IsReached (place ++ [name]) := by
  intro above other below hplace
  rcases List.eq_nil_or_concat' below with rfl | ⟨front, last, rfl⟩
  · obtain ⟨rfl, _⟩ := List.append_inj' hplace rfl
    exact hdirectory
  · rw [← List.cons_append, ← List.append_assoc] at hplace
    obtain ⟨hplace, _⟩ := List.append_inj' hplace rfl
    exact hreached above other front hplace

theorem IsReached.follow {files : FileSystem} {place names target : List String}
    (hreached : files.IsReached place) (hfollow : files.follow place names = .ok target) :
    files.IsReached target := by
  induction names generalizing place with
  | nil =>
      cases hfollow
      exact hreached
  | cons name names ih =>
      obtain ⟨hdirectory, ⟨_, hrest⟩ | ⟨_, _, hrest⟩⟩ := follow_cons_eq_ok hfollow
      · exact ih hreached.dropLast hrest
      · exact ih (hreached.concat hdirectory name) hrest

/-- The place above one that was reached is a directory. -/
theorem IsReached.node?_dropLast {files : FileSystem} {place : List String}
    (hreached : files.IsReached place) : files.node? place.dropLast = some .directory := by
  rcases List.eq_nil_or_concat' place with rfl | ⟨front, last, rfl⟩
  · rfl
  · rw [List.dropLast_concat]
    exact hreached front last [] rfl

/-- Names that do not lead upwards are put behind the place. -/
theorem eq_append_of_follow {files : FileSystem} {place names target : List String}
    (hup : FilePath.up ∉ names) (hfollow : files.follow place names = .ok target) :
    target = place ++ names := by
  induction names generalizing place with
  | nil =>
      cases hfollow
      exact (List.append_nil _).symm
  | cons name names ih =>
      obtain ⟨hname, hnames⟩ := not_or.mp (List.mem_cons.not.mp hup)
      obtain ⟨_, ⟨hsame, _⟩ | ⟨_, _, hrest⟩⟩ := follow_cons_eq_ok hfollow
      · exact absurd hsame.symm hname
      · rw [ih hnames hrest, List.append_assoc, List.singleton_append]

/-! ## The temporary file is another file -/

/-- The path of a store and that of its temporary file lead to different places, as long
as the temporary file is not a directory. -/
theorem locate_ne_locate_temporary {files : FileSystem} {path : FilePath}
    (hname : ¬ path.HasTemporaryName) {place beside : List String}
    (hplace : files.locate path = .ok place) (hbeside : files.locate path.temporary = .ok beside)
    (hfile : files.node? beside ≠ some .directory) : place ≠ beside := by
  obtain ⟨names, meansDirectory⟩ := path
  have hplace := follow_of_locate hplace
  have hbeside := follow_of_locate hbeside
  rcases List.eq_nil_or_concat' names with rfl | ⟨above, last, rfl⟩
  · -- the root is a directory
    cases hbeside
    exact absurd rfl hfile
  · by_cases hup : last = FilePath.up
    · -- and so is what stands above a directory
      subst hup
      rw [FilePath.temporary_of_not_file (.inl rfl)] at hbeside
      obtain ⟨middle, habove, hlast⟩ := follow_append_eq_ok hbeside
      obtain ⟨_, ⟨_, hrest⟩ | ⟨hother, _⟩⟩ := follow_cons_eq_ok hlast
      · cases hrest
        exact absurd ((files.isReached_nil.follow habove).node?_dropLast) hfile
      · exact absurd rfl hother
    · obtain ⟨middle, habove, hlast⟩ := follow_append_eq_ok hplace
      rw [FilePath.temporary_concat hup (ne_empty_of_follow hlast)] at hbeside
      obtain ⟨other, hother, htemporary⟩ := follow_append_eq_ok hbeside
      obtain rfl : middle = other := Except.ok.inj (habove.symm.trans hother)
      obtain rfl := eq_append_of_follow (by simpa using Ne.symm hup) hlast
      obtain rfl := eq_append_of_follow
        (by simpa using (FilePath.append_tmp_ne_up _).symm) htemporary
      intro hsame
      have hlasts := List.append_cancel_left hsame
      exact FilePath.stem_append_ne hname (List.singleton_inj.mp hlasts).symm

/-- A file that is put where a path does not lead is not found there. -/
theorem found?_put_of_ne {files : FileSystem} {path : FilePath} {beside : List String}
    (bytes : ByteArray) (hfile : files.node? beside ≠ some .directory)
    (hne : ∀ place, files.locate path = .ok place → place ≠ beside) :
    (files.put beside (.file bytes)).found? path = files.found? path := by
  have hforth : files.KeepsDirectories (files.put beside (.file bytes)) :=
    keepsDirectories_put bytes hfile
  have hback : (files.put beside (.file bytes)).KeepsDirectories files :=
    keepsDirectories_of_put bytes (ne_nil_of_node? hfile)
  symm
  refine found?_congr (fun place => ⟨hforth.locate, hback.locate⟩) fun place hplace => ?_
  rw [files.node?_put_of_ne _ (hne place hplace)]

/-- Writing to the temporary file does not change what is found at the path. -/
theorem found?_write_temporary {files next : FileSystem} {path : FilePath}
    (hname : ¬ path.HasTemporaryName) {bytes : ByteArray}
    (hwrite : files.write path.temporary bytes = .ok next) :
    next.found? path = files.found? path := by
  obtain ⟨beside, hbeside, hfile, rfl⟩ := write_eq_ok hwrite
  exact found?_put_of_ne bytes hfile fun place hplace =>
    locate_ne_locate_temporary hname hplace hbeside hfile

/-! ## Trees -/

/-- Whatever has a name stands in a directory. -/
def IsTree (files : FileSystem) : Prop :=
  ∀ ⦃above name node⦄, files.node? (above ++ [name]) = some node →
    files.node? above = some .directory

theorem IsTree.node?_above {files : FileSystem} (htree : files.IsTree) {above below : List String}
    {node : Node} (hbelow : below ≠ []) (hnode : files.node? (above ++ below) = some node) :
    files.node? above = some .directory := by
  induction below using List.reverseRecOn generalizing node with
  | nil => exact absurd rfl hbelow
  | append_singleton front last ih =>
      rw [← List.append_assoc] at hnode
      have hfront := htree hnode
      cases front with
      | nil => rwa [List.append_nil] at hfront
      | cons name front => exact ih (by simp) hfront

theorem isTree_of_nodes {files : FileSystem}
    (hnodes : ∀ entry ∈ files.nodes, files.node? entry.1.dropLast = some .directory) :
    files.IsTree := by
  intro above name node hnode
  have hlookup : files.nodes.lookup (above ++ [name]) = some node := by
    simpa [node?] using hnode
  obtain ⟨front, back, hentries, _⟩ := List.lookup_eq_some_iff.mp hlookup
  have hentry : (above ++ [name], node) ∈ files.nodes := by simp [hentries]
  simpa using hnodes _ hentry

/-- In a tree the directories on the way to a node that exists need not be made. -/
theorem IsTree.follow {files others : FileSystem} (htree : files.IsTree)
    {place names target : List String} {node : Node} (hup : FilePath.up ∉ names)
    (hfollow : others.follow place names = .ok target) (hnode : files.node? target = some node) :
    files.follow place names = .ok target := by
  have htarget := eq_append_of_follow hup hfollow
  induction names generalizing place with
  | nil => exact hfollow
  | cons name names ih =>
      obtain ⟨hname, hnames⟩ := not_or.mp (List.mem_cons.not.mp hup)
      obtain ⟨_, ⟨hsame, _⟩ | ⟨_, hallowed, hrest⟩⟩ := follow_cons_eq_ok hfollow
      · exact absurd hsame.symm hname
      · have hdirectory : files.node? place = some .directory :=
          htree.node?_above (by simp) (htarget ▸ hnode)
        rw [FileSystem.follow, hdirectory]
        simp only [if_neg (Ne.symm hname), hallowed]
        exact ih hnames hrest (by rw [htarget, List.append_assoc, List.singleton_append])

end FileSystem

end ResultBoards
