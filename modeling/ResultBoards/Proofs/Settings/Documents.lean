import ResultBoards.Proofs.Settings.Reading
import ResultBoards.Settings.Sources

/-!
# What the tree of a file says

A file is laid over nothing, key by key.  If its keys are plain names this is the same as
laying the whole document over nothing (`Settings.tree_eq_ofDocument`), and the tree says
about a setting what the document says in the member of that name
(`Setting.valueOf_ofDocument`).

In a document names may come twice.  `Setting.ofMembers` drops all members of a name but
the last, so each name is among the entries of a setting once, which is what laying entries
over others asks for (`Setting.lookup_overlayEntries`).
-/

namespace ResultBoards

namespace Setting

/-! ## Entries -/

section Entries

variable {name other : String} {change : Setting → Setting}

theorem lookup_eq_none_iff_not_mem {β : Type} {entries : List (String × β)} :
    entries.lookup name = none ↔ name ∉ entries.map Prod.fst := by
  rw [List.lookup_eq_none_iff]
  constructor
  · intro hdifferent hmember
    obtain ⟨entry, hthere, rfl⟩ := List.mem_map.mp hmember
    exact absurd (hdifferent entry hthere) (by simp)
  · intro hmissing entry hmember
    have hdifferent : name ≠ entry.1 := by
      intro hsame
      rw [hsame] at hmissing
      exact hmissing (List.mem_map_of_mem hmember)
    simpa using hdifferent

theorem lookup_updateEntry_self (entries : List (String × Setting)) :
    (updateEntry name change entries).lookup name =
      some (change ((entries.lookup name).getD nothing)) := by
  induction entries with
  | nil => simp [updateEntry]
  | cons entry rest ih =>
      obtain ⟨first, setting⟩ := entry
      by_cases hfound : first = name
      · simp [updateEntry, hfound]
      · have hpassed : (name == first) = false := by simpa using Ne.symm hfound
        simp [updateEntry, hfound, List.lookup_cons, hpassed, ih]

theorem lookup_updateEntry_other (hdifferent : other ≠ name) (entries : List (String × Setting)) :
    (updateEntry name change entries).lookup other = entries.lookup other := by
  have hpassed : (other == name) = false := by simpa using hdifferent
  induction entries with
  | nil => simp [updateEntry, List.lookup_cons, hpassed]
  | cons entry rest ih =>
      obtain ⟨first, setting⟩ := entry
      by_cases hfound : first = name
      · simp [updateEntry, hfound, List.lookup_cons, hpassed]
      · simp [updateEntry, hfound, List.lookup_cons, ih]

end Entries

/-- Entries laid over others: each is laid over the entry of its name. -/
theorem lookup_overlayEntries {above : List (String × Setting)}
    (hnodup : (above.map Prod.fst).Nodup) (below : List (String × Setting)) (name : String) :
    (overlayEntries below above).lookup name =
      match above.lookup name with
      | none => below.lookup name
      | some setting => some (overlay ((below.lookup name).getD nothing) setting) := by
  induction above generalizing below with
  | nil => rfl
  | cons entry above ih =>
      obtain ⟨first, setting⟩ := entry
      obtain ⟨hunrepeated, hnodup⟩ := List.nodup_cons.mp hnodup
      rw [overlayEntries, ih hnodup]
      by_cases hfound : name = first
      · subst hfound
        rw [lookup_eq_none_iff_not_mem.mpr hunrepeated]
        simp [lookup_updateEntry_self]
      · have hpassed : (name == first) = false := by simpa using hfound
        rw [lookup_updateEntry_other hfound]
        simp [List.lookup_cons, hpassed]

/-! ## Documents -/

section Documents

variable {origin : String} {members : List (String × Json.Value)}

theorem mem_of_mem_ofMembers {entry : String × Setting}
    (hmember : entry ∈ ofMembers origin members) : entry.1 ∈ members.map Prod.fst := by
  induction members with
  | nil => cases hmember
  | cons first rest ih =>
      obtain ⟨name, value⟩ := first
      unfold ofMembers at hmember
      split at hmember
      · exact List.mem_cons_of_mem _ (ih hmember)
      · rcases List.mem_cons.mp hmember with rfl | hmember
        · exact List.mem_cons_self
        · exact List.mem_cons_of_mem _ (ih hmember)

theorem nodup_ofMembers (origin : String) (members : List (String × Json.Value)) :
    ((ofMembers origin members).map Prod.fst).Nodup := by
  induction members with
  | nil => exact List.nodup_nil
  | cons first rest ih =>
      obtain ⟨name, value⟩ := first
      unfold ofMembers
      split
      · exact ih
      · rename_i hunrepeated
        refine List.nodup_cons.mpr ⟨fun hrepeated => hunrepeated ?_, ih⟩
        obtain ⟨entry, hmember, rfl⟩ := List.mem_map.mp hrepeated
        obtain ⟨other, hmember, hsame⟩ := List.mem_map.mp (mem_of_mem_ofMembers hmember)
        exact List.any_eq_true.mpr ⟨other, hmember, by simpa using hsame⟩

/-- Of the members with one name the last counts. -/
theorem lookup_ofMembers (origin : String) (members : List (String × Json.Value))
    (name : String) :
    (ofMembers origin members).lookup name =
      (members.reverse.lookup name).map (ofValue origin) := by
  induction members with
  | nil => rfl
  | cons first rest ih =>
      obtain ⟨other, value⟩ := first
      have hrepeated_iff : (rest.any fun member => member.1 = other) ↔
          rest.reverse.lookup other ≠ none := by
        rw [ne_eq, lookup_eq_none_iff_not_mem, not_not, List.map_reverse, List.mem_reverse]
        simp
      rw [List.reverse_cons, List.lookup_append]
      unfold ofMembers
      by_cases hfound : name = other
      · subst hfound
        split
        · rename_i hrepeated
          obtain ⟨last, hthere⟩ := Option.ne_none_iff_exists'.mp (hrepeated_iff.mp hrepeated)
          rw [ih, hthere]
          rfl
        · rename_i hunrepeated
          have hmissing := not_not.mp (mt hrepeated_iff.mpr hunrepeated)
          rw [hmissing]
          simp
      · have hpassed : (name == other) = false := by simpa using hfound
        split <;> simp [List.lookup_cons, hpassed, ih]

end Documents

end Setting

/-- The member of a document, if it is an object with a member of that name. -/
def Json.Value.member? : Json.Value → String → Option Json.Value
  | .object members, name => members.reverse.lookup name
  | _, _ => none

/-- What a document says about a setting. -/
def Json.Value.settingAt (document : Json.Value) (name : SettingName) : Option Json.Value :=
  (document.member? name.sectionName).bind fun part => part.member? name.fieldName

namespace Setting

/-! ## Documents laid over nothing -/

/-- The tree of a document alone. -/
def ofDocument (origin : String) (document : Json.Value) : Setting :=
  nothing.overlay (ofValue origin document)

variable {origin : String}

theorem lookup_entries_ofDocument (origin : String) (document : Json.Value) (name : String) :
    (ofDocument origin document).entries.lookup name =
      (document.member? name).map (ofDocument origin) := by
  cases document with
  | object members =>
      show (overlayEntries [] (ofMembers origin members)).lookup name = _
      rw [lookup_overlayEntries (nodup_ofMembers origin members), lookup_ofMembers]
      show _ = (members.reverse.lookup name).map _
      cases members.reverse.lookup name <;> rfl
  | _ => rfl

theorem valueOf_ofDocument (origin : String) (document : Json.Value) (name : SettingName) :
    (ofDocument origin document).valueOf name =
      (document.settingAt name).map (ofDocument origin) := by
  unfold valueOf sectionEntries Json.Value.settingAt
  rw [lookup_entries_ofDocument]
  cases document.member? name.sectionName with
  | none => rfl
  | some part => exact lookup_entries_ofDocument origin part name.fieldName

/-- Keys that are plain names are entries. -/
theorem addSource_table {source : List (String × Setting)}
    (hplain : ∀ key ∈ source.map Prod.fst, pathOfKey key = [.key key])
    (origin : Option String) (entries : List (String × Setting)) :
    (Setting.table origin entries).addSource source =
      .table origin (overlayEntries entries source) := by
  induction source generalizing entries with
  | nil => rfl
  | cons entry source ih =>
      obtain ⟨key, setting⟩ := entry
      obtain ⟨hfirst, hplain⟩ := List.forall_mem_cons.mp hplain
      show (((Setting.table origin entries).setKey key setting).addSource source) = _
      unfold setKey
      rw [hfirst]
      exact ih hplain _

end Setting

namespace Settings

/-- The tree of a file whose keys are plain names is the tree of its document. -/
theorem tree_eq_ofDocument {texts : String → Option String} {file : SettingsFile}
    {members : List (String × Json.Value)} (hfound : SettingsFile.find? texts = some file)
    (hread : file.format.read? (SettingsFile.unmarked file.text) = some (.object members))
    (hplain : ∀ key ∈ members.map Prod.fst, Setting.pathOfKey key = [.key key]) :
    tree texts [] = .ok (Setting.ofDocument file.path (.object members)) := by
  have hsource : file.source? = some (Setting.ofMembers file.path members) := by
    unfold SettingsFile.source?
    rw [hread]
  have hkeys : ∀ key ∈ (Setting.ofMembers file.path members).map Prod.fst,
      Setting.pathOfKey key = [.key key] := by
    intro key hmember
    obtain ⟨entry, hthere, rfl⟩ := List.mem_map.mp hmember
    exact hplain entry.1 (Setting.mem_of_mem_ofMembers hthere)
  calc tree texts []
      = .ok (Setting.empty.addSource (Setting.ofMembers file.path members)) := by
        unfold tree
        rw [hfound]
        simp only [hsource]
        rfl
    _ = .ok (Setting.ofDocument file.path (.object members)) := by
        unfold Setting.empty
        rw [Setting.addSource_table hkeys]
        rfl

end Settings

end ResultBoards
