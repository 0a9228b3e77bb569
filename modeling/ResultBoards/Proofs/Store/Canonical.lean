import Mathlib.Data.List.Nodup
import ResultBoards.Proofs.Store.Collection

/-!
# Canonical texts

A store that was only ever written by this library holds nothing or the text of a tidy
collection, in which no id comes twice and no widget has metadata.  Saving and removing
keep a collection tidy: saving finds the one place where the id is, or the end where it
is nowhere.
-/

namespace ResultBoards.Collection

/-- No id comes twice and no widget has metadata. -/
structure IsTidy (collection : Collection) : Prop where
  nodup_ids : (collection.map Dashboard.id).Nodup
  isStripped : collection.IsStripped

theorem isTidy_nil : IsTidy [] :=
  ⟨List.nodup_nil, fun _ hdashboard => nomatch hdashboard⟩

/-- A dashboard is put in the place of the first with its id, or at the end if there is
none. -/
theorem exists_put (dashboard : Dashboard) (collection : Collection) :
    (∃ front old back, collection = front ++ old :: back ∧ old.id = dashboard.id ∧
        dashboard.id ∉ front.map Dashboard.id ∧
          collection.put dashboard = front ++ dashboard :: back) ∨
      dashboard.id ∉ collection.map Dashboard.id ∧
        collection.put dashboard = collection ++ [dashboard] := by
  induction collection with
  | nil => exact .inr ⟨by simp, rfl⟩
  | cons first rest ih =>
      rw [put]
      by_cases hid : first.id = dashboard.id
      · rw [if_pos hid]
        exact .inl ⟨[], first, rest, rfl, hid, by simp, rfl⟩
      · rw [if_neg hid]
        rcases ih with ⟨front, old, back, rfl, hold, hfront, hput⟩ | ⟨hmissing, hput⟩
        · refine .inl ⟨first :: front, old, back, rfl, hold, ?_, by rw [hput]; rfl⟩
          simp [Ne.symm hid, hfront]
        · refine .inr ⟨?_, by rw [hput]; rfl⟩
          simp [Ne.symm hid, hmissing]

theorem put_of_missing {dashboard : Dashboard} {collection : Collection}
    (hmissing : dashboard.id ∉ collection.map Dashboard.id) :
    collection.put dashboard = collection ++ [dashboard] := by
  rcases exists_put dashboard collection with ⟨front, old, back, rfl, hold, _⟩ | ⟨_, hput⟩
  · simp [← hold] at hmissing
  · exact hput

/-- Where no id comes twice, a dashboard of the collection is put in its own place. -/
theorem put_of_mem {collection : Collection} {dashboard : Dashboard}
    (hnodup : (collection.map Dashboard.id).Nodup) (hmem : dashboard ∈ collection) :
    collection.put dashboard = collection := by
  induction collection with
  | nil => exact nomatch hmem
  | cons first rest ih =>
      rw [List.map_cons, List.nodup_cons] at hnodup
      obtain ⟨hfirst, hrest⟩ := hnodup
      rw [put]
      rcases List.mem_cons.mp hmem with rfl | hmem
      · rw [if_pos rfl]
      · have hne : first.id ≠ dashboard.id := fun hid =>
          hfirst (hid ▸ List.mem_map_of_mem hmem)
        rw [if_neg hne, ih hrest hmem]

theorem mem_put {dashboard other : Dashboard} {collection : Collection}
    (hother : other ∈ collection.put dashboard) : other = dashboard ∨ other ∈ collection := by
  induction collection with
  | nil => exact .inl (List.mem_singleton.mp hother)
  | cons first rest ih =>
      rw [put] at hother
      split at hother
      · exact (List.mem_cons.mp hother).imp_right (List.mem_cons_of_mem _)
      · rcases List.mem_cons.mp hother with rfl | hother
        · exact .inr List.mem_cons_self
        · exact (ih hother).imp_right (List.mem_cons_of_mem _)

/-- Putting adds an id at most at the end, and only where it was missing. -/
theorem map_id_put (dashboard : Dashboard) (collection : Collection) :
    (collection.put dashboard).map Dashboard.id =
      if dashboard.id ∈ collection.map Dashboard.id then collection.map Dashboard.id
      else collection.map Dashboard.id ++ [dashboard.id] := by
  induction collection with
  | nil => rfl
  | cons first rest ih =>
      rw [put]
      by_cases hid : first.id = dashboard.id
      · simp [hid]
      · rw [if_neg hid, List.map_cons, ih]
        have hne : dashboard.id ≠ first.id := fun h => hid h.symm
        split <;> rename_i hmem <;> simp_all

theorem IsStripped.save {collection : Collection} (hstripped : collection.IsStripped)
    (dashboard : Dashboard) : (collection.save dashboard).IsStripped := by
  intro other hother
  rcases mem_put hother with rfl | hother
  · exact dashboard.isStripped_withoutMetadata
  · exact hstripped other hother

theorem IsStripped.removeId {collection : Collection} (hstripped : collection.IsStripped)
    (id : String) : (collection.removeId id).IsStripped :=
  fun other hother => hstripped other (List.mem_of_mem_filter hother)

theorem IsTidy.save {collection : Collection} (htidy : collection.IsTidy) (dashboard : Dashboard) :
    (collection.save dashboard).IsTidy where
  nodup_ids := by
    rw [Collection.save, map_id_put]
    split
    · exact htidy.nodup_ids
    · rename_i hmissing
      exact List.nodup_append.mpr ⟨htidy.nodup_ids, List.nodup_singleton _,
        fun id hid other hother heq => hmissing (List.mem_singleton.mp hother ▸ heq ▸ hid)⟩
  isStripped := htidy.isStripped.save dashboard

theorem IsTidy.save_of_mem {collection : Collection} (htidy : collection.IsTidy)
    {dashboard : Dashboard} (hmem : dashboard ∈ collection) :
    collection.save dashboard = collection := by
  rw [Collection.save, (htidy.isStripped dashboard hmem).withoutMetadata_eq]
  exact put_of_mem htidy.nodup_ids hmem

theorem IsTidy.removeId {collection : Collection} (htidy : collection.IsTidy) (id : String) :
    (collection.removeId id).IsTidy where
  nodup_ids := htidy.nodup_ids.sublist (List.filter_sublist.map _)
  isStripped := htidy.isStripped.removeId id

/-- The stored text is absent or the text of a tidy collection. -/
def IsCanonical (stored : Option String) : Prop :=
  ∀ text ∈ stored, ∃ collection : Collection, collection.IsTidy ∧ text = collection.toText

theorem isCanonical_none : IsCanonical none := fun _ htext => nomatch htext

theorem IsTidy.isCanonical {collection : Collection} (htidy : collection.IsTidy) :
    IsCanonical (some collection.toText) := by
  rintro _ ⟨⟩
  exact ⟨collection, htidy, rfl⟩

/-- A canonical text decodes, and to a tidy collection. -/
theorem IsCanonical.ofStored {stored : Option String} (hcanonical : IsCanonical stored) :
    ∃ collection, ofStored stored = .ok collection ∧ collection.IsTidy := by
  cases stored with
  | none => exact ⟨[], rfl, isTidy_nil⟩
  | some text =>
      obtain ⟨collection, htidy, rfl⟩ := hcanonical text rfl
      exact ⟨collection, htidy.isStripped.ofStored_toText, htidy⟩

end ResultBoards.Collection
