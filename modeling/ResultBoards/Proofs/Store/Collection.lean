import ResultBoards.Proofs.Widget.RoundTrip
import ResultBoards.Store.Collection

/-!
# Collections and their texts

The text of a collection decodes to the same dashboards in the same order, each without
the metadata of its widgets.  In the other direction, whatever text a collection was
decoded from, written here or by hand, no widget in it has metadata, because no decoder
of a widget ever fills that slot.  Together the two make a stored text and the
collection it stands for interchangeable: writing a decoded collection and decoding it
again changes nothing.
-/

namespace ResultBoards

open Json

/-! ## Dashboards without metadata -/

/-- No widget of the dashboard has metadata. -/
def Dashboard.IsStripped (dashboard : Dashboard) : Prop :=
  ∀ widget ∈ dashboard.widgets, widget.metadata = none

theorem Dashboard.isStripped_withoutMetadata (dashboard : Dashboard) :
    dashboard.withoutMetadata.IsStripped := by
  intro widget hwidget
  obtain ⟨original, _, rfl⟩ := List.mem_map.mp hwidget
  rfl

theorem Dashboard.IsStripped.withoutMetadata_eq {dashboard : Dashboard}
    (hstripped : dashboard.IsStripped) : dashboard.withoutMetadata = dashboard := by
  have hwidgets : dashboard.widgets.map Widget.clearMetadata = dashboard.widgets := by
    calc
      dashboard.widgets.map Widget.clearMetadata = dashboard.widgets.map fun widget => widget :=
        List.map_congr_left fun widget hwidget => by
          rw [Widget.clearMetadata, ← hstripped widget hwidget]
      _ = dashboard.widgets := List.map_id' _
  rw [Dashboard.withoutMetadata, hwidgets]

/-- No dashboard of the collection has metadata. -/
def Collection.IsStripped (collection : Collection) : Prop :=
  ∀ dashboard ∈ collection, dashboard.IsStripped

theorem Collection.IsStripped.map_withoutMetadata {collection : Collection}
    (hstripped : collection.IsStripped) :
    collection.map Dashboard.withoutMetadata = collection := by
  calc
    collection.map Dashboard.withoutMetadata = collection.map id :=
      List.map_congr_left fun dashboard hdashboard =>
        (hstripped dashboard hdashboard).withoutMetadata_eq
    _ = collection := List.map_id collection

/-! ## Texts of collections -/

theorem Json.writeElements_eq (elements : List Value) :
    writeElements elements = [','].intercalate (elements.map Value.write) := by
  induction elements with
  | nil => rfl
  | cons element rest ih =>
      cases rest with
      | nil => simp [writeElements]
      | cons next rest => simp [writeElements, ih]

/-- A collection is written as the array of the texts of its dashboards. -/
theorem Collection.toText_eq (collection : Collection) :
    collection.toText =
      "[" ++ ",".intercalate (collection.map fun dashboard => dashboard.toValue.toText) ++ "]" := by
  have helements : (collection.map Dashboard.toValue).map Value.write =
      (collection.map fun dashboard => dashboard.toValue.toText).map String.toList := by
    simp [Value.toText, Function.comp_def]
  rw [← String.toList_inj, toText, Value.toText, String.toList_ofList, Value.write,
    Json.writeElements_eq, helements]
  simp [String.toList_intercalate]

/-! ## What is written reads back -/

/-- A dashboard is read from its written form, without its metadata. -/
theorem readsAs_dashboard (dashboard : Dashboard) (steps depth : Nat) :
    ReadsAs steps (Dashboard.decoder ⟨steps, depth + 6⟩) dashboard.toValue
      dashboard.withoutMetadata := by
  have hwidgets : List.Forall₂ (ReadsAs steps (Widget.decoder ⟨steps, depth + 4⟩))
      (dashboard.widgets.map Widget.toValue) (dashboard.widgets.map Widget.clearMetadata) := by
    rw [List.forall₂_map_left_iff, List.forall₂_map_right_iff, List.forall₂_same]
    exact fun widget _ => readsAs_widget widget steps depth
  refine readsAs_shape
    ⟨some dashboard.id, some dashboard.name, some dashboard.withoutMetadata.widgets⟩ ?_ rfl
  refine .cons rfl (readsAs_map (readsAs_string dashboard.id ⟨steps, depth + 5⟩) fun id =>
    (⟨some id, none, none⟩ : Dashboard.Draft)) ?_
  refine .cons rfl (readsAs_map (readsAs_string dashboard.name ⟨steps, depth + 5⟩) fun name =>
    (⟨some dashboard.id, some name, none⟩ : Dashboard.Draft)) ?_
  refine .cons rfl (readsAs_map (readsAs_list hwidgets) fun widgets =>
    (⟨some dashboard.id, some dashboard.name, some widgets⟩ : Dashboard.Draft)) (.nil _)

/-- A collection is read from its written form, without its metadata. -/
theorem readsAs_collection (collection : Collection) (steps depth : Nat) :
    ReadsAs steps (Collection.decoder ⟨steps, depth + 7⟩)
      (.array (collection.map Dashboard.toValue)) (collection.map Dashboard.withoutMetadata) := by
  refine readsAs_list ?_
  rw [List.forall₂_map_left_iff, List.forall₂_map_right_iff, List.forall₂_same]
  exact fun dashboard _ => readsAs_dashboard dashboard steps depth

namespace Collection

/-- The stored text of a collection stands for the collection without its metadata. -/
theorem ofStored_toText (collection : Collection) :
    ofStored (some collection.toText) = .ok (collection.map Dashboard.withoutMetadata) :=
  decode_toText fun steps => readsAs_collection collection steps 120

theorem IsStripped.ofStored_toText {collection : Collection} (hstripped : collection.IsStripped) :
    ofStored (some collection.toText) = .ok collection := by
  rw [Collection.ofStored_toText, hstripped.map_withoutMetadata]

/-- **Collections survive their encoding.**  Decoding the text of any collection succeeds
and gives the same dashboards in the same order, with nothing but the metadata of their
widgets gone. -/
theorem decoder_decode_toText (collection : Collection) :
    decoder.decode collection.toText = .ok (collection.map Dashboard.withoutMetadata) :=
  decode_toText fun steps => readsAs_collection collection steps 120

end Collection

/-! ## What is read has no metadata -/

theorem Widget.metadata_ofMembers {kind : Kind} {members : List (String × Value)} {widget : Widget}
    (hwidget : Widget.ofMembers kind members = .ok widget) : widget.metadata = none := by
  unfold Widget.ofMembers at hwidget
  obtain ⟨⟨source, body⟩, _, hwidget⟩ := bind_eq_ok.mp hwidget
  obtain ⟨layout, _, hwidget⟩ := bind_eq_ok.mp hwidget
  cases hwidget
  rfl

theorem Widget.ensures_members : Widget.members.Ensures fun widget => widget.metadata = none := by
  intro limits text widget rest hread
  unfold Widget.members at hread
  simp only at hread
  split at hread
  · contradiction
  · contradiction
  · obtain ⟨_, hwidget, hresult⟩ := map_atHere_eq_ok.mp hread
    cases hresult
    exact Widget.metadata_ofMembers hwidget

/-- An array never becomes a widget. -/
theorem Widget.refuseElements_ne_ok (limits : Limits) (text : List Char)
    (result : Widget × List Char) : Widget.refuseElements limits text ≠ .ok result := by
  unfold Widget.refuseElements
  split
  · simp
  · simp
  · simp only
    split
    · simp
    · split <;> simp

/-- A decoded widget has no metadata, whatever the text says. -/
theorem Widget.ensures_decoder : Widget.decoder.Ensures fun widget => widget.metadata = none := by
  intro limits text widget rest hread
  unfold Widget.decoder at hread
  split at hread
  · exact Widget.ensures_members.nested limits hread
  · have hrefused : Widget.refuseElements.Ensures fun widget => widget.metadata = none :=
      fun limits text _ _ hread => absurd hread (Widget.refuseElements_ne_ok limits text _)
    exact hrefused.nested limits hread
  · exact Decoder.ensures_mismatch _ (fun widget : Widget => widget.metadata = none) limits hread

/-- Where no widgets were read there are none. -/
theorem Widget.metadata_of_mem_getD {read : Option (List Widget)}
    (hread : ∀ widgets ∈ read, ∀ widget ∈ widgets, widget.metadata = none) {widget : Widget}
    (hwidget : widget ∈ read.getD []) : widget.metadata = none := by
  cases read with
  | none => exact nomatch hwidget
  | some widgets => exact hread widgets rfl widget hwidget

/-- No widget read so far has metadata. -/
def Dashboard.Draft.IsStripped (draft : Dashboard.Draft) : Prop :=
  ∀ widgets ∈ draft.widgets, ∀ widget ∈ widgets, widget.metadata = none

theorem Dashboard.shape_keeps_isStripped : Dashboard.shape.Keeps Draft.IsStripped := by
  intro field hfield draft hdraft
  simp only [shape, List.mem_cons, List.not_mem_nil, or_false] at hfield
  rcases hfield with rfl | rfl | rfl
  · exact Field.ensures_ofSlot (Decoder.ensures_true _) fun _ _ => hdraft
  · exact Field.ensures_ofSlot (Decoder.ensures_true _) fun _ _ => hdraft
  · refine Field.ensures_ofSlot Widget.ensures_decoder.list fun widgets hwidgets => ?_
    rintro _ ⟨⟩
    exact hwidgets

theorem Dashboard.ensures_decoder : Dashboard.decoder.Ensures Dashboard.IsStripped := by
  refine shape_keeps_isStripped.ensures (fun widgets hwidgets => nomatch hwidgets) ?_
  intro draft dashboard hdraft hbuild widget hwidget
  obtain ⟨id, _, hbuild⟩ := bind_eq_ok.mp hbuild
  obtain ⟨name, _, hbuild⟩ := bind_eq_ok.mp hbuild
  cases hbuild
  exact Widget.metadata_of_mem_getD hdraft hwidget

namespace NewDashboard

/-- No widget read so far has metadata. -/
def Draft.IsStripped (draft : Draft) : Prop :=
  ∀ widgets ∈ draft.widgets, ∀ widget ∈ widgets, widget.metadata = none

theorem shape_keeps_isStripped : shape.Keeps Draft.IsStripped := by
  intro field hfield draft hdraft
  simp only [shape, List.mem_cons, List.not_mem_nil, or_false] at hfield
  rcases hfield with rfl | rfl
  · exact Json.Field.ensures_ofSlot (Decoder.ensures_true _) fun _ _ => hdraft
  · refine Json.Field.ensures_ofSlot Widget.ensures_decoder.list fun widgets hwidgets => ?_
    rintro _ ⟨⟩
    exact hwidgets

/-- A dashboard that is read as a new one has no metadata, whatever id it gets. -/
theorem ensures_decoder :
    decoder.Ensures fun dashboard => ∀ id, (dashboard.withId id).IsStripped := by
  refine shape_keeps_isStripped.ensures (fun widgets hwidgets => nomatch hwidgets) ?_
  intro draft dashboard hdraft hbuild id widget hwidget
  obtain ⟨name, _, hbuild⟩ := bind_eq_ok.mp hbuild
  cases hbuild
  exact Widget.metadata_of_mem_getD hdraft hwidget

end NewDashboard

namespace Collection

/-- **What is stored has no metadata.**  Whatever a stored text decodes to, no widget in
it has metadata. -/
theorem isStripped_of_ofStored {stored : Option String} {collection : Collection}
    (hstored : ofStored stored = .ok collection) : collection.IsStripped := by
  cases stored with
  | none =>
      cases hstored
      exact fun _ hdashboard => nomatch hdashboard
  | some text =>
      have hensures : decoder.Ensures IsStripped := Dashboard.ensures_decoder.list
      exact hensures.decode hstored

end Collection

end ResultBoards
