import ResultBoards.Proofs.Hydration.Concurrent
import ResultBoards.Proofs.Store.Collection

/-!
# Metadata at the end of a text

The metadata of a widget is its last member, and a widget has others, so attaching metadata
puts a piece of text in front of the final brace and clearing it takes this piece away again.
What stands before is made of the kind, the layout, the source and the options alone, and no
change of the metadata touches these.  So of many changes only the last shows in the text.

The text of a dashboard is the texts of its widgets with some text around them.  Taking away
the pieces of all its widgets gives the text of the dashboard without metadata.
-/

namespace ResultBoards

open Json

/-! ## Changes of the metadata -/

/-- What is done to the metadata of a widget. -/
inductive MetadataChange
  | attach (metadata : Metadata)
  | clear
deriving DecidableEq

namespace Widget

/-- The widget after a change. -/
def change (widget : Widget) : MetadataChange → Widget
  | .attach metadata => widget.setMetadata metadata
  | .clear => widget.clearMetadata

/-- The widget after some changes, one after the other. -/
def changeAll (widget : Widget) (changes : List MetadataChange) : Widget :=
  changes.foldl change widget

theorem changeAll_concat (widget : Widget) (changes : List MetadataChange)
    (last : MetadataChange) :
    widget.changeAll (changes ++ [last]) = (widget.changeAll changes).change last := by
  rw [changeAll, List.foldl_append]
  rfl

theorem SameFrame.trans {first second third : Widget} (hfirst : first.SameFrame second)
    (hsecond : second.SameFrame third) : first.SameFrame third :=
  ⟨hsecond.kind_eq.trans hfirst.kind_eq, hsecond.layout_eq.trans hfirst.layout_eq,
    hsecond.source_eq.trans hfirst.source_eq, hsecond.body_eq.trans hfirst.body_eq⟩

theorem sameFrame_change (widget : Widget) (change : MetadataChange) :
    widget.SameFrame (widget.change change) := by
  cases change with
  | attach metadata => exact ⟨rfl, rfl, rfl, rfl⟩
  | clear => exact ⟨rfl, rfl, rfl, rfl⟩

/-- Changes of the metadata leave the rest of a widget as it is. -/
theorem sameFrame_changeAll (widget : Widget) (changes : List MetadataChange) :
    widget.SameFrame (widget.changeAll changes) := by
  induction changes generalizing widget with
  | nil => exact ⟨rfl, rfl, rfl, rfl⟩
  | cons first rest ih => exact (sameFrame_change widget first).trans (ih (widget.change first))

/-- A change leaves no trace of the metadata before it. -/
theorem SameFrame.change_eq {first second : Widget} (hsame : first.SameFrame second)
    (change : MetadataChange) : second.change change = first.change change := by
  obtain ⟨_, hlayout, hsource, hbody⟩ := hsame
  cases change with
  | attach metadata =>
      show (⟨second.layout, second.source, second.body, some metadata⟩ : Widget) = _
      rw [hlayout, hsource, hbody]
      rfl
  | clear =>
      show (⟨second.layout, second.source, second.body, none⟩ : Widget) = _
      rw [hlayout, hsource, hbody]
      rfl

theorem changeAll_concat_eq (widget : Widget) (changes : List MetadataChange)
    (last : MetadataChange) : widget.changeAll (changes ++ [last]) = widget.change last := by
  rw [changeAll_concat]
  exact (widget.sameFrame_changeAll changes).change_eq last

end Widget

/-! ## Texts -/

theorem Json.writeMembers_concat {members : List (String × Value)} (hmembers : members ≠ [])
    (name : String) (value : Value) :
    writeMembers (members ++ [(name, value)]) =
      writeMembers members ++ ',' :: (writeString name ++ ':' :: value.write) := by
  induction members with
  | nil => exact absurd rfl hmembers
  | cons member rest ih =>
      obtain ⟨other, before⟩ := member
      cases rest with
      | nil => simp [writeMembers]
      | cons next rest =>
          have hrest := ih (List.cons_ne_nil next rest)
          simp only [List.cons_append] at hrest ⊢
          simp [writeMembers, hrest]

/-- The piece of a text that metadata adds. -/
def metadataText : Option Metadata → String
  | some metadata => ",\"metadata\":" ++ metadata.toValue.toText
  | none => ""

namespace Widget

/-- The members that do not depend on the metadata. -/
def frameMembers (widget : Widget) : List (String × Value) :=
  ("type", .string widget.kind.name) :: widget.layout.toMembers ++
    [("options", .object (widget.source.toMembers ++ widget.body.toMembers))]

/-- The text of a widget up to where metadata comes. -/
def frameText (widget : Widget) : String :=
  String.ofList ('\x7b' :: writeMembers widget.frameMembers)

theorem toValue_eq_append (widget : Widget) :
    widget.toValue = .object (widget.frameMembers ++ metadataMember widget.metadata) := by
  rw [toValue, frameMembers, List.append_assoc]
  rfl

/-- The metadata of a widget is a piece of its text in front of the final brace. -/
theorem toText_toValue (widget : Widget) :
    widget.toValue.toText = widget.frameText ++ metadataText widget.metadata ++ "\x7d" := by
  have hmembers : widget.frameMembers ≠ [] := by simp [frameMembers]
  rw [← String.toList_inj, toValue_eq_append, Value.toText, String.toList_ofList, Value.write,
    frameText, String.toList_append, String.toList_append, String.toList_ofList]
  cases widget.metadata with
  | none => simp [metadataMember, metadataText]
  | some metadata =>
      have hname : writeString "metadata" = "\"metadata\"".toList := by decide
      rw [metadataMember, writeMembers_concat hmembers, hname]
      simp [metadataText, Value.toText]

theorem toText_clearMetadata (widget : Widget) :
    widget.clearMetadata.toValue.toText = widget.frameText ++ "\x7d" := by
  rw [toText_toValue]
  exact congrArg (· ++ "\x7d") String.append_empty

end Widget

/-- The text of a dashboard around the texts of its widgets. -/
theorem Dashboard.toText_toValue (dashboard : Dashboard) :
    dashboard.toValue.toText =
      "\x7b\"id\":" ++ (Value.string dashboard.id).toText ++ ",\"name\":" ++
        (Value.string dashboard.name).toText ++ ",\"widgets\":[" ++
          ",".intercalate (dashboard.widgets.map fun widget => widget.toValue.toText) ++
            "]\x7d" := by
  have hwidgets : (dashboard.widgets.map Widget.toValue).map Value.write =
      (dashboard.widgets.map fun widget => widget.toValue.toText).map String.toList := by
    simp [Value.toText, Function.comp_def]
  have hid : writeString "id" = "\"id\"".toList := by decide
  have hname : writeString "name" = "\"name\"".toList := by decide
  have harray : writeString "widgets" = "\"widgets\"".toList := by decide
  rw [← String.toList_inj, toValue, Value.toText, String.toList_ofList, Value.write]
  simp only [writeMembers, hid, hname, harray, Value.write, writeElements_eq, hwidgets]
  simp [Value.toText, Value.write, String.toList_intercalate]

/-! ## Detaching -/

/-- Whatever changes a widget goes through, its text shows the last one alone, as a piece in
front of the final brace or as none, and nothing but the metadata changes. -/
structure Widget.IsDetachable (front : String) (widget : Widget) : Prop where
  toText_cleared : widget.clearMetadata.toValue.toText = front ++ "\x7d"
  toText_clear : ∀ changes, (widget.changeAll (changes ++ [.clear])).toValue.toText =
    widget.clearMetadata.toValue.toText
  toText_attach : ∀ changes metadata,
    (widget.changeAll (changes ++ [.attach metadata])).toValue.toText =
      front ++ ",\"metadata\":" ++ metadata.toValue.toText ++ "\x7d"
  sameFrame : ∀ changes, widget.SameFrame (widget.changeAll changes)

/-- The text of a dashboard, with the piece of each widget that has metadata, and the same text
without these pieces. -/
structure Dashboard.IsDetachable (front : Widget → String) (dashboard : Dashboard) : Prop where
  toText_eq : ∃ before : String,
    dashboard.toValue.toText =
      before ++ ",".intercalate (dashboard.widgets.map fun widget =>
        front widget ++ metadataText widget.metadata ++ "\x7d") ++ "]\x7d" ∧
    dashboard.withoutMetadata.toValue.toText =
      before ++ ",".intercalate (dashboard.widgets.map fun widget =>
        front widget ++ "\x7d") ++ "]\x7d"
  withoutMetadata_idem : dashboard.withoutMetadata.withoutMetadata = dashboard.withoutMetadata

theorem Widget.isDetachable_frameText (widget : Widget) :
    widget.IsDetachable widget.frameText where
  toText_cleared := widget.toText_clearMetadata
  toText_clear changes := by
    rw [changeAll_concat_eq]
    rfl
  toText_attach changes metadata := by
    rw [changeAll_concat_eq, toText_toValue]
    show widget.frameText ++ (",\"metadata\":" ++ metadata.toValue.toText) ++ "\x7d" = _
    simp only [String.append_assoc]
  sameFrame := widget.sameFrame_changeAll

theorem Dashboard.isDetachable_frameText (dashboard : Dashboard) :
    dashboard.IsDetachable Widget.frameText where
  toText_eq := by
    have hstripped : dashboard.withoutMetadata.widgets.map (fun widget => widget.toValue.toText) =
        dashboard.widgets.map fun widget => widget.frameText ++ "\x7d" := by
      rw [withoutMetadata, List.map_map]
      exact List.map_congr_left fun widget _ => widget.toText_clearMetadata
    refine ⟨"\x7b\"id\":" ++ (Value.string dashboard.id).toText ++ ",\"name\":" ++
      (Value.string dashboard.name).toText ++ ",\"widgets\":[", ?_, ?_⟩
    · rw [toText_toValue]
      simp only [Widget.toText_toValue]
    · rw [toText_toValue, hstripped]
      rfl
  withoutMetadata_idem := dashboard.isStripped_withoutMetadata.withoutMetadata_eq

/-- **Metadata is a detachable tail.**  The text of a widget without metadata ends in a brace, and
metadata is a piece in front of it that comes and goes with the last change.  Taking away the
pieces of all widgets of a dashboard gives the text of the dashboard without metadata, from which
nothing more can be taken. -/
theorem Metadata.exists_isDetachable :
    ∃ front : Widget → String, (∀ widget : Widget, widget.IsDetachable (front widget)) ∧
      ∀ dashboard : Dashboard, dashboard.IsDetachable front :=
  ⟨Widget.frameText, Widget.isDetachable_frameText, Dashboard.isDetachable_frameText⟩

end ResultBoards
