import ResultBoards.Widget.Codec

/-!
# Dashboards

A dashboard has a name and shows widgets in their order.  It is known by its id.
-/

namespace ResultBoards

open Json (Decoder Field Shape Value)

/-- A dashboard. -/
structure Dashboard where
  id : String
  name : String
  widgets : List Widget
deriving DecidableEq

namespace Dashboard

/-- The dashboard without the results attached to its widgets. -/
def withoutMetadata (dashboard : Dashboard) : Dashboard :=
  { dashboard with widgets := dashboard.widgets.map Widget.clearMetadata }

/-- A dashboard as an object. -/
def toValue (dashboard : Dashboard) : Value :=
  .object [
    ("id", .string dashboard.id),
    ("name", .string dashboard.name),
    ("widgets", .array (dashboard.widgets.map Widget.toValue))]

/-- What has been read of a dashboard. -/
structure Draft where
  id : Option String
  name : Option String
  widgets : Option (List Widget)

/-- The fields of a dashboard. -/
def shape : Shape Draft Dashboard where
  name := "Dashboard"
  empty := ⟨none, none, none⟩
  fields := [
    .ofSlot "id" true .string Draft.id fun draft value => { draft with id := some value },
    .ofSlot "name" true .string Draft.name fun draft value => { draft with name := some value },
    .ofSlot "widgets" false (.list Widget.decoder) Draft.widgets fun draft value =>
      { draft with widgets := some value }]
  build draft := do
    let id ← Json.required "id" draft.id
    let name ← Json.required "name" draft.name
    return ⟨id, name, draft.widgets.getD []⟩

/-- Decodes a dashboard. -/
def decoder : Decoder Dashboard := shape.decoder

end Dashboard

/-- A dashboard that has no id yet. -/
structure NewDashboard where
  name : String
  widgets : List Widget
deriving DecidableEq

namespace NewDashboard

/-- The dashboard with its id. -/
def withId (dashboard : NewDashboard) (id : String) : Dashboard :=
  ⟨id, dashboard.name, dashboard.widgets⟩

/-- What has been read of a new dashboard. -/
structure Draft where
  name : Option String
  widgets : Option (List Widget)

/-- The fields of a new dashboard. -/
def shape : Shape Draft NewDashboard where
  name := "NewDashboard"
  empty := ⟨none, none⟩
  fields := [
    .ofSlot "name" true .string Draft.name fun draft value => { draft with name := some value },
    .ofSlot "widgets" false (.list Widget.decoder) Draft.widgets fun draft value =>
      { draft with widgets := some value }]
  build draft := do
    let name ← Json.required "name" draft.name
    return ⟨name, draft.widgets.getD []⟩

/-- Decodes a new dashboard. -/
def decoder : Decoder NewDashboard := shape.decoder

end NewDashboard

end ResultBoards
