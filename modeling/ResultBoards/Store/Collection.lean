import ResultBoards.Dashboard
import ResultBoards.Json.Printer

/-!
# Collections of dashboards

All dashboards are kept together in one text, a JSON array.  Saving replaces the first
dashboard with the id or appends a new one; removing takes all with the id.
-/

namespace ResultBoards

/-- Dashboards in their order. -/
abbrev Collection := List Dashboard

namespace Collection

/-- The first dashboard with a name. -/
def findByName? (collection : Collection) (name : String) : Option Dashboard :=
  collection.find? fun dashboard => dashboard.name = name

/-- Puts a dashboard in the place of the first with its id, or at the end. -/
def put (dashboard : Dashboard) : Collection → Collection
  | [] => [dashboard]
  | first :: rest =>
      if first.id = dashboard.id then dashboard :: rest else first :: put dashboard rest

/-- Saves a dashboard without its metadata. -/
def save (collection : Collection) (dashboard : Dashboard) : Collection :=
  collection.put dashboard.withoutMetadata

/-- The dashboards with an id other than the given one. -/
def removeId (collection : Collection) (id : String) : Collection :=
  collection.filter fun dashboard => dashboard.id ≠ id

/-- The text of a collection. -/
def toText (collection : Collection) : String :=
  (Json.Value.array (collection.map Dashboard.toValue)).toText

/-- Decodes a collection. -/
def decoder : Json.Decoder Collection :=
  .list Dashboard.decoder

/-- The collection that a stored text holds.  Where nothing is stored it is empty. -/
def ofStored : Option String → Except Json.Failure Collection
  | none => .ok []
  | some text => decoder.decode text

end Collection

end ResultBoards
