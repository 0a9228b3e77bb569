import ResultBoards.Json.Members
import ResultBoards.Widget.Basic

/-!
# Widgets in JSON

A widget is an object: its `type`, its layout, its `options`, which hold the source and
the options of its kind, and its metadata if it has some.  Options that are not given
are left out, except those that have a plain default.

When a widget is read, its members may come in any order and others are passed over,
metadata among them.  The type is judged where it stands; everything else is read first
and judged afterwards, the options before the layout and the options of the kind before
the source.
-/

namespace ResultBoards

open Json (Value Problem Decoder Reader KnownMember gather)

/-! ## Writing -/

/-- A member that is written only where there is a string. -/
def optionalString (name : String) : Option String → List (String × Value)
  | some value => [(name, .string value)]
  | none => []

/-- A member that is written only where there is a number. -/
def optionalWord (name : String) : Option UInt32 → List (String × Value)
  | some value => [(name, .ofNat value.toNat)]
  | none => []

/-- A member that is written only where there are strings. -/
def optionalStrings (name : String) : List String → List (String × Value)
  | [] => []
  | values => [(name, .ofStrings values)]

/-- The members of a source. -/
def Source.toMembers (source : Source) : List (String × Value) :=
  optionalString "workflow" source.workflow ++ optionalString "execution" source.execution ++
    optionalString "action" source.action

/-- A source as an object. -/
def Source.toValue (source : Source) : Value :=
  .object source.toMembers

/-- The members of a layout. -/
def Layout.toMembers (layout : Layout) : List (String × Value) :=
  [("title", .string layout.title), ("x", .ofNat layout.x.toNat), ("y", .ofNat layout.y.toNat),
    ("cols", .ofNat layout.cols.toNat), ("rows", .ofNat layout.rows.toNat)]

/-- The members of the options of a chart. -/
def ChartOptions.toMembers (options : ChartOptions) : List (String × Value) :=
  optionalString "x_label" options.xLabel ++ optionalString "y_label" options.yLabel ++
    ("show_legend", .bool options.showLegend) :: optionalStrings "colors" options.colors

/-- The members of the options of a text. -/
def TextOptions.toMembers (options : TextOptions) : List (String × Value) :=
  ("text", .string options.text) :: optionalString "alignment" options.alignment

/-- The members of the options of a table. -/
def TableOptions.toMembers (options : TableOptions) : List (String × Value) :=
  optionalStrings "columns" options.columns ++ optionalWord "page_size" options.pageSize

/-- The members of the options of an embedded dashboard. -/
def KibanaOptions.toMembers (options : KibanaOptions) : List (String × Value) :=
  ("dashboard_url", .string options.dashboardUrl) :: optionalWord "height" options.height

/-- The members of the options of a body. -/
def Body.toMembers : Body → List (String × Value)
  | .bar options => options.toMembers
  | .pie options => options.toMembers
  | .line options => options.toMembers
  | .text options => options.toMembers
  | .table options => options.toMembers
  | .kibana options => options.toMembers

/-- The member of the metadata of a widget. -/
def metadataMember : Option Metadata → List (String × Value)
  | some metadata => [("metadata", metadata.toValue)]
  | none => []

/-- A widget as an object. -/
def Widget.toValue (widget : Widget) : Value :=
  .object <|
    ("type", .string widget.kind.name) :: widget.layout.toMembers ++
      ("options", .object (widget.source.toMembers ++ widget.body.toMembers)) ::
        metadataMember widget.metadata

/-! ## Reading -/

/-- The members of a source. -/
def Source.known : List (KnownMember Source) := [
  ⟨"workflow", fun source value => do
    return { source with workflow := ← value.asOptional Value.asString }⟩,
  ⟨"execution", fun source value => do
    return { source with execution := ← value.asOptional Value.asString }⟩,
  ⟨"action", fun source value => do
    return { source with action := ← value.asOptional Value.asString }⟩]

/-- The members of a layout. -/
def Layout.known : List (KnownMember Layout) := [
  ⟨"title", fun layout value => do return { layout with title := ← value.asString }⟩,
  ⟨"x", fun layout value => do return { layout with x := ← value.asWord }⟩,
  ⟨"y", fun layout value => do return { layout with y := ← value.asWord }⟩,
  ⟨"cols", fun layout value => do return { layout with cols := ← value.asWord }⟩,
  ⟨"rows", fun layout value => do return { layout with rows := ← value.asWord }⟩]

/-- The members of the options of charts. -/
def ChartOptions.known : List (KnownMember ChartOptions) := [
  ⟨"x_label", fun options value => do
    return { options with xLabel := ← value.asOptional Value.asString }⟩,
  ⟨"y_label", fun options value => do
    return { options with yLabel := ← value.asOptional Value.asString }⟩,
  ⟨"show_legend", fun options value => do
    return { options with showLegend := ← value.asBool }⟩,
  ⟨"colors", fun options value => do
    return { options with colors := ← value.asList Value.asString }⟩]

/-- The members of the options of texts. -/
def TextOptions.known : List (KnownMember TextOptions) := [
  ⟨"text", fun options value => do return { options with text := ← value.asString }⟩,
  ⟨"alignment", fun options value => do
    return { options with alignment := ← value.asOptional Value.asString }⟩]

/-- The members of the options of tables. -/
def TableOptions.known : List (KnownMember TableOptions) := [
  ⟨"columns", fun options value => do
    return { options with columns := ← value.asList Value.asString }⟩,
  ⟨"page_size", fun options value => do
    return { options with pageSize := ← value.asOptional Value.asWord }⟩]

/-- The members of the options of embedded dashboards. -/
def KibanaOptions.known : List (KnownMember KibanaOptions) := [
  ⟨"dashboard_url", fun options value => do
    return { options with dashboardUrl := ← value.asString }⟩,
  ⟨"height", fun options value => do
    return { options with height := ← value.asOptional Value.asWord }⟩]

namespace Body

/-- What the options of a kind are called. -/
def optionsName : Kind → String
  | .bar | .pie | .line => "ChartOptions"
  | .text => "TextOptions"
  | .table => "TableOptions"
  | .kibana => "KibanaOptions"

/-- A body with the options that some members give, on top of those it has. -/
def gatherOptions (members : List (String × Value)) : Body → Except Problem Body
  | .bar options => return .bar (← gather ChartOptions.known [] options members)
  | .pie options => return .pie (← gather ChartOptions.known [] options members)
  | .line options => return .line (← gather ChartOptions.known [] options members)
  | .text options => return .text (← gather TextOptions.known [] options members)
  | .table options => return .table (← gather TableOptions.known [] options members)
  | .kibana options => return .kibana (← gather KibanaOptions.known [] options members)

/-- The source and the body that the options of a kind hold. -/
def ofOptions (kind : Kind) : Value → Except Problem (Source × Body)
  | .object members => do
      let body ← (plain kind).gatherOptions members
      let source ← gather Source.known [] Source.none members
      return (source, body)
  | other => .error (.typeMismatch other.found s!"struct {optionsName kind}")

end Body

namespace Widget

/-- The widget of a kind that some members describe. -/
def ofMembers (kind : Kind) (members : List (String × Value)) : Except Problem Widget := do
  let options : KnownMember (Source × Body) := ⟨"options", fun _ value => Body.ofOptions kind value⟩
  let (source, body) ← gather [options] [] (Source.none, Body.plain kind) members
  let layout ← gather Layout.known [] (.titled "") members
  return ⟨layout, source, body, none⟩

/-- Decodes the type of a widget. -/
def kindDecoder : Decoder Kind :=
  Decoder.checkedString "variant identifier" fun name =>
    match Kind.ofName? name with
    | some kind => .ok kind
    | none => .error (.variantUnknown name (Kind.all.map Kind.name))

/-- What has been read of a widget: its kind, and its other members in reverse. -/
structure Draft where
  kind : Option Kind
  members : List (String × Value)

/-- Decodes the members of a widget after its opening brace. -/
def members : Decoder Widget := fun limits text =>
  let member (draft : Draft) (name : String) : Except Problem (Reader Draft) :=
    if name = "type" then
      match draft.kind with
      | some _ => .error (.fieldRepeated "type")
      | none => .ok fun text =>
          (kindDecoder limits text).map fun (kind, rest) => (⟨some kind, draft.members⟩, rest)
    else .ok fun text =>
      (Json.readValue limits.steps limits.depth text).map fun (value, rest) =>
        (⟨draft.kind, (name, value) :: draft.members⟩, rest)
  match Json.readMembers member limits.steps true ⟨none, []⟩ text with
  | .error failure => .error failure
  | .ok (⟨none, _⟩, _) => .error (.here (.fieldMissing "type"))
  | .ok (⟨some kind, members⟩, rest) =>
      (Json.atHere (ofMembers kind members.reverse)).map fun widget => (widget, rest)

/-- The problem of an array in the place of a widget.  It may start with a type and
must be well-formed. -/
def refuseElements : Decoder Widget := fun limits text =>
  match Json.readElement (kindDecoder limits) 0 text with
  | .error failure => .error failure
  | .ok (none, _) => .error (.here (.fieldMissing "type"))
  | .ok (some _, rest) =>
      let value := Json.readValue limits.steps limits.depth
      match Json.readElements value limits.steps 1 [] rest with
      | .error failure => .error failure
      | .ok (_, rest) =>
          match Json.closeArray rest with
          | .error problem => .error (.here problem)
          | .ok _ => .error (.here (.typeMismatch .sequence "struct Widget"))

/-- Decodes a widget. -/
def decoder : Decoder Widget := fun limits text =>
  match Json.dropBlank text with
  | '\x7b' :: rest => Decoder.nested members limits rest
  | '[' :: rest => Decoder.nested refuseElements limits rest
  | text => Decoder.mismatch "internally tagged enum DashboardWidget" limits text

end Widget

end ResultBoards
