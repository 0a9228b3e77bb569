import ResultBoards.Metadata

/-!
# Widgets

A widget is one tile of a dashboard: a place on its grid, a kind with options of its
own, the action whose result it shows, and that result once it has been fetched.
-/

namespace ResultBoards

/-- The kinds of widgets. -/
inductive Kind
  | bar
  | pie
  | line
  | text
  | table
  | kibana
deriving DecidableEq, Repr

namespace Kind

/-- All kinds. -/
def all : List Kind := [.bar, .pie, .line, .text, .table, .kibana]

/-- The name of a kind. -/
def name : Kind → String
  | .bar => "bar"
  | .pie => "pie"
  | .line => "line"
  | .text => "text"
  | .table => "table"
  | .kibana => "kibana"

/-- The kind with a name. -/
def ofName? (name : String) : Option Kind :=
  all.find? fun kind => kind.name = name

theorem ofName?_name (kind : Kind) : ofName? kind.name = some kind := by
  cases kind <;> decide

end Kind

/-- The references into a workflow execution that feed a widget, each of which may be
missing. -/
structure Source where
  workflow : Option String
  execution : Option String
  action : Option String
deriving DecidableEq, Repr

/-- A source with all its references. -/
structure SourceRef where
  workflow : String
  execution : String
  action : String
deriving DecidableEq, Repr

/-- The execution that stands for the most recent one of a workflow. -/
def latestExecution : String := "latest"

/-- Whether the most recent execution is meant. -/
def SourceRef.isLatest (reference : SourceRef) : Bool :=
  reference.execution = latestExecution

namespace Source

/-- The source that refers to nothing. -/
def none : Source := ⟨.none, .none, .none⟩

/-- The source with all references given. -/
def ofNames (workflow execution action : String) : Source :=
  ⟨some workflow, some execution, some action⟩

/-- The source where all its references are given and none is empty. -/
def resolve? (source : Source) : Option SourceRef := do
  let workflow ← source.workflow.filter (· ≠ "")
  let execution ← source.execution.filter (· ≠ "")
  let action ← source.action.filter (· ≠ "")
  return ⟨workflow, execution, action⟩

end Source

/-- The title of a widget and its place on the grid. -/
structure Layout where
  title : String
  x : UInt32
  y : UInt32
  cols : UInt32
  rows : UInt32
deriving DecidableEq, Repr

/-- The layout with a title at the origin of the grid. -/
def Layout.titled (title : String) : Layout :=
  ⟨title, 0, 0, 0, 0⟩

/-- The options of charts. -/
structure ChartOptions where
  xLabel : Option String
  yLabel : Option String
  showLegend : Bool
  colors : List String
deriving DecidableEq, Repr

/-- The options of texts. -/
structure TextOptions where
  text : String
  alignment : Option String
deriving DecidableEq, Repr

/-- The options of tables. -/
structure TableOptions where
  columns : List String
  pageSize : Option UInt32
deriving DecidableEq, Repr

/-- The options of embedded Kibana dashboards. -/
structure KibanaOptions where
  dashboardUrl : String
  height : Option UInt32
deriving DecidableEq, Repr

/-- A kind with its options. -/
inductive Body
  | bar (options : ChartOptions)
  | pie (options : ChartOptions)
  | line (options : ChartOptions)
  | text (options : TextOptions)
  | table (options : TableOptions)
  | kibana (options : KibanaOptions)
deriving DecidableEq, Repr

namespace Body

/-- The kind of a body. -/
def kind : Body → Kind
  | .bar _ => .bar
  | .pie _ => .pie
  | .line _ => .line
  | .text _ => .text
  | .table _ => .table
  | .kibana _ => .kibana

/-- The body of a kind where no option is given. -/
def plain : Kind → Body
  | .bar => .bar ⟨none, none, false, []⟩
  | .pie => .pie ⟨none, none, false, []⟩
  | .line => .line ⟨none, none, false, []⟩
  | .text => .text ⟨"", none⟩
  | .table => .table ⟨[], none⟩
  | .kibana => .kibana ⟨"", none⟩

end Body

/-- A widget. -/
structure Widget where
  layout : Layout
  source : Source
  body : Body
  metadata : Option Metadata
deriving DecidableEq

namespace Widget

/-- A widget with a title and no options. -/
def plain (kind : Kind) (title : String) : Widget :=
  ⟨.titled title, .none, .plain kind, none⟩

/-- The kind of a widget. -/
def kind (widget : Widget) : Kind :=
  widget.body.kind

/-- The widget with a result attached. -/
def setMetadata (widget : Widget) (metadata : Metadata) : Widget :=
  { widget with metadata := some metadata }

/-- The widget without a result. -/
def clearMetadata (widget : Widget) : Widget :=
  { widget with metadata := none }

end Widget

end ResultBoards
