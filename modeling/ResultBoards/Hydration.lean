import ResultBoards.Csv.Result
import ResultBoards.Dashboard
import ResultBoards.Execution

/-!
# Hydration

Attaching the results of executions to the widgets of a dashboard.  A widget whose
source is complete needs one lookup; the result of its action becomes its metadata.  A
dashboard is hydrated as a whole or not at all: its widgets are looked after in their
order, and the first lookup that fails ends it.
-/

namespace ResultBoards

/-- What is asked of the execution service. -/
inductive Lookup
  | latest (workflow : String)
  | byId (execution : String)
deriving DecidableEq, Repr

/-- Why a lookup failed: a message, and what caused it from the outside in. -/
structure LookupFailure where
  message : String
  causes : List String
deriving DecidableEq, Repr

/-- The answers of the execution service at some time. -/
abbrev Executions := Lookup → Except LookupFailure Execution

/-- The execution service while a dashboard is hydrated.  Its answers may change in the
meantime, so the widget at each position has its own. -/
structure Repository where
  executionsAt : (position : Nat) → Executions

/-- A service whose answers do not change. -/
instance : Coe Executions Repository := ⟨fun executions => ⟨fun _ => executions⟩⟩

/-- The lookup that a source needs. -/
def SourceRef.lookup (reference : SourceRef) : Lookup :=
  if reference.isLatest then .latest reference.workflow else .byId reference.execution

/-- The outcome of hydration: the result, the lookups that were made, and what was
reported. -/
structure Hydration (α : Type) where
  result : Except LookupFailure α
  lookups : List Lookup
  events : List Event

/-- The widget with the result of an action that an execution reports on. -/
def Widget.attach (widget : Widget) (action : String) (execution : Execution) : Widget :=
  match (execution.action? action).bind ActionStatus.result with
  | some result => widget.setMetadata (.ofResult result)
  | none => widget

/-- What is reported when the result of an action is attached. -/
def attachEvents (action : String) (execution : Execution) : List Event :=
  match execution.action? action with
  | none => [⟨.debug, s!"No status for action {action} in execution {execution.executionId}"⟩]
  | some status =>
      match status.result with
      | some result => resultEvents result
      | none =>
          [⟨.debug, s!"Action {action} in execution {execution.executionId} has no result yet"⟩]

/-- Hydrates a widget. -/
def Widget.hydrate (executions : Executions) (widget : Widget) : Hydration Widget :=
  match widget.source.resolve? with
  | none => ⟨.ok widget, [], []⟩
  | some reference =>
      match executions reference.lookup with
      | .error failure => ⟨.error failure, [reference.lookup], []⟩
      | .ok execution =>
          ⟨.ok (widget.attach reference.action execution), [reference.lookup],
            attachEvents reference.action execution⟩

/-- Hydrates the widget at a position. -/
def Repository.hydrate (repository : Repository) (placed : Widget × Nat) : Hydration Widget :=
  placed.1.hydrate (repository.executionsAt placed.2)

/-- Hydrates the widgets at some positions one after the other, up to the first failure. -/
def hydrateWidgets (repository : Repository) : List (Widget × Nat) → Hydration (List Widget)
  | [] => ⟨.ok [], [], []⟩
  | placed :: rest =>
      let first := repository.hydrate placed
      match first.result with
      | .error failure => ⟨.error failure, first.lookups, first.events⟩
      | .ok widget =>
          let others := hydrateWidgets repository rest
          ⟨others.result.map (widget :: ·), first.lookups ++ others.lookups,
            first.events ++ others.events⟩

/-- Hydrates a dashboard. -/
def Dashboard.hydrate (repository : Repository) (dashboard : Dashboard) : Hydration Dashboard :=
  let start : Event :=
    ⟨.debug, s!"Hydrating dashboard {dashboard.name} ({dashboard.widgets.length} widgets)"⟩
  let widgets := hydrateWidgets repository dashboard.widgets.zipIdx
  ⟨widgets.result.map fun widgets => { dashboard with widgets := widgets }, widgets.lookups,
    start :: widgets.events⟩

end ResultBoards
