import ResultBoards.Calendar.Reader

/-!
# Executions

What the execution service reports of a run of a workflow: when it started and ended,
and the status of its actions with the results they left behind.
-/

namespace ResultBoards

open Json (Decoder Shape Value)

/-- The status of one action of an execution.  An action that is still running has no
result. -/
structure ActionStatus where
  actionId : String
  name : Option String
  appName : Option String
  status : Option String
  result : Option String
deriving DecidableEq, Repr

/-- An execution of a workflow. -/
structure Execution where
  executionId : String
  workflowId : String
  name : Option String
  status : Option String
  startedAt : Option Timestamp
  completedAt : Option Timestamp
  actions : List ActionStatus
deriving DecidableEq

/-- The first status of an action. -/
def Execution.action? (execution : Execution) (actionId : String) : Option ActionStatus :=
  execution.actions.find? fun status => status.actionId = actionId

/-! ## Writing -/

/-- The status of an action as an object. -/
def ActionStatus.toValue (status : ActionStatus) : Value :=
  .object [
    ("action_id", .string status.actionId),
    ("name", .ofString? status.name),
    ("app_name", .ofString? status.appName),
    ("status", .ofString? status.status),
    ("result", .ofString? status.result)]

/-- An execution as an object. -/
def Execution.toValue (execution : Execution) : Value :=
  .object [
    ("execution_id", .string execution.executionId),
    ("workflow_id", .string execution.workflowId),
    ("name", .ofString? execution.name),
    ("status", .ofString? execution.status),
    ("started_at", .ofString? (execution.startedAt.map Timestamp.toText)),
    ("completed_at", .ofString? (execution.completedAt.map Timestamp.toText)),
    ("action_statuses", .array (execution.actions.map ActionStatus.toValue))]

/-! ## Reading -/

namespace ActionStatus

/-- What has been read of the status of an action. -/
structure Draft where
  actionId : Option String
  name : Option (Option String)
  appName : Option (Option String)
  status : Option (Option String)
  result : Option (Option String)

/-- The fields of the status of an action. -/
def shape : Shape Draft ActionStatus where
  name := "ActionStatus"
  empty := ⟨none, none, none, none, none⟩
  fields := [
    .ofSlot "action_id" true .string Draft.actionId fun draft value =>
      { draft with actionId := some value },
    .ofSlot "name" false (.optional .string) Draft.name fun draft value =>
      { draft with name := some value },
    .ofSlot "app_name" false (.optional .string) Draft.appName fun draft value =>
      { draft with appName := some value },
    .ofSlot "status" false (.optional .string) Draft.status fun draft value =>
      { draft with status := some value },
    .ofSlot "result" false (.optional .string) Draft.result fun draft value =>
      { draft with result := some value }]
  build draft := do
    let actionId ← Json.required "action_id" draft.actionId
    return ⟨actionId, draft.name.join, draft.appName.join, draft.status.join, draft.result.join⟩

/-- Decodes the status of an action. -/
def decoder : Decoder ActionStatus := shape.decoder

end ActionStatus

namespace Execution

/-- What has been read of an execution. -/
structure Draft where
  executionId : Option String
  workflowId : Option String
  name : Option (Option String)
  status : Option (Option String)
  startedAt : Option (Option Timestamp)
  completedAt : Option (Option Timestamp)
  actions : Option (List ActionStatus)

/-- The fields of an execution. -/
def shape : Shape Draft Execution where
  name := "WorkflowStatus"
  empty := ⟨none, none, none, none, none, none, none⟩
  fields := [
    .ofSlot "execution_id" true .string Draft.executionId fun draft value =>
      { draft with executionId := some value },
    .ofSlot "workflow_id" true .string Draft.workflowId fun draft value =>
      { draft with workflowId := some value },
    .ofSlot "name" false (.optional .string) Draft.name fun draft value =>
      { draft with name := some value },
    .ofSlot "status" false (.optional .string) Draft.status fun draft value =>
      { draft with status := some value },
    .ofSlot "started_at" false (.optional Timestamp.decoder) Draft.startedAt fun draft value =>
      { draft with startedAt := some value },
    .ofSlot "completed_at" false (.optional Timestamp.decoder) Draft.completedAt
      fun draft value => { draft with completedAt := some value },
    .ofSlot "action_statuses" false (.list ActionStatus.decoder) Draft.actions
      fun draft value => { draft with actions := some value }]
  build draft := do
    let executionId ← Json.required "execution_id" draft.executionId
    let workflowId ← Json.required "workflow_id" draft.workflowId
    return ⟨executionId, workflowId, draft.name.join, draft.status.join, draft.startedAt.join,
      draft.completedAt.join, draft.actions.getD []⟩

/-- Decodes an execution. -/
def decoder : Decoder Execution := shape.decoder

end Execution

end ResultBoards
