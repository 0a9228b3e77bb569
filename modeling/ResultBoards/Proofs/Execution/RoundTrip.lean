import ResultBoards.Execution
import ResultBoards.Proofs.Calendar.RoundTrip
import ResultBoards.Proofs.Json.Decoding

/-!
# Executions survive their encoding

An execution may reach the library as an object or as an array, with fields left out or
`null`, and with timestamps in any notation and at any offset.  It is written in one way only:
as an object with all of its fields, whose timestamps are in universal time.  That text is one
that decodes, and it decodes to the same execution (`Execution.decode_written`), so nothing is
lost or moved between the services that pass an execution on.
-/

namespace ResultBoards

open Json

/-! ## Optional fields -/

/-- A field that may be `null` is told by its first character: no string starts like `null`. -/
theorem readsAs_optional {α : Type} {decoder : Decoder α} {limits : Limits} {write : α → String}
    (hreads : ∀ value, ReadsAs limits.steps (decoder limits) (.string (write value)) value)
    (field : Option α) :
    ReadsAs limits.steps (Decoder.optional decoder limits) (.ofString? (field.map write))
      field := by
  cases field with
  | none =>
      refine ⟨startsValue_cons _ (by decide) (by decide), fun {gap rest} hgap _ _ => ?_⟩
      have hnull : (Value.ofString? ((none : Option α).map write)).write = ['n', 'u', 'l', 'l'] :=
        rfl
      rw [hnull, Decoder.optional, dropBlank_gap hgap, List.cons_append,
        dropBlank_cons _ (by decide)]
      rfl
  | some value =>
      refine ⟨(hreads value).starts, fun {gap rest} hgap hrest hbound => ?_⟩
      have hread := (hreads value).reads isGap_nil hrest hbound
      have hquote : (Value.ofString? ((some value).map write)).write =
          '"' :: ((write value).toList.flatMap escapedChar ++ ['"']) := rfl
      rw [Decoder.optional, dropBlank_gap hgap, hquote, List.cons_append,
        dropBlank_cons _ (by decide)]
      exact congrArg (Except.map fun read => (some read.1, read.2)) hread

theorem readsAs_optionalString (text : Option String) (limits : Limits) :
    ReadsAs limits.steps (Decoder.optional .string limits) (.ofString? text) text := by
  have hreads : ReadsAs limits.steps (Decoder.optional .string limits)
      (.ofString? (text.map id)) text :=
    readsAs_optional (fun text => readsAs_string text limits) text
  rwa [Option.map_id_apply] at hreads

theorem readsAs_timestamp (timestamp : Timestamp) (limits : Limits) :
    ReadsAs limits.steps (Timestamp.decoder limits) (.string timestamp.toText) timestamp :=
  readsAs_checkedString _ (by rw [Timestamp.ofText_toText]; rfl) limits

theorem readsAs_optionalTimestamp (timestamp : Option Timestamp) (limits : Limits) :
    ReadsAs limits.steps (Decoder.optional Timestamp.decoder limits)
      (.ofString? (timestamp.map Timestamp.toText)) timestamp :=
  readsAs_optional (fun timestamp => readsAs_timestamp timestamp limits) timestamp

/-! ## Actions and executions -/

/-- The status of an action is read from its written form. -/
theorem readsAs_actionStatus (status : ActionStatus) (steps depth : Nat) :
    ReadsAs steps (ActionStatus.decoder ⟨steps, depth + 1⟩) status.toValue status := by
  obtain ⟨actionId, name, appName, state, result⟩ := status
  have hid := readsAs_string actionId ⟨steps, depth⟩
  have hfield (text : Option String) := readsAs_optionalString text ⟨steps, depth⟩
  refine readsAs_shape
    ⟨some actionId, some name, some appName, some state, some result⟩ ?_ rfl
  refine .cons rfl (readsAs_map hid fun actionId =>
    (⟨some actionId, none, none, none, none⟩ : ActionStatus.Draft)) ?_
  refine .cons rfl (readsAs_map (hfield name) fun name =>
    (⟨some actionId, some name, none, none, none⟩ : ActionStatus.Draft)) ?_
  refine .cons rfl (readsAs_map (hfield appName) fun appName =>
    (⟨some actionId, some name, some appName, none, none⟩ : ActionStatus.Draft)) ?_
  refine .cons rfl (readsAs_map (hfield state) fun state =>
    (⟨some actionId, some name, some appName, some state, none⟩ : ActionStatus.Draft)) ?_
  refine .cons rfl (readsAs_map (hfield result) fun result =>
    (⟨some actionId, some name, some appName, some state, some result⟩ : ActionStatus.Draft))
    (.nil _)

/-- An execution is read from its written form. -/
theorem readsAs_execution (execution : Execution) (steps depth : Nat) :
    ReadsAs steps (Execution.decoder ⟨steps, depth + 3⟩) execution.toValue execution := by
  obtain ⟨executionId, workflowId, name, status, startedAt, completedAt, actions⟩ := execution
  have hid (text : String) := readsAs_string text ⟨steps, depth + 2⟩
  have hfield (text : Option String) := readsAs_optionalString text ⟨steps, depth + 2⟩
  have htime (timestamp : Option Timestamp) :=
    readsAs_optionalTimestamp timestamp ⟨steps, depth + 2⟩
  have hactions : List.Forall₂ (ReadsAs steps (ActionStatus.decoder ⟨steps, depth + 1⟩))
      (actions.map ActionStatus.toValue) actions := by
    rw [List.forall₂_map_left_iff, List.forall₂_same]
    exact fun status _ => readsAs_actionStatus status steps depth
  -- the members are read one by one into the slots of a draft
  refine readsAs_shape ⟨some executionId, some workflowId, some name, some status,
    some startedAt, some completedAt, some actions⟩ ?_ rfl
  refine .cons rfl (readsAs_map (hid executionId) fun executionId =>
    (⟨some executionId, none, none, none, none, none, none⟩ : Execution.Draft)) ?_
  refine .cons rfl (readsAs_map (hid workflowId) fun workflowId =>
    (⟨some executionId, some workflowId, none, none, none, none, none⟩ : Execution.Draft)) ?_
  refine .cons rfl (readsAs_map (hfield name) fun name =>
    (⟨some executionId, some workflowId, some name, none, none, none, none⟩ :
      Execution.Draft)) ?_
  refine .cons rfl (readsAs_map (hfield status) fun status =>
    (⟨some executionId, some workflowId, some name, some status, none, none, none⟩ :
      Execution.Draft)) ?_
  refine .cons rfl (readsAs_map (htime startedAt) fun startedAt =>
    (⟨some executionId, some workflowId, some name, some status, some startedAt, none, none⟩ :
      Execution.Draft)) ?_
  refine .cons rfl (readsAs_map (htime completedAt) fun completedAt =>
    (⟨some executionId, some workflowId, some name, some status, some startedAt,
      some completedAt, none⟩ : Execution.Draft)) ?_
  refine .cons rfl (readsAs_map (readsAs_list hactions) fun actions =>
    (⟨some executionId, some workflowId, some name, some status, some startedAt,
      some completedAt, some actions⟩ : Execution.Draft)) (.nil _)

/-- **Executions survive their encoding.**  Whatever text an execution was decoded from, its own
text decodes to the same execution: the same instants to the nanosecond, the same leap seconds
and the same actions in the same order.  So writing what is decoded gives that text again. -/
theorem Execution.decode_written (execution : Execution) :
    decoder.decode execution.toValue.toText = .ok execution ∧
      (decoder.decode execution.toValue.toText).map (fun again => again.toValue.toText) =
        .ok execution.toValue.toText := by
  have hdecode : decoder.decode execution.toValue.toText = .ok execution :=
    decode_toText fun steps => readsAs_execution execution steps 124
  refine ⟨hdecode, ?_⟩
  rw [hdecode]
  rfl

/-- An array of the first fields, in which clocks half an hour behind show a leap second. -/
example :
    (Execution.decoder.decode
        "[\"e\",\"w\",null,null,\"1999-12-31 23:59:60.1234567899 -0030\"]").map
      (fun execution => execution.startedAt.map Timestamp.toText) =
    .ok (some "2000-01-01T00:29:60.123456789Z") := rfl

end ResultBoards
