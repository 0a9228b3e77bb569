import ResultBoards.Proofs.Hydration.Concurrent

/-!
# Hydration of one widget

A widget is hydrated in its place: the service works on the widget that stands in the
dashboard, and when it stops, for whatever reason, the widget stands there as it was left.
`Widget.hydrate` answers a new widget and says nothing about the old one where a lookup has
failed.  Here the same work is written out on a `Slot`, step after step, so that what is left
behind by a failure can be asked for.

## Strategy

* There are three ways through the work: the source is incomplete, the lookup fails, or it
  is answered.  `hydrateInPlace_of_incomplete`, `hydrateInPlace_of_error` and
  `hydrateInPlace_of_ok` say how each of them ends, and nothing else opens the steps.
* That the source is complete is said by its parts (`Source.resolve?_eq_none_iff`), and that a
  status is the one that counts by what stands before it (`Execution.action?_eq_some_iff`).
-/

namespace ResultBoards

/-! ## Working on a widget in its place -/

/-- A widget that is worked on: as it stands, the lookups that were made for it, and what was
reported. -/
structure Slot where
  widget : Widget
  lookups : List Lookup
  events : List Event

namespace Slot

/-- Work on a slot.  It may stop with a failure, and what was done to the slot by then stays
done. -/
abbrev Work (α : Type) := EStateM LookupFailure Slot α

/-- Makes a lookup. -/
def ask (executions : Executions) (lookup : Lookup) : Work Execution := do
  modify fun slot => { slot with lookups := slot.lookups ++ [lookup] }
  match executions lookup with
  | .error failure => throw failure
  | .ok execution => return execution

/-- Reports events. -/
def report (events : List Event) : Work Unit :=
  modify fun slot => { slot with events := slot.events ++ events }

/-- Attaches the result of an action to the widget, if an execution reports one. -/
def attach (action : String) (execution : Execution) : Work Unit := do
  report (attachEvents action execution)
  match execution.action? action with
  | none => return ()
  | some status =>
      match status.result with
      | none => return ()
      | some result =>
          modify fun slot => { slot with widget := slot.widget.setMetadata (.ofResult result) }

/-- Hydrates the widget. -/
def hydrate (executions : Executions) : Work Unit := do
  let slot ← get
  match slot.widget.source.resolve? with
  | none => return ()
  | some reference =>
      let execution ← ask executions reference.lookup
      attach reference.action execution

variable (executions : Executions) (slot : Slot)

theorem run_ask (lookup : Lookup) :
    (ask executions lookup).run slot =
      match executions lookup with
      | .error failure => .error failure { slot with lookups := slot.lookups ++ [lookup] }
      | .ok execution => .ok execution { slot with lookups := slot.lookups ++ [lookup] } := by
  cases hlookup : executions lookup with
  | error failure =>
      simp only [ask, hlookup]
      rfl
  | ok execution =>
      simp only [ask, hlookup]
      rfl

theorem run_attach (action : String) (execution : Execution) :
    (attach action execution).run slot =
      .ok () { slot with
        widget := slot.widget.attach action execution
        events := slot.events ++ attachEvents action execution } := by
  unfold attach Widget.attach
  cases execution.action? action with
  | none => simp [report]
  | some status => cases hresult : status.result <;> simp [report, hresult]

end Slot

/-- Hydrates a widget in its place: whether it worked, and the slot as it was left. -/
def Widget.hydrateInPlace (executions : Executions) (widget : Widget) :
    Except LookupFailure Unit × Slot :=
  match (Slot.hydrate executions).run ⟨widget, [], []⟩ with
  | .ok _ slot => (.ok (), slot)
  | .error failure slot => (.error failure, slot)

/-! ## Sources and statuses -/

/-- One of the references of a source is missing or empty. -/
def Source.IsIncomplete (source : Source) : Prop :=
  ∃ part ∈ [source.workflow, source.execution, source.action], part = Option.none ∨ part = some ""

theorem Source.resolve?_eq_none_iff {source : Source} :
    source.resolve? = Option.none ↔ source.IsIncomplete := by
  have hfilter : ∀ part : Option String,
      part.filter (· ≠ "") = Option.none ↔ part = Option.none ∨ part = some "" := by
    intro part
    cases part <;> simp
  simp only [IsIncomplete, List.mem_cons, List.not_mem_nil, or_false, exists_eq_or_imp,
    exists_eq_left, ← hfilter]
  unfold resolve?
  cases source.workflow.filter (· ≠ "") with
  | none => simp
  | some workflow =>
      cases source.execution.filter (· ≠ "") with
      | none => simp
      | some execution => cases source.action.filter (· ≠ "") <;> simp

/-- A source that resolves gives the references that it resolves to. -/
theorem Source.eq_ofNames_of_resolve? {source : Source} {reference : SourceRef}
    (hresolve : source.resolve? = some reference) :
    source = .ofNames reference.workflow reference.execution reference.action := by
  obtain ⟨workflow, execution, action⟩ := source
  simp only [resolve?, Option.bind_eq_bind, Option.bind_eq_some_iff, Option.filter_eq_some_iff,
    Option.pure_def] at hresolve
  obtain ⟨_, ⟨rfl, _⟩, _, ⟨rfl, _⟩, _, ⟨rfl, _⟩, hreference⟩ := hresolve
  obtain rfl := Option.some.inj hreference
  rfl

/-- The first element of a list that has a property. -/
def IsFirst {α : Type} (property : α → Prop) (list : List α) (element : α) : Prop :=
  ∃ front back, list = front ++ element :: back ∧ property element ∧
    ∀ other ∈ front, ¬ property other

theorem find?_eq_some_iff_isFirst {α : Type} {property : α → Prop} [DecidablePred property]
    {list : List α} {element : α} :
    list.find? (fun other => decide (property other)) = some element ↔
      IsFirst property list element := by
  rw [List.find?_eq_some_iff_append]
  constructor
  · rintro ⟨helement, front, back, hlist, hfront⟩
    exact ⟨front, back, hlist, by simpa using helement, by simpa using hfront⟩
  · rintro ⟨front, back, hlist, helement, hfront⟩
    exact ⟨by simpa using helement, front, back, hlist, by simpa using hfront⟩

/-- The first of the statuses with the id of an action. -/
def Execution.FirstStatus (execution : Execution) (action : String) (status : ActionStatus) :
    Prop :=
  IsFirst (fun status => status.actionId = action) execution.actions status

theorem Execution.action?_eq_some_iff {execution : Execution} {action : String}
    {status : ActionStatus} :
    execution.action? action = some status ↔ execution.FirstStatus action status :=
  find?_eq_some_iff_isFirst

/-- The most recent execution is asked for by the workflow, any other by its own id. -/
theorem SourceRef.lookup_eq (reference : SourceRef) :
    reference.lookup =
      if reference.execution = "latest" then .latest reference.workflow
      else .byId reference.execution := by
  by_cases hlatest : reference.execution = "latest"
  · simp [lookup, isLatest, latestExecution, hlatest]
  · simp [lookup, isLatest, latestExecution, hlatest]

namespace Widget

variable (widget : Widget) {action : String} {execution : Execution}

theorem attach_of_firstStatus {status : ActionStatus} {result : String}
    (hstatus : execution.FirstStatus action status) (hresult : status.result = some result) :
    widget.attach action execution = { widget with metadata := some (.ofResult result) } := by
  simp only [attach, Execution.action?_eq_some_iff.mpr hstatus, Option.bind_some, hresult]
  rfl

/-- A result that a later status has does not count. -/
theorem attach_of_no_result
    (hnone : ¬ ∃ status result, execution.FirstStatus action status ∧ status.result = some result) :
    widget.attach action execution = widget := by
  have hbind : (execution.action? action).bind ActionStatus.result = none := by
    rw [Option.bind_eq_none_iff]
    intro status hstatus
    by_contra hsome
    obtain ⟨result, hresult⟩ := Option.ne_none_iff_exists'.mp hsome
    exact hnone ⟨status, result, Execution.action?_eq_some_iff.mp hstatus, hresult⟩
  rw [attach, hbind]

end Widget

/-! ## The ways through -/

namespace Widget

variable {executions : Executions} {widget : Widget} {reference : SourceRef}

theorem hydrateInPlace_of_incomplete (hresolve : widget.source.resolve? = none) :
    widget.hydrateInPlace executions = (.ok (), ⟨widget, [], []⟩) := by
  simp [hydrateInPlace, Slot.hydrate, hresolve]

theorem hydrateInPlace_of_error (hresolve : widget.source.resolve? = some reference)
    {failure : LookupFailure} (hlookup : executions reference.lookup = .error failure) :
    widget.hydrateInPlace executions = (.error failure, ⟨widget, [reference.lookup], []⟩) := by
  simp [hydrateInPlace, Slot.hydrate, hresolve, Slot.run_ask, hlookup]

theorem hydrateInPlace_of_ok (hresolve : widget.source.resolve? = some reference)
    {execution : Execution} (hlookup : executions reference.lookup = .ok execution) :
    widget.hydrateInPlace executions =
      (.ok (), ⟨widget.attach reference.action execution, [reference.lookup],
        attachEvents reference.action execution⟩) := by
  simp [hydrateInPlace, Slot.hydrate, hresolve, Slot.run_ask, hlookup,
    Slot.run_attach]

/-- What hydrating a widget in its place does, case by case. -/
structure IsHydratedInPlace (executions : Executions) (widget : Widget)
    (outcome : Except LookupFailure Unit) (left : Slot) : Prop where
  /-- Where a reference is missing or empty nothing happens. -/
  incomplete : widget.source.IsIncomplete →
    outcome = .ok () ∧ left.lookups = [] ∧ left.widget = widget
  /-- Otherwise there is one lookup, and the execution says which. -/
  lookup : ¬ widget.source.IsIncomplete → ∃ workflow execution action,
    widget.source = .ofNames workflow execution action ∧
      left.lookups = [if execution = "latest" then .latest workflow else .byId execution]
  /-- Its failure is that of the hydration. -/
  failed : ∀ lookup failure, left.lookups = [lookup] → executions lookup = .error failure →
    outcome = .error failure ∧ left.widget = widget
  /-- The result that the first status of the action has becomes the metadata. -/
  attached : ∀ lookup execution action status result, left.lookups = [lookup] →
    executions lookup = .ok execution → widget.source.action = some action →
    execution.FirstStatus action status → status.result = some result →
    outcome = .ok () ∧ left.widget = { widget with metadata := some (.ofResult result) }
  /-- If there is no such status, or no result in it, nothing changes. -/
  kept : ∀ lookup execution action, left.lookups = [lookup] →
    executions lookup = .ok execution → widget.source.action = some action →
    (¬ ∃ status result, execution.FirstStatus action status ∧ status.result = some result) →
    outcome = .ok () ∧ left.widget = widget
  /-- Nothing but the metadata ever changes. -/
  sameFrame : widget.SameFrame left.widget
  /-- A widget that is hydrated is answered as it was left. -/
  hydrate_eq : widget.hydrate executions =
    ⟨outcome.map fun _ => left.widget, left.lookups, left.events⟩

/-- A source that resolves needs the one lookup that it names. -/
theorem exists_lookup_of_resolve? (hresolve : widget.source.resolve? = some reference) :
    ∃ workflow execution action, widget.source = .ofNames workflow execution action ∧
      [reference.lookup] = [if execution = "latest" then .latest workflow else .byId execution] :=
  ⟨_, _, _, Source.eq_ofNames_of_resolve? hresolve,
    congrArg (fun lookup => [lookup]) reference.lookup_eq⟩

theorem not_isIncomplete_of_resolve? (hresolve : widget.source.resolve? = some reference) :
    ¬ widget.source.IsIncomplete := by
  rw [← Source.resolve?_eq_none_iff, hresolve]
  exact Option.some_ne_none reference

theorem isHydratedInPlace_of_error (hresolve : widget.source.resolve? = some reference)
    {failure : LookupFailure} (hlookup : executions reference.lookup = .error failure) :
    widget.IsHydratedInPlace executions (.error failure) ⟨widget, [reference.lookup], []⟩ where
  incomplete hincomplete := absurd hincomplete (not_isIncomplete_of_resolve? hresolve)
  lookup _ := exists_lookup_of_resolve? hresolve
  failed := by
    rintro _ other ⟨⟩ hfails
    obtain rfl : failure = other := Except.error.inj (hlookup.symm.trans hfails)
    exact ⟨rfl, rfl⟩
  attached := by
    rintro _ execution _ _ _ ⟨⟩ hanswer
    exact nomatch hlookup.symm.trans hanswer
  kept := by
    rintro _ execution _ ⟨⟩ hanswer
    exact nomatch hlookup.symm.trans hanswer
  sameFrame := ⟨rfl, rfl, rfl, rfl⟩
  hydrate_eq := by simp [Widget.hydrate, hresolve, hlookup, Except.map]

theorem isHydratedInPlace_of_ok (hresolve : widget.source.resolve? = some reference)
    {execution : Execution} (hlookup : executions reference.lookup = .ok execution) :
    widget.IsHydratedInPlace executions (.ok ())
      ⟨widget.attach reference.action execution, [reference.lookup],
        attachEvents reference.action execution⟩ := by
  -- whatever execution and action are spoken of, they are these
  have hanswered : ∀ {other : Execution}, executions reference.lookup = .ok other →
      execution = other := fun hanswer => Except.ok.inj (hlookup.symm.trans hanswer)
  have haction : ∀ {action : String}, widget.source.action = some action →
      reference.action = action := by
    intro action haction
    rw [Source.eq_ofNames_of_resolve? hresolve] at haction
    exact Option.some.inj haction
  constructor
  case incomplete =>
    intro hincomplete
    exact absurd hincomplete (not_isIncomplete_of_resolve? hresolve)
  case lookup => exact fun _ => exists_lookup_of_resolve? hresolve
  case failed =>
    rintro _ failure ⟨⟩ hfails
    exact nomatch hlookup.symm.trans hfails
  case attached =>
    rintro _ other action status result ⟨⟩ hanswer hnamed hstatus hresult
    obtain rfl := hanswered hanswer
    obtain rfl := haction hnamed
    exact ⟨rfl, widget.attach_of_firstStatus hstatus hresult⟩
  case kept =>
    rintro _ other action ⟨⟩ hanswer hnamed hnone
    obtain rfl := hanswered hanswer
    obtain rfl := haction hnamed
    exact ⟨rfl, widget.attach_of_no_result hnone⟩
  case sameFrame => exact widget.sameFrame_attach reference.action execution
  case hydrate_eq => simp [Widget.hydrate, hresolve, hlookup, Except.map]

/-- **Hydrating one widget.**  Whatever the widget shows and whatever the execution service
answers, the widget is left as it was if its source is incomplete, and nothing is asked for
then.  Otherwise one execution is asked for.  The widget is left as it was if that fails, and
if the first status of the action is missing or has no result.  In the one case that remains
the result becomes its metadata, whatever that was before.  Kind, layout, source and options
stay the same in all cases. -/
theorem isHydratedInPlace_hydrateInPlace (executions : Executions) (widget : Widget) :
    widget.IsHydratedInPlace executions (widget.hydrateInPlace executions).1
      (widget.hydrateInPlace executions).2 := by
  cases hresolve : widget.source.resolve? with
  | none =>
      have hincomplete := Source.resolve?_eq_none_iff.mp hresolve
      rw [hydrateInPlace_of_incomplete hresolve]
      exact {
        incomplete := fun _ => ⟨rfl, rfl, rfl⟩
        lookup := fun hcomplete => absurd hincomplete hcomplete
        failed := by simp
        attached := by simp
        kept := by simp
        sameFrame := ⟨rfl, rfl, rfl, rfl⟩
        hydrate_eq := by simp [Widget.hydrate, hresolve, Except.map] }
  | some reference =>
      cases hlookup : executions reference.lookup with
      | error failure =>
          rw [hydrateInPlace_of_error hresolve hlookup]
          exact isHydratedInPlace_of_error hresolve hlookup
      | ok execution =>
          rw [hydrateInPlace_of_ok hresolve hlookup]
          exact isHydratedInPlace_of_ok hresolve hlookup

/-- The first status of the action has no result, so that of the second one is not shown and
the old metadata stays. -/
example :
    let widget : Widget := ⟨.titled "", .ofNames "wf" "e-7" "a", .plain .table, some (.raw "old")⟩
    let executions : Executions := fun _ => .ok ⟨"e-7", "wf", none, none, none, none,
      [⟨"a", none, none, none, none⟩, ⟨"a", none, none, none, some "new"⟩]⟩
    (widget.hydrateInPlace executions).1 = .ok () ∧
      (widget.hydrateInPlace executions).2.widget = widget ∧
      (widget.hydrateInPlace executions).2.lookups = [.byId "e-7"] :=
  ⟨rfl, rfl, rfl⟩

end Widget

/-- Two turns at a widget, of which the first starts the lookup and the second takes the
answer, leave it as hydrating it in its place does. -/
theorem Hydrating.advance_advance (executions : Executions) (widget : Widget) :
    advance executions (advance executions widget .ready).1
        (advance executions widget .ready).2 =
      ((widget.hydrateInPlace executions).2.widget,
        match (widget.hydrateInPlace executions).1 with
        | .ok _ => .done
        | .error failure => .failed failure) := by
  cases hresolve : widget.source.resolve? with
  | none => simp [advance, hresolve, Widget.hydrateInPlace_of_incomplete hresolve]
  | some reference =>
      cases hlookup : executions reference.lookup with
      | error failure =>
          simp [advance, hresolve, hlookup, Widget.hydrateInPlace_of_error hresolve hlookup]
      | ok execution =>
          simp [advance, hresolve, hlookup, Widget.hydrateInPlace_of_ok hresolve hlookup]

end ResultBoards
