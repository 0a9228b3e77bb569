import Mathlib.Data.List.Forall2
import Mathlib.Logic.Function.Basic
import ResultBoards.Hydration

/-!
# Hydration in any order

The widgets of a dashboard are looked after at the same time.  Each lookup is under way
on its own, each result is put into the dashboard when it comes, and what comes first is
up to the execution service.  The outcome is not: it is that of hydrating one widget
after the other.  Two widgets that ask the same need not get the same answer, since the
service goes on working in the meantime, so each position has answers of its own.

## Strategy

A `Hydrating` is a dashboard whose widgets are being replaced in place, together with how
far each of them is.  A run is a list of positions, at each of which one turn is taken:
the first turn at a widget starts its lookup, the second takes the answer.  The join that
waits for all widgets may end with any failure there is so far, so it does not matter
when it takes note of one and of which (`Hydrating.Ends`).

* `IsSound` says of each widget how what stands in the dashboard follows from the widget
  that was there at first and from how far it is (`Follows`).  A turn at one position
  leaves all others as they are, so `IsSound.turn` has one case for each kind of turn.
* What a finished or failed widget says about its own lookup is then put together for the
  whole dashboard (`result_hydrateWidgets_iff`).
* That the join ends at all is counted: after two turns a widget is at its end
  (`stage_run`).
-/

namespace ResultBoards

/-! ## Widgets on their own -/

/-- The lookup that a widget needs fails. -/
def Widget.LookupFails (executions : Executions) (widget : Widget) (failure : LookupFailure) :
    Prop :=
  ∃ reference, widget.source.resolve? = some reference ∧
    executions reference.lookup = .error failure

theorem Widget.result_hydrate_eq_error_iff {executions : Executions} {widget : Widget}
    {failure : LookupFailure} :
    (widget.hydrate executions).result = .error failure ↔
      widget.LookupFails executions failure := by
  unfold Widget.hydrate Widget.LookupFails
  cases hresolve : widget.source.resolve? with
  | none => simp
  | some reference => cases hlookup : executions reference.lookup <;> simp [hlookup]

/-- The lookup that the widget at a position needs fails. -/
def Repository.LookupFails (repository : Repository) (placed : Widget × Nat)
    (failure : LookupFailure) : Prop :=
  placed.1.LookupFails (repository.executionsAt placed.2) failure

theorem Repository.result_hydrate_eq_error_iff {repository : Repository} {placed : Widget × Nat}
    {failure : LookupFailure} :
    (repository.hydrate placed).result = .error failure ↔ repository.LookupFails placed failure :=
  Widget.result_hydrate_eq_error_iff

/-- Two widgets that differ in nothing but the result they show. -/
structure Widget.SameFrame (first second : Widget) : Prop where
  kind_eq : second.kind = first.kind
  layout_eq : second.layout = first.layout
  source_eq : second.source = first.source
  body_eq : second.body = first.body

theorem Widget.sameFrame_attach (widget : Widget) (action : String) (execution : Execution) :
    widget.SameFrame (widget.attach action execution) := by
  unfold Widget.attach
  split <;> exact ⟨rfl, rfl, rfl, rfl⟩

theorem Widget.sameFrame_of_hydrate {executions : Executions} {widget hydrated : Widget}
    (hresult : (widget.hydrate executions).result = .ok hydrated) : widget.SameFrame hydrated := by
  unfold Widget.hydrate at hresult
  split at hresult
  · cases hresult
    exact ⟨rfl, rfl, rfl, rfl⟩
  · split at hresult
    · simp at hresult
    · cases hresult
      exact widget.sameFrame_attach _ _

theorem map_eq_ok_iff {ε α β : Type} {result : Except ε α} {f : α → β} {value : β} :
    result.map f = .ok value ↔ ∃ found, result = .ok found ∧ f found = value := by
  cases result <;> simp [Except.map]

/-- Widgets are hydrated one after the other if each of them is. -/
theorem result_hydrateWidgets_iff {repository : Repository} {widgets : List (Widget × Nat)}
    {hydrated : List Widget} :
    (hydrateWidgets repository widgets).result = .ok hydrated ↔
      List.Forall₂ (fun placed other => (repository.hydrate placed).result = .ok other)
        widgets hydrated := by
  induction widgets generalizing hydrated with
  | nil => simp [hydrateWidgets, eq_comm]
  | cons placed rest ih =>
      rw [List.forall₂_cons_left_iff, hydrateWidgets]
      cases (repository.hydrate placed).result with
      | error failure => simp
      | ok first =>
          simp only [map_eq_ok_iff, ih, Except.ok.injEq]
          constructor
          · rintro ⟨others, hall, rfl⟩
            exact ⟨first, others, rfl, hall, rfl⟩
          · rintro ⟨_, others, rfl, hall, rfl⟩
            exact ⟨others, hall, rfl⟩

/-! ## Turns -/

/-- How far a widget is. -/
inductive Progress
  | ready
  | waiting (reference : SourceRef)
  | done
  | failed (failure : LookupFailure)

/-- The number of turns behind the progress. -/
def Progress.stage : Progress → Nat
  | ready => 0
  | waiting _ => 1
  | done => 2
  | failed _ => 2

/-- A dashboard while its widgets are hydrated. -/
structure Hydrating where
  dashboard : Dashboard
  progress : Nat → Progress

namespace Hydrating

/-- No widget has been looked at. -/
def start (dashboard : Dashboard) : Hydrating := ⟨dashboard, fun _ => .ready⟩

/-- One turn at a widget: its lookup is started, or the answer has come. -/
def advance (executions : Executions) (widget : Widget) : Progress → Widget × Progress
  | .ready =>
      match widget.source.resolve? with
      | none => (widget, .done)
      | some reference => (widget, .waiting reference)
  | .waiting reference =>
      match executions reference.lookup with
      | .error failure => (widget, .failed failure)
      | .ok execution => (widget.attach reference.action execution, .done)
  | progress => (widget, progress)

/-- One turn at the widget at a position, which is changed in its place. -/
def turn (repository : Repository) (state : Hydrating) (position : Nat) : Hydrating :=
  match state.dashboard.widgets[position]? with
  | none => state
  | some widget =>
      let (widget, progress) :=
        advance (repository.executionsAt position) widget (state.progress position)
      ⟨{ state.dashboard with widgets := state.dashboard.widgets.set position widget },
        Function.update state.progress position progress⟩

theorem turn_of_none {repository : Repository} {state : Hydrating} {position : Nat}
    (hnone : state.dashboard.widgets[position]? = none) :
    state.turn repository position = state := by
  simp only [turn, hnone]

theorem turn_of_some {repository : Repository} {state : Hydrating} {position : Nat}
    {widget : Widget} (hwidget : state.dashboard.widgets[position]? = some widget) :
    state.turn repository position =
      let after := advance (repository.executionsAt position) widget (state.progress position)
      ⟨{ state.dashboard with widgets := state.dashboard.widgets.set position after.1 },
        Function.update state.progress position after.2⟩ := by
  simp only [turn, hwidget]

/-- Turns at the given positions, one after the other. -/
def run (repository : Repository) (state : Hydrating) (turns : List Nat) : Hydrating :=
  turns.foldl (turn repository) state

/-- How the join may end: with the dashboard when all widgets are done, with a failure when
there is one. -/
inductive Ends (state : Hydrating) : Except LookupFailure Dashboard → Prop
  | finished (hdone : ∀ position < state.dashboard.widgets.length,
      state.progress position = .done) : Ends state (.ok state.dashboard)
  | failed {position : Nat} {failure : LookupFailure}
      (hfailed : state.progress position = .failed failure) : Ends state (.error failure)

variable {repository : Repository} {executions : Executions} {dashboard : Dashboard}
variable {state : Hydrating}

/-! ## What a turn keeps -/

/-- What stands in the place of a widget, and how far it is. -/
inductive Follows (executions : Executions) (widget : Widget) : Widget → Progress → Prop
  | ready : Follows executions widget widget .ready
  | waiting {reference : SourceRef} (hresolve : widget.source.resolve? = some reference) :
      Follows executions widget widget (.waiting reference)
  | done {hydrated : Widget} (hresult : (widget.hydrate executions).result = .ok hydrated) :
      Follows executions widget hydrated .done
  | failed {failure : LookupFailure} (hfails : widget.LookupFails executions failure) :
      Follows executions widget widget (.failed failure)

theorem Follows.advance {widget now : Widget} {progress : Progress}
    (hfollows : Follows executions widget now progress) :
    Follows executions widget (advance executions now progress).1
      (advance executions now progress).2 := by
  cases hfollows with
  | ready =>
      unfold Hydrating.advance
      cases hresolve : widget.source.resolve? with
      | none => exact .done (by simp [Widget.hydrate, hresolve])
      | some reference => exact .waiting hresolve
  | @waiting reference hresolve =>
      -- the widget is still what it was at first, so its answer is attached to that
      simp only [Hydrating.advance]
      cases hlookup : executions reference.lookup with
      | error failure => exact .failed ⟨reference, hresolve, hlookup⟩
      | ok execution => exact .done (by simp [Widget.hydrate, hresolve, hlookup])
  | done hresult => exact .done hresult
  | failed hfails => exact .failed hfails

theorem Follows.result_of_done {widget now : Widget}
    (hfollows : Follows executions widget now .done) :
    (widget.hydrate executions).result = .ok now := by
  cases hfollows with
  | done hresult => exact hresult

theorem Follows.lookupFails_of_failed {widget now : Widget} {failure : LookupFailure}
    (hfollows : Follows executions widget now (.failed failure)) :
    widget.LookupFails executions failure := by
  cases hfollows with
  | failed hfails => exact hfails

/-- The dashboard is the one that was there at first, but for what the widgets show. -/
structure IsSound (repository : Repository) (dashboard : Dashboard) (state : Hydrating) :
    Prop where
  id_eq : state.dashboard.id = dashboard.id
  name_eq : state.dashboard.name = dashboard.name
  length_eq : state.dashboard.widgets.length = dashboard.widgets.length
  follows : ∀ position widget now, dashboard.widgets[position]? = some widget →
    state.dashboard.widgets[position]? = some now →
    Follows (repository.executionsAt position) widget now (state.progress position)
  ready : ∀ position, dashboard.widgets[position]? = none → state.progress position = .ready

theorem isSound_start (repository : Repository) (dashboard : Dashboard) :
    IsSound repository dashboard (start dashboard) where
  id_eq := rfl
  name_eq := rfl
  length_eq := rfl
  follows position widget now hwidget hnow := by
    obtain rfl : widget = now := Option.some.inj (hwidget.symm.trans hnow)
    exact .ready
  ready _ _ := rfl

/-- **One turn.**  Whichever widget is next, the dashboard stays sound. -/
theorem IsSound.turn (hsound : IsSound repository dashboard state) (position : Nat) :
    IsSound repository dashboard (state.turn repository position) := by
  cases hstood : state.dashboard.widgets[position]? with
  | none =>
      rw [turn_of_none hstood]
      exact hsound
  | some stood =>
      rw [turn_of_some hstood]
      refine ⟨hsound.id_eq, hsound.name_eq, ?_, ?_, ?_⟩
      · rw [List.length_set, hsound.length_eq]
      · intro other widget now hwidget hnow
        by_cases hother : other = position
        · subst hother
          obtain ⟨hlt, _⟩ := List.getElem?_eq_some_iff.mp hstood
          rw [List.getElem?_set_self hlt] at hnow
          obtain rfl := Option.some.inj hnow
          simp only [Function.update_self]
          exact (hsound.follows other widget stood hwidget hstood).advance
        · rw [List.getElem?_set_ne (Ne.symm hother)] at hnow
          simp only [Function.update_of_ne hother]
          exact hsound.follows other widget now hwidget hnow
      · intro other hnone
        -- a turn was taken at the position, so there is a widget
        have hother : other ≠ position := by
          rintro rfl
          obtain ⟨hlt, _⟩ := List.getElem?_eq_some_iff.mp hstood
          have hge := List.getElem?_eq_none_iff.mp hnone
          have hlength := hsound.length_eq
          omega
        simp only [Function.update_of_ne hother]
        exact hsound.ready other hnone

theorem IsSound.run (hsound : IsSound repository dashboard state) (turns : List Nat) :
    IsSound repository dashboard (state.run repository turns) := by
  induction turns generalizing state with
  | nil => exact hsound
  | cons position turns ih => exact ih (hsound.turn position)

/-! ## How the join ends -/

/-- When all widgets are done, each is what hydrating it alone makes of it. -/
theorem IsSound.forall₂_of_done (hsound : IsSound repository dashboard state)
    (hdone : ∀ position < state.dashboard.widgets.length, state.progress position = .done) :
    List.Forall₂ (fun placed hydrated => (repository.hydrate placed).result = .ok hydrated)
      dashboard.widgets.zipIdx state.dashboard.widgets := by
  rw [List.forall₂_iff_get]
  refine ⟨List.length_zipIdx.trans hsound.length_eq.symm, fun position hfirst hnow => ?_⟩
  have hlt : position < dashboard.widgets.length := hsound.length_eq ▸ hnow
  have hfollows := hsound.follows position _ _ (List.getElem?_eq_getElem hlt)
    (List.getElem?_eq_getElem hnow)
  rw [hdone position hnow] at hfollows
  have hplaced : dashboard.widgets.zipIdx.get ⟨position, hfirst⟩ =
      (dashboard.widgets[position], position) := by simp
  rw [hplaced]
  exact hfollows.result_of_done

/-- A failure that was met is that of the lookup of a widget. -/
theorem IsSound.lookupFails_of_failed (hsound : IsSound repository dashboard state)
    {position : Nat} {failure : LookupFailure}
    (hfailed : state.progress position = .failed failure) :
    ∃ placed ∈ dashboard.widgets.zipIdx, repository.LookupFails placed failure := by
  cases hwidget : dashboard.widgets[position]? with
  | none =>
      rw [hsound.ready position hwidget] at hfailed
      contradiction
  | some widget =>
      obtain ⟨hlt, _⟩ := List.getElem?_eq_some_iff.mp hwidget
      have hnow : position < state.dashboard.widgets.length := hsound.length_eq ▸ hlt
      have hfollows := hsound.follows position widget _ hwidget (List.getElem?_eq_getElem hnow)
      rw [hfailed] at hfollows
      exact ⟨(widget, position), List.mem_zipIdx_iff_getElem?.mpr hwidget,
        hfollows.lookupFails_of_failed⟩

/-! ## That the join ends -/

theorem stage_advance (executions : Executions) (widget : Widget) (progress : Progress) :
    min 2 (progress.stage + 1) ≤ (advance executions widget progress).2.stage := by
  cases progress with
  | ready =>
      simp only [advance]
      split <;> simp [Progress.stage]
  | waiting reference =>
      simp only [advance]
      split <;> exact Nat.le_refl 2
  | done => exact Nat.le_refl 2
  | failed failure => exact Nat.le_refl 2

theorem length_turn (repository : Repository) (state : Hydrating) (position : Nat) :
    (state.turn repository position).dashboard.widgets.length =
      state.dashboard.widgets.length := by
  cases hwidget : state.dashboard.widgets[position]? with
  | none => rw [turn_of_none hwidget]
  | some widget =>
      rw [turn_of_some hwidget]
      exact List.length_set

theorem stage_turn (repository : Repository) (state : Hydrating) (position other : Nat)
    (hother : other < state.dashboard.widgets.length) :
    min 2 ((state.progress other).stage + [position].count other) ≤
      ((state.turn repository position).progress other).stage := by
  by_cases hsame : position = other
  · subst hsame
    have hwidget := List.getElem?_eq_getElem hother
    rw [turn_of_some hwidget, List.count_singleton_self]
    simp only [Function.update_self]
    exact stage_advance _ _ _
  · rw [List.count_singleton, if_neg (by simpa using hsame)]
    cases hwidget : state.dashboard.widgets[position]? with
    | none =>
        rw [turn_of_none hwidget]
        omega
    | some widget =>
        rw [turn_of_some hwidget]
        simp only [Function.update_of_ne (Ne.symm hsame)]
        omega

/-- Each turn at a widget counts, up to the second. -/
theorem stage_run (repository : Repository) (state : Hydrating) (turns : List Nat)
    {position : Nat} (hposition : position < state.dashboard.widgets.length) :
    min 2 ((state.progress position).stage + turns.count position) ≤
      ((state.run repository turns).progress position).stage := by
  induction turns generalizing state with
  | nil => exact Nat.min_le_right _ _
  | cons first turns ih =>
      have hlater := ih (state.turn repository first) (by rwa [length_turn])
      have hfirst := stage_turn repository state first position hposition
      have hcount : (first :: turns).count position =
          [first].count position + turns.count position := by
        rw [← List.singleton_append, List.count_append]
      calc
        min 2 ((state.progress position).stage + (first :: turns).count position)
          ≤ min 2 (((state.turn repository first).progress position).stage +
              turns.count position) := by omega
        _ ≤ _ := hlater

/-- The join ends once there were two turns at each widget. -/
theorem exists_ends (repository : Repository) (dashboard : Dashboard) {turns : List Nat}
    (hturns : ∀ position < dashboard.widgets.length, 2 ≤ turns.count position) :
    ∃ outcome, ((start dashboard).run repository turns).Ends outcome := by
  have hlength := ((isSound_start repository dashboard).run turns).length_eq
  by_cases hfailed : ∃ position failure,
      ((start dashboard).run repository turns).progress position = .failed failure
  · obtain ⟨_, failure, hfailed⟩ := hfailed
    exact ⟨.error failure, .failed hfailed⟩
  · -- no widget has failed, and none is on its way any more, so all are done
    refine ⟨_, .finished fun position hposition => ?_⟩
    rw [hlength] at hposition
    have hstage := stage_run repository (start dashboard) turns hposition
    have hcount := hturns position hposition
    have hstage : 2 ≤ (((start dashboard).run repository turns).progress position).stage := by
      omega
    cases hprogress : ((start dashboard).run repository turns).progress position with
    | ready => simp [hprogress, Progress.stage] at hstage
    | waiting reference => simp [hprogress, Progress.stage] at hstage
    | done => rfl
    | failed failure => exact absurd ⟨position, failure, hprogress⟩ hfailed

/-- What hydration answers, whatever the order of its lookups. -/
structure IsHydration (repository : Repository) (dashboard : Dashboard)
    (outcome : Except LookupFailure Dashboard) : Prop where
  succeeds_iff : (∃ hydrated, outcome = .ok hydrated) ↔
    ∀ placed ∈ dashboard.widgets.zipIdx, ∀ failure, ¬ repository.LookupFails placed failure
  ok : ∀ hydrated, outcome = .ok hydrated →
    (dashboard.hydrate repository).result = .ok hydrated ∧
      hydrated.id = dashboard.id ∧ hydrated.name = dashboard.name ∧
        List.Forall₂ (fun placed other =>
          (repository.hydrate placed).result = .ok other ∧ placed.1.SameFrame other)
          dashboard.widgets.zipIdx hydrated.widgets
  error : ∀ failure, outcome = .error failure →
    (∃ placed ∈ dashboard.widgets.zipIdx, repository.LookupFails placed failure) ∧
      ∃ first, (dashboard.hydrate repository).result = .error first

/-- If all widgets are hydrated none of their lookups failed. -/
theorem not_lookupFails_of_forall₂ {widgets : List (Widget × Nat)} {hydrated : List Widget}
    (hall : List.Forall₂ (fun placed other => (repository.hydrate placed).result = .ok other)
      widgets hydrated) :
    ∀ placed ∈ widgets, ∀ failure, ¬ repository.LookupFails placed failure := by
  induction hall with
  | nil => exact fun placed hplaced => nomatch hplaced
  | cons hresult _ ih =>
      intro placed hplaced failure hfails
      rcases List.mem_cons.mp hplaced with rfl | hrest
      · rw [Repository.result_hydrate_eq_error_iff.mpr hfails] at hresult
        contradiction
      · exact ih placed hrest failure hfails

theorem IsSound.isHydration (hsound : IsSound repository dashboard state)
    {outcome : Except LookupFailure Dashboard} (hends : state.Ends outcome) :
    IsHydration repository dashboard outcome := by
  cases hends with
  | finished hdone =>
      have hall := hsound.forall₂_of_done hdone
      refine ⟨⟨fun _ => not_lookupFails_of_forall₂ hall, fun _ => ⟨_, rfl⟩⟩, ?_, by simp⟩
      rintro _ ⟨⟩
      refine ⟨?_, hsound.id_eq, hsound.name_eq, hall.imp fun _ _ hresult => ?_⟩
      · obtain ⟨⟨id, name, widgets⟩, _⟩ := state
        obtain ⟨rfl, rfl⟩ : id = dashboard.id ∧ name = dashboard.name :=
          ⟨hsound.id_eq, hsound.name_eq⟩
        simp [Dashboard.hydrate, result_hydrateWidgets_iff.mpr hall, Except.map]
      · exact ⟨hresult, Widget.sameFrame_of_hydrate hresult⟩
  | failed hfailed =>
      obtain ⟨placed, hplaced, hfails⟩ := hsound.lookupFails_of_failed hfailed
      refine ⟨⟨by simp, fun hnone => absurd hfails (hnone placed hplaced _)⟩, by simp, ?_⟩
      rintro _ ⟨⟩
      refine ⟨⟨placed, hplaced, hfails⟩, ?_⟩
      cases hresult : (hydrateWidgets repository dashboard.widgets.zipIdx).result with
      | error first => exact ⟨first, by simp [Dashboard.hydrate, hresult, Except.map]⟩
      | ok hydrated =>
          have hall := result_hydrateWidgets_iff.mp hresult
          exact absurd hfails (not_lookupFails_of_forall₂ hall placed hplaced _)

/-- **The order does not matter.**  In whichever order the lookups of a dashboard are started
and answered, and whatever each of them is answered, hydration ends, and it succeeds if and
only if no lookup fails.  Then each widget is what hydrating it alone makes of it, and the
dashboard is that of hydrating one widget after the other.  Otherwise the failure is that of
one of the widgets. -/
theorem isHydration_of_ends (repository : Repository) (dashboard : Dashboard)
    (turns : List Nat) :
    ((∀ position < dashboard.widgets.length, 2 ≤ turns.count position) →
        ∃ outcome, ((start dashboard).run repository turns).Ends outcome) ∧
      ∀ outcome, ((start dashboard).run repository turns).Ends outcome →
        IsHydration repository dashboard outcome :=
  ⟨exists_ends repository dashboard,
    fun _ hends => ((isSound_start repository dashboard).run turns).isHydration hends⟩

/-- The second lookup is answered first.  Where both fail its failure is the outcome, though
one after the other the first would have been. -/
theorem isHydration_of_second_first :
    let dashboard : Dashboard := ⟨"1", "ops", [
      ⟨.titled "", .ofNames "wf" "latest" "a", .plain .table, none⟩,
      ⟨.titled "", .ofNames "wf" "e-7" "a", .plain .bar, none⟩]⟩
    let failing : Executions
      | .latest workflow => .error ⟨workflow, []⟩
      | .byId execution => .error ⟨execution, []⟩
    let working : Executions := fun _ =>
      .ok ⟨"e-7", "wf", none, none, none, none, [⟨"a", none, none, none, some "ok"⟩]⟩
    IsHydration failing dashboard (.error ⟨"e-7", []⟩) ∧
      (dashboard.hydrate failing).result = .error ⟨"wf", []⟩ ∧
      (∃ outcome, ((start dashboard).run working [0, 1, 1, 0]).Ends outcome) ∧
      IsHydration working dashboard (.ok ⟨"1", "ops", [
        ⟨.titled "", .ofNames "wf" "latest" "a", .plain .table, some (.ofResult "ok")⟩,
        ⟨.titled "", .ofNames "wf" "e-7" "a", .plain .bar, some (.ofResult "ok")⟩]⟩) := by
  intro dashboard failing working
  obtain ⟨_, hfailing⟩ := isHydration_of_ends failing dashboard [0, 1, 1]
  obtain ⟨hends, hworking⟩ := isHydration_of_ends working dashboard [0, 1, 1, 0]
  refine ⟨hfailing _ (@Ends.failed _ 1 _ rfl), rfl, hends (by decide), hworking _ ?_⟩
  have hdone : ∀ position < 2,
      ((start dashboard).run working [0, 1, 1, 0]).progress position = .done
    | 0, _ => rfl
    | 1, _ => rfl
  exact .finished hdone

/-- The workflow runs once more between the lookups of two widgets that show its result. -/
example :
    let showing (metadata : Option Metadata) : Widget :=
      ⟨.titled "", .ofNames "wf" "latest" "a", .plain .table, metadata⟩
    let repository : Repository := ⟨fun position _ => .ok ⟨"e", "wf", none, none, none, none,
      [⟨"a", none, none, none, some (if position = 0 then "old" else "new")⟩]⟩⟩
    (Dashboard.hydrate repository ⟨"1", "ops", [showing none, showing none]⟩).result =
      .ok ⟨"1", "ops", [showing (some (.ofResult "old")), showing (some (.ofResult "new"))]⟩ :=
  rfl

end Hydrating

end ResultBoards
