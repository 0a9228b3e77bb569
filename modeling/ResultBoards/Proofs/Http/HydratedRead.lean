import ResultBoards.Proofs.Http.SavedBack
import ResultBoards.Proofs.Hydration.InPlace
import ResultBoards.Proofs.Store.Failures

/-!
# Reading a dashboard by its name

There are four ways in which a dashboard is answered: the stored text does not decode, no
dashboard has the name, a lookup for the first one that has it fails, or that one is answered
with the results of its widgets.  The first and the third look the same, since the answer to a
failure says nothing but that there was one.

## Strategy

* One lemma for each of the four ways (`getDashboard_of_undecodable`,
  `getDashboard_of_missing`, `getDashboard_of_failure` and `getDashboard_of_hydrate`).
* Between the last two the lookups decide: hydration fails if and only if that of some widget
  does (`Dashboard.hydrate_fails_iff`).
* The lookups are under way at the same time.  Whatever the order in which they are answered,
  the join ends with the same dashboard or with some failure (`Hydrating.IsSound.isHydration`),
  and with which one does not show.
-/

namespace ResultBoards

/-! ## Which dashboard, and whether it is hydrated -/

/-- The first dashboard of a collection with a name. -/
def Collection.FirstNamed (collection : Collection) (name : String) (dashboard : Dashboard) :
    Prop :=
  IsFirst (fun entry => entry.name = name) collection dashboard

theorem Collection.FirstNamed.name_eq {collection : Collection} {name : String}
    {dashboard : Dashboard} (hfirst : collection.FirstNamed name dashboard) :
    dashboard.name = name := by
  obtain ⟨_, _, _, hname, _⟩ := hfirst
  exact hname

theorem Collection.findByName?_eq_some_iff {collection : Collection} {name : String}
    {dashboard : Dashboard} :
    collection.findByName? name = some dashboard ↔ collection.FirstNamed name dashboard :=
  find?_eq_some_iff_isFirst

theorem Collection.findByName?_eq_none_iff {collection : Collection} {name : String} :
    collection.findByName? name = none ↔ ∀ entry ∈ collection, entry.name ≠ name := by
  simp [findByName?]

/-- A failure of widgets that are hydrated is that of the lookup of one of them. -/
theorem lookupFails_of_hydrateWidgets {repository : Repository} {widgets : List (Widget × Nat)}
    {failure : LookupFailure}
    (hresult : (hydrateWidgets repository widgets).result = .error failure) :
    ∃ placed ∈ widgets, repository.LookupFails placed failure := by
  induction widgets with
  | nil => simp [hydrateWidgets] at hresult
  | cons placed rest ih =>
      rw [hydrateWidgets] at hresult
      cases hfirst : (repository.hydrate placed).result with
      | error first =>
          simp only [hfirst] at hresult
          obtain rfl := Except.error.inj hresult
          exact ⟨placed, List.mem_cons_self, Repository.result_hydrate_eq_error_iff.mp hfirst⟩
      | ok hydrated =>
          simp only [hfirst] at hresult
          obtain ⟨other, hother, hfails⟩ := ih (map_eq_error_iff.mp hresult)
          exact ⟨other, List.mem_cons_of_mem _ hother, hfails⟩

namespace Dashboard

variable {repository : Repository} {dashboard hydrated : Dashboard}

/-- A dashboard that is hydrated has its widgets replaced, each by what hydrating it alone
makes of it. -/
theorem hydrate_eq_ok_iff :
    (dashboard.hydrate repository).result = .ok hydrated ↔
      hydrated.id = dashboard.id ∧ hydrated.name = dashboard.name ∧
        List.Forall₂ (fun placed other => (repository.hydrate placed).result = .ok other)
          dashboard.widgets.zipIdx hydrated.widgets := by
  rw [hydrate, map_eq_ok_iff]
  simp only [result_hydrateWidgets_iff]
  constructor
  · rintro ⟨widgets, hall, rfl⟩
    exact ⟨rfl, rfl, hall⟩
  · rintro ⟨hid, hname, hall⟩
    refine ⟨hydrated.widgets, hall, ?_⟩
    rw [← hid, ← hname]

theorem hydrate_fails_iff :
    (∃ failure, (dashboard.hydrate repository).result = .error failure) ↔
      ∃ placed ∈ dashboard.widgets.zipIdx, ∃ failure,
        repository.LookupFails placed failure := by
  constructor
  · rintro ⟨failure, hresult⟩
    obtain ⟨placed, hplaced, hfails⟩ :=
      lookupFails_of_hydrateWidgets (map_eq_error_iff.mp hresult)
    exact ⟨placed, hplaced, failure, hfails⟩
  · rintro ⟨placed, hplaced, failure, hfails⟩
    cases hresult : (dashboard.hydrate repository).result with
    | error first => exact ⟨first, rfl⟩
    | ok hydrated =>
        obtain ⟨_, _, hall⟩ := hydrate_eq_ok_iff.mp hresult
        exact absurd hfails (Hydrating.not_lookupFails_of_forall₂ hall placed hplaced failure)

end Dashboard

/-! ## The four ways -/

namespace Http

variable {σ : Type} {service : Service σ} {state : σ} {collection : Collection} {name : String}

theorem getDashboard_of_undecodable {stored : Option String} {failure : Json.Failure}
    (hget : service.store.get state service.key = .ok stored)
    (hstored : Collection.ofStored stored = .error failure) :
    (getDashboard service name state).response = .empty 500 := by
  have hplan : Operation.getByName name stored = .error (.decode failure) := by
    rw [Operation.getByName, Operation.onCollection, hstored]
  have hrun : ((Operation.getByName name).run service.store service.key state).result =
      .error (.decode failure) := by
    simp only [Operation.run, hget, hplan]
  simp only [getDashboard, answer, Service.getHydrated, hrun]

section

variable (hholds : service.Holds state collection)
include hholds

theorem getDashboard_of_missing (hmissing : collection.findByName? name = none) :
    (getDashboard service name state).response = .empty 404 := by
  have hresult : (service.getHydrated name state).result = .ok none := by
    rw [result_getHydrated_of_holds hholds, hmissing]
  exact (answer_of_ok hresult).1

theorem getDashboard_of_failure {dashboard : Dashboard}
    (hfound : collection.findByName? name = some dashboard) {failure : LookupFailure}
    (hfails : (dashboard.hydrate service.repository).result = .error failure) :
    (getDashboard service name state).response = .empty 500 := by
  have hresult : (service.getHydrated name state).result = .error (.lookup failure) := by
    rw [result_getHydrated_of_holds hholds, hfound]
    simp only [hfails, Except.map, Except.mapError]
  simp only [getDashboard, answer, hresult]

end

/-! ## Outcomes -/

/-- The answer to a hydration that has ended. -/
def hydrationResponse : Except LookupFailure Dashboard → Response
  | .ok hydrated => .json 200 hydrated.toValue.toText
  | .error _ => .empty 500

/-- How a read of a dashboard by its name is answered. -/
structure AnswersRead (service : Service σ) (state : σ) (stored : Option String) (name : String)
    (response : Response) : Prop where
  /-- A text that does not decode is a failure. -/
  corrupt : ∀ failure, Collection.ofStored stored = .error failure → response = .empty 500
  /-- Otherwise a dashboard is missing if none has the name. -/
  missing_iff : ∀ collection, Collection.ofStored stored = .ok collection →
    (response.status = 404 ↔ ∀ entry ∈ collection, entry.name ≠ name)
  /-- Otherwise the lookup of a widget of the first that has it can fail. -/
  failed_iff : ∀ collection dashboard, Collection.ofStored stored = .ok collection →
    collection.FirstNamed name dashboard →
    (response.status = 500 ↔ ∃ placed ∈ dashboard.widgets.zipIdx, ∃ failure,
      service.repository.LookupFails placed failure)
  /-- Otherwise it is shown with each widget as hydrating it alone leaves it, and without the
  results it is the dashboard that is found by the name. -/
  shown : ∀ collection dashboard, Collection.ofStored stored = .ok collection →
    collection.FirstNamed name dashboard →
    (∀ placed ∈ dashboard.widgets.zipIdx, ∀ failure,
      ¬ service.repository.LookupFails placed failure) →
    ∃ hydrated : Dashboard, response = .json 200 hydrated.toValue.toText ∧
      hydrated.id = dashboard.id ∧ hydrated.name = dashboard.name ∧
      List.Forall₂ (fun placed other => (service.repository.hydrate placed).result = .ok other)
        dashboard.widgets.zipIdx hydrated.widgets ∧
      (service.run (.getByName name) state).result = .ok (some hydrated.withoutMetadata) ∧
      Dashboard.decoder.decodeFirst response.body.toUTF8 = .ok hydrated.withoutMetadata
  /-- The order in which the lookups are answered does not show. -/
  anyOrder : ∀ collection dashboard, Collection.ofStored stored = .ok collection →
    collection.FirstNamed name dashboard →
    ∀ turns outcome, ((Hydrating.start dashboard).run service.repository turns).Ends outcome →
      response = hydrationResponse outcome

section

variable (hholds : service.Holds state collection)
include hholds

/-- A dashboard that is found is answered as its hydration ends. -/
theorem getDashboard_of_found {dashboard : Dashboard}
    (hfound : collection.findByName? name = some dashboard) :
    (getDashboard service name state).response =
      hydrationResponse (dashboard.hydrate service.repository).result := by
  cases hresult : (dashboard.hydrate service.repository).result with
  | error failure => exact getDashboard_of_failure hholds hfound hresult
  | ok hydrated => exact getDashboard_of_hydrate hholds hfound hresult

end

/-- Without the results, the dashboard that is shown is the one that is stored. -/
theorem result_getByName_of_hydrate {stored : Option String}
    (hget : service.store.get state service.key = .ok stored)
    (hstored : Collection.ofStored stored = .ok collection) {dashboard hydrated : Dashboard}
    (hfound : collection.findByName? name = some dashboard)
    (hhydrate : (dashboard.hydrate service.repository).result = .ok hydrated) :
    (service.run (.getByName name) state).result = .ok (some hydrated.withoutMetadata) := by
  have hmem : dashboard ∈ collection := List.mem_of_find?_eq_some hfound
  have hstripped : dashboard.IsStripped :=
    Collection.isStripped_of_ofStored hstored dashboard hmem
  have hsame : hydrated.withoutMetadata = dashboard := by
    rw [Dashboard.withoutMetadata_of_hydrate hhydrate, hstripped.withoutMetadata_eq]
  obtain ⟨hresult, _⟩ :=
    Service.run_of_read hget (Operation.getByName_of_ofStored hstored name) rfl
  rw [hresult, hsame, hfound]

/-- Hydration in any order is answered as hydration of one widget after the other. -/
theorem hydrationResponse_of_ends {repository : Repository} {dashboard : Dashboard}
    {turns : List Nat} {outcome : Except LookupFailure Dashboard}
    (hends : ((Hydrating.start dashboard).run repository turns).Ends outcome) :
    hydrationResponse (dashboard.hydrate repository).result = hydrationResponse outcome := by
  have hsound := (Hydrating.isSound_start repository dashboard).run turns
  obtain ⟨_, hok, herror⟩ := hsound.isHydration hends
  cases outcome with
  | ok hydrated =>
      obtain ⟨hresult, _⟩ := hok hydrated rfl
      rw [hresult]
  | error failure =>
      obtain ⟨_, first, hresult⟩ := herror failure rfl
      rw [hresult]
      rfl

theorem answersRead_getDashboard {stored : Option String}
    (hget : service.store.get state service.key = .ok stored) (name : String) :
    AnswersRead service state stored name (getDashboard service name state).response := by
  have hholds : ∀ {collection : Collection}, Collection.ofStored stored = .ok collection →
      service.Holds state collection := fun hstored => ⟨stored, hget, hstored⟩
  have hfound : ∀ {collection : Collection} {dashboard : Dashboard},
      Collection.ofStored stored = .ok collection → collection.FirstNamed name dashboard →
      (getDashboard service name state).response =
        hydrationResponse (dashboard.hydrate service.repository).result :=
    fun hstored hfirst =>
      getDashboard_of_found (hholds hstored) (Collection.findByName?_eq_some_iff.mpr hfirst)
  constructor
  case corrupt =>
    intro failure hstored
    exact getDashboard_of_undecodable hget hstored
  case missing_iff =>
    intro collection hstored
    rw [← Collection.findByName?_eq_none_iff]
    cases hname : collection.findByName? name with
    | none =>
        rw [getDashboard_of_missing (hholds hstored) hname]
        simp [Response.empty]
    | some dashboard =>
        rw [getDashboard_of_found (hholds hstored) hname]
        cases (dashboard.hydrate service.repository).result <;>
          simp [hydrationResponse, Response.empty, Response.json]
  case failed_iff =>
    intro collection dashboard hstored hfirst
    rw [hfound hstored hfirst, ← Dashboard.hydrate_fails_iff]
    cases (dashboard.hydrate service.repository).result <;>
      simp [hydrationResponse, Response.empty, Response.json]
  case shown =>
    intro collection dashboard hstored hfirst hnone
    cases hresult : (dashboard.hydrate service.repository).result with
    | error failure =>
        obtain ⟨placed, hplaced, other, hfails⟩ := Dashboard.hydrate_fails_iff.mp ⟨_, hresult⟩
        exact absurd hfails (hnone placed hplaced other)
    | ok hydrated =>
        obtain ⟨hid, hname, hall⟩ := Dashboard.hydrate_eq_ok_iff.mp hresult
        have hresponse : (getDashboard service name state).response =
            .json 200 hydrated.toValue.toText := by
          rw [hfound hstored hfirst, hresult]
          rfl
        refine ⟨hydrated, hresponse, hid, hname, hall, ?_, ?_⟩
        · exact result_getByName_of_hydrate hget hstored
            (Collection.findByName?_eq_some_iff.mpr hfirst) hresult
        · rw [hresponse]
          exact hydrated.decodeFirst_toText
  case anyOrder =>
    intro collection dashboard hstored hfirst turns outcome hends
    rw [hfound hstored hfirst]
    exact hydrationResponse_of_ends hends

/-- **A hydrated read.**  Whatever is stored and whatever the execution service answers, a
request for a dashboard by its name is answered with 500 if the stored text does not decode,
with 404 if it does and no dashboard has the name, with 500 if the lookup of some widget of
the first that has it fails, and otherwise with this dashboard and the results of its
widgets. -/
theorem answersRead_handle {stored : Option String}
    (hget : service.store.get state service.key = .ok stored) {request : Request} (id : String)
    {segment : List Char} (hmethod : request.method = "GET")
    (hpath : request.path = Resource.dashboardsPath ++ '/' :: segment) (hslash : '/' ∉ segment)
    (hname : Text.Percent.decode? segment = some name) (hne : name ≠ "") :
    AnswersRead service state stored name (handle service id request state).response := by
  have hsegment : segment ≠ [] := by
    rintro rfl
    exact hne (Option.some.inj hname).symm
  have hresource := ofPath?_eq_dashboard_iff.mpr ⟨hpath, hsegment, hslash⟩
  have hread : readSegment segment = .ok name := by rw [readSegment, hname]
  rw [handle_get id hmethod hresource, withRead_of_ok hread]
  exact answersRead_getDashboard hget name

/-- A service over memory that knows the most recent executions only. -/
def recent : Service Memory :=
  ⟨Memory.store, "dashboards", ⟨fun
    | _, .latest _ =>
        .ok ⟨"e-7", "wf", none, none, none, none, [⟨"a", none, none, none, some "k\n1"⟩]⟩
    | _, .byId execution => .error ⟨execution, []⟩⟩⟩

/-- A widget that shows the result of an action of an execution. -/
def showing (execution : String) (metadata : Option Metadata) : Widget :=
  ⟨.titled "t", .ofNames "wf" execution "a", .plain .table, metadata⟩

/-- A request for a dashboard by a name that needs no encoding. -/
def reading (name : String) : Request := ⟨"GET", "/dashboards/" ++ name, none, ""⟩

/-- Four requests, one for each way of being answered.  The second dashboard with the name of
the first cannot be hydrated, which does not matter. -/
theorem answersRead_four_ways :
    let collection : Collection := [⟨"1", "ops", [showing "latest" none]⟩,
      ⟨"2", "ops", [showing "e-1" none]⟩, ⟨"3", "old", [showing "latest" none, showing "e-1" none]⟩]
    let memory : Memory := ⟨Entries.empty.insert "dashboards" collection.toText, none⟩
    let broken : Memory := ⟨Entries.empty.insert "dashboards" "[\x7b]", none⟩
    let shown : Dashboard := ⟨"1", "ops", [showing "latest" (some (.ofResult "k\n1"))]⟩
    (handle recent "4" (reading "ops") memory).response = .json 200 shown.toValue.toText ∧
      (handle recent "4" (reading "old") memory).response.status = 500 ∧
      (handle recent "4" (reading "new") memory).response.status = 404 ∧
      (handle recent "4" (reading "ops") broken).response = .empty 500 := by
  intro collection memory broken shown
  have hget : recent.store.get memory recent.key = .ok (some collection.toText) :=
    congrArg Except.ok (Entries.get?_insert_self _ _ _)
  have hstored : Collection.ofStored (some collection.toText) = .ok collection :=
    Collection.ofStored_toText collection
  have hanswers : ∀ {memory : Memory} {text name : String},
      recent.store.get memory recent.key = .ok (some text) →
      (reading name).path = Resource.dashboardsPath ++ '/' :: name.toList → '/' ∉ name.toList →
      Text.Percent.decode? name.toList = some name → name ≠ "" →
      AnswersRead recent memory (some text) name
        (handle recent "4" (reading name) memory).response :=
    fun hget hpath hslash hname hne => answersRead_handle hget "4" rfl hpath hslash hname hne
  have hops := @hanswers memory _ "ops" hget (by decide) (by decide) (by decide) (by decide)
  have hold := @hanswers memory _ "old" hget (by decide) (by decide) (by decide) (by decide)
  have hnew := @hanswers memory _ "new" hget (by decide) (by decide) (by decide) (by decide)
  have hgetBroken : recent.store.get broken recent.key = .ok (some "[\x7b]") :=
    congrArg Except.ok (Entries.get?_insert_self _ _ _)
  have hbroken :=
    @hanswers broken _ "ops" hgetBroken (by decide) (by decide) (by decide) (by decide)
  refine ⟨?_, ?_, ?_, ?_⟩
  · have hdone : ∀ position < 1, ((Hydrating.start ⟨"1", "ops", [showing "latest" none]⟩).run
        recent.repository [0, 0]).progress position = .done
      | 0, _ => rfl
    exact hops.anyOrder collection _ hstored ⟨[], _, rfl, rfl, by simp⟩ [0, 0] _ (.finished hdone)
  · refine (hold.failed_iff collection _ hstored ⟨collection.take 2, [], rfl, rfl, ?_⟩).mpr ?_
    · decide
    · exact ⟨(showing "e-1" none, 1), by simp, _, _, rfl, rfl⟩
  · exact (hnew.missing_iff collection hstored).mpr (by decide)
  · exact hbroken.corrupt _ rfl

end Http

end ResultBoards
