import ResultBoards.Http.Handler
import ResultBoards.Proofs.Store.Interleaving

/-!
# What the service does for a request

One lemma for each of the things that are done for a request: what is answered, and what
text is stored afterwards.  All that is needed of the store is that its text is absent or
decodes (`Service.Holds`) and, where something is written, that the write works.
-/

namespace ResultBoards

/-! ## The service -/

section

variable {σ : Type} {service : Service σ} {state : σ} {collection : Collection}

namespace Operation

variable {stored : Option String} (hstored : Collection.ofStored stored = .ok collection)
include hstored

theorem list_of_ofStored : list stored = .ok ⟨[], none, collection, []⟩ := by
  simp only [list, onCollection, hstored]

theorem getByName_of_ofStored (name : String) :
    getByName name stored = .ok ⟨[], none, collection.findByName? name, []⟩ := by
  simp only [getByName, onCollection, hstored]

theorem save_of_ofStored (dashboard : Dashboard) :
    ∃ events, save dashboard stored =
      .ok ⟨events, some (collection.save dashboard).toText, (), []⟩ := by
  simp only [save, onCollection, hstored]
  exact ⟨_, rfl⟩

theorem create_of_ofStored (dashboard : NewDashboard) (id : String) :
    ∃ events reported, create dashboard id stored =
      .ok ⟨events, some (collection.save (dashboard.withId id)).toText, dashboard.withId id,
        reported⟩ := by
  obtain ⟨events, hsave⟩ := save_of_ofStored hstored (dashboard.withId id)
  simp only [create, reporting, map, hsave]
  exact ⟨_, _, rfl⟩

theorem deleteById_of_ofStored (id : String) :
    ∃ events count, deleteById id stored =
      .ok ⟨events, some (collection.removeId id).toText, count, []⟩ := by
  simp only [deleteById, onCollection, hstored]
  exact ⟨_, _, rfl⟩

end Operation

namespace Service

/-- The stored text is absent or decodes to the collection. -/
def Holds (service : Service σ) (state : σ) (collection : Collection) : Prop :=
  ∃ stored, service.store.get state service.key = .ok stored ∧
    Collection.ofStored stored = .ok collection

/-- Any text can be written. -/
def WriteWorks (service : Service σ) (state : σ) : Prop :=
  ∀ text, ∃ next, service.store.set state service.key text = (.ok (), next)

theorem run_of_read {α : Type} {operation : Operation α} {stored : Option String} {plan : Plan α}
    (hget : service.store.get state service.key = .ok stored)
    (hplan : operation stored = .ok plan) (htext : plan.text = none) :
    (service.run operation state).result = .ok plan.answer ∧
      (service.run operation state).state = state := by
  obtain ⟨hresult, hstate⟩ := Operation.run_of_read hget hplan htext
  exact ⟨congrArg (Except.mapError ServiceFailure.store) hresult, hstate⟩

/-- An operation that writes a text answers what it planned to, and the text is what is
read afterwards. -/
theorem run_of_write (hkeeps : service.store.KeepsWrites) (hworks : service.WriteWorks state)
    {α : Type} {operation : Operation α} {stored : Option String} {plan : Plan α} {text : String}
    (hget : service.store.get state service.key = .ok stored)
    (hplan : operation stored = .ok plan) (htext : plan.text = some text) :
    (service.run operation state).result = .ok plan.answer ∧
      service.store.get (service.run operation state).state service.key = .ok (some text) := by
  obtain ⟨next, hset⟩ := hworks text
  obtain ⟨hresult, hstate⟩ := Operation.run_of_write hget hplan htext hset
  refine ⟨congrArg (Except.mapError ServiceFailure.store) hresult, ?_⟩
  have hnext : (service.run operation state).state = next := hstate
  rw [hnext]
  exact hkeeps hset

theorem state_getHydrated_of_holds (hholds : service.Holds state collection) (name : String) :
    (service.getHydrated name state).state = state := by
  obtain ⟨stored, hget, hstored⟩ := hholds
  rw [state_getHydrated]
  exact (Operation.run_of_read hget (Operation.getByName_of_ofStored hstored name) rfl).2

end Service

/-! ## Answers -/

namespace Http

theorem answer_of_ok {α : Type} {context : String} {respond : α → Response} {served : Served σ α}
    {value : α} (hresult : served.result = .ok value) :
    (answer context respond served).response = respond value ∧
      (answer context respond served).state = served.state := by
  simp [answer, hresult]

theorem state_answer {α : Type} (context : String) (respond : α → Response) (served : Served σ α) :
    (answer context respond served).state = served.state := by
  unfold answer
  split <;> rfl

/-- A listing answers the text of what is stored. -/
theorem listDashboards_of_holds (hholds : service.Holds state collection) :
    (listDashboards service state).response = .json 200 collection.toText ∧
      (listDashboards service state).state = state := by
  obtain ⟨stored, hget, hstored⟩ := hholds
  obtain ⟨hresult, hstate⟩ := Service.run_of_read hget (Operation.list_of_ofStored hstored) rfl
  obtain ⟨hresponse, hkept⟩ := answer_of_ok hresult
  exact ⟨hresponse, hkept.trans hstate⟩

section

variable (hkeeps : service.store.KeepsWrites) (hworks : service.WriteWorks state)
include hkeeps hworks

/-- What is answered when an operation has written a text. -/
theorem answer_of_write {α : Type} {context : String} {respond : α → Response}
    {operation : Operation α} {stored : Option String} {plan : Plan α} {text : String}
    (hget : service.store.get state service.key = .ok stored)
    (hplan : operation stored = .ok plan) (htext : plan.text = some text) :
    (answer context respond (service.run operation state)).response = respond plan.answer ∧
      service.store.get (answer context respond (service.run operation state)).state
        service.key = .ok (some text) := by
  obtain ⟨hresult, hnext⟩ := Service.run_of_write hkeeps hworks hget hplan htext
  obtain ⟨hresponse, hstate⟩ := answer_of_ok hresult
  refine ⟨hresponse, ?_⟩
  rw [hstate]
  exact hnext

variable (hholds : service.Holds state collection)
include hholds

theorem createDashboard_of_holds (id : String) (dashboard : NewDashboard) :
    (createDashboard service id dashboard state).response =
        .json 201 (dashboard.withId id).toValue.toText ∧
      service.store.get (createDashboard service id dashboard state).state service.key =
        .ok (some (collection.save (dashboard.withId id)).toText) := by
  obtain ⟨stored, hget, hstored⟩ := hholds
  obtain ⟨events, reported, hplan⟩ := Operation.create_of_ofStored hstored dashboard id
  exact (answer_of_write hkeeps hworks hget hplan rfl :)

theorem saveDashboard_of_holds (dashboard : Dashboard) :
    (saveDashboard service dashboard state).response =
        .json 200 dashboard.withoutMetadata.toValue.toText ∧
      service.store.get (saveDashboard service dashboard state).state service.key =
        .ok (some (collection.save dashboard).toText) := by
  obtain ⟨stored, hget, hstored⟩ := hholds
  obtain ⟨events, hplan⟩ := Operation.save_of_ofStored hstored dashboard
  exact (answer_of_write hkeeps hworks hget hplan rfl :)

theorem deleteDashboard_of_holds (id : String) :
    (deleteDashboard service id state).response = .empty 204 ∧
      service.store.get (deleteDashboard service id state).state service.key =
        .ok (some (collection.removeId id).toText) := by
  obtain ⟨stored, hget, hstored⟩ := hholds
  obtain ⟨events, count, hplan⟩ := Operation.deleteById_of_ofStored hstored id
  exact (answer_of_write hkeeps hworks hget hplan rfl :)

end

/-! ## Bodies and resources -/

theorem decodeFirst_of_readBody {α : Type} {decoder : Json.Decoder α} {request : Request}
    {value : α} (hbody : readBody decoder request = .ok value) :
    decoder.decodeFirst request.body.bytes = .ok value := by
  unfold readBody at hbody
  split at hbody
  · contradiction
  · split at hbody
    · contradiction
    · split at hbody
      · rename_i hdecode
        rw [hdecode, Except.ok.inj hbody]
      · split at hbody <;> contradiction

/-- A body of an accepted type and size is read as it decodes. -/
theorem readBody_of_decodeFirst {α : Type} {decoder : Json.Decoder α} {request : Request}
    {value : α} (hjson : request.hasJsonBody = true)
    (hsize : request.body.bytes.size ≤ maxBodySize)
    (hdecode : decoder.decodeFirst request.body.bytes = .ok value) :
    readBody decoder request = .ok value := by
  rw [readBody, if_neg (by simp [hjson]), if_neg (Nat.not_lt.mpr hsize), hdecode]

theorem hasJsonBody_of_contentType {request : Request}
    (htype : request.contentType = some "application/json") : request.hasJsonBody = true := by
  rw [Request.hasJsonBody, htype]
  decide

/-- A body that cannot be read is answered with a status of its own. -/
theorem status_of_readBody {α : Type} {decoder : Json.Decoder α} {request : Request}
    {response : Response} (hbody : readBody decoder request = .error response) :
    response.status ∈ [400, 413, 415, 422] := by
  unfold readBody at hbody
  split at hbody
  · cases hbody
    decide
  · split at hbody
    · cases hbody
      decide
    · split at hbody
      · contradiction
      · split at hbody <;> cases hbody <;> simp [Response.text]

/-- A segment after a path is what stands behind one more slash, and is not empty. -/
theorem segment?_eq_some_iff {path collection segment : List Char} :
    Resource.segment? path collection = some segment ↔
      path = collection ++ '/' :: segment ∧ segment ≠ [] ∧ '/' ∉ segment := by
  induction collection generalizing path with
  | nil =>
      constructor
      · intro hsegment
        unfold Resource.segment? at hsegment
        split at hsegment
        · split at hsegment
          · contradiction
          · rename_i hslash
            cases hsegment
            exact ⟨rfl, List.cons_ne_nil _ _, by simpa using hslash⟩
        · contradiction
        · contradiction
      · rintro ⟨rfl, hne, hslash⟩
        obtain ⟨c, rest, rfl⟩ := List.exists_cons_of_ne_nil hne
        have hcontains : (c :: rest).contains '/' = false := by
          simpa [List.contains_eq_mem] using hslash
        simp only [List.nil_append, Resource.segment?, hcontains]
        rfl
  | cons c collection ih =>
      cases path with
      | nil => simp [Resource.segment?]
      | cons d path =>
          rw [Resource.segment?]
          by_cases hsame : d = c
          · subst hsame
            simp [ih]
          · simp [hsame]

theorem ofPath?_eq_dashboard_iff {path segment : List Char} :
    Resource.ofPath? path = some (.dashboard segment) ↔
      path = Resource.dashboardsPath ++ '/' :: segment ∧ segment ≠ [] ∧ '/' ∉ segment := by
  -- neither of the other two paths has a segment after that of the collection
  have hnoHealth : Resource.segment? Resource.healthPath Resource.dashboardsPath = none := by
    decide
  have hnoCollection :
      Resource.segment? Resource.dashboardsPath Resource.dashboardsPath = none := by
    decide
  rw [← segment?_eq_some_iff, Resource.ofPath?]
  by_cases hhealth : path = Resource.healthPath
  · simp [hhealth, hnoHealth]
  · rw [if_neg hhealth]
    by_cases hpath : path = Resource.dashboardsPath
    · simp [hpath, hnoCollection]
    · simp [hpath]

theorem ofPath?_dashboardsPath : Resource.ofPath? Resource.dashboardsPath = some .dashboards := by
  decide

/-- Behind the path of the collection there is nothing but a dashboard. -/
theorem eq_dashboard_of_ofPath? {segment : List Char} {resource : Resource}
    (hresource : Resource.ofPath? (Resource.dashboardsPath ++ '/' :: segment) = some resource) :
    resource = .dashboard segment := by
  have hhealth : Resource.dashboardsPath ++ '/' :: segment ≠ Resource.healthPath := by
    intro heq
    have hsecond : (Resource.dashboardsPath ++ '/' :: segment)[1]? = Resource.healthPath[1]? :=
      congrArg (fun path => path[1]?) heq
    rw [List.getElem?_append_left (by decide)] at hsecond
    exact absurd hsecond (by decide)
  rw [Resource.ofPath?, if_neg hhealth, if_neg (by simp)] at hresource
  obtain ⟨found, hfound, rfl⟩ := Option.map_eq_some_iff.mp hresource
  obtain ⟨hpath, _⟩ := segment?_eq_some_iff.mp hfound
  rw [(List.cons.inj (List.append_cancel_left hpath)).2]

variable {request : Request} (id : String)

theorem handle_list (hmethod : request.method = "GET")
    (hpath : request.path = Resource.dashboardsPath) :
    handle service id request state = listDashboards service state := by
  simp [handle, hpath, ofPath?_dashboardsPath, hmethod, handleResource]

theorem handle_post (hmethod : request.method = "POST")
    (hpath : request.path = Resource.dashboardsPath) :
    handle service id request state =
      withRead state (readBody NewDashboard.decoder request) fun dashboard =>
        createDashboard service id dashboard state := by
  simp [handle, hpath, ofPath?_dashboardsPath, hmethod, handleResource]

theorem handle_put (hmethod : request.method = "PUT")
    (hpath : request.path = Resource.dashboardsPath) :
    handle service id request state =
      withRead state (readBody Dashboard.decoder request) fun dashboard =>
        saveDashboard service dashboard state := by
  simp [handle, hpath, ofPath?_dashboardsPath, hmethod, handleResource]

theorem handle_get {segment : List Char} (hmethod : request.method = "GET")
    (hresource : Resource.ofPath? request.path = some (.dashboard segment)) :
    handle service id request state =
      withRead state (readSegment segment) fun name => getDashboard service name state := by
  simp [handle, hresource, hmethod, handleResource]

theorem handle_delete {segment : List Char} (hmethod : request.method = "DELETE")
    (hresource : Resource.ofPath? request.path = some (.dashboard segment)) :
    handle service id request state =
      withRead state (readSegment segment) fun gone => deleteDashboard service gone state := by
  simp [handle, hresource, hmethod, handleResource]

/-- Nothing but a dashboard is ever deleted. -/
theorem exists_dashboard_of_delete (hmethod : request.method = "DELETE")
    (hstatus : (handle service id request state).response.status = 204) :
    ∃ segment, Resource.ofPath? request.path = some (.dashboard segment) := by
  cases hresource : Resource.ofPath? request.path with
  | none => simp [handle, hresource, Response.empty] at hstatus
  | some resource =>
      cases resource with
      | health =>
          simp [handle, hresource, hmethod, handleResource, Response.methodNotAllowed] at hstatus
      | dashboards =>
          simp [handle, hresource, hmethod, handleResource, Response.methodNotAllowed] at hstatus
      | dashboard segment => exact ⟨segment, rfl⟩

end Http

end

end ResultBoards
