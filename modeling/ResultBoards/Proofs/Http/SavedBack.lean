import ResultBoards.Proofs.Http.Refinement
import ResultBoards.Proofs.Hydration.Concurrent

/-!
# Saving what was read

A dashboard is read with the results of its widgets and saved back as it was answered.  The
decoder of the body drops the results and nothing else, so the dashboard that is saved is the
one that is stored, and where no id comes twice it takes its own place.  The stored text is
the same to the byte.

The name and the id are two different keys: what is read is the first dashboard with a name,
what is replaced is the first with an id.  They are the same dashboard because ids are
distinct (`Collection.put_of_mem`); names need not be.
-/

namespace ResultBoards

open Http (Resource)

/-! ## What hydration keeps -/

theorem Widget.SameFrame.clearMetadata_eq {first second : Widget}
    (hsame : first.SameFrame second) : second.clearMetadata = first.clearMetadata := by
  obtain ⟨_, hlayout, hsource, hbody⟩ := hsame
  rw [clearMetadata, clearMetadata, hlayout, hsource, hbody]

/-- Hydration attaches results to the widgets and changes nothing else. -/
theorem Dashboard.withoutMetadata_of_hydrate {repository : Repository}
    {dashboard hydrated : Dashboard}
    (hresult : (dashboard.hydrate repository).result = .ok hydrated) :
    hydrated.withoutMetadata = dashboard.withoutMetadata := by
  obtain ⟨widgets, hwidgets, rfl⟩ := map_eq_ok_iff.mp hresult
  have hcleared : widgets.map Widget.clearMetadata =
      dashboard.widgets.map Widget.clearMetadata := by
    rw [← List.zipIdx_map_fst 0 dashboard.widgets, ← List.forall₂_eq_eq_eq,
      List.forall₂_map_left_iff, List.forall₂_map_right_iff, List.forall₂_map_right_iff]
    refine (result_hydrateWidgets_iff.mp hwidgets).flip.imp fun other placed hhydrated => ?_
    exact (Widget.sameFrame_of_hydrate hhydrated).clearMetadata_eq
  rw [withoutMetadata, withoutMetadata, hcleared]

/-! ## Bodies -/

/-- The text of a dashboard decodes to the dashboard without its metadata. -/
theorem Dashboard.decodeFirst_toText (dashboard : Dashboard) :
    Dashboard.decoder.decodeFirst dashboard.toValue.toText.toUTF8 =
      .ok dashboard.withoutMetadata :=
  Json.decodeFirst_toText fun steps => readsAs_dashboard dashboard steps 121

/-! ## Reading and saving -/

namespace Http

variable {σ : Type} {service : Service σ} {state : σ} {collection : Collection}

section

variable (hholds : service.Holds state collection) {name : String}
include hholds

theorem result_getHydrated_of_holds :
    (service.getHydrated name state).result =
      match collection.findByName? name with
      | none => .ok none
      | some dashboard =>
          ((dashboard.hydrate service.repository).result.map some).mapError .lookup := by
  obtain ⟨stored, hget, hstored⟩ := hholds
  have hplan := Operation.getByName_of_ofStored hstored name
  obtain ⟨hrun, _⟩ := Operation.run_of_read hget hplan rfl
  simp only [Service.getHydrated, hrun]
  cases collection.findByName? name <;> rfl

/-- A stored dashboard is answered with the results of its widgets. -/
theorem getDashboard_of_hydrate {dashboard hydrated : Dashboard}
    (hfound : collection.findByName? name = some dashboard)
    (hhydrate : (dashboard.hydrate service.repository).result = .ok hydrated) :
    (getDashboard service name state).response = .json 200 hydrated.toValue.toText := by
  have hresult : (service.getHydrated name state).result = .ok (some hydrated) := by
    rw [result_getHydrated_of_holds hholds, hfound]
    simp only [hhydrate, Except.map, Except.mapError]
  exact (answer_of_ok hresult).1

/-- A dashboard that is answered is a stored one with results attached. -/
theorem exists_hydrated_of_getDashboard
    (hstatus : (getDashboard service name state).response.status = 200) :
    ∃ dashboard hydrated, collection.findByName? name = some dashboard ∧
      (dashboard.hydrate service.repository).result = .ok hydrated := by
  have hresult : (service.getHydrated name state).result = _ :=
    result_getHydrated_of_holds hholds
  cases hfound : collection.findByName? name with
  | none =>
      rw [hfound] at hresult
      rw [getDashboard, (answer_of_ok hresult).1] at hstatus
      simp [Response.empty] at hstatus
  | some dashboard =>
      cases hhydrate : (dashboard.hydrate service.repository).result with
      | error failure =>
          simp [getDashboard, answer, hresult, hfound, hhydrate, Except.map, Except.mapError,
            Response.empty] at hstatus
      | ok hydrated => exact ⟨dashboard, hydrated, rfl, hhydrate⟩

end

/-- A request for a dashboard that is answered with one has found it by its name. -/
theorem exists_hydrated_of_get (hholds : service.Holds state collection) {request : Request}
    {id : String} {segment : List Char} (hmethod : request.method = "GET")
    (hpath : request.path = Resource.dashboardsPath ++ '/' :: segment)
    {read : Exchange σ} (hread : handle service id request state = read)
    (hstatus : read.response.status = 200) :
    ∃ name dashboard hydrated, Text.Percent.decode? segment = some name ∧
      collection.findByName? name = some dashboard ∧
      (dashboard.hydrate service.repository).result = .ok hydrated ∧
      read.response = .json 200 hydrated.toValue.toText ∧ read.state = state := by
  have hresource : Resource.ofPath? request.path = some (.dashboard segment) := by
    cases hfound : Resource.ofPath? request.path with
    | none => simp [← hread, handle, hfound, Response.empty] at hstatus
    | some resource =>
        rw [hpath] at hfound
        rw [eq_dashboard_of_ofPath? hfound]
  rw [handle_get id hmethod hresource] at hread
  subst hread
  cases hname : Text.Percent.decode? segment with
  | none => simp [readSegment, hname, withRead, Response.text] at hstatus
  | some name =>
      rw [readSegment, hname, withRead] at hstatus ⊢
      obtain ⟨dashboard, hydrated, hfound, hhydrate⟩ :=
        exists_hydrated_of_getDashboard hholds hstatus
      refine ⟨name, dashboard, hydrated, rfl, hfound, hhydrate,
        getDashboard_of_hydrate hholds hfound hhydrate, ?_⟩
      rw [getDashboard, state_answer, Service.state_getHydrated_of_holds hholds]

/-- A stored dashboard that is saved with results attached takes its own place. -/
theorem handle_put_of_hydrate (hkeeps : service.store.KeepsWrites)
    (hworks : service.WriteWorks state) (htidy : collection.IsTidy)
    (hstored : service.store.get state service.key = .ok (some collection.toText))
    {dashboard hydrated : Dashboard} (hmem : dashboard ∈ collection)
    (hhydrate : (dashboard.hydrate service.repository).result = .ok hydrated)
    {request : Request} (id : String) (hmethod : request.method = "PUT")
    (hpath : request.path = Resource.dashboardsPath)
    (htype : request.contentType = some "application/json")
    (hsize : hydrated.toValue.toText.utf8ByteSize ≤ maxBodySize)
    (hbody : request.body = hydrated.toValue.toText) :
    (handle service id request state).response = .json 200 dashboard.toValue.toText ∧
      service.Shows (handle service id request state).state collection collection.toText := by
  have hholds : service.Holds state collection := ⟨_, hstored, htidy.isStripped.ofStored_toText⟩
  have hstripped := (htidy.isStripped dashboard hmem).withoutMetadata_eq
  -- the results are dropped on the way in, so what is saved is what is stored
  have hdecode : Dashboard.decoder.decodeFirst request.body.bytes = .ok dashboard := by
    rw [hbody, hydrated.decodeFirst_toText, Dashboard.withoutMetadata_of_hydrate hhydrate,
      hstripped]
  have hread := readBody_of_decodeFirst (hasJsonBody_of_contentType htype)
    (hbody ▸ String.size_toByteArray.trans_le hsize) hdecode
  obtain ⟨hresponse, hnext⟩ := saveDashboard_of_holds hkeeps hworks hholds dashboard
  rw [htidy.save_of_mem hmem] at hnext
  rw [hstripped] at hresponse
  rw [handle_put id hmethod hpath, withRead_of_ok hread]
  exact ⟨hresponse, Service.shows_of_get htidy.isStripped hnext⟩

/-- **Saving what was read changes nothing.**  Let the stored text be that of a collection in
which no id comes twice and no widget has metadata.  A dashboard is read by its name, with
whatever results its widgets show, and the body of the answer is saved.  Then the answer is
the text of the dashboard as it is stored, and the stored text is the same. -/
theorem shows_of_saved_back (hkeeps : service.store.KeepsWrites)
    (hworks : service.WriteWorks state) (htidy : collection.IsTidy)
    (hstored : service.store.get state service.key = .ok (some collection.toText))
    {reading saving : Request} {id : String} (other : String) {segment : List Char}
    (hget : reading.method = "GET")
    (hdashboard : reading.path = Resource.dashboardsPath ++ '/' :: segment)
    {read : Exchange σ} (hread : handle service id reading state = read)
    (hstatus : read.response.status = 200)
    (hsize : read.response.body.utf8ByteSize ≤ maxBodySize)
    (hput : saving.method = "PUT") (hdashboards : saving.path = Resource.dashboardsPath)
    (htype : saving.contentType = some "application/json")
    (hbody : saving.body = read.response.body) :
    ∃ name dashboard, Text.Percent.decode? segment = some name ∧
      collection.findByName? name = some dashboard ∧
      (handle service other saving read.state).response = .json 200 dashboard.toValue.toText ∧
      service.Shows (handle service other saving read.state).state collection
        collection.toText := by
  have hholds : service.Holds state collection := ⟨_, hstored, htidy.isStripped.ofStored_toText⟩
  obtain ⟨name, dashboard, hydrated, hname, hfound, hhydrate, hresponse, hkept⟩ :=
    exists_hydrated_of_get hholds hget hdashboard hread hstatus
  have hmem : dashboard ∈ collection := List.mem_of_find?_eq_some hfound
  rw [hkept]
  exact ⟨name, dashboard, hname, hfound,
    handle_put_of_hydrate hkeeps hworks htidy hstored hmem hhydrate other hput hdashboards htype
      (by rw [hresponse] at hsize; exact hsize) (by rw [hbody, hresponse]; rfl)⟩

/-- A service over memory where every action has left a table behind. -/
def tabular : Service Memory :=
  ⟨Memory.store, "dashboards", ⟨fun _ _ => .ok ⟨"e-7", "wf", none, none, none, none,
    [⟨"a", none, none, none, some "k,v\n1,\"2,3\"\n"⟩]⟩⟩⟩

/-- Three dashboards, two of them with one name. -/
def namesakes : Collection := [
  ⟨"1", "ops", []⟩,
  ⟨"2", "A b", [⟨.titled "t", .ofNames "wf" "latest" "a", .plain .table, none⟩]⟩,
  ⟨"3", "A b", []⟩]

/-- A request for a dashboard whose name has a blank in it. -/
def named : Request := ⟨"GET", "/dashboards/A%20b", none, ""⟩

/-- A request to save a body. -/
def returned (body : String) : Request :=
  ⟨"PUT", "/dashboards", some "application/json", body⟩

/-- The first of two dashboards with one name is read with a table and saved without it. -/
theorem shows_of_saved_back_table :
    let memory : Memory := ⟨Entries.empty.insert "dashboards" namesakes.toText, none⟩
    let read := handle tabular "4" named memory
    let result := Metadata.ofResult "k,v\n1,\"2,3\"\n"
    let shown : Dashboard :=
      ⟨"2", "A b", [⟨.titled "t", .ofNames "wf" "latest" "a", .plain .table, some result⟩]⟩
    read.response = .json 200 shown.toValue.toText ∧
      tabular.Shows (handle tabular "5" (returned read.response.body) read.state).state
        namesakes namesakes.toText := by
  intro memory read result shown
  have htidy : namesakes.IsTidy :=
    ⟨by decide, by simp [namesakes, Collection.IsStripped, Dashboard.IsStripped]⟩
  have hstored : tabular.store.get memory tabular.key = .ok (some namesakes.toText) := rfl
  have hworks : tabular.WriteWorks memory := fun text => ⟨_, rfl⟩
  have hpath : named.path = Resource.dashboardsPath ++ '/' :: "A%20b".toList := by decide
  have hresponse : read.response = .json 200 shown.toValue.toText := by
    have hholds : tabular.Holds memory namesakes :=
      ⟨_, hstored, htidy.isStripped.ofStored_toText⟩
    have hresource := ofPath?_eq_dashboard_iff.mpr ⟨hpath, by decide, by decide⟩
    have hsegment : readSegment "A%20b".toList = .ok "A b" := by
      rw [readSegment, show Text.Percent.decode? "A%20b".toList = some "A b" by decide]
    have hhydrated : read = getDashboard tabular "A b" memory :=
      (handle_get "4" rfl hresource).trans (withRead_of_ok hsegment)
    rw [hhydrated]
    exact getDashboard_of_hydrate hholds rfl rfl
  have hsize : shown.toValue.toText.utf8ByteSize ≤ maxBodySize := by decide +kernel
  -- for any body, so that the one that was read need not be computed again
  have hdashboards : Request.pathOf "/dashboards".toList = Resource.dashboardsPath := by decide
  have hreturned : ∀ body, (returned body).path = Resource.dashboardsPath ∧
      (returned body).body = body := fun _ => ⟨hdashboards, rfl⟩
  have hread : handle tabular "4" named memory = read := rfl
  obtain ⟨_, _, _, _, _, hshows⟩ := shows_of_saved_back Memory.keepsWrites hworks htidy hstored
    "5" rfl hpath hread (congrArg Response.status hresponse) (hresponse ▸ hsize) rfl
    (hreturned read.response.body).1 rfl (hreturned read.response.body).2
  exact ⟨hresponse, hshows⟩

end Http

end ResultBoards
