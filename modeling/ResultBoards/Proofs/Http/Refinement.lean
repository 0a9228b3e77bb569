import ResultBoards.Proofs.Http.Answers

/-!
# The collection over HTTP

Requests to create, save and delete dashboards change the stored collection as lists are
changed: one is appended, the first with an id is replaced, all with an id are removed.
What is answered is what is stored, to the byte.

## Strategy

* Three texts are made of a dashboard that is created or saved: the response, the element
  of the stored array, and the element of a later listing.  They are the same because no
  decoder of a body fills in metadata (`NewDashboard.ensures_decoder`), so that it does not
  matter which of the three had its metadata taken away.
* `Service.Holds` is what every request keeps (`exists_holds_handle`), whatever it is and
  however it is answered.  The text that is found at first may be formatted in any way, and
  only what it decodes to is used.
* `Service.Shows` is what holds after a text was written.  It says what the text is and
  that a listing answers it.
-/

namespace ResultBoards

open Http (Resource)

variable {σ : Type} {service : Service σ} {state : σ} {collection : Collection}

/-! ## The stored text -/

namespace Service

theorem Holds.isStripped (hholds : service.Holds state collection) : collection.IsStripped := by
  obtain ⟨stored, _, hstored⟩ := hholds
  exact Collection.isStripped_of_ofStored hstored

/-- The stored text is the array of the texts of some dashboards.  It decodes to these
dashboards, and a listing answers it as it is. -/
structure Shows (service : Service σ) (state : σ) (collection : Collection) (text : String) :
    Prop where
  get_eq : service.store.get state service.key = .ok (some text)
  text_eq : text =
    "[" ++ ",".intercalate (collection.map fun dashboard => dashboard.toValue.toText) ++ "]"
  decode_eq : Collection.ofStored (some text) = .ok collection
  list_eq : ∀ id request, request.method = "GET" → request.path = Resource.dashboardsPath →
    (Http.handle service id request state).response = .json 200 text

theorem Shows.holds {text : String} (hshows : service.Shows state collection text) :
    service.Holds state collection :=
  ⟨_, hshows.get_eq, hshows.decode_eq⟩

theorem shows_of_get (hstripped : collection.IsStripped)
    (hget : service.store.get state service.key = .ok (some collection.toText)) :
    service.Shows state collection collection.toText := by
  have hdecode := hstripped.ofStored_toText
  refine ⟨hget, collection.toText_eq, hdecode, fun id request hmethod hpath => ?_⟩
  have hholds : service.Holds state collection := ⟨_, hget, hdecode⟩
  rw [Http.handle_list id hmethod hpath]
  exact (Http.listDashboards_of_holds hholds).1

end Service

namespace Http

/-! ## What every request keeps -/

theorem exists_holds_withRead {α : Type} (hholds : service.Holds state collection)
    {read : Except Response α} {next : α → Exchange σ}
    (hnext : ∀ value, ∃ later, service.Holds (next value).state later) :
    ∃ later, service.Holds (withRead state read next).state later := by
  cases read with
  | error response => exact ⟨collection, hholds⟩
  | ok value => exact hnext value

section

variable (hkeeps : service.store.KeepsWrites) (hworks : service.WriteWorks state)
  (hholds : service.Holds state collection)
include hkeeps hworks hholds

theorem exists_holds_handleResource (id : String) (request : Request) (resource : Resource) :
    ∃ later, service.Holds (handleResource service id request state resource).state later := by
  have hstripped := hholds.isStripped
  cases resource with
  | health =>
      simp only [handleResource]
      split <;> exact ⟨collection, hholds⟩
  | dashboards =>
      simp only [handleResource]
      split
      · rw [(listDashboards_of_holds hholds).2]
        exact ⟨collection, hholds⟩
      · split
        · refine exists_holds_withRead hholds fun dashboard => ?_
          have hnext := (createDashboard_of_holds hkeeps hworks hholds id dashboard).2
          exact ⟨_, (Service.shows_of_get (hstripped.save _) hnext).holds⟩
        · split
          · refine exists_holds_withRead hholds fun dashboard => ?_
            have hnext := (saveDashboard_of_holds hkeeps hworks hholds dashboard).2
            exact ⟨_, (Service.shows_of_get (hstripped.save _) hnext).holds⟩
          · exact ⟨collection, hholds⟩
  | dashboard segment =>
      simp only [handleResource]
      split
      · refine exists_holds_withRead hholds fun name => ⟨collection, ?_⟩
        rw [getDashboard, state_answer, Service.state_getHydrated_of_holds hholds]
        exact hholds
      · split
        · refine exists_holds_withRead hholds fun gone => ?_
          have hnext := (deleteDashboard_of_holds hkeeps hworks hholds gone).2
          exact ⟨_, (Service.shows_of_get (hstripped.removeId _) hnext).holds⟩
        · exact ⟨collection, hholds⟩

/-- **Any request.**  However it is answered, the stored text still decodes. -/
theorem exists_holds_handle (id : String) (request : Request) :
    ∃ later, service.Holds (handle service id request state).state later := by
  unfold handle
  split
  · exact ⟨collection, hholds⟩
  · split
    · exact exists_holds_handleResource hkeeps hworks hholds id _ _
    · exact exists_holds_handleResource hkeeps hworks hholds id _ _

end

/-! ## Runs -/

/-- A request that arrives, and the id that a dashboard gets if the request creates one. -/
structure Arrival where
  id : String
  request : Request

/-- What happens when a request arrives. -/
def Arrival.exchange (service : Service σ) (state : σ) (arrival : Arrival) : Exchange σ :=
  handle service arrival.id arrival.request state

/-- The state after some requests, one after the other. -/
def after (service : Service σ) (state : σ) (arrivals : List Arrival) : σ :=
  arrivals.foldl (fun state arrival => (arrival.exchange service state).state) state

/-- Whenever one of some requests arrives, writing works. -/
def WritesWork (service : Service σ) : σ → List Arrival → Prop
  | _, [] => True
  | state, arrival :: arrivals =>
      service.WriteWorks state ∧ WritesWork service (arrival.exchange service state).state arrivals

/-- What a request does to the stored collection, and what is answered. -/
structure Refines (service : Service σ) (state : σ) (collection : Collection)
    (arrival : Arrival) : Prop where
  post_iff : arrival.request.method = "POST" → arrival.request.path = Resource.dashboardsPath →
    ((arrival.exchange service state).response.status = 201 ↔
      ∃ body, readBody NewDashboard.decoder arrival.request = .ok body)
  post : arrival.request.method = "POST" → arrival.request.path = Resource.dashboardsPath →
    arrival.id ∉ collection.map Dashboard.id →
    ∀ body, readBody NewDashboard.decoder arrival.request = .ok body →
    ∃ created text, created = ⟨arrival.id, body.name, body.widgets.map Widget.clearMetadata⟩ ∧
      (arrival.exchange service state).response.body = created.toValue.toText ∧
      service.Shows (arrival.exchange service state).state (collection ++ [created]) text
  put_iff : arrival.request.method = "PUT" → arrival.request.path = Resource.dashboardsPath →
    ((arrival.exchange service state).response.status = 200 ↔
      ∃ body, readBody Dashboard.decoder arrival.request = .ok body)
  put : arrival.request.method = "PUT" → arrival.request.path = Resource.dashboardsPath →
    ∀ body, readBody Dashboard.decoder arrival.request = .ok body →
    ∃ saved text, saved = ⟨body.id, body.name, body.widgets.map Widget.clearMetadata⟩ ∧
      (arrival.exchange service state).response.body = saved.toValue.toText ∧
      ((∃ front old back, collection = front ++ old :: back ∧ old.id = body.id ∧
          body.id ∉ front.map Dashboard.id ∧
          service.Shows (arrival.exchange service state).state (front ++ saved :: back) text) ∨
        body.id ∉ collection.map Dashboard.id ∧
          service.Shows (arrival.exchange service state).state (collection ++ [saved]) text)
  delete_iff : arrival.request.method = "DELETE" →
    ((arrival.exchange service state).response.status = 204 ↔
      ∃ segment id, arrival.request.path = Resource.dashboardsPath ++ '/' :: segment ∧
        segment ≠ [] ∧ '/' ∉ segment ∧ Text.Percent.decode? segment = some id)
  delete : arrival.request.method = "DELETE" →
    ∀ segment id, arrival.request.path = Resource.dashboardsPath ++ '/' :: segment →
    segment ≠ [] → '/' ∉ segment → Text.Percent.decode? segment = some id →
    ∃ text, service.Shows (arrival.exchange service state).state
      (collection.filter fun dashboard => dashboard.id ≠ id) text

/-! ## One request -/

theorem withRead_of_ok {α : Type} {read : Except Response α} {next : α → Exchange σ} {value : α}
    (hread : read = .ok value) : withRead state read next = next value := by
  rw [hread, withRead]

/-- Whether a body was read shows in the status. -/
theorem status_withRead_iff {α : Type} {decoder : Json.Decoder α} {request : Request}
    {next : α → Exchange σ} {status : Nat} (hnext : ∀ body, (next body).response.status = status)
    (hstatus : status ∉ [400, 413, 415, 422]) :
    (withRead state (readBody decoder request) next).response.status = status ↔
      ∃ body, readBody decoder request = .ok body := by
  cases hbody : readBody decoder request with
  | error response =>
      have hrefused := status_of_readBody hbody
      simp only [withRead, reduceCtorEq, exists_false, iff_false]
      rintro rfl
      exact hstatus hrefused
  | ok body => simp [withRead, hnext]

section

variable (hkeeps : service.store.KeepsWrites) (hworks : service.WriteWorks state)
  (hholds : service.Holds state collection)
include hkeeps hworks hholds

/-- A dashboard that is created is appended, and answered as it is stored. -/
theorem createDashboard_shows {id : String} (hmissing : id ∉ collection.map Dashboard.id)
    {body : NewDashboard} (hbody : (body.withId id).IsStripped) :
    ∃ created text, created = ⟨id, body.name, body.widgets.map Widget.clearMetadata⟩ ∧
      (createDashboard service id body state).response.body = created.toValue.toText ∧
      service.Shows (createDashboard service id body state).state (collection ++ [created])
        text := by
  obtain ⟨hresponse, hget⟩ := createDashboard_of_holds hkeeps hworks hholds id body
  have hsaved : collection.save (body.withId id) =
      collection ++ [(body.withId id).withoutMetadata] := Collection.put_of_missing hmissing
  have hshows := Service.shows_of_get (hholds.isStripped.save (body.withId id)) hget
  refine ⟨(body.withId id).withoutMetadata, (collection.save (body.withId id)).toText, rfl, ?_, ?_⟩
  · -- the answer is made from the dashboard that still had its metadata, which was none
    rw [hresponse, hbody.withoutMetadata_eq]
    rfl
  · rw [← hsaved]
    exact hshows

/-- A dashboard that is saved takes the place of the first with its id or is appended, and
is answered as it is stored. -/
theorem saveDashboard_shows (body : Dashboard) :
    ∃ saved text, saved = ⟨body.id, body.name, body.widgets.map Widget.clearMetadata⟩ ∧
      (saveDashboard service body state).response.body = saved.toValue.toText ∧
      ((∃ front old back, collection = front ++ old :: back ∧ old.id = body.id ∧
          body.id ∉ front.map Dashboard.id ∧
          service.Shows (saveDashboard service body state).state (front ++ saved :: back) text) ∨
        body.id ∉ collection.map Dashboard.id ∧
          service.Shows (saveDashboard service body state).state (collection ++ [saved]) text) := by
  obtain ⟨hresponse, hget⟩ := saveDashboard_of_holds hkeeps hworks hholds body
  have hshows := Service.shows_of_get (hholds.isStripped.save body) hget
  refine ⟨body.withoutMetadata, (collection.save body).toText, rfl, ?_, ?_⟩
  · rw [hresponse]
    rfl
  · rcases Collection.exists_put body.withoutMetadata collection with
      ⟨front, old, back, hcollection, hold, hfront, hput⟩ | ⟨hmissing, hput⟩
    · refine .inl ⟨front, old, back, hcollection, hold, hfront, ?_⟩
      rw [← hput]
      exact hshows
    · refine .inr ⟨hmissing, ?_⟩
      rw [← hput]
      exact hshows

/-- **One request.**  Where the stored text decodes to a collection, a request refines what
it means for the collection. -/
theorem refines_of_holds (arrival : Arrival) : Refines service state collection arrival where
  post_iff hmethod hpath := by
    rw [Arrival.exchange, handle_post arrival.id hmethod hpath]
    refine status_withRead_iff (fun body => ?_) (by decide)
    rw [(createDashboard_of_holds hkeeps hworks hholds arrival.id body).1]
    rfl
  post hmethod hpath hmissing body hbody := by
    rw [Arrival.exchange, handle_post arrival.id hmethod hpath, withRead_of_ok hbody]
    have hdecode := decodeFirst_of_readBody hbody
    have hstripped := NewDashboard.ensures_decoder.decodeFirst hdecode arrival.id
    exact createDashboard_shows hkeeps hworks hholds hmissing hstripped
  put_iff hmethod hpath := by
    rw [Arrival.exchange, handle_put arrival.id hmethod hpath]
    refine status_withRead_iff (fun body => ?_) (by decide)
    rw [(saveDashboard_of_holds hkeeps hworks hholds body).1]
    rfl
  put hmethod hpath body hbody := by
    rw [Arrival.exchange, handle_put arrival.id hmethod hpath, withRead_of_ok hbody]
    exact saveDashboard_shows hkeeps hworks hholds body
  delete_iff hmethod := by
    constructor
    · intro hstatus
      obtain ⟨segment, hresource⟩ := exists_dashboard_of_delete arrival.id hmethod hstatus
      obtain ⟨hpath, hne, hslash⟩ := ofPath?_eq_dashboard_iff.mp hresource
      rw [Arrival.exchange, handle_delete arrival.id hmethod hresource] at hstatus
      cases hid : Text.Percent.decode? segment with
      | none => simp [readSegment, hid, withRead, Response.text] at hstatus
      | some id => exact ⟨segment, id, hpath, hne, hslash, hid⟩
    · rintro ⟨segment, id, hpath, hne, hslash, hid⟩
      have hresource := ofPath?_eq_dashboard_iff.mpr ⟨hpath, hne, hslash⟩
      have hsegment : readSegment segment = .ok id := by rw [readSegment, hid]
      rw [Arrival.exchange, handle_delete arrival.id hmethod hresource, withRead_of_ok hsegment,
        (deleteDashboard_of_holds hkeeps hworks hholds id).1]
      rfl
  delete hmethod segment id hpath hne hslash hid := by
    have hresource := ofPath?_eq_dashboard_iff.mpr ⟨hpath, hne, hslash⟩
    have hsegment : readSegment segment = .ok id := by rw [readSegment, hid]
    rw [Arrival.exchange, handle_delete arrival.id hmethod hresource, withRead_of_ok hsegment]
    obtain ⟨_, hget⟩ := deleteDashboard_of_holds hkeeps hworks hholds id
    exact ⟨_, Service.shows_of_get (hholds.isStripped.removeId id) hget⟩

end

/-! ## All requests -/

theorem refines_after_of_holds (hkeeps : service.store.KeepsWrites)
    (hholds : service.Holds state collection) (before : List Arrival) (arrival : Arrival)
    (hworks : WritesWork service state (before ++ [arrival])) :
    ∃ later, service.Holds (after service state before) later ∧
      Refines service (after service state before) later arrival := by
  induction before generalizing state collection with
  | nil => exact ⟨collection, hholds, refines_of_holds hkeeps hworks.1 hholds arrival⟩
  | cons first before ih =>
      obtain ⟨hfirst, hothers⟩ := hworks
      obtain ⟨next, hnext⟩ := exists_holds_handle hkeeps hfirst hholds first.id first.request
      exact ih hnext hothers

/-- **The service refines a collection.**  Let the stored text be absent or decode to a
collection.  After any requests, as long as writes work, it still decodes, and the next
request changes what it decodes to as a request to a list of dashboards does. -/
theorem refines_after (hkeeps : service.store.KeepsWrites) {stored : Option String}
    (hget : service.store.get state service.key = .ok stored)
    (hstored : Collection.ofStored stored = .ok collection) (before : List Arrival)
    (arrival : Arrival) (hworks : WritesWork service state (before ++ [arrival])) :
    ∃ later, service.Holds (after service state before) later ∧
      Refines service (after service state before) later arrival :=
  refines_after_of_holds hkeeps ⟨stored, hget, hstored⟩ before arrival hworks

/-- A service over memory that reaches no execution service. -/
def offline : Service Memory := ⟨Memory.store, "dashboards", ⟨fun _ _ => .error ⟨"", []⟩⟩⟩

/-- A text that holds three dashboards, two of them with one id. -/
def duplicates : String :=
  " [\x7b\"id\":\"a/1\",\"name\":\"A\"\x7d,\x7b\"name\":\"B\",\"id\":\"2\"\x7d, [\"a/1\",\"C\"]]"

/-- A request to delete the two. -/
def deletion : Arrival := ⟨"6", ⟨"DELETE", "/dashboards/a%2F1", none, ""⟩⟩

/-- A request to create a dashboard whose body has an id and metadata of its own. -/
def creation : Arrival := ⟨"7", ⟨"POST", "/dashboards", some "application/json",
  "\x7b\"id\":\"9\",\"name\":\"D\",\"widgets\":[\x7b\"type\":\"text\",\"metadata\":\"x\"\x7d]\x7d"⟩⟩

/-- Both dashboards with the id are gone, and neither the id nor the metadata of the body is
stored. -/
theorem refines_after_deletion :
    let memory : Memory := ⟨Entries.empty.insert "dashboards" duplicates, none⟩
    let created : Dashboard := ⟨"7", "D", [.plain .text ""]⟩
    WritesWork offline memory [deletion, creation] ∧
      ∃ text, offline.Shows (after offline memory [deletion, creation])
          [⟨"2", "B", []⟩, created] text ∧
        (creation.exchange offline (after offline memory [deletion])).response.body =
          created.toValue.toText := by
  intro memory created
  have hget : offline.store.get memory offline.key = .ok (some duplicates) := rfl
  have hstored : Collection.ofStored (some duplicates) =
      .ok [⟨"a/1", "A", []⟩, ⟨"2", "B", []⟩, ⟨"a/1", "C", []⟩] := rfl
  have hworks : WritesWork offline memory [deletion, creation] :=
    ⟨fun text => ⟨_, rfl⟩, fun text => ⟨_, rfl⟩, trivial⟩
  have hkept : offline.store.get (after offline memory [deletion]) offline.key =
      .ok (some (Collection.toText [⟨"2", "B", []⟩])) := rfl
  obtain ⟨later, ⟨found, hfound, hlater⟩, hrefines⟩ :=
    refines_after Memory.keepsWrites hget hstored [deletion] creation hworks
  -- what is held before the last request is known, so `later` is
  obtain rfl : some (Collection.toText [⟨"2", "B", []⟩]) = found :=
    Except.ok.inj (hkept.symm.trans hfound)
  obtain rfl : [⟨"2", "B", []⟩] = later :=
    Except.ok.inj ((Collection.ofStored_toText _).symm.trans hlater)
  obtain ⟨_, text, rfl, hbody, hshows⟩ :=
    hrefines.post rfl rfl (by decide) ⟨"D", [.plain .text ""]⟩ rfl
  exact ⟨hworks, text, hshows, hbody⟩

end Http

end ResultBoards
