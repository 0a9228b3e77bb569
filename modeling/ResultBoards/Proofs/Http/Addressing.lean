import Mathlib.Data.List.TakeWhile
import ResultBoards.Proofs.Http.HydratedRead
import ResultBoards.Proofs.Text.Bytes

/-!
# Addressing dashboards

A dashboard is addressed by one segment of a path, which spells its name or its id.  Any text
that is not empty can be spelled, also one with slashes, percent signs or question marks in
it, and whichever spelling a client has chosen, the service works with the text itself.

## Strategy

* A spelling has no character that ends a path or a segment (`Spells.not_mem`), so the target
  leads to the segment as it was spelled (`path_of_target`).
* The segment is decoded once, after the path was taken apart (`Spells.decode?_eq`).
* From there on the request is one of the two operations on the text.  What a deletion leaves
  is said for a write that works and for one that fails (`deleteById_writes_or_fails`).
-/

namespace ResultBoards.Http

open Text.Percent (Spells)

variable {σ : Type} {service : Service σ} {state : σ} {collection : Collection}

/-! ## From the target to the text -/

/-- The target that leads to a segment. -/
def dashboardTarget (segment : List Char) : String :=
  "/dashboards/" ++ String.ofList segment

theorem path_of_target {bytes : List UInt8} {segment : List Char}
    (hspells : Spells bytes segment) {request : Request}
    (htarget : request.target = dashboardTarget segment) :
    request.path = Resource.dashboardsPath ++ '/' :: segment := by
  have hplain : ∀ c ∈ segment, c ≠ '?' ∧ c ≠ '#' := by
    intro c hc
    constructor
    · rintro rfl
      exact hspells.not_mem rfl (by decide) hc
    · rintro rfl
      exact hspells.not_mem rfl (by decide) hc
  have hchars : request.target.toList = "/dashboards/".toList ++ segment := by
    rw [htarget, dashboardTarget, String.toList_append, @String.toList_ofList segment]
  have hfixed : ∀ c ∈ "/dashboards/".toList, c ≠ '?' ∧ c ≠ '#' := by simp
  have hall : ∀ c ∈ "/dashboards/".toList ++ segment, decide (c ≠ '?' ∧ c ≠ '#') = true := by
    intro c hc
    rcases List.mem_append.mp hc with hc | hc
    · exact decide_eq_true (hfixed c hc)
    · exact decide_eq_true (hplain c hc)
  rw [Request.path, hchars, Request.pathOf, if_pos (.inl rfl), Request.beforeQuery,
    List.takeWhile_eq_self_iff.mpr hall]
  rfl

theorem readSegment_of_spells {text : String} {segment : List Char}
    (hspells : Spells text.toUTF8.data.toList segment) : readSegment segment = .ok text := by
  rw [readSegment, hspells.decode?_eq]

/-- The spelling of a text that is not empty is a segment. -/
theorem ofPath?_of_spells {text : String} (hne : text ≠ "") {segment : List Char}
    (hspells : Spells text.toUTF8.data.toList segment) {request : Request}
    (htarget : request.target = dashboardTarget segment) :
    Resource.ofPath? request.path = some (.dashboard segment) := by
  have hsegment : segment ≠ [] := by
    rintro rfl
    have hread := hspells.decode?_eq
    exact hne (Option.some.inj hread).symm
  exact ofPath?_eq_dashboard_iff.mpr
    ⟨path_of_target hspells htarget, hsegment, hspells.not_mem rfl (by decide)⟩

/-! ## What is deleted -/

/-- A deletion whose write works leaves the dashboards with other ids.  One that fails has
written nothing. -/
theorem deleteById_writes_or_fails (hkeeps : service.store.KeepsWrites)
    (hholds : service.Holds state collection) (id : String) :
    (∃ count, (service.run (.deleteById id) state).result = .ok count ∧
        service.Holds (service.run (.deleteById id) state).state (collection.removeId id)) ∨
      ∃ failure, (service.run (.deleteById id) state).result = .error failure ∧
        Unwritten service.store service.key state
          (service.run (.deleteById id) state).state := by
  have hstripped : (collection.removeId id).IsStripped := hholds.isStripped.removeId id
  obtain ⟨stored, hget, hstored⟩ := hholds
  obtain ⟨events, count, hplan⟩ := Operation.deleteById_of_ofStored hstored id
  cases hset : service.store.set state service.key (collection.removeId id).toText with
  | mk written next =>
      cases written with
      | ok _ =>
          obtain ⟨hresult, hstate⟩ := Operation.run_of_write hget hplan rfl hset
          have hnext : (service.run (.deleteById id) state).state = next := hstate
          refine .inl ⟨count, congrArg (Except.mapError ServiceFailure.store) hresult, ?_⟩
          rw [hnext]
          exact ⟨_, hkeeps hset, hstripped.ofStored_toText⟩
      | error problem =>
          have hresult : (service.run (.deleteById id) state).result = .error (.store problem) := by
            simp only [Service.run, Operation.run, hget, hplan, hset, Except.mapError]
          exact .inr ⟨_, hresult, Service.unwritten_of_error hresult⟩

/-! ## What is done for a request -/

/-- What requests that are addressed by a segment do, if it stands for a text. -/
structure Addresses (service : Service σ) (state : σ) (segment : List Char) (text : String) :
    Prop where
  /-- The target leads to the segment. -/
  route : ∀ request : Request, request.target = dashboardTarget segment →
    Resource.ofPath? request.path = some (.dashboard segment)
  /-- The segment is read as the text. -/
  parameter : readSegment segment = .ok text
  /-- A deletion is one of the dashboards with the text as their id. -/
  delete_eq : ∀ (id : String) (request : Request), request.method = "DELETE" →
    request.target = dashboardTarget segment →
    handle service id request state =
      answer s!"Error deleting dashboard {text}" (fun _ => .empty 204)
        (service.run (.deleteById text) state)
  /-- It spares all others, and if it fails it spares all. -/
  spares : ∀ (id : String) (request : Request) (collection : Collection),
    request.method = "DELETE" → request.target = dashboardTarget segment →
    service.Holds state collection →
    (handle service id request state).response.status = 204 ∧
        service.Holds (handle service id request state).state
          (collection.filter fun entry => entry.id ≠ text) ∨
      (handle service id request state).response.status = 500 ∧
        Unwritten service.store service.key state (handle service id request state).state
  /-- A read is one of the dashboard with the text as its name. -/
  get_eq : ∀ (id : String) (request : Request), request.method = "GET" →
    request.target = dashboardTarget segment →
    handle service id request state =
      answer s!"Error loading dashboard {text}"
        (Option.elim · (.empty 404) fun dashboard => .json 200 dashboard.toValue.toText)
        (service.getHydrated text state)
  /-- No other is answered. -/
  returns : ∀ (id : String) (request : Request) (collection : Collection),
    request.method = "GET" → request.target = dashboardTarget segment →
    service.Holds state collection → (handle service id request state).response.status = 200 →
    ∃ dashboard hydrated : Dashboard, collection.FirstNamed text dashboard ∧
      (dashboard.hydrate service.repository).result = .ok hydrated ∧ hydrated.name = text ∧
      (handle service id request state).response = .json 200 hydrated.toValue.toText

/-- **Addressing is faithful.**  Let a segment spell a text that is not empty, each byte as a
percent sign and two digits in either case or, if it is unreserved, as it is.  Then a request
to delete `/dashboards/` and the segment deletes the dashboards with the text as their id, a
request to get it reads the one with the text as its name, and neither reaches any other. -/
theorem addresses_of_spells (hkeeps : service.store.KeepsWrites) (state : σ) {text : String}
    (hne : text ≠ "") {segment : List Char}
    (hspells : Spells text.toUTF8.data.toList segment) :
    Addresses service state segment text := by
  have hroute : ∀ request : Request, request.target = dashboardTarget segment →
      Resource.ofPath? request.path = some (.dashboard segment) := fun _ htarget =>
    ofPath?_of_spells hne hspells htarget
  have hread : readSegment segment = .ok text := readSegment_of_spells hspells
  have hdelete : ∀ (id : String) (request : Request), request.method = "DELETE" →
      request.target = dashboardTarget segment →
      handle service id request state = deleteDashboard service text state := by
    intro id request hmethod htarget
    rw [handle_delete id hmethod (hroute request htarget), withRead_of_ok hread]
  have hgetDashboard : ∀ (id : String) (request : Request), request.method = "GET" →
      request.target = dashboardTarget segment →
      handle service id request state = getDashboard service text state := by
    intro id request hmethod htarget
    rw [handle_get id hmethod (hroute request htarget), withRead_of_ok hread]
  constructor
  case route => exact hroute
  case parameter => exact hread
  case delete_eq => exact hdelete
  case spares =>
    intro id request collection hmethod htarget hholds
    rw [hdelete id request hmethod htarget, deleteDashboard, state_answer]
    rcases deleteById_writes_or_fails hkeeps hholds text with
      ⟨count, hresult, hnext⟩ | ⟨failure, hresult, hunwritten⟩
    · rw [(answer_of_ok hresult).1]
      exact .inl ⟨rfl, hnext⟩
    · refine .inr ⟨?_, hunwritten⟩
      simp only [answer, hresult, Response.empty]
  case get_eq =>
    intro id request hmethod htarget
    rw [hgetDashboard id request hmethod htarget, getDashboard]
    congr 1
    funext found
    cases found <;> rfl
  case returns =>
    intro id request collection hmethod htarget hholds hstatus
    rw [hgetDashboard id request hmethod htarget] at hstatus ⊢
    obtain ⟨dashboard, hydrated, hfound, hresult⟩ :=
      exists_hydrated_of_getDashboard hholds hstatus
    obtain ⟨_, hname, _⟩ := Dashboard.hydrate_eq_ok_iff.mp hresult
    have hfirst := Collection.findByName?_eq_some_iff.mp hfound
    exact ⟨dashboard, hydrated, hfirst, hresult, hname.trans hfirst.name_eq,
      getDashboard_of_hydrate hholds hfound hresult⟩

/-- The text has a slash, a percent sign and a letter of two bytes in it, and is spelled with
digits of both cases.  What is spelled like it, decoded once too often or not at all, is
another text. -/
theorem addresses_of_mixed_spelling :
    let collection : Collection :=
      [⟨"a/%é", "first", []⟩, ⟨"a", "a/%é", []⟩, ⟨"a%2f%25%C3%a9", "last", []⟩]
    let memory : Memory := ⟨Entries.empty.insert "dashboards" collection.toText, none⟩
    let target := "/dashboards/a%2f%25%C3%a9"
    recent.Holds (handle recent "4" ⟨"DELETE", target, none, ""⟩ memory).state
        [⟨"a", "a/%é", []⟩, ⟨"a%2f%25%C3%a9", "last", []⟩] ∧
      (handle recent "4" ⟨"GET", target, none, ""⟩ memory).response =
        .json 200 (Dashboard.mk "a" "a/%é" []).toValue.toText := by
  intro collection memory target
  have hspells : Spells "a/%é".toUTF8.data.toList "a%2f%25%C3%a9".toList := by
    show Spells [0x61, 0x2f, 0x25, 0xc3, 0xa9]
      (['a'] ++ (['%', '2', 'f'] ++ (['%', '2', '5'] ++ (['%', 'C', '3'] ++
        (['%', 'a', '9'] ++ [])))))
    exact .cons (.kept rfl rfl) (.cons (.encoded (by decide) (by decide))
      (.cons (.encoded (by decide) (by decide)) (.cons (.encoded (by decide) (by decide))
        (.cons (.encoded (by decide) (by decide)) .nil))))
  have haddresses : Addresses recent memory "a%2f%25%C3%a9".toList "a/%é" :=
    addresses_of_spells Memory.keepsWrites memory (by decide) hspells
  have hholds : recent.Holds memory collection :=
    ⟨_, congrArg Except.ok (Entries.get?_insert_self _ _ _), Collection.ofStored_toText collection⟩
  have hfirst : collection.FirstNamed "a/%é" ⟨"a", "a/%é", []⟩ :=
    ⟨[⟨"a/%é", "first", []⟩], _, rfl, rfl, by decide⟩
  refine ⟨?_, ?_⟩
  · rcases haddresses.spares "4" ⟨"DELETE", target, none, ""⟩ collection rfl rfl hholds with
      ⟨_, hnext⟩ | ⟨hstatus, _⟩
    · exact hnext
    · -- memory is not broken, so the deletion does not fail
      have hworks : recent.WriteWorks memory := fun text => ⟨_, rfl⟩
      have hdone := (deleteDashboard_of_holds Memory.keepsWrites hworks hholds "a/%é").1
      have heq := haddresses.delete_eq "4" ⟨"DELETE", target, none, ""⟩ rfl rfl
      rw [heq] at hstatus
      exact nomatch hstatus.symm.trans (congrArg Response.status hdone)
  · have hresult : (recent.getHydrated "a/%é" memory).result = .ok (some ⟨"a", "a/%é", []⟩) := by
      rw [result_getHydrated_of_holds hholds, Collection.findByName?_eq_some_iff.mpr hfirst]
      rfl
    rw [haddresses.get_eq "4" ⟨"GET", target, none, ""⟩ rfl rfl, (answer_of_ok hresult).1]
    rfl

end ResultBoards.Http
