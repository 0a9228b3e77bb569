import ResultBoards.Http.Status
import ResultBoards.Proofs.Http.Answers
import ResultBoards.Proofs.Store.Outcomes

/-!
# Requests that write nothing

Only a request that creates, saves or deletes a dashboard can write to the store, and it has
written nothing unless it was answered with success.  Nothing is assumed of the stored text,
of the store, or of the execution service.

A write that fails is still a use of the store, so what holds of any store is `Unwritten`.
Memory is left exactly as it was.
-/

namespace ResultBoards.Http

variable {σ : Type} {service : Service σ} {state : σ}

/-! ## Answers without success -/

/-- Either an exchange ended with success or it has written nothing. -/
def SucceedsOrSpares (service : Service σ) (state : σ) (exchange : Exchange σ) : Prop :=
  isSuccess exchange.response.status = true ∨
    Unwritten service.store service.key state exchange.state

/-- What an operation has done is answered with success unless it has failed. -/
theorem succeedsOrSpares_answer {α : Type} {context : String} {respond : α → Response}
    {operation : Operation α} (hrespond : ∀ value, isSuccess (respond value).status = true) :
    SucceedsOrSpares service state (answer context respond (service.run operation state)) := by
  cases hresult : (operation.run service.store service.key state).result with
  | ok value =>
      have hserved : (service.run operation state).result = .ok value := by
        rw [Service.run, hresult, Except.mapError]
      refine .inl ?_
      rw [(answer_of_ok hserved).1]
      exact hrespond value
  | error failure =>
      refine .inr ?_
      rw [state_answer]
      exact operation.unwritten_of_error hresult

theorem succeedsOrSpares_withRead {α : Type} {read : Except Response α} {next : α → Exchange σ}
    (hnext : ∀ value, SucceedsOrSpares service state (next value)) :
    SucceedsOrSpares service state (withRead state read next) := by
  cases read with
  | ok value => exact hnext value
  | error response => exact .inr .untried

/-! ## Reading -/

theorem state_withRead {α : Type} {read : Except Response α} {next : α → Exchange σ}
    (hnext : ∀ value, (next value).state = state) : (withRead state read next).state = state := by
  cases read with
  | ok value => exact hnext value
  | error response => rfl

/-- Whatever is asked for with `GET`, the store stays as it is. -/
theorem state_handleResource_of_get {request : Request} (hmethod : request.method = "GET")
    (id : String) (resource : Resource) :
    (handleResource service id request state resource).state = state := by
  cases resource with
  | health => simp only [handleResource, hmethod, if_true]
  | dashboards =>
      simp only [handleResource, hmethod, if_true]
      rw [listDashboards, state_answer]
      exact Operation.state_run_of_readOnly Operation.written_list
  | dashboard segment =>
      simp only [handleResource, hmethod, if_true]
      refine state_withRead fun name => ?_
      rw [getDashboard, state_answer, Service.state_getHydrated]
      exact Operation.state_run_of_readOnly (Operation.written_getByName name)

/-! ## Any request -/

/-- The request is to create, to save or to delete a dashboard. -/
def Request.IsMutation (request : Request) : Prop :=
  (request.method = "POST" ∨ request.method = "PUT") ∧
      request.path = Resource.dashboardsPath ∨
    request.method = "DELETE" ∧ ∃ segment,
      request.path = Resource.dashboardsPath ++ '/' :: segment ∧ segment ≠ [] ∧ '/' ∉ segment

theorem ofPath?_eq_dashboards_iff {path : List Char} :
    Resource.ofPath? path = some .dashboards ↔ path = Resource.dashboardsPath := by
  rw [Resource.ofPath?]
  split
  · rename_i hhealth
    simp only [reduceCtorEq, false_iff, Option.some.injEq, hhealth]
    decide
  · split <;> simp [*]

/-- A method that a resource does not have changes nothing there, and the others either
succeed or write nothing. -/
theorem succeedsOrSpares_handleResource (id : String) (request : Request) (resource : Resource) :
    SucceedsOrSpares service state (handleResource service id request state resource) := by
  by_cases hget : request.method = "GET"
  · refine .inr ?_
    rw [state_handleResource_of_get hget]
    exact .untried
  · cases resource with
    | health =>
        simp only [handleResource, hget, if_false]
        exact .inr .untried
    | dashboards =>
        simp only [handleResource, hget, if_false]
        split
        · exact succeedsOrSpares_withRead fun _ => succeedsOrSpares_answer fun _ => rfl
        · split
          · exact succeedsOrSpares_withRead fun _ => succeedsOrSpares_answer fun _ => rfl
          · exact .inr .untried
    | dashboard segment =>
        simp only [handleResource, hget, if_false]
        split
        · exact succeedsOrSpares_withRead fun _ => succeedsOrSpares_answer fun _ => rfl
        · exact .inr .untried

/-- Only a mutation reaches anything that writes. -/
theorem state_handleResource_of_not_isMutation {request : Request}
    (hnot : ¬request.IsMutation) (id : String) {resource : Resource}
    (hresource : Resource.ofPath? request.path = some resource) :
    (handleResource service id request state resource).state = state := by
  by_cases hget : request.method = "GET"
  · exact state_handleResource_of_get hget id resource
  · cases resource with
    | health => simp only [handleResource, hget, if_false]
    | dashboards =>
        have hpath := ofPath?_eq_dashboards_iff.mp hresource
        have hpost : request.method ≠ "POST" := fun hpost => hnot (.inl ⟨.inl hpost, hpath⟩)
        have hput : request.method ≠ "PUT" := fun hput => hnot (.inl ⟨.inr hput, hpath⟩)
        simp only [handleResource, hget, hpost, hput, if_false]
    | dashboard segment =>
        have hpath := ofPath?_eq_dashboard_iff.mp hresource
        have hdelete : request.method ≠ "DELETE" := fun hdelete =>
          hnot (.inr ⟨hdelete, segment, hpath⟩)
        simp only [handleResource, hget, hdelete, if_false]

/-- A request that is answered without success has written nothing, whatever it asked for. -/
theorem succeedsOrSpares_handle (id : String) (request : Request) :
    SucceedsOrSpares service state (handle service id request state) := by
  unfold handle
  split
  · exact .inr .untried
  · split
    · -- only the body of the answer is dropped
      exact succeedsOrSpares_handleResource id _ _
    · exact succeedsOrSpares_handleResource id _ _

/-- A request that is no mutation writes nothing, however it is answered. -/
theorem state_handle_of_not_isMutation {request : Request} (hnot : ¬request.IsMutation)
    (id : String) : (handle service id request state).state = state := by
  unfold handle
  split
  · rfl
  · rename_i hresource
    split
    · exact state_handleResource_of_get rfl id _
    · exact state_handleResource_of_not_isMutation hnot id hresource

/-- **Any store.**  Unless a request is a mutation that is answered with success, nothing is
written. -/
theorem unwritten_handle {id : String} {request : Request}
    (hnot : ¬(request.IsMutation ∧
      isSuccess (handle service id request state).response.status = true)) :
    Unwritten service.store service.key state (handle service id request state).state := by
  by_cases hmutation : request.IsMutation
  · exact (succeedsOrSpares_handle id request).resolve_left fun hsuccess =>
      hnot ⟨hmutation, hsuccess⟩
  · rw [state_handle_of_not_isMutation hmutation id]
    exact .untried

/-! ## Memory -/

theorem state_handle_inMemory {key : String} {repository : Repository} {id : String}
    {request : Request} {memory : Memory}
    (hnot : ¬(request.IsMutation ∧
      isSuccess (handle (.inMemory key repository) id request memory).response.status = true)) :
    (handle (.inMemory key repository) id request memory).state = memory :=
  (unwritten_handle hnot).eq_of_memory

/-- When a request leaves a memory exactly as it was. -/
structure Spares (service : Service Memory) (id : String) (memory : Memory) (request : Request) :
    Prop where
  /-- Unless it is a mutation that is answered with success. -/
  unless_mutated : ¬(request.IsMutation ∧
      isSuccess (handle service id request memory).response.status = true) →
    (handle service id request memory).state = memory
  /-- Whenever it is to read something, with or without the results of widgets. -/
  reads : request.method = "GET" ∨ request.method = "HEAD" →
    (handle service id request memory).state = memory
  /-- Whenever it is refused or fails. -/
  refused : (handle service id request memory).response.status ∈
      [400, 404, 405, 413, 415, 422, 500] →
    (handle service id request memory).state = memory

theorem Request.IsMutation.method_mem {request : Request} (hmutation : request.IsMutation) :
    request.method ∈ ["POST", "PUT", "DELETE"] := by
  rcases hmutation with ⟨hpost | hput, _⟩ | ⟨hdelete, _⟩ <;> simp [*]

/-- **Only successful mutations touch the store.**  Whatever is stored, whether writing works
or not, and whatever the execution service answers, a request leaves the memory as it was
unless it is a mutation that is answered with success. -/
theorem spares_handle (key : String) (repository : Repository) (id : String) (memory : Memory)
    (request : Request) : Spares (.inMemory key repository) id memory request where
  unless_mutated := state_handle_inMemory
  reads hmethod := by
    refine state_handle_of_not_isMutation (fun hmutation => ?_) id
    have hother := hmutation.method_mem
    rcases hmethod with hmethod | hmethod <;> simp [hmethod] at hother
  refused hstatus := by
    have hnone : ∀ status ∈ [400, 404, 405, 413, 415, 422, 500], isSuccess status = false := by
      decide
    refine state_handle_inMemory fun hmutated => ?_
    exact Bool.false_ne_true ((hnone _ hstatus).symm.trans hmutated.2)

end ResultBoards.Http
