import ResultBoards.Proofs.Store.Outcomes

/-!
# Requests that fail

Writes to memory may stop working and work again at any time, and the stored text may be
anything.  A request that fails has changed nothing then.  A mutation fails for two reasons
only: the stored text does not decode, and then no write is even tried, or the write fails.
That a collection cannot be encoded is not among them.

Whether a write is tried does not show in the memory.  `KeyValueStore.noting` is a store
that behaves like another one and notes every write, and a request is served on both.
-/

namespace ResultBoards

variable {σ : Type}

/-! ## Results of requests -/

namespace Request

/-- Whether a request works, whatever its answer, and why it fails if it does not. -/
def result (service : Service σ) (state : σ) : Request → Except ServiceFailure Unit
  | .direct call => (service.run call.operation state).result.map fun _ => ()
  | .create dashboard id =>
      (service.run (Operation.create dashboard id) state).result.map fun _ => ()
  | .hydrated name => (service.getHydrated name state).result.map fun _ => ()

/-- The request is to change the stored collection. -/
def IsMutation : Request → Prop
  | .direct (.save _) | .direct (.delete _) | .direct (.deleteById _) | .create _ _ => True
  | .direct .list | .direct (.getByName _) | .hydrated _ => False

/-- A mutation is served by an operation that is one. -/
theorem IsMutation.exists_operation {request : Request} (hmutation : request.IsMutation) :
    ∃ (α : Type) (operation : Operation α), operation.IsMutation ∧
      request.written? = operation.written? ∧
        ∀ (service : Service σ) (state : σ),
          request.result service state = (service.run operation state).result.map fun _ => () := by
  cases request with
  | create dashboard id =>
      exact ⟨_, _, Operation.isMutation_create dashboard id, rfl, fun _ _ => rfl⟩
  | hydrated name => contradiction
  | direct call =>
      cases call with
      | list | getByName => contradiction
      | save dashboard =>
          exact ⟨_, _, (Operation.isMutation_save dashboard).map fun _ => StoreAnswer.done, rfl,
            fun _ _ => rfl⟩
      | delete dashboard =>
          have hdelete := (Operation.isMutation_deleteById dashboard.id).map fun _ => ()
          exact ⟨_, _, hdelete.map fun _ => StoreAnswer.done, rfl, fun _ _ => rfl⟩
      | deleteById id =>
          exact ⟨_, _, (Operation.isMutation_deleteById id).map StoreAnswer.removed, rfl,
            fun _ _ => rfl⟩

/-- No request writes anything where the stored text does not decode. -/
theorem written_of_undecodable (request : Request) {stored : Option String}
    {problem : Json.Failure} (hstored : Collection.ofStored stored = .error problem) :
    request.written? stored = none := by
  have hnone : ∀ {α : Type} (plan : Collection → Plan α),
      (Operation.onCollection plan).written? stored = none := fun plan => by
    rw [Operation.written?, Operation.onCollection, hstored]
  cases request with
  | create dashboard id =>
      simp only [written?, Operation.create, Operation.written_reporting, Operation.written_map]
      exact hnone _
  | hydrated name => exact hnone _
  | direct call =>
      cases call with
      | delete dashboard =>
          simp only [written?, StoreCall.operation, Operation.delete, Operation.written_map]
          exact hnone _
      | list | getByName | save | deleteById =>
          simp only [written?, StoreCall.operation, Operation.written_map]
          exact hnone _

end Request

theorem map_eq_error_iff {ε α β : Type} {result : Except ε α} {f : α → β} {failure : ε} :
    result.map f = .error failure ↔ result = .error failure := by
  cases result <;> simp [Except.map]

theorem Service.unwritten_of_error {α : Type} {service : Service σ} {operation : Operation α}
    {state : σ} {failure : ServiceFailure}
    (hresult : (service.run operation state).result = .error failure) :
    Unwritten service.store service.key state (service.run operation state).state := by
  cases hrun : (operation.run service.store service.key state).result with
  | ok answer => simp [Service.run, hrun, Except.mapError] at hresult
  | error problem => exact operation.unwritten_of_error hrun

/-- A request that fails has written nothing. -/
theorem Request.unwritten_of_error {service : Service σ} {request : Request} {state : σ}
    {failure : ServiceFailure} (hresult : request.result service state = .error failure) :
    Unwritten service.store service.key state (request.serve service state) := by
  cases request with
  | direct call => exact Service.unwritten_of_error (map_eq_error_iff.mp hresult)
  | create dashboard id => exact Service.unwritten_of_error (map_eq_error_iff.mp hresult)
  | hydrated name =>
      -- it only reads, so it does not matter why it fails
      have hkept : (service.getHydrated name state).state = state := by
        rw [Service.state_getHydrated]
        exact Operation.state_run_of_readOnly (Operation.written_getByName name)
      rw [serve, hkept]
      exact .untried

/-! ## Failures of mutations -/

section

variable {key : String} {repository : Repository} {memory : Memory}

/-- A mutation fails if the stored text does not decode, and if writing does not work. -/
theorem Operation.IsMutation.result_run {α : Type} {operation : Operation α}
    (hmutation : operation.IsMutation) :
    ((Service.inMemory key repository).run operation memory).result.map (fun _ => ()) =
      match Collection.ofStored (memory.entries.get? key), memory.broken with
      | .error problem, _ => .error (.store (.decode problem))
      | .ok _, some problem => .error (.store (.io problem))
      | .ok _, none => .ok () := by
  have hget : Memory.store.get memory key = .ok (memory.entries.get? key) := rfl
  cases hstored : Collection.ofStored (memory.entries.get? key) with
  | error problem =>
      have hplan := hmutation.refuses hstored
      simp [Service.run, Service.inMemory, Operation.run, hget, hplan, Except.mapError, Except.map]
  | ok collection =>
      obtain ⟨plan, text, hplan, htext⟩ := hmutation.writes hstored
      simp only [Service.run, Service.inMemory, Operation.run, hget, hplan, htext]
      cases hbroken : memory.broken <;>
        simp [Memory.store, Memory.set, hbroken, Except.mapError, Except.map]

theorem Request.IsMutation.result_eq_error_iff {request : Request}
    (hmutation : request.IsMutation) {failure : ServiceFailure} :
    request.result (Service.inMemory key repository) memory = .error failure ↔
      (∃ problem, Collection.ofStored (memory.entries.get? key) = .error problem ∧
        failure = .store (.decode problem)) ∨
      ∃ collection problem, Collection.ofStored (memory.entries.get? key) = .ok collection ∧
        memory.broken = some problem ∧ failure = .store (.io problem) := by
  obtain ⟨_, operation, hoperation, _, hresult⟩ := hmutation.exists_operation
  rw [hresult, hoperation.result_run]
  cases Collection.ofStored (memory.entries.get? key) with
  | error problem => simp [eq_comm]
  | ok collection => cases memory.broken <;> simp [eq_comm]

end

/-! ## Writes that are tried -/

/-- A store that behaves like another one and notes each write that is tried. -/
def KeyValueStore.noting (store : KeyValueStore σ) :
    KeyValueStore (σ × List (String × String)) where
  get state key := store.get state.1 key
  set state key text :=
    ((store.set state.1 key text).1, (store.set state.1 key text).2, state.2 ++ [(key, text)])

/-- The service over the store that notes. -/
def Service.noting (service : Service σ) : Service (σ × List (String × String)) :=
  ⟨service.store.noting, service.key, service.repository⟩

/-- On a store that notes, a request does the same as on the other and notes the write it
tries. -/
theorem Request.serve_noting (service : Service σ) (request : Request) {state : σ}
    {stored : Option String} (hget : service.store.get state service.key = .ok stored) :
    request.serve service.noting (state, []) =
      (request.serve service state,
        ((request.written? stored).map fun text => (service.key, text)).toList) := by
  have hnoting : service.noting.store.get (state, []) service.noting.key = .ok stored := hget
  rw [request.serve_eq service.noting hnoting, request.serve_eq service hget]
  cases request.written? stored <;> rfl

/-- What a request does to a memory if it fails. -/
structure Request.FailsSafely (service : Service Memory) (memory : Memory) (request : Request) :
    Prop where
  /-- Nothing has changed. -/
  kept : ∀ failure, request.result service memory = .error failure →
    request.serve service memory = memory
  /-- A mutation fails if the stored text does not decode or the write fails. -/
  fails_iff : request.IsMutation → ∀ failure, request.result service memory = .error failure ↔
    (∃ problem, Collection.ofStored (memory.entries.get? service.key) = .error problem ∧
      failure = .store (.decode problem)) ∨
    ∃ collection problem,
      Collection.ofStored (memory.entries.get? service.key) = .ok collection ∧
        memory.broken = some problem ∧ failure = .store (.io problem)
  /-- Where the stored text does not decode no write is tried. -/
  untried : ∀ problem, Collection.ofStored (memory.entries.get? service.key) = .error problem →
    request.serve service.noting (memory, []) = (request.serve service memory, [])
  /-- Otherwise a mutation tries one. -/
  tried : request.IsMutation → ∀ collection,
    Collection.ofStored (memory.entries.get? service.key) = .ok collection →
      ∃ text, request.serve service.noting (memory, []) =
        (request.serve service memory, [(service.key, text)])

/-- **One request.**  Whatever is stored and whether writing works or not, a request fails
safely. -/
theorem Request.failsSafely (key : String) (repository : Repository) (memory : Memory)
    (request : Request) : request.FailsSafely (.inMemory key repository) memory := by
  have hget : (Service.inMemory key repository).store.get memory
      (Service.inMemory key repository).key =
        .ok (memory.entries.get? (Service.inMemory key repository).key) := rfl
  refine ⟨fun failure hfailure => (Request.unwritten_of_error hfailure).eq_of_memory,
    fun hmutation failure => hmutation.result_eq_error_iff, fun problem hstored => ?_,
    fun hmutation collection hstored => ?_⟩
  · rw [request.serve_noting _ hget, request.written_of_undecodable hstored]
    rfl
  · obtain ⟨_, operation, hoperation, hwritten, _⟩ := hmutation.exists_operation (σ := Memory)
    obtain ⟨text, htext⟩ := hoperation.exists_written hstored
    refine ⟨text, ?_⟩
    rw [request.serve_noting _ hget, hwritten, htext]
    rfl

/-! ## Runs -/

/-- What happens in a run: writes start or stop failing, or a request is made. -/
inductive Moment
  | writes (broken : Option IoProblem)
  | request (request : Request)

namespace Service

variable (service : Service Memory)

/-- The memory after a moment. -/
def next (memory : Memory) : Moment → Memory
  | .writes broken => { memory with broken := broken }
  | .request request => request.serve service memory

/-- The memory after some moments. -/
def after (memory : Memory) (moments : List Moment) : Memory :=
  moments.foldl service.next memory

/-- The moments without the requests that fail. -/
def effective : Memory → List Moment → List Moment
  | _, [] => []
  | memory, .writes broken :: moments =>
      .writes broken :: effective (service.next memory (.writes broken)) moments
  | memory, .request request :: moments =>
      match request.result service memory with
      | .ok () => .request request :: effective (service.next memory (.request request)) moments
      | .error _ => effective memory moments

end Service

/-- Requests that fail might as well not have been made. -/
theorem Service.after_effective (key : String) (repository : Repository) (memory : Memory)
    (moments : List Moment) :
    let service := Service.inMemory key repository
    service.after memory (service.effective memory moments) = service.after memory moments := by
  intro service
  induction moments generalizing memory with
  | nil => rfl
  | cons moment moments ih =>
      cases moment with
      | writes broken => exact ih _
      | request request =>
          rw [effective]
          cases hresult : request.result service memory with
          | ok _ => exact ih _
          | error failure =>
              have hkept : service.next memory (.request request) = memory :=
                (request.failsSafely key repository memory).kept failure hresult
              rw [after, after, List.foldl_cons, hkept]
              exact ih memory

/-- **Failed requests leave the store as it was.**  In every run on memory, whatever is stored
at first and whenever writes start or stop failing, each request fails safely, and the memory
is what the requests that worked have made of it. -/
theorem Service.failsSafely_after (key : String) (repository : Repository) (memory : Memory)
    (moments : List Moment) (request : Request) :
    let service := Service.inMemory key repository
    request.FailsSafely service (service.after memory moments) ∧
      service.after memory (service.effective memory moments) = service.after memory moments :=
  ⟨request.failsSafely key repository _, after_effective key repository memory moments⟩

end ResultBoards
