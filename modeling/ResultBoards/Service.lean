import ResultBoards.Hydration
import ResultBoards.Store.Operation

/-!
# The dashboard service

Stored dashboards together with the execution service that feeds them.
-/

namespace ResultBoards

/-- Why the service did not do what it was asked. -/
inductive ServiceFailure
  | store (failure : StoreFailure)
  | lookup (failure : LookupFailure)
deriving DecidableEq, Repr

namespace ServiceFailure

/-- The failure in words. -/
def message : ServiceFailure → String
  | .store failure => failure.message
  | .lookup failure => failure.message

/-- The failure in words, followed by what caused it. -/
def chain : ServiceFailure → String
  | .store failure => s!"{failure.message}: {failure.cause}"
  | .lookup failure => ": ".intercalate (failure.message :: failure.causes)

end ServiceFailure

/-- The dashboards under a key of a store, and the execution service. -/
structure Service (σ : Type) where
  store : KeyValueStore σ
  key : String
  repository : Repository

/-- What the service did: the result, what it reported, the lookups it made, and the
state of the store afterwards. -/
structure Served (σ α : Type) where
  result : Except ServiceFailure α
  events : List Event
  lookups : List Lookup
  state : σ

namespace Service

variable {σ : Type}

/-- Carries out an operation on the store alone. -/
def run {α : Type} (service : Service σ) (operation : Operation α) (state : σ) : Served σ α :=
  let outcome := operation.run service.store service.key state
  ⟨outcome.result.mapError .store, outcome.events, [], outcome.state⟩

/-- The first dashboard with a name, with the results that its widgets show. -/
def getHydrated (service : Service σ) (name : String) (state : σ) :
    Served σ (Option Dashboard) :=
  let outcome := (Operation.getByName name).run service.store service.key state
  match outcome.result with
  | .error failure => ⟨.error (.store failure), outcome.events, [], outcome.state⟩
  | .ok none => ⟨.ok none, outcome.events, [], outcome.state⟩
  | .ok (some dashboard) =>
      let hydration := dashboard.hydrate service.repository
      ⟨(hydration.result.map some).mapError .lookup, outcome.events ++ hydration.events,
        hydration.lookups, outcome.state⟩

end Service

end ResultBoards
