import ResultBoards.Event.Filter
import ResultBoards.Settings.Sources
import ResultBoards.SocketAddress
import ResultBoards.Store.Failure

/-!
# Starting the program

Before it answers requests, the program reads its settings and listens on an address.  A
failure on the way ends it.
-/

namespace ResultBoards

/-- What ends the program before it answers requests. -/
inductive StartFailure
  | noSettings (failure : SettingsFailure)
  | noAddress (text : String)
  | notListening (problem : IoProblem)
deriving DecidableEq, Repr

/-- The failure in words. -/
def StartFailure.message : StartFailure → String
  | .noSettings failure => failure.message
  | .noAddress text =>
      s!"Invalid bind address {text}\n\nCaused by:\n    invalid socket address syntax"
  | .notListening problem => problem.message

/-- What is around the program: the texts of all files by their paths, the variables of the
environment, and what comes of listening on an address. -/
structure Surroundings where
  texts : String → Option String
  environment : List (String × String)
  listen : SocketAddress → Except IoProblem Unit

/-- The variable that says which events are shown. -/
def filterVariable : String := "RUST_LOG"

/-- The filter that the environment asks for. -/
def Surroundings.filter (surroundings : Surroundings) : EventFilter :=
  .ofSetting (surroundings.environment.lookup filterVariable)

/-- A start: what was reported, and where the program listens if nothing failed. -/
structure Start where
  events : List Event
  outcome : Except StartFailure (Settings × SocketAddress)

namespace Start

/-- What is reported of the store. -/
def storeEvent (settings : StoreSettings) : Event :=
  match settings.backend with
  | .file => ⟨.info, s!"Using file store at {settings.path}"⟩
  | .memory => ⟨.warn, "Using in-memory store; dashboards are lost on exit"⟩

/-- What is reported of the address. -/
def addressEvent (settings : ExecutionSettings) (address : SocketAddress) : Event :=
  ⟨.info, s!"Starting dashboard service on {address.toText} (executions from " ++
    s!"{settings.baseUrl})"⟩

/-- Starts the program. -/
def run (surroundings : Surroundings) : Start :=
  match Settings.load surroundings.texts surroundings.environment with
  | .error failure => ⟨[], .error (.noSettings failure)⟩
  | .ok settings =>
      let stored := storeEvent settings.store
      match SocketAddress.ofText? settings.server.bind with
      | none => ⟨[stored], .error (.noAddress settings.server.bind)⟩
      | some address =>
          let events := [stored, addressEvent settings.execution address]
          match surroundings.listen address with
          | .error problem => ⟨events, .error (.notListening problem)⟩
          | .ok () => ⟨events, .ok (settings, address)⟩

/-- What a start writes to the log. -/
def log (start : Start) (filter : EventFilter) : String :=
  String.join ((start.events.filter filter.shows).map fun event => event.toText ++ "\n")

/-- What a start reports of its failure. -/
def report (start : Start) : String :=
  match start.outcome with
  | .error failure => s!"Error: {failure.message}\n"
  | .ok _ => ""

/-- The exit code of a program that could not be started. -/
def exitCode (start : Start) : UInt8 :=
  match start.outcome with
  | .error _ => 1
  | .ok _ => 0

end Start

end ResultBoards
