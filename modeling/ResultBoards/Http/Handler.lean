import ResultBoards.Http.Message
import ResultBoards.Service

/-!
# Answering requests

The dashboards over HTTP: the collection can be listed, added to and saved to, and a
dashboard can be read by its name and deleted by its id.  A dashboard that is read shows
the current results of its widgets.
-/

namespace ResultBoards.Http

open Json (Decoder)

/-- What happened when a request was answered. -/
structure Exchange (σ : Type) where
  response : Response
  events : List Event
  state : σ

/-- The most bytes that a body may have. -/
def maxBodySize : Nat := 2097152

/-- Reads the body of a request, or answers why it cannot be read. -/
def readBody {α : Type} (decoder : Decoder α) (request : Request) : Except Response α :=
  if !request.hasJsonBody then
    .error (.text 415 "Expected request with `Content-Type: application/json`")
  else if maxBodySize < request.body.bytes.size then
    .error (.text 413 "Failed to buffer the request body: length limit exceeded")
  else
    match decoder.decodeFirst request.body.bytes with
    | .ok value => .ok value
    | .error failure =>
        match failure.problem.category with
        | .data => .error <| .text 422
            s!"Failed to deserialize the JSON body into the target type: {failure.placedMessage}"
        | _ => .error <| .text 400
            s!"Failed to parse the request body as JSON: {failure.placedMessage}"

/-- The text that a path segment stands for, or the answer to one that is not UTF-8. -/
def readSegment (segment : List Char) : Except Response String :=
  match Text.Percent.decode? segment with
  | some text => .ok text
  | none => .error (.text 400 "Invalid URL: Invalid UTF-8 in `dashboard`")

variable {σ : Type}

/-- The answer made from what the service did.  A failure is reported with its causes
and answered without them. -/
def answer {α : Type} (context : String) (respond : α → Response) (served : Served σ α) :
    Exchange σ :=
  match served.result with
  | .ok value => ⟨respond value, served.events, served.state⟩
  | .error failure =>
      ⟨.empty 500, served.events ++ [⟨.error, s!"{context}: {failure.chain}"⟩], served.state⟩

/-- Lists the dashboards. -/
def listDashboards (service : Service σ) (state : σ) : Exchange σ :=
  answer "Error listing dashboards" (fun collection => .json 200 collection.toText) <|
    service.run .list state

/-- Answers a dashboard by its name. -/
def getDashboard (service : Service σ) (name : String) (state : σ) : Exchange σ :=
  let respond : Option Dashboard → Response
    | some dashboard => .json 200 dashboard.toValue.toText
    | none => .empty 404
  answer s!"Error loading dashboard {name}" respond (service.getHydrated name state)

/-- Creates a dashboard under a new id. -/
def createDashboard (service : Service σ) (id : String) (dashboard : NewDashboard)
    (state : σ) : Exchange σ :=
  answer "Error creating dashboard" (fun created => .json 201 created.toValue.toText) <|
    service.run (.create dashboard id) state

/-- Saves a dashboard. -/
def saveDashboard (service : Service σ) (dashboard : Dashboard) (state : σ) : Exchange σ :=
  let saved := dashboard.withoutMetadata.toValue.toText
  answer "Error saving dashboard" (fun _ => .json 200 saved) (service.run (.save dashboard) state)

/-- Deletes the dashboards with an id. -/
def deleteDashboard (service : Service σ) (id : String) (state : σ) : Exchange σ :=
  answer s!"Error deleting dashboard {id}" (fun _ => .empty 204) <|
    service.run (.deleteById id) state

/-- Does something with what was read from a request, or refuses it. -/
def withRead {α : Type} (state : σ) (read : Except Response α) (next : α → Exchange σ) :
    Exchange σ :=
  match read with
  | .ok value => next value
  | .error response => ⟨response, [], state⟩

/-- Answers a request to a resource.  A dashboard that the request creates has the given
id. -/
def handleResource (service : Service σ) (id : String) (request : Request) (state : σ) :
    Resource → Exchange σ
  | .health =>
      if request.method = "GET" then ⟨.text 200 "ok", [], state⟩
      else ⟨.methodNotAllowed Resource.health.methods, [], state⟩
  | .dashboards =>
      if request.method = "GET" then listDashboards service state
      else if request.method = "POST" then
        withRead state (readBody NewDashboard.decoder request) fun dashboard =>
          createDashboard service id dashboard state
      else if request.method = "PUT" then
        withRead state (readBody Dashboard.decoder request) fun dashboard =>
          saveDashboard service dashboard state
      else ⟨.methodNotAllowed Resource.dashboards.methods, [], state⟩
  | .dashboard segment =>
      if request.method = "GET" then
        withRead state (readSegment segment) fun name => getDashboard service name state
      else if request.method = "DELETE" then
        withRead state (readSegment segment) fun id => deleteDashboard service id state
      else ⟨.methodNotAllowed (Resource.dashboard segment).methods, [], state⟩

/-- Answers a request.  `HEAD` is answered like `GET`, without the body. -/
def handle (service : Service σ) (id : String) (request : Request) (state : σ) : Exchange σ :=
  match Resource.ofPath? request.path with
  | none => ⟨.empty 404, [], state⟩
  | some resource =>
      if request.method = "HEAD" then
        let exchange := handleResource service id { request with method := "GET" } state resource
        { exchange with response := exchange.response.withoutBody }
      else handleResource service id request state resource

end ResultBoards.Http
