import ResultBoards.Http.Status
import ResultBoards.Http.Url
import ResultBoards.Hydration

/-!
# The client of the execution service

Lookups are requests to the execution service.  The network is a parameter: it says what
comes back when a request is sent over a new connection, if anything does.
-/

namespace ResultBoards.Http

/-- A request to the execution service. -/
structure Query where
  scheme : Scheme
  host : String
  port : Nat
  target : String
  accept : String
  authorization : Option String
deriving DecidableEq, Repr

/-- What the execution service sends back.  Its body is taken to be in UTF-8. -/
structure Reply where
  status : Nat
  location : Option String
  body : String
deriving DecidableEq, Repr

/-- What becomes of a request: there is no connection, or the other side closes it
without an answer, or it answers. -/
inductive Contact
  | refused
  | hungUp
  | replied (reply : Reply)
deriving DecidableEq, Repr

/-- What becomes of a request over the connection of some number, counted from zero. -/
abbrev Network := Nat → Query → Contact

/-- The network on which no connection is made. -/
def Network.refusing : Network := fun _ _ => .refused

/-- Where the execution service is, and the token it asks for. -/
structure Client where
  base : String
  token : Option String
deriving DecidableEq, Repr

/-- The outcome of a lookup: the result, the requests that were sent, and what was
reported. -/
structure Fetch where
  result : Except LookupFailure Execution
  queries : List Query
  events : List Event

/-- How many times a request is sent elsewhere. -/
def maxRedirects : Nat := 10

/-- Whether a token can be sent. -/
def isToken (token : String) : Bool :=
  token.toList.all fun c => c = '\t' || (' ' ≤ c && c ≠ '\x7f')

/-- Sends a request and follows redirects: the requests sent, and the last reply if there
is one.  The token is kept as long as the host and the port stay the same. -/
def send (network : Network) : (redirects sent : Nat) → (token : Option String) → Url →
    List Query × Option Reply
  | redirects, sent, token, url =>
      let query : Query :=
        ⟨url.scheme, url.host, url.port, url.target, "application/json",
          token.map ("Bearer " ++ ·)⟩
      match network sent query with
      | .refused => ([], none)
      | .hungUp => ([query], none)
      | .replied reply =>
          let next := if isRedirect reply.status then
            reply.location.bind (Url.read? (some url)) else none
          match next with
          | none => ([query], some reply)
          | some .otherScheme => ([query], none)
          | some (.http next) =>
              match redirects with
              | 0 => ([query], none)
              | redirects + 1 =>
                  let kept := if next.host = url.host ∧ next.port = url.port then token else none
                  let (queries, last) := send network redirects (sent + 1) kept next
                  (query :: queries, last)

namespace Client

/-- A client.  Slashes at the end of its address do not count. -/
def ofBase (base : String) (token : Option String) : Client :=
  ⟨String.ofList (base.toList.reverse.dropWhile (· = '/')).reverse, token⟩

/-- The URL that a lookup is sent to. -/
def url (client : Client) : Lookup → String
  | .latest workflow =>
      s!"{client.base}/api/workflowqueue/latest?workflow_id={Text.Percent.encode workflow}"
  | .byId execution => s!"{client.base}/api/workflowqueue/{Text.Percent.encode execution}"

/-- What a reply says. -/
def readReply (reply : Reply) : Except LookupFailure Execution :=
  if isSuccess reply.status then
    match Execution.decoder.decode reply.body with
    | .ok execution => .ok execution
    | .error failure => .error ⟨"Failed to parse execution service response", [failure.message]⟩
  else
    .error ⟨s!"Execution service request failed with status {statusText reply.status}: " ++
      reply.body, []⟩

/-- Makes a lookup. -/
def fetch (client : Client) (network : Network) (lookup : Lookup) : Fetch :=
  let url := client.url lookup
  let events : List Event := [⟨.debug, s!"Fetching workflow status from {url}"⟩]
  let notSent : LookupFailure := ⟨"Failed to send request to execution service", []⟩
  match Url.read? none url with
  | some (.http address) =>
      if client.token.all isToken then
        match send network maxRedirects 0 client.token address with
        | (queries, some reply) => ⟨readReply reply, queries, events⟩
        | (queries, none) => ⟨.error notSent, queries, events⟩
      else ⟨.error notSent, [], events⟩
  | _ => ⟨.error notSent, [], events⟩

/-- The execution service behind a client.  The requests for each widget meet with a network
of their own. -/
def repository (client : Client) (networkAt : (position : Nat) → Network) : Repository :=
  ⟨fun position lookup => (client.fetch (networkAt position) lookup).result⟩

end Client

end ResultBoards.Http
