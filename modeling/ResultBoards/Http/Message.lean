import ResultBoards.Http.MediaType
import ResultBoards.Text.Percent

/-!
# Requests and responses
-/

namespace ResultBoards.Http

/-- What a request carries, which need not be a text. -/
structure Request.Body where
  bytes : ByteArray

instance : DecidableEq Request.Body
  | ⟨first⟩, ⟨second⟩ =>
      match ByteArray.instDecidableEq first second with
      | isTrue hsame => isTrue (congrArg Request.Body.mk hsame)
      | isFalse hne => isFalse fun hsame => hne (Request.Body.mk.inj hsame)

/-- A text that a request carries. -/
instance : Coe String Request.Body := ⟨fun text => ⟨text.toUTF8⟩⟩

/-- A request: its method, its target (a path or a URL, possibly with a query), the type of
its body if it says one, and its body. -/
structure Request where
  method : String
  target : String
  contentType : Option String
  body : Request.Body
deriving DecidableEq

/-- A response. -/
structure Response where
  status : Nat
  contentType : Option String
  allow : Option String
  body : String
deriving DecidableEq, Repr

namespace Request

/-- A text up to where a query or a fragment starts. -/
def beforeQuery (text : List Char) : List Char :=
  text.takeWhile fun c => c ≠ '?' ∧ c ≠ '#'

/-- What follows the scheme of a URL and the two slashes after its colon. -/
def afterScheme? (target : List Char) : Option (List Char) :=
  match target.dropWhile (· ≠ ':') with
  | ':' :: '/' :: '/' :: rest => some rest
  | _ => none

/-- The path that a target names.  That of a URL starts after its host and is the root where
nothing follows; a host on its own names none. -/
def pathOf (target : List Char) : List Char :=
  if target.head? = some '/' ∨ target = ['*'] then beforeQuery target
  else
    match afterScheme? target with
    | none => []
    | some rest =>
        match (beforeQuery rest).dropWhile (· ≠ '/') with
        | [] => ['/']
        | path => path

/-- The path of a request. -/
def path (request : Request) : List Char :=
  pathOf request.target.toList

example : pathOf "https://h:1/dashboards?x".toList = "/dashboards".toList ∧
    pathOf "http://h?/x".toList = "/".toList := by
  decide

/-- Whether the request says that its body is JSON. -/
def hasJsonBody (request : Request) : Bool :=
  match request.contentType with
  | none => false
  | some text =>
      (text.toList.all fun c => c = '\t' || (' ' ≤ c && c ≤ '~')) &&
        (MediaType.ofText? text).any MediaType.isJson

end Request

namespace Response

/-- A response that has only a status. -/
def empty (status : Nat) : Response :=
  ⟨status, none, none, ""⟩

/-- A response with plain text. -/
def text (status : Nat) (body : String) : Response :=
  ⟨status, some "text/plain; charset=utf-8", none, body⟩

/-- A response with the text of a JSON value. -/
def json (status : Nat) (body : String) : Response :=
  ⟨status, some "application/json", none, body⟩

/-- The response to a method that a resource does not have. -/
def methodNotAllowed (methods : List String) : Response :=
  ⟨405, none, some (",".intercalate methods), ""⟩

/-- The response without its body. -/
def withoutBody (response : Response) : Response :=
  { response with body := "" }

end Response

/-! ## Resources -/

/-- What can be addressed: the state of the service, the collection of dashboards, and a
dashboard by a path segment as it stands in the path. -/
inductive Resource
  | health
  | dashboards
  | dashboard (segment : List Char)
deriving DecidableEq, Repr

namespace Resource

/-- The path of the state of the service. -/
def healthPath : List Char := "/healthz".toList

/-- The path of the collection. -/
def dashboardsPath : List Char := "/dashboards".toList

/-- The segment after the path of the collection. -/
def segment? : (path collection : List Char) → Option (List Char)
  | '/' :: c :: rest, [] => if (c :: rest).contains '/' then none else some (c :: rest)
  | d :: path, c :: collection => if d = c then segment? path collection else none
  | _, _ => none

/-- The resource at a path. -/
def ofPath? (path : List Char) : Option Resource :=
  if path = healthPath then some .health
  else if path = dashboardsPath then some .dashboards
  else (segment? path dashboardsPath).map .dashboard

/-- The methods of a resource. -/
def methods : Resource → List String
  | .health => ["GET", "HEAD"]
  | .dashboards => ["GET", "HEAD", "POST", "PUT"]
  | .dashboard _ => ["GET", "HEAD", "DELETE"]

end Resource

end ResultBoards.Http
