import ResultBoards.Http.Client
import ResultBoards.Proofs.Http.PlainPaths

/-!
# Where lookups are sent

The client puts an id into the URL of a request, as the last segment of the path or as the value
of the query, and percent-encodes it first.  So whatever characters an id has, it cannot end the
segment or the query it stands in, and different lookups are requested at different targets.

There is one gap.  Dots need not be encoded and are not, and a URL is read with its segments of
dots resolved.  An execution whose id is one or two dots is therefore looked up at another path,
from which the id and, with two dots, the segment before it are gone.  No way to encode the
dots would help, since an encoded dot counts as a dot there.

## Strategy

* `requestPath` and `requestQuery` say outright what is requested, the two odd ids included, and
  `readPath_lookupText` that this is what the URL of a lookup is read as.
* The client sends its first request to the URL as it was read (`send_refused_or_cons`), so what
  is sent is known for every network (`requests_of_isPlain`).
* The targets differ because encoding is injective (`requestText_injective`).
-/

namespace ResultBoards

open Text.Percent (Spells encode encode_injective encode_ne_nil spells_encode decode?
  decode?_encode of_mem_encode)

/-- What a lookup asks for. -/
def Lookup.id : Lookup → String
  | .latest workflow => workflow
  | .byId execution => execution

namespace Http

open Url (pathText IsSegment IsPlainSegment)

/-! ## Where the service is -/

/-- The address of the execution service as it is configured: a scheme, a host that may have a
port, the segments of a path, and slashes behind it. -/
structure BaseAddress where
  scheme : List Char
  authority : List Char
  path : List (List Char)
  slashes : Nat

namespace BaseAddress

/-- Which scheme of HTTP an address has, however it is written, if it is one of these. -/
def httpScheme? (base : BaseAddress) : Option Scheme :=
  Scheme.ofName? (base.scheme.map Char.toLower)

/-- The address without the slashes at its end. -/
def site (base : BaseAddress) : List Char :=
  base.scheme ++ ':' :: ('/' :: '/' :: (base.authority ++ pathText base.path))

/-- The address as it is configured. -/
def text (base : BaseAddress) : String :=
  String.ofList (base.site ++ List.replicate base.slashes '/')

/-- The address has the form of one: its scheme starts with a letter, its host and port can be
read, and its path is plain and does not end in a slash itself. -/
structure IsPlain (base : BaseAddress) : Prop where
  scheme_letter : ∃ c rest, base.scheme = c :: rest ∧ c.isAlpha = true
  scheme_chars : ∀ c ∈ base.scheme, Url.isSchemeChar c = true
  authority_reads : (Url.readAuthority? base.authority).isSome = true
  authority_chars : ∀ c ∈ base.authority, ' ' < c ∧ Url.isSlash c = false ∧ c ≠ '?' ∧ c ≠ '#'
  segments : ∀ segment ∈ base.path, IsPlainSegment segment
  last_ne : base.path.getLast? ≠ some []

/-! ## What is requested -/

/-- The path that a lookup is meant for, where a segment spells its id. -/
def meantPath (base : BaseAddress) (segment : List Char) : Lookup → List (List Char)
  | .latest _ => base.path ++ ["api".toList, "workflowqueue".toList, "latest".toList]
  | .byId _ => base.path ++ ["api".toList, "workflowqueue".toList, segment]

/-- The query that a lookup is meant for, where a text spells its id. -/
def meantQuery (spelling : List Char) : Lookup → Option (List Char)
  | .latest _ => some ("workflow_id=".toList ++ spelling)
  | .byId _ => none

/-- The path of the request for a lookup. -/
def requestPath (base : BaseAddress) (lookup : Lookup) : List (List Char) :=
  if lookup = .byId "." then base.path ++ ["api".toList, "workflowqueue".toList, []]
  else if lookup = .byId ".." then base.path ++ ["api".toList, []]
  else base.meantPath (encode lookup.id).toList lookup

/-- The query of the request for a lookup. -/
def requestQuery (lookup : Lookup) : Option (List Char) :=
  meantQuery (encode lookup.id).toList lookup

end BaseAddress

/-- A path and a query as they stand in a request. -/
def targetText (path : List (List Char)) (query : Option (List Char)) : String :=
  String.ofList (pathText path ++ query.elim [] ('?' :: ·))

theorem Url.target_eq (url : Url) : url.target = targetText url.path url.query := by
  obtain ⟨scheme, host, port, path, query⟩ := url
  cases query with
  | none => exact congrArg String.ofList (List.append_nil _).symm
  | some query => rfl

namespace BaseAddress

/-- The target of the request for a lookup. -/
def requestText (base : BaseAddress) (lookup : Lookup) : String :=
  targetText (base.requestPath lookup) (requestQuery lookup)

variable {base : BaseAddress}

/-! ## The URL of a lookup -/

theorem IsPlain.exists_authority (hplain : base.IsPlain) :
    ∃ host port, Url.readAuthority? base.authority = some (host, port) := by
  obtain ⟨⟨host, port⟩, hread⟩ := Option.isSome_iff_exists.mp hplain.authority_reads
  exact ⟨host, port, hread⟩

theorem IsPlain.authority_ne_nil (hplain : base.IsPlain) : base.authority ≠ [] := by
  intro hnil
  have hreads := hplain.authority_reads
  rw [hnil] at hreads
  exact absurd hreads (by decide)

theorem exists_last {chars : List Char} (hne : chars ≠ [])
    (hchars : ∀ c ∈ chars, Url.isSlash c = false) (before : List Char) :
    ∃ front c, before ++ chars = front ++ [c] ∧ c ≠ '/' := by
  rcases List.eq_nil_or_concat chars with rfl | ⟨front, c, rfl⟩
  · exact absurd rfl hne
  · rw [List.concat_eq_append] at hchars ⊢
    refine ⟨before ++ front, c, (List.append_assoc _ _ _).symm, ?_⟩
    rintro rfl
    exact absurd (hchars '/' (by simp)) (by decide)

/-- Without the slashes at its end an address does not end in a slash. -/
theorem IsPlain.exists_last_site (hplain : base.IsPlain) :
    ∃ front c, base.site = front ++ [c] ∧ c ≠ '/' := by
  rcases List.eq_nil_or_concat base.path with hpath | ⟨segments, segment, hpath⟩
  · have hsite : base.site = (base.scheme ++ [':', '/', '/']) ++ base.authority := by
      rw [site, hpath, pathText, List.flatMap_nil]
      simp
    rw [hsite]
    exact exists_last hplain.authority_ne_nil (fun c hc => (hplain.authority_chars c hc).2.1) _
  · rw [List.concat_eq_append] at hpath
    have hne : segment ≠ [] := by
      rintro rfl
      exact hplain.last_ne (by rw [hpath, List.getLast?_concat])
    have hsegment := hplain.segments segment (by rw [hpath]; simp)
    have hsite : base.site = (base.scheme ++ ':' :: '/' :: '/' :: (base.authority ++
        pathText segments) ++ ['/']) ++ segment := by
      rw [site, hpath, pathText, pathText, List.flatMap_append, List.flatMap_singleton]
      simp
    rw [hsite]
    exact exists_last hne (fun c hc => (hsegment.isSegment c hc).2) _

/-- The client works with the address without the slashes at its end. -/
theorem IsPlain.ofBase_text (hplain : base.IsPlain) (token : Option String) :
    Client.ofBase base.text token = ⟨String.ofList base.site, token⟩ := by
  obtain ⟨front, c, hsite, hc⟩ := hplain.exists_last_site
  have hdropped : ∀ count, (List.replicate count '/' ++ base.site.reverse).dropWhile
      (fun d => decide (d = '/')) = base.site.reverse := by
    intro count
    induction count with
    | zero =>
        rw [List.replicate_zero, List.nil_append, hsite, List.reverse_concat]
        exact List.dropWhile_cons_of_neg (by simpa using hc)
    | succ count ih =>
        rw [List.replicate_succ, List.cons_append, List.dropWhile_cons_of_pos (by decide), ih]
  rw [Client.ofBase, text, String.toList_ofList, List.reverse_append, List.reverse_replicate,
    hdropped, List.reverse_reverse]

/-- What the client writes behind the address. -/
def lookupText : Lookup → List Char
  | .latest workflow =>
      pathText ["api".toList, "workflowqueue".toList, "latest".toList] ++
        '?' :: ("workflow_id=".toList ++ (encode workflow).toList)
  | .byId execution =>
      pathText ["api".toList, "workflowqueue".toList, (encode execution).toList]

theorem toList_url (base : BaseAddress) (token : Option String) (lookup : Lookup) :
    (Client.url ⟨String.ofList base.site, token⟩ lookup).toList =
      base.site ++ lookupText lookup := by
  cases lookup with
  | latest workflow => simp [Client.url, lookupText, pathText, toString]
  | byId execution => simp [Client.url, lookupText, pathText, toString]

/-! ## Reading the URL -/

theorem isPlainSegment_fixed :
    ∀ segment ∈ ["api".toList, "workflowqueue".toList, "latest".toList],
      IsPlainSegment segment := by
  intro segment hsegment
  simp only [List.mem_cons, List.not_mem_nil, or_false] at hsegment
  rcases hsegment with rfl | rfl | rfl
  all_goals exact ⟨by decide, by decide, by decide⟩

theorem IsPlain.resolve_append (hplain : base.IsPlain) {fixed : List (List Char)}
    (hfixed : ∀ segment ∈ fixed, IsPlainSegment segment) (rest : List (List Char)) :
    Url.resolve [] (base.path ++ fixed ++ rest) =
      Url.resolve (fixed.reverse ++ base.path.reverse) rest := by
  have hall : ∀ segment ∈ base.path ++ fixed, IsPlainSegment segment := by
    intro segment hsegment
    rcases List.mem_append.mp hsegment with hsegment | hsegment
    · exact hplain.segments segment hsegment
    · exact hfixed segment hsegment
  rw [Url.resolve_append hall, List.reverse_append, List.append_nil]

/-- What the dots in a URL are resolved to. -/
theorem IsPlain.resolve_byId (hplain : base.IsPlain) (id : String) :
    Url.resolve [] (base.path ++ ["api".toList, "workflowqueue".toList, (encode id).toList]) =
      base.requestPath (.byId id) := by
  have hfixed : ∀ segment ∈ ["api".toList, "workflowqueue".toList], IsPlainSegment segment :=
    fun segment hsegment => isPlainSegment_fixed segment (by
      rcases List.mem_cons.mp hsegment with rfl | hsegment
      · simp
      · rw [List.mem_singleton.mp hsegment]
        simp)
  have hresolve := hplain.resolve_append hfixed [(encode id).toList]
  rw [List.append_assoc] at hresolve
  rw [requestPath]
  refine hresolve.trans ?_
  by_cases hone : id = "."
  · subst hone
    have hdot : (encode ".").toList = ['.'] := by decide
    rw [hdot, Url.resolve_dot, if_pos rfl]
    simp
  · by_cases htwo : id = ".."
    · subst htwo
      have hdots : (encode "..").toList = ['.', '.'] := by decide
      rw [hdots, Url.resolve_dots, if_neg (by simp), if_pos rfl]
      simp
    · rw [Url.resolve_last (Url.isPlainSegment_encode hone htwo), if_neg (by simpa using hone),
        if_neg (by simpa using htwo), meantPath]
      simp [Lookup.id]

theorem IsPlain.resolve_latest (hplain : base.IsPlain) :
    Url.resolve [] (base.path ++ ["api".toList, "workflowqueue".toList, "latest".toList]) =
      base.path ++ ["api".toList, "workflowqueue".toList, "latest".toList] := by
  have hresolve := hplain.resolve_append isPlainSegment_fixed []
  rw [List.append_nil] at hresolve
  rw [hresolve, Url.resolve]
  simp

/-- The path and the query of a URL are those of the request. -/
theorem IsPlain.readPath_lookupText (hplain : base.IsPlain) (lookup : Lookup) :
    Url.readPath [] (pathText base.path ++ lookupText lookup) =
      (base.requestPath lookup, requestQuery lookup) := by
  have hsegments : ∀ segment ∈ base.path, IsSegment segment := fun segment hsegment =>
    (hplain.segments segment hsegment).isSegment
  have hfixed : ∀ segment ∈ ["api".toList, "workflowqueue".toList, "latest".toList],
      IsSegment segment := fun segment hsegment => (isPlainSegment_fixed segment hsegment).isSegment
  cases lookup with
  | latest workflow =>
      have hall : ∀ segment ∈ base.path ++ ["api".toList, "workflowqueue".toList, "latest".toList],
          IsSegment segment := fun segment hsegment =>
        (List.mem_append.mp hsegment).elim (hsegments segment) (hfixed segment)
      have hquery : ∀ c ∈ "workflow_id=".toList ++ (encode workflow).toList,
          Url.isQueryChar c = true := by
        intro c hc
        rcases List.mem_append.mp hc with hc | hc
        · exact List.all_eq_true.mp (by decide) c hc
        · exact of_mem_encode _ hc (by decide) (by decide)
      have hread := Url.readPath_query (by simp) hall hquery
      rw [hplain.resolve_latest, pathText, List.flatMap_append, List.append_assoc] at hread
      exact hread
  | byId execution =>
      have hall : ∀ segment ∈
          base.path ++ ["api".toList, "workflowqueue".toList, (encode execution).toList],
          IsSegment segment := by
        intro segment hsegment
        rcases List.mem_append.mp hsegment with hsegment | hsegment
        · exact hsegments segment hsegment
        · simp only [List.mem_cons, List.not_mem_nil, or_false] at hsegment
          rcases hsegment with rfl | rfl | rfl
          · exact hfixed _ (by simp)
          · exact hfixed _ (by simp)
          · exact Url.isSegment_encode execution
      have hread := Url.readPath_pathText (by simp) hall
      rw [hplain.resolve_byId, pathText, List.flatMap_append] at hread
      exact hread

/-- What stands behind the scheme is an address with this path and this query. -/
theorem IsPlain.readFromAuthority? (hplain : base.IsPlain) (lookup : Lookup) :
    ∃ (host : String) (port : Option Nat), ∀ scheme,
      Url.readFromAuthority? scheme
          (base.authority ++ (pathText base.path ++ lookupText lookup)) =
        some ⟨scheme, host, port.getD scheme.defaultPort, base.requestPath lookup,
          requestQuery lookup⟩ := by
  obtain ⟨host, port, hread⟩ := hplain.exists_authority
  have hslash : ∃ rest, pathText base.path ++ lookupText lookup = '/' :: rest := by
    cases base.path with
    | nil => cases lookup <;> exact ⟨_, rfl⟩
    | cons segment segments => exact ⟨_, rfl⟩
  obtain ⟨rest, hrest⟩ := hslash
  refine ⟨host, port, fun scheme => ?_⟩
  rw [hrest, Url.readFromAuthority?_append scheme (fun c hc => (hplain.authority_chars c hc).2)
    hread, ← hrest, hplain.readPath_lookupText]

/-! ## Sending -/

theorem blank_lt_of_isPathChar {c : Char} (hc : Url.isPathChar c = true) : ' ' < c := by
  simp only [Url.isPathChar, Bool.and_eq_true, decide_eq_true_eq] at hc
  exact hc.1.1

theorem blank_lt_of_isSchemeChar {c : Char} (hc : Url.isSchemeChar c = true) : ' ' < c := by
  simp only [Url.isSchemeChar, Bool.or_eq_true, beq_iff_eq] at hc
  rcases hc with ((hc | rfl) | rfl) | rfl
  · have hkept : Text.Percent.isUnreserved c = true := by simp [Text.Percent.isUnreserved, hc]
    exact of_decide_eq_true (Text.Percent.of_isUnreserved (fun c => decide (' ' < c)) hkept
      (by decide))
  all_goals decide

/-- No character of the URL is cut off before it is read. -/
theorem IsPlain.blank_lt (hplain : base.IsPlain) (lookup : Lookup) :
    ∀ c ∈ base.site ++ lookupText lookup, ' ' < c := by
  have hsegments : ∀ segment ∈ base.path, IsSegment segment := fun segment hsegment =>
    (hplain.segments segment hsegment).isSegment
  have hencoded : ∀ {id : String}, ∀ c ∈ (encode id).toList, ' ' < c := fun c hc =>
    of_decide_eq_true (of_mem_encode (fun c => decide (' ' < c)) hc (by decide) (by decide))
  intro c hc
  rcases List.mem_append.mp hc with hc | hc
  · rw [site, List.mem_append, List.mem_cons, List.mem_cons, List.mem_cons, List.mem_append] at hc
    rcases hc with hc | rfl | rfl | rfl | hc | hc
    · exact blank_lt_of_isSchemeChar (hplain.scheme_chars c hc)
    · decide
    · decide
    · decide
    · exact (hplain.authority_chars c hc).1
    · exact blank_lt_of_isPathChar (Url.mem_pathText hsegments hc)
  · cases lookup with
    | latest workflow =>
        have hfixed : ∀ c ∈ "/api/workflowqueue/latest?workflow_id=".toList, ' ' < c :=
          Url.forall_mem_of_all (by decide)
        have htext : lookupText (.latest workflow) =
            "/api/workflowqueue/latest?workflow_id=".toList ++ (encode workflow).toList := rfl
        rw [htext, List.mem_append] at hc
        exact hc.elim (hfixed c) (hencoded c)
    | byId execution =>
        have hfixed : ∀ c ∈ "/api/workflowqueue/".toList, ' ' < c :=
          Url.forall_mem_of_all (by decide)
        have htext : lookupText (.byId execution) =
            "/api/workflowqueue/".toList ++ (encode execution).toList := by
          simp [lookupText, pathText]
        rw [htext, List.mem_append] at hc
        exact hc.elim (hfixed c) (hencoded c)

/-- The URL of a lookup is read as an HTTP address exactly if its scheme is one of HTTP. -/
theorem IsPlain.read?_url (hplain : base.IsPlain) (token : Option String) (lookup : Lookup) :
    Url.read? none (Client.url ⟨String.ofList base.site, token⟩ lookup) =
      match base.httpScheme? with
      | some scheme =>
          (Url.readFromAuthority? scheme
            (base.authority ++ (pathText base.path ++ lookupText lookup))).map .http
      | none => some .otherScheme := by
  obtain ⟨c, scheme, hscheme, hletter⟩ := hplain.scheme_letter
  have htext : base.site ++ lookupText lookup =
      c :: scheme ++ ':' :: ('/' :: '/' :: (base.authority ++
        (pathText base.path ++ lookupText lookup))) := by
    rw [site, hscheme]
    simp
  have hsplit := Url.splitScheme?_append hletter (hscheme ▸ hplain.scheme_chars)
    ('/' :: '/' :: (base.authority ++ (pathText base.path ++ lookupText lookup)))
  have hslashes : ('/' :: '/' :: (base.authority ++ (pathText base.path ++
      lookupText lookup))).dropWhile Url.isSlash =
        base.authority ++ (pathText base.path ++ lookupText lookup) := by
    obtain ⟨d, rest, hauthority⟩ := List.exists_cons_of_ne_nil hplain.authority_ne_nil
    have hd := (hplain.authority_chars d (hauthority ▸ List.mem_cons_self)).2.1
    rw [List.dropWhile_cons_of_pos (by decide), List.dropWhile_cons_of_pos (by decide), hauthority,
      List.cons_append, List.dropWhile_cons_of_neg (by simp [hd])]
  rw [Url.read?, toList_url, Url.trim_eq_self (hplain.blank_lt lookup), htext]
  simp only [hsplit, hslashes, httpScheme?, hscheme]
  cases Scheme.ofName? ((c :: scheme).map Char.toLower) <;> rfl

/-- A secured address without a port has the port of its scheme. -/
example : Url.read? none (Client.url ⟨"https://walkoff/v1", none⟩ (.byId "a/b")) =
    some (.http ⟨.https, "walkoff", 443,
      ["v1".toList, "api".toList, "workflowqueue".toList, "a%2Fb".toList], none⟩) := by decide

end BaseAddress

/-- The request to a URL. -/
def queryOf (token : Option String) (url : Url) : Query :=
  ⟨url.scheme, url.host, url.port, url.target, "application/json", token.map ("Bearer " ++ ·)⟩

/-- Unless there is no connection a request to the URL is sent, and it is the first. -/
theorem send_refused_or_cons (network : Network) (redirects sent : Nat) (token : Option String)
    (url : Url) :
    network sent (queryOf token url) = .refused ∧ (send network redirects sent token url).1 = [] ∨
      ∃ rest, (send network redirects sent token url).1 = queryOf token url :: rest := by
  have hquery : queryOf token url =
      ⟨url.scheme, url.host, url.port, url.target, "application/json",
        token.map ("Bearer " ++ ·)⟩ := rfl
  cases hcontact : network sent (queryOf token url) with
  | refused =>
      rw [hquery] at hcontact
      refine .inl ⟨rfl, ?_⟩
      rw [send]
      simp only [hcontact]
  | hungUp =>
      rw [hquery] at hcontact
      refine .inr ⟨[], ?_⟩
      rw [send]
      simp only [hcontact, hquery]
  | replied reply =>
      rw [hquery] at hcontact
      refine .inr ?_
      rw [send]
      simp only [hcontact, hquery]
      -- what is sent behind it depends on where the reply leads
      split
      · exact ⟨_, rfl⟩
      · exact ⟨_, rfl⟩
      · split <;> exact ⟨_, rfl⟩

/-- The requests of a client whose URL is read as an HTTP address. -/
theorem Client.queries_fetch {client : Client} {lookup : Lookup} {address : Url}
    (hread : Url.read? none (client.url lookup) = some (.http address))
    (htoken : client.token.all isToken = true) (network : Network) :
    (client.fetch network lookup).queries =
      (send network maxRedirects 0 client.token address).1 := by
  simp only [fetch, hread, htoken, if_true]
  cases hsend : send network maxRedirects 0 client.token address with
  | mk queries last => cases last <;> rfl

/-- Every request that is sent has gone to an HTTP address. -/
theorem Client.exists_address_of_queries {client : Client} {lookup : Lookup} {network : Network}
    (hne : (client.fetch network lookup).queries ≠ []) :
    ∃ address, Url.read? none (client.url lookup) = some (.http address) ∧
      client.token.all isToken = true := by
  cases hread : Url.read? none (client.url lookup) with
  | none => simp [fetch, hread] at hne
  | some destination =>
      cases destination with
      | otherScheme => simp [fetch, hread] at hne
      | http address =>
          by_cases htoken : client.token.all isToken = true
          · exact ⟨address, rfl, htoken⟩
          · simp [fetch, hread, htoken] at hne

/-! ## Where a lookup goes -/

/-- A client at an address requests a path and a query for a lookup. -/
structure BaseAddress.Requests (base : BaseAddress) (token : Option String) (lookup : Lookup)
    (path : List (List Char)) (query : Option (List Char)) : Prop where
  /-- Whatever its scheme, the URL leads to the path and the query. -/
  address : ∃ (rest : List Char) (host : String) (port : Option Nat),
    ((Client.ofBase base.text token).url lookup).toList =
        base.scheme ++ ':' :: '/' :: '/' :: rest ∧
      ∀ scheme, Url.readFromAuthority? scheme rest =
        some ⟨scheme, host, port.getD scheme.defaultPort, path, query⟩
  /-- The first request that is sent goes there, by the scheme of the address. -/
  first : ∀ network request,
    ((Client.ofBase base.text token).fetch network lookup).queries.head? = some request →
      request.target = targetText path query ∧ base.httpScheme? = some request.scheme
  /-- A request is sent over every network with a connection, if the scheme is one of HTTP and
  the token can be sent. -/
  sent : base.httpScheme?.isSome = true → token.all isToken = true →
    ∀ network : Network, (∀ request, network 0 request ≠ .refused) →
      ((Client.ofBase base.text token).fetch network lookup).queries ≠ []

theorem BaseAddress.IsPlain.requests {base : BaseAddress} (hplain : base.IsPlain)
    (token : Option String) (lookup : Lookup) :
    base.Requests token lookup (base.requestPath lookup) (requestQuery lookup) := by
  obtain ⟨host, port, haddress⟩ := hplain.readFromAuthority? lookup
  have hread := hplain.read?_url token lookup
  simp only [haddress, Option.map_some] at hread
  constructor
  case address =>
    refine ⟨_, host, port, ?_, haddress⟩
    rw [hplain.ofBase_text, toList_url, site]
    simp
  case first =>
    intro network request hrequest
    rw [hplain.ofBase_text] at hrequest
    have hne : (Client.fetch ⟨String.ofList base.site, token⟩ network lookup).queries ≠ [] := by
      intro hnil
      rw [hnil] at hrequest
      exact nomatch hrequest
    obtain ⟨address, hhttp, htoken⟩ := Client.exists_address_of_queries hne
    rw [Client.queries_fetch hhttp htoken] at hrequest
    rw [hread] at hhttp
    cases hscheme : base.httpScheme? with
    | none =>
        rw [hscheme] at hhttp
        exact nomatch hhttp
    | some scheme =>
        rw [hscheme] at hhttp
        obtain rfl := Destination.http.inj (Option.some.inj hhttp)
        rcases send_refused_or_cons network maxRedirects 0 token _ with ⟨_, hnil⟩ | ⟨rest, hcons⟩
        · rw [hnil] at hrequest
          exact nomatch hrequest
        · rw [hcons] at hrequest
          rw [← Option.some.inj hrequest]
          exact ⟨Url.target_eq _, rfl⟩
  case sent =>
    intro hhttp htoken network hconnects
    obtain ⟨scheme, hscheme⟩ := Option.isSome_iff_exists.mp hhttp
    rw [hscheme] at hread
    rw [hplain.ofBase_text, Client.queries_fetch hread htoken]
    rcases send_refused_or_cons network maxRedirects 0 token _ with ⟨hrefused, _⟩ | ⟨rest, hcons⟩
    · exact absurd hrefused (hconnects _)
    · rw [hcons]
      exact List.cons_ne_nil _ _

theorem BaseAddress.Requests.exists_first {base : BaseAddress} {token : Option String}
    {lookup : Lookup} {path : List (List Char)} {query : Option (List Char)}
    (hrequests : base.Requests token lookup path query)
    (hhttp : base.httpScheme?.isSome = true) (htoken : token.all isToken = true)
    {network : Network} (hconnects : ∀ request, network 0 request ≠ .refused) :
    ∃ request,
      ((Client.ofBase base.text token).fetch network lookup).queries.head? = some request ∧
        request.target = targetText path query := by
  obtain ⟨request, rest, hqueries⟩ :=
    List.exists_cons_of_ne_nil (hrequests.sent hhttp htoken network hconnects)
  have hhead : ((Client.ofBase base.text token).fetch network lookup).queries.head? =
      some request := by
    rw [hqueries]
    rfl
  exact ⟨request, hhead, (hrequests.first network request hhead).1⟩

/-! ## Different lookups -/

namespace BaseAddress

variable {base : BaseAddress}

/-- What the target of a lookup by id has behind `/api/`. -/
def byIdText (id : String) : List Char :=
  if id = "." then "workflowqueue/".toList
  else if id = ".." then []
  else "workflowqueue/".toList ++ (encode id).toList

theorem requestText_byId (base : BaseAddress) (id : String) :
    base.requestText (.byId id) =
      String.ofList (pathText base.path ++ ("/api/".toList ++ byIdText id)) := by
  rw [requestText, targetText, requestPath, byIdText]
  by_cases hone : id = "."
  · subst hone
    simp [requestQuery, meantQuery, pathText]
  · by_cases htwo : id = ".."
    · subst htwo
      simp [requestQuery, meantQuery, pathText]
    · simp [requestQuery, meantQuery, meantPath, pathText, hone, htwo, Lookup.id]

theorem requestText_latest (base : BaseAddress) (workflow : String) :
    base.requestText (.latest workflow) =
      String.ofList (pathText base.path ++
        ("/api/workflowqueue/latest?workflow_id=".toList ++ (encode workflow).toList)) := by
  rw [requestText, targetText, requestPath, if_neg (by simp), if_neg (by simp)]
  simp [requestQuery, meantQuery, meantPath, pathText, Lookup.id]

theorem byIdText_cases (id : String) :
    id = "." ∨ id = ".." ∨ byIdText id = "workflowqueue/".toList ++ (encode id).toList := by
  by_cases hone : id = "."
  · exact .inl hone
  · by_cases htwo : id = ".."
    · exact .inr (.inl htwo)
    · exact .inr (.inr (by rw [byIdText, if_neg hone, if_neg htwo]))

theorem byIdText_injective {first second : String} (hfirst : first ≠ "") (hsecond : second ≠ "")
    (hsame : byIdText first = byIdText second) : first = second := by
  have hdot : byIdText "." = "workflowqueue/".toList := rfl
  have hdots : byIdText ".." = [] := rfl
  rcases byIdText_cases first with rfl | rfl | hfirstText
  · rcases byIdText_cases second with rfl | rfl | hsecondText
    · rfl
    · exact absurd hsame (by decide)
    · rw [hdot, hsecondText] at hsame
      exact absurd (List.self_eq_append_right.mp hsame) (encode_ne_nil hsecond)
  · rcases byIdText_cases second with rfl | rfl | hsecondText
    · exact absurd hsame (by decide)
    · rfl
    · rw [hdots, hsecondText] at hsame
      exact absurd hsame (by simp)
  · rcases byIdText_cases second with rfl | rfl | hsecondText
    · rw [hdot, hfirstText] at hsame
      exact absurd (List.self_eq_append_right.mp hsame.symm) (encode_ne_nil hfirst)
    · rw [hdots, hfirstText] at hsame
      exact absurd hsame (by simp)
    · rw [hfirstText, hsecondText] at hsame
      exact encode_injective (String.toList_inj.mp (List.append_cancel_left hsame))

/-- Different lookups are requested at different targets. -/
theorem requestText_injective {first second : Lookup} (hfirst : first.id ≠ "")
    (hsecond : second.id ≠ "") (hsame : base.requestText first = base.requestText second) :
    first = second := by
  have hmark : ∀ id, '?' ∉ "/api/".toList ++ byIdText id := by
    intro id hmem
    rcases List.mem_append.mp hmem with hmem | hmem
    · exact absurd hmem (by decide)
    · rw [byIdText] at hmem
      split at hmem
      · exact absurd hmem (by decide)
      · split at hmem
        · exact nomatch hmem
        · rcases List.mem_append.mp hmem with hmem | hmem
          · exact absurd hmem (by decide)
          · exact (Url.ne_of_isPathChar (Url.isSegment_encode id '?' hmem).1).1 rfl
  have hcross : ∀ workflow id,
      base.requestText (.latest workflow) ≠ base.requestText (.byId id) := by
    intro workflow id hsame
    rw [requestText_latest, requestText_byId] at hsame
    have hrest := List.append_cancel_left (String.ofList_injective hsame)
    exact hmark id (hrest ▸ List.mem_append_left _ (by decide))
  cases first with
  | latest workflow =>
      cases second with
      | latest other =>
          rw [requestText_latest, requestText_latest] at hsame
          have hrest := List.append_cancel_left (String.ofList_injective hsame)
          rw [encode_injective (String.toList_inj.mp (List.append_cancel_left hrest))]
      | byId id => exact absurd hsame (hcross workflow id)
  | byId id =>
      cases second with
      | latest workflow => exact absurd hsame.symm (hcross workflow id)
      | byId other =>
          rw [requestText_byId, requestText_byId] at hsame
          have hrest := List.append_cancel_left (String.ofList_injective hsame)
          have hid : id = other := byIdText_injective hfirst hsecond (List.append_cancel_left hrest)
          rw [hid]

/-! ## Ids in their places -/

/-- The path of a request is the one that is meant, with the encoded id in its place, unless the
id is made of one or two dots and stands in the path. -/
theorem requestPath_eq_meantPath_iff (base : BaseAddress) (lookup : Lookup) :
    base.requestPath lookup = base.meantPath (encode lookup.id).toList lookup ↔
      lookup ≠ .byId "." ∧ lookup ≠ .byId ".." := by
  constructor
  · intro hmeant
    refine ⟨?_, ?_⟩
    · rintro rfl
      rw [requestPath, if_pos rfl, meantPath, List.append_cancel_left_eq] at hmeant
      exact absurd hmeant (by decide)
    · rintro rfl
      rw [requestPath, if_neg (by simp), if_pos rfl, meantPath, List.append_cancel_left_eq]
        at hmeant
      exact absurd hmeant (by decide)
  · rintro ⟨hone, htwo⟩
    rw [requestPath, if_neg hone, if_neg htwo]

/-- **Where ids are requested.**  At an address with a plain path the latest execution of any
workflow is requested at the path that is meant for it, with the encoded id as the value of the
query.  The same holds of executions by id, with the encoded id as the last segment of the path
and no query, exactly if the id is not one or two dots; what is requested for these is told by
`requestPath`.  In each case the encoding has nothing but unreserved characters and encoded
bytes and decodes to the id, and different lookups have different targets. -/
theorem requests_of_isPlain (hplain : base.IsPlain) (token : Option String) :
    (∀ lookup : Lookup,
      base.Requests token lookup (base.requestPath lookup) (requestQuery lookup) ∧
        ∃ spelling, Spells lookup.id.toUTF8.data.toList spelling ∧
          decode? spelling = some lookup.id ∧
          requestQuery lookup = meantQuery spelling lookup ∧
          (base.requestPath lookup = base.meantPath spelling lookup ↔
            lookup ≠ .byId "." ∧ lookup ≠ .byId "..")) ∧
      ∀ first second : Lookup, first.id ≠ "" → second.id ≠ "" → first ≠ second →
        targetText (base.requestPath first) (requestQuery first) ≠
          targetText (base.requestPath second) (requestQuery second) := by
  constructor
  · intro lookup
    exact ⟨hplain.requests token lookup, (encode lookup.id).toList, spells_encode lookup.id,
      decode?_encode lookup.id, rfl, base.requestPath_eq_meantPath_iff lookup⟩
  · intro first second hfirst hsecond hne hsame
    exact hne (requestText_injective hfirst hsecond hsame)

/-- Slashes, dots and a question mark in ids, at an address with slashes behind its path. -/
theorem requests_of_isPlain_slashes :
    let base : BaseAddress := ⟨"HTTP".toList, "walkoff:8080".toList, ["v1".toList], 2⟩
    let client := Client.ofBase base.text (some "secret")
    let network : Network := fun _ _ => .hungUp
    base.text = "HTTP://walkoff:8080/v1//" ∧ base.IsPlain ∧
      (∃ request, (client.fetch network (.byId "../a?b")).queries.head? = some request ∧
        request.target = "/v1/api/workflowqueue/..%2Fa%3Fb") ∧
      ∃ request, (client.fetch network (.latest "..")).queries.head? = some request ∧
        request.target = "/v1/api/workflowqueue/latest?workflow_id=.." := by
  intro base client network
  have hplain : base.IsPlain := by
    refine ⟨⟨'H', _, rfl, by decide⟩, Url.forall_mem_of_all (by decide), by decide,
      Url.forall_mem_of_all (by decide), ?_, by decide⟩
    intro segment hsegment
    rw [List.mem_singleton.mp hsegment]
    exact ⟨by decide, by decide, by decide⟩
  have hlookups := (requests_of_isPlain hplain (some "secret")).1
  have hbyId := (hlookups (.byId "../a?b")).1
  have hlatest := (hlookups (.latest "..")).1
  have hconnects : ∀ request, network 0 request ≠ .refused := by simp [network]
  obtain ⟨first, hfirst, hfirstTarget⟩ := hbyId.exists_first (by decide) (by decide) hconnects
  obtain ⟨second, hsecond, hsecondTarget⟩ := hlatest.exists_first (by decide) (by decide) hconnects
  exact ⟨rfl, hplain, ⟨first, hfirst, hfirstTarget.trans rfl⟩, second, hsecond,
    hsecondTarget.trans rfl⟩

/-- **Dots redirect a request.**  The request for an execution whose id is one dot or two is not
sent to a path with the id in its last segment, however the id may be spelled there. -/
theorem not_meant_of_dots :
    let base : BaseAddress := ⟨"http".toList, "walkoff:8080".toList, [], 1⟩
    let client := Client.ofBase base.text none
    let network : Network := fun _ _ => .hungUp
    base.text = "http://walkoff:8080/" ∧ base.IsPlain ∧
      ∀ id target, (id, target) ∈ [(".", "/api/workflowqueue/"), ("..", "/api/")] →
        (∃ request, (client.fetch network (.byId id)).queries.head? = some request ∧
          request.target = target) ∧
        ∀ spelling, decode? spelling = some id →
          targetText (base.meantPath spelling (.byId id)) (meantQuery spelling (.byId id)) ≠
            target := by
  intro base client network
  have hplain : base.IsPlain :=
    ⟨⟨'h', _, rfl, by decide⟩, Url.forall_mem_of_all (by decide), by decide,
      Url.forall_mem_of_all (by decide), by simp [base], by decide⟩
  have hconnects : ∀ request, network 0 request ≠ .refused := by simp [network]
  have hmeant : ∀ id spelling,
      targetText (base.meantPath spelling (.byId id)) (meantQuery spelling (.byId id)) =
        String.ofList ("/api/".toList ++ ("workflowqueue/".toList ++ spelling)) := by
    intro id spelling
    simp [base, targetText, meantPath, meantQuery, pathText]
  refine ⟨rfl, hplain, fun id target hmem => ?_⟩
  simp only [List.mem_cons, List.not_mem_nil, or_false, Prod.mk.injEq] at hmem
  rcases hmem with ⟨rfl, rfl⟩ | ⟨rfl, rfl⟩
  · obtain ⟨request, hrequest, htarget⟩ :=
      (hplain.requests none (.byId ".")).exists_first (by decide) rfl hconnects
    refine ⟨⟨request, hrequest, htarget.trans rfl⟩, fun spelling hspelling hsame => ?_⟩
    rw [hmeant, ← String.toList_inj, String.toList_ofList, ← List.append_assoc] at hsame
    have hnil : spelling = [] := List.self_eq_append_right.mp
      (show "/api/".toList ++ "workflowqueue/".toList = _ from hsame.symm)
    rw [hnil] at hspelling
    exact absurd hspelling (by decide)
  · obtain ⟨request, hrequest, htarget⟩ :=
      (hplain.requests none (.byId "..")).exists_first (by decide) rfl hconnects
    refine ⟨⟨request, hrequest, htarget.trans rfl⟩, fun spelling _ hsame => ?_⟩
    rw [hmeant, ← String.toList_inj, String.toList_ofList] at hsame
    have hnil := List.self_eq_append_right.mp hsame.symm
    simp at hnil

end BaseAddress

end Http

end ResultBoards
