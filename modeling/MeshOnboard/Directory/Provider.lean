import MeshOnboard.Directory.LinkHeader
import MeshOnboard.Directory.Listing
import MeshOnboard.Text.Pieces
import MeshOnboard.Web.Http
import MeshOnboard.Web.Json

/-!
# Directory providers

A provider is a web service that lists teams and members and knows whom a token belongs to.  Each
question is a request that carries a token; the answer is JSON, and a link header may name the page
that follows.
-/

namespace MeshOnboard

/-- A web service that answers questions about teams. -/
structure Provider where
  /-- The address that every question starts with, without slashes at its end. -/
  base : String
  /-- The token that lists are asked for with. -/
  token : String
  deriving DecidableEq

namespace Provider

/-- The provider at an address. -/
def ofUrl (url token : String) : Provider :=
  ⟨String.ofList (Text.stripEnd (· = '/') url.toList), token⟩

/-- The name the program gives itself in requests. -/
def userAgent : String := "nerf/0.1.0"

/-- The header fields of a question asked with a token. -/
def headers (token : String) : List HeaderField :=
  [⟨"accept", "application/vnd.github+json"⟩, ⟨"authorization", s!"token {token}"⟩,
    ⟨"user-agent", userAgent⟩]

/-- The address of a query. -/
def url (p : Provider) : DirectoryQuery → String
  | .teams organization page =>
    s!"{p.base}/orgs/{organization}/teams?per_page={page.size.toNat}&page={page.number.toNat}"
  | .members team page =>
    s!"{p.base}/teams/{team.id.toNat}/members?per_page={page.size.toNat}&page={page.number.toNat}"

/-- The address of the question whom a token belongs to. -/
def userUrl (p : Provider) : String := s!"{p.base}/user"

/-- What the error of an undecodable response says. -/
def undecodable : String := "unexpected content"

/-- The meaning of a response and the page that it leads on to. -/
def interpret {α : Type} (url : String) (decode : JsonValue → Option α) (r : HttpResponse) :
    Except DirectoryError (α × Option UInt32) :=
  if r.status ≠ 200 then .error (.status url r.status)
  else
    match (JsonValue.read? r.body).bind decode with
    | none => .error (.decode url undecodable)
    | some a => .ok (a, (r.header? "link").bind LinkHeader.nextPage?)

/-- The answer to the question at an address. -/
def get {σ : Type} {α : Type} (transport : Transport σ) (url token : String)
    (decode : JsonValue → Option α) (world : σ) :
    Except DirectoryError (α × Option UInt32) × σ :=
  match HttpRequest.send transport url (headers token) world with
  | (.error e, world) => (.error (.request url e.message), world)
  | (.ok response, world) => (interpret url decode response, world)

/-- The team that a JSON value stands for. -/
def team? (j : JsonValue) : Option Team :=
  match j.fields? ["id", "name"] with
  | some [id, name] => do return ⟨← id.count?, ← name.text?⟩
  | _ => none

/-- The login that a JSON value stands for. -/
def login? (j : JsonValue) : Option String :=
  match j.fields? ["login"] with
  | some [login] => login.text?
  | _ => none

/-- The list that a JSON value stands for. -/
def list? {α : Type} (item? : JsonValue → Option α) (j : JsonValue) : Option (List α) := do
  (← j.items).mapM item?

/-- The answer to a query. -/
def answer {σ : Type} (p : Provider) (transport : Transport σ) (q : DirectoryQuery) (world : σ) :
    q.Reply × σ :=
  let ask := fun {α : Type} (item? : JsonValue → Option α) =>
    let (result, world) := get transport (p.url q) p.token (list? item?) world
    (result.map fun (items, next) => (⟨items, next⟩ : Page α), world)
  match q with
  | .teams .. => ask team?
  | .members .. => ask login?

/-- The login that a token belongs to. -/
def verify {σ : Type} (p : Provider) (transport : Transport σ) (token : String) (world : σ) :
    Except DirectoryError String × σ :=
  let (result, world) := get transport p.userUrl token login? world
  (result.map Prod.fst, world)

end Provider

end MeshOnboard
