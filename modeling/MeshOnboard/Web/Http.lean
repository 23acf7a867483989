import MeshOnboard.Web.Uri

/-!
# Requests over HTTP

A request has an address and header fields.  It is put together before anything is sent: an address
that cannot be read and a header value that holds a control character are refused.  A transport
carries a request to a server and brings a response back, or says why it cannot.
-/

namespace MeshOnboard

/-- A header field. -/
structure HeaderField where
  name : String
  value : String
  deriving DecidableEq

/-- A request for the content of an address. -/
structure HttpRequest where
  uri : Uri
  headers : List HeaderField
  deriving DecidableEq

/-- The answer of a server. -/
structure HttpResponse where
  status : UInt16
  /-- The names, in lower case, and the octets of the header fields. -/
  headers : List (String × List UInt8)
  body : List UInt8
  deriving DecidableEq

/-- Why a request has no response. -/
inductive HttpError where
  | uri (reason : UriError)
  | headerValue
  | notAbsolute
  /-- There is no connection, for the given reason. -/
  | connect (reason : String)
  deriving DecidableEq

/-- The wording of a request error. -/
def HttpError.message : HttpError → String
  | uri reason => reason.message
  | headerValue => "failed to parse header value"
  | notAbsolute => "client requires absolute-form URIs"
  | connect reason => s!"error trying to connect: {reason}"

/-- What carries requests: a response, or the reason why there is no connection. -/
abbrev Transport (σ : Type) : Type := HttpRequest → σ → Except String HttpResponse × σ

namespace HttpRequest

/-- Whether a text may be the value of a header field: a tab is its only control character. -/
def isHeaderValue (value : String) : Bool :=
  value.toList.all fun c => c = '\t' || (' ' ≤ c && c ≠ '\x7f')

/-- The request for the content of the address `url`. -/
def build (url : String) (headers : List HeaderField) : Except HttpError HttpRequest := do
  let uri ← (Uri.read url).mapError .uri
  if !headers.all fun h => isHeaderValue h.value then throw .headerValue
  return ⟨uri, headers⟩

/-- The response to a request for the content of `url`. -/
def send {σ : Type} (transport : Transport σ) (url : String) (headers : List HeaderField)
    (world : σ) : Except HttpError HttpResponse × σ :=
  match build url headers with
  | .error e => (.error e, world)
  | .ok request =>
    if request.uri.isAbsolute then
      let (response, world) := transport request world
      (response.mapError .connect, world)
    else (.error .notAbsolute, world)

end HttpRequest

namespace HttpResponse

/-- The first header field of a name, if all of it is visible ASCII, spaces and tabs. -/
def header? (r : HttpResponse) (name : String) : Option (List Char) := do
  let value ← r.headers.lookup name
  if value.all fun b => b = 9 || (32 ≤ b && b ≤ 126) then
    some (value.map fun b => Char.ofNat b.toNat)
  else none

end HttpResponse

end MeshOnboard
