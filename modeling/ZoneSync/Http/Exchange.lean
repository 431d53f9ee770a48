import ZoneSync.Http.Status
import ZoneSync.Http.Url
import ZoneSync.Json.Basic

namespace ZoneSync.Http

/-!
# Requests and responses

* `Request`, `Response` — what is sent and what comes back;
* `Transport` — sends requests, in a monad;
* `Request.of` — a request, if it can be put together at all;
* `Transport.exchange` — sends a request and waits for the response.
-/

/-- What is done with a resource. -/
inductive Method where
  | get
  | post
  | put
  | delete
  deriving DecidableEq, Repr

/-- The word for a method. -/
def Method.name : Method → String
  | get => "GET"
  | post => "POST"
  | put => "PUT"
  | delete => "DELETE"

/-- Whether a method only reads. -/
def Method.isSafe (m : Method) : Bool := m = .get

/-- A request with a token for the authorization. -/
structure Request where
  method : Method
  url : Url
  token : String
  body : Option Json
  deriving Repr

/-- The header that authorizes a request. -/
def Request.authorization (r : Request) : String := "Bearer " ++ r.token

/-- The media type of the body. -/
def Request.contentType? (r : Request) : Option String :=
  r.body.map fun _ => "application/json"

/-- What comes back for a request. -/
structure Response where
  status : Status
  body : String
  deriving DecidableEq, Repr

/-- The body of a response as text to be shown, without a byte order mark. -/
def Response.text (r : Response) : String :=
  match r.body.toList with
  | '\uFEFF' :: rest => String.ofList rest
  | _ => r.body

/-- Why there is no response. -/
inductive SendFailure where
  /-- The request cannot be put together, maybe because of its address. -/
  | unusable (address : Option String)
  /-- Nothing comes back. -/
  | noResponse (address : Url)
  deriving DecidableEq, Repr

/-- The wording of a failure. -/
def SendFailure.message : SendFailure → String
  | unusable none => "builder error"
  | unusable (some address) => "builder error for url (" ++ address ++ ")"
  | noResponse u => "error sending request for url (" ++ u.toString ++ ")"

/-- Whether a text can stand in a header. -/
def isHeaderText (s : String) : Bool :=
  s.toList.all fun c => c = '\t' || (0x20 ≤ c.toNat && c.toNat ≠ 0x7F)

/-- A request to an address with fields in its query. -/
def Request.of (method : Method) (address : String) (query : List (String × String))
    (token : String) (body : Option Json) : Except SendFailure Request :=
  match Url.parse? address with
  | none => .error (.unusable (Url.hostless? address))
  | some url =>
    let url := url.addQuery query
    if !isHeaderText token then .error (.unusable none)
    else if url.scheme ∉ ["http", "https"] then .error (.unusable (some url.toString))
    else .ok { method, url, token, body }

/-- Sends a request; nothing comes back if the host cannot be reached. -/
abbrev Transport (m : Type → Type) := Request → m (Option Response)

/-- Send a request and wait for the response. -/
def Transport.exchange {m : Type → Type} [Monad m] (send : Transport m) (r : Request) :
    m (Except SendFailure Response) := do
  match ← send r with
  | some response => return .ok response
  | none => return .error (.noResponse r.url)

end ZoneSync.Http
