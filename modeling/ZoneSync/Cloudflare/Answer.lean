import ZoneSync.Cloudflare.Wire
import ZoneSync.Error
import ZoneSync.Http.Exchange

namespace ZoneSync.Cloudflare

open Http

/-!
# From responses to results

* `statusError` — the error of a response with a status that is no success;
* `answer` — the envelope of a response, or the error that it comes to;
* `ask` — sends a request and takes the answer.

The subject of a request is what its errors are about.
-/

/-- The name of the provider. -/
def providerName : String := "cloudflare"

/-- An error of the provider. -/
def refusal (message : String) : Error := .provider providerName message

/-- The error of a response with a status that is no success. -/
def statusError (r : Response) (subject : String) : Error :=
  let status := r.status.toString
  match r.status.code with
  | 401 | 403 =>
    .authentication ("Invalid API token or insufficient permissions. Status: " ++ status)
  | 404 => .notFound (subject ++ " (" ++ status ++ ")")
  | 409 =>
    refusal ("Conflict: " ++ subject ++ " was changed concurrently. Status: " ++ status)
  | 429 => .rateLimited ("Rate limit exceeded. Please retry later. Status: " ++ status)
  | code =>
    if 500 ≤ code ∧ code < 600 then
      refusal ("Cloudflare server error (transient): " ++ status ++ " - " ++ r.text)
    else refusal ("Request for " ++ subject ++ " failed: " ++ status ++ " - " ++ r.text)

/-- The envelope of a response that reports success, with the result read by `result?`. -/
def answer {α : Type} (result? : Json → Option α) (subject : String) (r : Response) :
    Except Error (Envelope α) :=
  if r.status.isSuccess then
    match Envelope.ofText? result? r.body with
    | none => .error (refusal "Failed to parse response: error decoding response body")
    | some e =>
      if e.success then .ok e
      else .error (refusal ("Request for " ++ subject ++ " failed: " ++ e.summary))
  else .error (statusError r subject)

/-- Send a request, if there is one, and take the answer. -/
def ask {m : Type → Type} [Monad m] (send : Transport m) {α : Type} (result? : Json → Option α)
    (subject : String) (request : Except SendFailure Request) :
    ExceptT Error m (Envelope α) := do
  let failed (e : SendFailure) : Error := refusal ("HTTP request failed: " ++ e.message)
  let request ← liftM (request.mapError failed)
  let response ← ExceptT.mk (return (← send.exchange request).mapError failed)
  liftM (answer result? subject response)

end ZoneSync.Cloudflare
