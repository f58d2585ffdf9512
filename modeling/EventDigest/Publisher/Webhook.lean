import EventDigest.Publisher.Console
import EventDigest.Settings

/-! # The webhook publisher

Posts the body of a notification to the destination of the configuration, under the media type of
its template. Without a template the body is JSON.
-/
set_option autoImplicit false
namespace EventDigest.Publisher

def contentType (config : Config) : Except Fault String := do
  match ← templateOf config with
  | none => return "application/json"
  | some _ => textOr "application/json" "split" config Key.mimeType

def authorization (token : String) : Fields String :=
  if token = "" then [] else [("Authorization", s!"Bearer {token}")]

/-- The request for a notification; the faults are those of the configuration. -/
def webhookRequest (timeout : Json) (ctx : Context) (notification : Notification)
    (config : Config) : Except Fault HttpRequest := do
  let url ← (config.textField Key.destination).mapError .publish
  if url = "" then throw (.publish (.noDestination ctx.text))
  let contentType ← contentType config
  let body ← renderBody notification config
  let token ← (config.textField Key.token).mapError .publish
  return { url, body, timeout, headers := ("Content-Type", contentType) :: authorization token }

/-- The beginning of a response that a message quotes. -/
def excerpt (s : String) : String := String.ofList (s.toList.take 200)

def isAccepted (status : Int) : Bool := status.fdiv 100 = 2

/-- The fault of a posted request, if there is one. -/
def requestFault? (url : String) : Except Fault HttpResponse → Option Fault
  | .error fault =>
    some (if fault.isRequestFault then .publish (.requestFailed url fault.message) else fault)
  | .ok response =>
    if isAccepted response.status then none
    else some (.publish (.statusRefused response.status url (excerpt response.text)))

def webhook {β : Type} (transport : Transport β) (timeout : Json) : Publisher β :=
  .untargeted "WebhookPublisher" fun ctx notification config => do
    let request ← Task.ofExcept (webhookRequest timeout ctx notification config)
    Task.deliver (.http request)
    match requestFault? request.url (← Task.ask (transport.post request)) with
    | none => return ()
    | some fault => throw fault

end EventDigest.Publisher
