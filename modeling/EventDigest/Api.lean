import EventDigest.Auth
import EventDigest.Run

/-! # The web interface

Inspecting rules and publishers and running a rule on demand. A request is first matched with a
route, then admitted, and only then answered; a fault that no route expects is answered by an
internal error without details.
-/
set_option autoImplicit false
namespace EventDigest.Api
open Time

structure Request where
  method : String
  path : String
  query : List (String × String)
  headers : Fields String
  deriving Repr

inductive Body
  | json (value : Json)
  | text (value : String)
  deriving Repr

structure Response where
  status : Nat
  body : Body
  deriving Repr

namespace Response

def ok (value : Json) : Response := ⟨200, .json value⟩

def refused (status : Nat) (detail : String) : Response :=
  ⟨status, .json (.object [("detail", .text detail)])⟩

def internalError : Response := ⟨500, .text "Internal Server Error"⟩

end Response

inductive Route
  | health
  | rules
  | rule (id : String)
  | execute (id : String)
  | publishers
  deriving DecidableEq, Repr

def Route.method : Route → String
  | .execute _ => "POST"
  | _ => "GET"

def Route.isGuarded : Route → Bool
  | .health => false
  | _ => true

def routeAt : List String → Option Route
  | ["", "api", "v1", "health"] => some .health
  | ["", "api", "v1", "scheduled-rules"] => some .rules
  | ["", "api", "v1", "scheduled-rules", id] => if id = "" then none else some (.rule id)
  | ["", "api", "v1", "scheduled-rules", id, "execute"] =>
    if id = "" then none else some (.execute id)
  | ["", "api", "v1", "notification-publishers"] => some .publishers
  | _ => none

/-- A path leads to the same route with and without slashes at its end. -/
def routeOf (path : String) : Option Route :=
  routeAt ((Text.splitAt '/' path).reverse.dropWhile (· = "")).reverse

def publisherJson (p : PublisherRow) : Json :=
  .object
    [("id", .text p.id),
      ("name", .text p.name),
      ("description", Json.ofOption .text p.description),
      ("publisher_key", .text p.key),
      ("template_mime_type", .text p.mimeType),
      ("default_publisher", .bool p.isDefault),
      ("publish_scheduled", .bool p.scheduled)]

def projectJson (p : Project) : Json :=
  .object
    [("id", .text p.id), ("name", .text p.name), ("version", Json.ofOption .text p.version)]

def teamJson (t : Team) : Json := .object [("id", .text t.id), ("name", .text t.name)]

/-- A rule as it is shown; none when its groups are no list of texts. -/
def ruleJson? (rule : Rule) (publisher : Option PublisherRow) (projects : List Project)
    (teams : List Team) : Option Json :=
  match rule.notifyOn with
  | .array items => do
    let groups ← Config.asTexts? items
    return .object
      [("id", .text rule.id),
        ("name", .text rule.name),
        ("scope", .text rule.scope),
        ("enabled", .bool rule.enabled),
        ("notify_on", Json.texts groups),
        ("cron_config", .text rule.cron),
        ("publish_only_with_updates", .bool rule.onlyWithUpdates),
        ("include_suppressed", .bool rule.includeSuppressed),
        ("notify_children", .bool rule.notifyChildren),
        ("log_successful_publish", .bool rule.logsSuccess),
        ("last_execution_time", .text rule.watermark.wallText),
        ("created_at", .text rule.createdAt.wallText),
        ("publisher", Json.ofOption publisherJson publisher),
        ("projects", .array (projects.map projectJson)),
        ("teams", .array (teams.map teamJson))]
  | _ => none

def parameter? (request : Request) (name : String) : Option String :=
  ((request.query.filter (·.1 = name)).getLast?).map (·.2)

def header? (request : Request) (name : String) : Option String :=
  (request.headers.find? fun (key, _) => Text.lower key = name).map (·.2)

variable {β : Type}

def ruleView (store : Store) (rule : Rule) : Except Fault (Option Json) := do
  let publisher ← store.loadPublisher rule
  let projects ← store.read .projects (·.assigned rule)
  let teams ← store.read .teams (·.teamsOf rule)
  return ruleJson? rule publisher projects teams

/-- A listing that cannot show one of its rules shows none. -/
def rules (store : Store) (enabledOnly : Bool) : Except Fault Response := do
  let views ← (← store.listRules enabledOnly).mapM (ruleView store)
  return match views.mapM id with
    | some items => .ok (.array items)
    | none => .internalError

def noSuchRule : String := "Scheduled notification rule not found"

def rule (store : Store) (id : String) : Except Fault Response := do
  match ← store.read .rules (·.rule? id) with
  | none => return .refused 404 noSuchRule
  | some rule =>
    return match ← ruleView store rule with
      | some view => .ok view
      | none => .internalError

def publishers (store : Store) (request : Request) : Except Fault Response := do
  let trigger := (parameter? request "trigger").getD "ALL"
  match Trigger.named? trigger with
  | none => return .refused 400 s!"Unsupported trigger: {trigger}"
  | some trigger =>
    return .ok (.array ((← store.listPublishers trigger).map publisherJson))

def ruleCounts (store : Store) : Except Fault (Nat × Nat) := do
  let total ← store.count .rules (·.rules.length)
  let enabled ← store.count .rules (·.rules.countP (·.enabled))
  return (total, enabled)

def health : Run β Response := do
  let (total, enabled) ← Run.query ruleCounts
  let now ← Run.ofExcept (Fault.ofSpan (← Run.now).toInstant)
  return .ok (.object
    [("status", .text "ok"),
      ("timestamp_utc", .text now.text),
      ("scheduled_rules", .int total),
      ("scheduled_rules_enabled", .int enabled)])

/-- Runs a rule. An unknown rule and a store that cannot be queried have answers of their own. -/
def execute (registry : Registry β) (settings : Settings) (zones : Zones) (id : String) :
    Run β Response := do
  let executor ← Run.ofExcept (Executor.ofSettings registry settings zones none)
  try
    let outcome ← executor.execute id
    return .ok outcome.toJson
  catch
    | .ruleMissing _ => return .refused 404 noSuchRule
    | .aggregation fault => return .refused 503 fault.message
    | fault => throw fault

/-- The answer of a route to a request that was let in. A switch that cannot be read is refused. -/
def answer (registry : Registry β) (settings : Settings) (zones : Zones) (request : Request) :
    Route → Run β Response
  | .health => health
  | .rules =>
    match Environment.readSwitch ((parameter? request "enabled_only").getD "false") with
    | none => return ⟨422, .json .null⟩
    | some enabledOnly => Run.query (rules · enabledOnly)
  | .rule id => Run.query (rule · id)
  | .execute id => execute registry settings zones id
  | .publishers => Run.query (publishers · request)

/-- Answers a request; the faults are those that no route expects. -/
def respond (registry : Registry β) (settings : Settings) (zones : Zones) (env : Environment)
    (request : Request) : Run β Response := do
  match routeOf request.path with
  | none => return .refused 404 "Not Found"
  | some route =>
    if Text.upper request.method ≠ route.method then return .refused 405 "Method Not Allowed"
    let denial ← if route.isGuarded then
        Run.ofExcept (Auth.verdict env (header? request "authorization"))
      else pure none
    match denial with
    | some denial => return .refused 401 denial.message
    | none => answer registry settings zones request route

def Response.withoutBody (response : Response) : Response := { response with body := .text "" }

/-- Serves a request, whatever happens. A request for the head alone gets no body. -/
def serve (registry : Registry β) (settings : Settings) (zones : Zones) (env : Environment)
    (request : Request) : Run β Response := do
  let response ← try respond registry settings zones env request
    catch _ => pure .internalError
  return if Text.upper request.method = "HEAD" then response.withoutBody else response

end EventDigest.Api
