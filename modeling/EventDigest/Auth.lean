import EventDigest.Environment
import EventDigest.Fault
import EventDigest.Journal
import EventDigest.Settings
import EventDigest.Text.Case

/-! # Access to the service

A request is admitted when its bearer token is the one of the environment, unless the environment
turns the check off. A token is weak when it is short or well known.
-/
set_option autoImplicit false
namespace EventDigest.Auth

def isOff (env : Environment) : Bool :=
  ["1", "true", "yes"].contains
    (Text.lower ((Fields.get? env "SN_AUTH_DISABLED").getD "true"))

def expectedToken (env : Environment) : String :=
  Text.trim ((Fields.get? env "SN_AUTH_TOKEN").getD "")

def scheme : String := "bearer "

def bearerToken? (authorization : Option String) : Option String :=
  let authorization := authorization.getD ""
  if !Text.startsWith scheme (Text.lower authorization) then none
  else
    let behind := (authorization.toList.dropWhile (· ≠ ' ')).drop 1
    let token := String.ofList (Text.trimmed behind)
    if token = "" then none else some token

inductive Denial
  | missingToken
  | wrongToken
  deriving DecidableEq, Repr

def Denial.message : Denial → String
  | .missingToken => "Missing bearer token"
  | .wrongToken => "Invalid token"

def isAscii (s : String) : Bool := s.toList.all (·.toNat < 128)

/-- Admits a request or turns it away. Tokens beyond ASCII cannot be compared at all. -/
def verdict (env : Environment) (authorization : Option String) : Except Fault (Option Denial) :=
  if isOff env then .ok none
  else match bearerToken? authorization with
    | none => .ok (some .missingToken)
    | some token =>
      let expected := expectedToken env
      if expected = "" then .ok (some .wrongToken)
      else if !(isAscii token && isAscii expected) then .error .tokenNotAscii
      else .ok (if token = expected then none else some .wrongToken)

def leastLength : Nat := 20

def wellKnown : List String := ["demo-token", "change-me", "changeme", "password", "admin"]

def isWeak (token : Option String) : Bool :=
  let token := token.getD ""
  let trimmed := Text.trim token
  token = "" || trimmed.length < leastLength || wellKnown.contains (Text.lower trimmed)

end Auth

namespace Settings

def checkLogger : String := "config"

/-- Whether the display zone of the settings can be used; a blank one leaves the choice open. -/
def hasKnownZone (zones : Time.Zones) (settings : Settings) : Bool :=
  (zones.ofSetting settings.displayZone).toBool

/-- Reports what will not work and drops a display zone that does not exist. -/
def check (zones : Time.Zones) (env : Environment) (settings : Settings) : Settings × Journal :=
  let token :=
    if !Auth.isOff env && Auth.isWeak (Fields.get? env "SN_AUTH_TOKEN") then
      [Entry.warning checkLogger
        "SN_AUTH_TOKEN is weak or missing; API requests will be rejected."]
    else []
  let host :=
    if settings.mailHost.getD "" = "" then
      [Entry.info checkLogger
        "SMTP_HOST not set; email publisher deliveries will fail until configured."]
    else []
  if settings.hasKnownZone zones then (settings, token ++ host)
  else
    let name := Text.trim (settings.displayZone.getD "")
    ({ settings with displayZone := none },
      token ++ host ++
        [Entry.error checkLogger
          s!"Unknown SCHEDULED_DISPLAY_TIMEZONE={name}; falling back to local zone"])

end Settings

end EventDigest
