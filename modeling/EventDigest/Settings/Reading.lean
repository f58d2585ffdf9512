import EventDigest.Environment
import EventDigest.Settings

/-! # Reading settings

Every setting that the environment names replaces the standard one. All settings that cannot be read
are reported together, by name.
-/
set_option autoImplicit false
namespace EventDigest

inductive SettingKind
  | switch
  | whole
  | number
  deriving DecidableEq, Repr

structure SettingFault where
  setting : String
  expected : SettingKind
  deriving DecidableEq, Repr

namespace Settings

/-- A setting of a kind: the standard one, the one of the environment, or a fault. -/
def reading {α : Type} (env : Environment) (setting : String) (kind : SettingKind)
    (read : String → Option α) (standard : α) : Except SettingFault α :=
  match env.lookup? setting with
  | none => .ok standard
  | some s =>
    match read s with
    | some a => .ok a
    | none => .error ⟨setting, kind⟩

def faultOf? {α : Type} : Except SettingFault α → Option SettingFault
  | .ok _ => none
  | .error fault => some fault

def valueOr {α : Type} (standard : α) : Except SettingFault α → α
  | .ok a => a
  | .error _ => standard

/-- The settings of an environment, or all faults in the order of their names. -/
def ofEnvironment (env : Environment) : Except (List SettingFault) Settings :=
  let creates := reading env "auto_create_db" .switch Environment.readSwitch true
  let seeds := reading env "auto_seed_publishers" .switch Environment.readSwitch true
  let port := reading env "smtp_port" .whole Environment.readWhole 587
  let startTls := reading env "smtp_starttls" .switch Environment.readSwitch true
  let timeout := reading env "webhook_timeout_sec" .number Environment.readNumber (.ofInt 10)
  let faults := [faultOf? creates, faultOf? seeds, faultOf? port, faultOf? startTls,
    faultOf? timeout].filterMap id
  if !faults.isEmpty then .error faults
  else .ok
    { databaseUrl := (env.lookup? "database_url").getD standard.databaseUrl
      createsTables := valueOr true creates
      seedsPublishers := valueOr true seeds
      mailHost := env.lookup? "smtp_host"
      mailPort := valueOr 587 port
      mailUser := env.lookup? "smtp_user"
      mailPassword := env.lookup? "smtp_password"
      mailSender := env.lookup? "smtp_from"
      mailStartTls := valueOr true startTls
      webhookTimeout := .float (valueOr (.ofInt 10) timeout)
      displayZone := env.lookup? "scheduled_display_timezone"
      logLevel := (env.lookup? "log_level").getD standard.logLevel }

end EventDigest.Settings
