import EventDigest.Mail.AddressList
import EventDigest.Publisher.Console
import EventDigest.Settings
import EventDigest.Text.Line

/-! # The mail publisher

Sends the body of a notification to the destinations of the configuration and, where a rule has
teams, to the addresses of their members. Every recipient gets the message once.
-/
set_option autoImplicit false
namespace EventDigest.Publisher

/-- The mail server, the account on it and the sender that is shown. -/
structure MailAccount where
  host : Option String
  port : Int
  user : Option String
  password : Option String
  sender : String
  startTls : Bool
  deriving Repr

def givenText? (s : Option String) : Option String := s.filter (· ≠ "")

def MailAccount.ofSettings (settings : Settings) : MailAccount where
  host := givenText? settings.mailHost
  port := settings.mailPort
  user := givenText? settings.mailUser
  password := givenText? settings.mailPassword
  sender :=
    ((givenText? settings.mailSender).or (givenText? settings.mailUser)).getD
      "notifications@localhost"
  startTls := settings.mailStartTls

/-- Addresses in small letters without blanks around them, each once. -/
def recipientsOf (addresses : List String) : List String :=
  distinct (((addresses.map Text.trim).filter (· ≠ "")).map Text.lower)

def headerOf (s : String) : Except Fault String :=
  if Text.spansLines s.toList then .error .headerLineBreak else .ok s

def addressHeaderOf (s : String) : Except Fault String := do
  (Mail.addressList (← headerOf s)).mapError .address

def subjectOf (subjectStart title : String) : String := Text.trim s!"{subjectStart} {title}"

/-- A body from a template for HTML goes beside the notification's content as plain text. -/
def mailContent (notification : Notification) (config : Config) : Except Fault MailContent := do
  let body ← renderBody notification config
  let mimeType ← textOr "" "lower" config Key.mimeType
  return if Text.lower mimeType = "text/html" then .alternative notification.content body
    else .plain body

/-- The message of a notification with the host it goes to; the faults are those of the
configuration and the settings. -/
def composeMail (account : MailAccount) (ctx : Context) (notification : Notification)
    (config : Config) (addresses : List String) : Except Fault (String × MailMessage) := do
  let recipients := recipientsOf addresses
  if recipients.isEmpty then throw (.publish (.noRecipients ctx.text))
  match account.host with
  | none => throw (.publish .noMailHost)
  | some host =>
    let subjectStart ← (config.textField Key.subjectPrefix).mapError .publish
    let subject ← headerOf (subjectOf subjectStart notification.title)
    let sender ← addressHeaderOf account.sender
    let recipientLine ← addressHeaderOf (String.intercalate ", " recipients)
    let content ← mailContent notification config
    return (host, { subject, sender, recipientLine, content })

/-- The calls of a session between the connection and the end of it. -/
def MailAccount.calls (account : MailAccount) (message : MailMessage) : List MailCall :=
  let secured := if account.startTls then [.startTls, .hello] else []
  let admitted := match account.user, account.password with
    | some user, some password => [.login user password]
    | _, _ => []
  .hello :: secured ++ admitted ++ [.send message]

/-- Makes calls until one fails; yields the calls made and the fault. -/
def converse {β : Type} (transport : Transport β) :
    List MailCall → β → (List MailCall × Option Fault) × β
  | [], outside => (([], none), outside)
  | call :: rest, outside =>
    match transport.mail call outside with
    | (.error fault, outside) => (([call], some fault), outside)
    | (.ok (), outside) =>
      let ((made, fault), outside) := converse transport rest outside
      ((call :: made, fault), outside)

/-- What a session came to: its calls, whether the message was accepted, and the fault. -/
structure MailSession where
  calls : List MailCall
  accepted : Bool
  fault : Option Fault
  deriving Repr

/-- A session that was opened is closed, whatever happened in it; a fault of the closing hides an
earlier one. -/
def holdSession {β : Type} (transport : Transport β) (account : MailAccount) (host : String)
    (message : MailMessage) (outside : β) : MailSession × β :=
  let opening := MailCall.connect host account.port
  match transport.mail opening outside with
  | (.error fault, outside) => (⟨[opening], false, some fault⟩, outside)
  | (.ok (), outside) =>
    let ((made, fault), outside) := converse transport (account.calls message) outside
    let (closing, outside) := transport.mail .quit outside
    let closingFault := match closing with
      | .error fault => some fault
      | .ok () => none
    (⟨opening :: made ++ [.quit], fault.isNone, closingFault.or fault⟩, outside)

def sendMail {β : Type} (transport : Transport β) (account : MailAccount) (ctx : Context)
    (notification : Notification) (config : Config) (addresses : List String) : Task β Unit := do
  let (host, message) ← Task.ofExcept (composeMail account ctx notification config addresses)
  let session ← Task.ask (holdSession transport account host message)
  Task.deliver (.mail session.calls (if session.accepted then some message else none))
  match session.fault with
  | none =>
    Task.log
      (.info logger s!"Email sent recipients={(recipientsOf addresses).length} ({ctx.text})")
  | some fault =>
    throw (if fault.isMailFault then .publish (.mailFailed fault.message) else fault)

def mail {β : Type} (transport : Transport β) (account : MailAccount) : Publisher β where
  className := "SendMailPublisher"
  isTargeted := true
  inform ctx notification config := do
    let addresses ← Task.ofPublish config.destinations
    sendMail transport account ctx notification config addresses
  informTargets ctx notification config targets := do
    let addresses ← Task.ofPublish config.destinations
    sendMail transport account ctx notification config
      (addresses ++ targets.flatMap (·.addresses))

end EventDigest.Publisher
