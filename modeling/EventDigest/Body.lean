import EventDigest.Json.Printer
import EventDigest.Notification
import EventDigest.Template
import EventDigest.Text.Split

/-! # Message bodies

A body is the notification put into the template of a configuration. In a template for JSON the text
fields land inside string literals, so they are escaped. Without a template the body is the whole
notification as a JSON document.
-/
set_option autoImplicit false
namespace EventDigest

namespace Key

def template : String := "template"
def mimeType : String := "mimeType"
def destination : String := "destination"
def token : String := "token"
def subjectPrefix : String := "subjectPrefix"

end Key

/-- A value of a configuration that has to be a text for the operation that is applied to it; one
that is not given counts as the default. -/
def textOr (fallback : String) (operation : String) (config : Fields Json) (key : String) :
    Except Fault String :=
  let value := (Fields.get? config key).getD .null
  if !value.isGiven then .ok fallback
  else match value with
    | .text s => .ok s
    | v => .error (.kindLacks v.kindName operation)

def templateOf (config : Fields Json) : Except Fault (Option String) := do
  let template ← textOr "" "strip" config Key.template
  return if Text.allBlank template then none else some template

def mediaType (mimeType : String) : String := Text.lower (Text.trim (Text.before ';' mimeType))

def isJsonType (mimeType : String) : Bool :=
  let media := mediaType mimeType
  media = "application/json" || Text.endsWith "+json" media

/-- The value of a field of a template. The subject is a document of its own. -/
def fieldValue (n : Notification) (inJson : Bool) (field : Template.Field) : String :=
  let text (s : String) := if inJson then Json.escape s else s
  match field with
  | .title => text n.title
  | .content => text n.content
  | .level => text n.level
  | .group => text n.group.name
  | .scope => text n.scope
  | .timestamp => text n.timestampText
  | .subject => n.subject.toJson.pretty

def renderBody (n : Notification) (config : Fields Json) : Except Fault String := do
  match ← templateOf config with
  | none => return n.toJson.pretty
  | some template =>
    let mimeType ← textOr "" "split" config Key.mimeType
    return Template.fill template (fieldValue n (isJsonType mimeType))

end EventDigest
