import EventDigest.Json.Display
import EventDigest.Store
import EventDigest.Time.Stamp

/-! # Rows by columns

A row is changed column by column, each value given as a document. A value that is no time leaves an
optional column empty; a column that a row does not have is passed over.
-/
set_option autoImplicit false
namespace EventDigest
open Time

namespace Column

def text : Json → String := Json.displayOrEmpty

def optional : Json → Option String
  | .null => none
  | v => some v.display

def switch : Json → Bool := Json.isGiven

def optionalTime (v : Json) : Except Fault (Option Instant) :=
  match v with
  | .text s =>
    match Stamp.read? s with
    | some stamp => (Fault.ofSpan stamp.toInstant).map some
    | none => .ok none
  | _ => .ok none

def time (v : Json) : Except Fault Instant := do return (← optionalTime v).getD Instant.first

/-- Scores are stored as floating-point numbers. -/
def score : Json → Json
  | .int n => .float (.ofInt n)
  | v => v

end Column

open Column

def Finding.blank (id : Int) : Finding :=
  ⟨id, "", "", none, "", none, none, .null, none, none, none, Instant.first, false, none⟩

def Finding.withColumn (f : Finding) (column : String × Json) : Except Fault Finding := do
  let (name, v) := column
  match name with
  | "project_id" => return { f with project := text v }
  | "component_name" => return { f with component := text v }
  | "component_version" => return { f with componentVersion := optional v }
  | "vuln_id" => return { f with vulnerability := text v }
  | "source" => return { f with source := optional v }
  | "severity" => return { f with severity := optional v }
  | "cvss_score" => return { f with score := v }
  | "title" => return { f with title := optional v }
  | "description" => return { f with description := optional v }
  | "published_at" => return { f with publishedAt := ← optionalTime v }
  | "attributed_on" => return { f with attributedOn := ← time v }
  | "suppressed" => return { f with suppressed := switch v }
  | "analysis_state" => return { f with analysis := optional v }
  | _ => return f

def Violation.blank (id : Int) : Violation :=
  ⟨id, "", "", none, "", none, none, none, Instant.first, false⟩

def Violation.withColumn (x : Violation) (column : String × Json) : Except Fault Violation := do
  let (name, v) := column
  match name with
  | "project_id" => return { x with project := text v }
  | "component_name" => return { x with component := text v }
  | "component_version" => return { x with componentVersion := optional v }
  | "policy_name" => return { x with policy := text v }
  | "condition" => return { x with condition := optional v }
  | "violation_type" => return { x with type := optional v }
  | "violation_state" => return { x with state := optional v }
  | "timestamp" => return { x with raisedAt := ← time v }
  | "suppressed" => return { x with suppressed := switch v }
  | _ => return x

def Project.withColumn (p : Project) (column : String × Json) : Project :=
  let (name, v) := column
  match name with
  | "name" => { p with name := text v }
  | "version" => { p with version := optional v }
  | "active" => { p with active := switch v }
  | "parent_id" => { p with parent := optional v }
  | _ => p

def Rule.withColumn (r : Rule) (column : String × Json) : Except Fault Rule := do
  let (name, v) := column
  match name with
  | "name" => return { r with name := text v }
  | "scope" => return { r with scope := text v }
  | "enabled" => return { r with enabled := switch v }
  | "notify_on" => return { r with notifyOn := v }
  | "cron_config" => return { r with cron := text v }
  | "publish_only_with_updates" => return { r with onlyWithUpdates := switch v }
  | "include_suppressed" => return { r with includeSuppressed := switch v }
  | "notify_children" => return { r with notifyChildren := switch v }
  | "log_successful_publish" => return { r with logsSuccess := switch v }
  | "publisher_id" => return { r with publisher := optional v }
  | "publisher_config" => return { r with config := optional v }
  | "last_execution_time" => return { r with watermark := ← time v }
  | "created_at" => return { r with createdAt := ← time v }
  | _ => return r

namespace Store

def stored : String × Json → String × Json
  | ("cvss_score", v) => ("cvss_score", score v)
  | column => column

def changeFinding (store : Store) (id : Int) (columns : Fields Json) : Except Fault Store := do
  let findings ← store.findings.mapM fun f =>
    if f.id = id then (columns.map stored).foldlM Finding.withColumn f else pure f
  return { store with findings }

def changeViolation (store : Store) (id : Int) (columns : Fields Json) : Except Fault Store := do
  let violations ← store.violations.mapM fun x =>
    if x.id = id then columns.foldlM Violation.withColumn x else pure x
  return { store with violations }

def changeProject (store : Store) (id : String) (columns : Fields Json) : Store :=
  { store with projects := store.projects.map fun p =>
      if p.id = id then columns.foldl Project.withColumn p else p }

def changeRule (store : Store) (id : String) (columns : Fields Json) : Except Fault Store := do
  let rules ← store.rules.mapM fun r =>
    if r.id = id then columns.foldlM Rule.withColumn r else pure r
  return { store with rules }

/-- Adds findings, numbered on from the last one. -/
def addFindings (store : Store) (rows : List (Fields Json)) : Except Fault Store := do
  let more ← (rows.zipIdx (store.findings.length + 1)).mapM fun (columns, n) =>
    (columns.map stored).foldlM Finding.withColumn (.blank n)
  return { store with findings := store.findings ++ more }

def addViolations (store : Store) (rows : List (Fields Json)) : Except Fault Store := do
  let more ← (rows.zipIdx (store.violations.length + 1)).mapM fun (columns, n) =>
    columns.foldlM Violation.withColumn (.blank n)
  return { store with violations := store.violations ++ more }

end EventDigest.Store
