import EventDigest.Json
import EventDigest.Time.Instant

/-! # Outcomes of a run

What became of each group of a rule, and when the watermark moves: when no group failed or at least
one was delivered.
-/
set_option autoImplicit false
namespace EventDigest
open Time

inductive Status
  | published
  | skipped
  | failed
  | unsupported
  | other (name : String)
  deriving DecidableEq, Repr

namespace Status

def name : Status → String
  | .published => "PUBLISHED"
  | .skipped => "SKIPPED"
  | .failed => "FAILED"
  | .unsupported => "UNSUPPORTED"
  | .other name => name

def ofName (name : String) : Status :=
  ([.published, .skipped, .failed, .unsupported].find? fun status : Status =>
    status.name = name).getD (.other name)

def isError (status : Status) : Bool := status = .failed || status = .unsupported

def isSuccess (status : Status) : Bool := status = .published

end Status

structure GroupResult where
  group : String
  status : Status
  error : Option String
  deriving DecidableEq, Repr

def anyError (results : List GroupResult) : Bool := results.any (·.status.isError)

def anySuccess (results : List GroupResult) : Bool := results.any (·.status.isSuccess)

def shouldAdvance (results : List GroupResult) : Bool := !anyError results || anySuccess results

structure Outcome where
  ruleId : String
  ruleName : String
  windowStart : Option Instant
  results : List GroupResult
  advanced : Bool
  newWatermark : Option Instant
  disabled : Bool
  deriving Repr

def GroupResult.toJson (r : GroupResult) : Json :=
  .object
    [("group", .text r.group), ("status", .text r.status.name),
      ("error", Json.ofOption .text r.error)]

def Outcome.toJson (o : Outcome) : Json :=
  .object
    [("rule_id", .text o.ruleId),
      ("rule_name", .text o.ruleName),
      ("window_start", .text (textOrUnknown o.windowStart)),
      ("disabled", .bool o.disabled),
      ("watermark_advanced", .bool o.advanced),
      ("new_watermark", Json.ofOption (fun t => .text t.text) o.newWatermark),
      ("results", .array (o.results.map GroupResult.toJson))]

end EventDigest
