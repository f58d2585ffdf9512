import EventDigest.Fault

/-! # Journal

What a run writes to its log, in order. An entry may carry the fault that it reports.
-/
set_option autoImplicit false
namespace EventDigest

inductive Severity
  | debug
  | info
  | warning
  | error
  | critical
  deriving DecidableEq, Repr

namespace Severity

def name : Severity → String
  | .debug => "DEBUG"
  | .info => "INFO"
  | .warning => "WARNING"
  | .error => "ERROR"
  | .critical => "CRITICAL"

def rank : Severity → Nat
  | .debug => 10
  | .info => 20
  | .warning => 30
  | .error => 40
  | .critical => 50

end Severity

structure Entry where
  severity : Severity
  logger : String
  message : String
  cause : Option Fault
  deriving Repr

abbrev Journal := List Entry

namespace Entry

def debug (logger message : String) : Entry := ⟨.debug, logger, message, none⟩

def info (logger message : String) : Entry := ⟨.info, logger, message, none⟩

def warning (logger message : String) : Entry := ⟨.warning, logger, message, none⟩

def error (logger message : String) : Entry := ⟨.error, logger, message, none⟩

/-- The details of a report, each as `name=value` with a blank before it; null details are left
out. -/
def detailsText (details : Fields Json) : String :=
  let shown := (details.filter fun (_, value) => value != .null).map fun (name, value) =>
    s!" {name}={value.display}"
  String.join shown

def report (logger heading : String) (details : Fields Json) (fault : Fault) : Entry :=
  ⟨.error, logger, s!"{heading}{detailsText details}: {fault.message}", some fault⟩

/-- Reports that something failed while `active`, if anything, was being handled. -/
def reportActive (logger heading : String) (details : Fields Json) (active : Option Fault) :
    Entry :=
  ⟨.error, logger, s!"{heading}{detailsText details}", active⟩

end Entry

def Journal.visible (threshold : Nat) (journal : Journal) : Journal :=
  journal.filter (threshold ≤ ·.severity.rank)

def thresholds : List (String × Nat) :=
  [("CRITICAL", 50), ("FATAL", 50), ("ERROR", 40), ("WARN", 30), ("WARNING", 30), ("INFO", 20),
    ("DEBUG", 10), ("NOTSET", 0)]

def thresholdOf (name : String) : Nat := (thresholds.lookup (Text.upper name)).getD 20

end EventDigest
