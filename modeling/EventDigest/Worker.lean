import EventDigest.CommandLine
import EventDigest.Run

/-! # The worker

Runs one rule or every enabled rule once and reports through the journal. A rule that cannot be run
does not keep the others from running.
-/
set_option autoImplicit false
namespace EventDigest.Worker
open Time
variable {β : Type}

def logger : String := "worker"

def runEach (executor : Executor β) : List String → StateM (World β) Unit
  | [] => pure ()
  | id :: rest => do
    executor.runScheduled (some id)
    runEach executor rest

def runAll (executor : Executor β) : Run β Nat := do
  let rules ← Run.query (·.listRules true)
  Run.log (.info logger s!"Running {rules.length} enabled scheduled notification rule(s)")
  let ids := rules.map (·.id)
  modify fun world => ((runEach executor ids).run world).2
  return ids.length

def work (executor : Executor β) (rule : Option String) : Run β Unit := do
  match rule.filter (· ≠ "") with
  | some id => modify fun world => ((executor.runScheduled (some id)).run world).2
  | none => let _ ← runAll executor

/-- Carries out a command line; yields the exit status. -/
def command (registry : Registry β) (settings : Settings) (zones : Zones) (words : List String) :
    Run β Nat := do
  match CommandLine.read words with
  | .help => return 0
  | .misuse => return 2
  | .rule id =>
    work (← Run.ofExcept (Executor.ofSettings registry settings zones none)) (some id)
    return 0
  | .all =>
    work (← Run.ofExcept (Executor.ofSettings registry settings zones none)) none
    return 0

end EventDigest.Worker
