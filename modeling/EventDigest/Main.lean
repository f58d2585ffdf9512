import EventDigest.Publisher.Rehearsal
import EventDigest.Worker

/-! # The worker as a program

Runs the worker over a store in memory, whose publishers reach nothing outside, and prints the
journal.
-/
set_option autoImplicit false
namespace EventDigest.Main
open Time

def disconnected : Transport Unit where
  post _ outside := (.error (.outside .connection "no network"), outside)
  mail _ outside := (.error (.outside .system "no network"), outside)

def start : Stamp := ⟨Instant.first, some 0⟩

def world : World Unit where
  store := { Store.empty with created := true }
  clock := Clock.ticking start 0
  desk := ⟨[], [], ()⟩

def usage : String := "usage: worker [-h] (--rule-id RULE_ID | --all)"

def entryText (entry : Entry) : String :=
  s!"[{entry.severity.name}] {entry.logger}: {entry.message}"

end EventDigest.Main

open EventDigest in
def main (words : List String) : IO UInt32 := do
  match CommandLine.read words with
  | .help => IO.println Main.usage
  | .misuse => IO.eprintln Main.usage
  | _ => pure ()
  let registry := Registry.standard Main.disconnected
  let command := Worker.command registry Settings.standard .universal words
  let (status, world) := command.run.run Main.world
  for entry in world.desk.journal do
    IO.eprintln (Main.entryText entry)
  match status with
  | .ok status => return status.toUInt32
  | .error fault =>
    IO.eprintln fault.message
    return 1
