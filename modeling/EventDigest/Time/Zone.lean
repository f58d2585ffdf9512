import EventDigest.Text.Blank
import EventDigest.Text.Split
import EventDigest.Time.Instant

/-! # Display zones

The zones in which the start of a window can be shown to a reader. Which zones there are, under
which names, and which of them is the local one is up to the system.
-/
set_option autoImplicit false
namespace EventDigest.Time

/-- A zone says how many microseconds it is ahead of universal time at an instant. -/
structure Zone where
  offset : Instant → Int

inductive ZoneFault
  | unknown (name : String)
  | absolute (name : String)
  | notNormal (name : String)
  | outside (name : String)
  deriving DecidableEq, Repr

namespace Zone

def fixed (minutes : Int) : Zone := ⟨fun _ => minutes * microsPerMinute⟩

def universal : Zone := fixed 0

def wall (zone : Zone) (t : Instant) : Except OutOfSpan Instant := t.shift (zone.offset t)

end Zone

/-- The zones of a system: those that it knows by name, and the local one. -/
structure Zones where
  named? : String → Option Zone
  home : Zone

namespace Zones

/-- A system that knows universal time alone. -/
def universal : Zones := ⟨fun name => if name = "UTC" then some .universal else none, .universal⟩

/-- A path without empty segments, current segments, or a parent segment behind a named one. -/
def isNormalPath : List String → Bool
  | [] => true
  | ".." :: rest => isNormalPath rest
  | rest => !(rest.contains "" || rest.contains "." || rest.contains "..")

/-- Zone names are normal relative paths that stay below the directory of zones. -/
def find (zones : Zones) (name : String) : Except ZoneFault Zone :=
  let segments := Text.splitAt '/' name
  if Text.startsWith "/" name then .error (.absolute name)
  else if name ≠ "." && !isNormalPath segments then .error (.notNormal name)
  else if name = "." || segments.head? = some ".." then .error (.outside name)
  else match zones.named? name with
    | some zone => .ok zone
    | none => .error (.unknown name)

/-- The zone of a setting, or the local one where the setting is absent or blank. -/
def ofSetting (zones : Zones) (setting : Option String) : Except ZoneFault Zone :=
  let name := Text.trim (setting.getD "")
  if name = "" then .ok zones.home else zones.find name

end Zones

/-- Date and time of an instant on the wall clock of a zone, to the second. The year has no leading
zeros. -/
def localText (zone : Zone) (t : Instant) : Except OutOfSpan String := do
  let wall ← zone.wall t
  return String.ofList (dayChars 1 wall.date ++ 'T' :: clockChars wall)

end EventDigest.Time
