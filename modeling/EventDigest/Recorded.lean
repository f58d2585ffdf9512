import EventDigest.Digest

/-! # Events held in a list

A source over a list of events in a fixed order, with totals given per project. A source that is
not selective answers with all events of a project, whatever the window.
-/
set_option autoImplicit false
namespace EventDigest

def EventSource.recorded {ε : Type} (events : List Event) (totals : Fields Counts)
    (selective : Bool) : EventSource ε where
  since project _ includeSuppressed since :=
    .ok (events.filter fun e =>
      e.project = project.id && (!selective ||
        (since.micros < e.occurredAt.micros && (includeSuppressed || !e.suppressed))))
  totals project _ := .ok ((Fields.get? totals project.id).getD [])

def EventSource.uncounted {ε : Type} (source : EventSource ε) (fault : ε) : EventSource ε :=
  { source with totals := fun _ _ => .error fault }

def EventSource.failing {ε : Type} (fault : ε) : EventSource ε where
  since _ _ _ _ := .error fault
  totals _ _ := .error fault

end EventDigest
