import EventDigest.Publisher

/-! # The console publisher -/
set_option autoImplicit false
namespace EventDigest.Publisher

def logger : String := "publishers"

def console {β : Type} : Publisher β :=
  .untargeted "ConsolePublisher" fun ctx notification config => do
    let body ← Task.ofExcept (renderBody notification config)
    Task.log (.info logger
      s!"Console notification ({ctx.text}) title={notification.title}\n{body}")

end EventDigest.Publisher
