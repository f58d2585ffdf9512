import EventDigest.Run

/-! # Starting the service

Creating the tables and the publishers that every installation is given. A service does not start
without its tables, but it starts without its publishers.
-/
set_option autoImplicit false
namespace EventDigest.Startup
variable {β : Type}

def createTables : Run β Unit := do
  let store ← Run.query Store.create
  modify fun world => { world with store }

def seedPublishers : Run β Nat := do
  let (store, created) ← Run.query Store.seed
  modify fun world => { world with store }
  Run.logAll (Store.seedJournal created)
  return created

def logger : String := "startup"

def start (settings : Settings) : Run β Unit := do
  if settings.createsTables then
    try createTables
    catch fault =>
      Run.log (.report logger "DB create_all failed" [] fault)
      throw fault
  if settings.seedsPublishers then
    try let _ ← seedPublishers
    catch fault => Run.log (.report logger "Seed publishers failed" [] fault)

def prepare : Run β Unit := do
  createTables
  let _ ← seedPublishers
  Run.log (.info "scripts.create_db" "Database tables created/verified.")

end EventDigest.Startup
