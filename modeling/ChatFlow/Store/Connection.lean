import ChatFlow.Store.SessionAccess
import ChatFlow.Interpreter

/-!
Connecting to the store when the service starts, and letting go of it when it stops.

The client is made once, on the first use, and only inside the service's loop. At the start the indexes
are ensured that the service relies on: one session for a conversation, removal of expired sessions, and
the look-ups of flows and versions. A failure to ensure them is logged and does not stop the service.
-/

namespace ChatFlow.Connection

/-! ## Where the store is -/

/-- Where the store is and who asks for it. -/
structure Address where
  username : String
  password : String
  host : String
  port : Int
  authSource : String
  databaseName : String
deriving Repr

namespace Address

/-- The address of the store on this machine. -/
def standard : Address := ⟨"", "", "localhost", 27017, "admin", "flow_db"⟩

/-- The address as a URI. Credentials are only used if both parts are there. -/
def uri (a : Address) : String :=
  let place := a.host ++ ":" ++ toString a.port ++ "/"
  if a.username.isEmpty || a.password.isEmpty then "mongodb://" ++ place
  else
    "mongodb://" ++ a.username ++ ":" ++ a.password ++ "@" ++ place ++ "?authSource=" ++ a.authSource

end Address

/-- The options of the client; times are in milliseconds. -/
def options : Entries :=
  [("maxPoolSize", .int 50),
    ("minPoolSize", .int 0),
    ("maxIdleTimeMS", .int 30000),
    ("waitQueueTimeoutMS", .int 10000),
    ("connectTimeoutMS", .int 10000),
    ("serverSelectionTimeoutMS", .int 10000),
    ("socketTimeoutMS", .int 10000),
    ("retryWrites", .bool true),
    ("retryReads", .bool true)]

/-! ## Indexes -/

/-- The direction of an index. -/
inductive Direction where
  | ascending
  | descending
deriving Repr, DecidableEq

/-- The number that stands for a direction. -/
def Direction.number : Direction → Int
  | .ascending => 1
  | .descending => -1

/-- An index of a collection. -/
structure Index where
  collection : Collection
  keys : List (String × Direction)
  options : Entries
deriving Repr

/-- The indexes that the service relies on. -/
def indexes : List Index :=
  [⟨.sessions, [("conversation_id", .ascending)], [("unique", .bool true)]⟩,
    ⟨.sessions, [("expires_at", .ascending)], [("expireAfterSeconds", .int 0)]⟩,
    ⟨.flows, [("workspace_id", .ascending), ("bot_id", .ascending), ("status", .ascending),
      ("is_published", .ascending)], []⟩,
    ⟨.versions, [("flow_id", .ascending), ("version", .descending)], []⟩]

/-! ## Starting and stopping -/

/-- What the store was asked for. -/
inductive SetupCall where
  | connect (uri : String)
  | database (name : String)
  | index (i : Index)
deriving Repr

/-- The service while it starts and stops. -/
structure State where
  address : Address
  /-- The service's loop is running. -/
  inLoop : Bool
  world : World
  calls : List SetupCall
deriving Repr

/-- An activity at the start or the stop of the service. -/
abbrev Setup := ExceptT Failure (StateM State)

/-- Does an operation on the world. -/
def onWorld {α : Type} (x : Operation α) : Setup α :=
  ExceptT.mk fun s =>
    let (a, world) := x.run s.world
    (a, { s with world })

/-- Notes what the store was asked for. -/
def note (call : SetupCall) : Setup Unit :=
  modify fun s => { s with calls := s.calls ++ [call] }

/-- The number of clients. -/
def State.clients (s : State) : Nat :=
  if s.world.connected then 1 else 0

/-- Makes sure that there is a client. -/
def client : Setup Unit := do
  let s ← get
  if !s.inLoop then throw .noLoop
  if !s.world.connected then
    onWorld Operation.connect
    note (.connect s.address.uri)
    note (.database s.address.databaseName)

/-- Ensures one index. -/
def ensureIndex (i : Index) : Setup Unit := do
  let _ ← onWorld (Operation.disturb .createIndex (some i.collection))
  note (.index i)

/-- Ensures the indexes, one after another. -/
def ensureIndexes : Setup Unit := do
  client
  let all : Setup Unit := indexes.forM ensureIndex
  match ← (ExceptT.lift all.run : Setup _) with
  | .ok () => return ()
  | .error cause =>
    onWorld (World.reportError Operation.storeComponent)
    throw (Operation.storageFailure cause)

/-- Does an activity of the start in a world that runs already, the store being at the standard
address. -/
def whileRunning {α : Type} (x : Setup α) : Operation α :=
  ExceptT.mk fun world =>
    let (a, s) := x.run ⟨.standard, true, world, []⟩
    (a, s.world)

/-- Lets go of the client; a failure to close it is logged. -/
def close : Setup Unit := do
  if (← get).world.connected then
    onWorld do
      match ← Operation.attempt (Operation.disturb .close none) with
      | .ok _ => pure ()
      | .error _ => World.warn Operation.storeComponent
    modify fun s => { s with world := { s.world with connected := false } }

/-- Starts the service and stops it again. -/
def lifespan : Setup Unit := do
  match ← (ExceptT.lift ensureIndexes.run : Setup _) with
  | .ok () => pure ()
  | .error f =>
    if !Keeping.isStorage f then throw f
    onWorld (World.reportError Interpreter.component)
  close

end ChatFlow.Connection
