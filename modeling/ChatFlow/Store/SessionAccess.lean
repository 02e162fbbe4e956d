import ChatFlow.Conversation.Session
import ChatFlow.Store.FlowAccess

/-!
Sessions in the store.

There is at most one session for a conversation. An update names the sequence number that it expects
and changes nothing unless the stored session has it. Here a failure of the store is passed on, with
the status that a request is to be answered with.
-/

namespace ChatFlow

namespace Store

/-- Selects the session of a conversation. -/
def sessionOf (conversationId : String) : Entries :=
  [("conversation_id", .text conversationId)]

/-- The session of a conversation. -/
def session? (s : Store) (conversationId : String) : Option Entries :=
  s.sessions.find? (sessionOf conversationId)

/-- Adds a session, unless its conversation has one. -/
def insertSession (session : Session) (s : Store) : Except Failure (Bool × Store) :=
  if (s.session? session.conversationId).isSome then .ok (false, s)
  else
    let doc := ("_id", .text session.conversationId) :: session.toEntries
    .ok (true, s.change .sessions (· ++ [doc]))

/-- Selects the session of a conversation with a sequence number. -/
def sessionAt (conversationId : String) (sequence : Int) : Entries :=
  [("conversation_id", .text conversationId), ("sequence", .int sequence)]

/-- The document with the fields written over it and the next sequence number. -/
def advanced (fields doc : Entries) : Entries :=
  let doc := Entries.update doc fields
  (doc.increment? "sequence" 1).getD doc

/-- Updates the session of a conversation if it has the expected sequence number; gives the document
that results. -/
def updateSession (conversationId : String) (expected : Int) (fields : Entries) (s : Store) :
    Except Failure (Option Entries × Store) :=
  match s.sessions.find? (sessionAt conversationId expected) with
  | none => .ok (none, s)
  | some doc =>
    .ok (some (advanced fields doc),
      s.change .sessions (Documents.modifyFirst (sessionAt conversationId expected) (advanced fields)))

/-- Marks the session of a conversation as completed. -/
def completeSession (now : Moment) (conversationId : String) (s : Store) :
    Except Failure (Unit × Store) :=
  let changes := [("status", .text Session.completed), ("last_activity_at", .date now)]
  .ok ((), s.change .sessions
    (Documents.modifyFirst (sessionOf conversationId) (Entries.update · changes)))

/-- Removes the session of a conversation. -/
def deleteSession (conversationId : String) (s : Store) : Except Failure (Unit × Store) :=
  .ok ((), s.change .sessions (Documents.removeFirst (sessionOf conversationId)))

end Store

namespace Operation

/-- The names of failures of the connection to the store. -/
def connectionFailures : List String :=
  ["NetworkTimeout", "ServerSelectionTimeoutError", "ConnectionFailure", "AutoReconnect"]

/-- The failure of the store as it is passed on. -/
def storageFailure (cause : Failure) : Failure :=
  if connectionFailures.contains cause.name then
    .storage ("Database connection error: " ++ cause.text) 503
  else .storage ("Database error: " ++ cause.text) 500

/-- Does an operation; a failure is logged and passed on as a failure of the store. -/
def orStorageFailure {α : Type} (x : Operation α) : Operation α := do
  match ← attempt x with
  | .ok a => return a
  | .error cause =>
    World.reportError storeComponent
    throw (storageFailure cause)

/-- The document of a conversation's session, with the text of its record id. -/
def getSession (conversationId : String) : Operation (Option Entries) := do
  connect
  orStorageFailure do
    match ← read .findOne .sessions none (·.session? conversationId) with
    | none => return none
    | some doc => return some (← ofExcept doc.withIdText?)

/-- The failure of a second document with one key. -/
def isDuplicate (cause : Failure) : Bool :=
  cause.name == "DuplicateKeyError"

/-- Adds a session; false if its conversation has one. Adding does not search, so nothing can make it
miss. -/
def insertSession (session : Session) : Operation Bool := do
  connect
  let insert : Operation Bool := do
    let _ ← disturb .insertOne (some .sessions)
    let (inserted, store) ← ofExcept (Store.insertSession session (← get).store)
    modify fun w => { w with store }
    return inserted
  match ← attempt insert with
  | .ok inserted => return inserted
  | .error cause =>
    if isDuplicate cause then return false
    World.reportError storeComponent
    throw (storageFailure cause)

/-- The sequence number of a document that was found by it. -/
def sequenceOf (doc : Entries) : Int :=
  match doc.getD "sequence" with
  | .int n => n
  | .float x => (Decimal.whole? x).getD 0
  | _ => 0

/-- Updates a session if it has the expected sequence number; gives the new number. -/
def updateSession (conversationId : String) (expected : Int) (fields : Entries) :
    Operation (Option Int) := do
  connect
  orStorageFailure do
    let doc? ← write .findOneAndUpdate .sessions none
      (Store.updateSession conversationId expected fields)
    return doc?.map sequenceOf

/-- Marks a session as completed. -/
def completeSession (conversationId : String) : Operation Unit := do
  connect
  orStorageFailure do
    write .updateOne .sessions () (Store.completeSession (← now) conversationId)

/-- Removes a session. -/
def deleteSession (conversationId : String) : Operation Unit := do
  connect
  orStorageFailure do
    write .deleteOne .sessions () (Store.deleteSession conversationId)

end Operation

end ChatFlow
