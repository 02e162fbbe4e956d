import ChatFlow.Flow.Library
import ChatFlow.Store.SessionAccess

/-!
Keeping contexts from one turn to the next.

A context is made fresh from a definition, saved as the session of its conversation, and loaded from
there. Saving is conditional: a context that was never stored is inserted, every other one is written
only if the session still has the sequence number that the context was loaded with. A session that
cannot be used any more is removed when it is met.
-/

namespace ChatFlow

open ChatFlow.Flow (Definition)

namespace Context

/-- A fresh context at the start node of a definition; both parts of the definition need an id. -/
def create? (now : Moment) (d : Definition) (conversationId : String) (contact : Option Contact) :
    Except Failure Context :=
  let identified (field : String) (id : Option String) : Schema.Checked String :=
    match id with
    | some s => .valid s
    | none => .invalid [⟨[.name field], .notText⟩]
  let ids := Prod.mk <$> identified "flow_id" d.flow.id <*> identified "version_id" d.version.id
  (ids.toExcept title).map fun (flowId, versionId) =>
    { flowId, versionId, conversationId
      workspaceId := d.flow.workspaceId
      botId := d.flow.botId
      contact := contact.getD .unknown
      vars := d.firstValues
      history := []
      currentNodeId := (d.startNode?.map (·.id)).getD ""
      startedAt := now
      lastActivityAt := now
      sequence := 0 }

/-- The context that a session holds, given its messages. -/
def ofSession (s : Session) (history : List Message) : Context where
  flowId := s.flowId
  versionId := s.versionId
  conversationId := s.conversationId
  workspaceId := s.workspaceId
  botId := s.botId
  contact := ⟨s.contactId, s.contactName, s.contactEmail⟩
  vars := s.vars
  history := history
  currentNodeId := s.currentNodeId
  startedAt := s.startedAt
  lastActivityAt := s.lastActivityAt
  sequence := s.sequence

/-- The history as it is stored. -/
def storedHistory (c : Context) : List Entries :=
  c.history.map Message.toEntries

/-- The session that a context is first stored as. -/
def firstSession (c : Context) (now expiresAt : Moment) : Session where
  id := none
  conversationId := c.conversationId
  workspaceId := c.workspaceId
  botId := c.botId
  flowId := c.flowId
  versionId := c.versionId
  currentNodeId := c.currentNodeId
  vars := c.vars
  history := c.storedHistory
  contactId := c.contact.id
  contactName := c.contact.name
  contactEmail := c.contact.email
  status := Session.active
  sequence := 1
  startedAt := c.startedAt
  lastActivityAt := now
  expiresAt := expiresAt

/-- The fields of the session that a further save writes. -/
def savedFields (c : Context) (now expiresAt : Moment) : Entries :=
  [("current_node_id", .text c.currentNodeId),
    ("variables", .dict c.vars),
    ("message_history", .list (c.storedHistory.map .dict)),
    ("status", .text Session.active),
    ("last_activity_at", .date now),
    ("expires_at", .date expiresAt)]

end Context

namespace Keeping

/-- The component name of keeping in the log. -/
def component : String := "FlowContextService"

/-- The failure of the store itself, as opposed to everything else that can go wrong. -/
def isStorage : Failure → Bool
  | .storage _ _ => true
  | _ => false

/-! ## Loading -/

/-- Reads messages one after another; the first that does not fit gives the failure. -/
def readHistory? (now : Moment) : List Entries → Except Failure (List Message)
  | [] => .ok []
  | m :: rest =>
    match (Message.read now (.dict m)).toExcept Message.title with
    | .error f => .error f
    | .ok m => (readHistory? now rest).map (m :: ·)

/-- Reads a session and its messages from a document. -/
def readSession? (now : Moment) (doc : Entries) : Except Failure (Session × List Message) :=
  match (Session.read now (.dict doc)).toExcept Session.title with
  | .error f => .error f
  | .ok s => (readHistory? now s.history).map fun history => (s, history)

/-- The session may be resumed: it is active and not expired. An expiry without a place in the order of
the clock is a fault. -/
def isResumable? (now : Moment) (s : Session) : Except Failure Bool :=
  if s.status != Session.active then .ok false
  else
    match s.expiresAt.compare? now with
    | some .gt => .ok true
    | some _ => .ok false
    | none => .error .unordered

/-- Removes a session that cannot be used; a failure of the store is logged. -/
def discard (conversationId : String) : Operation Unit := do
  match ← Operation.attempt (Operation.deleteSession conversationId) with
  | .ok () => return ()
  | .error f =>
    if !isStorage f then throw f
    World.warn component

/-- The context of a conversation, if there is a usable session. -/
def load (conversationId : String) : Operation (Option Context) := do
  match ← Operation.attempt (Operation.getSession conversationId) with
  | .error f =>
    if !isStorage f then throw f
    World.reportError component
    return none
  | .ok none => return none
  | .ok (some doc) =>
    match readSession? (← Operation.now) doc with
    | .error _ =>
      World.reportError component
      discard conversationId
      return none
    | .ok (session, history) =>
      if ← Operation.ofExcept (isResumable? (← Operation.now) session) then
        return some (.ofSession session history)
      discard conversationId
      return none

/-! ## Saving -/

/-- The time at which a context saved now expires. -/
def expiry? (now : Moment) (hours : Int) : Except Failure Moment :=
  let days := hours.fdiv 24
  if days.natAbs > 999999999 then .error (.spanTooLong days)
  else
    match now.shift? (hours * 3600 * Moment.perSecond) with
    | some m => .ok m
    | none => .error .outsideCalendar

/-- Writes a context; gives its new sequence number. Somebody else's write in between is a conflict. -/
def store (c : Context) (now expiresAt : Moment) : Operation Int := do
  if c.sequence == 0 then
    if ← Operation.insertSession (c.firstSession now expiresAt) then return 1
    throw (.conflict c.conversationId 0)
  match ← Operation.updateSession c.conversationId c.sequence (c.savedFields now expiresAt) with
  | some sequence => return sequence
  | none => throw (.conflict c.conversationId c.sequence)

/-- Saves a context: true, or false if the store failed. The context comes back with the time of the
save and, if it was saved, its new sequence number. -/
def save (hours : Int) (c : Context) : StateM World (Except Failure Bool × Context) := do
  let now := (← get).now
  match expiry? now hours with
  | .error f => return (.error f, c)
  | .ok expiresAt =>
    let c := { c with lastActivityAt := now }
    match ← (store c now expiresAt).run with
    | .ok sequence => return (.ok true, { c with sequence })
    | .error f =>
      if !isStorage f then return (.error f, c)
      World.reportError component
      return (.ok false, c)

/-! ## Clearing -/

/-- Marks the session of a conversation as completed and then removes it. A failure of the store is
logged and ends the attempt. -/
def clear (conversationId : String) : Operation Unit := do
  let writes : Operation Unit := do
    Operation.completeSession conversationId
    Operation.deleteSession conversationId
  match ← Operation.attempt writes with
  | .ok () => return ()
  | .error f =>
    if !isStorage f then throw f
    World.reportError component

end Keeping

end ChatFlow
