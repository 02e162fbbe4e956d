import ChatFlow.Behavior.Basic
import ChatFlow.External.Leads
import ChatFlow.Flow.NodeSettings
import ChatFlow.Json.Writer
import ChatFlow.Template
import ChatFlow.Value.Number

/-!
Action nodes.

The actions of a node run in order. Each either fails, and then leaves no trace but a log line, or
writes variables; later actions see what earlier ones wrote under `tags`. `Progress` holds the
variables written so far. A key that is no text can be written, but makes the whole outcome unfit.
-/

namespace ChatFlow.Behavior

open ChatFlow.Flow (Node Action)

namespace Act

/-- The component name of actions in the log. -/
def component : String := "ActionNodeExecutor"

/-! ## Written variables -/

/-- What the actions of a node have written so far. -/
structure Progress where
  vars : Entries
  /-- Keys that are no texts. -/
  strayKeys : List Value
deriving Repr

/-- The number that a key is, when it is compared with other keys. -/
def keyNumber? : Value → Option Value
  | .bool b => some (.int (if b then 1 else 0))
  | .int n => some (.int n)
  | .float x =>
    match Decimal.whole? x with
    | some n => some (.int n)
    | none => some (.float x)
  | _ => none

/-- The two values are one key. Numbers of all sorts are compared by their values. -/
def isSameKey (a b : Value) : Bool :=
  match keyNumber? a, keyNumber? b with
  | some (.int m), some (.int n) => m == n
  | some (.float x), some (.float y) => x == y
  | _, _ =>
    match a, b with
    | .date m, .date n => m.compare? n == some .eq
    | .recordId h, .recordId k => h == k
    | _, _ => false

namespace Progress

/-- Nothing is written yet. -/
def start : Progress := ⟨[], []⟩

/-- Writes a variable. -/
def set (p : Progress) (key : String) (value : Value) : Progress :=
  { p with vars := Entries.insert key value p.vars }

/-- Writes under a key of any sort; lists and dictionaries cannot be keys. -/
def setKey? (p : Progress) (key value : Value) : Except Failure Progress :=
  match key with
  | .text s => .ok (p.set s value)
  | .list _ | .dict _ => .error (.unhashable key.sortName)
  | k => .ok (if p.strayKeys.any (isSameKey k) then p else { p with strayKeys := p.strayKeys ++ [k] })

end Progress

/-- How a report names a key that is no text. -/
def keyPlace : Value → Schema.Place
  | .bool b => .index (if b then 1 else 0)
  | .int n => if (Int64.ofInt n).toInt == n then .index n else .name (toString n)
  | v => .name v.inspect

/-- The variables written, if every key is a text. -/
def Progress.finish? (p : Progress) : Except Failure Entries :=
  if p.strayKeys.isEmpty then .ok p.vars
  else
    .error (.invalid ⟨Outcome.title, p.strayKeys.map fun k =>
      ⟨[.name "variables", keyPlace k, .name "[key]"], .notText⟩⟩)

/-! ## The sorts of action -/

/-- The sorts of action. -/
inductive Kind where
  | setVariable
  | createLead
  | triggerWebhook
  | sendEmail
  | addTag
  | updateContact
  | scheduleAppointment
deriving Repr, DecidableEq

namespace Kind

/-- The word for a sort of action. -/
def word : Kind → String
  | setVariable => "set_variable"
  | createLead => "create_lead"
  | triggerWebhook => "trigger_webhook"
  | sendEmail => "send_email"
  | addTag => "add_tag"
  | updateContact => "update_contact"
  | scheduleAppointment => "schedule_appointment"

/-- All sorts of action. -/
def all : List Kind :=
  [setVariable, createLead, triggerWebhook, sendEmail, addTag, updateContact, scheduleAppointment]

/-- The sort named by a word. -/
def ofWord? (w : String) : Option Kind :=
  all.find? fun k => k.word == w

end Kind

/-- Sets a variable, if it has a name, to a text with its places filled. -/
def setNamed? (context : Context) (action : Action) (done : Progress) : Except Failure Progress :=
  let name := action.setting "name"
  if !name.isPresent then .ok done
  else do
    let template ← ((action.setting "value").orElse (.text "")).display?
    let text ← Template.fillValue? context.scope (.text template)
    done.setKey? name (.text text)

/-- The lead that an action describes; what is known of the contact comes first. -/
def leadOf (context : Context) (action : Action) : Lead where
  workspaceId := .text context.workspaceId
  botId := .text context.botId
  name := ((Value.ofText? context.contact.name).orElse (action.setting "name")).orElse (.text "Unknown")
  email := (Value.ofText? context.contact.email).orElse (action.setting "email")
  phone := action.setting "phone"
  metadata := .dict [("flow_id", .text context.flowId),
    ("conversation_id", .text context.conversationId), ("variables", context.scope)]

/-- Creates a lead and writes its id. -/
def createLead (leads : LeadService) (context : Context) (action : Action) (done : Progress) :
    Service Progress := do
  match ← leads.create (leadOf context action) with
  | some id =>
    return if id.isEmpty then done
      else (done.set "lead_created" (.bool true)).set "lead_id" (.text id)
  | none => return done

/-- The entries of a dictionary; nothing if the value counts as absent. -/
def mappingIfPresent? (v : Value) : Except Failure Entries :=
  if !v.isPresent then .ok []
  else
    match v with
    | .dict entries => .ok entries
    | _ => .error (.notMapping v.sortName)

/-- What a webhook is told, before the author's own entries. -/
def standardPayload (now : Moment) (context : Context) : Entries :=
  [("event", .text "flow.action"),
    ("timestamp", .text now.isoText),
    ("flow_id", .text context.flowId),
    ("conversation_id", .text context.conversationId),
    ("workspace_id", .text context.workspaceId),
    ("bot_id", .text context.botId),
    ("contact", context.contact.toValue),
    ("variables", context.scope)]

/-- The request to a webhook. The author's entries are written over the standard ones. -/
def webhookCall? (now : Moment) (timeout : Quantity) (context : Context) (action : Action) :
    Except Failure HttpCall := do
  let payload ← mappingIfPresent? (action.setting "payload")
  let headers ← mappingIfPresent? (action.setting "headers")
  let content ← Json.lenientText? (.dict (Entries.update (standardPayload now context) payload))
  return {
    method := (action.setting "method").orElse (.text "POST")
    url := action.setting "url"
    timeout := timeout
    headers := Entries.update [("Content-Type", .text "application/json")] headers
    payload := .content content }

/-- Calls a webhook. Without an address there is no call, only a warning. -/
def triggerWebhook (timeout : Quantity) (context : Context) (action : Action) (done : Progress) :
    Service Progress := do
  let url := action.setting "url"
  if url.isPresent then
    let call ← Service.ofExcept (webhookCall? (← Service.now) timeout context action)
    let (status, _) ← Service.send call
    let _ ← Service.ofExcept url.display?
    if !isSuccessStatus status then Service.warn component
  else
    Service.warn component
  return done.set "webhook_triggered" (.bool true)

/-- Queues an email to the given address, else to the contact's. -/
def sendEmail (context : Context) (action : Action) (done : Progress) : Service Progress := do
  let address := (action.setting "to").orElse (.ofText? context.contact.email)
  if !address.isPresent then
    Service.warn component
    return done
  let _ ← Service.ofExcept (Template.fillValue? context.scope (action.setting "subject"))
  let _ ← Service.ofExcept address.display?
  let _ ← Service.ofExcept (action.setting "template").display?
  return done.set "email_sent" (.bool true)

/-- Adds a tag to the tags written so far, or else to those of the context. -/
def addTag? (context : Context) (action : Action) (done : Progress) : Except Failure Progress := do
  let tags := (done.vars.lookup "tags").getD (Entries.getD context.vars "tags")
  let tags ← tags.elementsIfPresent?
  return done.set "tags" (.list (tags ++ [action.setting "tag"]))

/-- Where actions reach other services. -/
structure Reach where
  leads : LeadService
  webhookTimeout : Quantity
deriving Repr

/-- Runs one action. -/
def perform (reach : Reach) (context : Context) (action : Action) (done : Progress) :
    Service Progress :=
  match Kind.ofWord? action.kind with
  | some .setVariable => Service.ofExcept (setNamed? context action done)
  | some .createLead => createLead reach.leads context action done
  | some .triggerWebhook => triggerWebhook reach.webhookTimeout context action done
  | some .sendEmail => sendEmail context action done
  | some .addTag => Service.ofExcept (addTag? context action done)
  | some .updateContact => return done.set "contact_updated" (.bool true)
  | some .scheduleAppointment => return done.set "appointment_scheduled" (.bool true)
  | none => do
    Service.warn component
    return done

/-- Reads an action and runs it; one that does not fit or fails is logged and changes nothing. -/
def tryOne (reach : Reach) (context : Context) (done : Progress) (v : Value) :
    StateM Outside Progress := do
  match (Action.read v).toExcept Action.title with
  | .error _ =>
    Service.reportError component
    return done
  | .ok action =>
    match ← (perform reach context action done).run with
    | .ok done => return done
    | .error _ =>
      Service.reportError component
      return done

/-- Runs actions one after another. -/
def runAll (reach : Reach) (context : Context) (actions : List Value) : StateM Outside Progress :=
  actions.foldlM (tryOne reach context) Progress.start

end Act

open Act

/-- An action node runs its actions. -/
def act (reach : Reach) : Behavior := fun node context _ => do
  let actions ← Service.ofExcept (node.setting "actions").elementsIfPresent?
  let done ← runAll reach context actions
  return .setting (← Service.ofExcept done.finish?)

end ChatFlow.Behavior
