import ChatFlow.World
import ChatFlow.Value.Display

/-!
Flows and their versions in the store.

Reading never fails once there is a client: what goes wrong is logged, and the record counts as absent.
A finished run is counted on the flow's own document.
-/

namespace ChatFlow

namespace Store

/-! ## Accesses -/

/-- The document of a flow. -/
def flow? (s : Store) (id : String) : Option Entries :=
  s.flows.find? [("_id", .ofId id)]

/-- The documents of the active and published flows of a bot. -/
def activeFlows (s : Store) (workspaceId botId : String) : Documents :=
  s.flows.filter fun doc => doc.holdsAll [
    ("workspace_id", .text workspaceId), ("bot_id", .text botId),
    ("status", .text "active"), ("is_published", .bool true)]

/-- The document of a version. -/
def version? (s : Store) (id : String) : Option Entries :=
  s.versions.find? [("_id", .ofId id)]

/-- The order of values in which the highest version is sought: absent and null lowest, then truth
values, numbers and texts. -/
def isAbove (a b : Value) : Bool :=
  let rank : Value → Nat
    | .null => 0
    | .int _ | .float _ => 1
    | .text _ => 2
    | .dict _ => 3
    | .list _ => 4
    | .recordId _ => 5
    | .bool _ => 6
    | .date _ => 7
  match a, b with
  | .int m, .int n => m > n
  | .int m, .float y => decide (y < Float.ofInt m)
  | .float x, .int n => decide (Float.ofInt n < x)
  | .float x, .float y => decide (y < x)
  | .text s, .text t => decide (t < s)
  | .bool b, .bool c => b && !c
  | .date m, .date n => m.universal > n.universal
  | a, b => rank a > rank b

/-- The first of the documents with the highest version. -/
def highest : Documents → Option Entries
  | [] => none
  | doc :: rest =>
    match highest rest with
    | none => some doc
    | some best =>
      if isAbove (best.getD "version") (doc.getD "version") then some best else some doc

/-- The document of the highest version of a flow. -/
def latestVersion? (s : Store) (flowId : String) : Option Entries :=
  highest (s.versions.filter fun doc => doc.holds "flow_id" (.text flowId))

/-- The document of a flow after one more run. -/
def countedRun? (now : Moment) (success : Bool) (doc : Entries) : Except Failure Entries :=
  let counted := (doc.increment? "total_runs" 1).bind fun doc =>
    doc.increment? "successful_runs" (if success then 1 else 0)
  match counted with
  | some doc => .ok (Entries.insert "updated_at" (.date now) doc)
  | none => .error (.foreign "WriteError" "Cannot apply $inc to a value of non-numeric type")

/-- Counts a run of a flow; false if there is no such flow. -/
def countRun (now : Moment) (id : String) (success : Bool) (s : Store) :
    Except Failure (Bool × Store) :=
  match s.flow? id with
  | none => .ok (false, s)
  | some doc =>
    match countedRun? now success doc with
    | .error f => .error f
    | .ok doc => .ok (true, s.change .flows (Documents.modifyFirst [("_id", .ofId id)] fun _ => doc))

end Store

/-- The document with the text of its record id under `id`, as a record is read. -/
def Entries.withIdText? (doc : Entries) : Except Failure Entries :=
  match doc.lookup "_id" with
  | none => .error (.foreign "KeyError" "_id")
  | some id => id.display?.map fun s =>
    Entries.insert "id" (.text s) (doc.filter fun (k, _) => k != "_id")

namespace Operation

/-- The component name of the store in the log. -/
def storeComponent : String := "FlowDB"

/-- Does an operation; a failure is logged and gives `default`. -/
def orLog {α : Type} (default : α) (x : Operation α) : Operation α := do
  match ← attempt x with
  | .ok a => return a
  | .error _ =>
    World.reportError storeComponent
    return default

open ChatFlow.Flow (Record Version)

/-- Reads a flow record from its document. -/
def flowRecord (doc : Entries) : Operation Record := do
  let doc ← ofExcept doc.withIdText?
  ofExcept ((Record.read (← now) (.dict doc)).toExcept Record.title)

/-- Reads a version from its document. -/
def versionRecord (doc : Entries) : Operation Version := do
  let doc ← ofExcept doc.withIdText?
  ofExcept ((Version.read (← now) (.dict doc)).toExcept Version.title)

/-- The flow of an id. -/
def getFlow (id : String) : Operation (Option Record) := do
  connect
  orLog none do
    match ← read .findOne .flows none (·.flow? id) with
    | none => return none
    | some doc => return some (← flowRecord doc)

/-- The active and published flows of a bot; none at all if one of them cannot be read. -/
def getActiveFlows (workspaceId botId : String) : Operation (List Record) := do
  connect
  orLog [] do
    let docs ← read .find .flows [] (·.activeFlows workspaceId botId)
    docs.mapM flowRecord

/-- Counts a run of a flow; false if that was not possible. -/
def countRun (id : String) (success : Bool) : Operation Bool := do
  connect
  orLog false do
    write .updateOne .flows false (Store.countRun (← now) id success)

/-- The version of an id. -/
def getVersion (id : String) : Operation (Option Version) := do
  connect
  orLog none do
    match ← read .findOne .versions none (·.version? id) with
    | none => return none
    | some doc => return some (← versionRecord doc)

/-- The highest version of a flow. -/
def getLatestVersion (flowId : String) : Operation (Option Version) := do
  connect
  orLog none do
    match ← read .findOne .versions none (·.latestVersion? flowId) with
    | none => return none
    | some doc => return some (← versionRecord doc)

end Operation

end ChatFlow
