import ChatFlow.Outside
import ChatFlow.Flow.Graph
import ChatFlow.Conversation.Context
import ChatFlow.Turn.Outcome

/-!
What nodes do.

A `Behavior` takes a node, the context and perhaps a reply of the user, and gives an outcome. It reads
the context and never changes it: everything it wants changed is in its outcome.
-/

namespace ChatFlow

/-- What a sort of node does with a context and perhaps a reply. -/
abbrev Behavior := Flow.Node → Context → Option String → Service Outcome

namespace Behavior

/-- Reads records one after another; the first that does not fit gives the failure. -/
def readEach? {α : Type} (title : String) (read : Value → Schema.Checked α) :
    List Value → Except Failure (List α)
  | [] => .ok []
  | v :: rest =>
    match (read v).toExcept title with
    | .error f => .error f
    | .ok a => (readEach? title read rest).map (a :: ·)

/-- Turns a report on a part of a node's settings into a failure of the node. -/
def asNodeFailure (nodeId what : String) : Failure → Failure
  | .invalid report =>
    .node ("Invalid " ++ what ++ " node " ++ nodeId ++ ": " ++ report.text) (some nodeId)
  | f => f

end Behavior

namespace Message

/-- A message whose text comes from the settings of a node; anything that is no text is unfit. -/
def fromSetting? (now : Moment) (content : Value) (nodeId : String) : Except Failure Message :=
  match content with
  | .text s => .ok (ofBot now s (some nodeId))
  | _ => .error (.invalid ⟨title, [⟨[.name "content"], .notText⟩]⟩)

end Message

namespace Outcome

/-- Success with messages. -/
def saying (messages : List Message) : Outcome :=
  { plain with messages }

/-- Success with messages that ask for a reply. -/
def asking (messages : List Message) : Outcome :=
  { plain with messages, waitingForInput := true }

/-- Success with variables to set. -/
def setting (vars : Entries) : Outcome :=
  { plain with vars := some vars }

end Outcome

end ChatFlow
