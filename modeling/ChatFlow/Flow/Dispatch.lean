import ChatFlow.Flow.Library
import ChatFlow.Flow.Rule

/-!
Choosing the flow that answers an event.

Every active and published flow of a bot is held against the event. A flow is ranked by the priority of
its first trigger that matches; the highest rank wins, and of equal ranks the smallest id. If nothing
matches, the fallback event is tried once.
-/

namespace ChatFlow

namespace Flow

/-! ## Triggers and events -/

/-- What holding a trigger against an event gives. -/
inductive Match where
  | yes
  | no
  /-- The pattern cannot be read and was searched for as plain text. -/
  | byPlainText (found : Bool)
deriving Repr, DecidableEq

namespace Match

/-- The result as a truth value. -/
def toBool : Match → Bool
  | yes => true
  | no => false
  | byPlainText found => found

/-- The result for a truth value. -/
def ofBool (b : Bool) : Match :=
  if b then yes else no

end Match

/-- One of the keywords stands in the text, case aside. -/
def anyKeyword? (text : List Char) : List Value → Except Failure Bool
  | [] => .ok false
  | k :: rest =>
    match k.display? with
    | .error f => .error f
    | .ok s => if Text.occursIn (Text.lowerChars s.toList) text then .ok true else anyKeyword? text rest

/-- Holds a pattern against a text. -/
def matchPattern? (pattern : Value) (text : String) : Except Failure Match :=
  match pattern with
  | .text p =>
    match Pattern.search? p text with
    | .ok found => .ok (.ofBool found)
    | .error fault =>
      match patternFailure? fault with
      | none => .ok (.byPlainText (Text.occursIn p.toList text.toList))
      | some f => .error f
  | .list _ | .dict _ => .error (.unhashable pattern.sortName)
  | _ => .error .patternDue

/-- Holds a trigger's conditions against the text of an event of its sort. -/
def Trigger.matchText? (t : Trigger) (kind : EventKind) (text : String) : Except Failure Match :=
  match kind with
  | .keyword =>
    match (Entries.getD t.conditions "keywords").elementsIfPresent? with
    | .error f => .error f
    | .ok keywords => (anyKeyword? (Text.lowerChars text.toList) keywords).map .ofBool
  | .intent => .ok (.ofBool ((Entries.getD t.conditions "intent").isText text))
  | .pageUrl =>
    let pattern := Entries.getD t.conditions "pattern"
    if pattern.isPresent then matchPattern? pattern text else .ok .no
  | .event => .ok (.ofBool ((Entries.getD t.conditions "eventName").isText text))
  | .fallback => .ok .yes

/-- Holds a trigger against an event. Only a fallback trigger matches an event without a text. -/
def Trigger.match? (t : Trigger) (e : Event) : Except Failure Match :=
  if t.kind != e.kind.word then .ok .no
  else if e.kind == .fallback then .ok .yes
  else
    let text := e.value.getD ""
    if text.isEmpty then .ok .no else t.matchText? e.kind text

/-! ## Ranking -/

/-- A flow that matches, with the priority of its first matching trigger. -/
structure Candidate where
  flow : Record
  rank : Int
deriving Repr

namespace Candidate

/-- The id by which candidates of one rank are told apart. -/
def id (c : Candidate) : String :=
  c.flow.id.getD ""

/-- The first candidate goes before the second. -/
def isBefore (a b : Candidate) : Bool :=
  a.rank > b.rank || (a.rank == b.rank && decide (a.id < b.id))

/-- The candidate that goes before all others; of equals the first. -/
def best? : List Candidate → Option Candidate
  | [] => none
  | c :: rest =>
    match best? rest with
    | none => some c
    | some d => if d.isBefore c then some d else some c

end Candidate

end Flow

open ChatFlow.Flow (Record Definition Trigger Event Candidate)

namespace Dispatch

/-- The component name of dispatching in the log. -/
def component : String := "TriggerResolutionService"

/-- Holds a trigger against an event; a pattern that cannot be read is logged. -/
def holds (t : Trigger) (e : Event) : Service Bool := do
  let m ← Service.ofExcept (t.match? e)
  match m with
  | .byPlainText _ => Service.warn component
  | .yes | .no => pure ()
  return m.toBool

/-- The first trigger that matches. -/
def firstMatch (e : Event) : List Trigger → Service (Option Trigger)
  | [] => return none
  | t :: rest => do
    if ← holds t e then return some t
    firstMatch e rest

/-- The flows that match, in order. -/
def candidates (e : Event) : List Record → Service (List Candidate)
  | [] => return []
  | flow :: rest => do
    let first ← firstMatch e flow.triggers
    let others ← candidates e rest
    return match first with
      | some t => ⟨flow, t.rank⟩ :: others
      | none => others

/-- Lifts an activity on the outside. -/
def outside {α : Type} (x : Service α) : Operation α :=
  ExceptT.mk (World.onOutside x.run)

/-- The candidate that answers an event. -/
def select (workspaceId botId : String) (e : Event) : Operation (Option Candidate) := do
  let flows ← Operation.getActiveFlows workspaceId botId
  return Candidate.best? (← outside (candidates e flows))

/-- The definition of the selected flow, or nothing. -/
def loadSelected (c : Candidate) : Operation (Option Definition) :=
  Library.load c.id none

/-- The definition of the flow that answers an event. If none matches, the fallback event is tried,
unless it was tried already. -/
def find (workspaceId botId : String) (e : Event) (triedFallback : Bool) :
    Operation (Option Definition) := do
  match ← select workspaceId botId e with
  | some c => loadSelected c
  | none =>
    if e.kind == .fallback || triedFallback then return none
    match ← select workspaceId botId .lastResort with
    | some c => loadSelected c
    | none => return none

end Dispatch

end ChatFlow
