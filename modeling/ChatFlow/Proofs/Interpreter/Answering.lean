import ChatFlow.Proofs.Conversation.Keeping
import ChatFlow.Proofs.Turn.Shape

/-!
Answering a message in a quiet world.

The equations of this module say what the parts of answering do where no fault waits: the binding of a
stored context to its definition, the first turn of a run, and every further one. After a turn there are
three ways to go on (`Interpreter.Next`): the run is over and is cleared and counted, or it failed and
is cleared, or it waits and is saved. Only a save can fail, by a conflict or for want of an expiry.
-/

namespace ChatFlow

open ChatFlow.Flow (Definition)

open Operation (run_bind run_pure run_attempt run_ofExcept run_now)

/-- Counting a run touches no session. -/
theorem Store.sessions_of_countRun {now : Moment} {id : String} {success r : Bool} {s t : Store}
    (counts : countRun now id success s = .ok (r, t)) : t.sessions = s.sessions := by
  unfold countRun at counts
  split at counts
  · cases counts
    rfl
  · split at counts
    · cases counts
    · cases counts
      rfl

namespace Interpreter

variable {i : Interpreter} {w : World} {m : Inbound} {d : Definition} {c : Context}

/-! ## Parts of answering -/

/-- A turn works on the outside only. -/
theorem turn_run (i : Interpreter) (d : Definition) (c : Context) (reply : Option String) (w : World) :
    (i.turn d c reply).run w =
      (.ok (Turn.takeTurn i.registry i.maxHops d c reply w.outside).1,
        w.withOutside (Turn.takeTurn i.registry i.maxHops d c reply w.outside).2) := rfl

/-- A save passes on its failure, if it fails for another reason than the store. -/
theorem save_run (i : Interpreter) (c : Context) (w : World) :
    (i.save c).run w =
      ((Keeping.save i.sessionHours c w).1.1.map fun _ => (), (Keeping.save i.sessionHours c w).2) := by
  have kept : (ExceptT.mk (do return (← Keeping.save i.sessionHours c).1) : Operation Bool).run w
      = ((Keeping.save i.sessionHours c w).1.1, (Keeping.save i.sessionHours c w).2) := rfl
  rw [save, run_bind, kept]
  rcases Keeping.save i.sessionHours c w with ⟨⟨_ | _, _⟩, _⟩ <;> rfl

/-- The world after a run was counted. -/
def counted (w : World) (flowId : String) (success : Bool) : World :=
  ((countRun flowId success).run w).2

/-- Counting never fails. -/
theorem countRun_ok (reachable : w.IsReachable) (flowId : String) (success : Bool) :
    (countRun flowId success).run w = (.ok (), counted w flowId success) := by
  have run : ∃ r v, (Operation.countRun flowId success).run w = (.ok r, v) := by
    rw [Operation.countRun, run_bind, Operation.connect_run reachable]
    exact Operation.orLog_ok _ _ _
  obtain ⟨r, v, run⟩ := run
  unfold counted
  rw [countRun, run_bind, run]
  cases r <;> rfl

/-- Where the faults let it write, counting does what the store does, and logs if that was not possible. -/
theorem counted_eq (h : w.LetsWrite) (flowId : String) (success : Bool) :
    counted w flowId success = match Store.countRun w.now flowId success w.store with
      | .ok (true, s) => w.joined.withStore s
      | .ok (false, s) => (w.joined.withStore s).noted .warning component
      | .error _ => (w.joined.noted .error Operation.storeComponent).noted .warning component := by
  have written := Operation.write_run (w.letsWrite_joined.mpr h) .updateOne .flows false
    (Store.countRun w.now flowId success) rfl
  have run : (Operation.countRun flowId success).run w =
      match Store.countRun w.now flowId success w.store with
      | .ok (r, s) => (.ok r, w.joined.withStore s)
      | .error _ => (.ok false, w.joined.noted .error Operation.storeComponent) := by
    rw [Operation.countRun, run_bind, Operation.connect_run h.isReachable]
    dsimp only
    rw [Operation.orLog_run, run_bind, run_now]
    dsimp only
    rw [World.joined_now, written, World.joined_store]
    cases Store.countRun w.now flowId success w.store <;> rfl
  unfold counted
  rw [countRun, run_bind, run]
  rcases Store.countRun w.now flowId success w.store with f | ⟨_ | _, s⟩ <;> rfl

/-- Where the faults let it write, counting touches no session and leaves the faults and the clock. -/
theorem countRun_run (h : w.LetsWrite) (flowId : String) (success : Bool) :
    (counted w flowId success).store.sessions = w.store.sessions
      ∧ (counted w flowId success).faults = w.faults ∧ (counted w flowId success).now = w.now := by
  rw [counted_eq h]
  cases counts : Store.countRun w.now flowId success w.store with
  | error f => exact ⟨rfl, rfl, rfl⟩
  | ok p =>
    have sessions := Store.sessions_of_countRun counts
    obtain ⟨_ | _, s⟩ := p <;> exact ⟨sessions, rfl, rfl⟩

/-! ## After a turn -/

/-- How answering goes on after a turn. -/
inductive Next where
  /-- The run is over. -/
  | ended
  /-- The turn failed. -/
  | failed
  /-- The conversation waits for a reply. -/
  | waits
deriving DecidableEq, Repr

/-- How answering goes on after an outcome. -/
def next (o : Outcome) : Next :=
  if o.completed || o.isHandoff then .ended
  else if (Turn.given? o.error).isSome then .failed
  else .waits

/-- Of the outcomes of turns, those that wait for a reply are saved. -/
theorem next_waits {o : Outcome} (shape : Turn.Shape o) :
    next o = .waits ↔ o.waitingForInput = true := by
  rw [shape.waiting_iff]
  unfold next
  cases o.completed || o.isHandoff with
  | true => simp
  | false => cases (Turn.given? o.error).isSome <;> simp

/-- What a further turn of a run is followed by. -/
theorem proceed_eq (i : Interpreter) (m : Inbound) (c : Context) (d : Definition) (w : World) :
    (i.proceed m c d).run w =
      match Turn.takeTurn i.registry i.maxHops d c (some m.message) w.outside with
      | ((o, c'), left) =>
        match next o with
        | .ended =>
          match (Keeping.clear m.conversationId).run (w.withOutside left) with
          | (.error f, v) => (.error f, v)
          | (.ok _, v) => (((countRun c'.flowId o.success).run v).1.map fun _ => o, counted v c'.flowId o.success)
        | .failed =>
          (((Keeping.clear m.conversationId).run (w.withOutside left)).1.map fun _ => o,
            ((Keeping.clear m.conversationId).run (w.withOutside left)).2)
        | .waits =>
          ((Keeping.save i.sessionHours c' (w.withOutside left)).1.1.map fun _ => o,
            (Keeping.save i.sessionHours c' (w.withOutside left)).2) := by
  rw [proceed, run_bind, turn_run]
  rcases Turn.takeTurn i.registry i.maxHops d c (some m.message) w.outside with ⟨⟨o, c'⟩, left⟩
  dsimp only
  unfold next
  cases o.completed || o.isHandoff with
  | true =>
    simp only [if_true, run_bind]
    rcases (Keeping.clear m.conversationId).run (w.withOutside left) with ⟨f | _, v⟩
    · rfl
    · unfold counted
      dsimp only
      rcases (countRun c'.flowId o.success).run v with ⟨_ | _, _⟩ <;> rfl
  | false =>
    cases (Turn.given? o.error).isSome with
    | true =>
      simp only [Bool.false_eq_true, if_false, if_true, run_bind]
      rcases (Keeping.clear m.conversationId).run (w.withOutside left) with ⟨_ | _, _⟩ <;> rfl
    | false =>
      simp only [Bool.false_eq_true, if_false, run_bind, save_run]
      rcases Keeping.save i.sessionHours c' (w.withOutside left) with ⟨⟨_ | _, _⟩, _⟩ <;> rfl

/-- What a further turn of a run comes to where the faults let it write. -/
theorem proceed_run (i : Interpreter) (m : Inbound) (c : Context) (d : Definition)
    (h : w.LetsWrite) :
    (i.proceed m c d).run w =
      match Turn.takeTurn i.registry i.maxHops d c (some m.message) w.outside with
      | ((o, c'), left) =>
        match next o with
        | .ended =>
          (.ok o, counted ((w.withOutside left).cleared m.conversationId) c'.flowId o.success)
        | .failed => (.ok o, (w.withOutside left).cleared m.conversationId)
        | .waits =>
          ((Keeping.save i.sessionHours c' (w.withOutside left)).1.1.map fun _ => o,
            (Keeping.save i.sessionHours c' (w.withOutside left)).2) := by
  rw [proceed_eq]
  rcases Turn.takeTurn i.registry i.maxHops d c (some m.message) w.outside with ⟨⟨o, c'⟩, left⟩
  dsimp only
  have cleared : (Keeping.clear m.conversationId).run (w.withOutside left) = _ := Keeping.clear_run h
  have reachable : ((w.withOutside left).cleared m.conversationId).IsReachable := h.isReachable
  rw [cleared]
  dsimp only
  rw [countRun_ok reachable]
  rfl

/-- What the first turn of a run comes to. -/
theorem start_run (i : Interpreter) (m : Inbound) (d : Definition) (h : w.IsReachable) {c : Context}
    (created : Context.create? w.now d m.conversationId m.contact = .ok c) :
    (i.start m d).run w =
      match Turn.takeTurn i.registry i.maxHops d (c.say [.ofUser w.now m.message none]) none
        w.outside with
      | ((o, c'), left) =>
        match next o with
        | .ended => (.ok o, counted (w.withOutside left) c'.flowId o.success)
        | .failed => (.ok o, w.withOutside left)
        | .waits =>
          ((Keeping.save i.sessionHours c' (w.withOutside left)).1.1.map fun _ => o,
            (Keeping.save i.sessionHours c' (w.withOutside left)).2) := by
  have shape := Turn.takeTurn_shape i.registry i.maxHops d (c.say [.ofUser w.now m.message none])
    none w.outside
  rw [start, run_bind, run_now]
  dsimp only
  rw [run_bind, run_ofExcept, created]
  dsimp only
  rw [run_bind, turn_run]
  generalize Turn.takeTurn i.registry i.maxHops d (c.say [.ofUser w.now m.message none]) none
    w.outside = r at shape ⊢
  obtain ⟨⟨o, c'⟩, left⟩ := r
  dsimp only at shape ⊢
  have waiting := shape.waiting_iff
  unfold next
  cases ended : o.completed || o.isHandoff with
  | true =>
    have count := countRun_ok (w := w.withOutside left) h c'.flowId o.success
    simp only [if_true, run_bind, count, run_pure]
  | false =>
    cases failed : (Turn.given? o.error).isSome with
    | true =>
      have idle : o.waitingForInput = false := by
        rw [Bool.eq_false_iff]
        intro asks
        rw [waiting, failed] at asks
        exact Bool.noConfusion asks.2
      simp only [idle, Bool.false_and, Bool.false_eq_true, if_false, if_true, run_pure]
    | false =>
      have asks : o.waitingForInput = true := waiting.mpr ⟨ended, failed⟩
      have none : (Turn.given? o.error).isNone = true := by
        rw [← Option.not_isSome, failed]
        rfl
      simp only [asks, none, Bool.true_and, Bool.false_eq_true, if_false, if_true, run_bind, save_run]
      rcases Keeping.save i.sessionHours c' (w.withOutside left) with ⟨⟨_ | _, _⟩, _⟩ <;> rfl

/-! ## Whole answers -/

theorem process_of_ok {o : Outcome} {v : World} (h : (i.respond m).run w = (.ok o, v)) :
    i.process m w = (o, v) := by
  rw [process, StateM.bind_apply, h]
  rfl

theorem process_of_conflict {conv : String} {n : Int} {v : World}
    (h : (i.respond m).run w = (.error (.conflict conv n), v)) :
    i.process m w = (concurrent v.now, v.noted .warning component) := by
  rw [process, StateM.bind_apply, h]
  rfl

/-- A failure that is no conflict is followed by an attempt to clear the conversation. -/
theorem process_of_clear {f : Failure} {v u : World} (h : (i.respond m).run w = (.error f, v))
    (other : ¬ f.IsConflict)
    (clears : (Keeping.clear m.conversationId).run (v.noted .error component) = (.ok (), u)) :
    i.process m w = (broken u.now f, u) := by
  rw [process, StateM.bind_apply, h]
  cases f with
  | conflict conv n => exact absurd ⟨conv, n, rfl⟩ other
  | _ =>
    dsimp only
    rw [StateM.bind_apply, StateM.bind_apply, World.reportError_apply, clears]
    rfl

/-- Where the faults let it write, a failure that is no conflict clears the conversation. -/
theorem process_of_error {f : Failure} {v : World} (h : (i.respond m).run w = (.error f, v))
    (other : ¬ f.IsConflict) (writes : v.LetsWrite) :
    i.process m w = (broken v.now f, (v.noted .error component).cleared m.conversationId) :=
  process_of_clear h other (Keeping.clear_run writes)

end Interpreter

/-- The interpreter with the built-in behaviors. -/
def Interpreter.standard (s : Services) (maxHops : Nat) (hours : Int) : Interpreter :=
  ⟨.standard s, maxHops, hours⟩

/-! ## A small bot

A bot with one flow that asks for a name and then ends. The properties of answering are seen at work on
it. -/

namespace Sample

open ChatFlow.Flow (Node Version Record)

/-- Noon on the first of March 2024. -/
def noon : Moment := .ofParts ⟨2024, 3, 1⟩ (12 * 3600 * Moment.perSecond) none

/-- Asks for a name, and ends. -/
def version : Version where
  id := some "v1"
  flowId := "greeting"
  version := 1
  nodes := [⟨"ask", "question", [("content", .text "Your name?")], []⟩, ⟨"bye", "end", [], []⟩]
  edges := [⟨"e1", "ask", "bye", none, none, []⟩]
  vars := []
  createdAt := none

/-- The flow of the bot. -/
def flow : Record where
  id := some "greeting"
  workspaceId := "ws-1"
  botId := "bot-1"
  name := "Greeting"
  triggers := []
  status := "active"
  isPublished := true
  currentVersionId := some "v1"
  totalRuns := 0
  successfulRuns := 0
  createdAt := none
  updatedAt := none

/-- What the bot executes. -/
def definition : Definition := ⟨flow, version⟩

/-- The document of the flow; every message starts it. -/
def flowDocument : Entries :=
  [("_id", .text "greeting"), ("workspace_id", .text "ws-1"), ("bot_id", .text "bot-1"),
    ("name", .text "Greeting"), ("triggers", .list [.dict [("type", .text "fallback")]]),
    ("status", .text "active"), ("is_published", .bool true)]

/-- The world of the bot with these sessions; the definition is in memory. -/
def world (sessions : Documents) : World where
  outside := ⟨noon, [], [], [], []⟩
  store := ⟨[flowDocument], [], sessions⟩
  faults := []
  connected := true
  cache := [("greeting:current", definition), ("greeting:v1", definition)]

/-- The bot reaches no other service. -/
def services : Services := ⟨⟨false, ""⟩, ⟨"", .whole 1⟩, .whole 1, .whole 1⟩

/-- The interpreter, given the hours that a session is kept. -/
def interpreter (hours : Int) : Interpreter := .standard services 50 hours

/-- A message of a conversation. -/
def message (text : String) : Inbound := ⟨"ws-1", "bot-1", "chat", text, none⟩

/-- The time at which a session of noon expires. -/
def nextNoon : Moment := ⟨noon.micros + Moment.perDay, none⟩

theorem expiry_noon : Keeping.expiry? noon 24 = .ok nextNoon := by
  have fits : noon.shift? (24 * 3600 * Moment.perSecond) = some nextNoon := by decide +kernel
  rw [Keeping.expiry?, fits]
  rfl

/-- The conversation at the question. -/
def context : Context where
  flowId := "greeting"
  versionId := "v1"
  conversationId := "chat"
  workspaceId := "ws-1"
  botId := "bot-1"
  contact := .unknown
  vars := []
  history := []
  currentNodeId := "ask"
  startedAt := noon
  lastActivityAt := noon
  sequence := 1

/-- The session of the conversation. -/
def session : Entries := context.document 1 noon nextNoon

end Sample

end ChatFlow
