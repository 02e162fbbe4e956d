import ChatFlow.Proofs.Interpreter.Serving

/-!
A reply is handed to the node that asked for it.

In a service with the built-in behaviors every session stands at a node that asked: a question or an
answer of a language model, of the definition that the last turn was made on, and the last message of the
history is the one with which that node asked (`Interpreter.IsAsking`). The built-in behaviors see to it
in one turn (`Turn.takeTurn_asks`); what is stored and loaded again carries it to the next one.

When a later message is handed to a node as a reply, the node has the id at which the session stands
(`Turn.node_of_executions`), so the conversation was last sent a message of that node
(`Interpreter.reply_reaches_asker`). It need not be the same node of the same definition: flows and
versions may have been edited in between.
-/

namespace ChatFlow

open ChatFlow.Flow (Node Definition)

namespace Interpreter

variable {i : Interpreter} {m : Inbound} {w u v : World} {d : Definition} {c : Context} {o : Outcome}
  {last : Answers}

/-- A turn that waits asks. -/
theorem Makes.asks (makes : Makes i m w d o c u) (plain : i.registry.IsPlain)
    (waits : o.waitingForInput = true) : Turn.AsksAt i.registry d o c := by
  cases makes with
  | proceeds c' later d u o left resumed turn =>
    have asks := Turn.takeTurn_asks (d := d) plain i.maxHops c' (some m.message) u.outside
    rw [turn] at asks
    exact asks waits
  | starts c' later d v u o left resumed found created turn =>
    have asks := Turn.takeTurn_asks (d := d) plain i.maxHops (c'.say [.ofUser u.now m.message none]) none
      u.outside
    rw [turn] at asks
    exact asks waits

/-- The session waits for a reply to the question that the answer put. -/
structure IsAsking (i : Interpreter) (a : Answered) (doc : Entries) : Prop where
  active : doc.lookup "status" = some (.text Session.active)
  counted : ∃ n : Int, 1 ≤ n ∧ doc.lookup "sequence" = some (.int n)
  /-- The definition that the turn was made on has the current node, as one that asks. -/
  node : ∃ d c u id node, Makes i a.message a.world d a.outcome c u ∧
    doc.lookup "current_node_id" = some (.text id) ∧ d.node? id = some node ∧
    (node.kind = "question" ∨ node.kind = "ai_answer")
  /-- The last message of the history is the last that the user was sent, and comes from that node. -/
  message : ∃ id history message, doc.lookup "current_node_id" = some (.text id) ∧
    doc.lookup "message_history" = some (.list history) ∧
    history.getLast? = some message.toValue ∧ a.outcome.messages.getLast? = some message ∧
    message.IsFrom id

/-- The document of a context that asks is a session that does. -/
theorem isAsking_document {s : Services} {maxHops : Nat} {hours : Int} {a : Answered}
    (makes : Makes (standard s maxHops hours) a.message a.world d a.outcome c u)
    (waits : a.outcome.waitingForInput = true) {n : Int} (positive : 1 ≤ n) (writtenAt expiresAt : Moment) :
    IsAsking (standard s maxHops hours) a (c.document n writtenAt expiresAt) := by
  have asks := makes.asks (Registry.isPlain_standard s) waits
  obtain ⟨node, found, may⟩ := asks.node
  obtain ⟨message, sent, last, from_⟩ := asks.message
  have held := c.isHeldBy_document n writtenAt expiresAt
  refine ⟨rfl, ⟨n, positive, c.document_sequence n writtenAt expiresAt⟩, ?_, ?_⟩
  · exact ⟨d, c, u, c.currentNodeId, node, makes, held.currentNode, found,
      Registry.mayAsk_standard may⟩
  · refine ⟨c.currentNodeId, _, message, held.currentNode, held.history, ?_, sent, from_⟩
    rw [List.getLast?_map, last]
    rfl

/-! ## Replies -/

/-- The nodes that are executed to answer a message, each with the reply that it is handed. -/
def executions (i : Interpreter) (m : Inbound) (w : World) : List (Node × Option String) :=
  match (resume m.conversationId).run w with
  | (.error _, _) => []
  | (.ok (some (c, d)), v) =>
    Turn.executions i.registry d i.maxHops (some m.message) (.start c) v.outside
  | (.ok none, v) =>
    match (Dispatch.find m.workspaceId m.botId (.ofMessage m.message) false).run v with
    | (.ok (some d), u) =>
      match Context.create? u.now d m.conversationId m.contact with
      | .ok c => Turn.executions i.registry d i.maxHops none
          (.start (c.say [.ofUser u.now m.message none])) u.outside
      | .error _ => []
    | _ => []

/-- The message is handed as a reply only if the conversation is resumed, to the node at which it
stands. -/
theorem resume_of_executions {node : Node} {reply : String}
    (handed : (node, some reply) ∈ i.executions m w) :
    reply = m.message ∧ ∃ c d v, (resume m.conversationId).run w = (.ok (some (c, d)), v) ∧
      d.node? c.currentNodeId = some node := by
  unfold executions at handed
  split at handed
  · cases handed
  · rename_i c d v resumed
    obtain ⟨found, given⟩ := Turn.node_of_executions handed
    exact ⟨(Option.some.inj given).symm, c, d, v, resumed, found⟩
  · split at handed
    · split at handed
      · cases Turn.none_of_executions handed
      · cases handed
    · cases handed

/-- In a service with the built-in behaviors every session waits for the reply to a question that the last
answer of its conversation put. And when a message is handed to a node as a reply, the last message that
the conversation was sent is one of that node. -/
theorem reply_reaches_asker {s : Services} {maxHops : Nat} {hours : Int}
    (serves : Serves (standard s maxHops hours) w last) :
    (∀ doc ∈ w.store.sessions, ∃ conv a, doc.lookup "conversation_id" = some (.text conv) ∧
      last conv = some a ∧ IsAsking (standard s maxHops hours) a doc) ∧
    ∀ (m : Inbound) (node : Node) (reply : String),
      (node, some reply) ∈ (standard s maxHops hours).executions m w →
        reply = m.message ∧ ∃ a message, last m.conversationId = some a ∧
          a.outcome.messages.getLast? = some message ∧ message.IsFrom node.id := by
  have served := serves.isServed
  refine ⟨fun doc here => ?_, fun m node reply handed => ?_⟩
  · obtain ⟨a, d, c, u, n, s', t, answer, -, makes, waits, positive, rfl⟩ := served.left doc here
    exact ⟨c.conversationId, a, c.document_conversationId n s' t, answer,
      isAsking_document makes waits positive s' t⟩
  · obtain ⟨same, c, d', v, resumed, found⟩ := resume_of_executions handed
    obtain ⟨loaded, -⟩ := load_of_resume served.quiet resumed
    obtain ⟨-, doc, session, from_⟩ := Keeping.load_some served.quiet loaded
    have here : doc ∈ w.store.sessions := List.mem_of_find?_eq_some session
    have mine := Store.holdsAll_sessionOf.mp (Store.holdsAll_of_session? session)
    obtain ⟨a, d, c', u, n, s', t, answer, -, makes, waits, positive, rfl⟩ := served.left doc here
    rw [c'.document_conversationId, Option.some.injEq, Value.text.injEq] at mine
    have asking := isAsking_document makes waits positive s' t
    obtain ⟨id, history, message, stands, -, -, sent, by_⟩ := asking.message
    have at_ : id = c.currentNodeId := by
      rw [from_.node] at stands
      exact (Value.text.inj (Option.some.inj stands)).symm
    refine ⟨same, a, message, mine ▸ answer, sent, ?_⟩
    rw [Definition.id_of_node? found, ← at_]
    exact by_

end Interpreter

namespace Sample

open Interpreter

/-- The name is handed to the node that asked for it. -/
theorem reply_reaches_asker_name :
    ∃ node, node.id = "ask" ∧ (node, some "Ann") ∈ (interpreter 24).executions (message "Ann") asked ∧
      ∃ a message, Answers.note (fun _ => none) ⟨Sample.message "hello", world [],
          ((interpreter 24).process (Sample.message "hello") (world [])).1⟩ "chat" = some a ∧
        a.outcome.messages.getLast? = some message ∧ message.IsFrom node.id := by
  have executed : ((interpreter 24).executions (message "Ann") asked).map (fun p => (p.1.id, p.2))
      = [("ask", some "Ann"), ("bye", none)] := by decide +kernel
  have first : ("ask", some "Ann") ∈
      ((interpreter 24).executions (message "Ann") asked).map (fun p => (p.1.id, p.2)) := by
    rw [executed]
    exact List.mem_cons_self
  obtain ⟨⟨node, reply⟩, handed, same⟩ := List.mem_map.mp first
  obtain ⟨id, rfl⟩ := Prod.mk.inj same
  exact ⟨node, id, handed, ((reply_reaches_asker serves_asked).2 (message "Ann") node "Ann" handed).2⟩

end Sample

end ChatFlow
