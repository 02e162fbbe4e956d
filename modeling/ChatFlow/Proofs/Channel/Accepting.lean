import ChatFlow.Proofs.Interpreter.Serving
import ChatFlow.Proofs.Turn.Carrying

/-!
Requests that hand in a message.

A request whose body gives a message is answered with the document of the reply, if that can be written as
JSON. A reply carries the data of messages and of a handoff, and with the built-in behaviors the data of a
handoff comes from outside: it takes the variables of the conversation along, which hold what users and
other services said and what the author of the flow assigned. If a record id stands among them, the turn has
been taken all the same, but the request is answered with an internal error (`Endpoint.accepted_answered`).
-/

namespace ChatFlow

/-- The data of the outcome can be written. -/
structure Outcome.IsWritable (o : Outcome) : Prop where
  messages : ∀ m ∈ o.messages, m.IsWritable
  handoff : ∀ h, o.handoff = some h → h.IsWritable

/-- The variables that the outcome hands over can be written. -/
def Outcome.IsAnswerable (o : Outcome) : Prop :=
  ∀ h, o.handoff = some h → h.vars.IsWritable

/-! ## Replies -/

theorem Value.isWritable_data {data : Option Entries} :
    ((data.map Value.dict).getD .null).IsWritable ↔
      ∀ es, data = some es → (Value.dict es).IsWritable := by
  cases data with
  | none => exact ⟨fun _ => nofun, fun _ => Value.isWritable_null⟩
  | some es => exact ⟨fun writable es' same => Option.some.inj same ▸ writable, fun all => all es rfl⟩

theorem Outbound.isWritable_toValue (m : Message) :
    (Outbound.ofMessage m).toValue.IsWritable ↔ m.IsWritable := by
  rw [Outbound.toValue, Value.isWritable_dict]
  simp only [List.forall_mem_cons]
  constructor
  · exact fun parts => Value.isWritable_data.mp parts.2.2.2.1
  · exact fun data => ⟨Value.isWritable_text _, Value.isWritable_text _, Value.isWritable_ofText? _,
      Value.isWritable_data.mpr data, fun _ none => nomatch none⟩

theorem Handoff.isWritable_toEntries (h : Handoff) : (Value.dict h.toEntries).IsWritable ↔ h.IsWritable := by
  rw [Handoff.toEntries, Value.isWritable_dict]
  simp only [List.forall_mem_cons]
  constructor
  · exact fun parts => Value.isWritable_data.mp parts.2.2.1
  · exact fun data => ⟨Value.isWritable_text _, Value.isWritable_ofText? _, Value.isWritable_data.mpr data,
      fun _ none => nomatch none⟩

/-- A reply can be written if the data of its outcome can. -/
theorem Reply.isWritable_toValue (o : Outcome) :
    (Reply.ofOutcome o).toValue.IsWritable ↔ o.IsWritable := by
  have handoff : (((Reply.ofOutcome o).handoff.map Value.dict).getD .null).IsWritable ↔
      ∀ h, o.handoff = some h → h.IsWritable := by
    rw [Value.isWritable_data, Reply.ofOutcome]
    dsimp only
    cases o.handoff with
    | none => exact ⟨fun _ => nofun, fun _ => nofun⟩
    | some h =>
      simp only [Option.map_some, Option.some.injEq, forall_eq']
      exact h.isWritable_toEntries
  have messages : (Value.list ((Reply.ofOutcome o).messages.map Outbound.toValue)).IsWritable ↔
      ∀ m ∈ o.messages, m.IsWritable := by
    rw [Value.isWritable_list, Reply.ofOutcome]
    simp only [List.map_map, List.forall_mem_map, Function.comp_apply, Outbound.isWritable_toValue]
  rw [Reply.toValue, Value.isWritable_dict]
  simp only [List.forall_mem_cons]
  constructor
  · exact fun parts => ⟨messages.mp parts.2.1, handoff.mp parts.2.2.2.2.1⟩
  · exact fun writable => ⟨Value.isWritable_bool _, messages.mpr writable.messages,
      Value.isWritable_bool _, Value.isWritable_bool _, handoff.mpr writable.handoff,
      Value.isWritable_ofText? _, fun _ none => nomatch none⟩

/-- What an outcome with the usual data needs to be written. -/
theorem Outcome.Carries.isWritable_iff {o : Outcome} (carries : o.Carries) :
    o.IsWritable ↔ o.IsAnswerable := by
  constructor
  · exact fun writable h given => (carries.handoff h given).mp (writable.handoff h given)
  · exact fun answerable => ⟨carries.messages, fun h given => (carries.handoff h given).mpr (answerable h given)⟩

namespace Interpreter

/-- With the built-in behaviors the variables of a handoff alone decide whether an answer can be written,
whatever faults strike. -/
theorem process_carries (s : Services) (maxHops : Nat) (hours : Int) (m : Inbound) (w : World) :
    ((standard s maxHops hours).process m w).1.Carries :=
  process_fits (fun _ c reply outside => Turn.takeTurn_carries (Registry.carries_standard s) _ c reply outside)
    (fun _ _ _ _ => .of_bare (fun _ said => by rw [List.mem_singleton.mp said]; rfl) rfl) m w

end Interpreter

namespace Endpoint

variable {write : Value → Except Failure Value} {i : Interpreter} {m : Inbound} {r : HttpRequest}

/-- A request at a path of the service, with the method that is due there. -/
theorem handleWith_of_route {route : Route} (found : Route.ofPath? r.path = some route)
    (method : r.method = route.method) : handleWith write i r = serve write i route r.body := by
  have fits : (r.method == route.method) = true := beq_iff_eq.mpr method
  delta handleWith
  rw [found]
  dsimp only
  rw [if_pos fits]

/-- What a request comes to that hands in a message. -/
theorem handleWith_message (route : Route.ofPath? r.path = some .message) (method : r.method = "POST")
    (read : readBody r.body = .ok m) (w : World) :
    handleWith write i r w =
      match write (Reply.ofOutcome (i.process m w).1).toValue with
      | .ok document => (⟨200, document⟩, (i.process m w).2)
      | .error f => (.ofFailure f, (i.process m w).2.noted .error Interpreter.component) := by
  rw [handleWith_of_route route method, serve, receive, read]
  dsimp only
  rw [StateM.bind_apply]
  generalize i.process m w = p
  obtain ⟨o, v⟩ := p
  dsimp only
  cases write (Reply.ofOutcome o).toValue <;> rfl

/-- A request that hands in a readable message, whatever the store holds, whatever faults strike, and in
whatever way answers are written. If no record id stands in the variables that the outcome of the turn hands
over, the request is answered with status 200 and the document of the reply; if one does, with an internal
error, which is logged. In both cases the turn has been taken. -/
theorem accepted_answered (writes : Writes write) {s : Services} {maxHops : Nat} {hours : Int}
    (route : Route.ofPath? r.path = some .message) (method : r.method = "POST")
    (read : readBody r.body = .ok m) (w : World) :
    let i := Interpreter.standard s maxHops hours
    let o := (i.process m w).1
    (o.IsAnswerable ∧ ∃ document, write (Reply.ofOutcome o).toValue = .ok document ∧
        handleWith write i r w = (⟨200, document⟩, (i.process m w).2)) ∨
      (¬ o.IsAnswerable ∧ ∃ text,
        write (Reply.ofOutcome o).toValue = .error (.foreign "SerializationError" text) ∧
        handleWith write i r w = (⟨500, Response.failureBody "Internal server error" text 500⟩,
          (i.process m w).2.noted .error Interpreter.component)) := by
  intro i o
  have writable : (Reply.ofOutcome o).toValue.IsWritable ↔ o.IsAnswerable :=
    (Reply.isWritable_toValue o).trans (Interpreter.process_carries s maxHops hours m w).isWritable_iff
  have answer : handleWith write i r w = _ := handleWith_message route method read w
  by_cases fits : o.IsAnswerable
  · obtain ⟨document, written⟩ := writes.writes _ (writable.mpr fits)
    rw [written] at answer
    exact .inl ⟨fits, document, written, answer⟩
  · obtain ⟨text, refused⟩ := writes.refuses _ (mt writable.mp fits)
    rw [refused] at answer
    dsimp only at answer
    rw [ofFailure_refused] at answer
    exact .inr ⟨fits, text, refused, answer⟩

end Endpoint

namespace Sample

open Endpoint Interpreter

/-- A message of a conversation, as a request. -/
def request (text : String) : HttpRequest := ⟨"POST", "/flow/message", some
  ("\x7b\"workspace_id\":\"ws-1\",\"bot_id\":\"bot-1\",\"conversation_id\":\"chat\",\"message\":\""
    ++ text ++ "\"\x7d")⟩

theorem readBody_of_fields {body : Option String} {text : String}
    (fields : (readBody body).toOption.map
      (fun m => (m.workspaceId, m.botId, m.conversationId, m.message, m.contact.isNone))
      = some ("ws-1", "bot-1", "chat", text, true)) : readBody body = .ok (message text) := by
  cases read : readBody body with
  | error fault =>
    rw [read] at fields
    cases fields
  | ok m =>
    rw [read] at fields
    obtain ⟨workspace, bot, conversation, said, contact⟩ := m
    simp only [Except.toOption, Option.map_some, Option.some.injEq, Prod.mk.injEq,
      Option.isNone_iff_eq_none] at fields
    obtain ⟨rfl, rfl, rfl, rfl, rfl⟩ := fields
    rfl

/-- The small bot answers a greeting with its question. -/
theorem accepted_answered_hello :
    Route.ofPath? (request "hello").path = some .message ∧
      readBody (request "hello").body = .ok (message "hello") ∧
      ∃ document, documentOf?
          (Reply.ofOutcome ((interpreter 24).process (message "hello") (world [])).1).toValue = .ok document ∧
        (handle (interpreter 24) (request "hello") (world [])).1 = ⟨200, document⟩ := by
  have route : Route.ofPath? (request "hello").path = some .message := by decide +kernel
  have read : readBody (request "hello").body = .ok (message "hello") :=
    readBody_of_fields (by decide +kernel)
  have kept : ((interpreter 24).process (message "hello") (world [])).1.handoff.isNone = true := by
    decide +kernel
  refine ⟨route, read, ?_⟩
  rcases accepted_answered writes_documentOf? route rfl read (world []) with
    ⟨-, document, shown, answers⟩ | ⟨unfit, -⟩
  · exact ⟨document, shown, congrArg Prod.fst answers⟩
  · refine absurd (fun h given => ?_) unfit
    cases given.symm.trans (Option.isNone_iff_eq_none.mp kept)

/-- The document of a version that notes who looks after the user, and hands over. -/
def transfer : Entries :=
  [("_id", .text "v1"), ("flow_id", .text "greeting"), ("version", .int 1),
    ("nodes", .list [
      .dict [("id", .text "owner"), ("type", .text "set_variable"), ("data", .dict [("variable",
        .dict [("name", .text "owner"), ("value", .recordId "507f1f77bcf86cd799439011")])])],
      .dict [("id", .text "person"), ("type", .text "handoff")]]),
    ("edges", .list [.dict [("id", .text "e1"), ("source", .text "owner"), ("target", .text "person")]])]

/-- The version is stored, and nothing is in memory. -/
def transferring : World := { world [] with
  store := ⟨[flowDocument], [transfer], []⟩
  cache := [] }

/-- A user who is handed over together with a record id gets no answer. -/
theorem accepted_not_answered :
    Route.ofPath? (request "hello").path = some .message ∧
      readBody (request "hello").body = .ok (message "hello") ∧
      (handle (interpreter 24) (request "hello") transferring).1.status = 500 :=
  ⟨by decide +kernel, readBody_of_fields (by decide +kernel), by decide +kernel⟩

end Sample

end ChatFlow
