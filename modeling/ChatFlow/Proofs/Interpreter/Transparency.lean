import ChatFlow.Proofs.Interpreter.Resuming
import ChatFlow.Proofs.Turn.Asking

/-!
Storing a conversation between its turns cannot be told from keeping it in memory.

Two runs are compared. In the stored run every message is answered by `Interpreter.process`, which
loads the context, binds it to its definition again, and saves it (`Interpreter.answerAll`). In the run
in memory the context is made once and handed from turn to turn (`Interpreter.memoryRun?`). Between two
messages anything may happen that leaves the conversation alone: the clock moves, other conversations
are served, replies of other services come in (`Gap`).

The invariant of the stored run is that the conversation has one document, and that it is the document
of the context in memory, at some positive sequence number. `process_start` establishes it and
`process_resume` preserves it; each also shows that the turn gives what the turn in memory gives. The
run lemma follows by induction on the messages.
-/

namespace ChatFlow

open ChatFlow.Flow (Definition)

open Operation (run_bind run_pure)

/-! ## The two runs -/

/-- What happens between two messages: something outside, and something else in the world. -/
structure Gap where
  outside : Outside → Outside
  elsewhere : World → World
  separate : ∀ w, (elsewhere w).outside = w.outside

/-- The world after a gap. -/
def Gap.pass (g : Gap) (w : World) : World :=
  (g.elsewhere w).withOutside (g.outside w.outside)

@[simp] theorem Gap.pass_outside (g : Gap) (w : World) : (g.pass w).outside = g.outside w.outside :=
  rfl

/-- A further message and what happens before it arrives. -/
structure Arrival where
  gap : Gap
  message : Inbound

namespace Interpreter

/-- Answers messages one after another. -/
def answerAll (i : Interpreter) : World → List Arrival → List (Outcome × World)
  | _, [] => []
  | w, a :: rest =>
    let answer := i.process a.message (a.gap.pass w)
    answer :: answerAll i answer.2 rest

/-- Further turns on a context in memory, up to the first that does not wait. -/
def memoryTurns (i : Interpreter) (d : Definition) :
    Context → Outside → List Arrival → List (Outcome × Context)
  | _, _, [] => []
  | c, outside, a :: rest =>
    let turn := Turn.takeTurn i.registry i.maxHops d c (some a.message.message) (a.gap.outside outside)
    turn.1 :: if turn.1.1.waitingForInput then memoryTurns i d turn.1.2 turn.2 rest else []

/-- A run on a context in memory: the context is made, the first message goes into its history, and the
first turn has no reply. -/
def memoryRun? (i : Interpreter) (d : Definition) (m : Inbound) (rest : List Arrival)
    (outside : Outside) : Except Failure (List (Outcome × Context)) :=
  (Context.create? outside.now d m.conversationId m.contact).map fun c =>
    let turn := Turn.takeTurn i.registry i.maxHops d
      (c.say [.ofUser outside.now m.message none]) none outside
    turn.1 :: if turn.1.1.waitingForInput then memoryTurns i d turn.1.2 turn.2 rest else []

end Interpreter

/-! ## Comparing them -/

/-- The document holds the context, as far as the context matters to its run. -/
structure Context.IsHeldBy (c : Context) (doc : Entries) : Prop where
  currentNode : doc.lookup "current_node_id" = some (.text c.currentNodeId)
  vars : doc.lookup "variables" = some (.dict c.vars)
  history : doc.lookup "message_history" = some (.list (c.history.map Message.toValue))
  contactId : doc.lookup "contact_id" = some (.ofText? c.contact.id)
  contactName : doc.lookup "contact_name" = some (.ofText? c.contact.name)
  contactEmail : doc.lookup "contact_email" = some (.ofText? c.contact.email)
  flow : doc.lookup "flow_id" = some (.text c.flowId)
  version : doc.lookup "version_id" = some (.text c.versionId)

theorem Context.isHeldBy_document (c : Context) (n : Int) (writtenAt expiresAt : Moment) :
    c.IsHeldBy (c.document n writtenAt expiresAt) where
  currentNode := rfl
  vars := rfl
  history := by
    show some (Value.list ((c.history.map Message.toEntries).map .dict)) = _
    rw [List.map_map]
    rfl
  contactId := rfl
  contactName := rfl
  contactEmail := rfl
  flow := rfl
  version := rfl

/-- An answer is what the turn in memory gave, and if it waits, the stored session holds the context in
memory. -/
structure Agrees (conv : String) (answer : Outcome × World) (turn : Outcome × Context) : Prop where
  outcome : answer.1 = turn.1
  stored : turn.1.waitingForInput = true →
    ∃ doc, answer.2.store.session? conv = some doc ∧ turn.2.IsHeldBy doc

/-- Every turn in memory has its answer, and agrees with it. -/
def AllAgree (conv : String) (answers : List (Outcome × World)) (turns : List (Outcome × Context)) :
    Prop :=
  ∀ (k : Nat) turn, turns[k]? = some turn →
    ∃ answer, answers[k]? = some answer ∧ Agrees conv answer turn

theorem allAgree_nil {conv : String} {answers : List (Outcome × World)} : AllAgree conv answers [] := by
  intro k turn absent
  simp at absent

theorem allAgree_cons {conv : String} {answer : Outcome × World} {answers : List (Outcome × World)}
    {turn : Outcome × Context} {turns : List (Outcome × Context)} (first : Agrees conv answer turn)
    (others : AllAgree conv answers turns) : AllAgree conv (answer :: answers) (turn :: turns) := by
  intro k t at_
  cases k with
  | zero =>
    rw [List.getElem?_cons_zero, Option.some.injEq] at at_
    rw [← at_]
    exact ⟨answer, rfl, first⟩
  | succ k =>
    rw [List.getElem?_cons_succ] at at_ ⊢
    exact others k t at_

/-- The expiry of a session that is saved with an answer is a point in time. -/
def Interpreter.IsTimely (i : Interpreter) (answer : Outcome × World) : Prop :=
  ∃ e, Keeping.expiry? answer.2.now i.sessionHours = .ok e

/-- A message finds its conversation as it was left, not expired and bound as before. -/
structure Arrival.Finds (a : Arrival) (i : Interpreter) (d : Definition) (conv : String) (w : World) :
    Prop where
  conversation : a.message.conversationId = conv
  quiet : (a.gap.pass w).IsQuiet
  sessions : (a.gap.pass w).store.sessionsOf conv = w.store.sessionsOf conv
  unexpired : ∀ doc, w.store.session? conv = some doc →
    ∃ e, doc.lookup "expires_at" = some (.date e) ∧ e.compare? (a.gap.pass w).now = some .gt
  bound : ∀ f v, d.flow.id = some f → d.version.id = some v →
    ∃ d', ((Library.load f (some v)).run (a.gap.pass w).joined).1 = .ok (some d')
      ∧ d'.version = d.version
  timely : i.IsTimely (i.process a.message (a.gap.pass w))

namespace Interpreter

/-- As long as answers wait for a reply, the next message finds its conversation. -/
def IsUndisturbed (i : Interpreter) (d : Definition) (conv : String) :
    Outcome × World → List Arrival → Prop
  | _, [] => True
  | (o, w), a :: rest => o.waitingForInput = true →
    a.Finds i d conv w ∧ IsUndisturbed i d conv (i.process a.message (a.gap.pass w)) rest

end Interpreter

/-! ## Saving a context that is held -/

namespace Keeping

variable {w : World} {c later : Context} {hours : Int} {e : Moment}

/-- The first save of a context makes its document the one of the conversation. -/
theorem save_holds_fresh (quiet : w.IsQuiet) (timely : expiry? w.now hours = .ok e)
    (fresh : c.sequence = 0) (absent : w.store.session? c.conversationId = none) :
    ∃ u, (save hours c w).1.1 = .ok true ∧ (save hours c w).2 = u ∧ u.outside = w.outside ∧
      u.store.sessionsOf c.conversationId = [c.document 1 w.now e] := by
  refine ⟨w.joined.withStore (w.store.added (c.document 1 w.now e)), ?_, ?_, rfl, ?_⟩
  · rw [save_fresh quiet.letsWrite timely fresh, absent]
    rfl
  · rw [save_fresh quiet.letsWrite timely fresh, absent]
    rfl
  · rw [World.withStore_store, Store.sessionsOf_added (c.holdsAll_sessionOf_document 1 w.now e),
      Store.session?_eq_none_iff.mp absent]
    rfl

/-- A further save turns the document of the stored context into that of the saved one. -/
theorem save_holds_stored (quiet : w.IsQuiet) (timely : expiry? w.now hours = .ok e)
    {n : Int} (positive : 1 ≤ n) {s t t' : Moment}
    (held : w.store.sessionsOf c.conversationId = [c.document n s t]) (run : later.Continues c) :
    ∃ u, (save hours (later.kept n t') w).1.1 = .ok true ∧ (save hours (later.kept n t') w).2 = u ∧
      u.outside = w.outside ∧
      u.store.sessionsOf c.conversationId = [later.document (n + 1) w.now e] := by
  have stored : (later.kept n t').sequence ≠ 0 := by
    rw [Context.kept_sequence]
    omega
  have fields : (later.kept n t').savedFields w.now e = later.savedFields w.now e := rfl
  have found := Store.find?_sessionAt_of_sequence n held (c.document_sequence n s t)
  rw [if_pos rfl] at found
  have saved := save_stored (c := later.kept n t') quiet.letsWrite timely stored
  rw [Context.kept_conversationId, run.conversationId, Context.kept_sequence, fields, found] at saved
  refine ⟨_, congrArg (·.1.1) saved, congrArg Prod.snd saved, rfl, ?_⟩
  rw [World.withStore_store, Store.sessionsOf_saved_singleton held
    (by rw [Context.map_fst_savedFields]; decide) (c.document_sequence n s t),
    Context.advanced_document run]

end Keeping

/-! ## Steps -/

namespace Interpreter

variable {i : Interpreter} {d : Definition} {m : Inbound} {w : World} {c : Context}

/-- A conversation that is held is resumed as it was kept. -/
theorem resume_run (quiet : w.IsQuiet) {n : Int} {s t : Moment}
    (held : w.store.sessionsOf c.conversationId = [c.document n s t])
    (unexpired : t.compare? w.now = some .gt) {d' : Definition}
    (bound : ((Library.load c.flowId (some c.versionId)).run w.joined).1 = .ok (some d'))
    (node : (d'.node? c.currentNodeId).isSome = true) :
    ∃ v, (resume c.conversationId).run w = (.ok (some (c.kept n s, d')), v)
      ∧ v.outside = w.outside ∧ w.Reads v := by
  have reads := Keeping.isReadAs_document (Store.session?_of_sessionsOf held) unexpired
  exact resume_run_of_isReadAs quiet reads bound node

/-- A save whose failure would have made the answer an excuse did not fail. -/
theorem expiry_of_isTimely {v : World} {o : Outcome} (quiet : v.IsQuiet)
    (saves : (i.respond m).run w = ((Keeping.save i.sessionHours c v).1.1.map fun _ => o,
      (Keeping.save i.sessionHours c v).2))
    (timely : i.IsTimely (i.process m w)) : ∃ e, Keeping.expiry? v.now i.sessionHours = .ok e := by
  cases late : Keeping.expiry? v.now i.sessionHours with
  | ok e => exact ⟨e, rfl⟩
  | error f =>
    rw [Keeping.save_of_expiry_error late] at saves
    obtain ⟨e, ok⟩ := timely
    rw [process_of_error saves (Keeping.not_conflict_of_expiry? late) quiet.letsWrite] at ok
    exact absurd (late.symm.trans ok) (by simp)

/-- The state between two turns of a stored run: the one document of the conversation is that of the
context in memory, and the two runs see the same outside. -/
structure Mirrors (conv : String) (w : World) (c : Context) (outside : Outside) : Prop where
  conversation : c.conversationId = conv
  outside : w.outside = outside
  sessions : ∃ n s t, 1 ≤ n ∧ w.store.sessionsOf conv = [c.document n s t]

theorem Mirrors.agrees {conv : String} {answer : Outcome × World} {turn : Outcome × Context}
    {left : Outside} (outcome : answer.1 = turn.1)
    (mirrors : turn.1.waitingForInput = true → Mirrors conv answer.2 turn.2 left) :
    Agrees conv answer turn where
  outcome := outcome
  stored asks := by
    obtain ⟨n, s, t, -, held⟩ := (mirrors asks).sessions
    exact ⟨_, Store.session?_of_sessionsOf held, turn.2.isHeldBy_document n s t⟩

/-- The first message of a conversation: the stored run makes the first turn of the run in memory, and
keeps its context if it waits. -/
theorem process_start (quiet : w.IsQuiet) (absent : w.store.session? m.conversationId = none)
    {v : World}
    (selected : (Dispatch.find m.workspaceId m.botId (.ofMessage m.message) false).run w.joined
      = (.ok (some d), v))
    (timely : i.IsTimely (i.process m w))
    (created : Context.create? v.now d m.conversationId m.contact = .ok c)
    {o : Outcome} {later : Context} {left : Outside}
    (turn : Turn.takeTurn i.registry i.maxHops d (c.say [.ofUser v.now m.message none]) none v.outside
      = ((o, later), left)) :
    (i.process m w).1 = o ∧
      (o.waitingForInput = true → Mirrors m.conversationId (i.process m w).2 later left) := by
  have reads := (Dispatch.isReading_find m.workspaceId m.botId (.ofMessage m.message) false).onlyReads
    w.joined quiet
  rw [selected] at reads
  have still : v.IsQuiet := reads.isQuiet quiet
  have responds : (i.respond m).run w = (i.start m d).run v := by
    rw [respond, run_bind, resume_run_of_none quiet absent]
    dsimp only
    rw [run_bind, selected]
  have shape := Turn.takeTurn_shape i.registry i.maxHops d (c.say [.ofUser v.now m.message none]) none
    v.outside
  have run := Turn.takeTurn_continues i.registry i.maxHops d (c.say [.ofUser v.now m.message none]) none
    v.outside
  have started := i.start_run m d still.letsWrite.isReachable created
  rw [turn] at shape run started
  dsimp only at shape run started
  rw [started] at responds
  cases after : next o with
  | ended =>
    rw [after] at responds
    rw [process_of_ok responds]
    exact ⟨rfl, fun asks => absurd (after.symm.trans ((next_waits shape).mpr asks)) (by decide)⟩
  | failed =>
    rw [after] at responds
    rw [process_of_ok responds]
    exact ⟨rfl, fun asks => absurd (after.symm.trans ((next_waits shape).mpr asks)) (by decide)⟩
  | waits =>
    rw [after] at responds
    dsimp only at responds
    have quietTurn : (v.withOutside left).IsQuiet := still
    obtain ⟨e, expiry⟩ := expiry_of_isTimely quietTurn responds timely
    have new := Context.fresh_of_create? created
    have fresh : later.sequence = 0 := run.sequence.trans new.1
    have conversation : later.conversationId = m.conversationId := run.conversationId.trans new.2
    have nothing : (v.withOutside left).store.session? later.conversationId = none := by
      rw [World.withOutside_store, reads.store, conversation]
      exact absent
    obtain ⟨u, ok, world, outside, held⟩ :=
      Keeping.save_holds_fresh quietTurn expiry fresh nothing
    rw [ok, world] at responds
    rw [process_of_ok responds]
    rw [conversation] at held
    exact ⟨rfl, fun _ => ⟨conversation, outside, 1, _, _, Int.le_refl 1, held⟩⟩

/-- A further message: the stored run makes the next turn of the run in memory, and keeps its context if
it waits. -/
theorem process_resume (plain : i.registry.IsPlain) (quiet : w.IsQuiet)
    (conversation : c.conversationId = m.conversationId) {n : Int} (positive : 1 ≤ n) {s t : Moment}
    (held : w.store.sessionsOf m.conversationId = [c.document n s t])
    (unexpired : t.compare? w.now = some .gt) {d' : Definition}
    (bound : ((Library.load c.flowId (some c.versionId)).run w.joined).1 = .ok (some d'))
    (version : d'.version = d.version)
    (node : (d.node? c.currentNodeId).isSome = true)
    (timely : i.IsTimely (i.process m w))
    {o : Outcome} {later : Context} {left : Outside}
    (turn : Turn.takeTurn i.registry i.maxHops d c (some m.message) w.outside = ((o, later), left)) :
    (i.process m w).1 = o ∧
      (o.waitingForInput = true → Mirrors m.conversationId (i.process m w).2 later left) := by
  have node' : (d'.node? c.currentNodeId).isSome = true := by
    rw [Definition.node?, version]
    exact node
  rw [← conversation] at held
  obtain ⟨v, resumed, outside, reads⟩ := resume_run quiet held unexpired bound node'
  have still : v.IsQuiet := reads.isQuiet quiet
  have responds : (i.respond m).run w = (i.proceed m (c.kept n s) d').run v := by
    rw [respond, run_bind, ← conversation, resumed]
  obtain ⟨t', kept⟩ := Turn.takeTurn_kept (d := d) plain i.maxHops c (some m.message) n s w.outside
  rw [turn] at kept
  have shape := Turn.takeTurn_shape i.registry i.maxHops d c (some m.message) w.outside
  have run := Turn.takeTurn_continues i.registry i.maxHops d c (some m.message) w.outside
  have proceeded := i.proceed_run m (c.kept n s) d' still.letsWrite
  rw [turn] at shape run
  rw [outside, Turn.takeTurn_version version, kept] at proceeded
  dsimp only at shape run proceeded
  rw [proceeded] at responds
  cases after : next o with
  | ended =>
    rw [after] at responds
    rw [process_of_ok responds]
    exact ⟨rfl, fun asks => absurd (after.symm.trans ((next_waits shape).mpr asks)) (by decide)⟩
  | failed =>
    rw [after] at responds
    rw [process_of_ok responds]
    exact ⟨rfl, fun asks => absurd (after.symm.trans ((next_waits shape).mpr asks)) (by decide)⟩
  | waits =>
    rw [after] at responds
    dsimp only at responds
    have quietTurn : (v.withOutside left).IsQuiet := still
    obtain ⟨e, expiry⟩ := expiry_of_isTimely quietTurn responds timely
    rw [← reads.store] at held
    obtain ⟨u, ok, world, outside, held⟩ :=
      Keeping.save_holds_stored (w := v.withOutside left) quietTurn expiry positive held run
    rw [ok, world] at responds
    rw [process_of_ok responds]
    rw [conversation] at held
    exact ⟨rfl, fun _ => ⟨run.conversationId.trans conversation, outside, n + 1, _, _,
      Int.le_add_one positive, held⟩⟩

/-! ## Runs -/

/-- The flow and version that a context is bound to are those of the definition it was made from. -/
theorem ids_of_create {now : Moment} {conv : String} {contact : Option Contact}
    (created : Context.create? now d conv contact = .ok c) :
    d.flow.id = some c.flowId ∧ d.version.id = some c.versionId := by
  rw [Context.create?] at created
  cases flow : d.flow.id with
  | none =>
    rw [flow] at created
    cases version : d.version.id <;> rw [version] at created <;> cases created
  | some f =>
    rw [flow] at created
    cases version : d.version.id with
    | none =>
      rw [version] at created
      cases created
    | some v =>
      rw [version] at created
      have made := Except.ok.inj created
      rw [← made]
      exact ⟨rfl, rfl⟩

/-- Answers agree with the turns in memory for as long as these wait, from a state that mirrors. -/
theorem answerAll_agree (plain : i.registry.IsPlain) {conv : String} (rest : List Arrival)
    {answer : Outcome × World} {outside : Outside} (asks : answer.1.waitingForInput = true)
    (ids : d.flow.id = some c.flowId ∧ d.version.id = some c.versionId)
    (node : (d.node? c.currentNodeId).isSome = true)
    (mirrors : Mirrors conv answer.2 c outside)
    (undisturbed : i.IsUndisturbed d conv answer rest) :
    AllAgree conv (i.answerAll answer.2 rest) (i.memoryTurns d c outside rest) := by
  induction rest generalizing answer c outside with
  | nil => exact allAgree_nil
  | cons a rest ih =>
    obtain ⟨finds, later⟩ := undisturbed asks
    obtain ⟨n, s, t, positive, held⟩ := mirrors.sessions
    obtain ⟨e, expires, unexpired⟩ := finds.unexpired _ (Store.session?_of_sessionsOf held)
    have same : e = t := by
      rw [c.document_expiresAt] at expires
      exact (Value.date.inj (Option.some.inj expires)).symm
    rw [same] at unexpired
    obtain ⟨d', bound, version⟩ := finds.bound c.flowId c.versionId ids.1 ids.2
    rw [← finds.sessions] at held
    have arrives : (a.gap.pass answer.2).outside = a.gap.outside outside := by
      rw [Gap.pass_outside, mirrors.outside]
    cases turn : Turn.takeTurn i.registry i.maxHops d c (some a.message.message)
        (a.gap.outside outside) with
    | mk result left =>
      obtain ⟨o, next⟩ := result
      rw [← arrives] at turn
      have conversation := mirrors.conversation.trans finds.conversation.symm
      rw [← finds.conversation] at held
      obtain ⟨outcome, mirrors'⟩ := process_resume plain finds.quiet conversation positive held
        unexpired bound version node finds.timely turn
      have run := Turn.takeTurn_continues i.registry i.maxHops d c (some a.message.message)
        (a.gap.pass answer.2).outside
      have waitsAt := Turn.takeTurn_waits_at (d := d) plain i.maxHops c (some a.message.message)
        (a.gap.pass answer.2).outside
      rw [turn] at run waitsAt
      rw [finds.conversation] at mirrors'
      rw [arrives] at turn
      rw [memoryTurns, turn]
      dsimp only
      refine allAgree_cons (Mirrors.agrees outcome mirrors') ?_
      cases waiting : o.waitingForInput with
      | false => exact allAgree_nil
      | true =>
        rw [if_pos rfl]
        exact ih (outcome ▸ waiting) ⟨ids.1.trans (congrArg some run.flowId.symm),
          ids.2.trans (congrArg some run.versionId.symm)⟩ (waitsAt waiting) (mirrors' waiting) later

/-! ## The whole run -/

/-- Storing is transparent. Let the first message of a conversation be dispatched to a definition, let no
fault of the store wait, and let every further message find the conversation as it was left, not expired
and bound to the same version, with the expiry of each save a point in time. Then the answers are the
outcomes of the run in memory, up to and including its first turn that does not wait, and after every
turn that waits the stored session holds the context in memory. -/
theorem process_transparent (services : Services) (maxHops : Nat) (hours : Int) (d : Definition)
    (m : Inbound) (rest : List Arrival) (w v : World) (turns : List (Outcome × Context))
    (quiet : w.IsQuiet) (absent : w.store.session? m.conversationId = none)
    (selected : (Dispatch.find m.workspaceId m.botId (.ofMessage m.message) false).run w.joined
      = (.ok (some d), v))
    (timely : (standard services maxHops hours).IsTimely
      ((standard services maxHops hours).process m w))
    (undisturbed : (standard services maxHops hours).IsUndisturbed d m.conversationId
      ((standard services maxHops hours).process m w) rest)
    (memory : (standard services maxHops hours).memoryRun? d m rest v.outside = .ok turns) :
    AllAgree m.conversationId
      ((standard services maxHops hours).process m w :: (standard services maxHops hours).answerAll
        ((standard services maxHops hours).process m w).2 rest) turns := by
  have plain : (standard services maxHops hours).registry.IsPlain := Registry.isPlain_standard services
  generalize standard services maxHops hours = i at *
  unfold memoryRun? at memory
  cases created : Context.create? v.now d m.conversationId m.contact with
  | error f =>
    rw [show v.outside.now = v.now from rfl, created] at memory
    cases memory
  | ok c =>
    rw [show v.outside.now = v.now from rfl, created] at memory
    cases turn : Turn.takeTurn i.registry i.maxHops d (c.say [.ofUser v.now m.message none]) none
        v.outside with
    | mk result left =>
      obtain ⟨o, later⟩ := result
      obtain ⟨outcome, mirrors⟩ := process_start quiet absent selected timely created turn
      have run := Turn.takeTurn_continues i.registry i.maxHops d
        (c.say [.ofUser v.now m.message none]) none v.outside
      have waitsAt := Turn.takeTurn_waits_at (d := d) plain i.maxHops
        (c.say [.ofUser v.now m.message none]) none v.outside
      have ids := ids_of_create created
      rw [turn] at run waitsAt
      have made := Except.ok.inj memory
      dsimp only at made
      rw [turn] at made
      rw [← made]
      refine allAgree_cons (Mirrors.agrees outcome mirrors) ?_
      cases waiting : o.waitingForInput with
      | false => exact allAgree_nil
      | true =>
        rw [if_pos rfl]
        exact answerAll_agree plain rest (outcome ▸ waiting)
          ⟨ids.1.trans (congrArg some run.flowId.symm),
            ids.2.trans (congrArg some run.versionId.symm)⟩
          (waitsAt waiting) (mirrors waiting) undisturbed

end Interpreter

namespace Sample

open Interpreter

/-- A gap in which nothing happens. -/
def still : Gap := ⟨id, id, fun _ => rfl⟩

theorem pass_still (w : World) : still.pass w = w := rfl

/-- The world after the small bot has asked. -/
def asked : World := ((interpreter 24).process (message "hello") (world [])).2

theorem finds_asked :
    Arrival.Finds ⟨still, message "Ann"⟩ (interpreter 24) definition "chat" asked where
  conversation := rfl
  quiet := by
    rw [pass_still]
    with_unfolding_all rfl
  sessions := by rw [pass_still]
  unexpired := by
    intro doc found
    have expires : (asked.store.session? "chat").bind (·.lookup "expires_at")
        = some (.date nextNoon) := by with_unfolding_all rfl
    rw [found] at expires
    exact ⟨nextNoon, expires, by rw [pass_still]; decide +kernel⟩
  bound := by
    intro f v flow version
    cases flow
    cases version
    rw [pass_still]
    exact ⟨definition, by with_unfolding_all rfl, rfl⟩
  timely := by
    have now : ((interpreter 24).process (message "Ann") asked).2.now = noon := by decide +kernel
    exact ⟨nextNoon, by rw [pass_still, now]; rfl⟩

/-- The small bot is asked and answered, with its session stored between the two messages. -/
theorem process_transparent_greeting :
    ∃ turns, (interpreter 24).memoryRun? definition (message "hello") [⟨still, message "Ann"⟩]
        (world []).outside = .ok turns ∧
      AllAgree "chat" ((interpreter 24).process (message "hello") (world [])
        :: (interpreter 24).answerAll asked [⟨still, message "Ann"⟩]) turns := by
  obtain ⟨turns, memory⟩ : ∃ turns, (interpreter 24).memoryRun? definition (message "hello")
      [⟨still, message "Ann"⟩] (world []).outside = .ok turns := ⟨_, rfl⟩
  have absent : (world []).store.session? (message "hello").conversationId = none := rfl
  have selected : (Dispatch.find "ws-1" "bot-1" (.ofMessage "hello") false).run (world []).joined
      = (.ok (some definition), world []) := by with_unfolding_all rfl
  have timely : (interpreter 24).IsTimely ((interpreter 24).process (message "hello") (world [])) := by
    have now : ((interpreter 24).process (message "hello") (world [])).2.now = noon := by
      decide +kernel
    exact ⟨nextNoon, by rw [now]; rfl⟩
  exact ⟨turns, memory, process_transparent services 50 24 definition (message "hello")
    [⟨still, message "Ann"⟩] (world []) (world []) turns rfl absent selected timely
    (fun _ => ⟨finds_asked, trivial⟩) memory⟩

/-- With sessions that are kept for longer than the calendar goes, the first answer of the stored run is
an excuse, where the run in memory asks for the name. -/
theorem process_not_transparent :
    ¬ ∀ (services : Services) (maxHops : Nat) (hours : Int) (d : Definition) (m : Inbound)
      (w v : World) (turns : List (Outcome × Context)),
      w.IsQuiet → w.store.session? m.conversationId = none →
      (Dispatch.find m.workspaceId m.botId (.ofMessage m.message) false).run w.joined
        = (.ok (some d), v) →
      (Interpreter.standard services maxHops hours).memoryRun? d m [] v.outside = .ok turns →
      AllAgree m.conversationId [(Interpreter.standard services maxHops hours).process m w] turns := by
  intro transparent
  obtain ⟨turns, memory, asks⟩ : ∃ turns, (interpreter 1000000000).memoryRun? definition
      (message "hello") [] (world []).outside = .ok turns
        ∧ (turns[0]?).map (·.1.waitingForInput) = some true := ⟨_, rfl, by decide +kernel⟩
  have selected : (Dispatch.find "ws-1" "bot-1" (.ofMessage "hello") false).run (world []).joined
      = (.ok (some definition), world []) := by with_unfolding_all rfl
  have agree := transparent services 50 1000000000 definition (message "hello") (world []) (world [])
    turns rfl rfl selected memory
  obtain ⟨turn, first, waiting⟩ := Option.map_eq_some_iff.mp asks
  obtain ⟨answer, here, same⟩ := agree 0 turn first
  have excuse : ((interpreter 1000000000).process (message "hello") (world [])).1.waitingForInput
      = false := by decide +kernel
  cases here
  rw [← same.outcome] at waiting
  exact absurd (excuse.symm.trans waiting) Bool.false_ne_true

end Sample

end ChatFlow
