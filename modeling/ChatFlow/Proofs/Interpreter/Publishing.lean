import ChatFlow.Proofs.Contention.Race
import ChatFlow.Proofs.Conversation.Saving
import ChatFlow.Proofs.Flow.Memory
import ChatFlow.Proofs.Interpreter.Resembling
import ChatFlow.Proofs.Interpreter.Survival
import ChatFlow.Proofs.Turn.Asking

/-!
Publishing does not disturb running conversations.

While a conversation goes on, authors write flows and versions, and definitions are dropped from memory and
loaded into it (`Edit`). A conversation is bound to the version that its run was started with. So if the
edits leave the document of that version alone, and a flow that can be read, then the turns of the run
return and store the same as without the edits (`turns_eq_of_publishes`).

Two worlds are compared, one with the edits and one without. The invariant of each is that the
conversation, if it has a session, is bound to the same graph (`Runs`); between them there is nothing but
the flows, the versions and what is in memory (`World.Resembles`). An edit preserves the invariant and goes
unnoticed (`Runs.edit`, `Edit.leaves`). A turn preserves it or ends the run (`Runs.process`), and is the same in
both worlds (`Runs.process_resembles`). The run lemma follows by induction on the history.

What is asked of the binding is needed. A version with an empty id is taken for no version, a definition in
memory is not compared with what is stored, and a fault that strikes a load costs the conversation
(`Sample.publishing_disturbs`).
-/

namespace ChatFlow

open ChatFlow.Flow (Definition)

open Contention (atTime)

namespace Interpreter

/-! ## Histories -/

/-- What authors do to flows, and what happens to the definitions in memory. -/
inductive Edit where
  /-- Flows and versions are written: a version is added, a flow is changed, published or withdrawn. -/
  | write (flows versions : Documents → Documents)
  /-- What is kept for a flow is dropped. -/
  | invalidate (flowId : String)
  /-- All that is kept is dropped. -/
  | clear
  /-- A definition is loaded, and kept. -/
  | load (flowId : String) (versionId : Option String)

/-- The world after an edit. -/
def Edit.apply : Edit → World → World
  | write flows versions, w =>
    w.withStore ((w.store.change .flows flows).change .versions versions)
  | invalidate flowId, w => (Library.invalidate flowId w).2
  | clear, w => (Library.clear w).2
  | load flowId versionId, w => ((Library.load flowId versionId).run w).2

/-- What happens while a conversation goes on. -/
inductive Step where
  /-- A message arrives, at a time. -/
  | delivery (now : Moment) (m : Inbound)
  | edit (e : Edit)

/-- A message arrives. -/
def Step.isDelivery : Step → Bool
  | delivery _ _ => true
  | edit _ => false

/-- The turns of the run that a conversation is in: what each returns, and the sessions that it leaves. The
run is over when there is no session that can be resumed. -/
def turns (i : Interpreter) (conv : String) : List Step → World → List (Outcome × Documents)
  | [], _ => []
  | .edit e :: rest, w => turns i conv rest (e.apply w)
  | .delivery now m :: rest, w =>
    match Keeping.seen w.store conv now with
    | .ok (some _) =>
      let answer := i.process m (atTime w now)
      (answer.1, answer.2.store.sessionsOf conv) :: turns i conv rest answer.2
    | _ => []

/-- The turns are the same without the edits. -/
def Undisturbed (i : Interpreter) (conv : String) (steps : List Step) (w : World) : Prop :=
  turns i conv steps w = turns i conv (steps.filter Step.isDelivery) w

/-- The flow can be read, and the document of the version is what it was. -/
structure Spares (flowId versionId : String) (w v : World) : Prop where
  readable : (v.store.readFlow? v.now flowId).isSome = true
  kept : v.store.version? versionId = w.store.version? versionId

/-- All messages belong to the conversation, and all edits spare the flow and the version. -/
def LeavesAlone (i : Interpreter) (conv flowId versionId : String) : List Step → World → Prop
  | [], _ => True
  | .edit e :: rest, w =>
    Spares flowId versionId w (e.apply w) ∧ LeavesAlone i conv flowId versionId rest (e.apply w)
  | .delivery now m :: rest, w =>
    m.conversationId = conv ∧ LeavesAlone i conv flowId versionId rest (i.process m (atTime w now)).2

/-- A conversation is in progress, and authors publish in the meantime. -/
structure Publishes (i : Interpreter) (conv : String) (c : Context) (d : Definition) (w : World)
    (steps : List Step) : Prop where
  keyed : w.store.IsKeyed conv
  /-- The next message would be the reply of the context, on the definition. -/
  resumes : ∃ v, (resume conv).run w = (.ok (some (c, d)), v)
  flow : ':' ∉ c.flowId.toList
  version : ':' ∉ c.versionId.toList
  explicit : c.versionId ≠ "current"
  steps : LeavesAlone i conv c.flowId c.versionId steps w

/-- The graph on which the context would be resumed is the one that is stored for it. -/
def IsCurrent (c : Context) (d : Definition) (w : World) : Prop :=
  ∃ d', w.store.definition? w.now c.flowId (some c.versionId) = some d' ∧ d'.SharesGraph d

variable {i : Interpreter} {m : Inbound} {w u v : World} {conv flowId versionId : String}
  {c : Context} {d : Definition} {doc : Entries}

/-! ## The invariant -/

/-- The document is the session of a run of the version, at a node of the definition. -/
structure IsBound (flowId versionId : String) (d : Definition) (doc : Entries) : Prop where
  flow : doc.lookup "flow_id" = some (.text flowId)
  version : doc.lookup "version_id" = some (.text versionId)
  node : ∃ id, doc.lookup "current_node_id" = some (.text id) ∧ (d.node? id).isSome = true

/-- A conversation that has a session is in a run of the version, which is always executed on the same
graph. -/
structure Runs (conv flowId versionId : String) (d : Definition) (w : World) : Prop where
  quiet : w.IsQuiet
  keyed : w.store.IsKeyed conv
  bound : ∀ doc, w.store.session? conv = some doc → IsBound flowId versionId d doc
  kept : Library.IsKept flowId versionId d w

/-- A context is bound to what its document is bound to. -/
theorem IsBound.of_loaded (h : IsBound flowId versionId d doc) (loaded : c.IsLoadedFrom doc) :
    c.flowId = flowId ∧ c.versionId = versionId ∧ (d.node? c.currentNodeId).isSome = true := by
  obtain ⟨id, stands, node⟩ := h.node
  have flow := loaded.flow.symm.trans h.flow
  have version := loaded.version.symm.trans h.version
  have here := loaded.node.symm.trans stands
  cases flow
  cases version
  cases here
  exact ⟨rfl, rfl, node⟩

namespace Runs

theorem of_same (h : Runs conv flowId versionId d w) (quiet : v.IsQuiet) (store : v.store = w.store)
    (cache : v.cache = w.cache) : Runs conv flowId versionId d v where
  quiet := quiet
  keyed := by
    rw [store]
    exact h.keyed
  bound := by
    rw [store]
    exact h.bound
  kept := h.kept.of_same (congrArg Store.flows store) (congrArg Store.versions store) cache

/-- A run in progress establishes the invariant, if what is in memory for it is what is stored. -/
theorem of_resumes (quiet : w.IsQuiet) (keyed : w.store.IsKeyed conv)
    (resumed : (resume conv).run w = (.ok (some (c, d)), v))
    (own : Library.HasOwnKey c.flowId c.versionId) (current : IsCurrent c d w) :
    Runs conv c.flowId c.versionId d w := by
  obtain ⟨-, reads, node⟩ := isReadAs_of_resume quiet.isAlone resumed
  obtain ⟨doc, stored, loaded⟩ := reads.isLoadedFrom
  obtain ⟨d', was, graph⟩ := current
  obtain ⟨readsFlow, -, -⟩ := (Store.definition?_eq_some_iff own.named).mp was
  refine ⟨quiet, keyed, fun doc' stored' => ?_, fun t => ?_, fun d'' held => ?_⟩
  · rw [stored, Option.some.injEq] at stored'
    subst stored'
    exact ⟨loaded.flow, loaded.version, _, loaded.node, node⟩
  · have readable : (w.store.readFlow? w.now c.flowId).isSome = true := by
      rw [readsFlow]
      rfl
    obtain ⟨e, later, same⟩ := Store.definition?_later own.named was readable rfl t
    exact ⟨e, later, same.trans graph⟩
  · -- What is in memory is what the run is resumed on.
    obtain ⟨u, -, loads⟩ := Library.load_run (w := w.joined) quiet c.flowId (some c.versionId)
    rw [resume_eq, Keeping.load_run_of_isReadAs quiet reads] at resumed
    dsimp only at resumed
    have known : Library.known? w.joined c.flowId (some c.versionId) = some d'' := by
      have held' : w.joined.cache.lookup (Library.key c.flowId (some c.versionId)) = some d'' := held
      rw [Library.known?, held', Option.some_or]
    rw [loads, known] at resumed
    dsimp only at resumed
    cases there : Interpreter.bound (some d'') c.currentNodeId with
    | none =>
      rw [there] at resumed
      dsimp only at resumed
      split at resumed <;> cases resumed
    | some e =>
      rw [there] at resumed
      cases resumed
      cases (bound_eq_some_iff.mp there).1
      exact .refl d

/-- As long as the session lasts, the run is resumed on the graph. -/
theorem resumes (h : Runs conv flowId versionId d w)
    (reads : Keeping.IsReadAs w.store conv w.now c) :
    ∃ d' u, (resume conv).run w = (.ok (some (c, d')), u) ∧ d'.SharesGraph d ∧
      Library.Leaves flowId (some versionId) w.joined u := by
  obtain ⟨doc, stored, loaded⟩ := reads.isLoadedFrom
  obtain ⟨rfl, rfl, node⟩ := (h.bound doc stored).of_loaded loaded
  have kept : Library.IsKept c.flowId c.versionId d w.joined := h.kept.of_same rfl rfl rfl
  obtain ⟨d', known, graph⟩ := kept.known
  obtain ⟨u, left, loads⟩ := Library.load_run (w := w.joined) h.quiet c.flowId (some c.versionId)
  rw [known] at loads
  rw [← graph.node?] at node
  exact ⟨d', u, resume_run_of_load h.quiet reads loads node, graph, left⟩

theorem leaves (h : Runs conv flowId versionId d w) (own : Library.HasOwnKey flowId versionId)
    {id : String} {requested : Option String} (left : Library.Leaves id requested w v) :
    Runs conv flowId versionId d v where
  quiet := left.faults.trans h.quiet
  keyed := by
    rw [left.store]
    exact h.keyed
  bound := by
    rw [left.store]
    exact h.bound
  kept := h.kept.leaves own left

/-! ## Turns -/

/-- A save binds the session to where the turn has left the conversation. -/
theorem saved (h : Runs conv flowId versionId d w) {later : Context} {t e : Moment}
    (one : w.store.sessionsOf conv = [doc]) (loaded : c.IsLoadedFrom doc) (run : later.Continues c)
    (found : doc.holds "sequence" (.int later.sequence) = true)
    (node : (d.node? later.currentNodeId).isSome = true) (quiet : v.IsQuiet)
    (store : v.store = w.store.saved conv later.sequence (later.savedFields t e))
    (cache : v.cache = w.cache) : Runs conv flowId versionId d v := by
  have other : "conversation_id" ∉ (later.savedFields t e).map Prod.fst := by
    rw [Context.map_fst_savedFields]
    decide
  have left : v.store.sessionsOf conv = [Store.advanced (later.savedFields t e) doc] := by
    rw [store]
    exact Store.sessionsOf_saved_of_holds one other found
  obtain ⟨sameFlow, sameVersion, -⟩ := (h.bound doc (Store.session?_of_sessionsOf one)).of_loaded loaded
  have holds := Context.isSavedIn_advanced loaded run t e
  refine ⟨quiet, Store.isKeyed_of_singleton left, fun doc' stored => ?_,
    h.kept.of_same (by rw [store]; rfl) (by rw [store]; rfl) cache⟩
  rw [Store.session?_of_sessionsOf left, Option.some.injEq] at stored
  subst stored
  refine ⟨?_, ?_, _, holds.currentNode, node⟩
  · rw [holds.flow, run.flowId, sameFlow]
  · rw [holds.version, run.versionId, sameVersion]

/-- A further turn ends the run, or leaves it to the next. -/
theorem process (h : Runs conv flowId versionId d w) (plain : i.registry.IsPlain)
    (own : Library.HasOwnKey flowId versionId) (mine : m.conversationId = conv)
    (reads : Keeping.IsReadAs w.store conv w.now c) :
    (i.process m w).2.IsQuiet ∧ (i.process m w).2.store.sessionsOf conv = [] ∨
      Runs conv flowId versionId d (i.process m w).2 := by
  subst mine
  obtain ⟨d', u, resumed, graph, left⟩ := h.resumes reads
  have before : Runs m.conversationId flowId versionId d u :=
    (h.of_same (v := w.joined) h.quiet rfl rfl).leaves own left
  obtain ⟨doc, stored, loaded⟩ := reads.isLoadedFrom
  have conversation := Keeping.conversationId_of_load stored loaded
  have one : u.store.sessionsOf m.conversationId = [doc] := by
    rw [left.store]
    exact h.keyed.sessionsOf_eq stored
  have responds : (i.respond m).run w = (i.proceed m c d').run u := by
    rw [respond, Operation.run_bind, resumed]
  have went := goesOn_of_proceeds before.quiet one conversation responds
  generalize i.process m w = r at went
  cases went with
  | ended o v quiet _ _ gone => exact .inl ⟨quiet, gone⟩
  | refused t v quiet _ store cache => exact .inr (before.of_same quiet store cache)
  | waits o later out t e v turn waits found quiet store cache =>
    have run := Turn.takeTurn_continues i.registry i.maxHops d' c (some m.message) u.outside
    have node := Turn.takeTurn_waits_at (d := d') plain i.maxHops c (some m.message) u.outside
    rw [turn] at run node
    refine .inr (before.saved one loaded run found ?_ quiet store cache)
    rw [← graph.node?]
    exact node waits

/-- A further turn comes to the same in two worlds with the same sessions. -/
theorem process_resembles (h : Runs conv flowId versionId d w) (h' : Runs conv flowId versionId d v)
    (ignores : i.registry.IgnoresLog) (alike : w.Resembles False v) (mine : m.conversationId = conv)
    (reads : Keeping.IsReadAs w.store conv w.now c) :
    (i.process m w).1 = (i.process m v).1 ∧
      (i.process m w).2.Resembles False (i.process m v).2 := by
  subst mine
  have reads' : Keeping.IsReadAs v.store m.conversationId v.now c := by
    rw [← alike.now]
    exact reads.congr (alike.session? _).symm
  obtain ⟨d₁, u, resumed, graph, left⟩ := h.resumes reads
  obtain ⟨d₂, u', resumed', graph', left'⟩ := h'.resumes reads'
  have same := graph.trans graph'.symm
  have loaded : u.Resembles False u' := {
    quiet := left.faults.trans h.quiet
    quiet' := left'.faults.trans h'.quiet
    sessions := by
      rw [left.store, left'.store]
      exact alike.sessions
    store := False.elim
    outside := left.outside.trans (alike.outside.trans left'.outside.symm) }
  obtain ⟨result, after⟩ := proceed_resembles ignores loaded m c same.nodes same.edges
  have responds : (i.respond m).run w = (i.proceed m c d₁).run u := by
    rw [respond, Operation.run_bind, resumed]
  have responds' : (i.respond m).run v = (i.proceed m c d₂).run u' := by
    rw [respond, Operation.run_bind, resumed']
  rw [← responds, ← responds'] at result after
  exact Interpreter.process_resembles result after

end Runs

/-! ## Edits -/

/-- An edit changes flows, versions and what is in memory. -/
theorem Edit.leaves (e : Edit) (quiet : w.IsQuiet) :
    (e.apply w).store.sessions = w.store.sessions ∧ (e.apply w).faults = w.faults ∧
      (e.apply w).outside.unlogged = w.outside.unlogged := by
  cases e with
  | write flows versions => exact ⟨rfl, rfl, rfl⟩
  | invalidate id => exact ⟨rfl, rfl, rfl⟩
  | clear => exact ⟨rfl, rfl, rfl⟩
  | load id requested =>
    obtain ⟨v, left, loads⟩ := Library.load_run quiet id requested
    rw [Edit.apply, loads]
    exact ⟨congrArg Store.sessions left.store, left.faults, left.outside⟩

/-- An edit that spares the version does not touch the run. -/
theorem Runs.edit (h : Runs conv flowId versionId d w) (own : Library.HasOwnKey flowId versionId)
    {e : Edit} (spares : Spares flowId versionId w (e.apply w)) :
    Runs conv flowId versionId d (e.apply w) := by
  cases e with
  | write flows versions =>
    exact ⟨h.quiet, h.keyed, h.bound, h.kept.written own.named spares.readable spares.kept rfl⟩
  | invalidate id =>
    exact ⟨h.quiet, h.keyed, h.bound, h.kept.drops rfl (!Library.isKeyOf id ·) rfl⟩
  | clear =>
    refine ⟨h.quiet, h.keyed, h.bound, h.kept.drops rfl (fun _ => false) ?_⟩
    exact (List.filter_eq_nil_iff.mpr fun _ _ => Bool.false_ne_true).symm
  | load id requested =>
    obtain ⟨v, left, loads⟩ := Library.load_run h.quiet id requested
    rw [Edit.apply, loads]
    exact h.leaves own left

/-! ## Whole runs -/

/-- What is read from a session at a time is what is seen of it. -/
theorem isReadAs_of_seen (quiet : w.IsQuiet) (seen : Keeping.seen w.store conv w.now = .ok (some c)) :
    Keeping.IsReadAs w.store conv w.now c := by
  rw [← Keeping.load_run_fst quiet] at seen
  exact (Keeping.isReadAs_of_load quiet.isAlone (Prod.ext seen rfl)).2

/-- Without a session there are no turns. -/
theorem turns_of_gone (steps : List Step) (quiet : w.IsQuiet) (gone : w.store.sessionsOf conv = []) :
    turns i conv steps w = [] := by
  induction steps generalizing w with
  | nil => rfl
  | cons step rest ih =>
    cases step with
    | edit e =>
      obtain ⟨sessions, faults, -⟩ := e.leaves quiet
      refine ih (faults.trans quiet) ?_
      rw [Store.sessionsOf, sessions]
      exact gone
    | delivery now m =>
      rw [turns, Keeping.seen, Store.session?_eq_none_iff.mpr gone]

/-- The two worlds resemble each other at any time. -/
theorem resembles_atTime {whole : Prop} (alike : w.Resembles whole v) (t : Moment) :
    (atTime w t).Resembles whole (atTime v t) :=
  alike.withOutside (congrArg (fun o : Outside => { o with now := t }) alike.outside)

/-- If two worlds resemble each other in which the conversation is in a run of the same graph, then its
turns come to the same, with the edits in the one and without them in the other. -/
theorem turns_eq_of_runs (plain : i.registry.IsPlain) (ignores : i.registry.IgnoresLog)
    (own : Library.HasOwnKey flowId versionId) (steps : List Step)
    (alone : LeavesAlone i conv flowId versionId steps w) (alike : w.Resembles False v)
    (h : Runs conv flowId versionId d w) (h' : Runs conv flowId versionId d v) :
    turns i conv steps w = turns i conv (steps.filter Step.isDelivery) v := by
  induction steps generalizing w v with
  | nil => rfl
  | cons step rest ih =>
    cases step with
    | edit e =>
      obtain ⟨spares, alone⟩ := alone
      obtain ⟨sessions, faults, outside⟩ := e.leaves (w := w) h.quiet
      have alike' : (e.apply w).Resembles False v := {
        quiet := faults.trans h.quiet
        quiet' := h'.quiet
        sessions := sessions.trans alike.sessions
        store := False.elim
        outside := outside.trans alike.outside }
      exact ih alone alike' (h.edit own spares) h'
    | delivery now m =>
      obtain ⟨mine, alone⟩ := alone
      have there := resembles_atTime alike now
      have h₁ : Runs conv flowId versionId d (atTime w now) := h.of_same h.quiet rfl rfl
      have h₂ : Runs conv flowId versionId d (atTime v now) := h'.of_same h'.quiet rfl rfl
      have sight : Keeping.seen v.store conv now = Keeping.seen w.store conv now := by
        rw [Keeping.seen, Keeping.seen, alike.session?]
      rw [List.filter_cons_of_pos rfl, turns, turns, sight]
      cases seen : Keeping.seen w.store conv now with
      | error f => rfl
      | ok found =>
        cases found with
        | none => rfl
        | some c =>
          have reads : Keeping.IsReadAs (atTime w now).store conv (atTime w now).now c :=
            isReadAs_of_seen h₁.quiet seen
          have reads' := reads.congr (there.session? conv).symm
          obtain ⟨same, after⟩ := h₁.process_resembles h₂ ignores there mine reads
          have left : (i.process m (atTime w now)).2.store.sessionsOf conv
              = (i.process m (atTime v now)).2.store.sessionsOf conv := by
            rw [Store.sessionsOf, after.sessions]
            rfl
          dsimp only
          rw [same, left, List.cons.injEq]
          refine ⟨rfl, ?_⟩
          rcases h₁.process plain own mine reads with ⟨quiet, gone⟩ | runs
          · rw [turns_of_gone _ quiet gone, turns_of_gone _ after.quiet' (left.symm.trans gone)]
          · rcases h₂.process plain own mine reads' with ⟨quiet, gone⟩ | runs'
            · rw [turns_of_gone _ after.quiet (left.trans gone), turns_of_gone _ quiet gone]
            · exact ih alone after runs runs'

/-- Publishing does not disturb a run in progress, where no fault waits, its version has an id, and the
run would be resumed on what is stored for it. -/
theorem turns_eq_of_publishes {s : Services} {maxHops : Nat} {hours : Int} {steps : List Step}
    (publishes : Publishes (standard s maxHops hours) conv c d w steps) (quiet : w.IsQuiet)
    (named : c.versionId ≠ "") (current : IsCurrent c d w) :
    Undisturbed (standard s maxHops hours) conv steps w := by
  have own : Library.HasOwnKey c.flowId c.versionId :=
    ⟨publishes.flow, publishes.version, named, publishes.explicit⟩
  obtain ⟨v, resumed⟩ := publishes.resumes
  have runs := Runs.of_resumes quiet publishes.keyed resumed own current
  exact turns_eq_of_runs (Registry.isPlain_standard s) (Registry.ignoresLog_standard s) own steps
    publishes.steps (.refl quiet) runs runs

end Interpreter

namespace Sample

open Interpreter

/-- The document of a second version, which has nothing to ask. -/
def nextDocument : Entries :=
  [("_id", .text "v2"), ("flow_id", .text "greeting"), ("version", .int 2),
    ("nodes", .list [.dict [("id", .text "hello"), ("type", .text "end"), ("data", .dict [])]])]

/-- The second version is added. -/
def addition : Edit := .write id (· ++ [nextDocument])

/-- The second version is added and becomes the current one. -/
def publication : Edit :=
  .write (·.map (Entries.insert "current_version_id" (.text "v2"))) (· ++ [nextDocument])

/-- The reply arrives at noon. -/
def reply : Step := .delivery noon (message "Ann")

/-- The world of the bot with a session that waits for the name, given the flow's versions. -/
def asking (versions : Documents) : World := { world [session] with
  store := ⟨[mutedDocument], versions, [session]⟩ }

/-- The definition as it is read from the store at noon. -/
def stored : Flow.Definition where
  flow := { flow with currentVersionId := none, createdAt := some noon, updatedAt := some noon }
  version := { version with createdAt := some noon }

/-- The second version is published before the reply arrives, and the flow is loaded anew for others. -/
def republication : List Step :=
  [.edit publication, .edit (.invalidate "greeting"), .edit (.load "greeting" none), reply]

theorem undisturbed_republication :
    Undisturbed (interpreter 24) "chat" republication (asking [versionDocument]) := by
  have publishes : Publishes (interpreter 24) "chat" context definition (asking [versionDocument])
      republication := {
    keyed := Nat.le_refl 1
    resumes := ⟨asking [versionDocument], by with_unfolding_all rfl⟩
    flow := by decide
    version := by decide
    explicit := by decide
    steps := ⟨⟨by decide +kernel, by with_unfolding_all rfl⟩, ⟨by decide +kernel, by with_unfolding_all rfl⟩,
      ⟨by decide +kernel, by with_unfolding_all rfl⟩, rfl, trivial⟩ }
  exact turns_eq_of_publishes publishes rfl (by decide)
    ⟨stored, by with_unfolding_all rfl, rfl, rfl⟩

/-- The document of the version, with an empty id. -/
def namelessDocument : Entries := Entries.update versionDocument [("_id", .text "")]

/-- The conversation in a run of the version with the empty id. -/
def nameless : Context := { context with versionId := "" }

/-- The world of the bot with that conversation, and nothing in memory. -/
def unnamed : World := { world [session] with
  store := ⟨[mutedDocument], [namelessDocument], [nameless.document 1 noon nextNoon]⟩
  cache := [] }

/-- The world of the bot in which the document of the version has another graph than the definition in
memory. -/
def stale : World := asking [Entries.update nextDocument [("_id", .text "v1")]]

/-- The world of the bot in which the flow cannot be read at once. -/
def shaky : World := { asking [versionDocument] with faults := [failing .findOne .flows] }

theorem publishes_unnamed : Publishes (interpreter 24) "chat" nameless
    { stored with version := { stored.version with id := some "" } } unnamed [.edit addition, reply] where
  keyed := Nat.le_refl 1
  resumes := ⟨_, by with_unfolding_all rfl⟩
  flow := by decide
  version := by decide
  explicit := by decide
  steps := ⟨⟨by decide +kernel, by with_unfolding_all rfl⟩, rfl, trivial⟩

theorem publishes_stale :
    Publishes (interpreter 24) "chat" context definition stale [.edit .clear, reply] where
  keyed := Nat.le_refl 1
  resumes := ⟨stale, by with_unfolding_all rfl⟩
  flow := by decide
  version := by decide
  explicit := by decide
  steps := ⟨⟨by decide +kernel, by with_unfolding_all rfl⟩, rfl, trivial⟩

theorem publishes_shaky :
    Publishes (interpreter 24) "chat" context definition shaky [.edit .clear, reply] where
  keyed := Nat.le_refl 1
  resumes := ⟨shaky, by with_unfolding_all rfl⟩
  flow := by decide
  version := by decide
  explicit := by decide
  steps := ⟨⟨by decide +kernel, by with_unfolding_all rfl⟩, rfl, trivial⟩

/-- Turns that succeed in one history and not in the other differ. -/
theorem not_undisturbed {steps : List Step} {w : World}
    (differ : (turns (interpreter 24) "chat" steps w).map (·.1.success)
      ≠ (turns (interpreter 24) "chat" (steps.filter Step.isDelivery) w).map (·.1.success)) :
    ¬ Undisturbed (interpreter 24) "chat" steps w := fun same =>
  differ (congrArg (List.map _) same)

/-- Each condition on the binding is needed. A run of a version with an empty id is resumed on whatever
version is current; memory that was cleared is filled from a document that was written over; and a flow
that cannot be read after memory was cleared costs the conversation. -/
theorem publishing_disturbs :
    (¬ ∀ (s : Services) (maxHops : Nat) (hours : Int) (conv : String) (c : Context)
      (d : Flow.Definition) (w : World) (steps : List Step),
      Publishes (.standard s maxHops hours) conv c d w steps → w.IsQuiet → IsCurrent c d w →
      Undisturbed (.standard s maxHops hours) conv steps w) ∧
    (¬ ∀ (s : Services) (maxHops : Nat) (hours : Int) (conv : String) (c : Context)
      (d : Flow.Definition) (w : World) (steps : List Step),
      Publishes (.standard s maxHops hours) conv c d w steps → w.IsQuiet → c.versionId ≠ "" →
      Undisturbed (.standard s maxHops hours) conv steps w) ∧
    ¬ ∀ (s : Services) (maxHops : Nat) (hours : Int) (conv : String) (c : Context)
      (d : Flow.Definition) (w : World) (steps : List Step),
      Publishes (.standard s maxHops hours) conv c d w steps → c.versionId ≠ "" → IsCurrent c d w →
      Undisturbed (.standard s maxHops hours) conv steps w := by
  refine ⟨fun undisturbed => ?unnamed, fun undisturbed => ?stale, fun undisturbed => ?shaky⟩
  case unnamed =>
    have same := undisturbed services 50 24 "chat" _ _ unnamed _ publishes_unnamed rfl
      ⟨_, by with_unfolding_all rfl, .refl _⟩
    exact not_undisturbed (by decide +kernel) same
  case stale =>
    have same := undisturbed services 50 24 "chat" _ _ stale _ publishes_stale rfl (by decide)
    exact not_undisturbed (by decide +kernel) same
  case shaky =>
    have same := undisturbed services 50 24 "chat" _ _ shaky _ publishes_shaky (by decide)
      ⟨stored, by with_unfolding_all rfl, rfl, rfl⟩
    exact not_undisturbed (by decide +kernel) same

end Sample

end ChatFlow
