import ChatFlow.Proofs.Flow.Choosing
import ChatFlow.Proofs.Interpreter.Publishing
import ChatFlow.Proofs.Interpreter.Tallying
import ChatFlow.Proofs.Library.Resolving

/-!
One document for a run.

A flow is chosen by its document, and from there on it goes by the text of its id: to the library, into the
context, into the session, and at the end of the run to the counters. Each time the text is read anew, as a
record id if it has the form of one. `OneDocument` says that all of this leads back to the document that was
chosen, over all histories of the run: what is loaded was built from it, every further turn is made on
something built from it, and the run is counted on it. So it is exactly for the ids that are what their text
stands for (`Interpreter.oneDocument_iff`): for record ids, and for texts that do not look like one.

The document may be written to while the run goes on, so the history carries the stores of the past: a
definition is built from the document as it was in one of them (`Store.Builds`). One step preserves that the
sessions of the conversation are those of runs of the flow and that what is in memory for the flow was built
from its document (`Interpreter.IsTied`), and so does a history (`Interpreter.IsTied.staysOn`).
-/

namespace ChatFlow

open ChatFlow.Flow (Record Definition Event)

open Contention (atTime)

open Operation (run_bind)

/-! ## Ids of flows -/

/-- The value under which a flow is stored, and its text: a text, or the digits of a record id. -/
inductive Value.IsFlowId : Value → String → Prop
  | text (id : String) : IsFlowId (.text id) id
  | recordId {hex : String} (digits : Value.ofId hex = .recordId hex) : IsFlowId (.recordId hex) hex

theorem Value.IsFlowId.display? {v : Value} {id : String} (h : v.IsFlowId id) : v.display? = .ok id := by
  cases h <;> rfl

/-- A flow is read with the text of its id. -/
theorem Flow.Record.id_of_ofDocument? {now : Moment} {doc : Entries} {r : Record} {v : Value} {id : String}
    (reads : Record.ofDocument? now doc = .ok r) (own : doc.lookup "_id" = some v)
    (named : v.IsFlowId id) : r.id = some id := by
  obtain ⟨es, text, valid⟩ := ofDocument_eq_ok_iff.mp reads
  have shown : es.lookup "id" = some (.ofText? (some id)) := by
    rw [Entries.withIdText?, own] at text
    dsimp only at text
    rw [named.display?] at text
    cases text
    exact Entries.lookup_insert_self _ _ _
  obtain ⟨_, _, h₁, updatedAt, rfl⟩ := Schema.Checked.seq_eq_valid valid
  obtain ⟨_, _, h₂, createdAt, rfl⟩ := Schema.Checked.seq_eq_valid h₁
  obtain ⟨_, _, h₃, successfulRuns, rfl⟩ := Schema.Checked.seq_eq_valid h₂
  obtain ⟨_, _, h₄, totalRuns, rfl⟩ := Schema.Checked.seq_eq_valid h₃
  obtain ⟨_, _, h₅, current, rfl⟩ := Schema.Checked.seq_eq_valid h₄
  obtain ⟨_, _, h₆, published, rfl⟩ := Schema.Checked.seq_eq_valid h₅
  obtain ⟨_, _, h₇, status, rfl⟩ := Schema.Checked.seq_eq_valid h₆
  obtain ⟨_, _, h₈, triggers, rfl⟩ := Schema.Checked.seq_eq_valid h₇
  obtain ⟨_, _, h₉, name, rfl⟩ := Schema.Checked.seq_eq_valid h₈
  obtain ⟨_, _, h₁₀, bot, rfl⟩ := Schema.Checked.seq_eq_valid h₉
  obtain ⟨_, _, h₁₁, workspace, rfl⟩ := Schema.Checked.seq_eq_valid h₁₀
  obtain ⟨_, first, rfl⟩ := Schema.Checked.map_eq_valid h₁₁
  rw [Schema.maybe_text_of_lookup shown] at first
  cases first
  rfl

/-- A context is bound to the flow that it is created for. -/
theorem Context.flowId_of_create? {now : Moment} {d : Definition} {conv id : String}
    {contact : Option Contact} {c : Context} (created : create? now d conv contact = .ok c)
    (flow : d.flow.id = some id) : c.flowId = id := by
  rw [create?, flow] at created
  cases version : d.version.id with
  | none =>
    rw [version] at created
    cases created
  | some v =>
    rw [version] at created
    cases created
    rfl

/-! ## Definitions and the documents behind them -/

namespace Store

/-- The document is the one that is selected for the event among the flows in service of the bot. -/
def Selects (s : Store) (now : Moment) (workspaceId botId : String) (e : Event) (doc : Entries) : Prop :=
  doc ∈ s.activeFlows workspaceId botId ∧
    ∃ c, s.chosen? now workspaceId botId e false = .ok (some c) ∧ Record.ofDocument? now doc = .ok c.flow

/-- The definition of the flow that the document holds. -/
def definitionOf? (s : Store) (now : Moment) (doc : Entries) (id : String) : Option Definition :=
  (Record.ofDocument? now doc).toOption.bind fun flow =>
    (s.ownVersion? now flow id none).map fun version => ⟨flow, version⟩

/-- The definition was built from the document with the id, and from a version of the flow. -/
structure Builds (s : Store) (v : Value) (id : String) (d : Definition) : Prop where
  flow : ∃ doc ∈ s.flows, ∃ t, doc.lookup "_id" = some v ∧ Record.ofDocument? t doc = .ok d.flow
  version : d.version.flowId = id

variable {s : Store} {now : Moment} {id : String} {requested : Option String} {d : Definition}
  {doc : Entries}

theorem builds_of_definition? (h : s.definition? now id requested = some d) :
    s.Builds (.ofId id) id d := by
  rw [definition?_eq_ownVersion?] at h
  obtain ⟨flow, reads, made⟩ := Option.bind_eq_some_iff.mp h
  obtain ⟨version, own, rfl⟩ := Option.map_eq_some_iff.mp made
  obtain ⟨doc, found, flow_reads⟩ := Option.bind_eq_some_iff.mp reads
  obtain ⟨mem, id_⟩ := Documents.lookup_of_find? found
  refine ⟨⟨doc, mem, now, id_, ?_⟩, ?_⟩
  · cases result : Record.ofDocument? now doc with
    | error f =>
      rw [result] at flow_reads
      cases flow_reads
    | ok r =>
      rw [result] at flow_reads
      cases flow_reads
      rfl
  · exact beq_iff_eq.mp (Option.filter_eq_some_iff.mp own).2

theorem Builds.flowId {v : Value} (h : s.Builds v id d) (named : v.IsFlowId id) : d.flow.id = some id := by
  obtain ⟨doc, -, t, own, reads⟩ := h.flow
  exact Record.id_of_ofDocument? reads own named

/-- A flow that is found by its text is loaded from its own document. -/
theorem definition?_eq_definitionOf? (distinct : s.flows.AreDistinct) (mem : doc ∈ s.flows)
    (own : doc.lookup "_id" = some (.ofId id)) : s.definition? now id none = s.definitionOf? now doc id := by
  rw [definition?_eq_ownVersion?, readFlow?, flow?, distinct.find?_eq mem own]
  rfl

end Store

namespace Library

/-- What is in memory for the flow was built from the document with the id, in stores of the past. -/
def IsBuilt (past : List Store) (v : Value) (id : String) (w : World) : Prop :=
  ∀ versionId d, w.cache.lookup (key id versionId) = some d → ∃ s ∈ past, s.Builds v id d

/-- A request has no key with the flow in common, unless it asks for the flow. -/
def KeepsClear (id flowId : String) (requested : Option String) : Prop :=
  ∀ versionId, key id versionId = key flowId requested → flowId = id

variable {past : List Store} {id flowId : String} {requested : Option String} {w v : World} {d : Definition}

theorem Leaves.of_consults {x : World} (consults : w.Consults v) (left : Leaves flowId requested v x) :
    Leaves flowId requested w x where
  store := left.store.trans consults.store
  faults := left.faults.trans consults.faults
  outside := left.outside.trans consults.outside
  memory k := by rw [left.memory, known?_of_consults consults, consults.cache]

namespace IsBuilt

theorem of_same (h : IsBuilt past (.ofId id) id w) (s : Store) (cache : v.cache = w.cache) :
    IsBuilt (s :: past) (.ofId id) id v := by
  intro versionId d held
  rw [cache] at held
  obtain ⟨t, here, builds⟩ := h versionId d held
  exact ⟨t, List.mem_cons_of_mem s here, builds⟩

/-- What a request for the flow comes to was built from its document. -/
theorem known (h : IsBuilt past (.ofId id) id w) (known : known? w id requested = some d) :
    ∃ s ∈ w.store :: past, s.Builds (.ofId id) id d := by
  unfold known? at known
  cases held : w.cache.lookup (key id requested) with
  | some d' =>
    rw [held, Option.some_or] at known
    cases known
    obtain ⟨t, here, builds⟩ := h requested d held
    exact ⟨t, List.mem_cons_of_mem _ here, builds⟩
  | none =>
    rw [held, Option.none_or] at known
    exact ⟨w.store, List.mem_cons_self, Store.builds_of_definition? known⟩

/-- What is left in memory after a load was built from the document, too. -/
theorem leaves (h : IsBuilt past (.ofId id) id w) (clear : KeepsClear id flowId requested)
    (left : Leaves flowId requested w v) : IsBuilt (w.store :: past) (.ofId id) id v := by
  intro versionId d held
  rw [left.memory] at held
  split at held
  case isTrue same =>
    cases clear versionId same
    exact h.known held
  case isFalse => exact h.of_same w.store rfl versionId d held

/-- What remains when something is dropped was there before. -/
theorem drops (h : IsBuilt past (.ofId id) id w) (s : Store) (keeps : String → Bool)
    (cache : v.cache = w.cache.filter fun (k, _) => keeps k) : IsBuilt (s :: past) (.ofId id) id v := by
  intro versionId d held
  rw [cache, Entries.lookup_filter] at held
  split at held
  · exact h.of_same s rfl versionId d held
  · cases held

end IsBuilt

end Library

namespace Interpreter

variable {i : Interpreter} {m : Inbound} {w u x : World} {conv id : String} {v : Value}
  {past : List Store} {c : Context} {d : Definition} {o : Outcome} {doc : Entries}

/-! ## Runs that stay on one document -/

/-- The document with the id is selected, in a world in which no fault waits and nothing but what was built
from it is in memory for the flow. -/
structure Selected (past : List Store) (v : Value) (id : String) (doc : Entries) (workspaceId botId : String)
    (e : Event) (w : World) : Prop where
  quiet : w.IsQuiet
  distinct : w.store.flows.AreDistinct
  own : doc.lookup "_id" = some v
  selects : w.store.Selects w.now workspaceId botId e doc
  memory : Library.IsBuilt past v id w

/-- The step belongs to the conversation, or happens elsewhere; if something is loaded there, it does not
come under a key of the flow. -/
def Step.Concerns (conv id : String) : Step → Prop
  | .delivery _ m => m.conversationId = conv
  | .edit (.load flowId requested) => Library.KeepsClear id flowId requested
  | .edit _ => True

/-- As long as the run goes on, it is bound to the flow, its turns are made on definitions that were built
from the document with the id, and it is counted on that document. -/
def StaysOn (i : Interpreter) (conv : String) (v : Value) (id : String) :
    List Store → List Step → World → Prop
  | _, [], _ => True
  | past, .edit e :: rest, w => StaysOn i conv v id (w.store :: past) rest (e.apply w)
  | past, .delivery now m :: rest, w =>
    ∀ c d u, (resume m.conversationId).run (atTime w now) = (.ok (some (c, d)), u) →
      c.flowId = id ∧ (∃ s ∈ w.store :: past, s.Builds v id d) ∧ Tallies i m v (atTime w now) ∧
        StaysOn i conv v id (w.store :: past) rest (i.process m (atTime w now)).2

/-- The flow that is selected, the one that is executed and the one that is counted on are one document, for
documents with this id. -/
structure OneDocument (v : Value) (id : String) : Prop where
  /-- What is loaded for an event that selects the document was built from it; if nothing was in memory, it is
  the definition of the document. -/
  loads : ∀ past doc workspaceId botId e w, Selected past v id doc workspaceId botId e w →
    ∃ known, ((Dispatch.find workspaceId botId e false).run w).1 = .ok known ∧
      (∀ d, known = some d → ∃ s ∈ w.store :: past, s.Builds v id d) ∧
      (w.cache.lookup (Library.key id none) = none → known = w.store.definitionOf? w.now doc id)
  /-- A run that begins with a message that selects the document stays on it. -/
  stays : ∀ (i : Interpreter) (m : Inbound) (past : List Store) (doc : Entries) (steps : List Step)
    (w u : World), w.IsQuiet → (resume m.conversationId).run w = (.ok none, u) →
    u.store.sessionsOf m.conversationId = [] →
    Selected past v id doc m.workspaceId m.botId (.ofMessage m.message) u →
    (∀ step ∈ steps, step.Concerns m.conversationId id) →
    Tallies i m v w ∧
      StaysOn i m.conversationId v id (u.store :: past) steps (i.process m w).2

/-! ## The invariant -/

/-- The sessions of the conversation are those of runs of the flow, and what is in memory for the flow was
built from the document that its id stands for. -/
structure IsTied (conv id : String) (past : List Store) (w : World) : Prop where
  quiet : w.IsQuiet
  runs : w.store.AreRunsOf conv id
  memory : Library.IsBuilt past (.ofId id) id w

/-- A run is resumed on what the library has for its flow and its version. -/
theorem leaves_of_resume (quiet : w.IsQuiet)
    (resumed : (resume conv).run w = (.ok (some (c, d)), u)) :
    Library.Leaves c.flowId (some c.versionId) w.joined u ∧
      Library.known? w.joined c.flowId (some c.versionId) = some d := by
  obtain ⟨loaded, -⟩ := load_of_resume quiet resumed
  obtain ⟨x, left, loads⟩ := Library.load_run (w := w.joined) quiet c.flowId (some c.versionId)
  rw [resume_eq, loaded] at resumed
  dsimp only at resumed
  rw [loads] at resumed
  dsimp only at resumed
  cases there : bound (Library.known? w.joined c.flowId (some c.versionId)) c.currentNodeId with
  | none =>
    rw [there] at resumed
    dsimp only at resumed
    split at resumed <;> cases resumed
  | some d' =>
    rw [there] at resumed
    cases resumed
    exact ⟨left, (bound_eq_some_iff.mp there).1⟩

/-- A resumed context is bound to the flow of its session. -/
theorem flowId_of_resume (quiet : w.IsQuiet) (runs : w.store.AreRunsOf conv id)
    (resumed : (resume conv).run w = (.ok (some (c, d)), u)) : c.flowId = id := by
  obtain ⟨-, reads, -⟩ := isReadAs_of_resume quiet.isAlone resumed
  obtain ⟨doc, stored, loaded⟩ := reads.isLoadedFrom
  have here : doc ∈ w.store.sessionsOf conv :=
    List.mem_filter.mpr ⟨List.mem_of_find?_eq_some stored, Store.holdsAll_of_session? stored⟩
  have flow := loaded.flow.symm.trans (runs doc here)
  cases flow
  rfl

namespace IsTied

theorem carries {y : World} (h : IsTied conv id past x) (carries : x.Carries conv id y) :
    IsTied conv id past y where
  quiet := carries.quiet h.quiet
  runs := carries.runs h.runs
  memory versionId d held := by
    rw [carries.cache] at held
    exact h.memory versionId d held

/-- What follows the turn keeps the conversation tied to the flow. -/
theorem process_of_makes (h : IsTied m.conversationId id past x) (makes : Makes i m w d o c x)
    (bound : c.flowId = id) : IsTied m.conversationId id past (i.process m w).2 := by
  obtain ⟨y, carries, left, -⟩ := Interpreter.process_of_makes makes h.quiet
  rw [bound] at carries
  have tied := h.carries carries
  rw [left]
  split
  · obtain ⟨quiet, cache, sessions, -⟩ := counted_frame tied.quiet c.flowId o.success
    refine ⟨quiet, fun doc here => ?_, fun versionId d held => ?_⟩
    · rw [Store.sessionsOf, sessions] at here
      exact tied.runs doc here
    · rw [cache] at held
      exact tied.memory versionId d held
  · exact tied

/-- An edit keeps the conversation tied to the flow. -/
theorem edit (h : IsTied conv id past w) {e : Edit} (concerns : (Step.edit e).Concerns conv id) :
    IsTied conv id (w.store :: past) (e.apply w) := by
  obtain ⟨sessions, faults, -⟩ := e.leaves h.quiet
  refine ⟨faults.trans h.quiet, fun doc here => ?_, ?_⟩
  · rw [Store.sessionsOf, sessions] at here
    exact h.runs doc here
  · cases e with
    | write flows versions => exact h.memory.of_same w.store rfl
    | invalidate flowId => exact h.memory.drops w.store (!Library.isKeyOf flowId ·) rfl
    | clear =>
      refine h.memory.drops w.store (fun _ => false) ?_
      exact (List.filter_eq_nil_iff.mpr fun _ _ => Bool.false_ne_true).symm
    | load flowId requested =>
      obtain ⟨x, left, loads⟩ := Library.load_run h.quiet flowId requested
      rw [Edit.apply, loads]
      exact h.memory.leaves concerns left

/-- A further turn is made on what was built from the document, is counted there if it ends the run, and
keeps the conversation tied to the flow. -/
theorem delivery (h : IsTied m.conversationId id past w)
    (resumed : (resume m.conversationId).run w = (.ok (some (c, d)), u)) :
    c.flowId = id ∧ (∃ s ∈ w.store :: past, s.Builds (.ofId id) id d) ∧ Tallies i m (.ofId id) w ∧
      IsTied m.conversationId id (w.store :: past) (i.process m w).2 := by
  have bound := flowId_of_resume h.quiet h.runs resumed
  obtain ⟨left, known⟩ := leaves_of_resume h.quiet resumed
  rw [bound] at left known
  have memory : Library.IsBuilt past (.ofId id) id w.joined := h.memory
  -- The turn that answers the message.
  have run := Turn.takeTurn_continues i.registry i.maxHops d c (some m.message) u.outside
  generalize turn : Turn.takeTurn i.registry i.maxHops d c (some m.message) u.outside = r at run
  obtain ⟨⟨o, later⟩, out⟩ := r
  have makes : Makes i m w d o later (u.withOutside out) := .proceeds c later d u o out resumed turn
  have same : later.flowId = id := run.flowId.trans bound
  have tied : IsTied m.conversationId id (w.store :: past) (u.withOutside out) := {
    quiet := left.faults.trans h.quiet
    runs doc here := by
      have here' : doc ∈ u.store.sessionsOf m.conversationId := here
      rw [left.store] at here'
      exact h.runs doc here'
    memory := fun versionId d held => memory.leaves (fun _ _ => rfl) left versionId d held }
  refine ⟨bound, memory.known known, ?_, tied.process_of_makes makes same⟩
  rw [← same]
  exact makes.tallies h.quiet

/-- A conversation that is tied to the flow stays on the document. -/
theorem staysOn (h : IsTied conv id past w) (steps : List Step)
    (concern : ∀ step ∈ steps, step.Concerns conv id) :
    StaysOn i conv (.ofId id) id past steps w := by
  induction steps generalizing past w with
  | nil => trivial
  | cons step rest ih =>
    have later : ∀ step ∈ rest, step.Concerns conv id := fun s here => concern s (List.mem_cons_of_mem _ here)
    have first := concern step List.mem_cons_self
    cases step with
    | edit e => exact ih (h.edit first) later
    | delivery now m =>
      cases first
      intro c d u resumed
      have there : IsTied m.conversationId id past (atTime w now) := ⟨h.quiet, h.runs, h.memory⟩
      obtain ⟨bound, builds, tallies, tied⟩ := there.delivery (i := i) resumed
      exact ⟨bound, builds, tallies, ih tied later⟩

end IsTied

/-! ## The first message -/

/-- The id by which the library is asked is that of the document that was selected. -/
theorem Selected.find_run {workspaceId botId : String} {e : Event} (named : v.IsFlowId id)
    (selected : Selected past v id doc workspaceId botId e w) :
    ∃ x, Library.Leaves id none w x ∧
      (Dispatch.find workspaceId botId e false).run w = (.ok (Library.known? w id none), x) := by
  obtain ⟨-, candidate, chosen, reads⟩ := selected.selects
  have same : candidate.id = id := by
    rw [Flow.Candidate.id, Record.id_of_ofDocument? reads selected.own named]
    rfl
  obtain ⟨y, consults, run⟩ := Dispatch.find_run selected.quiet workspaceId botId e false
  obtain ⟨x, left, loads⟩ := Library.load_run (consults.isQuiet selected.quiet) id none
  rw [chosen] at run
  dsimp only at run
  rw [same, loads] at run
  refine ⟨x, left.of_consults consults, run.trans ?_⟩
  rw [Library.known?_of_consults consults]

/-- A message that is answered without a turn changes no flow. -/
theorem tallies_of_idle (idle : ∀ d o c x, ¬ Makes i m w d o c x)
    (same : (i.process m w).2.store.flows = w.store.flows) : Tallies i m v w :=
  .unended (fun d o c x makes => absurd makes (idle d o c x)) same

/-- A message for which there is no definition changes nothing. -/
theorem IsTied.unanswered (tied : IsTied m.conversationId id past x)
    (flows : x.store.flows = w.store.flows)
    (resumed : (resume m.conversationId).run w = (.ok none, u))
    (found : (Dispatch.find m.workspaceId m.botId (.ofMessage m.message) false).run u = (.ok none, x)) :
    Tallies i m v w ∧ IsTied m.conversationId id past (i.process m w).2 := by
  have responds := respond_of_nothing (i := i) resumed
  rw [found] at responds
  rw [process_of_ok responds]
  refine ⟨tallies_of_idle (fun d o c x makes => ?_) ?_, tied⟩
  · cases makes with
    | proceeds _ _ _ _ _ _ resumed' => cases resumed.symm.trans resumed'
    | starts _ _ _ _ _ _ _ resumed' found' =>
      cases resumed.symm.trans resumed'
      cases found.symm.trans found'
  · rw [process_of_ok responds]
    exact flows

/-- A run of the flow that cannot be started clears the conversation. -/
theorem IsTied.unstarted {f : Failure} (tied : IsTied m.conversationId id past x)
    (flows : x.store.flows = w.store.flows)
    (resumed : (resume m.conversationId).run w = (.ok none, u))
    (found : (Dispatch.find m.workspaceId m.botId (.ofMessage m.message) false).run u = (.ok (some d), x))
    (created : Context.create? x.now d m.conversationId m.contact = .error f) :
    Tallies i m v w ∧ IsTied m.conversationId id past (i.process m w).2 := by
  have fails : (i.respond m).run w = (.error f, x) := by
    rw [respond_of_nothing resumed, found]
    dsimp only
    rw [start, run_bind, Operation.run_now]
    dsimp only
    rw [run_bind, Operation.run_ofExcept, created]
  have carries := carries_of_error id fails tied.quiet
  refine ⟨tallies_of_idle (fun d' o c x' makes => ?_) (carries.flows.trans flows), tied.carries carries⟩
  cases makes with
  | proceeds _ _ _ _ _ _ resumed' => cases resumed.symm.trans resumed'
  | starts _ _ _ _ _ _ _ resumed' found' created' =>
    cases resumed.symm.trans resumed'
    cases found.symm.trans found'
    cases created.symm.trans created'

/-- The first turn of a run of the flow is counted on what its id stands for, if it ends the run. -/
theorem IsTied.started (quiet : w.IsQuiet) (tied : IsTied m.conversationId id past x)
    (resumed : (resume m.conversationId).run w = (.ok none, u))
    (found : (Dispatch.find m.workspaceId m.botId (.ofMessage m.message) false).run u = (.ok (some d), x))
    (flow : d.flow.id = some id) (created : Context.create? x.now d m.conversationId m.contact = .ok c) :
    Tallies i m (.ofId id) w ∧ IsTied m.conversationId id past (i.process m w).2 := by
  have run := Turn.takeTurn_continues i.registry i.maxHops d (c.say [.ofUser x.now m.message none]) none
    x.outside
  generalize turn : Turn.takeTurn i.registry i.maxHops d (c.say [.ofUser x.now m.message none]) none
    x.outside = r at run
  obtain ⟨⟨o, later⟩, out⟩ := r
  have makes : Makes i m w d o later (x.withOutside out) :=
    .starts c later d u x o out resumed found created turn
  have fresh : c.flowId = id := Context.flowId_of_create? created flow
  have bound : later.flowId = id := run.flowId.trans fresh
  have tied' : IsTied m.conversationId id past (x.withOutside out) :=
    ⟨tied.quiet, tied.runs, tied.memory⟩
  refine ⟨?_, tied'.process_of_makes makes bound⟩
  rw [← bound]
  exact makes.tallies quiet

/-- A first message that selects a document which is found by its text is counted there if it ends the run,
and leaves the conversation tied to the flow. -/
theorem tied_of_selected (quiet : w.IsQuiet) (named : (Value.ofId id).IsFlowId id)
    (resumed : (resume m.conversationId).run w = (.ok none, u))
    (vacant : u.store.sessionsOf m.conversationId = [])
    (selected : Selected past (.ofId id) id doc m.workspaceId m.botId (.ofMessage m.message) u) :
    Tallies i m (.ofId id) w ∧ IsTied m.conversationId id (u.store :: past) (i.process m w).2 := by
  obtain ⟨x, left, found⟩ := selected.find_run named
  have flows : x.store.flows = w.store.flows := by
    rw [left.store]
    exact (flows_of_nothing quiet resumed).1
  have tied : IsTied m.conversationId id (u.store :: past) x := {
    quiet := left.faults.trans selected.quiet
    runs doc here := by
      rw [left.store, vacant] at here
      cases here
    memory := selected.memory.leaves (fun _ _ => rfl) left }
  cases known : Library.known? u id none with
  | none =>
    rw [known] at found
    exact tied.unanswered flows resumed found
  | some d =>
    rw [known] at found
    obtain ⟨s, -, builds⟩ := selected.memory.known known
    cases created : Context.create? x.now d m.conversationId m.contact with
    | error f => exact tied.unstarted flows resumed found created
    | ok c => exact tied.started quiet resumed found (builds.flowId named) created

/-- A document whose id is what its text stands for is the one that is executed and counted. -/
theorem oneDocument_ofId (named : (Value.ofId id).IsFlowId id) : OneDocument (.ofId id) id where
  loads past doc workspaceId botId e w selected := by
    obtain ⟨x, -, found⟩ := selected.find_run named
    refine ⟨_, congrArg Prod.fst found, fun d known => selected.memory.known known, fun new => ?_⟩
    rw [Library.known?, new, Option.none_or]
    exact Store.definition?_eq_definitionOf? selected.distinct
      (List.mem_filter.mp selected.selects.1).1 selected.own
  stays i m past doc steps w u quiet resumed vacant selected concern := by
    obtain ⟨tallies, tied⟩ := tied_of_selected (i := i) quiet named resumed vacant selected
    exact ⟨tallies, tied.staysOn steps concern⟩

end Interpreter

namespace Sample

open Interpreter

/-- A flow in service that every message starts. -/
def greeter (id : Value) : Entries := served id [.dict [("type", .text "fallback")]]

/-- The world with that flow, stored under a text, and a version for it. -/
def attended (id : String) : World := stocked [greeter (.text id)] [edition "v1" id]

theorem selected_attended (id : String) :
    Selected [] (.text id) id (greeter (.text id)) "ws-1" "bot-1" .lastResort (attended id) where
  quiet := rfl
  distinct := by simp [attended, stocked, Documents.AreDistinct]
  own := rfl
  selects := ⟨by simp [attended, stocked, greeter, served, Store.mem_activeFlows_iff, List.lookup_cons],
    _, by with_unfolding_all rfl, by with_unfolding_all rfl⟩
  memory _ _ held := by cases held

/-- The flow of that world has a definition. -/
theorem definitionOf?_attended (id : String) :
    ((attended id).store.definitionOf? (attended id).now (greeter (.text id)) id).isSome = true := by
  have own : (attended id).store.latestVersion? id = some (edition "v1" id) := by
    simp [attended, stocked, Store.latestVersion?, edition, Entries.holds, Value.isSameLeaf,
      List.lookup_cons, Store.highest]
  obtain ⟨flow, reads, current⟩ : ∃ r, Record.ofDocument? (attended id).now (greeter (.text id)) = .ok r ∧
      r.currentVersionId = none := ⟨_, by with_unfolding_all rfl, rfl⟩
  obtain ⟨version, version_reads, mine⟩ : ∃ v,
      Flow.Version.ofDocument? (attended id).now (edition "v1" id) = .ok v ∧ v.flowId = id :=
    ⟨_, by with_unfolding_all rfl, rfl⟩
  simp [Store.definitionOf?, reads, Except.toOption, Store.ownVersion?, Store.versionFor?, Library.named?,
    current, own, version_reads, mine]

end Sample

namespace Interpreter

variable {id : String}

/-- A document whose id is a text that looks like a record id is selected and then sought in vain. -/
theorem not_oneDocument_text (other : Value.ofId id ≠ .text id) : ¬ OneDocument (.text id) id := by
  intro one
  have selected := Sample.selected_attended id
  obtain ⟨known, answer, -, fresh⟩ := one.loads _ _ _ _ _ _ selected
  obtain ⟨x, -, found⟩ := selected.find_run (.text id)
  have lost : (Sample.attended id).store.flow? id = none := by
    refine Documents.find?_eq_none fun doc here same => other ?_
    rw [List.mem_singleton.mp here] at same
    exact (Option.some.inj same).symm
  have nothing : Library.known? (Sample.attended id) id none = none := by
    rw [Library.known?, Store.definition?, Store.readFlow?, lost]
    rfl
  rw [found, nothing] at answer
  have there := Sample.definitionOf?_attended id
  rw [← fresh rfl, ← Except.ok.inj answer] at there
  cases there

/-- The flow that is selected, executed and counted is one document exactly for the ids that are what their
text stands for. -/
theorem oneDocument_iff {v : Value} (named : v.IsFlowId id) : OneDocument v id ↔ v = .ofId id := by
  constructor
  · intro one
    cases named with
    | text => exact Classical.byContradiction fun other => not_oneDocument_text (fun same => other same.symm) one
    | recordId digits => exact digits.symm
  · rintro rfl
    exact oneDocument_ofId named

end Interpreter

namespace Sample

open Interpreter

/-- The world of the small bot before anything was loaded. -/
def opening : World := stocked [flowDocument] [versionDocument]

/-- The world of the small bot after its question. -/
def opened : World := atTime ((interpreter 24).process (message "hello") opening).2 noon

/-- The reply to the question is a turn on the flow that was selected, and the run is counted there. -/
theorem oneDocument_greeting :
    Tallies (interpreter 24) (message "hello") (.text "greeting") opening ∧
      (∃ c d u, (resume "chat").run opened = (.ok (some (c, d)), u) ∧ d.flow.id = some "greeting") ∧
      Tallies (interpreter 24) (message "Ann") (.text "greeting") opened := by
  have one : OneDocument (.text "greeting") "greeting" :=
    (oneDocument_iff (.text "greeting")).mpr (by with_unfolding_all rfl)
  have quiet : opening.IsQuiet := rfl
  have selected : Selected [] (.text "greeting") "greeting" flowDocument "ws-1" "bot-1"
      (.ofMessage "hello") opening.joined := {
    quiet := rfl
    distinct := by simp [opening, stocked, Documents.AreDistinct]
    own := rfl
    selects := ⟨List.mem_singleton.mpr rfl, _, by with_unfolding_all rfl, by with_unfolding_all rfl⟩
    memory := by rintro _ _ ⟨⟩ }
  obtain ⟨first, later⟩ := one.stays (interpreter 24) (message "hello") [] flowDocument [reply] opening
    opening.joined quiet (resume_run_of_none quiet rfl) rfl selected
    (fun step here => by rw [List.mem_singleton.mp here]; rfl)
  have found : ((resume "chat").run opened).1.toOption.join.isSome = true := by decide +kernel
  cases resumed : (resume "chat").run opened with
  | mk result u =>
    rw [resumed] at found
    rcases result with f | _ | ⟨c, d⟩
    · cases found
    · cases found
    · obtain ⟨-, ⟨s, -, builds⟩, tallies, -⟩ := later c d u resumed
      exact ⟨first, ⟨c, d, u, rfl, builds.flowId (.text "greeting")⟩, tallies⟩

/-- Not every id of a flow leads back to its document: one that is a text and looks like a record id does
not. -/
theorem not_oneDocument : ¬ ∀ v id, Value.IsFlowId v id → OneDocument v id := by
  intro one
  have record : Value.ofId likeRecordId = .recordId likeRecordId := by with_unfolding_all rfl
  have other : Value.ofId likeRecordId ≠ .text likeRecordId := by
    rw [record]
    exact nofun
  exact not_oneDocument_text other (one _ _ (.text likeRecordId))

end Sample

end ChatFlow
