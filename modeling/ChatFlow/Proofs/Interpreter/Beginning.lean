import ChatFlow.Proofs.Interpreter.Turning
import ChatFlow.Proofs.Library.Requests

/-!
How answering begins, and what it asks for.

Answering a message first finds out what answers: a run that goes on, a flow that is started, or nothing
(`Interpreter.beginning`). What follows depends on this and on the world no more than on its clock, its
sessions and the services outside (`Interpreter.follow`).

Up to there definitions are asked for at most twice: for the version to which the session is bound, and for
the current version of the flow that the message triggers (`Interpreter.Asks`). If no two of the requests
clash, the answers stay what they were at first, in memory or not (`World.Learns`), and an answer that makes
no call leaves in memory just these (`Interpreter.process_learns`).
-/

namespace ChatFlow

open ChatFlow.Flow (Definition Candidate)

open Library (Request known?)

namespace Interpreter

open Operation (run_bind run_now run_ofExcept)

variable {i : Interpreter} {m : Inbound} {w u v : World} {d : Definition} {o : Outcome} {c : Context}

/-! ## Beginnings -/

/-- How answering begins. -/
inductive Beginning where
  /-- It breaks down. -/
  | fails (f : Failure)
  /-- Nothing answers. -/
  | falls_silent
  /-- A run goes on. -/
  | goes_on (c : Context) (d : Definition)
  /-- A run of a flow is started. -/
  | starts (d : Definition)

/-- How answering a message begins, and the world at that time. -/
def beginning (m : Inbound) (w : World) : Beginning × World :=
  match (resume m.conversationId).run w with
  | (.error f, v) => (.fails f, v)
  | (.ok (some (c, d)), u) => (.goes_on c d, u)
  | (.ok none, v) =>
    match (Dispatch.find m.workspaceId m.botId (.ofMessage m.message) false).run v with
    | (.error f, u) => (.fails f, u)
    | (.ok none, u) => (.falls_silent, u)
    | (.ok (some d), u) => (.starts d, u)

/-- How answering goes on. -/
def follow (i : Interpreter) (m : Inbound) : Beginning → Operation Outcome
  | .fails f => throw f
  | .falls_silent => do return noFlow (← Operation.now)
  | .goes_on c d => i.proceed m c d
  | .starts d => i.start m d

theorem respond_eq (i : Interpreter) (m : Inbound) (w : World) :
    (i.respond m).run w = (i.follow m (beginning m w).1).run (beginning m w).2 := by
  rw [respond, run_bind, beginning]
  rcases (resume m.conversationId).run w with ⟨f | _ | ⟨c, d⟩, v⟩
  · rfl
  · dsimp only
    rw [run_bind]
    rcases (Dispatch.find m.workspaceId m.botId (.ofMessage m.message) false).run v
      with ⟨f | _ | d, u⟩ <;> rfl
  · rfl

/-- The turn that follows. -/
def turnOf? (i : Interpreter) (m : Inbound) (u : World) : Beginning → Option ((Outcome × Context) × Outside)
  | .goes_on c d => some (Turn.takeTurn i.registry i.maxHops d c (some m.message) u.outside)
  | .starts d => (Context.create? u.now d m.conversationId m.contact).toOption.map fun c =>
    Turn.takeTurn i.registry i.maxHops d (c.say [.ofUser u.now m.message none]) none u.outside
  | _ => none

theorem turned?_eq (i : Interpreter) (m : Inbound) (w : World) :
    i.turned? m w = (i.turnOf? m (beginning m w).2 (beginning m w).1).map Prod.fst := by
  rw [turned?, beginning]
  rcases (resume m.conversationId).run w with ⟨f | _ | ⟨c, d⟩, v⟩
  · rfl
  · dsimp only
    rcases (Dispatch.find m.workspaceId m.botId (.ofMessage m.message) false).run v
      with ⟨f | _ | d, u⟩
    · rfl
    · rfl
    · dsimp only [turnOf?]
      cases Context.create? u.now d m.conversationId m.contact <;> rfl
  · rfl

/-! ## What is asked for -/

/-- What answering a message may ask the library for: the version to which the session of its conversation
is bound, and the flow that it triggers. -/
inductive Asks (m : Inbound) (w : World) : Request → Prop
  | bound (c : Context) (reads : Keeping.IsReadAs w.store m.conversationId w.now c) :
    Asks m w (.of c.flowId (some c.versionId))
  | triggered (c : Candidate)
    (chosen : w.store.chosen? w.now m.workspaceId m.botId (.ofMessage m.message) false = .ok (some c)) :
    Asks m w (.of c.id none)

end Interpreter

namespace Library

/-- A request is answered by what its ids say. -/
theorem known?_of (w : World) (flowId : String) (versionId : Option String) :
    known? w (Request.of flowId versionId).flowId (Request.of flowId versionId).version
      = known? w flowId versionId := by
  have same : w.store.definition? w.now flowId (named? versionId) = w.store.definition? w.now flowId versionId := by
    unfold Store.definition? Store.versionFor?
    rw [named?_named?]
  rw [known?, Request.key_flowId_version, Request.key_of, known?, ← same]
  rfl

end Library

namespace Store

variable {s t : Store}

/-- A flow is chosen among the flows. -/
theorem chosen?_congr (flows : t.flows = s.flows) (now : Moment) (workspaceId botId : String)
    (e : Flow.Event) (triedFallback : Bool) :
    t.chosen? now workspaceId botId e triedFallback = s.chosen? now workspaceId botId e triedFallback := by
  obtain ⟨_, _, _⟩ := s
  obtain ⟨_, _, _⟩ := t
  cases flows
  rfl

end Store

/-- The second world has the flows and versions of the first, and in memory is what was there, and the answers
to some of the requests. -/
structure World.Learns (asked : Request → Prop) (w v : World) : Prop where
  faults : v.faults = w.faults
  flows : v.store.flows = w.store.flows
  versions : v.store.versions = w.store.versions
  outside : v.outside.unlogged = w.outside.unlogged
  memory : ∀ k, v.cache.lookup k = w.cache.lookup k ∨
    ∃ r, asked r ∧ r.key = k ∧ v.cache.lookup k = known? w r.flowId r.version

namespace World.Learns

variable {asked : Request → Prop} {u v w : World}

theorem of_keepsFlows (h : w.KeepsFlows v) : w.Learns asked v where
  faults := h.faults
  flows := h.flows
  versions := h.versions
  outside := h.outside
  memory k := .inl (by rw [h.cache])

theorem keepsFlows (h : w.Learns asked v) (kept : v.KeepsFlows u) : w.Learns asked u where
  faults := kept.faults.trans h.faults
  flows := kept.flows.trans h.flows
  versions := kept.versions.trans h.versions
  outside := kept.outside.trans h.outside
  memory k := by
    rw [kept.cache]
    exact h.memory k

theorem mono {asked' : Request → Prop} (h : w.Learns asked v) (more : ∀ r, asked r → asked' r) :
    w.Learns asked' v where
  faults := h.faults
  flows := h.flows
  versions := h.versions
  outside := h.outside
  memory k := (h.memory k).imp_right fun ⟨r, was, rest⟩ => ⟨r, more r was, rest⟩

theorem quiet (h : w.Learns asked v) (quiet : w.IsQuiet) : v.IsQuiet := h.faults.trans quiet

theorem now (h : w.Learns asked v) : v.now = w.now := Outside.now_of_unlogged h.outside

/-- What is read does not change. -/
theorem definition?_eq (h : w.Learns asked v) (flowId : String) (versionId : Option String) :
    v.store.definition? v.now flowId versionId = w.store.definition? w.now flowId versionId := by
  rw [h.now, Store.definition?_congr h.flows h.versions]

/-- The answers to the requests do not change. -/
theorem known?_eq (h : w.Learns asked v) (apart : Library.AreApart asked) {r : Request} (asks : asked r) :
    known? v r.flowId r.version = known? w r.flowId r.version := by
  rcases h.memory r.key with old | ⟨r', asks', key, learned⟩
  · rw [known?, known?, h.definition?_eq, Request.key_flowId_version, old]
  · obtain rfl := apart.eq_of_key_eq asks' asks key
    rw [known?, h.definition?_eq, Request.key_flowId_version, learned, known?, Option.or_assoc, Option.or_self]

/-- A further request is answered. -/
theorem leaves (h : w.Learns asked v) (apart : Library.AreApart asked) {flowId : String}
    {versionId : Option String} (asks : asked (.of flowId versionId))
    (left : Library.Leaves flowId versionId v u) : w.Learns asked u where
  faults := left.faults.trans h.faults
  flows := (congrArg Store.flows left.store).trans h.flows
  versions := (congrArg Store.versions left.store).trans h.versions
  outside := left.outside.trans h.outside
  memory k := by
    rw [left.memory, ← Library.known?_of, h.known?_eq apart asks]
    split
    · rename_i same
      exact .inr ⟨_, asks, by rw [Request.key_of, same], rfl⟩
    · exact h.memory k

end World.Learns

theorem World.Consults.keepsFlows {w v : World} (h : w.Consults v) : w.KeepsFlows v :=
  ⟨h.faults, h.cache, congrArg Store.flows h.store, congrArg Store.versions h.store, h.outside⟩

/-! ## What beginning leaves -/

namespace Interpreter

variable {i : Interpreter} {m : Inbound} {w u : World} {o : Outcome} {c : Context}

open Operation (run_bind run_now run_ofExcept)

theorem keepsFlows_load (quiet : w.IsQuiet) (conv : String) : w.KeepsFlows ((Keeping.load conv).run w).2 := by
  rw [Keeping.load_run quiet]
  cases w.store.session? conv with
  | none => exact ⟨rfl, rfl, rfl, rfl, rfl⟩
  | some doc =>
    dsimp only
    cases doc.withIdText? with
    | error f => exact ⟨rfl, rfl, rfl, rfl, rfl⟩
    | ok es =>
      dsimp only
      cases Keeping.readSession? w.now es with
      | error f => exact ⟨rfl, rfl, rfl, rfl, rfl⟩
      | ok pair =>
        dsimp only
        rcases Keeping.isResumable? w.now pair.1 with f | _ | _ <;> exact ⟨rfl, rfl, rfl, rfl, rfl⟩

/-- Resuming asks for what the session is bound to. -/
theorem resume_learns (quiet : w.IsQuiet) (apart : Library.AreApart (Asks m w)) :
    w.Learns (Asks m w) ((resume m.conversationId).run w).2 := by
  have keeps := keepsFlows_load quiet m.conversationId
  rw [resume_eq]
  cases loaded : (Keeping.load m.conversationId).run w with
  | mk result v =>
    rw [loaded] at keeps
    have learns : w.Learns (Asks m w) v := .of_keepsFlows keeps
    match result with
    | .error f => exact learns
    | .ok none => exact learns
    | .ok (some c) =>
      have asks : Asks m w (.of c.flowId (some c.versionId)) :=
        .bound c (Keeping.isReadAs_of_load quiet.isAlone loaded).2
      obtain ⟨u, left, loads⟩ := Library.load_run (learns.quiet quiet) c.flowId (some c.versionId)
      have learns' := learns.leaves apart asks left
      dsimp only
      rw [loads]
      dsimp only
      cases bound (known? v c.flowId (some c.versionId)) c.currentNodeId with
      | some d => exact learns'
      | none =>
        dsimp only
        have quiet' : (u.noted .warning component).IsQuiet := learns'.quiet quiet
        rw [Keeping.clear_run quiet'.letsWrite]
        exact learns'.keepsFlows ⟨rfl, rfl, rfl, rfl, rfl⟩

/-- Answering begins with what the message asks for. -/
theorem beginning_learns (quiet : w.IsQuiet) (apart : Library.AreApart (Asks m w)) :
    w.Learns (Asks m w) (beginning m w).2 := by
  have learns := resume_learns quiet apart
  rw [beginning]
  generalize (resume m.conversationId).run w = r at learns ⊢
  obtain ⟨f | _ | ⟨c, d⟩, v⟩ := r
  · exact learns
  · obtain ⟨u, consults, finds⟩ := Dispatch.find_run (learns.quiet quiet) m.workspaceId m.botId
      (.ofMessage m.message) false
    have learns' : w.Learns (Asks m w) u := learns.keepsFlows consults.keepsFlows
    dsimp only
    rw [finds]
    rw [learns.now, Store.chosen?_congr learns.flows]
    cases chosen : w.store.chosen? w.now m.workspaceId m.botId (.ofMessage m.message) false with
    | error f => exact learns'
    | ok c? =>
      cases c? with
      | none => exact learns'
      | some c =>
        obtain ⟨x, left, loads⟩ := Library.load_run (learns'.quiet quiet) c.id none
        have learns'' := learns'.leaves apart (.triggered c chosen) left
        dsimp only
        rw [loads]
        cases known? u c.id none <;> exact learns''
  · exact learns

/-! ## What answering leaves -/

/-- The turn is made from where answering began. -/
theorem makes_of_turnOf? {left : Outside}
    (turn : i.turnOf? m (beginning m w).2 (beginning m w).1 = some ((o, c), left)) :
    ∃ d, Makes i m w d o c ((beginning m w).2.withOutside left) := by
  rw [beginning] at turn ⊢
  cases resumed : (resume m.conversationId).run w with
  | mk result v =>
    rw [resumed] at turn
    match result with
    | .error f => cases turn
    | .ok (some (c₀, d)) => exact ⟨d, .proceeds c₀ c d v o left resumed (Option.some.inj turn)⟩
    | .ok none =>
      dsimp only at turn ⊢
      cases found : (Dispatch.find m.workspaceId m.botId (.ofMessage m.message) false).run v with
      | mk result u =>
        rw [found] at turn
        match result with
        | .error f => cases turn
        | .ok none => cases turn
        | .ok (some d) =>
          dsimp only [turnOf?] at turn ⊢
          cases created : Context.create? u.now d m.conversationId m.contact with
          | error f =>
            rw [created] at turn
            cases turn
          | ok c₀ =>
            rw [created] at turn
            exact ⟨d, .starts c₀ c d v u o left resumed found created (Option.some.inj turn)⟩

/-- A turn that makes no call changes nothing outside but the log. -/
theorem unlogged_of_turnOf? (built : i.registry.IsBuilt) {b : Beginning} {left : Outside}
    (turn : i.turnOf? m u b = some ((o, c), left)) (silent : left.calls = u.outside.calls) :
    left.unlogged = u.outside.unlogged := by
  have still (d : Definition) (c₀ : Context) (reply : Option String)
      (turn : Turn.takeTurn i.registry i.maxHops d c₀ reply u.outside = ((o, c), left)) :
      left.unlogged = u.outside.unlogged := by
    have same := (Turn.isBuilt_takeTurn built i.maxHops d c₀ reply).unlogged_eq (o := u.outside)
    rw [turn] at same
    exact same silent
  cases b with
  | fails f => cases turn
  | falls_silent => cases turn
  | goes_on c₀ d => exact still d c₀ _ (Option.some.inj turn)
  | starts d =>
    obtain ⟨c₀, -, turn⟩ := Option.map_eq_some_iff.mp turn
    exact still d _ none turn

/-- Without a turn answering breaks down, or there is no flow. -/
theorem follow_of_idle {b : Beginning} (idle : i.turnOf? m u b = none) :
    (∃ f, (i.follow m b).run u = (.error f, u)) ∨ (i.follow m b).run u = (.ok (noFlow u.now), u) := by
  cases b with
  | fails f => exact .inl ⟨f, rfl⟩
  | falls_silent => exact .inr rfl
  | goes_on c d => cases idle
  | starts d =>
    rw [turnOf?, Option.map_eq_none_iff] at idle
    cases created : Context.create? u.now d m.conversationId m.contact with
    | ok c =>
      rw [created] at idle
      cases idle
    | error f =>
      refine .inl ⟨f, ?_⟩
      rw [follow, start, run_bind, run_now]
      dsimp only
      rw [run_bind, run_ofExcept, created]

/-- An answer that makes no call leaves what it has learned: the versions, the outside but for the log, and in
memory what it asked for. -/
theorem process_learns (built : i.registry.IsBuilt) (quiet : w.IsQuiet) (apart : Library.AreApart (Asks m w))
    (silent : (i.process m w).2.outside.calls = w.outside.calls) :
    ∃ v, w.Learns (Asks m w) v ∧ (i.process m w).2.cache = v.cache ∧
      (i.process m w).2.store.versions = w.store.versions ∧
      (i.process m w).2.outside.unlogged = w.outside.unlogged := by
  have learns := beginning_learns quiet apart
  have responds := respond_eq i m w
  refine ⟨_, learns, ?_⟩
  cases turn : i.turnOf? m (beginning m w).2 (beginning m w).1 with
  | none =>
    -- What follows changes nothing but sessions.
    have keeps : (beginning m w).2.KeepsFlows (i.process m w).2 := by
      rcases follow_of_idle turn with ⟨f, fails⟩ | gives
      · exact (carries_of_error "" (responds.trans fails) (learns.quiet quiet)).toKeepsFlows
      · rw [process_of_ok (responds.trans gives)]
        exact .refl _
    have learns' := learns.keepsFlows keeps
    exact ⟨keeps.cache, learns'.versions, learns'.outside⟩
  | some r =>
    obtain ⟨⟨o, c⟩, left⟩ := r
    obtain ⟨d, makes⟩ := makes_of_turnOf? turn
    obtain ⟨y, carries, ends, -⟩ := process_of_makes makes (learns.quiet quiet)
    have still : y.IsQuiet := carries.quiet (learns.quiet quiet)
    have same : (i.process m w).2.cache = y.cache ∧ (i.process m w).2.store.versions = y.store.versions ∧
        (i.process m w).2.outside.unlogged = y.outside.unlogged := by
      rw [ends]
      split
      · obtain ⟨-, cache, -, versions, outside⟩ := counted_frame still c.flowId o.success
        exact ⟨cache, versions, outside⟩
      · exact ⟨rfl, rfl, rfl⟩
    obtain ⟨cache, versions, outside⟩ := same
    have outside' : (i.process m w).2.outside.unlogged = left.unlogged := outside.trans carries.outside
    have quietly : left.calls = (beginning m w).2.outside.calls := by
      rw [← Outside.calls_of_unlogged outside', silent, Outside.calls_of_unlogged learns.outside]
    exact ⟨cache.trans carries.cache, versions.trans (carries.versions.trans learns.versions),
      outside'.trans ((unlogged_of_turnOf? built turn quietly).trans learns.outside)⟩

end Interpreter

end ChatFlow
