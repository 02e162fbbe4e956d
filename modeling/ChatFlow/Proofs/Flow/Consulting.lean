import ChatFlow.Proofs.Flow.Reading
import ChatFlow.Proofs.Turn.Logging

/-!
The library and the dispatch as functions of the store.

Where no fault waits, what is loaded and which flow is chosen depends on the stored flows and versions
and on the time at which they are read. The first section says what documents and stores hold
(`Store.definition?`, `Store.chosen?`); the others show that the operations find exactly that, and that
they leave nothing behind but log lines (`World.Consults`) and a definition that was loaded
(`Library.load_run`).
-/

namespace ChatFlow

open ChatFlow.Flow (Record Version Definition Trigger Event Candidate)

/-! ## What is stored -/

namespace Flow

/-- The flow record that a document is read as. -/
def Record.ofDocument? (now : Moment) (doc : Entries) : Except Failure Record := do
  (Record.read now (.dict (← doc.withIdText?))).toExcept Record.title

/-- The version that a document is read as. -/
def Version.ofDocument? (now : Moment) (doc : Entries) : Except Failure Version := do
  (Version.read now (.dict (← doc.withIdText?))).toExcept Version.title

end Flow

namespace Store

/-- The flow of an id, if there is one that can be read. -/
def readFlow? (s : Store) (now : Moment) (id : String) : Option Record :=
  (s.flow? id).bind fun doc => (Record.ofDocument? now doc).toOption

/-- The version of an id, if there is one that can be read. -/
def readVersion? (s : Store) (now : Moment) (id : String) : Option Version :=
  (s.version? id).bind fun doc => (Version.ofDocument? now doc).toOption

/-- The version that a request for a flow means, if there is one that can be read. -/
def versionFor? (s : Store) (now : Moment) (flow : Record) (flowId : String)
    (versionId : Option String) : Option Version :=
  match Library.named? versionId with
  | some id => s.readVersion? now id
  | none =>
    match Library.named? flow.currentVersionId with
    | some id => s.readVersion? now id
    | none => (s.latestVersion? flowId).bind fun doc => (Version.ofDocument? now doc).toOption

/-- The definition that a request means. -/
def definition? (s : Store) (now : Moment) (flowId : String) (versionId : Option String) :
    Option Definition :=
  (s.readFlow? now flowId).bind fun flow =>
    (s.versionFor? now flow flowId versionId).bind fun version =>
      if version.flowId == flowId then some ⟨flow, version⟩ else none

/-- The active and published flows of a bot; none at all if one of them cannot be read. -/
def readActive (s : Store) (now : Moment) (workspaceId botId : String) : List Record :=
  ((s.activeFlows workspaceId botId).mapM (Record.ofDocument? now)).toOption.getD []

end Store

namespace Dispatch

/-- The first trigger that matches. -/
def firstMatch? (e : Event) : List Trigger → Except Failure (Option Trigger)
  | [] => .ok none
  | t :: rest => do if (← t.match? e).toBool then .ok (some t) else firstMatch? e rest

/-- The flows that match, in order. -/
def candidates? (e : Event) : List Record → Except Failure (List Candidate)
  | [] => .ok []
  | flow :: rest => do
    let first ← firstMatch? e flow.triggers
    let others ← candidates? e rest
    return match first with
      | some t => ⟨flow, t.rank⟩ :: others
      | none => others

end Dispatch

namespace Store

/-- The candidate that answers an event. -/
def selected? (s : Store) (now : Moment) (workspaceId botId : String) (e : Event) :
    Except Failure (Option Candidate) :=
  (Dispatch.candidates? e (s.readActive now workspaceId botId)).map Candidate.best?

/-- The candidate that answers an event, or else the fallback event. -/
def chosen? (s : Store) (now : Moment) (workspaceId botId : String) (e : Event)
    (triedFallback : Bool) : Except Failure (Option Candidate) := do
  match ← s.selected? now workspaceId botId e with
  | some c => return some c
  | none =>
    if e.kind == .fallback || triedFallback then return none
    s.selected? now workspaceId botId .lastResort

end Store

/-! ## Consultation -/

/-- What may have changed between two worlds is the log and the client. -/
structure World.Consults (w v : World) : Prop where
  store : v.store = w.store
  faults : v.faults = w.faults
  cache : v.cache = w.cache
  outside : v.outside.unlogged = w.outside.unlogged

namespace World.Consults

variable {u w v : World}

theorem refl (w : World) : w.Consults w := ⟨rfl, rfl, rfl, rfl⟩

theorem trans (uw : u.Consults w) (wv : w.Consults v) : u.Consults v :=
  ⟨wv.store.trans uw.store, wv.faults.trans uw.faults, wv.cache.trans uw.cache,
    wv.outside.trans uw.outside⟩

theorem joined (w : World) : w.Consults w.joined := ⟨rfl, rfl, rfl, rfl⟩

theorem noted (w : World) (weight : Weight) (component : String) :
    w.Consults (w.noted weight component) := ⟨rfl, rfl, rfl, rfl⟩

theorem now (h : w.Consults v) : v.now = w.now := Outside.now_of_unlogged h.outside

theorem isQuiet (h : w.Consults v) (quiet : w.IsQuiet) : v.IsQuiet := h.faults.trans quiet

end World.Consults

variable {w : World}

namespace Operation

/-- A failure to read is logged, and the default taken instead. -/
theorem consult_run {α : Type} {default : α} {x : Operation α} {e : Except Failure α}
    (quiet : w.IsQuiet) (run : x.run w.joined = (e, w.joined)) :
    ∃ v, w.Consults v ∧
      (do connect; orLog default x : Operation α).run w = (.ok (e.toOption.getD default), v) := by
  rw [run_bind, connect_run quiet.letsWrite.isReachable]
  dsimp only
  rw [orLog_run, run]
  cases e with
  | error f => exact ⟨_, (World.Consults.joined w).trans (.noted _ _ _), rfl⟩
  | ok a => exact ⟨_, .joined w, rfl⟩

theorem flowRecord_run (doc : Entries) (w : World) :
    (flowRecord doc).run w = (Record.ofDocument? w.now doc, w) := by
  rw [flowRecord, Record.ofDocument?, run_bind, run_ofExcept]
  cases doc.withIdText? with
  | error f => rfl
  | ok es =>
    dsimp only
    rw [run_bind, run_now]
    dsimp only
    rw [run_ofExcept]
    rfl

theorem versionRecord_run (doc : Entries) (w : World) :
    (versionRecord doc).run w = (Version.ofDocument? w.now doc, w) := by
  rw [versionRecord, Version.ofDocument?, run_bind, run_ofExcept]
  cases doc.withIdText? with
  | error f => rfl
  | ok es =>
    dsimp only
    rw [run_bind, run_now]
    dsimp only
    rw [run_ofExcept]
    rfl

theorem mapM_flowRecord_run (docs : Documents) (w : World) :
    (docs.mapM flowRecord).run w = (docs.mapM (Record.ofDocument? w.now), w) := by
  induction docs with
  | nil => rfl
  | cons doc rest ih =>
    rw [List.mapM_cons, List.mapM_cons, run_bind, flowRecord_run]
    cases Record.ofDocument? w.now doc with
    | error f => rfl
    | ok r =>
      dsimp only
      rw [run_bind, ih]
      cases rest.mapM (Record.ofDocument? w.now) <;> rfl

/-- What a search for one document gives, read by a reader of records. -/
theorem consult_one {α : Type} {record : Entries → Operation α} {read : Moment → Entries → Except Failure α}
    (reads : ∀ doc w, (record doc).run w = (read w.now doc, w)) (quiet : w.IsQuiet) (a : Access)
    (c : Collection) (find : Store → Option Entries) :
    ∃ v, w.Consults v ∧ (do
        connect
        orLog none do
          match ← Operation.read a c none find with
          | none => return none
          | some doc => return some (← record doc) : Operation (Option α)).run w
      = (.ok ((find w.store).bind fun doc => (read w.now doc).toOption), v) := by
  have inner : ∃ e : Except Failure (Option α), (do
        match ← Operation.read a c none find with
        | none => return none
        | some doc => return some (← record doc) : Operation (Option α)).run w.joined = (e, w.joined) ∧
      e.toOption.getD none = (find w.store).bind fun doc => (read w.now doc).toOption := by
    rw [run_bind, read_run (w.isQuiet_joined.mpr quiet), World.joined_store]
    cases find w.store with
    | none => exact ⟨.ok none, rfl, rfl⟩
    | some doc =>
      dsimp only
      rw [run_bind, reads, World.joined_now, Option.bind_some]
      cases read w.now doc with
      | error f => exact ⟨.error f, rfl, rfl⟩
      | ok r => exact ⟨.ok (some r), rfl, rfl⟩
  obtain ⟨e, run, same⟩ := inner
  rw [← same]
  exact consult_run quiet run

theorem getFlow_run (quiet : w.IsQuiet) (id : String) :
    ∃ v, w.Consults v ∧ (getFlow id).run w = (.ok (w.store.readFlow? w.now id), v) :=
  consult_one flowRecord_run quiet .findOne .flows (·.flow? id)

theorem getVersion_run (quiet : w.IsQuiet) (id : String) :
    ∃ v, w.Consults v ∧ (getVersion id).run w = (.ok (w.store.readVersion? w.now id), v) :=
  consult_one versionRecord_run quiet .findOne .versions (·.version? id)

theorem getLatestVersion_run (quiet : w.IsQuiet) (flowId : String) :
    ∃ v, w.Consults v ∧ (getLatestVersion flowId).run w =
      (.ok ((w.store.latestVersion? flowId).bind fun doc => (Version.ofDocument? w.now doc).toOption), v) :=
  consult_one versionRecord_run quiet .findOne .versions (·.latestVersion? flowId)

theorem getActiveFlows_run (quiet : w.IsQuiet) (workspaceId botId : String) :
    ∃ v, w.Consults v ∧
      (getActiveFlows workspaceId botId).run w = (.ok (w.store.readActive w.now workspaceId botId), v) := by
  refine consult_run quiet ?_
  rw [run_bind, read_run (w.isQuiet_joined.mpr quiet)]
  exact mapM_flowRecord_run _ w.joined

end Operation

open Operation (run_bind run_ofExcept run_pure)

/-! ## Definitions -/

namespace Library

theorem resolveVersion_run (quiet : w.IsQuiet) (flow : Record) (flowId : String)
    (versionId : Option String) :
    ∃ v, w.Consults v ∧ (resolveVersion flow flowId versionId).run w
      = (.ok (w.store.versionFor? w.now flow flowId versionId), v) := by
  unfold resolveVersion Store.versionFor?
  cases named? versionId with
  | some id => exact Operation.getVersion_run quiet id
  | none =>
    cases named? flow.currentVersionId with
    | some id => exact Operation.getVersion_run quiet id
    | none => exact Operation.getLatestVersion_run quiet flowId

theorem fetch_run (quiet : w.IsQuiet) (flowId : String) (versionId : Option String) :
    ∃ v, w.Consults v ∧
      (fetch flowId versionId).run w = (.ok (w.store.definition? w.now flowId versionId), v) := by
  obtain ⟨v, first, flowRun⟩ := Operation.getFlow_run quiet flowId
  rw [fetch, run_bind, flowRun, Store.definition?]
  cases w.store.readFlow? w.now flowId with
  | none => exact ⟨v, first, rfl⟩
  | some flow =>
    obtain ⟨u, second, versionRun⟩ := resolveVersion_run (first.isQuiet quiet) flow flowId versionId
    rw [first.store, first.now] at versionRun
    dsimp only
    rw [run_bind, versionRun, Option.bind_some]
    refine ⟨u, first.trans second, ?_⟩
    cases w.store.versionFor? w.now flow flowId versionId <;> rfl

/-- The definition for a request: the one in memory, or else the stored one. -/
def known? (w : World) (flowId : String) (versionId : Option String) : Option Definition :=
  (w.cache.lookup (key flowId versionId)).or (w.store.definition? w.now flowId versionId)

theorem known?_of_consults {v : World} (h : w.Consults v) (flowId : String) (versionId : Option String) :
    known? v flowId versionId = known? w flowId versionId := by
  rw [known?, known?, h.cache, h.store, h.now]

/-- What may have changed between two worlds is the log, the client, and what is in memory for one
request: that is the definition for it, if there is one. -/
structure Leaves (flowId : String) (versionId : Option String) (w v : World) : Prop where
  store : v.store = w.store
  faults : v.faults = w.faults
  outside : v.outside.unlogged = w.outside.unlogged
  memory : ∀ k, v.cache.lookup k =
    if k = key flowId versionId then known? w flowId versionId else w.cache.lookup k

theorem lookup_keep (cache : List (String × Definition)) {key : String} (d : Definition)
    (new : cache.lookup key = none) (k : String) :
    (cache ++ [(key, d)]).lookup k = if k = key then some d else cache.lookup k := by
  rw [List.lookup_append, List.lookup_cons, List.lookup_nil]
  by_cases here : k = key
  · rw [if_pos here, here, new, beq_self_eq_true]
    rfl
  · rw [if_neg here, beq_false_of_ne here, Option.or_none]

/-- A request is answered with the definition for it, which is kept. -/
theorem load_run (quiet : w.IsQuiet) (flowId : String) (versionId : Option String) :
    ∃ v, Leaves flowId versionId w v ∧
      (load flowId versionId).run w = (.ok (known? w flowId versionId), v) := by
  have same (key : String) (d? : Option Definition) (held : w.cache.lookup key = d?) (k : String) :
      w.cache.lookup k = if k = key then d? else w.cache.lookup k := by
    split
    · rename_i here
      rw [here, held]
    · rfl
  rw [load, run_bind, Operation.run_get, known?]
  dsimp only
  cases held : w.cache.lookup (key flowId versionId) with
  | some d =>
    refine ⟨w, ⟨rfl, rfl, rfl, fun k => ?_⟩, rfl⟩
    rw [known?, held, Option.some_or]
    exact same _ _ held k
  | none =>
    obtain ⟨v, consults, run⟩ := fetch_run quiet flowId versionId
    have memory (k : String) : v.cache.lookup k = w.cache.lookup k := by rw [consults.cache]
    dsimp only
    rw [run_bind, run, Option.none_or]
    cases found : w.store.definition? w.now flowId versionId with
    | some d =>
      refine ⟨{ v with cache := v.cache ++ [(key flowId versionId, d)] },
        ⟨consults.store, consults.faults, consults.outside, fun k => ?_⟩, rfl⟩
      rw [known?, held, found, Option.none_or, ← memory k]
      exact lookup_keep v.cache d ((memory _).trans held) k
    | none =>
      refine ⟨v.noted .warning component,
        ⟨consults.store, consults.faults, consults.outside, fun k => ?_⟩, rfl⟩
      rw [known?, held, found, Option.none_or]
      exact (memory k).trans (same _ _ held k)

end Library

/-! ## Dispatching -/

namespace Dispatch

/-- The activity gives the result whatever is outside, and leaves nothing there but log lines. -/
def Reckons {α : Type} (x : Service α) (e : Except Failure α) : Prop :=
  ∀ o : Outside, (x.run o).1 = e ∧ (x.run o).2.unlogged = o.unlogged

variable {α β : Type}

theorem reckons_pure (a : α) : Reckons (pure a) (.ok a) := fun _ => ⟨rfl, rfl⟩

theorem reckons_bind {x : Service α} {f : α → Service β} {e : Except Failure α}
    {g : α → Except Failure β} (hx : Reckons x e) (hf : ∀ a, Reckons (f a) (g a)) :
    Reckons (x >>= f) (e >>= g) := by
  intro o
  obtain ⟨result, left⟩ := hx o
  have step : (x >>= f).run o = ExceptT.bindCont f (x.run o).1 (x.run o).2 := rfl
  rw [step, result]
  cases e with
  | error e => exact ⟨rfl, left⟩
  | ok a =>
    obtain ⟨result', left'⟩ := hf a (x.run o).2
    exact ⟨result', left'.trans left⟩

theorem reckons_holds (t : Trigger) (e : Event) :
    Reckons (holds t e) ((t.match? e).map Flow.Match.toBool) := by
  intro o
  rw [holds]
  cases t.match? e with
  | error f => exact ⟨rfl, rfl⟩
  | ok m => cases m <;> exact ⟨rfl, rfl⟩

theorem reckons_firstMatch (e : Event) (ts : List Trigger) :
    Reckons (firstMatch e ts) (firstMatch? e ts) := by
  induction ts with
  | nil => exact reckons_pure none
  | cons t rest ih =>
    have same : firstMatch? e (t :: rest) = (t.match? e).map Flow.Match.toBool >>= fun matched =>
        if matched then .ok (some t) else firstMatch? e rest := by
      rw [firstMatch?]
      cases t.match? e <;> rfl
    rw [same]
    refine reckons_bind (reckons_holds t e) fun matched => ?_
    cases matched with
    | true => exact reckons_pure (some t)
    | false => exact ih

theorem reckons_candidates (e : Event) (flows : List Record) :
    Reckons (candidates e flows) (candidates? e flows) := by
  induction flows with
  | nil => exact reckons_pure []
  | cons flow rest ih =>
    exact reckons_bind (reckons_firstMatch e flow.triggers) fun first =>
      reckons_bind ih fun others => reckons_pure _

theorem outside_run {x : Service α} {e : Except Failure α} (h : Reckons x e) (w : World) :
    ∃ v, w.Consults v ∧ (outside x).run w = (e, v) := by
  obtain ⟨result, left⟩ := h w.outside
  refine ⟨w.withOutside (x.run w.outside).2, ⟨rfl, rfl, rfl, left⟩, ?_⟩
  rw [← result]
  rfl

theorem select_run (quiet : w.IsQuiet) (workspaceId botId : String) (e : Event) :
    ∃ v, w.Consults v ∧
      (select workspaceId botId e).run w = (w.store.selected? w.now workspaceId botId e, v) := by
  obtain ⟨v, first, flows⟩ := Operation.getActiveFlows_run quiet workspaceId botId
  obtain ⟨u, second, ranked⟩ :=
    outside_run (reckons_candidates e (w.store.readActive w.now workspaceId botId)) v
  refine ⟨u, first.trans second, ?_⟩
  rw [select, run_bind, flows]
  dsimp only
  rw [run_bind, ranked, Store.selected?]
  cases candidates? e (w.store.readActive w.now workspaceId botId) <;> rfl

/-- The definition of the chosen flow is loaded. -/
theorem find_run (quiet : w.IsQuiet) (workspaceId botId : String) (e : Event) (triedFallback : Bool) :
    ∃ v, w.Consults v ∧ (find workspaceId botId e triedFallback).run w =
      match w.store.chosen? w.now workspaceId botId e triedFallback with
      | .error f => (.error f, v)
      | .ok none => (.ok none, v)
      | .ok (some c) => (Library.load c.id none).run v := by
  obtain ⟨v, first, selects⟩ := select_run quiet workspaceId botId e
  rw [find, run_bind, selects, Store.chosen?]
  cases w.store.selected? w.now workspaceId botId e with
  | error f => exact ⟨v, first, rfl⟩
  | ok c? =>
    cases c? with
    | some c => exact ⟨v, first, rfl⟩
    | none =>
      dsimp only
      cases last : e.kind == .fallback || triedFallback with
      | true => exact ⟨v, first, rfl⟩
      | false =>
        obtain ⟨u, second, selects'⟩ := select_run (first.isQuiet quiet) workspaceId botId .lastResort
        rw [first.store, first.now] at selects'
        refine ⟨u, first.trans second, ?_⟩
        rw [if_neg Bool.false_ne_true, run_bind, selects']
        cases w.store.selected? w.now workspaceId botId .lastResort with
        | error f => rfl
        | ok c? => cases c? <;> rfl

end Dispatch

end ChatFlow
