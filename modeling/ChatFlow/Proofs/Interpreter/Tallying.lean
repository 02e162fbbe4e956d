import ChatFlow.Proofs.Interpreter.Resuming
import ChatFlow.Proofs.Interpreter.Waiting
import ChatFlow.Proofs.Store.Flows
import ChatFlow.Proofs.Turn.Logging

/-!
What an answer does to the flows.

The only documents of flows that an answer changes are those on which it counts a run: the first with the
id that the flow id of the run stands for (`Store.Tallied`). A turn that ends its run is counted there, by
its success, and no other answer changes a flow (`Interpreter.Makes.tallies`). For the rest an answer leaves
what its turn has found, up to sessions, and the sessions of the conversation stay those of a run of one flow
(`World.Carries`, `Interpreter.process_of_makes`).
-/

namespace ChatFlow

open ChatFlow.Flow (Definition)

open Operation (run_bind)

/-! ## Counted runs -/

/-- Nothing changes if the document that is found is put in its own place. -/
theorem Documents.modifyFirst_of_find? {filter : Entries} {docs : Documents} {doc : Entries}
    (found : docs.find? filter = some doc) : docs.modifyFirst filter (fun _ => doc) = docs := by
  induction docs with
  | nil => rfl
  | cons d rest ih =>
    rw [Documents.find?, List.find?_cons] at found
    rw [Documents.modifyFirst]
    split at found
    case h_1 holds =>
      cases found
      rw [if_pos holds]
    case h_2 missed => rw [missed, if_neg Bool.false_ne_true, ih found]

namespace Store

/-- The second list is the first with one more run counted on the first document that has the id. A document
whose counters are no numbers stays as it is. -/
inductive Tallied (id : Value) (now : Moment) (success : Bool) : Documents → Documents → Prop
  | absent : Tallied id now success [] []
  | here {doc : Entries} {rest : Documents} (own : doc.lookup "_id" = some id) :
    Tallied id now success (doc :: rest) ((countedRun? now success doc).toOption.getD doc :: rest)
  | later {doc : Entries} {rest left : Documents} (other : doc.lookup "_id" ≠ some id)
    (tallied : Tallied id now success rest left) : Tallied id now success (doc :: rest) (doc :: left)

variable {s t : Store} {now : Moment} {id : String} {success : Bool} {docs : Documents} {doc : Entries}

theorem tallied_of_find?_none (absent : docs.find? [("_id", .ofId id)] = none) :
    Tallied (.ofId id) now success docs docs := by
  induction docs with
  | nil => exact .absent
  | cons d rest ih =>
    rw [Documents.find?, List.find?_cons] at absent
    split at absent
    case h_1 found => cases absent
    case h_2 missed =>
      refine .later (fun own => ?_) (ih absent)
      rw [Entries.holdsAll_ofId_iff.mpr own] at missed
      cases missed

/-- The document that a text finds is the one that is counted on. -/
theorem tallied_of_find?_some (now : Moment) (success : Bool)
    (found : docs.find? [("_id", .ofId id)] = some doc) :
    Tallied (.ofId id) now success docs (docs.modifyFirst [("_id", .ofId id)] fun _ =>
      (countedRun? now success doc).toOption.getD doc) := by
  induction docs with
  | nil => cases found
  | cons d rest ih =>
    rw [Documents.find?, List.find?_cons] at found
    rw [Documents.modifyFirst]
    split at found
    case h_1 holds =>
      cases found
      rw [if_pos holds]
      exact .here (Entries.holdsAll_ofId_iff.mp holds)
    case h_2 missed =>
      rw [missed, if_neg Bool.false_ne_true]
      refine .later (fun own => ?_) (ih found)
      rw [Entries.holdsAll_ofId_iff.mpr own] at missed
      cases missed

/-- The sessions of the conversation are those of runs of the flow. -/
def AreRunsOf (s : Store) (conv flowId : String) : Prop :=
  ∀ doc ∈ s.sessionsOf conv, doc.lookup "flow_id" = some (.text flowId)

end Store

namespace Interpreter

variable {w : World} {flowId : String}

/-- A run is counted on what the flow id stands for. -/
theorem tallied_counted (quiet : w.IsQuiet) (flowId : String) (success : Bool) :
    Store.Tallied (.ofId flowId) w.now success w.store.flows (counted w flowId success).store.flows := by
  rw [counted_eq quiet.letsWrite, Store.countRun, Store.flow?]
  cases found : Documents.find? w.store.flows [("_id", .ofId flowId)] with
  | none => exact Store.tallied_of_find?_none found
  | some doc =>
    have tallied := Store.tallied_of_find?_some w.now success found
    dsimp only
    cases count : Store.countedRun? w.now success doc with
    | ok doc' =>
      rw [count] at tallied
      exact tallied
    | error f =>
      rw [count] at tallied
      change Store.Tallied _ _ _ _ (Documents.modifyFirst _ (fun _ => doc) _) at tallied
      rw [Documents.modifyFirst_of_find? found] at tallied
      exact tallied

/-- Counting a run changes nothing but flows. -/
theorem counted_frame (quiet : w.IsQuiet) (flowId : String) (success : Bool) :
    (counted w flowId success).IsQuiet ∧ (counted w flowId success).cache = w.cache ∧
      (counted w flowId success).store.sessions = w.store.sessions ∧
      (counted w flowId success).store.versions = w.store.versions ∧
      (counted w flowId success).outside.unlogged = w.outside.unlogged := by
  obtain ⟨sessions, faults, -⟩ := countRun_run quiet.letsWrite flowId success
  have versions : (counted w flowId success).store.versions = w.store.versions := by
    rw [counted_eq quiet.letsWrite, Store.countRun]
    cases w.store.flow? flowId with
    | none => rfl
    | some doc =>
      dsimp only
      cases Store.countedRun? w.now success doc <;> rfl
  refine ⟨faults.trans quiet, ?_, sessions, versions, ?_⟩ <;> rw [counted_eq quiet.letsWrite] <;>
    rcases Store.countRun w.now flowId success w.store with f | ⟨_ | _, s⟩ <;> rfl

end Interpreter

/-! ## What else an answer leaves -/

/-- Between the two worlds nothing has changed but sessions, the log and the client. -/
structure World.KeepsFlows (w v : World) : Prop where
  faults : v.faults = w.faults
  cache : v.cache = w.cache
  flows : v.store.flows = w.store.flows
  versions : v.store.versions = w.store.versions
  outside : v.outside.unlogged = w.outside.unlogged

namespace World.KeepsFlows

variable {u w v : World}

theorem refl (w : World) : w.KeepsFlows w := ⟨rfl, rfl, rfl, rfl, rfl⟩

theorem trans (uw : u.KeepsFlows w) (wv : w.KeepsFlows v) : u.KeepsFlows v :=
  ⟨wv.faults.trans uw.faults, wv.cache.trans uw.cache, wv.flows.trans uw.flows, wv.versions.trans uw.versions,
    wv.outside.trans uw.outside⟩

theorem quiet (h : w.KeepsFlows v) (quiet : w.IsQuiet) : v.IsQuiet := h.faults.trans quiet

theorem now (h : w.KeepsFlows v) : v.now = w.now := Outside.now_of_unlogged h.outside

end World.KeepsFlows

/-- What nobody asks for here may have changed between the two worlds. If the sessions of the conversation
were those of a run of the flow, they still are. -/
structure World.Carries (conv flowId : String) (w v : World) : Prop extends w.KeepsFlows v where
  runs : w.store.AreRunsOf conv flowId → v.store.AreRunsOf conv flowId

namespace World.Carries

variable {conv flowId : String} {u w v : World}

theorem refl (w : World) : w.Carries conv flowId w := ⟨.refl w, id⟩

theorem trans (uw : u.Carries conv flowId w) (wv : w.Carries conv flowId v) : u.Carries conv flowId v :=
  ⟨uw.toKeepsFlows.trans wv.toKeepsFlows, fun runs => wv.runs (uw.runs runs)⟩

theorem noted (w : World) (weight : Weight) (component : String) :
    w.Carries conv flowId (w.noted weight component) := ⟨⟨rfl, rfl, rfl, rfl, rfl⟩, id⟩

theorem cleared (w : World) : w.Carries conv flowId (w.cleared conv) where
  toKeepsFlows := ⟨rfl, rfl, rfl, rfl, rfl⟩
  runs runs doc here := by
    rw [World.cleared, World.withStore_store, Store.sessionsOf_cleared] at here
    exact runs doc (Documents.mem_of_mem_removeFirst here)

/-- A save adds a session of its run, or writes what leaves a session with its flow. -/
theorem saved (conv : String) (hours : Int) (c : Context) (quiet : w.IsQuiet) :
    w.Carries conv c.flowId (Keeping.save hours c w).2 := by
  cases timely : Keeping.expiry? w.now hours with
  | error f =>
    rw [Keeping.save_of_expiry_error timely]
    exact .refl w
  | ok e =>
    by_cases fresh : c.sequence = 0
    · rw [Keeping.save_fresh quiet.letsWrite timely fresh]
      split
      · exact ⟨⟨rfl, rfl, rfl, rfl, rfl⟩, id⟩
      · refine ⟨⟨rfl, rfl, rfl, rfl, rfl⟩, fun runs doc here => ?_⟩
        rw [World.withStore_store, Store.added, Store.sessionsOf_change_append] at here
        rcases List.mem_append.mp here with old | new
        · exact runs doc old
        · split at new
          · rw [List.mem_singleton.mp new]
            rfl
          · cases new
    · rw [Keeping.save_stored quiet.letsWrite timely fresh]
      split
      · exact ⟨⟨rfl, rfl, rfl, rfl, rfl⟩, id⟩
      · refine ⟨⟨rfl, rfl, rfl, rfl, rfl⟩, fun runs doc here => ?_⟩
        obtain ⟨stands, mine⟩ := List.mem_filter.mp here
        rcases Documents.mem_modifyFirst stands with old | ⟨was, old, rfl⟩
        · exact runs doc (List.mem_filter.mpr ⟨old, mine⟩)
        · rw [Store.holdsAll_sessionOf_advanced (by rw [Context.map_fst_savedFields]; decide)] at mine
          rw [c.lookup_unsaved w.now e (by decide) (by decide)]
          exact runs was (List.mem_filter.mpr ⟨old, mine⟩)

end World.Carries

namespace Interpreter

variable {i : Interpreter} {m : Inbound} {w v x : World} {d : Definition} {o : Outcome} {c : Context}

/-! ## Answers -/

/-- An answer that breaks down leaves what it had come to. -/
theorem carries_of_error {f : Failure} (flowId : String) (fails : (i.respond m).run w = (.error f, v))
    (quiet : v.IsQuiet) : v.Carries m.conversationId flowId (i.process m w).2 := by
  by_cases conflict : f.IsConflict
  · obtain ⟨conv, n, rfl⟩ := conflict
    rw [process_of_conflict fails]
    exact .noted v _ _
  · rw [process_of_error fails conflict quiet.letsWrite]
    exact (World.Carries.noted v _ _).trans (.cleared _)

/-- An answer that ends with a save leaves what the save does. -/
theorem carries_of_save (quiet : v.IsQuiet)
    (saves : (i.respond m).run w = ((Keeping.save i.sessionHours c v).1.1.map fun _ => o,
      (Keeping.save i.sessionHours c v).2)) :
    v.Carries m.conversationId c.flowId (i.process m w).2 := by
  have kept := World.Carries.saved m.conversationId i.sessionHours c quiet
  generalize Keeping.save i.sessionHours c v = r at saves kept
  obtain ⟨⟨f | saved, left⟩, u⟩ := r
  · exact kept.trans (carries_of_error c.flowId saves (kept.quiet quiet))
  · rw [process_of_ok saves]
    exact kept

/-- How answering goes on after a turn, where it has cleared the conversation or not. -/
theorem process_of_next {y : World} (quiet : x.IsQuiet) (carries : x.Carries m.conversationId c.flowId y)
    (responds : (i.respond m).run w = match next o with
      | .ended => (.ok o, counted y c.flowId o.success)
      | .failed => (.ok o, y)
      | .waits => ((Keeping.save i.sessionHours c x).1.1.map fun _ => o,
          (Keeping.save i.sessionHours c x).2)) :
    ∃ z, x.Carries m.conversationId c.flowId z ∧
      (i.process m w).2 = (if next o = .ended then counted z c.flowId o.success else z) ∧
      (next o ≠ .waits → (i.process m w).1 = o) := by
  have fails : Next.failed ≠ .ended := by decide
  have goes_on : Next.waits ≠ .ended := by decide
  cases after : next o with
  | ended =>
    rw [after] at responds
    rw [process_of_ok responds]
    exact ⟨y, carries, (if_pos rfl).symm, fun _ => rfl⟩
  | failed =>
    rw [after] at responds
    rw [process_of_ok responds]
    exact ⟨y, carries, (if_neg fails).symm, fun _ => rfl⟩
  | waits =>
    rw [after] at responds
    exact ⟨_, carries_of_save quiet responds, (if_neg goes_on).symm, fun other => absurd rfl other⟩

/-- After a turn, sessions are written or cleared, and a run that is over is counted. Only a turn that waits
may not be what the answer is. -/
theorem process_of_makes (makes : Makes i m w d o c x) (quiet : x.IsQuiet) :
    ∃ y, x.Carries m.conversationId c.flowId y ∧
      (i.process m w).2 = (if next o = .ended then counted y c.flowId o.success else y) ∧
      (next o ≠ .waits → (i.process m w).1 = o) := by
  cases makes with
  | proceeds c' later d u o left resumed turn =>
    have responds : (i.respond m).run w = (i.proceed m c' d).run u := by
      rw [respond, run_bind, resumed]
    have still : u.IsQuiet := quiet
    rw [proceed_run i m c' d still.letsWrite, turn] at responds
    exact process_of_next quiet (.cleared _) responds
  | starts c' later d v u o left resumed found created turn =>
    have responds : (i.respond m).run w = (i.start m d).run u := by
      rw [respond_of_nothing resumed, found]
    have still : u.IsQuiet := quiet
    rw [start_run i m d still.letsWrite.isReachable created, turn] at responds
    exact process_of_next quiet (.refl _) responds

/-- A message is answered by one turn at most. -/
theorem Makes.unique {d' : Definition} {o' : Outcome} {c' : Context} {x' : World}
    (h : Makes i m w d o c x) (h' : Makes i m w d' o' c' x') : o = o' ∧ c = c' ∧ x = x' := by
  cases h with
  | proceeds c₀ later d u o left resumed turn =>
    cases h' with
    | proceeds c₁ later' d' u' o' left' resumed' turn' =>
      cases resumed.symm.trans resumed'
      cases turn.symm.trans turn'
      exact ⟨rfl, rfl, rfl⟩
    | starts _ _ _ _ _ _ _ resumed' => cases resumed.symm.trans resumed'
  | starts c₀ later d v u o left resumed found created turn =>
    cases h' with
    | proceeds _ _ _ _ _ _ resumed' => cases resumed.symm.trans resumed'
    | starts c₁ later' d' v' u' o' left' resumed' found' created' turn' =>
      cases resumed.symm.trans resumed'
      cases found.symm.trans found'
      cases created.symm.trans created'
      cases turn.symm.trans turn'
      exact ⟨rfl, rfl, rfl⟩

/-- Where there is nothing to resume, no flow was changed. -/
theorem flows_of_nothing {conv : String} (quiet : w.IsQuiet)
    (resumed : (resume conv).run w = (.ok none, v)) :
    v.store.flows = w.store.flows ∧ v.IsQuiet := by
  have resumes := resume_cases quiet conv
  rw [resumed] at resumes
  cases resumes with
  | nothing v reads => exact ⟨congrArg Store.flows reads.store, reads.isQuiet quiet⟩
  | removed v reads => exact ⟨(congrArg Store.flows reads.store).trans rfl, reads.isQuiet quiet⟩

/-- Up to its turn an answer changes no flow. -/
theorem Makes.flows (makes : Makes i m w d o c x) (quiet : w.IsQuiet) :
    x.store.flows = w.store.flows := by
  cases makes with
  | proceeds c' later d u o left resumed turn =>
    exact congrArg Store.flows (load_of_resume quiet resumed).2.store
  | starts c' later d v u o left resumed found created turn =>
    obtain ⟨before, quiet'⟩ := flows_of_nothing quiet resumed
    have reads := (Dispatch.isReading_find m.workspaceId m.botId (.ofMessage m.message) false).onlyReads
      v quiet'
    rw [found] at reads
    exact (congrArg Store.flows reads.store).trans before

/-- After a turn a run is counted on what its flow id stands for. -/
theorem Makes.tallied {y : World} (makes : Makes i m w d o c x) (quiet : w.IsQuiet)
    (carries : x.Carries m.conversationId c.flowId y) (success : Bool) :
    Store.Tallied (.ofId c.flowId) x.now success w.store.flows (counted y c.flowId success).store.flows := by
  rw [← makes.flows quiet, ← carries.flows, ← carries.now]
  exact tallied_counted (carries.quiet (makes.spends.isQuiet quiet)) c.flowId success

/-- A message whose turn ends its run is counted on the document with the id, and any other message leaves
the flows as they are. -/
inductive Tallies (i : Interpreter) (m : Inbound) (id : Value) (w : World) : Prop
  | ended (d : Definition) (o : Outcome) (c : Context) (x : World) (makes : Makes i m w d o c x)
    (ends : next o = .ended)
    (tallied : Store.Tallied id x.now o.success w.store.flows (i.process m w).2.store.flows)
  | unended (goes_on : ∀ d o c x, Makes i m w d o c x → next o ≠ .ended)
    (same : (i.process m w).2.store.flows = w.store.flows)

/-- The document on which a run is counted is the one that its flow id stands for. -/
theorem Makes.tallies (makes : Makes i m w d o c x) (quiet : w.IsQuiet) :
    Tallies i m (.ofId c.flowId) w := by
  obtain ⟨y, carries, left, -⟩ := process_of_makes makes (makes.spends.isQuiet quiet)
  by_cases ends : next o = .ended
  · rw [if_pos ends] at left
    refine .ended d o c x makes ends ?_
    rw [left]
    exact makes.tallied quiet carries o.success
  · rw [if_neg ends] at left
    refine .unended (fun d' o' c' x' makes' => ?_) ?_
    · obtain ⟨rfl, -⟩ := makes.unique makes'
      exact ends
    · rw [left, carries.flows, makes.flows quiet]

end Interpreter

end ChatFlow
