import ChatFlow.Proofs.Flow.Consulting
import ChatFlow.Proofs.Interpreter.Resembling
import ChatFlow.Proofs.Interpreter.Settling

/-!
Sessions that cannot be used.

A session may be of no use: it cannot be read, it is completed or expired, or the definition that its run
is bound to cannot be loaded any more or has lost the node (`Interpreter.IsUnusable`). Then the message is
answered as if the session had not been there, with the same outcome and the same store afterwards
(`Interpreter.process_of_unusable`). The session has to be gone before the new run is saved, else that
save were a conflict; that it is, and that nothing else has happened but log lines and a definition kept
in memory, is `Interpreter.resume_of_isUnusable`. A definition in memory may matter to what follows: a
request for the very version that it was kept for is answered with it. So the flow that answers must not
have that key (`Interpreter.KeysApart`).
-/

namespace ChatFlow

open ChatFlow.Flow (Definition Candidate)

/-- Of two equal stores the same definition is loaded, if memory does not know better. -/
theorem Library.load_resembles {u u' : World} (h : u.Resembles True u') {flowId : String}
    {versionId : Option String}
    (memory : u.cache.lookup (key flowId versionId) = u'.cache.lookup (key flowId versionId)) :
    ((load flowId versionId).run u).1 = ((load flowId versionId).run u').1 ∧
      ((load flowId versionId).run u).2.Resembles True ((load flowId versionId).run u').2 := by
  obtain ⟨v, left, loads⟩ := load_run h.quiet flowId versionId
  obtain ⟨v', right, loads'⟩ := load_run h.quiet' flowId versionId
  have same : known? u flowId versionId = known? u' flowId versionId := by
    rw [known?, known?, memory, h.store trivial, h.now]
  rw [loads, loads', same]
  exact ⟨rfl, h.leaves left right⟩

/-- Of two equal stores the same definition answers an event, if memory does not know better. -/
theorem Dispatch.find_resembles {u u' : World} (h : u.Resembles True u') (workspaceId botId : String)
    (e : Flow.Event) (triedFallback : Bool)
    (memory : ∀ c, u'.store.chosen? u'.now workspaceId botId e triedFallback = .ok (some c) →
      u.cache.lookup (Library.key c.id none) = u'.cache.lookup (Library.key c.id none)) :
    ((find workspaceId botId e triedFallback).run u).1 = ((find workspaceId botId e triedFallback).run u').1 ∧
      ((find workspaceId botId e triedFallback).run u).2.Resembles True
        ((find workspaceId botId e triedFallback).run u').2 := by
  obtain ⟨v, left, finds⟩ := find_run h.quiet workspaceId botId e triedFallback
  obtain ⟨v', right, finds'⟩ := find_run h.quiet' workspaceId botId e triedFallback
  have after := h.consults left right
  rw [h.store trivial, h.now] at finds
  rw [finds, finds']
  cases chosen : u'.store.chosen? u'.now workspaceId botId e triedFallback with
  | error f => exact ⟨rfl, after⟩
  | ok c? =>
    cases c? with
    | none => exact ⟨rfl, after⟩
    | some c =>
      refine Library.load_resembles after ?_
      rw [left.cache, right.cache]
      exact memory c chosen

namespace Interpreter

variable {i : Interpreter} {m : Inbound} {w : World} {conv : String}

/-- The conversation has no session that can be used: none is loaded, or the definition of the run is not
loaded, or it has lost the node at which the run stands. -/
inductive IsUnusable (conv : String) (w : World) : Prop
  | rejected (v : World) (loads : (Keeping.load conv).run w = (.ok none, v))
  | unbound (c : Context) (v : World) (loads : (Keeping.load conv).run w = (.ok (some c), v))
    (gone : ∀ d, ((Library.load c.flowId (some c.versionId)).run v).1 = .ok (some d) →
      d.node? c.currentNodeId = none)

/-- The definition of the run and that of the flow which answers the message are kept under different
keys. -/
def KeysApart (m : Inbound) (w : World) : Prop :=
  ∀ c v s, (Keeping.load m.conversationId).run w = (.ok (some c), v) →
    w.store.chosen? w.now m.workspaceId m.botId (.ofMessage m.message) false = .ok (some s) →
    Library.key s.id none ≠ Library.key c.flowId (some c.versionId)

/-! ## Giving a session up -/

/-- The session of the conversation was removed. Else there are log lines only, and the definition of the
run may be kept in memory. -/
structure GivesUp (conv : String) (w u : World) : Prop where
  store : u.store = w.store.cleared conv
  faults : u.faults = w.faults
  outside : u.outside.unlogged = w.outside.unlogged
  memory : ∀ key, (∀ c v, (Keeping.load conv).run w = (.ok (some c), v) →
    key ≠ Library.key c.flowId (some c.versionId)) → u.cache.lookup key = w.cache.lookup key

theorem GivesUp.now {u : World} (h : GivesUp conv w u) : u.now = w.now :=
  Outside.now_of_unlogged h.outside

/-- Where no context is loaded the session is removed, if its record id has a text. -/
theorem givesUp_of_load (quiet : w.IsQuiet) (sound : w.store.IsSound conv) {v : World}
    (loads : (Keeping.load conv).run w = (.ok none, v)) : GivesUp conv w v := by
  have run : (Keeping.load conv).run w = _ := Keeping.load_run quiet
  rw [loads] at run
  cases stored : w.store.session? conv with
  | none =>
    rw [stored] at run
    cases run
    exact ⟨(Store.cleared_eq_self_iff.mpr stored).symm, rfl, rfl, fun _ _ => rfl⟩
  | some doc =>
    obtain ⟨es, text⟩ := sound.named doc stored
    rw [stored] at run
    dsimp only at run
    rw [text] at run
    dsimp only at run
    cases read : Keeping.readSession? w.now es with
    | error f =>
      rw [read] at run
      cases run
      exact ⟨rfl, rfl, rfl, fun _ _ => rfl⟩
    | ok pair =>
      rw [read] at run
      dsimp only at run
      rcases resumable : Keeping.isResumable? w.now pair.1 with f | _ | _ <;> rw [resumable] at run <;>
        cases run
      exact ⟨rfl, rfl, rfl, fun _ _ => rfl⟩

/-- A session that cannot be used is given up, and there is nothing to resume. -/
theorem resume_of_isUnusable (quiet : w.IsQuiet) (sound : w.store.IsSound conv)
    (unusable : IsUnusable conv w) : ∃ u, (resume conv).run w = (.ok none, u) ∧ GivesUp conv w u := by
  cases unusable with
  | rejected v loads =>
    refine ⟨v, ?_, givesUp_of_load quiet sound loads⟩
    rw [resume_eq, loads]
  | unbound c v loads gone =>
    obtain ⟨rfl, -⟩ := Keeping.load_some quiet loads
    obtain ⟨x, left, run⟩ := Library.load_run (w := w.joined) quiet c.flowId (some c.versionId)
    have unbound : bound (Library.known? w.joined c.flowId (some c.versionId)) c.currentNodeId = none := by
      rw [run] at gone
      cases known : Library.known? w.joined c.flowId (some c.versionId) with
      | none => rfl
      | some d =>
        have lost := gone d (congrArg Except.ok known)
        rw [bound, Option.bind_some, lost]
        rfl
    have quiet' : (x.noted .warning component).IsQuiet := left.faults.trans quiet
    refine ⟨(x.noted .warning component).cleared conv, ?_, ?_⟩
    · rw [resume_eq, loads]
      dsimp only
      rw [run]
      dsimp only
      rw [unbound]
      dsimp only
      rw [Keeping.clear_run quiet'.letsWrite]
    · refine ⟨?_, left.faults, left.outside, fun key other => ?_⟩
      · show x.store.cleared conv = w.store.cleared conv
        rw [left.store]
        rfl
      · exact (left.memory key).trans (if_neg (other c _ loads))

/-! ## Answering without the session -/

/-- The world without the session of a conversation. -/
def without (w : World) (conv : String) : World := w.withStore (w.store.cleared conv)

/-- A session that cannot be used makes no difference to what answering comes to. -/
theorem respond_of_isUnusable (ignores : i.registry.IgnoresLog) (quiet : w.IsQuiet)
    (sound : w.store.IsSound m.conversationId) (unusable : IsUnusable m.conversationId w)
    (apart : KeysApart m w) :
    ((i.respond m).run w).1 = ((i.respond m).run (without w m.conversationId)).1 ∧
      ((i.respond m).run w).2.Resembles True ((i.respond m).run (without w m.conversationId)).2 := by
  obtain ⟨u, resumed, left⟩ := resume_of_isUnusable quiet sound unusable
  have gone : (without w m.conversationId).store.session? m.conversationId = none :=
    Store.session?_eq_none_iff.mpr sound.keyed.sessionsOf_cleared
  have resumed' := resume_run_of_none (w := without w m.conversationId) quiet gone
  have alike : u.Resembles True (without w m.conversationId).joined :=
    ⟨left.faults.trans quiet, quiet, by rw [left.store]; rfl, fun _ => left.store, left.outside⟩
  -- What the session was bound to may be in memory now, but not under the key that is asked for next.
  obtain ⟨found, after⟩ := Dispatch.find_resembles alike m.workspaceId m.botId (.ofMessage m.message)
    false fun s chosen => left.memory _ fun c v loads => apart c v s loads chosen
  rw [respond_of_nothing resumed, respond_of_nothing resumed']
  generalize (Dispatch.find m.workspaceId m.botId (.ofMessage m.message) false).run u = r
    at found after ⊢
  generalize (Dispatch.find m.workspaceId m.botId (.ofMessage m.message) false).run
    (without w m.conversationId).joined = r' at found after ⊢
  obtain ⟨e, v⟩ := r
  obtain ⟨e', v'⟩ := r'
  cases found
  match e with
  | .error f => exact ⟨rfl, after⟩
  | .ok none => exact ⟨congrArg (fun t => Except.ok (noFlow t)) after.now, after⟩
  | .ok (some d) => exact start_resembles ignores after m d

/-- A session that cannot be used makes no difference: the message is answered as if the session were not
there. The same store is left, with the same sessions and the same counts of runs, and the same calls were
made. -/
theorem process_of_unusable {s : Services} {maxHops : Nat} {hours : Int} (m : Inbound) (w : World)
    (quiet : w.IsQuiet) (sound : w.store.IsSound m.conversationId)
    (unusable : IsUnusable m.conversationId w) (apart : KeysApart m w) :
    ((standard s maxHops hours).process m w).1
        = ((standard s maxHops hours).process m (without w m.conversationId)).1 ∧
      ((standard s maxHops hours).process m w).2.store
        = ((standard s maxHops hours).process m (without w m.conversationId)).2.store ∧
      ((standard s maxHops hours).process m w).2.outside.unlogged
        = ((standard s maxHops hours).process m (without w m.conversationId)).2.outside.unlogged := by
  obtain ⟨same, after⟩ := respond_of_isUnusable (i := standard s maxHops hours)
    (Registry.ignoresLog_standard s) quiet sound unusable apart
  obtain ⟨outcome, left⟩ := process_resembles same after
  exact ⟨outcome, left.store trivial, left.outside⟩

end Interpreter

namespace Sample

open Interpreter

/-- The conversation at a node that the version does not have. -/
def astray : Context := { context with currentNodeId := "attic" }

/-- The world with the session of that conversation. -/
def lost : World := world [astray.document 1 noon nextNoon]

theorem load_lost : (Keeping.load "chat").run lost = (.ok (some (astray.kept 1 noon)), lost) := by
  with_unfolding_all rfl

/-- The message starts the flow anew, and the session of the new run takes the place of the old one. -/
theorem process_of_unusable_lost :
    ((interpreter 24).process (message "hello") lost).1
        = ((interpreter 24).process (message "hello") (without lost "chat")).1 ∧
      ((interpreter 24).process (message "hello") lost).2.store
        = ((interpreter 24).process (message "hello") (without lost "chat")).2.store ∧
      ((interpreter 24).process (message "hello") lost).2.outside.unlogged
        = ((interpreter 24).process (message "hello") (without lost "chat")).2.outside.unlogged := by
  have sound : lost.store.IsSound "chat" := by
    refine ⟨Nat.le_refl 1, fun doc stored => ?_⟩
    have same : some (astray.document 1 noon nextNoon) = some doc := stored
    cases same
    exact ⟨_, astray.withIdText?_document 1 noon nextNoon⟩
  have unusable : IsUnusable "chat" lost := by
    refine .unbound _ _ load_lost fun d known => ?_
    have found : (Except.ok (some definition) : Except Failure (Option Flow.Definition))
        = .ok (some d) := known
    cases found
    decide
  have apart : KeysApart (message "hello") lost := by
    intro c v s loads chosen
    have ids : (lost.store.chosen? lost.now "ws-1" "bot-1" (.ofMessage "hello") false).toOption.map
        (·.map (·.id)) = some (some "greeting") := by decide +kernel
    have same : (Except.ok (some (astray.kept 1 noon)), lost) = (Except.ok (some c), v) :=
      load_lost.symm.trans loads
    cases same
    rw [show lost.store.chosen? lost.now "ws-1" "bot-1" (.ofMessage "hello") false = .ok (some s)
      from chosen] at ids
    have id : s.id = "greeting" := Option.some.inj (Option.some.inj ids)
    rw [id]
    decide
  exact process_of_unusable (message "hello") lost rfl sound unusable apart

end Sample

end ChatFlow
