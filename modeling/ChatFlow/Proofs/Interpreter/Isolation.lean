import ChatFlow.Proofs.Interpreter.Overlooking
import ChatFlow.Proofs.Interpreter.Settling

/-!
What the sessions of other bots have to do with an answer.

A message names a workspace, a bot and a conversation. `Isolated` says that answering it does what it
would do if there were no sessions of other bots, and leaves those as they are. That holds if none of
them has the conversation id of the message, whatever faults strike (`isolated_of_apart`), since every
access to the sessions names a conversation.

No access names the workspace or the bot. So a session of another bot with the same conversation id is
taken for one's own: resumed and advanced, or removed. An answer leaves one session if it waits for a
reply and none otherwise (`answers_leave`); in the presence of a foreign session that is one session
short (`isolated_iff`).
-/

namespace ChatFlow

namespace Inbound

/-- The session belongs to another bot than the message, or to a bot of another workspace. -/
def isForeign (m : Inbound) (doc : Entries) : Bool :=
  !doc.holdsAll [("workspace_id", .text m.workspaceId), ("bot_id", .text m.botId)]

/-- No foreign session has the conversation id of the message. -/
def IsApart (m : Inbound) (s : Store) : Prop :=
  ∀ doc ∈ s.sessions, m.isForeign doc = true →
    doc.holdsAll (Store.sessionOf m.conversationId) = false

end Inbound

namespace Interpreter

/-- Answering a message does what it does without foreign sessions, and leaves these as they are. -/
structure Isolated (i : Interpreter) (m : Inbound) (w : World) : Prop where
  outcome : (i.process m w).1 = (i.process m (w.without m.isForeign)).1
  sessions : (i.process m w).2.store.sessions.Perm
    (w.store.concealed m.isForeign ++ (i.process m (w.without m.isForeign)).2.store.sessions)
  /-- Nothing else of the world shows a difference. -/
  others : (i.process m w).2.without (fun _ => true)
    = (i.process m (w.without m.isForeign)).2.without fun _ => true

variable {i : Interpreter} {m : Inbound} {w : World}

/-! ## Without foreign sessions under the conversation id -/

theorem isolated_of_apart (minds : w.Minds m.conversationId) (apart : m.IsApart w.store) :
    Isolated i m w := by
  let hidden : Entries → Bool := fun doc =>
    m.isForeign doc && !doc.holdsAll (Store.sessionOf m.conversationId)
  have shows : Store.Shows m.conversationId hidden := by
    intro doc mine
    show (_ && !doc.holdsAll _) = false
    rw [mine]
    exact Bool.and_false _
  have all : ∀ doc ∈ w.store.sessions, hidden doc = m.isForeign doc := by
    intro doc here
    show (_ && _) = _
    cases foreign : m.isForeign doc with
    | false => rfl
    | true => rw [apart doc here foreign]; rfl
  have concealed : w.store.concealed hidden = w.store.concealed m.isForeign :=
    List.filter_congr all
  have alone : w.without hidden = w.without m.isForeign := World.without_congr all
  obtain ⟨same, left⟩ := overlooks_process shows i w minds
  have kept := left.concealed
  rw [concealed] at kept
  rw [alone] at same
  constructor
  · rw [same]
  · rw [same, ← kept]
    exact (List.filter_append_perm hidden _).symm
  · rw [same, World.without_without_all]

/-! ## With a foreign session under the conversation id -/

/-- An answer that is isolated met no foreign session under the conversation id: such a session counts as
the one that is left of the conversation, and without it one less is left. -/
theorem apart_of_isolated (quiet : w.IsQuiet) (sound : w.store.IsSound m.conversationId)
    (isolated : Isolated i m w) : m.IsApart w.store := by
  intro doc here foreign
  rw [← Bool.not_eq_true]
  intro mine
  have one : w.store.sessionsOf m.conversationId = [doc] :=
    Store.IsKeyed.sessionsOf_eq_of_mem sound.keyed (List.mem_filter.mpr ⟨here, mine⟩)
  have alone : (w.without m.isForeign).store.sessionsOf m.conversationId = [] := by
    show (w.store.sessions.filter _).filter _ = []
    rw [Store.filter_filter_sessionOf, one, List.filter_cons_of_neg (by simp [foreign]),
      List.filter_nil]
  have shared : ((w.store.concealed m.isForeign).filter
      (·.holdsAll (Store.sessionOf m.conversationId))).length = 1 := by
    rw [Store.concealed, Store.filter_filter_sessionOf, one, List.filter_cons_of_pos foreign,
      List.filter_nil]
    rfl
  have quiet' : (w.without m.isForeign).IsQuiet := quiet
  have unresumed := resume_run_of_none quiet' (Store.session?_eq_none_iff.mpr alone)
  have less := settles_anew (i := i) (u := (w.without m.isForeign).joined) quiet' alone unresumed
  rcases answers_leave i m quiet sound with ⟨t, conflict, -⟩ | more
  · exact less.answers t (isolated.outcome.symm.trans conflict)
  · have lengths := (isolated.sessions.filter
      (·.holdsAll (Store.sessionOf m.conversationId))).length_eq
    rw [List.filter_append, List.length_append, shared] at lengths
    have full := more.sessions
    rw [isolated.outcome, ← less.sessions] at full
    rw [Store.sessionsOf, Store.sessionsOf] at full
    omega

/-- Answering is isolated exactly if no foreign session has the conversation id of the message. That
this suffices holds whatever faults strike; that it is needed holds where none does. -/
theorem isolated_iff (i : Interpreter) (m : Inbound) (w : World) (minds : w.Minds m.conversationId) :
    (m.IsApart w.store → Isolated i m w) ∧
    (w.IsQuiet → w.store.IsSound m.conversationId → (Isolated i m w ↔ m.IsApart w.store)) :=
  ⟨isolated_of_apart minds, fun quiet sound =>
    ⟨apart_of_isolated quiet sound, isolated_of_apart minds⟩⟩

end Interpreter

namespace Sample

open Interpreter (Isolated)

/-- A session of a bot in another workspace, in another conversation. -/
def remote : Entries :=
  { context with workspaceId := "ws-2", botId := "bot-2", conversationId := "call" }.document 1 noon nextNoon

/-- A message to that bot, in the conversation of the small bot. -/
def intruder : Inbound := ⟨"ws-2", "bot-2", "chat", "Ann", none⟩

/-- A session of another bot in another conversation makes no difference to the small bot. -/
theorem isolated_remote :
    (message "Ann").isForeign remote = true ∧
      Isolated (interpreter 24) (message "Ann") (world [session, remote]) := by
  have sound : (world [session, remote]).store.IsSound "chat" := by
    refine ⟨by unfold Store.IsKeyed; decide +kernel, fun doc found => ?_⟩
    have first : (world [session, remote]).store.session? "chat" = some session := rfl
    rw [← Option.some.inj (first.symm.trans found)]
    exact ⟨_, context.withIdText?_document 1 noon nextNoon⟩
  have apart : (message "Ann").IsApart (world [session, remote]).store := by
    unfold Inbound.IsApart
    decide +kernel
  refine ⟨by decide +kernel, ?_⟩
  exact ((Interpreter.isolated_iff (interpreter 24) (message "Ann") (world [session, remote])
    (fun _ none => nomatch none)).2 rfl sound).mpr apart

/-- A message to the other bot ends the conversation of the small bot, and is answered from its flow. -/
theorem not_isolated_shared_id :
    intruder.isForeign session = true ∧
      ((interpreter 24).process intruder (world [session])).2.store.sessions = [] ∧
      ¬ Isolated (interpreter 24) intruder (world [session]) := by
  refine ⟨by decide +kernel, by with_unfolding_all rfl, fun isolated => ?_⟩
  have answered : ((interpreter 24).process intruder (world [session])).1.success = true := by
    decide +kernel
  have alone : ((interpreter 24).process intruder
      ((world [session]).without intruder.isForeign)).1.success = false := by decide +kernel
  rw [isolated.outcome, alone] at answered
  cases answered

end Sample

end ChatFlow
