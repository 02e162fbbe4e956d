import ChatFlow.Proofs.Interpreter.Settling
import ChatFlow.Proofs.Interpreter.Writing

/-!
What a failing read does to a conversation.

Reads of flows and versions log their failures and give nothing, as if the record did not exist; a read
of a session passes its failure on. Let a conversation be live: without faults it would be resumed. While
reads fail there are three ways for the next message to be answered (`Interpreter.survives_iff`). It may
be that the conversation is resumed nevertheless. It may be that its session is not even read; then the
session is left alone, and can be resumed where it stands, unless the answer breaks down for another
reason and its excuse clears the conversation. And it may be that the session is read, but the flow or
the version that it is bound to is not; then the session is taken for one whose flow is gone and is
removed, which is how a failure that passes costs a conversation
(`Sample.read_failure_ends_conversation`).
-/

namespace ChatFlow

namespace Interpreter

open ChatFlow.Flow (Definition)

open Operation (run_bind)

variable {i : Interpreter} {m : Inbound} {w v : World} {conv : String} {c : Context} {d : Definition}

/-! ## Live conversations -/

/-- The conversation can be resumed where the context stands, whenever no fault waits, its session has
not expired and the node is there. -/
def IsResumable (s : Store) (conv : String) (c : Context) : Prop :=
  ∀ v d, v.IsQuiet → v.store.session? conv = s.session? conv → Keeping.Lasts v.store conv v.now →
    ((Library.load c.flowId (some c.versionId)).run v.joined).1 = .ok (some d) →
    (d.node? c.currentNodeId).isSome = true →
    ∃ c' u, (resume conv).run v = (.ok (some (c', d)), u) ∧ c'.StandsAs c

/-- The session of the conversation outlives the message: neither the attempt to resume it nor what
follows changes it, and the conversation can be resumed where it stands. -/
structure Survives (i : Interpreter) (m : Inbound) (w : World) (c : Context) : Prop where
  resuming : ((resume m.conversationId).run w).2.store.sessionsOf m.conversationId
    = w.store.sessionsOf m.conversationId
  answering : (i.process m w).2.store.sessionsOf m.conversationId
    = w.store.sessionsOf m.conversationId
  resumable : IsResumable (i.process m w).2.store m.conversationId c

/-- The answer breaks down, for a reason other than a conflict. -/
def Breaks (i : Interpreter) (m : Inbound) (w : World) : Prop :=
  ∃ f, ((i.respond m).run w).1 = .error f ∧ ¬ f.IsConflict

/-- A conversation that would be resumed without faults has a session that is read as its context. -/
theorem isReadAs_of_calmed {u : World}
    (live : (resume conv).run w.calmed = (.ok (some (c, d)), u)) :
    Keeping.IsReadAs w.store conv w.now c := by
  have quiet : w.calmed.IsQuiet := rfl
  obtain ⟨loaded, -⟩ := load_of_resume quiet live
  exact (Keeping.isReadAs_of_load quiet.isAlone loaded).2

/-- As long as the session stays, the conversation can be resumed. -/
theorem isResumable_of_isReadAs {s t : Store} {now : Moment} (reads : Keeping.IsReadAs s conv now c)
    (same : t.session? conv = s.session? conv) : IsResumable t conv c := by
  intro v d quiet same' lasts bound node
  obtain ⟨c', again, stands⟩ := reads.later (same'.trans same) lasts
  rw [← stands.flow, ← stands.version] at bound
  rw [← stands.node] at node
  obtain ⟨u, run, -, -⟩ := resume_run_of_isReadAs quiet again bound node
  exact ⟨c', u, run, stands⟩

/-! ## The three ways -/

/-- Where there is nothing to resume although the conversation has a session, the session is left alone
until the answer is there or breaks down. -/
theorem sessions_respond (writes : v.LetsWrite) (alone : v.IsAlone)
    (resumed : (resume m.conversationId).run w = (.ok none, v))
    (present : (v.store.session? m.conversationId).isSome = true) :
    ((i.respond m).run w).2.store.sessions = v.store.sessions := by
  rcases sessions_anew (i := i) writes.isReachable alone resumed with same | ⟨absent, -⟩
  · exact same
  · rw [absent] at present
    cases present

/-- An answer that breaks down clears the conversation. -/
theorem sessionsOf_of_breaks (writes : w.LetsWrite) (breaks : Breaks i m w)
    (keyed : ((i.respond m).run w).2.store.IsKeyed m.conversationId) :
    (i.process m w).2.store.sessionsOf m.conversationId = [] := by
  obtain ⟨f, fails, other⟩ := breaks
  have still := (spends_respond i m w).letsWrite writes
  generalize responds : (i.respond m).run w = r at fails keyed still
  obtain ⟨result, u⟩ := r
  cases fails
  rw [process_of_error responds other still]
  exact Store.IsKeyed.sessionsOf_cleared keyed

/-- An answer that does not break down leaves what it did. -/
theorem store_of_not_breaks (whole : ¬ Breaks i m w) :
    (i.process m w).2.store = ((i.respond m).run w).2.store := by
  cases responds : (i.respond m).run w with
  | mk result u =>
    cases result with
    | ok o => rw [process_of_ok responds]
    | error f =>
      have conflict : f.IsConflict :=
        Classical.byContradiction fun other => whole ⟨f, congrArg Prod.fst responds, other⟩
      obtain ⟨conv, n, rfl⟩ := conflict
      rw [process_of_conflict responds]
      rfl

/-! ## Survival -/

/-- A session that is hidden outlives the message, unless the answer breaks down and its excuse clears the
conversation. -/
theorem survives_of_hides (writes : w.LetsWrite) (alone : w.IsAlone)
    (keyed : w.store.IsKeyed m.conversationId)
    (reads : Keeping.IsReadAs w.store m.conversationId w.now c) (hides : w.HidesSession) :
    Survives i m w c ↔ ¬ Breaks i m w := by
  obtain ⟨doc, stored, -⟩ := reads.isLoadedFrom
  have one := keyed.sessionsOf_eq stored
  obtain ⟨v, peeks, resumed⟩ := resume_of_hides writes.isReachable hides m.conversationId
  have looks := peeks.looks
  have same := looks.store alone
  have present : (v.store.session? m.conversationId).isSome = true := by
    rw [same, stored]
    rfl
  have sessions := sessions_respond (i := i) (looks.spends.letsWrite writes)
    (looks.spends.isAlone alone) resumed present
  have responding : ((i.respond m).run w).2.store.sessionsOf m.conversationId = [doc] := by
    rw [Store.sessionsOf, sessions, same]
    exact one
  constructor
  · intro survives breaks
    have gone := sessionsOf_of_breaks writes breaks (Store.isKeyed_of_singleton responding)
    have left := survives.answering
    rw [gone, one] at left
    cases left
  · intro whole
    have left : (i.process m w).2.store.sessionsOf m.conversationId = [doc] := by
      rw [store_of_not_breaks whole, responding]
    refine ⟨?_, left.trans one.symm, isResumable_of_isReadAs reads ?_⟩
    · rw [resumed, same]
    · rw [Store.session?_of_sessionsOf left, stored]

/-- A session that is read outlives the message only if it is resumed. -/
theorem resumes_of_survives (writes : w.LetsWrite) (alone : w.IsAlone)
    (keyed : w.store.IsKeyed m.conversationId)
    (reads : Keeping.IsReadAs w.store m.conversationId w.now c) (shows : ¬ w.HidesSession)
    (survives : Survives i m w c) :
    ∃ d v, (resume m.conversationId).run w = (.ok (some (c, d)), v) := by
  obtain ⟨doc, stored, -⟩ := reads.isLoadedFrom
  have one := keyed.sessionsOf_eq stored
  have resumes := resume_of_shows writes.isReachable alone shows fun nothing => by
    rw [reads.seen_eq] at nothing
    cases nothing
  generalize resumed : (resume m.conversationId).run w = r at resumes
  cases resumes with
  | resumed c' d v sight peeks =>
    rw [reads.seen_eq] at sight
    cases sight
    exact ⟨d, v, rfl⟩
  | givenUp v u peeks clears =>
    rw [Keeping.clear_run (peeks.looks.spends.letsWrite writes)] at clears
    cases clears
    have gone : (v.cleared m.conversationId).store.sessionsOf m.conversationId = [] :=
      Store.IsKeyed.sessionsOf_cleared (by rw [peeks.looks.store alone]; exact keyed)
    have left := survives.resuming
    rw [resumed, gone, one] at left
    cases left
  | fails f v peeks =>
    -- What keeps a conversation from being resumed is no conflict, so the excuse clears it.
    have fails : (i.respond m).run w = (.error f, v) := by
      rw [respond, run_bind, resumed]
    have other : ¬ f.IsConflict :=
      avoidsConflict_resume m.conversationId w writes f (congrArg Prod.fst resumed)
    have gone := sessionsOf_of_breaks (i := i) writes ⟨f, congrArg Prod.fst fails, other⟩
      (by rw [fails, peeks.looks.store alone]; exact keyed)
    have left := survives.answering
    rw [gone, one] at left
    cases left

/-- Let a conversation with one session be live, and let faults wait for reads only. The next message
resumes it, or its session outlives the message exactly if the session itself could not be read and the
answer did not break down. -/
theorem survives_iff (i : Interpreter) (m : Inbound) (w u : World) (c : Context) (d : Definition)
    (writes : w.LetsWrite) (alone : w.IsAlone) (keyed : w.store.IsKeyed m.conversationId)
    (live : (resume m.conversationId).run w.calmed = (.ok (some (c, d)), u)) :
    (∃ d' v, (resume m.conversationId).run w = (.ok (some (c, d')), v)) ∨
      (Survives i m w c ↔ w.HidesSession ∧ ¬ Breaks i m w) := by
  have reads := isReadAs_of_calmed live
  by_cases hides : w.HidesSession
  · right
    rw [survives_of_hides writes alone keyed reads hides]
    simp [hides]
  · by_cases survives : Survives i m w c
    · exact .inl (resumes_of_survives writes alone keyed reads hides survives)
    · right
      simp [hides, survives]

end Interpreter

namespace Sample

open Interpreter

/-- The world of the small bot with a session that cannot be read at once. -/
def blind : World := { world [session] with faults := [failing .findOne .sessions] }

/-- The session is not read, so a run is started anew. Its context cannot be saved, and the session is
left where it was. -/
theorem survives_blind : Survives (interpreter 24) (message "hello") blind context := by
  have writes : blind.LetsWrite := letsWrite_of_failing rfl rfl
  have alone : blind.IsAlone := isAlone_of_failing rfl
  have keyed : blind.store.IsKeyed "chat" := Nat.le_refl 1
  have reads : Keeping.IsReadAs blind.calmed.store "chat" blind.calmed.now context :=
    Keeping.isReadAs_document (c := context) (n := 1) rfl (by decide +kernel)
  have quiet : blind.calmed.IsQuiet := rfl
  obtain ⟨u, live, -⟩ := resume_run_of_isReadAs (d := definition) quiet reads rfl rfl
  rcases survives_iff (interpreter 24) (message "hello") blind u context definition writes alone keyed
    live with ⟨d, v, resumed⟩ | survives
  · have nothing : ((resume "chat").run blind).1.toOption = some none := rfl
    have found : ((resume "chat").run blind).1 = .ok (some (context, d)) := congrArg Prod.fst resumed
    rw [found] at nothing
    cases nothing
  · refine survives.mpr ⟨⟨failing .findOne .sessions, _, rfl, nofun⟩, ?_⟩
    intro breaks
    have left : (((interpreter 24).process (message "hello") blind).2.store.sessionsOf "chat").length
        = 1 := by decide +kernel
    have responding : (((interpreter 24).respond (message "hello")).run blind).2.store.IsKeyed "chat" := by
      unfold Store.IsKeyed
      decide +kernel
    have gone : ((interpreter 24).process (message "hello") blind).2.store.sessionsOf "chat" = [] :=
      sessionsOf_of_breaks writes breaks responding
    rw [gone] at left
    cases left

/-- The document of a flow that no message starts. -/
def mutedDocument : Entries :=
  [("_id", .text "greeting"), ("workspace_id", .text "ws-1"), ("bot_id", .text "bot-1"),
    ("name", .text "Greeting"), ("status", .text "active"), ("is_published", .bool true)]

/-- The document of the version. -/
def versionDocument : Entries :=
  [("_id", .text "v1"), ("flow_id", .text "greeting"), ("version", .int 1),
    ("nodes", .list [
      .dict [("id", .text "ask"), ("type", .text "question"),
        ("data", .dict [("content", .text "Your name?")])],
      .dict [("id", .text "bye"), ("type", .text "end"), ("data", .dict [])]]),
    ("edges", .list [.dict [("id", .text "e1"), ("source", .text "ask"), ("target", .text "bye")]])]

/-- The world after a restart: no definition is in memory, and the flow cannot be read at once. -/
def cold : World := { world [session] with
  store := ⟨[mutedDocument], [versionDocument], [session]⟩
  faults := [failing .findOne .flows]
  cache := [] }

/-- One failure to read the flow ends a live conversation: the name is answered with an excuse, and the
session is gone. -/
theorem read_failure_ends_conversation :
    ¬ ∀ (i : Interpreter) (m : Inbound) (w u : World) (c : Context) (d : Flow.Definition),
      w.LetsWrite → w.IsAlone → (∀ f ∈ w.faults, ∃ cause, f.effect = .fails cause) →
      w.store.IsKeyed m.conversationId →
      (resume m.conversationId).run w.calmed = (.ok (some (c, d)), u) →
      (∃ d' v, (resume m.conversationId).run w = (.ok (some (c, d')), v)) ∨ Survives i m w c := by
  intro survives
  have writes : cold.LetsWrite := letsWrite_of_failing rfl rfl
  have alone : cold.IsAlone := isAlone_of_failing rfl
  have fails := fails_of_failing (w := cold) rfl
  have found : ((resume "chat").run cold.calmed).1.toOption.join.isSome = true := by decide +kernel
  cases live : (resume "chat").run cold.calmed with
  | mk result u =>
    rw [live] at found
    match result with
    | .error f => cases found
    | .ok none => cases found
    | .ok (some (c, d)) =>
      have outlives := survives (interpreter 24) (message "Ann") cold u c d writes alone fails
        (Nat.le_refl 1) live
      rcases outlives with ⟨d', v, resumed⟩ | left
      · have nothing : ((resume "chat").run cold).1.toOption.join.isSome = false := by decide +kernel
        have resumes : ((resume "chat").run cold).1 = .ok (some (c, d')) := congrArg Prod.fst resumed
        rw [resumes] at nothing
        cases nothing
      · have gone : (((interpreter 24).process (message "Ann") cold).2.store.sessionsOf "chat").length
            = 0 := by decide +kernel
        have stays : ((interpreter 24).process (message "Ann") cold).2.store.sessionsOf "chat"
            = cold.store.sessionsOf "chat" := left.answering
        rw [stays] at gone
        cases gone

end Sample

end ChatFlow
