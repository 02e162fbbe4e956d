import ChatFlow.Proofs.Interpreter.Serving
import ChatFlow.Proofs.Turn.Telling

/-!
The history of a session is the transcript of its run.

The history of a conversation is put together in three places: a run that is started begins it with the
message, a reply is added before the first node of a turn, and every node adds what it says. It is stored
after each turn that waits and loaded before the next. `Interpreter.transcript` is what it ought to be,
made of nothing but the messages that a service was sent and the answers that it gave: for every turn since
the one that started the run, what the user said, followed by the messages of the answer.

Along with a service goes the log of all its answers (`Interpreter.Logs`). In each of its worlds every
session is the document of a context whose history is the transcript (`Logs.isTranscribed`). An answer
preserves this, as its turn adds to the history what it adds to the transcript (`Makes.tells`).
-/

namespace ChatFlow

open ChatFlow.Flow (Definition)

namespace Interpreter

variable {i : Interpreter} {m : Inbound} {w u v : World} {d : Definition} {c : Context} {o : Outcome}

/-! ## Logs -/

/-- The worlds of a service that began without sessions, with all that it answered, the last answer
first. -/
inductive Logs (i : Interpreter) : World → List Answered → Prop
  | begins (w : World) (quiet : w.IsQuiet) (empty : w.store.sessions = []) : Logs i w []
  /-- Something happens elsewhere; sessions may expire. -/
  | passes (w v : World) (log : List Answered) (before : Logs i w log) (quiet : v.IsQuiet)
    (sessions : v.store.sessions.Sublist w.store.sessions) : Logs i v log
  | answers (w : World) (log : List Answered) (m : Inbound) (before : Logs i w log) :
    Logs i (i.process m w).2 (⟨m, w, (i.process m w).1⟩ :: log)

/-- The last answer of every conversation. -/
def lastAnswers (log : List Answered) : Answers :=
  log.foldr (fun a last => last.note a) fun _ => none

variable {log : List Answered}

/-- A service that logs its answers serves. -/
theorem Logs.serves (logs : Logs i w log) : Serves i w (lastAnswers log) := by
  induction logs with
  | begins w quiet empty => exact .begins w quiet empty
  | passes w v log _ quiet sessions ih => exact .passes w v _ ih quiet sessions
  | answers w log m _ ih => exact .answers w _ m ih

/-! ## Transcripts -/

/-- The message starts a run: there is nothing to resume. -/
def Answered.startsRun (a : Answered) : Bool :=
  match ((resume a.message.conversationId).run a.world).1 with
  | .ok (some _) => false
  | _ => true

/-- What the user said: the message that starts a run in any case, a later one unless its text is empty.
A later message is a reply to the node at which the conversation stands. -/
def Answered.userSaid (a : Answered) : List Message :=
  match ((resume a.message.conversationId).run a.world).1 with
  | .ok (some (c, _)) => Turn.heard c a.world.now (some a.message.message)
  | _ => [.ofUser a.world.now a.message.message none]

/-- All that was said in a conversation since the message that started its run, given a log with the last
answer first. -/
def transcript (conv : String) : List Answered → List Message
  | [] => []
  | a :: earlier =>
    if a.message.conversationId = conv then
      (if a.startsRun then [] else transcript conv earlier) ++ a.userSaid ++ a.outcome.messages
    else transcript conv earlier

/-- The turn behind an answer that waits adds what the user said and the messages of the answer: to an
empty history if it starts a run, and otherwise to the history that was stored. -/
theorem Makes.tells (makes : Makes i m w d o c u) (quiet : w.IsQuiet) (waits : o.waitingForInput = true) :
    ((⟨m, w, o⟩ : Answered).startsRun = true ∧
        c.history = (⟨m, w, o⟩ : Answered).userSaid ++ o.messages) ∨
      (⟨m, w, o⟩ : Answered).startsRun = false ∧
        ∃ c₀, Keeping.IsReadAs w.store m.conversationId w.now c₀ ∧
          c.history = c₀.history ++ (⟨m, w, o⟩ : Answered).userSaid ++ o.messages := by
  have whole := makes.shape.error_of_waits waits
  cases makes with
  | proceeds c₀ later d u o left resumed turn =>
    obtain ⟨looks, reads, -⟩ := isReadAs_of_resume quiet.isAlone resumed
    have clock : u.outside.now = w.now := looks.now
    have told := Turn.takeTurn_tells i.registry i.maxHops d c₀ (some m.message) u.outside
    rw [turn, clock] at told
    refine .inr ⟨?_, c₀, reads, ?_⟩
    · rw [Answered.startsRun, resumed]
    · rw [Answered.userSaid, resumed]
      exact told whole
  | starts c₀ later d v u o left resumed found created turn =>
    have finds := (Dispatch.isReading_find m.workspaceId m.botId (.ofMessage m.message) false).looks v
    rw [found] at finds
    have clock : u.now = w.now := finds.now.trans (now_of_resume_none quiet resumed)
    have told := Turn.takeTurn_tells i.registry i.maxHops d (c₀.say [.ofUser u.now m.message none])
      none u.outside
    rw [turn] at told
    refine .inl ⟨?_, ?_⟩
    · rw [Answered.startsRun, resumed]
    · rw [Answered.userSaid, resumed, told whole, Turn.heard_none, Context.say,
        Context.history_of_create? created, clock]
      rfl

/-! ## The invariant -/

/-- Every session is the document of a context whose history is the transcript of its conversation. -/
def IsTranscribed (s : Store) (log : List Answered) : Prop :=
  ∀ doc ∈ s.sessions, ∃ (c : Context) (n : Int) (writtenAt expiresAt : Moment),
    doc = c.document n writtenAt expiresAt ∧ c.history = transcript c.conversationId log

/-- What an answer that waits stores has the transcript as its history. -/
theorem Makes.history (makes : Makes i m w d o c u) (quiet : w.IsQuiet)
    (waits : o.waitingForInput = true) (transcribed : IsTranscribed w.store log) :
    c.history = transcript m.conversationId (⟨m, w, o⟩ :: log) := by
  rw [transcript, if_pos rfl]
  rcases makes.tells quiet waits with ⟨starts, history⟩ | ⟨resumes, c₀, reads, history⟩
  · rw [starts, history]
    rfl
  · obtain ⟨doc, stored, loaded⟩ := reads.isLoadedFrom
    obtain ⟨c₁, n, s, t, rfl, kept⟩ := transcribed doc (List.mem_of_find?_eq_some stored)
    have same := reads.eq_kept stored
    have mine := Keeping.conversationId_of_load stored loaded
    rw [same, Context.kept_conversationId] at mine
    have before : c₀.history = transcript m.conversationId log := by
      rw [same, ← mine]
      exact kept
    rw [resumes, history, before]
    rfl

/-- An answer preserves the invariant. -/
theorem IsTranscribed.process {last : Answers} (serves : Serves i w last)
    (transcribed : IsTranscribed w.store log) (m : Inbound) :
    IsTranscribed (i.process m w).2.store (⟨m, w, (i.process m w).1⟩ :: log) := by
  have served := serves.isServed
  intro doc here
  cases served.remains m here with
  | old was other =>
    -- The answer is not in the transcript of another conversation.
    obtain ⟨c, n, s, t, rfl, kept⟩ := transcribed doc was
    refine ⟨c, n, s, t, rfl, ?_⟩
    rw [transcript, if_neg (conversationId_ne_of_other other).symm, kept]
  | new d c u n e makes waits mine positive timely document =>
    refine ⟨c, n, u.now, e, document, ?_⟩
    rw [mine]
    exact makes.history served.quiet waits transcribed

/-- The invariant holds in every world of a service. -/
theorem Logs.isTranscribed (logs : Logs i w log) : IsTranscribed w.store log := by
  induction logs with
  | begins w quiet empty =>
    intro doc here
    rw [empty] at here
    cases here
  | passes w v log _ quiet sessions ih => exact fun doc here => ih doc (sessions.mem here)
  | answers w log m before ih => exact ih.process before.serves m

/-- The history of a stored session is exactly the transcript of its conversation since the message that
started its run. -/
theorem history_is_transcript (i : Interpreter) (w : World) (log : List Answered) (logs : Logs i w log)
    (conv : String) (doc : Entries) (stored : w.store.session? conv = some doc) :
    doc.lookup "message_history" = some (.list ((transcript conv log).map Message.toValue)) := by
  obtain ⟨c, n, s, t, rfl, kept⟩ := logs.isTranscribed doc (List.mem_of_find?_eq_some stored)
  have mine := Store.holdsAll_sessionOf.mp (Store.holdsAll_of_session? stored)
  rw [c.document_conversationId, Option.some.injEq, Value.text.injEq] at mine
  rw [← mine, ← kept]
  exact (c.isSavedIn_document n s t).history

end Interpreter

namespace Sample

open Interpreter

/-- The small bot was greeted, and then sent a blank. -/
def blankLog : List Answered :=
  [⟨message " ", asked, ((interpreter 24).process (message " ") asked).1⟩,
    ⟨message "hello", world [], ((interpreter 24).process (message "hello") (world [])).1⟩]

theorem logs_blank : Logs (interpreter 24) ((interpreter 24).process (message " ") asked).2 blankLog :=
  .answers asked _ (message " ") (.answers (world []) [] (message "hello") (.begins (world []) rfl rfl))

/-- After the blank the name is asked for again, and both messages and both questions are in the stored
history. -/
theorem history_is_transcript_blank :
    ∃ doc, ((interpreter 24).process (message " ") asked).2.store.session? "chat" = some doc ∧
      doc.lookup "message_history" = some (.list ((transcript "chat" blankLog).map Message.toValue)) ∧
      (transcript "chat" blankLog).map (fun m => (m.role, m.content))
        = [(.user, "hello"), (.bot, "Your name?"), (.user, " "), (.bot, "Your name?")] := by
  have there : (((interpreter 24).process (message " ") asked).2.store.session? "chat").isSome = true := by
    decide +kernel
  obtain ⟨doc, stored⟩ := Option.isSome_iff_exists.mp there
  exact ⟨doc, stored, history_is_transcript (interpreter 24) _ blankLog logs_blank "chat" doc stored,
    by decide +kernel⟩

end Sample

end ChatFlow
