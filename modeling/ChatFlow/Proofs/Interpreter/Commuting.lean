import ChatFlow.Proofs.Interpreter.Concurring
import ChatFlow.Proofs.Interpreter.Counting
import ChatFlow.Proofs.Interpreter.Serving

/-!
Messages of different conversations can be answered in any order.

The answers share the sessions, the flows with their counters, and the definitions in memory. A message looks
only at the sessions of its own conversation, and these the other answer leaves alone. What the other answer
has counted nobody reads, if flows do not become readable by it. And what the other answer has put into memory
is what would be loaded anyway, if the requests of both do not clash. So to a message the world after the
other answer is as before (`Interpreter.concur_after`), and it is answered by the same turn. What remains is
that both runs are counted, in either order (`Interpreter.turns_commute`).

A flow that cannot be read because somebody wrote a text for the time of its last change is an exception: as
long as its definition is in memory its runs go on, and when one is over the time is written and the flow
can be read (`Sample.not_commutes_vague`).
-/

namespace ChatFlow

open Library (Request known?)

namespace Interpreter

open Store (AreExact AreSteady Recounts countOn countOn_comm)

variable {i : Interpreter} {m m₁ m₂ : Inbound} {w : World} {hidden : Entries → Bool}

/-! ## Without the sessions of others -/

/-- Answering begins alike without hidden sessions. -/
theorem beginning_without (shows : Store.Shows m.conversationId hidden) (minds : w.Minds m.conversationId) :
    beginning m (w.without hidden) = ((beginning m w).1, (beginning m w).2.without hidden) := by
  obtain ⟨same, left⟩ := overlooks_resume shows w minds
  rw [beginning, beginning, same]
  generalize (resume m.conversationId).run w = r at left ⊢
  obtain ⟨f | _ | ⟨c, d⟩, v⟩ := r
  · rfl
  · have same' := (Operation.IsReading.overlooks shows
      (Dispatch.isReading_find m.workspaceId m.botId (.ofMessage m.message) false) v left.minds).1
    dsimp only
    rw [same']
    rcases (Dispatch.find m.workspaceId m.botId (.ofMessage m.message) false).run v
      with ⟨f | _ | d, u⟩ <;> rfl
  · rfl

theorem turned?_without (shows : Store.Shows m.conversationId hidden) (minds : w.Minds m.conversationId) :
    i.turned? m (w.without hidden) = i.turned? m w := by
  rw [turned?_eq, turned?_eq, beginning_without shows minds]
  cases (beginning m w).1 <;> rfl

theorem asks_without (shows : Store.Shows m.conversationId hidden) {r : Request} :
    Asks m (w.without hidden) r ↔ Asks m w r := by
  have same : (w.without hidden).store.session? m.conversationId = w.store.session? m.conversationId :=
    Store.session?_without shows
  constructor
  · intro asks
    cases asks with
    | bound c reads => exact .bound c (reads.congr same.symm)
    | triggered c chosen => exact .triggered c chosen
  · intro asks
    cases asks with
    | bound c reads => exact .bound c (Keeping.IsReadAs.congr reads same)
    | triggered c chosen => exact .triggered c chosen

theorem sessions_without_isOther (conv : String) (w : World) :
    (w.without (isOther conv)).store.sessions = w.store.sessionsOf conv := by
  show w.store.sessions.filter (fun doc => !isOther conv doc) = w.store.sessionsOf conv
  simp only [isOther, Bool.not_not]
  rfl

/-! ## Flows -/

/-- The flows after an answer by the turn, if there was one: a run that it completes is counted. -/
def recounted (now : Moment) (docs : Documents) : Option (Outcome × Context) → Documents
  | some (o, c) => if o.completed then countOn now c.flowId o.success docs else docs
  | none => docs

theorem flows_process (built : i.registry.IsBuilt) (quiet : w.IsQuiet) (m : Inbound) :
    (i.process m w).2.store.flows = recounted w.now w.store.flows (i.turned? m w) := by
  have turned := process_turned quiet i m
  generalize i.process m w = r at turned
  cases turned with
  | ended d o c u v makes ends carries =>
    rw [turned?_eq_some_iff.mpr ⟨d, u, makes⟩, recounted, if_pos ((next_ended makes.shape).mp ends),
      ← makes.now built quiet]
    exact (makes.tallied quiet carries o.success).eq_countOn
  | unended d o c u answer v makes goes_on carries =>
    rw [turned?_eq_some_iff.mpr ⟨d, u, makes⟩, recounted, if_neg (goes_on ∘ (next_ended makes.shape).mpr)]
    exact carries.flows.trans (makes.flows quiet)
  | excused answer v idle still clock flows =>
    rw [turned?_eq_none_iff.mpr idle]
    exact flows

/-- It makes no difference which of two turns is counted first. -/
theorem recounted_comm {docs : Documents} (exact : AreExact docs) (now : Moment)
    (turn turn' : Option (Outcome × Context)) :
    recounted now (recounted now docs turn) turn' = recounted now (recounted now docs turn') turn := by
  cases turn with
  | none => rfl
  | some r =>
    cases turn' with
    | none => rfl
    | some r' =>
      obtain ⟨o, c⟩ := r
      obtain ⟨o', c'⟩ := r'
      cases completed : o.completed <;> cases completed' : o'.completed <;>
        simp [recounted, completed, completed', countOn_comm exact now c'.flowId c.flowId]

/-! ## After the answer to another message -/

/-- No two requests of the two messages clash. -/
def AskApart (m₁ m₂ : Inbound) (w : World) : Prop :=
  Library.AreApart fun r => Asks m₁ w r ∨ Asks m₂ w r

theorem AskApart.symm (apart : AskApart m₁ m₂ w) : AskApart m₂ m₁ w := fun r r' asks asks' =>
  apart r r' asks.symm asks'.symm

theorem AskApart.first (apart : AskApart m₁ m₂ w) : Library.AreApart (Asks m₁ w) := fun r r' asks asks' =>
  apart r r' (.inl asks) (.inl asks')

/-- Plain requests do not clash. -/
theorem askApart_of_isPlain (plain : ∀ m ∈ [m₁, m₂], ∀ r, Asks m w r → r.IsPlain) : AskApart m₁ m₂ w := by
  intro r r' _ asks'
  rcases asks' with asks' | asks'
  · exact (plain m₁ (by simp) r' asks').not_clashes
  · exact (plain m₂ (by simp) r' asks').not_clashes

/-- An answer leaves the flows as they are for readers. -/
theorem recounts_process (built : i.registry.IsBuilt) (quiet : w.IsQuiet) (steady : AreSteady w.store.flows)
    (versions : (i.process m w).2.store.versions = w.store.versions) :
    Recounts w.store (i.process m w).2.store := by
  have flows := flows_process built quiet m
  cases turn : i.turned? m w with
  | none =>
    rw [turn] at flows
    exact .of_flows flows versions
  | some r =>
    obtain ⟨o, c⟩ := r
    rw [turn, recounted] at flows
    by_cases completed : o.completed = true
    · rw [if_pos completed] at flows
      exact .of_countOn steady flows versions
    · rw [if_neg completed] at flows
      exact .of_flows flows versions

/-- After the answer to another message nothing has changed that a message asks for. -/
theorem concur_after (built : i.registry.IsBuilt) (quiet : w.IsQuiet) (steady : AreSteady w.store.flows)
    (other : m₂.conversationId ≠ m₁.conversationId) (apart : AskApart m₁ m₂ w)
    (silent : (i.process m₁ w).2.outside.calls = w.outside.calls) :
    Concur m₂ (w.without (isOther m₂.conversationId))
      ((i.process m₁ w).2.without (isOther m₂.conversationId)) := by
  obtain ⟨x, learns, cache, versions, outside⟩ := process_learns built quiet apart.first silent
  have recounts := recounts_process built quiet steady versions
  have now : (i.process m₁ w).2.now = w.now := Outside.now_of_unlogged outside
  refine ⟨⟨quiet, (spends_process i m₁ w).isQuiet quiet, ?_, False.elim, outside.symm⟩, ?_, fun r asks => ?_⟩
  · rw [sessions_without_isOther, sessions_without_isOther, sessionsOf_process_of_ne quiet other]
  · refine sameUpTo_of_map ?_
    show (w.store.chosen? w.now m₂.workspaceId m₂.botId (.ofMessage m₂.message) false).map _
      = ((i.process m₁ w).2.store.chosen? (i.process m₁ w).2.now m₂.workspaceId m₂.botId (.ofMessage m₂.message)
          false).map _
    rw [now, recounts.chosen?]
  · -- Of two answers that do not clash the first is in memory for both, or for none.
    have known := (learns.mono fun _ => .inl).known?_eq apart (.inr ((asks_without (shows_isOther _)).mp asks))
    show (known? w r.flowId r.version).map _ = (known? (i.process m₁ w).2 r.flowId r.version).map _
    rw [← known, known?, known?, cache, Option.map_or, Option.map_or, learns.definition?_eq, now,
      recounts.definition?]

/-- After the answer to another message a message is answered as it would have been, by the same turn. -/
theorem process_after (built : i.registry.IsBuilt) (quiet : w.IsQuiet) (steady : AreSteady w.store.flows)
    (other : m₂.conversationId ≠ m₁.conversationId) (apart : AskApart m₁ m₂ w)
    (silent : (i.process m₁ w).2.outside.calls = w.outside.calls) :
    (i.process m₂ (i.process m₁ w).2).1 = (i.process m₂ w).1 ∧
      (i.process m₂ (i.process m₁ w).2).2.store.sessionsOf m₂.conversationId
        = (i.process m₂ w).2.store.sessionsOf m₂.conversationId ∧
      i.turned? m₂ (i.process m₁ w).2 = i.turned? m₂ w := by
  have shows := shows_isOther m₂.conversationId
  have minds := minds_of_quiet quiet m₂.conversationId
  have minds' := minds_of_quiet ((spends_process i m₁ w).isQuiet quiet) m₂.conversationId
  have apart' : Library.AreApart (Asks m₂ (w.without (isOther m₂.conversationId))) := fun r r' asks asks' =>
    apart r r' (.inr ((asks_without shows).mp asks)) (.inr ((asks_without shows).mp asks'))
  obtain ⟨outcome, resembles, turn⟩ :=
    process_concurs built.ignoresLog (concur_after built quiet steady other apart silent) apart'
  rw [(overlooks_process shows i _ minds).1, (overlooks_process shows i _ minds').1] at outcome resembles
  rw [turned?_without shows minds, turned?_without shows minds'] at turn
  refine ⟨outcome.symm, ?_, turn.symm⟩
  rw [← sessions_without_isOther, ← sessions_without_isOther]
  exact resembles.sessions.symm

/-! ## Both orders -/

/-- In either order the messages are answered as each would be alone, neither answer changes a session of the
other conversation, and what is left of sessions and flows is the same. -/
structure Commutes (i : Interpreter) (m₁ m₂ : Inbound) (w : World) : Prop where
  first : (i.process m₁ (i.process m₂ w).2).1 = (i.process m₁ w).1
  second : (i.process m₂ (i.process m₁ w).2).1 = (i.process m₂ w).1
  sessions : ∀ conv, (i.process m₂ (i.process m₁ w).2).2.store.sessionsOf conv
    = (i.process m₁ (i.process m₂ w).2).2.store.sessionsOf conv
  flows : (i.process m₂ (i.process m₁ w).2).2.store.flows = (i.process m₁ (i.process m₂ w).2).2.store.flows
  spares : ∀ v : World, v.IsQuiet →
    (i.process m₁ v).2.store.sessionsOf m₂.conversationId = v.store.sessionsOf m₂.conversationId ∧
      (i.process m₂ v).2.store.sessionsOf m₁.conversationId = v.store.sessionsOf m₁.conversationId

/-- Answers to messages of two conversations commute if no fault waits, whether flows can be read does not
depend on their runs, what is asked for does not clash in memory, and neither message alone makes a call. -/
theorem turns_commute (s : Services) (maxHops : Nat) (hours : Int) (m₁ m₂ : Inbound) (w : World)
    (others : m₁.conversationId ≠ m₂.conversationId) (quiet : w.IsQuiet) (steady : AreSteady w.store.flows)
    (apart : AskApart m₁ m₂ w)
    (silent : ∀ m ∈ [m₁, m₂], ((standard s maxHops hours).process m w).2.outside.calls = w.outside.calls) :
    Commutes (standard s maxHops hours) m₁ m₂ w := by
  generalize standing : standard s maxHops hours = i at silent ⊢
  have built : i.registry.IsBuilt := by
    rw [← standing]
    exact Registry.isBuilt_standard s
  have silent₁ := silent m₁ (by simp)
  have silent₂ := silent m₂ (by simp)
  obtain ⟨outcome₂, sessions₂, turn₂⟩ := process_after built quiet steady others.symm apart silent₁
  obtain ⟨outcome₁, sessions₁, turn₁⟩ := process_after built quiet steady others apart.symm silent₂
  have quiet₁ : (i.process m₁ w).2.IsQuiet := (spends_process i m₁ w).isQuiet quiet
  have quiet₂ : (i.process m₂ w).2.IsQuiet := (spends_process i m₂ w).isQuiet quiet
  refine ⟨outcome₁, outcome₂, fun conv => ?_, ?_, fun v quiet =>
    ⟨sessionsOf_process_of_ne quiet others.symm, sessionsOf_process_of_ne quiet others⟩⟩
  · by_cases mine₁ : conv = m₁.conversationId
    · subst mine₁
      rw [sessionsOf_process_of_ne quiet₁ others, sessions₁]
    · by_cases mine₂ : conv = m₂.conversationId
      · subst mine₂
        rw [sessions₂, sessionsOf_process_of_ne quiet₂ others.symm]
      · rw [sessionsOf_process_of_ne quiet₁ mine₂, sessionsOf_process_of_ne quiet mine₁,
          sessionsOf_process_of_ne quiet₂ mine₁, sessionsOf_process_of_ne quiet mine₂]
  · rw [flows_process built quiet₁, flows_process built quiet₂, flows_process built quiet m₁,
      flows_process built quiet m₂, turn₁, turn₂, now_process built quiet, now_process built quiet,
      recounted_comm steady.areExact]

end Interpreter

namespace Sample

open Interpreter

/-- A message to the small bot in another conversation. -/
def call (text : String) : Inbound := { message text with conversationId := "call" }

/-- Whatever is asked for is the flow of the small bot, or its version. -/
theorem isPlain_of_asks {m : Inbound} {w : World}
    (bound : (w.store.session? m.conversationId).all (fun doc => (doc.getD "flow_id").isText "greeting"
      && (doc.getD "version_id").isText "v1") = true)
    (triggered : ((w.store.chosen? w.now m.workspaceId m.botId (.ofMessage m.message) false).toOption.bind
      id).all (·.id == "greeting") = true) (r : Library.Request) (asks : Asks m w r) : r.IsPlain := by
  cases asks with
  | bound c reads =>
    obtain ⟨doc, stored, loaded⟩ := reads.isLoadedFrom
    rw [stored, Option.all_some, Entries.getD_of_lookup loaded.flow, Entries.getD_of_lookup loaded.version] at bound
    simp only [Value.isText, Bool.and_eq_true, beq_iff_eq] at bound
    rw [bound.1, bound.2]
    exact ⟨by decide, by decide⟩
  | triggered c chosen =>
    rw [chosen] at triggered
    simp only [Except.toOption, Option.bind_some, id_eq, Option.all_some, beq_iff_eq] at triggered
    rw [triggered]
    exact ⟨by decide, by decide⟩

/-- While one conversation with the small bot ends and is counted, another begins. -/
theorem turns_commute_call :
    ((interpreter 24).process (message "Ann") (world [session])).1.completed = true ∧
      ((interpreter 24).process (call "hello") (world [session])).1.waitingForInput = true ∧
      Commutes (interpreter 24) (message "Ann") (call "hello") (world [session]) := by
  have steady : Store.AreSteady (world [session]).store.flows := by
    intro doc here
    rw [List.mem_singleton.mp (show doc ∈ [flowDocument] from here)]
    refine ⟨fun key count x => ?_, none, rfl⟩
    have absent : flowDocument.lookup key = none := by
      revert key
      decide
    rw [absent]
    nofun
  have apart : AskApart (message "Ann") (call "hello") (world [session]) := by
    refine askApart_of_isPlain fun m here => ?_
    simp only [List.mem_cons, List.not_mem_nil, or_false] at here
    rcases here with rfl | rfl
    · exact isPlain_of_asks (by decide +kernel) (by decide +kernel)
    · exact isPlain_of_asks (by decide +kernel) (by decide +kernel)
  have silent : ∀ m ∈ [message "Ann", call "hello"],
      ((interpreter 24).process m (world [session])).2.outside.calls = [] := by
    decide +kernel
  exact ⟨by decide +kernel, by decide +kernel, turns_commute services 50 24 (message "Ann") (call "hello")
    (world [session]) (by decide) rfl steady apart silent⟩

/-- The document of the flow after somebody wrote a text for the time of its last change. -/
def vagueDocument : Entries := Entries.update flowDocument [("updated_at", .text "yesterday")]

/-- The world of the small bot in the conversation, where its flow cannot be read but is in memory. -/
def vague : World := { world [session] with store := ⟨[vagueDocument], [], [session]⟩ }

/-- If the flow cannot be read for the time of its last change, it answers a second conversation only after
a run in the first was counted. -/
theorem not_commutes_vague :
    (message "Ann").conversationId ≠ (call "hello").conversationId ∧ vague.IsQuiet ∧
      (∀ m ∈ [message "Ann", call "hello"], ((interpreter 24).process m vague).2.outside.calls = []) ∧
      ((interpreter 24).process (call "hello") vague).1.waitingForInput = false ∧
      ((interpreter 24).process (call "hello") ((interpreter 24).process (message "Ann") vague).2).1.waitingForInput
        = true ∧
      ¬ Commutes (interpreter 24) (message "Ann") (call "hello") vague := by
  have alone : ((interpreter 24).process (call "hello") vague).1.waitingForInput = false := by decide +kernel
  have after : ((interpreter 24).process (call "hello")
      ((interpreter 24).process (message "Ann") vague).2).1.waitingForInput = true := by decide +kernel
  refine ⟨by decide, rfl, by decide +kernel, alone, after, fun commutes => ?_⟩
  rw [commutes.second, alone] at after
  cases after

end Sample

end ChatFlow
