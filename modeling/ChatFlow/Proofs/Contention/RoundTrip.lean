import ChatFlow.Proofs.Contention.CompareAndSwap
import ChatFlow.Proofs.Conversation.Saving

/-!
What is saved is loaded again.

A save writes a context in one of two ways, a load reads its document part by part, and a contact is
taken apart in between. Nothing is lost on the way (`Contention.load_of_save`): the context that a later
load gives is the one that was saved, with the next sequence number and the time of the save.

The document of a session need not have been written at once. Several saves may have worked on it, of
contexts that know nothing of each other, with loads and completion marks in between. The first section
says that such a session always is the document of one context (`LastSaved.isRecorded`), which is what
makes its next save and its next load predictable.
-/

namespace ChatFlow

namespace Context

/-- A save writes over what a completion mark wrote. -/
theorem advanced_completed (later c : Context) (n : Int) (writtenAt expiresAt marked now expiry : Moment) :
    Store.advanced (later.savedFields now expiry) (Store.completed marked (c.document n writtenAt expiresAt))
      = Store.advanced (later.savedFields now expiry) (c.document n writtenAt expiresAt) := by
  have once : "sequence" ∉ (later.savedFields now expiry).map Prod.fst := by
    rw [map_fst_savedFields]
    decide
  rw [Store.advanced_of_sequence once (c.document_sequence n writtenAt expiresAt),
    Store.advanced_of_sequence (n := n) once
      ((Store.lookup_completed marked (by decide) (by decide)).trans
        (c.document_sequence n writtenAt expiresAt))]
  simp [Store.completed, document, firstSession, savedFields, Session.toEntries, Entries.update,
    Entries.insert]

/-- Of several completion marks the last one counts. -/
theorem completed_completed (c : Context) (n : Int) (writtenAt expiresAt marked now : Moment) :
    Store.completed now (Store.completed marked (c.document n writtenAt expiresAt))
      = Store.completed now (c.document n writtenAt expiresAt) := by
  simp [Store.completed, document, firstSession, Session.toEntries, Entries.update, Entries.insert]

end Context

namespace Contention

open Keeping (expiry? load save)

/-! ## Sessions that were saved -/

/-- The conversation has one session, the document of a context. -/
def IsRecorded (conv : String) (docs : Documents) : Prop :=
  ∃ (c : Context) (n : Int) (writtenAt expiresAt : Moment),
    c.conversationId = conv ∧ 1 ≤ n ∧ docs = [c.document n writtenAt expiresAt]

/-- What the service makes of the documents of a conversation: none, or the document of a context, which
may be marked as completed. -/
inductive IsMade (conv : String) : Documents → Prop
  | none : IsMade conv []
  | recorded {docs : Documents} (saved : IsRecorded conv docs) : IsMade conv docs
  | marked (c : Context) (n : Int) (writtenAt expiresAt at_ : Moment) (mine : c.conversationId = conv)
    (positive : 1 ≤ n) : IsMade conv [Store.completed at_ (c.document n writtenAt expiresAt)]

section Writes

variable {hours : Int} {conv : String} {docs after : Documents} {w : World}

theorem IsRecorded.isCounted (h : IsRecorded conv docs) : IsCounted docs := by
  obtain ⟨c, n, t, e, -, positive, rfl⟩ := h
  exact .inr ⟨_, n, rfl, c.document_sequence n t e, positive⟩

theorem IsMade.isCounted (h : IsMade conv docs) : IsCounted docs := by
  cases h with
  | none => exact .inl rfl
  | recorded saved => exact saved.isCounted
  | marked c n t e at_ mine positive =>
    exact .inr ⟨_, n, rfl, (sequence_completed _ at_).trans (c.document_sequence n t e), positive⟩

/-- A save turns the document of a context into the document of the same context at another place of its
run, whoever the saved context was. -/
theorem isRecorded_advanced {c : Context} {n : Int} (writtenAt expiresAt : Moment)
    (mine : c.conversationId = conv) (positive : 1 ≤ n) (other : Context) (now expiry : Moment) :
    IsRecorded conv
      [Store.advanced (other.savedFields now expiry) (c.document n writtenAt expiresAt)] := by
  let later : Context :=
    { c with vars := other.vars, history := other.history, currentNodeId := other.currentNodeId }
  have run : later.Continues c := rfl
  have same : other.savedFields now expiry = later.savedFields now expiry := rfl
  refine ⟨later, n + 1, now, expiry, mine, by omega, ?_⟩
  rw [same, Context.advanced_document run]

/-- A save leaves the document of a context. -/
theorem Effect.isRecorded {x : Write} (h : Effect conv (some x) docs after) (made : IsMade conv docs)
    (saves : x = .insert ∨ x = .update) : IsRecorded conv after := by
  cases h with
  | insert c now e mine => exact ⟨c, 1, now, e, mine, Int.le_refl 1, rfl⟩
  | update doc other now e =>
    cases made with
    | recorded saved =>
      obtain ⟨c, n, t, e', mine, positive, same⟩ := saved
      cases same
      exact isRecorded_advanced t e' mine positive other now e
    | marked c n t e' at_ mine positive =>
      rw [Context.advanced_completed]
      exact isRecorded_advanced t e' mine positive other now e
  | mark doc now => rcases saves with saves | saves <;> cases saves
  | remove doc => rcases saves with saves | saves <;> cases saves

theorem Effect.isMade {x : Option Write} (h : Effect conv x docs after) (made : IsMade conv docs) :
    IsMade conv after := by
  match x, h with
  | .none, .none _ => exact made
  | some .insert, h => exact .recorded (h.isRecorded made (.inl rfl))
  | some .update, h => exact .recorded (h.isRecorded made (.inr rfl))
  | some .remove, .remove _ => exact .none
  | some .mark, .mark doc now =>
    cases made with
    | recorded saved =>
      obtain ⟨c, n, t, e, mine, positive, same⟩ := saved
      cases same
      exact .marked c n t e now mine positive
    | marked c n t e at_ mine positive =>
      rw [Context.completed_completed]
      exact .marked c n t e now mine positive

/-- Whatever is done, the conversation has no session or one that the service made. -/
theorem history_isMade (moves : List Move) (quiet : w.IsQuiet)
    (made : IsMade conv (w.store.sessionsOf conv)) (concern : ∀ x ∈ moves, x.Concerns conv) :
    IsMade conv ((history hours conv moves w).2.store.sessionsOf conv) := by
  induction moves generalizing w with
  | nil => exact made
  | cons x rest ih =>
    obtain ⟨quiet', effect⟩ :=
      effect_of_move hours quiet made.isCounted (concern x List.mem_cons_self)
    exact ih quiet' (effect.isMade made) fun y later => concern y (List.mem_cons_of_mem x later)

/-- The session of the conversation is as a save has left it: the conversation once had none, and of all
that was done to it since, a save that succeeded was the last. -/
inductive LastSaved (hours : Int) (conv : String) : Documents → Prop
  | intro (w : World) (moves : List Move) (c : Context) (quiet : w.IsQuiet)
    (nothing : w.store.sessionsOf conv = []) (concern : ∀ x ∈ moves, x.Concerns conv)
    (mine : c.conversationId = conv) (saved : (save hours c (history hours conv moves w).2).1.1 = .ok true) :
    LastSaved hours conv
      ((save hours c (history hours conv moves w).2).2.store.sessionsOf conv)

/-- A session that a save has left is the document of one context. -/
theorem LastSaved.isRecorded (h : LastSaved hours conv docs) : IsRecorded conv docs := by
  obtain ⟨w, moves, c, quiet, nothing, concern, mine, saved⟩ := h
  have made : IsMade conv ((history hours conv moves w).2.store.sessionsOf conv) :=
    history_isMade moves quiet (nothing ▸ .none) concern
  have quiet' := (history_isCounted hours moves quiet (.inl nothing) concern).1
  obtain ⟨-, effect⟩ := effect_of_save hours quiet' made.isCounted mine
  have counts : (Move.save c).write? hours conv (history hours conv moves w).2
      = some (if c.sequence == 0 then .insert else .update) := by
    rw [Move.write?, saved]
  rw [counts] at effect
  refine effect.isRecorded made ?_
  cases c.sequence == 0
  · exact .inr rfl
  · exact .inl rfl

end Writes

/-! ## Contexts that can be saved -/

/-- Nobody has saved since the context was made: it is fresh and its conversation has no session, or it
was loaded from the session as a save has left it, and the session still is that one. Where it stands,
its variables and its history may have changed. -/
inductive IsCurrent (hours : Int) (w : World) (c : Context) : Prop
  | fresh (never : c.sequence = 0) (absent : w.store.session? c.conversationId = none)
  | loaded (v u : World) (c₀ : Context) (quiet : v.IsQuiet)
    (saved : LastSaved hours c.conversationId (v.store.sessionsOf c.conversationId))
    (loads : (load c.conversationId).run v = (.ok (some c₀), u)) (run : c.Continues c₀)
    (unwritten : w.store.sessionsOf c.conversationId = v.store.sessionsOf c.conversationId)

section Current

variable {hours : Int} {w : World} {c : Context} {e : Moment}

/-- A context is loaded from a document as the context of the document, with its number. -/
theorem continues_of_load {conv : String} {v u : World} {c c₀ d : Context} {n : Int}
    {writtenAt expiresAt : Moment} (quiet : v.IsQuiet)
    (sessions : v.store.sessionsOf conv = [d.document n writtenAt expiresAt])
    (loads : (load conv).run v = (.ok (some c₀), u)) (run : c.Continues c₀) :
    c.sequence = n ∧ c.Continues (d.kept n writtenAt) := by
  obtain ⟨-, reads⟩ := Keeping.isReadAs_of_load quiet.isAlone loads
  have same := reads.eq_kept (Store.session?_of_sessionsOf sessions)
  subst same
  exact ⟨run.sequence, run⟩

/-- Saving a context advances the document of any context that it continues. -/
theorem advanced_kept {later d : Context} {n : Int} {writtenAt : Moment}
    (run : later.Continues (d.kept n writtenAt)) (expiresAt now expiry : Moment) :
    Store.advanced (later.savedFields now expiry) (d.document n writtenAt expiresAt)
      = later.document (n + 1) now expiry := by
  have same : d.document n writtenAt expiresAt = (d.kept n writtenAt).document n writtenAt expiresAt :=
    rfl
  rw [same, Context.advanced_document run]

/-- A current context can be saved: the session then is its document, with the next sequence number. -/
theorem save_of_current (quiet : w.IsQuiet) (timely : expiry? w.now hours = .ok e)
    (current : IsCurrent hours w c) :
    ∃ v, save hours c w = ((.ok true, c.kept (c.sequence + 1) w.now), v) ∧ v.IsQuiet ∧
      0 ≤ c.sequence ∧
      v.store.sessionsOf c.conversationId = [c.document (c.sequence + 1) w.now e] := by
  cases current with
  | fresh never absent =>
    have none := Store.session?_eq_none_iff.mp absent
    have added := Store.sessionsOf_added (s := w.store) (c.holdsAll_sessionOf_document 1 w.now e)
    rw [none, List.nil_append] at added
    rw [Keeping.save_fresh quiet.letsWrite timely never, absent, never]
    exact ⟨_, rfl, quiet, Int.le_refl 0, added⟩
  | loaded v u c₀ quiet' saved loads run unwritten =>
    obtain ⟨d, n, writtenAt, expiresAt, -, positive, one⟩ := saved.isRecorded
    obtain ⟨number, run'⟩ := continues_of_load quiet' one loads run
    rw [one] at unwritten
    have found := d.document_sequence n writtenAt expiresAt
    have next : Operation.sequenceOf (c.document (n + 1) w.now e) = n + 1 := rfl
    have other : "conversation_id" ∉ (c.savedFields w.now e).map Prod.fst := by
      rw [Context.map_fst_savedFields]
      decide
    have left := Store.sessionsOf_saved_singleton unwritten other found
    rw [advanced_kept run'] at left
    rw [Keeping.save_stored quiet.letsWrite timely (by omega), number,
      Store.find?_sessionAt_of_sequence n unwritten found, if_pos rfl]
    dsimp only
    rw [advanced_kept run', next]
    exact ⟨_, rfl, quiet, by omega, left⟩

/-- What is saved is loaded again: a save of a current context succeeds, if the calendar holds its expiry,
and until it expires every load of the session that it leaves gives the context back, with the next
sequence number and the time of the save. -/
theorem load_of_save (hours : Int) (w : World) (c : Context) (e : Moment) (quiet : w.IsQuiet)
    (timely : expiry? w.now hours = .ok e) (current : IsCurrent hours w c) :
    ∃ v, save hours c w = ((.ok true, c.kept (c.sequence + 1) w.now), v) ∧
      ∀ later : World, later.IsQuiet →
        later.store.sessionsOf c.conversationId = v.store.sessionsOf c.conversationId →
        e.compare? later.now = some .gt →
        ((load c.conversationId).run later).1 = .ok (some (c.kept (c.sequence + 1) w.now)) := by
  obtain ⟨v, saves, -, -, left⟩ := save_of_current quiet timely current
  refine ⟨v, saves, fun later quiet' same unexpired => ?_⟩
  have stored := Store.session?_of_sessionsOf (same.trans left)
  rw [Keeping.load_run_of_document quiet' stored unexpired]

end Current

end Contention

namespace Sample

open Contention

/-- The conversation before it is first saved. -/
def unsaved : Context := { context with sequence := 0 }

/-- The session of the small bot is as its first save has left it. -/
theorem lastSaved_session : LastSaved 24 "chat" [session] :=
  .intro (world []) [] unsaved rfl rfl (fun _ here => by cases here) rfl (by with_unfolding_all rfl)

theorem isCurrent_context : IsCurrent 24 (world [session]) context :=
  .loaded (world [session]) (world [session]) context rfl lastSaved_session load_session
    (.refl context) rfl

/-- The conversation with an answer that has nested data. -/
def answered : Context := { context with
  vars := [("profile", .dict [("name", .text "Ann"), ("tags", .list [.text "new", .int 1])])]
  history := [.ofUser noon "Ann" (some "ask")] }

theorem isCurrent_answered : IsCurrent 24 (world [session]) answered :=
  .loaded (world [session]) (world [session]) context rfl lastSaved_session load_session rfl rfl

/-- The answer is saved into the session, and loaded from there. -/
theorem load_of_save_answered :
    ((Keeping.load "chat").run (Keeping.save 24 answered (world [session])).2).1
      = .ok (some (answered.kept 2 noon)) := by
  obtain ⟨v, saves, loads⟩ :=
    load_of_save 24 (world [session]) answered nextNoon rfl expiry_noon isCurrent_answered
  have quiet : v.IsQuiet := by
    have quiet := Keeping.save_quiet (w := world [session]) rfl 24 answered
    rw [saves] at quiet
    exact quiet
  have still : v.now = noon := by
    have now : (Keeping.save 24 answered (world [session])).2.now = noon := by with_unfolding_all rfl
    rw [saves] at now
    exact now
  rw [saves]
  exact loads v quiet rfl (by rw [still]; decide +kernel)

/-- With sessions that are kept for longer than the calendar goes, a fresh context cannot be saved. -/
theorem save_outside_calendar :
    ¬ ∀ (hours : Int) (w : World) (c : Context), w.IsQuiet → IsCurrent hours w c →
      ∃ kept v, Keeping.save hours c w = ((.ok true, kept), v) := by
  intro saved
  obtain ⟨kept, v, saves⟩ := saved 1000000000 (world []) unsaved rfl (.fresh rfl rfl)
  obtain ⟨e, timely⟩ := Keeping.expiry_of_save saves
  have late : (Keeping.expiry? (world []).now 1000000000).toOption.isNone = true := by decide +kernel
  rw [timely] at late
  cases late

end Sample

end ChatFlow
