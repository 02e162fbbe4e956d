import ChatFlow.Proofs.Conversation.Rereading
import ChatFlow.Proofs.Interpreter.Answering

/-!
What a successful save says about the time since the load.

A save names the sequence number that its context was loaded with, and is refused if the session has
another one. Between a load and its save, others load, save, mark and remove, one step at a time
(`Move`). The module asks which of their writes a successful save rules out.

`Effect` says what a write does to the documents of the conversation, and `effect_of_move` that a move
does what the write says which it counts as. Every update moves the sequence number up, and a removal
takes it away for good unless a new session is inserted; so a successful save rules out updates and
removals as long as there was no insertion (`history_since`). It rules out neither completion marks,
which leave the number alone, nor a new session, which starts to count at 1 again.
-/

namespace ChatFlow

namespace Contention

/-! ## Moves and writes -/

/-- What somebody does to the session of a conversation, one step at a time. A conversation is cleared
by a mark and a removal. -/
inductive Move where
  | load
  | save (c : Context)
  | mark
  | remove
  /-- Something happens outside; the clock may have moved. -/
  | pass (outside : Outside)

/-- The move is about the conversation. -/
def Move.Concerns (conv : String) : Move → Prop
  | .save c => c.conversationId = conv
  | _ => True

/-- A write of the session of a conversation. -/
inductive Write where
  | insert
  | update
  | mark
  | remove
deriving DecidableEq, Repr

section Definitions

variable (hours : Int) (conv : String)

/-- The world after a move. -/
def Move.world : Move → World → World
  | .load, w => ((Keeping.load conv).run w).2
  | .save c, w => (Keeping.save hours c w).2
  | .mark, w => ((Operation.completeSession conv).run w).2
  | .remove, w => ((Operation.deleteSession conv).run w).2
  | .pass outside, w => w.withOutside outside

/-- The write of a session that a move is, if it is one. A load removes a session that cannot be used. -/
def Move.write? : Move → World → Option Write
  | .load, w =>
    if (w.store.session? conv).isSome
        && (((Keeping.load conv).run w).2.store.session? conv).isNone then some .remove
    else none
  | .save c, w =>
    match (Keeping.save hours c w).1.1 with
    | .ok true => some (if c.sequence == 0 then .insert else .update)
    | _ => none
  | .mark, w => if (w.store.session? conv).isSome then some .mark else none
  | .remove, w => if (w.store.session? conv).isSome then some .remove else none
  | .pass _, _ => none

/-- The writes of a list of moves, and the world after them. -/
def history : List Move → World → List Write × World
  | [], w => ([], w)
  | x :: rest, w =>
    let later := history rest (x.world hours conv w)
    ((x.write? hours conv w).toList ++ later.1, later.2)

end Definitions

/-! ## What a write does -/

/-- The documents of a conversation as the service leaves them: none, or one that counts its writes. -/
def IsCounted (docs : Documents) : Prop :=
  docs = [] ∨ ∃ doc n, docs = [doc] ∧ doc.lookup "sequence" = some (.int n) ∧ 1 ≤ n

/-- What a write does to the documents of a conversation. -/
inductive Effect (conv : String) : Option Write → Documents → Documents → Prop
  | none (docs : Documents) : Effect conv none docs docs
  | insert (c : Context) (now e : Moment) (mine : c.conversationId = conv) :
    Effect conv (some .insert) [] [c.document 1 now e]
  | update (doc : Entries) (c : Context) (now e : Moment) :
    Effect conv (some .update) [doc] [Store.advanced (c.savedFields now e) doc]
  | mark (doc : Entries) (now : Moment) :
    Effect conv (some .mark) [doc] [Store.completed now doc]
  | remove (doc : Entries) : Effect conv (some .remove) [doc] []

/-- The keys that the writes of a session change; no other key changes while a session exists. -/
def changingKeys : List String := "sequence" :: Context.savedKeys

/-- The write changes nothing but these keys. -/
theorem lookup_advanced_of_notMem {doc : Entries} {c : Context} {now e : Moment} {key : String}
    (h : key ∉ changingKeys) :
    (Store.advanced (c.savedFields now e) doc).lookup key = doc.lookup key := by
  rw [changingKeys, List.mem_cons, not_or] at h
  exact c.lookup_unsaved now e h.1 h.2

theorem lookup_completed_of_notMem {doc : Entries} {now : Moment} {key : String}
    (h : key ∉ changingKeys) : (Store.completed now doc).lookup key = doc.lookup key := by
  refine Store.lookup_completed now ?_ ?_
  · rintro rfl
    exact h (by decide)
  · rintro rfl
    exact h (by decide)

theorem sequence_completed (doc : Entries) (now : Moment) :
    (Store.completed now doc).lookup "sequence" = doc.lookup "sequence" :=
  Store.lookup_completed now (by decide) (by decide)

/-- Writes leave a counted document or none. -/
theorem Effect.isCounted {conv : String} {x : Option Write} {docs after : Documents}
    (h : Effect conv x docs after) (counted : IsCounted docs) : IsCounted after := by
  cases h with
  | none => exact counted
  | insert c now e => exact .inr ⟨_, 1, rfl, c.document_sequence 1 now e, Int.le_refl 1⟩
  | update doc c now e =>
    rcases counted with none | ⟨d, n, same, found, positive⟩
    · cases none
    · cases same
      exact .inr ⟨_, n + 1, rfl, c.advanced_document_sequence now e found, by omega⟩
  | mark doc now =>
    rcases counted with none | ⟨d, n, same, found, positive⟩
    · cases none
    · cases same
      exact .inr ⟨_, n, rfl, (sequence_completed doc now).trans found, positive⟩
  | remove doc => exact .inl rfl

/-! ### Single moves -/

section Moves

variable {conv : String} {w : World}

theorem session?_isSome_of_counted {docs : Documents} {s : Store} (h : s.sessionsOf conv = docs) :
    (s.session? conv).isSome = !docs.isEmpty := by
  rw [Store.session?_eq_head?, h]
  cases docs <;> rfl

theorem sessionsOf_cleared_singleton {s : Store} {doc : Entries} (h : s.sessionsOf conv = [doc]) :
    (s.cleared conv).sessionsOf conv = [] := by
  rw [Store.sessionsOf_cleared, h, Documents.removeFirst_singleton (Store.holdsAll_of_sessionsOf h)]

theorem sessionsOf_cleared_nil {s : Store} (h : s.sessionsOf conv = []) :
    (s.cleared conv).sessionsOf conv = [] := by
  rw [Store.sessionsOf_cleared, h]
  rfl

/-- A load leaves the store alone or clears the conversation. -/
theorem load_store (quiet : w.IsQuiet) (conv : String) :
    ((Keeping.load conv).run w).2.IsQuiet ∧
      (((Keeping.load conv).run w).2.store = w.store
        ∨ ((Keeping.load conv).run w).2.store = w.store.cleared conv) := by
  have loads := Keeping.load_cases quiet conv
  generalize (Keeping.load conv).run w = r at loads
  cases loads with
  | context c => exact ⟨quiet, .inl rfl⟩
  | nothing v reads unread => exact ⟨reads.isQuiet quiet, .inl reads.store⟩
  | removed v reads => exact ⟨reads.isQuiet quiet, .inr reads.store⟩
  | fails f => exact ⟨quiet, .inl rfl⟩

/-- A removal from the documents of a conversation, seen from outside. -/
theorem effect_of_cleared {s after : Store} (counted : IsCounted (s.sessionsOf conv))
    (cleared : after.sessionsOf conv = (s.cleared conv).sessionsOf conv) :
    Effect conv (if (s.session? conv).isSome then some .remove else none) (s.sessionsOf conv)
      (after.sessionsOf conv) := by
  rcases counted with none | ⟨doc, n, one, -, -⟩
  · rw [session?_isSome_of_counted none, none, cleared, sessionsOf_cleared_nil none]
    exact .none []
  · rw [session?_isSome_of_counted one, one, cleared, sessionsOf_cleared_singleton one]
    exact .remove doc

theorem effect_of_load (hours : Int) (quiet : w.IsQuiet) (counted : IsCounted (w.store.sessionsOf conv)) :
    Effect conv (Move.load.write? hours conv w) (w.store.sessionsOf conv)
      ((Move.load.world hours conv w).store.sessionsOf conv) := by
  dsimp only [Move.write?, Move.world]
  rcases (load_store quiet conv).2 with same | cleared
  · rw [same]
    have idle : ((w.store.session? conv).isSome && (w.store.session? conv).isNone) = false := by
      cases w.store.session? conv <;> rfl
    rw [idle]
    exact .none _
  · have gone : ((w.store.cleared conv).session? conv).isNone = true := by
      rw [Option.isNone_iff_eq_none, Store.session?_eq_none_iff]
      rcases counted with none | ⟨doc, n, one, -, -⟩
      · exact sessionsOf_cleared_nil none
      · exact sessionsOf_cleared_singleton one
    have effect : Effect conv _ _ ((w.store.cleared conv).sessionsOf conv) :=
      effect_of_cleared counted rfl
    rw [cleared, gone, Bool.and_true]
    exact effect

theorem effect_of_save (hours : Int) (quiet : w.IsQuiet) (counted : IsCounted (w.store.sessionsOf conv))
    {c : Context} (mine : c.conversationId = conv) :
    ((Move.save c).world hours conv w).IsQuiet ∧
      Effect conv ((Move.save c).write? hours conv w) (w.store.sessionsOf conv)
        (((Move.save c).world hours conv w).store.sessionsOf conv) := by
  dsimp only [Move.write?, Move.world]
  cases expiry : Keeping.expiry? w.now hours with
  | error f =>
    rw [Keeping.save_of_expiry_error expiry]
    exact ⟨quiet, .none _⟩
  | ok e =>
    by_cases fresh : c.sequence = 0
    · rw [Keeping.save_fresh quiet.letsWrite expiry fresh, mine, fresh]
      rcases counted with none | ⟨doc, n, one, -, -⟩
      · rw [session?_isSome_of_counted none]
        refine ⟨quiet, ?_⟩
        have added := Store.sessionsOf_added (s := w.store) (c.holdsAll_sessionOf_document 1 w.now e)
        rw [mine, none, List.nil_append] at added
        show Effect conv (some .insert) _ ((w.store.added (c.document 1 w.now e)).sessionsOf conv)
        rw [none, added]
        exact .insert c w.now e mine
      · rw [session?_isSome_of_counted one]
        exact ⟨quiet, .none _⟩
    · rw [Keeping.save_stored quiet.letsWrite expiry fresh, mine]
      rcases counted with none | ⟨doc, n, one, found, -⟩
      · have missing : w.store.sessions.find? (Store.sessionAt conv c.sequence) = Option.none := by
          rw [Store.find?_sessionAt, none]
          rfl
        rw [missing]
        exact ⟨quiet, .none _⟩
      · rw [Store.find?_sessionAt_of_sequence c.sequence one found]
        by_cases current : n = c.sequence
        · rw [if_pos current]
          refine ⟨quiet, ?_⟩
          have other : (c.sequence == 0) = false := beq_false_of_ne fresh
          rw [current] at found
          have other' : "conversation_id" ∉ (c.savedFields w.now e).map Prod.fst := by
            rw [Context.map_fst_savedFields]
            decide
          have advanced := Store.sessionsOf_saved_singleton one other' found
          show Effect conv (some (if c.sequence == 0 then .insert else .update)) _
            ((w.store.saved conv c.sequence (c.savedFields w.now e)).sessionsOf conv)
          rw [other, one, advanced]
          exact .update doc c w.now e
        · rw [if_neg current]
          exact ⟨quiet, .none _⟩

/-- A move does what the write does that it counts as. -/
theorem effect_of_move (hours : Int) (quiet : w.IsQuiet) (counted : IsCounted (w.store.sessionsOf conv)) {x : Move}
    (concerns : x.Concerns conv) :
    (x.world hours conv w).IsQuiet ∧
      Effect conv (x.write? hours conv w) (w.store.sessionsOf conv)
        ((x.world hours conv w).store.sessionsOf conv) := by
  cases x with
  | load => exact ⟨(load_store quiet conv).1, effect_of_load hours quiet counted⟩
  | save c => exact effect_of_save hours quiet counted concerns
  | mark =>
    dsimp only [Move.write?, Move.world]
    rw [Keeping.complete_run quiet.letsWrite]
    refine ⟨quiet, ?_⟩
    have marked : (w.store.marked w.now conv).sessionsOf conv = _ := Store.sessionsOf_marked w.now
    show Effect conv _ _ ((w.store.marked w.now conv).sessionsOf conv)
    rcases counted with none | ⟨doc, n, one, -, -⟩
    · rw [session?_isSome_of_counted none, marked, none]
      exact .none []
    · rw [session?_isSome_of_counted one, marked, one,
        Documents.modifyFirst_singleton (Store.holdsAll_of_sessionsOf one)]
      exact .mark doc w.now
  | remove =>
    dsimp only [Move.write?, Move.world]
    rw [Operation.deleteSession_run quiet.letsWrite]
    exact ⟨quiet, effect_of_cleared counted rfl⟩
  | pass outside => exact ⟨quiet, .none _⟩

end Moves

/-! ## Histories -/

section Histories

variable {conv : String} {w : World}

/-- Whatever is done, the conversation has no document or one that counts its writes. -/
theorem history_isCounted (hours : Int) (moves : List Move) (quiet : w.IsQuiet)
    (counted : IsCounted (w.store.sessionsOf conv)) (concern : ∀ x ∈ moves, x.Concerns conv) :
    (history hours conv moves w).2.IsQuiet ∧
      IsCounted ((history hours conv moves w).2.store.sessionsOf conv) := by
  induction moves generalizing w with
  | nil => exact ⟨quiet, counted⟩
  | cons x rest ih =>
    obtain ⟨quiet', effect⟩ := effect_of_move hours quiet counted (concern x List.mem_cons_self)
    exact ih quiet' (effect.isCounted counted) fun y later => concern y (List.mem_cons_of_mem x later)

/-- Without an insertion a conversation that has no session gets none. -/
theorem history_none (hours : Int) (moves : List Move) (quiet : w.IsQuiet) (none : w.store.sessionsOf conv = [])
    (concern : ∀ x ∈ moves, x.Concerns conv)
    (noInsert : Write.insert ∉ (history hours conv moves w).1) :
    (history hours conv moves w).2.store.sessionsOf conv = [] := by
  induction moves generalizing w with
  | nil => exact none
  | cons x rest ih =>
    obtain ⟨quiet', effect⟩ :=
      effect_of_move hours quiet (.inl none) (concern x List.mem_cons_self)
    rw [history, List.mem_append, not_or] at noInsert
    refine ih quiet' ?_ (fun y later => concern y (List.mem_cons_of_mem x later)) noInsert.2
    generalize x.write? hours conv w = write at effect noInsert
    generalize (x.world hours conv w).store.sessionsOf conv = after at effect ⊢
    rw [none] at effect
    cases effect with
    | none => rfl
    | insert c now e => exact absurd (List.mem_singleton_self _) noInsert.1

/-- What has become of a document after writes without an insertion: it is gone, or it has counted the
updates and changed in the keys that writes change. -/
inductive Since (doc : Entries) (n : Int) (writes : List Write) : Documents → Prop
  | gone (removed : .remove ∈ writes) : Since doc n writes []
  | here (later : Entries) (kept : .remove ∉ writes)
    (sequence : later.lookup "sequence" = some (.int (n + (writes.count .update : Nat))))
    (others : ∀ key ∉ changingKeys, later.lookup key = doc.lookup key) : Since doc n writes [later]

/-- Writes without an insertion move the sequence number up or remove the document. -/
theorem history_since (hours : Int) (moves : List Move) {doc : Entries} {n : Int} (quiet : w.IsQuiet)
    (one : w.store.sessionsOf conv = [doc]) (found : doc.lookup "sequence" = some (.int n))
    (positive : 1 ≤ n) (concern : ∀ x ∈ moves, x.Concerns conv)
    (noInsert : Write.insert ∉ (history hours conv moves w).1) :
    Since doc n (history hours conv moves w).1
      ((history hours conv moves w).2.store.sessionsOf conv) := by
  induction moves generalizing w doc n with
  | nil =>
    rw [history]
    dsimp only
    rw [one]
    refine .here doc List.not_mem_nil ?_ fun _ _ => rfl
    rw [List.count_nil, found]
    simp
  | cons x rest ih =>
    have counted : IsCounted (w.store.sessionsOf conv) := .inr ⟨doc, n, one, found, positive⟩
    obtain ⟨quiet', effect⟩ :=
      effect_of_move hours quiet counted (concern x List.mem_cons_self)
    have concern' : ∀ y ∈ rest, y.Concerns conv := fun y later => concern y (List.mem_cons_of_mem x later)
    rw [history, List.mem_append, not_or] at noInsert
    rw [history]
    dsimp only
    have ih' (doc : Entries) (n : Int) := @ih (x.world hours conv w) doc n quiet'
    have none' := @history_none conv (x.world hours conv w) hours rest quiet'
    generalize x.world hours conv w = v at effect ih' none' noInsert ⊢
    generalize x.write? hours conv w = write at effect noInsert ⊢
    generalize after : v.store.sessionsOf conv = docs at effect
    rw [one] at effect
    cases effect with
    | none => exact ih' doc n after found positive concern' noInsert.2
    | update _ c now e =>
      have next := ih' _ (n + 1) after (c.advanced_document_sequence now e found) (by omega) concern'
        noInsert.2
      generalize (history hours conv rest v).2.store.sessionsOf conv = last at next ⊢
      cases next with
      | gone removed => exact .gone (List.mem_append_right _ removed)
      | here later kept sequence others =>
        refine .here later (by simpa using kept) ?_ fun key h =>
          (others key h).trans (lookup_advanced_of_notMem h)
        rw [sequence]
        simp only [Option.toList_some, List.count_append, List.count_singleton]
        simp
        omega
    | mark _ now =>
      have next := ih' _ n after ((sequence_completed doc now).trans found) positive concern' noInsert.2
      generalize (history hours conv rest v).2.store.sessionsOf conv = last at next ⊢
      cases next with
      | gone removed => exact .gone (List.mem_append_right _ removed)
      | here later kept sequence others =>
        refine .here later (by simpa using kept) ?_ fun key h =>
          (others key h).trans (lookup_completed_of_notMem h)
        rw [sequence]
        simp
    | remove =>
      rw [none' after concern' noInsert.2]
      exact .gone (List.mem_append_left _ (List.mem_singleton_self _))

end Histories

/-! ## Saves that succeed -/

/-- The session of the conversation is the one that was there before, but for the keys that writes
change. -/
def IsSameSession (conv : String) (before after : World) : Prop :=
  ∃ doc later, before.store.session? conv = some doc ∧ after.store.session? conv = some later ∧
    ∀ key ∉ changingKeys, later.lookup key = doc.lookup key

section Saves

variable {hours : Int} {conv : String} {w v : World} {c later : Context}

/-- A save of a loaded context succeeds only into a session with the number it was loaded with. -/
theorem sequence_of_save (quiet : w.IsQuiet) (mine : c.conversationId = conv) (stored : c.sequence ≠ 0)
    {doc : Entries} {n : Int} (one : w.store.sessionsOf conv = [doc])
    (found : doc.lookup "sequence" = some (.int n))
    (saved : (Keeping.save hours c w).1.1 = .ok true) : n = c.sequence := by
  cases expiry : Keeping.expiry? w.now hours with
  | error f =>
    rw [Keeping.save_of_expiry_error expiry] at saved
    cases saved
  | ok e =>
    rw [Keeping.save_stored quiet.letsWrite expiry stored, mine,
      Store.find?_sessionAt_of_sequence c.sequence one found] at saved
    by_cases current : n = c.sequence
    · exact current
    · rw [if_neg current] at saved
      cases saved

theorem not_save_of_none (quiet : w.IsQuiet) (mine : c.conversationId = conv)
    (stored : c.sequence ≠ 0) (nothing : w.store.sessionsOf conv = []) :
    (Keeping.save hours c w).1.1 ≠ .ok true := by
  intro saved
  cases expiry : Keeping.expiry? w.now hours with
  | error f =>
    rw [Keeping.save_of_expiry_error expiry] at saved
    cases saved
  | ok e =>
    have missing : w.store.sessions.find? (Store.sessionAt conv c.sequence) = none := by
      rw [Store.find?_sessionAt, nothing]
      rfl
    rw [Keeping.save_stored quiet.letsWrite expiry stored, mine, missing] at saved
    cases saved

/-- What a successful save of a loaded context rules out. No write at all happened since the load exactly
if there was neither an insertion nor a completion mark. And if there was no insertion, the session that
is saved into is the one that was loaded: of the same flow and version, and with every entry that writes
do not change. -/
theorem save_of_loaded (hours : Int) (conv : String) (w v : World) (c later : Context)
    (moves : List Move) (quiet : w.IsQuiet) (counted : IsCounted (w.store.sessionsOf conv))
    (loaded : (Keeping.load conv).run w = (.ok (some c), v)) (run : later.Continues c)
    (concern : ∀ x ∈ moves, x.Concerns conv)
    (saved : (Keeping.save hours later (history hours conv moves v).2).1.1 = .ok true) :
    ((history hours conv moves v).1 = [] ↔
      Write.insert ∉ (history hours conv moves v).1 ∧ Write.mark ∉ (history hours conv moves v).1) ∧
    (Write.insert ∉ (history hours conv moves v).1 →
      IsSameSession conv w (history hours conv moves v).2 ∧
      ∃ doc, (history hours conv moves v).2.store.session? conv = some doc ∧
        doc.lookup "flow_id" = some (.text later.flowId) ∧
        doc.lookup "version_id" = some (.text later.versionId)) := by
  obtain ⟨rfl, doc, session, from_⟩ := Keeping.load_some quiet loaded
  obtain ⟨d, n, one, found, positive⟩ : ∃ d n, w.store.sessionsOf conv = [d] ∧
      d.lookup "sequence" = some (.int n) ∧ 1 ≤ n := by
    rcases counted with nothing | some
    · rw [Store.session?_eq_head?, nothing] at session
      cases session
    · exact some
  have same : d = doc := by
    rw [Store.session?_of_sessionsOf one] at session
    exact Option.some.inj session
  subst same
  have number : later.sequence = n := run.sequence.trans (from_.sequence n found)
  have mine : later.conversationId = conv :=
    run.conversationId.trans (Keeping.conversationId_of_load session from_)
  have stored : later.sequence ≠ 0 := by omega
  have quiet' : (history hours conv moves w.joined).2.IsQuiet :=
    (history_isCounted hours (w := w.joined) moves quiet
      (.inr ⟨d, n, one, found, positive⟩) concern).1
  have since := history_since hours (w := w.joined) moves quiet one found positive concern
  generalize history hours conv moves w.joined = past at saved quiet' since ⊢
  obtain ⟨writes, u⟩ := past
  dsimp only at saved quiet' since ⊢
  have here (noInsert : Write.insert ∉ writes) : ∃ now_, u.store.sessionsOf conv = [now_] ∧
      .remove ∉ writes ∧ writes.count .update = 0 ∧
      ∀ key ∉ changingKeys, now_.lookup key = d.lookup key := by
    have state := since noInsert
    generalize sessions : u.store.sessionsOf conv = docs at state
    cases state with
    | gone removed => exact absurd saved (not_save_of_none quiet' mine stored sessions)
    | here last kept sequence others =>
      have current := sequence_of_save quiet' mine stored sessions sequence saved
      refine ⟨last, rfl, kept, ?_, others⟩
      rw [number] at current
      omega
  refine ⟨⟨?_, ?_⟩, ?_⟩
  · rintro rfl
    exact ⟨List.not_mem_nil, List.not_mem_nil⟩
  · rintro ⟨noInsert, noMark⟩
    obtain ⟨-, -, noRemove, noUpdate, -⟩ := here noInsert
    rw [List.count_eq_zero] at noUpdate
    refine List.eq_nil_iff_forall_not_mem.mpr fun x written => ?_
    cases x with
    | insert => exact noInsert written
    | update => exact noUpdate written
    | mark => exact noMark written
    | remove => exact noRemove written
  · intro noInsert
    obtain ⟨last, sessions, -, -, others⟩ := here noInsert
    have session' := Store.session?_of_sessionsOf sessions
    refine ⟨⟨d, last, session, session', others⟩, last, session', ?_, ?_⟩
    · rw [others "flow_id" (by decide), from_.flow, run.flowId]
    · rw [others "version_id" (by decide), from_.version, run.versionId]

end Saves

end Contention

namespace Sample

open Contention

theorem isCounted_session : IsCounted ((world [session]).store.sessionsOf "chat") :=
  .inr ⟨session, 1, rfl, rfl, Int.le_refl 1⟩

theorem load_session :
    (Keeping.load "chat").run (world [session]) = (.ok (some context), world [session]) :=
  have quiet : (world [session]).IsQuiet := rfl
  have found : (world [session]).store.session? "chat" = some (context.document 1 noon nextNoon) := rfl
  Keeping.load_run_of_document quiet found (by decide +kernel)

/-- Somebody else only loads the session of the small bot before it is saved. -/
theorem save_of_loaded_session :
    ((history 24 "chat" [.load] (world [session])).1 = [] ↔
      Write.insert ∉ (history 24 "chat" [.load] (world [session])).1 ∧
        Write.mark ∉ (history 24 "chat" [.load] (world [session])).1) ∧
    (Write.insert ∉ (history 24 "chat" [.load] (world [session])).1 →
      IsSameSession "chat" (world [session]) (history 24 "chat" [.load] (world [session])).2 ∧
      ∃ doc, (history 24 "chat" [.load] (world [session])).2.store.session? "chat" = some doc ∧
        doc.lookup "flow_id" = some (.text "greeting") ∧
        doc.lookup "version_id" = some (.text "v1")) :=
  save_of_loaded 24 "chat" (world [session]) (world [session]) context context [.load] rfl
    isCounted_session load_session (.refl context) (fun _ here => by cases here <;> trivial)
    (by with_unfolding_all rfl)

/-- The conversation in another flow. -/
def elsewhere : Context := { context with flowId := "farewell", versionId := "v2", sequence := 0 }

/-- A session is cleared and its conversation starts another flow; then the context of the first flow is
saved, and lands in the session of the second. -/
theorem save_into_other_session :
    ∃ moves : List Move, (∀ x ∈ moves, x.Concerns "chat") ∧
      (Keeping.load "chat").run (world [session]) = (.ok (some context), world [session]) ∧
      (Keeping.save 24 context (history 24 "chat" moves (world [session])).2).1.1 = .ok true ∧
      (history 24 "chat" moves (world [session])).1 = [.mark, .remove, .insert] ∧
      ((Keeping.save 24 context (history 24 "chat" moves (world [session])).2).2.store.session?
        "chat").any (·.holds "flow_id" (.text "farewell")) = true ∧
      context.flowId = "greeting" := by
  refine ⟨[.mark, .remove, .save elsewhere], ?_, load_session, ?_, ?_, ?_, rfl⟩
  · intro x here
    simp only [List.mem_cons, List.not_mem_nil, or_false] at here
    rcases here with rfl | rfl | rfl
    · trivial
    · trivial
    · rfl
  · with_unfolding_all rfl
  · decide +kernel
  · decide +kernel

end Sample

end ChatFlow
