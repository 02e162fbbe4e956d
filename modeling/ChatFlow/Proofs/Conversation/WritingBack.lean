import ChatFlow.Proofs.Conversation.Saving
import ChatFlow.Proofs.Interpreter.Answering

/-!
Writing back what was loaded.

A context is loaded from any document that the lenient readers accept, and a save is to write it back if
nobody else wrote in between. But the two sides do not agree on what the sequence number of a document
is. Loading reads one: an absent number counts as 1, and a text or a truth value as the number that it
spells. Saving seeks the document by the entry itself, and takes 0 for a context that was never stored.
So a session is written back exactly if its entry is a number other than 0 (`Entries.IsNumbered`); then
the session holds the context, and is read as it from then on (`Keeping.WritesBack`). From any other
session the same context is loaded time and again, and every save of it is taken for a conflict
(`Keeping.writes_back_iff`).
-/

namespace ChatFlow

/-- The document has a sequence number that a save can find: a number other than the 0 of a context that
was never stored. -/
def Entries.IsNumbered (doc : Entries) : Prop :=
  match doc.lookup "sequence" with
  | some (.int n) => n ≠ 0
  | some (.float x) => Decimal.whole? x ≠ some 0
  | _ => False

open Schema

/-- A save finds a document by the number that was read from it exactly if it is numbered. -/
theorem Entries.isNumbered_iff {doc : Entries} {n : Int}
    (read : defaulted doc "sequence" 1 integer = .valid n) :
    doc.IsNumbered ↔ n ≠ 0 ∧ doc.holds "sequence" (.int n) = true := by
  unfold defaulted field at read
  unfold IsNumbered holds
  cases stored : doc.lookup "sequence" with
  | none => simp
  | some v =>
    rw [stored] at read
    cases v with
    | int m =>
      cases read
      simp [Value.isSameLeaf]
    | float x =>
      have whole : Decimal.whole? x = some n := by
        dsimp only [integer] at read
        cases whole : Decimal.whole? x with
        | none =>
          rw [whole] at read
          cases read
        | some m =>
          rw [whole] at read
          dsimp only at read
          split at read <;> cases read
          rfl
      simp [Value.isSameLeaf, whole]
    | _ => simp [Value.isSameLeaf]

namespace Keeping

variable {w v u : World} {hours : Int} {conv : String} {c c' : Context} {doc : Entries} {e : Moment}

/-- The number of a context is the one that its document is read with. -/
theorem IsReadAs.number {s : Store} {now : Moment} (h : IsReadAs s conv now c)
    (stored : s.session? conv = some doc) : defaulted doc "sequence" 1 integer = .valid c.sequence := by
  obtain ⟨doc', es, session, history, stored', text, read, -, rfl⟩ := h
  rw [stored, Option.some.injEq] at stored'
  subst stored'
  have parts := Session.read_eq_valid_iff.mp (read_of_readSession? read)
  have same : es.lookup "sequence" = doc.lookup "sequence" :=
    Entries.lookup_of_withIdText? text (by decide) (by decide)
  exact (field_congr same integer (.valid 1)).symm.trans parts.sequence

/-- The save in a world has written a context back to the document that the first one was loaded from. -/
structure WritesBack (hours : Int) (conv : String) (doc : Entries) (c c' : Context) (u : World)
    (expiresAt : Moment) : Prop where
  succeeds : (save hours c' u).1.1 = .ok true
  /-- The session is the document with the context in it, under the next number. -/
  stored : (save hours c' u).2.store.sessionsOf conv
    = [Store.advanced (c'.savedFields u.now expiresAt) doc]
  holds : c'.IsSavedIn (Store.advanced (c'.savedFields u.now expiresAt) doc)
  bumped : c'.IsBumpedIn (Store.advanced (c'.savedFields u.now expiresAt) doc)
  /-- The context is loaded from then on, under the number that is read. No save writes the time at which
  the run was started: where the document does not give it, it is the present again. -/
  rereads : ∀ (n : Int) (x : World), x.IsQuiet →
    x.store.session? conv = (save hours c' u).2.store.session? conv →
    defaulted (Store.advanced (c'.savedFields u.now expiresAt) doc) "sequence" 1 integer = .valid n →
    expiresAt.compare? x.now = some .gt →
    ∃ startedAt, (doc.lookup "started_at" ≠ none → startedAt = c.startedAt) ∧
      (load conv).run x = (.ok (some { c'.kept n u.now with startedAt := startedAt }), x.joined)

/-- A numbered session is written back. -/
theorem writes_back_of_isNumbered {s : Store} {now : Moment} (reads : IsReadAs s conv now c)
    (was : s.session? conv = some doc) (quiet : u.IsQuiet) (alone : u.store.sessionsOf conv = [doc])
    (timely : expiry? u.now hours = .ok e) (run : c'.Continues c) (numbered : doc.IsNumbered) :
    WritesBack hours conv doc c c' u e := by
  obtain ⟨stored, found⟩ := (Entries.isNumbered_iff (reads.number was)).mp numbered
  obtain ⟨doc', was', loaded⟩ := reads.isLoadedFrom
  rw [was, Option.some.injEq] at was'
  subst was'
  have mine : c'.conversationId = conv := run.conversationId.trans (conversationId_of_load was loaded)
  rw [← run.sequence] at stored found
  have other : "conversation_id" ∉ (c'.savedFields u.now e).map Prod.fst := by
    rw [Context.map_fst_savedFields]
    decide
  have saves := save_stored quiet.letsWrite timely stored
  rw [mine, Store.find?_sessionAt_singleton _ alone, if_pos found] at saves
  have left : (save hours c' u).2.store.sessionsOf conv
      = [Store.advanced (c'.savedFields u.now e) doc] := by
    rw [saves]
    exact Store.sessionsOf_saved_of_holds alone other found
  exact {
    succeeds := by rw [saves]
    stored := left
    holds := Context.isSavedIn_advanced loaded run u.now e
    bumped := Context.isBumpedIn_advanced found u.now e
    rereads := by
      intro n x quiet' same counted unexpired
      have after := same.trans (Store.session?_of_sessionsOf left)
      obtain ⟨startedAt, again, given⟩ := reads.saved run was after counted unexpired
      exact ⟨startedAt, given, load_run_of_isReadAs quiet' again⟩ }

/-- A session that is not numbered is never found, so that a save of its context is a conflict. -/
theorem save_of_not_isNumbered {s : Store} {now : Moment} (reads : IsReadAs s conv now c)
    (was : s.session? conv = some doc) (quiet : u.IsQuiet) (alone : u.store.sessionsOf conv = [doc])
    (timely : expiry? u.now hours = .ok e) (run : c'.Continues c) (unnumbered : ¬ doc.IsNumbered) :
    save hours c' u =
      ((.error (.conflict conv c.sequence), { c' with lastActivityAt := u.now }), u.joined) := by
  obtain ⟨doc', was', loaded⟩ := reads.isLoadedFrom
  rw [was, Option.some.injEq] at was'
  subst was'
  have mine : c'.conversationId = conv := run.conversationId.trans (conversationId_of_load was loaded)
  rw [Entries.isNumbered_iff (reads.number was), not_and, ← run.sequence] at unnumbered
  rw [← run.sequence]
  by_cases fresh : c'.sequence = 0
  · have present : u.store.session? conv = some doc := Store.session?_of_sessionsOf alone
    rw [save_fresh quiet.letsWrite timely fresh, mine, present, fresh]
    rfl
  · rw [save_stored quiet.letsWrite timely fresh, mine, Store.find?_sessionAt_singleton _ alone,
      if_neg (unnumbered fresh)]

/-- A context that was loaded, and the run of which may have gone on, is written back if nobody else wrote
its session, exactly if the session is numbered. Else the save is taken for a conflict, and the session
stays. -/
theorem writes_back_iff (quiet : w.IsQuiet) (one : w.store.sessionsOf conv = [doc])
    (loaded : (load conv).run w = (.ok (some c), v)) (later : u.IsQuiet)
    (alone : u.store.sessionsOf conv = [doc]) (timely : expiry? u.now hours = .ok e)
    (run : c'.Continues c) :
    (WritesBack hours conv doc c c' u e ↔ doc.IsNumbered) ∧
      (¬ doc.IsNumbered → save hours c' u =
        ((.error (.conflict conv c.sequence), { c' with lastActivityAt := u.now }), u.joined)) := by
  obtain ⟨-, reads⟩ := isReadAs_of_load quiet.isAlone loaded
  have was := Store.session?_of_sessionsOf one
  have refuses := save_of_not_isNumbered reads was later alone timely run
  refine ⟨⟨fun back => ?_, writes_back_of_isNumbered reads was later alone timely run⟩, refuses⟩
  by_cases numbered : doc.IsNumbered
  · exact numbered
  · have succeeds := back.succeeds
    rw [refuses numbered] at succeeds
    cases succeeds

end Keeping

namespace Sample

/-- A session of the small bot with no more than it needs, written by another program: the times and the
status are left out, and the expiry is a text. -/
def sparse : Entries :=
  [("_id", .text "chat"), ("conversation_id", .text "chat"), ("workspace_id", .text "ws-1"),
    ("bot_id", .text "bot-1"), ("flow_id", .text "greeting"), ("version_id", .text "v1"),
    ("current_node_id", .text "ask"), ("expires_at", .text "2024-03-02T12:00:00")]

/-- The same session with a sequence number. -/
def numbered : Entries := sparse ++ [("sequence", .int 3)]

theorem load_numbered :
    (Keeping.load "chat").run (world [numbered])
      = (.ok (some { context with sequence := 3 }), world [numbered]) := by
  with_unfolding_all rfl

/-- With its number the session is written back. -/
theorem writes_back_numbered :
    Keeping.WritesBack 24 "chat" numbered { context with sequence := 3 }
      { context with sequence := 3 } (world [numbered]) nextNoon :=
  (Keeping.writes_back_iff (w := world [numbered]) (u := world [numbered]) rfl rfl load_numbered rfl rfl
    expiry_noon (.refl _)).1.mpr (show (3 : Int) ≠ 0 by decide)

/-- Without a number the context is loaded, as for a first write, and cannot be saved. -/
theorem not_written_back :
    ¬ ∀ (hours : Int) (conv : String) (doc : Entries) (c : Context) (w v : World), w.IsQuiet →
      w.store.sessionsOf conv = [doc] → (Keeping.load conv).run w = (.ok (some c), v) →
      (∃ e, Keeping.expiry? v.now hours = .ok e) →
      ∃ kept x, Keeping.save hours c v = ((.ok true, kept), x) := by
  intro saves
  have loaded : (Keeping.load "chat").run (world [sparse]) = (.ok (some context), world [sparse]) := by
    with_unfolding_all rfl
  obtain ⟨kept, x, saved⟩ := saves 24 "chat" sparse context (world [sparse]) (world [sparse]) rfl rfl
    loaded ⟨nextNoon, expiry_noon⟩
  have refused : (Keeping.save 24 context (world [sparse])).1.1
      = .error (.conflict "chat" 1) := by with_unfolding_all rfl
  rw [saved] at refused
  cases refused

end Sample

end ChatFlow
