import ChatFlow.Proofs.Interpreter.Waiting

/-!
What is stored of a turn that waits.

An answer that waits tells the user that a reply is expected, so the turn behind it should be in the
store: the next message is to be answered from where the turn stopped. Whether it is depends on the save
that came before the answer (`Interpreter.process_acknowledges`). If the save succeeded, the session
holds the context that the turn left, with the next sequence number, and the next message is its reply
(`Interpreter.Acknowledged`). If the save failed, the answer is given all the same, and the store is as it
was when the turn was made: the conversation has the session of the question before, or none
(`Sample.answer_lost`).
-/

namespace ChatFlow

namespace Interpreter

open ChatFlow.Flow (Definition)

open Operation (run_bind)

variable {i : Interpreter} {m : Inbound} {w v : World} {conv : String} {c : Context} {d : Definition}
  {s : Store} {doc : Entries}

/-- The store keeps the turn that left the context. -/
structure Acknowledged (i : Interpreter) (conv : String) (c : Context) (s : Store) : Prop where
  /-- The session of the conversation holds the context, with the next sequence number. -/
  stored : ∃ doc, s.session? conv = some doc ∧ c.IsSavedIn doc ∧ c.IsBumpedIn doc
  /-- The next message is the reply, as long as the session has not expired and the node is there. -/
  next : ∀ (doc : Entries) (n : Int) (v : World) (d : Definition), s.session? conv = some doc →
    doc.lookup "sequence" = some (.int n) → v.IsQuiet → v.store.session? conv = some doc →
    Keeping.Lasts v.store conv v.now →
    ((Library.load c.flowId (some c.versionId)).run v.joined).1 = .ok (some d) →
    (d.node? c.currentNodeId).isSome = true →
    ∃ c' u, c'.StandsAs c ∧ c'.history = c.history ∧
      ∀ m : Inbound, m.conversationId = conv → (i.respond m).run v = (i.proceed m c' d).run u

/-- The next message is the reply if the context is read from the session. -/
theorem respond_of_isReadAs {c' : Context} (quiet : v.IsQuiet)
    (reads : Keeping.IsReadAs v.store conv v.now c') (stands : c'.StandsAs c)
    (bound : ((Library.load c.flowId (some c.versionId)).run v.joined).1 = .ok (some d))
    (node : (d.node? c.currentNodeId).isSome = true) :
    ∃ u, ∀ m : Inbound, m.conversationId = conv →
      (i.respond m).run v = (i.proceed m c' d).run u := by
  rw [← stands.flow, ← stands.version] at bound
  rw [← stands.node] at node
  obtain ⟨u, resumed, -, -⟩ := resume_run_of_isReadAs quiet reads bound node
  refine ⟨u, ?_⟩
  rintro m rfl
  rw [respond, run_bind, resumed]

/-- A session that lasts has not expired. -/
theorem unexpired_of_lasts {now e : Moment} (lasts : Keeping.Lasts s conv now)
    (stored : s.session? conv = some doc) (expires : doc.lookup "expires_at" = some (.date e)) :
    e.compare? now = some .gt := by
  obtain ⟨doc', e', stored', expiry, unexpired⟩ := lasts
  rw [stored, Option.some.injEq] at stored'
  subst stored'
  rw [Schema.required_of_lookup (a := e) expires rfl] at expiry
  cases expiry
  exact unexpired

/-- A context that was first saved is kept. -/
theorem acknowledged_of_added {now e : Moment} (fresh : c.sequence = 0)
    (stored : s.session? conv = some (c.document 1 now e)) : Acknowledged i conv c s where
  stored := by
    refine ⟨_, stored, c.isSavedIn_document 1 now e, .inl ?_⟩
    rw [c.document_sequence, fresh]
    rfl
  next := by
    intro doc n v d stored' counted quiet left lasts bound node
    rw [stored, Option.some.injEq] at stored'
    subst stored'
    have unexpired := unexpired_of_lasts lasts left (c.document_expiresAt 1 now e)
    obtain ⟨u, responds⟩ := respond_of_isReadAs (i := i) quiet (Keeping.isReadAs_document left unexpired)
      ⟨rfl, rfl, rfl, rfl⟩ bound node
    exact ⟨c.kept 1 now, u, ⟨rfl, rfl, rfl, rfl⟩, rfl, responds⟩

/-- A context that was saved into the session that its run was resumed from is kept. -/
theorem acknowledged_of_advanced {before : Store} {now t e : Moment} {c₀ : Context}
    (reads : Keeping.IsReadAs before conv now c₀) (run : c.Continues c₀)
    (was : before.session? conv = some doc) (found : doc.holds "sequence" (.int c.sequence) = true)
    (stored : s.session? conv = some (Store.advanced (c.savedFields t e) doc)) :
    Acknowledged i conv c s where
  stored := by
    obtain ⟨doc', was', loaded⟩ := reads.isLoadedFrom
    rw [was, Option.some.injEq] at was'
    subst was'
    exact ⟨_, stored, Context.isSavedIn_advanced loaded run t e, Context.isBumpedIn_advanced found t e⟩
  next := by
    intro doc' n v d stored' counted quiet left lasts bound node
    rw [stored, Option.some.injEq] at stored'
    subst stored'
    have unexpired := unexpired_of_lasts lasts left (c.lookup_saved t e rfl)
    obtain ⟨startedAt, again, -⟩ := reads.saved run was left
      (Schema.defaulted_of_lookup counted rfl) unexpired
    obtain ⟨u, responds⟩ := respond_of_isReadAs (i := i) quiet again ⟨rfl, rfl, rfl, rfl⟩ bound node
    exact ⟨{ c.kept n t with startedAt := startedAt }, u, ⟨rfl, rfl, rfl, rfl⟩, rfl, responds⟩

/-- A turn whose context was written is kept. -/
theorem Makes.acknowledged {o : Outcome} {u : World} {e : Moment} (makes : Makes i m w d o c u)
    (alone : w.IsAlone) (keyed : w.store.IsKeyed m.conversationId)
    (written : Keeping.Written c u.store u.now e s) : Acknowledged i m.conversationId c s := by
  obtain ⟨-, stored⟩ := makes.stored alone keyed written
  cases stored with
  | first fresh one => exact acknowledged_of_added fresh (Store.session?_of_sessionsOf one)
  | further c₀ doc reads run was found one =>
    exact acknowledged_of_advanced reads run was found (Store.session?_of_sessionsOf one)

/-- Behind every answer that waits there is a turn whose context was saved. If the save succeeded the
store keeps the turn. If it failed, a fault struck its write, and the store is as the turn found it. -/
theorem process_acknowledges (i : Interpreter) (m : Inbound) (w : World) (alone : w.IsAlone)
    (keyed : w.store.IsKeyed m.conversationId) (waits : (i.process m w).1.waitingForInput = true) :
    ∃ d c u saved kept, Makes i m w d (i.process m w).1 c u ∧
      Keeping.save i.sessionHours c u = ((.ok saved, kept), (i.process m w).2) ∧
      (saved = true → Acknowledged i m.conversationId c (i.process m w).2.store) ∧
      (saved = false → (i.process m w).2.store = u.store ∧ ¬ u.LetsWrite) := by
  obtain ⟨d, c, u, saved, kept, makes, saves⟩ := makes_of_waits waits
  have alone' := makes.spends.isAlone alone
  refine ⟨d, c, u, saved, kept, makes, saves, ?_, ?_⟩
  · rintro rfl
    obtain ⟨e, -, written⟩ := Keeping.written_of_save alone' saves
    exact makes.acknowledged alone keyed written
  · rintro rfl
    exact Keeping.store_of_unsaved alone' saves

end Interpreter

namespace Sample

open Interpreter

/-- The question of the small bot, and the session that waits for the reply. -/
theorem process_acknowledges_hello :
    ∃ d c u saved kept, Makes (interpreter 24) (message "hello") (world []) d
        ((interpreter 24).process (message "hello") (world [])).1 c u ∧
      Keeping.save (interpreter 24).sessionHours c u
        = ((.ok saved, kept), ((interpreter 24).process (message "hello") (world [])).2) ∧
      (saved = true → Acknowledged (interpreter 24) (message "hello").conversationId c
        ((interpreter 24).process (message "hello") (world [])).2.store) ∧
      (saved = false → ((interpreter 24).process (message "hello") (world [])).2.store = u.store ∧
        ¬ u.LetsWrite) := by
  have quiet : (world []).IsQuiet := rfl
  have keyed : (world []).store.IsKeyed (message "hello").conversationId := Nat.zero_le 1
  have waits : ((interpreter 24).process (message "hello") (world [])).1.waitingForInput = true := by
    decide +kernel
  exact process_acknowledges (interpreter 24) (message "hello") (world []) quiet.isAlone keyed waits

/-- The world of the small bot with a session that cannot be inserted at once. -/
def mute : World := { world [] with faults := [failing .insertOne .sessions] }

/-- One failure to write the session, and the bot asks for the name without a session to take it. -/
theorem answer_lost :
    ¬ ∀ (i : Interpreter) (m : Inbound) (w : World), w.IsAlone → w.store.IsKeyed m.conversationId →
      (∀ f ∈ w.faults, ∃ cause, f.effect = .fails cause) →
      (i.process m w).1.waitingForInput = true →
      ∃ d c u, Makes i m w d (i.process m w).1 c u ∧
        ∃ doc, (i.process m w).2.store.session? m.conversationId = some doc ∧ c.IsSavedIn doc ∧
          c.IsBumpedIn doc := by
  intro kept
  have alone : mute.IsAlone := isAlone_of_failing rfl
  have fails := fails_of_failing (w := mute) rfl
  have keyed : mute.store.IsKeyed (message "hello").conversationId := Nat.zero_le 1
  have waits : ((interpreter 24).process (message "hello") mute).1.waitingForInput = true := by
    decide +kernel
  obtain ⟨d, c, u, -, doc, stored, -⟩ := kept (interpreter 24) (message "hello") mute alone keyed fails
    waits
  have none : (((interpreter 24).process (message "hello") mute).2.store.session?
      (message "hello").conversationId).isSome = false := by decide +kernel
  rw [stored] at none
  cases none

end Sample

end ChatFlow
