import ChatFlow.Proofs.Interpreter.Enduring

/-!
What an answer leaves of its conversation.

In a quiet world a conversation has one session after an answer that waits for a reply, and none after
any other (`Settles`). Every way in which a message can be answered settles: a run that is started in a
conversation without a session (`settles_anew`), and a run that is resumed (`settles_proceed`). The
exception is a context whose session does not have its sequence number (`Context.IsOutdated`); its save
is a conflict. The sessions that the service itself stores can always be saved again
(`settles_of_counted`).
-/

namespace ChatFlow

/-- What the store sees to itself: conversations have one session at most, and every session has a record
id that can be shown. -/
structure Store.IsSound (s : Store) (conv : String) : Prop where
  keyed : s.IsKeyed conv
  named : ∀ doc, s.session? conv = some doc → ∃ es, doc.withIdText? = .ok es

/-- The context was never stored, or its conversation has no session with its sequence number. -/
def Context.IsOutdated (c : Context) (s : Store) : Prop :=
  c.sequence = 0 ∨ s.sessions.find? (Store.sessionAt c.conversationId c.sequence) = none

namespace Interpreter

open ChatFlow.Flow (Definition)

open Operation (run_bind run_ofExcept run_now)

variable {i : Interpreter} {m : Inbound} {w : World}

/-! ## What an answer leaves -/

/-- The answer is no excuse for a conflict, and a session of the conversation is left exactly if it waits
for a reply. -/
structure Settles (conv : String) (r : Outcome × World) : Prop where
  answers : ∀ t, r.1 ≠ concurrent t
  sessions : (r.2.store.sessionsOf conv).length = r.1.waitingForInput.toNat

variable {u v : World} {c : Context} {d : Definition} {o : Outcome}

/-- A failure other than a conflict clears the conversation. -/
theorem settles_of_error {f : Failure} (fails : (i.respond m).run w = (.error f, v))
    (other : ¬ f.IsConflict) (quiet : v.IsQuiet) (keyed : v.store.IsKeyed m.conversationId) :
    Settles m.conversationId (i.process m w) := by
  rw [process_of_error fails other quiet.letsWrite]
  refine ⟨fun t => broken_ne_concurrent _ t f, ?_⟩
  have left : (((v.noted .error component).cleared m.conversationId).store.sessionsOf m.conversationId)
      = [] := Store.IsKeyed.sessionsOf_cleared keyed
  rw [left]
  rfl

/-- An answer that a node has given, and that does not wait, leaves no session. -/
theorem settles_of_idle (shape : Turn.Shape o) (idle : next o ≠ .waits)
    (left : v.store.sessionsOf m.conversationId = []) : Settles m.conversationId (o, v) := by
  have quiet : o.waitingForInput = false := by
    rw [Bool.eq_false_iff]
    exact fun asks => idle ((next_waits shape).mpr asks)
  refine ⟨shape.ne_concurrent, ?_⟩
  rw [left, quiet]
  rfl

/-- An answer that waits leaves the session that was saved. -/
theorem settles_of_waits (shape : Turn.Shape o) (waits : next o = .waits)
    (left : (v.store.sessionsOf m.conversationId).length = 1) :
    Settles m.conversationId (o, v) := by
  refine ⟨shape.ne_concurrent, ?_⟩
  rw [left, (next_waits shape).mp waits]
  rfl

/-- A run that is started in a conversation without a session settles. -/
theorem settles_start (quiet : u.IsQuiet) (none : u.store.sessionsOf m.conversationId = [])
    (responds : (i.respond m).run w = (i.start m d).run u) :
    Settles m.conversationId (i.process m w) := by
  have keyed := Store.isKeyed_of_nil none
  cases created : Context.create? u.now d m.conversationId m.contact with
  | error f =>
    have fails : (i.start m d).run u = (.error f, u) := by
      rw [start, run_bind, run_now]
      dsimp only
      rw [run_bind, run_ofExcept, created]
    exact settles_of_error (responds.trans fails) (Context.not_conflict_of_create? created) quiet keyed
  | ok c =>
    obtain ⟨new, mine⟩ := Context.fresh_of_create? created
    have starts := i.start_run m d quiet.letsWrite.isReachable created
    have shape := Turn.takeTurn_shape i.registry i.maxHops d (c.say [.ofUser u.now m.message .none])
      .none u.outside
    have run := Turn.takeTurn_continues i.registry i.maxHops d (c.say [.ofUser u.now m.message .none])
      .none u.outside
    rw [← responds] at starts
    generalize Turn.takeTurn i.registry i.maxHops d (c.say [.ofUser u.now m.message .none]) .none
      u.outside = r at starts shape run
    obtain ⟨⟨o, later⟩, left⟩ := r
    dsimp only at starts shape run
    have quiet' : (u.withOutside left).IsQuiet := quiet
    cases after : next o with
    | ended =>
      rw [after] at starts
      rw [process_of_ok starts]
      have kept := (countRun_run quiet'.letsWrite later.flowId o.success).1
      refine settles_of_idle shape (by rw [after]; decide) ?_
      rw [Store.sessionsOf, kept]
      exact none
    | failed =>
      rw [after] at starts
      rw [process_of_ok starts]
      exact settles_of_idle shape (by rw [after]; decide) none
    | waits =>
      rw [after] at starts
      dsimp only at starts
      have fresh : later.sequence = 0 := run.sequence.trans new
      have conversation : later.conversationId = m.conversationId := run.conversationId.trans mine
      cases expiry : Keeping.expiry? (u.withOutside left).now i.sessionHours with
      | error f =>
        rw [Keeping.save_of_expiry_error expiry] at starts
        exact settles_of_error starts (Keeping.not_conflict_of_expiry? expiry) quiet' keyed
      | ok e =>
        have nothing : (u.withOutside left).store.session? later.conversationId = .none := by
          rw [conversation]
          exact Store.session?_eq_none_iff.mpr none
        have doc := later.holdsAll_sessionOf_document 1 (u.withOutside left).now e
        rw [Keeping.save_fresh quiet'.letsWrite expiry fresh, nothing] at starts
        rw [process_of_ok starts]
        refine settles_of_waits shape after ?_
        rw [conversation] at doc
        show (Store.sessionsOf (u.store.added _) m.conversationId).length = 1
        rw [Store.sessionsOf_added doc, none]
        rfl

/-- An answer for which there is nothing to resume settles. -/
theorem settles_anew (quiet : u.IsQuiet) (none : u.store.sessionsOf m.conversationId = [])
    (resumed : (resume m.conversationId).run w = (.ok .none, u)) :
    Settles m.conversationId (i.process m w) := by
  have reads := (Dispatch.isReading_find m.workspaceId m.botId (.ofMessage m.message) false).onlyReads
    u quiet
  have avoids := Dispatch.avoidsConflict_find m.workspaceId m.botId (.ofMessage m.message) false u
    quiet.letsWrite
  have responds := respond_of_nothing (i := i) resumed
  generalize (Dispatch.find m.workspaceId m.botId (.ofMessage m.message) false).run u = r
    at reads avoids responds
  obtain ⟨f | found, v⟩ := r
  · dsimp only at reads
    refine settles_of_error responds (avoids f rfl) (reads.isQuiet quiet) (Store.isKeyed_of_nil ?_)
    rw [reads.store, none]
  · dsimp only at reads
    have none' : v.store.sessionsOf m.conversationId = [] := by
      rw [reads.store]
      exact none
    cases found with
    | none =>
      rw [process_of_ok responds]
      refine ⟨noFlow_ne_concurrent v.now, ?_⟩
      rw [none']
      rfl
    | some d => exact settles_start (reads.isQuiet quiet) none' responds

/-- What a further turn of a run may come to, given the session: the run is over, and the conversation has
no session any more; or the turn waits and its save is refused, and nothing is written; or the turn waits
and the session is advanced. -/
inductive GoesOn (i : Interpreter) (m : Inbound) (c : Context) (d : Definition) (doc : Entries)
    (v : World) : Outcome × World → Prop
  | ended (o : Outcome) (u : World) (quiet : u.IsQuiet) (answers : ∀ t, o ≠ concurrent t)
    (idle : o.waitingForInput = false) (gone : u.store.sessionsOf m.conversationId = []) :
    GoesOn i m c d doc v (o, u)
  | refused (t : Moment) (u : World) (quiet : u.IsQuiet) (outdated : c.IsOutdated v.store)
    (store : u.store = v.store) (cache : u.cache = v.cache) : GoesOn i m c d doc v (concurrent t, u)
  | waits (o : Outcome) (later : Context) (left : Outside) (t e : Moment) (u : World)
    (turn : Turn.takeTurn i.registry i.maxHops d c (some m.message) v.outside = ((o, later), left))
    (waits : o.waitingForInput = true) (found : doc.holds "sequence" (.int later.sequence) = true)
    (quiet : u.IsQuiet)
    (store : u.store = v.store.saved m.conversationId later.sequence (later.savedFields t e))
    (cache : u.cache = v.cache) : GoesOn i m c d doc v (o, u)

theorem goesOn_of_proceeds (quiet : v.IsQuiet) {doc : Entries}
    (one : v.store.sessionsOf m.conversationId = [doc]) (mine : c.conversationId = m.conversationId)
    (responds : (i.respond m).run w = (i.proceed m c d).run v) :
    GoesOn i m c d doc v (i.process m w) := by
  have keyed := Store.isKeyed_of_singleton one
  have gone := Store.IsKeyed.sessionsOf_cleared keyed
  have proceeds := i.proceed_run m c d quiet.letsWrite
  have shape := Turn.takeTurn_shape i.registry i.maxHops d c (some m.message) v.outside
  have run := Turn.takeTurn_continues i.registry i.maxHops d c (some m.message) v.outside
  rw [← responds] at proceeds
  generalize turn : Turn.takeTurn i.registry i.maxHops d c (some m.message) v.outside = r
    at proceeds shape run
  obtain ⟨⟨o, later⟩, left⟩ := r
  dsimp only at proceeds shape run
  have quiet' : (v.withOutside left).IsQuiet := quiet
  have idle (other : next o ≠ .waits) : o.waitingForInput = false := by
    rw [Bool.eq_false_iff]
    exact fun asks => other ((next_waits shape).mpr asks)
  cases after : next o with
  | ended =>
    rw [after] at proceeds
    rw [process_of_ok proceeds]
    obtain ⟨kept, faults, -⟩ := countRun_run (w := (v.withOutside left).cleared m.conversationId)
      quiet'.letsWrite later.flowId o.success
    refine .ended o _ (faults.trans quiet') shape.ne_concurrent (idle (by rw [after]; decide)) ?_
    rw [Store.sessionsOf, kept]
    exact gone
  | failed =>
    rw [after] at proceeds
    rw [process_of_ok proceeds]
    exact .ended o _ quiet' shape.ne_concurrent (idle (by rw [after]; decide)) gone
  | waits =>
    rw [after] at proceeds
    dsimp only at proceeds
    have conversation : later.conversationId = m.conversationId := run.conversationId.trans mine
    have one' : (v.withOutside left).store.sessionsOf later.conversationId = [doc] := by
      rw [conversation]
      exact one
    have saves := Keeping.save_cases quiet'.letsWrite one' i.sessionHours
    generalize Keeping.save i.sessionHours later (v.withOutside left) = r at proceeds saves
    cases saves with
    | late f other =>
      rw [process_of_error proceeds other quiet'.letsWrite]
      exact .ended _ _ quiet' (fun t => broken_ne_concurrent _ t f) rfl gone
    | outdated n kept missed =>
      rw [run.conversationId, run.sequence] at missed
      rw [process_of_conflict proceeds]
      exact .refused _ _ quiet' missed rfl rfl
    | written kept e found =>
      rw [process_of_ok proceeds]
      refine .waits o later left left.now e _ turn ((next_waits shape).mp after) found quiet' ?_ rfl
      rw [← conversation]
      rfl

/-- A resumed run settles, unless its session cannot be saved any more. -/
theorem settles_proceed (quiet : v.IsQuiet) {doc : Entries}
    (one : v.store.sessionsOf m.conversationId = [doc]) (mine : c.conversationId = m.conversationId)
    (responds : (i.respond m).run w = (i.proceed m c d).run v) :
    ((∃ t, (i.process m w).1 = concurrent t) ∧ c.IsOutdated v.store) ∨
      Settles m.conversationId (i.process m w) := by
  have went := goesOn_of_proceeds quiet one mine responds
  generalize i.process m w = r at went
  cases went with
  | ended o u _ answers idle gone =>
    refine .inr ⟨answers, ?_⟩
    rw [gone, idle]
    rfl
  | refused t u _ outdated => exact .inl ⟨⟨t, rfl⟩, outdated⟩
  | waits o later left t e u turn waits found _ store =>
    have shape := Turn.takeTurn_shape i.registry i.maxHops d c (some m.message) v.outside
    have other : "conversation_id" ∉ (later.savedFields t e).map Prod.fst := by
      rw [Context.map_fst_savedFields]
      decide
    rw [turn] at shape
    refine .inr ⟨shape.ne_concurrent, ?_⟩
    rw [store, Store.sessionsOf_saved_of_holds one other found, waits]
    rfl

/-- What an answer leaves of the conversation: one session if it waits for a reply, else none. Only an
excuse for a conflict is no such answer, and is given if an outdated context was resumed. -/
theorem answers_leave (i : Interpreter) (m : Inbound) (quiet : w.IsQuiet)
    (sound : w.store.IsSound m.conversationId) :
    (∃ t, (i.process m w).1 = concurrent t ∧ ∃ c d v,
      (resume m.conversationId).run w = (.ok (some (c, d)), v) ∧ c.IsOutdated v.store) ∨
      Settles m.conversationId (i.process m w) := by
  have resumes := resume_cases quiet m.conversationId
  generalize resumed : (resume m.conversationId).run w = r at resumes
  cases resumes with
  | resumes c d v loaded reads =>
    obtain ⟨-, doc, session, from_⟩ := Keeping.load_some quiet loaded
    have one : v.store.sessionsOf m.conversationId = [doc] := by
      rw [reads.store]
      exact sound.keyed.sessionsOf_eq session
    have mine := Keeping.conversationId_of_load session from_
    have responds : (i.respond m).run w = (i.proceed m c d).run v := by
      rw [respond, run_bind, resumed]
    rcases settles_proceed (reads.isQuiet quiet) one mine responds with ⟨⟨t, conflict⟩, outdated⟩ | settles
    · exact .inl ⟨t, conflict, c, d, v, rfl, outdated⟩
    · exact .inr settles
  | nothing v reads unread =>
    refine .inr (settles_anew (reads.isQuiet quiet) ?_ resumed)
    rw [reads.store, ← Store.session?_eq_none_iff, Option.eq_none_iff_forall_ne_some]
    intro doc found
    obtain ⟨es, text⟩ := sound.named doc found
    exact unread doc es found text
  | removed v reads =>
    refine .inr (settles_anew (reads.isQuiet quiet) ?_ resumed)
    rw [reads.store]
    exact sound.keyed.sessionsOf_cleared
  | fails f v reads =>
    have fails : (i.respond m).run w = (.error f, v) := by
      rw [respond, run_bind, resumed]
    have other : ¬ f.IsConflict := by
      refine avoidsConflict_resume m.conversationId w quiet.letsWrite f ?_
      rw [resumed]
    refine .inr (settles_of_error fails other (reads.isQuiet quiet) ?_)
    rw [reads.store]
    exact sound.keyed

/-- The sessions that the service stores carry an integer from 1 on. An answer in a conversation with
such a session, or with none, settles. -/
theorem settles_of_counted (i : Interpreter) (m : Inbound) (quiet : w.IsQuiet)
    (sound : w.store.IsSound m.conversationId)
    (counted : ∀ doc, w.store.session? m.conversationId = some doc →
      ∃ n : Int, 1 ≤ n ∧ doc.lookup "sequence" = some (.int n)) :
    Settles m.conversationId (i.process m w) := by
  rcases answers_leave i m quiet sound with ⟨t, -, c, d, v, resumed, outdated⟩ | settles
  · obtain ⟨loaded, reads⟩ := load_of_resume quiet resumed
    obtain ⟨-, doc, session, from_⟩ := Keeping.load_some quiet loaded
    obtain ⟨n, positive, sequence⟩ := counted doc session
    have same : c.sequence = n := from_.sequence n sequence
    have mine := Keeping.conversationId_of_load session from_
    have one : v.store.sessionsOf m.conversationId = [doc] := by
      rw [reads.store]
      exact sound.keyed.sessionsOf_eq session
    exfalso
    rcases outdated with fresh | missing
    · omega
    · rw [mine, same, Store.find?_sessionAt_of_sequence n one sequence, if_pos rfl] at missing
      cases missing
  · exact settles

end Interpreter

end ChatFlow
