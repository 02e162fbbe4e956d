import ChatFlow.Proofs.Conversation.Saving
import ChatFlow.Proofs.Interpreter.Enduring

/-!
The turn behind an answer that waits.

A message is answered by a turn of the run that its conversation is in, or by the first turn of a new
one (`Interpreter.Makes`). Excuses do not wait for a reply. So behind an answer that waits there is a
turn, and the context that it left was saved with what the answer's world shows of it: the save
succeeded, or it failed for the store's own reasons and the answer was given all the same
(`Interpreter.makes_of_waits`). This holds whatever faults strike. The context was never stored before, or
it continues the one that is stored (`Interpreter.Makes.origin`), and a save that succeeds leaves one
session accordingly (`Interpreter.Makes.stored`).
-/

namespace ChatFlow

namespace Interpreter

open ChatFlow.Flow (Definition)

open Operation (run_bind run_now run_ofExcept gives_any gives_bind gives_pure)

variable {i : Interpreter} {m : Inbound} {w v : World} {d : Definition} {c : Context} {o : Outcome}

/-- The turn by which a message is answered: the definition it is made on, its outcome, and the context
and the world that it leaves, before anything is saved or cleared. -/
inductive Makes (i : Interpreter) (m : Inbound) (w : World) :
    Definition → Outcome → Context → World → Prop
  /-- The conversation is resumed, and the message is the reply. -/
  | proceeds (c later : Context) (d : Definition) (u : World) (o : Outcome) (left : Outside)
    (resumed : (resume m.conversationId).run w = (.ok (some (c, d)), u))
    (turn : Turn.takeTurn i.registry i.maxHops d c (some m.message) u.outside = ((o, later), left)) :
    Makes i m w d o later (u.withOutside left)
  /-- There is nothing to resume, and a run of the flow that answers is started. -/
  | starts (c later : Context) (d : Definition) (v u : World) (o : Outcome) (left : Outside)
    (resumed : (resume m.conversationId).run w = (.ok none, v))
    (found : (Dispatch.find m.workspaceId m.botId (.ofMessage m.message) false).run v
      = (.ok (some d), u))
    (created : Context.create? u.now d m.conversationId m.contact = .ok c)
    (turn : Turn.takeTurn i.registry i.maxHops d (c.say [.ofUser u.now m.message none]) none u.outside
      = ((o, later), left)) :
    Makes i m w d o later (u.withOutside left)

/-- The turn that is made waits, ends the flow or fails. -/
theorem Makes.shape {u : World} (h : Makes i m w d o c u) : Turn.Shape o := by
  cases h with
  | proceeds c' later d u o left resumed turn =>
    have shape := Turn.takeTurn_shape i.registry i.maxHops d c' (some m.message) u.outside
    rwa [turn] at shape
  | starts c' later d v u o left resumed found created turn =>
    have shape := Turn.takeTurn_shape i.registry i.maxHops d (c'.say [.ofUser u.now m.message none]) none
      u.outside
    rwa [turn] at shape

/-- A turn spends faults and brings none. -/
theorem Makes.spends {u : World} (h : Makes i m w d o c u) : w.Spends u := by
  have resumes := spends_resume m.conversationId w
  cases h with
  | proceeds c' later d u o left resumed turn =>
    rw [resumed] at resumes
    exact resumes
  | starts c' later d v u o left resumed found created turn =>
    have finds := (Dispatch.isReading_find m.workspaceId m.botId (.ofMessage m.message) false).spends v
    rw [resumed] at resumes
    rw [found] at finds
    exact resumes.trans finds

/-- The context that a turn leaves was never stored, or continues the one that is stored. -/
theorem Makes.origin {u : World} (h : Makes i m w d o c u) (alone : w.IsAlone) :
    (c.sequence = 0 ∧ c.conversationId = m.conversationId) ∨
      ∃ c₀, Keeping.IsReadAs w.store m.conversationId w.now c₀ ∧ c.Continues c₀ ∧
        u.store = w.store := by
  cases h with
  | proceeds c₀ later d u o left resumed turn =>
    obtain ⟨looks, reads, -⟩ := isReadAs_of_resume alone resumed
    have run := Turn.takeTurn_continues i.registry i.maxHops d c₀ (some m.message) u.outside
    rw [turn] at run
    exact .inr ⟨c₀, reads, run, looks.store alone⟩
  | starts c₀ later d v u o left resumed found created turn =>
    have run := Turn.takeTurn_continues i.registry i.maxHops d
      (c₀.say [.ofUser u.now m.message none]) none u.outside
    rw [turn] at run
    obtain ⟨fresh, mine⟩ := Context.fresh_of_create? created
    exact .inl ⟨run.sequence.trans fresh, run.conversationId.trans mine⟩

/-- The one session that is left of a conversation when the context of a turn was written: the first one
of a new run, or the one that was there, advanced. -/
inductive Stored (conv : String) (w : World) (c : Context) (now expiresAt : Moment) (s : Store) : Prop
  | first (fresh : c.sequence = 0) (one : s.sessionsOf conv = [c.document 1 now expiresAt])
  | further (c₀ : Context) (doc : Entries) (reads : Keeping.IsReadAs w.store conv w.now c₀)
    (run : c.Continues c₀) (was : w.store.session? conv = some doc)
    (found : doc.holds "sequence" (.int c.sequence) = true)
    (one : s.sessionsOf conv = [Store.advanced (c.savedFields now expiresAt) doc])

theorem Makes.stored {u : World} {s : Store} {e : Moment} (makes : Makes i m w d o c u)
    (alone : w.IsAlone) (keyed : w.store.IsKeyed m.conversationId)
    (written : Keeping.Written c u.store u.now e s) :
    c.conversationId = m.conversationId ∧ Stored m.conversationId w c u.now e s := by
  rcases makes.origin alone with ⟨fresh, mine⟩ | ⟨c₀, reads, run, same⟩
  · cases written with
    | added _ absent =>
      rw [Store.session?_eq_none_iff, mine] at absent
      have holds := c.holdsAll_sessionOf_document 1 u.now e
      rw [mine] at holds
      refine ⟨mine, .first fresh ?_⟩
      rw [Store.sessionsOf_added holds, absent]
      rfl
    | advanced stored doc found => exact absurd fresh stored
  · obtain ⟨doc, was, loaded⟩ := reads.isLoadedFrom
    have one := keyed.sessionsOf_eq was
    rw [← same] at one
    have mine : c.conversationId = m.conversationId :=
      run.conversationId.trans (Keeping.conversationId_of_load was loaded)
    cases written with
    | added _ absent =>
      rw [mine, Store.session?_of_sessionsOf one] at absent
      cases absent
    | advanced _ doc' found =>
      rw [mine, Store.find?_sessionAt, one] at found
      have held : doc.holdsAll (Store.sessionAt m.conversationId c.sequence) = true := by
        rw [Documents.find?, List.find?_singleton] at found
        split at found
        · assumption
        · cases found
      refine ⟨mine, .further c₀ doc reads run was (Store.holdsAll_sessionAt.mp held).2 ?_⟩
      rw [mine, Store.sessionsOf_saved (by rw [Context.map_fst_savedFields]; decide), one,
        Documents.modifyFirst_singleton held]

/-- What a save that does not fail makes of an answer. -/
theorem save_of_answers {kept : Context} (run : (do i.save kept; return o : Operation Outcome).run w
      = (.ok o, v)) : ∃ saved left, Keeping.save i.sessionHours kept w = ((.ok saved, left), v) := by
  rw [run_bind, save_run] at run
  generalize Keeping.save i.sessionHours kept w = r at run ⊢
  obtain ⟨⟨f | saved, left⟩, u⟩ := r
  · cases run
  · cases run
    exact ⟨saved, left, rfl⟩

/-- Whatever is done before an answer is given does not change the answer. -/
theorem gives_answer (x : Operation Unit) (answer : Outcome) :
    (do x; return answer : Operation Outcome).Gives fun o => answer = o :=
  gives_bind gives_any fun _ _ => gives_pure rfl

/-- A further turn that waits leaves what the save of its context leaves. -/
theorem save_of_proceeds {later : Context} {left : Outside}
    (run : (i.proceed m c d).run w = (.ok o, v)) (waits : o.waitingForInput = true)
    {o' : Outcome} (turn : Turn.takeTurn i.registry i.maxHops d c (some m.message) w.outside
      = ((o', later), left)) :
    o' = o ∧ ∃ saved kept,
      Keeping.save i.sessionHours later (w.withOutside left) = ((.ok saved, kept), v) := by
  have shape := Turn.takeTurn_shape i.registry i.maxHops d c (some m.message) w.outside
  rw [turn] at shape
  dsimp only at shape
  rw [proceed, run_bind, turn_run, turn] at run
  dsimp only at run
  have waiting := shape.waiting_iff
  cases ended : o'.completed || o'.isHandoff with
  | true =>
    rw [ended, if_pos rfl] at run
    have same : o' = o := gives_bind gives_any (fun _ _ => gives_answer _ o') _ _ _ run
    rw [same, waits, ← same, ended] at waiting
    exact absurd (waiting.mp rfl).1 (by simp)
  | false =>
    rw [ended, if_neg Bool.false_ne_true] at run
    cases failed : (Turn.given? o'.error).isSome with
    | true =>
      rw [failed, if_pos rfl] at run
      have same : o' = o := gives_answer _ o' _ _ _ run
      rw [same, waits, ← same, failed] at waiting
      exact absurd (waiting.mp rfl).2 (by simp)
    | false =>
      rw [failed, if_neg Bool.false_ne_true] at run
      cases gives_answer _ o' _ _ _ run
      exact ⟨rfl, save_of_answers run⟩

/-- A first turn that waits leaves what the save of its context leaves. -/
theorem save_of_starts {later : Context} {left : Outside}
    (run : (i.start m d).run w = (.ok o, v)) (waits : o.waitingForInput = true)
    (created : Context.create? w.now d m.conversationId m.contact = .ok c) {o' : Outcome}
    (turn : Turn.takeTurn i.registry i.maxHops d (c.say [.ofUser w.now m.message none]) none w.outside
      = ((o', later), left)) :
    o' = o ∧ ∃ saved kept,
      Keeping.save i.sessionHours later (w.withOutside left) = ((.ok saved, kept), v) := by
  have shape := Turn.takeTurn_shape i.registry i.maxHops d (c.say [.ofUser w.now m.message none]) none
    w.outside
  rw [turn] at shape
  dsimp only at shape
  rw [start, run_bind, run_now] at run
  dsimp only at run
  rw [run_bind, run_ofExcept, created] at run
  dsimp only at run
  rw [run_bind, turn_run, turn] at run
  dsimp only at run
  have waiting := shape.waiting_iff
  cases ended : o'.completed || o'.isHandoff with
  | true =>
    rw [ended, if_pos rfl] at run
    have same : o' = o := gives_answer _ o' _ _ _ run
    rw [same, waits, ← same, ended] at waiting
    exact absurd (waiting.mp rfl).1 (by simp)
  | false =>
    rw [ended, if_neg Bool.false_ne_true] at run
    cases saves : o'.waitingForInput && (Turn.given? o'.error).isNone with
    | true =>
      rw [saves, if_pos rfl] at run
      cases gives_answer _ o' _ _ _ run
      exact ⟨rfl, save_of_answers run⟩
    | false =>
      rw [saves, if_neg Bool.false_ne_true] at run
      cases run
      rw [waits, Bool.true_and] at saves
      have clean := (waiting.mp waits).2
      rw [Option.isSome_eq_false_iff.mp clean] at saves
      cases saves

/-- An excuse for a failure does not wait. -/
theorem idle_of_error {f : Failure} (fails : (i.respond m).run w = (.error f, v)) :
    (i.process m w).1.waitingForInput = false := by
  rw [process, StateM.bind_apply, fails]
  cases f with
  | conflict conv n => rfl
  | _ =>
    dsimp only
    rw [StateM.bind_apply, StateM.bind_apply, World.reportError_apply]
    rcases (Keeping.clear m.conversationId).run (v.noted .error component) with ⟨_ | _, u⟩ <;> rfl

/-- Behind an answer that waits there is a turn, and the context that it left was saved: with success,
or in vain, in which case the answer was given all the same. -/
theorem makes_of_waits (waits : (i.process m w).1.waitingForInput = true) :
    ∃ d c u saved kept, Makes i m w d (i.process m w).1 c u ∧
      Keeping.save i.sessionHours c u = ((.ok saved, kept), (i.process m w).2) := by
  cases responds : (i.respond m).run w with
  | mk result v =>
    cases result with
    | error f => exact absurd ((idle_of_error responds).symm.trans waits) Bool.false_ne_true
    | ok o =>
      rw [process_of_ok responds] at waits ⊢
      dsimp only at waits ⊢
      rw [respond, run_bind] at responds
      cases resumed : (resume m.conversationId).run w with
      | mk found u =>
        rw [resumed] at responds
        cases found with
        | error f => cases responds
        | ok loaded =>
          cases loaded with
          | some run =>
            obtain ⟨c, d⟩ := run
            dsimp only at responds
            cases turn : Turn.takeTurn i.registry i.maxHops d c (some m.message) u.outside with
            | mk made left =>
              obtain ⟨same, saved, kept, saves⟩ := save_of_proceeds responds waits turn
              exact ⟨d, made.2, _, saved, kept,
                same ▸ .proceeds c made.2 d u made.1 left resumed turn, saves⟩
          | none =>
            dsimp only at responds
            rw [run_bind] at responds
            cases finds : (Dispatch.find m.workspaceId m.botId (.ofMessage m.message) false).run u with
            | mk answers x =>
              rw [finds] at responds
              cases answers with
              | error f => cases responds
              | ok answers =>
                cases answers with
                | none =>
                  cases responds
                  cases waits
                | some d =>
                  dsimp only at responds
                  cases created : Context.create? x.now d m.conversationId m.contact with
                  | error f =>
                    rw [start, run_bind, run_now] at responds
                    dsimp only at responds
                    rw [run_bind, run_ofExcept, created] at responds
                    cases responds
                  | ok c =>
                    cases turn : Turn.takeTurn i.registry i.maxHops d
                        (c.say [.ofUser x.now m.message none]) none x.outside with
                    | mk made left =>
                      obtain ⟨same, saved, kept, saves⟩ := save_of_starts responds waits created turn
                      exact ⟨d, made.2, _, saved, kept,
                        same ▸ .starts c made.2 d u x made.1 left resumed finds created turn, saves⟩

end Interpreter

end ChatFlow
