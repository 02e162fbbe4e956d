import ChatFlow.Proofs.Conversation.Clearing
import ChatFlow.Proofs.Interpreter.Enduring

/-!
What answering does to the session of its conversation, whatever faults strike.

A session that cannot be read is left alone (`Interpreter.resume_of_hides`); one that is read is resumed, or
given up with an attempt to clear the conversation, or resuming it fails (`Interpreter.Resumes`). A run that
is started writes a session only if its first turn waits and the conversation has none
(`Interpreter.sessions_start`); nothing on that way clears a session that is there. A further turn that is
over attempts to clear the conversation, and one whose save fails leaves the store as it found it
(`Interpreter.Proceeded`).
-/

namespace ChatFlow

namespace Interpreter

open ChatFlow.Flow (Definition)

open Keeping (LeftByClear)

open Operation (run_bind run_now run_ofExcept)

variable {i : Interpreter} {m : Inbound} {w v : World} {c : Context} {d : Definition}

theorem completed_of_waits {o : Outcome} (waits : next o = .waits) : o.completed = false := by
  unfold next at waits
  split at waits
  · cases waits
  · rename_i idle
    rw [Bool.not_eq_true, Bool.or_eq_false_iff] at idle
    exact idle.1

/-- Counting a run touches no session. -/
theorem sessions_counted (reachable : w.IsReachable) (alone : w.IsAlone) (flowId : String)
    (success : Bool) : (counted w flowId success).store.sessions = w.store.sessions := by
  obtain ⟨v, looks, -, run⟩ := Operation.write_of_meets (w := w.joined) alone .updateOne .flows false
    (Store.countRun w.now flowId success)
  have same : v.store.sessions = w.store.sessions := congrArg Store.sessions (looks.store alone)
  unfold counted
  rw [countRun, run_bind, Operation.countRun, run_bind, Operation.connect_run reachable]
  dsimp only
  rw [Operation.orLog_run, run_bind, run_now]
  dsimp only
  rw [World.joined_now, run]
  rcases w.joined.meets .updateOne .flows with cause | _ | _
  · exact same
  · dsimp only
    rw [World.joined_store]
    cases counts : Store.countRun w.now flowId success w.store with
    | error e => exact same
    | ok p =>
      have kept := Store.sessions_of_countRun counts
      obtain ⟨_ | _, s⟩ := p <;> exact kept
  · exact same

/-! ## Resuming -/

/-- Resuming leaves the session of its conversation, or lets it fade. -/
theorem fades_resume (reachable : w.IsReachable) (alone : w.IsAlone) (conv : String) :
    Store.Fades conv w.store ((resume conv).run w).2.store := by
  have loads := Keeping.fades_load reachable alone conv
  have spent := Keeping.spends_load conv w
  rw [resume_eq]
  generalize (Keeping.load conv).run w = r at loads spent
  obtain ⟨f | _ | c, v⟩ := r
  · exact loads
  · exact loads
  · have looks := (Library.isReading_load c.flowId (some c.versionId)).looks v
    dsimp only at loads spent ⊢
    generalize (Library.load c.flowId (some c.versionId)).run v = r at looks
    have same := looks.store (spent.isAlone alone)
    have spent' := spent.trans looks.spends
    obtain ⟨f | definition, u⟩ := r
    · exact loads.trans (.of_sessions (congrArg (Store.sessionsOf · conv) same))
    · dsimp only at same spent' ⊢
      have unread := loads.trans (.of_sessions (congrArg (Store.sessionsOf · conv) same))
      cases bound definition c.currentNodeId with
      | some d => exact unread
      | none =>
        obtain ⟨x, clears, left⟩ := Keeping.leftByClear_of_clear (w := u.noted .warning component)
          (spent'.isReachable reachable) (spent'.isAlone alone) conv
        dsimp only
        rw [clears]
        exact unread.trans left.fades

/-- If the session is hidden there is nothing to resume, and it is left alone. -/
theorem resume_of_hides (reachable : w.IsReachable) (hides : w.HidesSession) (conv : String) :
    ∃ v, w.Peeks v ∧ (resume conv).run w = (.ok none, v) := by
  obtain ⟨v, peeks, loaded⟩ := Keeping.load_of_hides reachable hides conv
  refine ⟨v, peeks, ?_⟩
  rw [resume_eq, loaded]

/-- What resuming comes to where there is something to resume and it is read: it is resumed; or it is given
up, and an attempt is made to clear it; or resuming it fails. -/
inductive Resumes (conv : String) (w : World) :
    Except Failure (Option (Context × Definition)) × World → Prop
  | resumed (c : Context) (d : Definition) (v : World)
    (sight : Keeping.seen w.store conv w.now = .ok (some c)) (peeks : w.Peeks v) :
    Resumes conv w (.ok (some (c, d)), v)
  | givenUp (v u : World) (peeks : w.Peeks v) (clears : (Keeping.clear conv).run v = (.ok (), u)) :
    Resumes conv w (.ok none, u)
  | fails (f : Failure) (v : World) (peeks : w.Peeks v) : Resumes conv w (.error f, v)

theorem resume_of_shows (reachable : w.IsReachable) (alone : w.IsAlone) (shows : ¬ w.HidesSession)
    {conv : String} (there : Keeping.seen w.store conv w.now ≠ .ok none) :
    Resumes conv w ((resume conv).run w) := by
  obtain ⟨v, peeks, loaded⟩ := Keeping.load_of_seen reachable alone shows there
  rw [resume_eq, loaded]
  rcases sight : Keeping.seen w.store conv w.now with f | _ | c
  · exact .fails f v peeks
  · exact absurd sight there
  · have peeks' := (Library.isReading_load c.flowId (some c.versionId)).peeks v
    dsimp only
    generalize (Library.load c.flowId (some c.versionId)).run v = r at peeks'
    obtain ⟨f | definition, u⟩ := r
    · exact .fails f u (peeks.trans peeks')
    · dsimp only at peeks' ⊢
      cases bound definition c.currentNodeId with
      | some d => exact .resumed c d u sight (peeks.trans peeks')
      | none =>
        have warned : w.Peeks (u.noted .warning component) :=
          (peeks.trans peeks').trans (.of_same rfl rfl rfl)
        obtain ⟨x, clears, -⟩ := Keeping.leftByClear_of_clear
          (warned.looks.spends.isReachable reachable) (warned.looks.spends.isAlone alone) conv
        dsimp only
        rw [clears]
        exact .givenUp _ x warned clears

/-! ## Starting a run -/

/-- Starting a run leaves the sessions alone, unless the run waits and the conversation has none. -/
theorem sessions_start (reachable : w.IsReachable) (alone : w.IsAlone) :
    ((i.start m d).run w).2.store.sessions = w.store.sessions ∨
      w.store.session? m.conversationId = none ∧
        ∃ o, ((i.start m d).run w).1 = .ok o ∧ o.completed = false := by
  cases created : Context.create? w.now d m.conversationId m.contact with
  | error f =>
    rw [start, run_bind, run_now]
    dsimp only
    rw [run_bind, run_ofExcept, created]
    exact .inl rfl
  | ok c =>
    obtain ⟨fresh, mine⟩ := Context.fresh_of_create? created
    have run := Turn.takeTurn_continues i.registry i.maxHops d
      (c.say [.ofUser w.now m.message none]) none w.outside
    rw [start_run i m d reachable created]
    generalize Turn.takeTurn i.registry i.maxHops d (c.say [.ofUser w.now m.message none]) none
      w.outside = r at run ⊢
    obtain ⟨⟨o, later⟩, left⟩ := r
    dsimp only at run ⊢
    have reachable' : (w.withOutside left).IsReachable := reachable
    have alone' : (w.withOutside left).IsAlone := alone
    cases after : next o with
    | ended => exact .inl (sessions_counted reachable' alone' later.flowId o.success)
    | failed => exact .inl rfl
    | waits =>
      dsimp only
      cases saves : Keeping.save i.sessionHours later (w.withOutside left) with
      | mk result u =>
        obtain ⟨f | _ | _, kept⟩ := result
        · exact .inl (congrArg Store.sessions (Keeping.save_fails reachable' alone' saves).1)
        · exact .inl (congrArg Store.sessions (Keeping.store_of_unsaved alone' saves).1)
        · obtain ⟨e, -, written⟩ := Keeping.written_of_save alone' saves
          refine .inr ⟨?_, o, rfl, completed_of_waits after⟩
          generalize u.store = s at written
          cases written with
          | added _ absent =>
            rw [run.conversationId] at absent
            exact mine ▸ absent
          | advanced stored doc found => exact absurd (run.sequence.trans fresh) stored

/-- The same holds of an answer for which there is nothing to resume. -/
theorem sessions_anew (reachable : v.IsReachable) (alone : v.IsAlone)
    (resumed : (resume m.conversationId).run w = (.ok none, v)) :
    ((i.respond m).run w).2.store.sessions = v.store.sessions ∨
      v.store.session? m.conversationId = none ∧
        ∃ o, ((i.respond m).run w).1 = .ok o ∧ o.completed = false := by
  have looks := (Dispatch.isReading_find m.workspaceId m.botId (.ofMessage m.message) false).looks v
  rw [respond, run_bind, resumed]
  dsimp only
  rw [run_bind]
  generalize (Dispatch.find m.workspaceId m.botId (.ofMessage m.message) false).run v = r at looks
  have same := looks.store alone
  obtain ⟨f | _ | d, u⟩ := r
  · exact .inl (congrArg Store.sessions same)
  · exact .inl (congrArg Store.sessions same)
  · dsimp only at looks same ⊢
    have starts := sessions_start (i := i) (m := m) (d := d) (looks.spends.isReachable reachable)
      (looks.spends.isAlone alone)
    rw [same] at starts
    exact starts

/-! ## Going on with a run -/

/-- What a further turn may come to: it is over or has failed, and an attempt was made to clear the
conversation; or it waits; or it waits and cannot be saved, by a conflict or before anything was done. -/
inductive Proceeded (conv : String) (w : World) : Except Failure Outcome × World → Prop
  | ended (o : Outcome) (v : World) (left : LeftByClear conv w v.store) : Proceeded conv w (.ok o, v)
  | goesOn (o : Outcome) (v : World) (waits : o.completed = false) : Proceeded conv w (.ok o, v)
  | fails (f : Failure) (v : World) (same : v.store = w.store)
    (reason : f.IsConflict ∨ w.Spares v) : Proceeded conv w (.error f, v)

theorem proceed_cases (reachable : w.IsReachable) (alone : w.IsAlone) (i : Interpreter) (m : Inbound)
    (c : Context) (d : Definition) :
    Proceeded m.conversationId w ((i.proceed m c d).run w) := by
  rw [proceed_eq]
  rcases Turn.takeTurn i.registry i.maxHops d c (some m.message) w.outside with ⟨⟨o, later⟩, left⟩
  dsimp only
  have reachable' : (w.withOutside left).IsReachable := reachable
  have alone' : (w.withOutside left).IsAlone := alone
  have spares : w.Spares (w.withOutside left) := fun _ _ _ => rfl
  obtain ⟨u, clears, cleared⟩ :=
    Keeping.leftByClear_of_clear reachable' alone' m.conversationId
  have spent := Keeping.spends_clear m.conversationId (w.withOutside left)
  rw [clears] at spent
  have cleared' : LeftByClear m.conversationId w u.store := cleared.of_spares rfl spares
  cases after : next o with
  | ended =>
    have still := spent.isReachable reachable'
    rw [clears]
    dsimp only
    rw [countRun_ok still]
    refine .ended o _ (cleared'.of_sessionsOf ?_)
    rw [Store.sessionsOf, sessions_counted still (spent.isAlone alone')]
    rfl
  | failed =>
    dsimp only
    rw [clears]
    exact .ended o u cleared'
  | waits =>
    dsimp only
    cases saves : Keeping.save i.sessionHours later (w.withOutside left) with
    | mk result x =>
      obtain ⟨f | saved, kept⟩ := result
      · obtain ⟨same, conflict | untouched⟩ := Keeping.save_fails reachable' alone' saves
        · exact .fails f x same (.inl conflict)
        · subst untouched
          exact .fails f _ rfl (.inr spares)
      · exact .goesOn o x (completed_of_waits after)

end Interpreter

end ChatFlow
