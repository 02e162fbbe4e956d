import ChatFlow.Proofs.Interpreter.Survival

/-!
Whether a finished conversation can be resumed.

An answer that completes a conversation ought to leave nothing to resume. While writes of sessions may fail
there are three ways for that to be so (`Interpreter.finished_iff`). It may be that there was nothing to
resume before. It may be that the session is read, and the attempt to clear it has an effect. And it may be
that the answer breaks down, and its excuse clears the conversation with effect.

So a finished conversation can be resumed in two cases. One is that the session cannot be read for a moment:
a run is started anew, and on that way nothing clears the session that is there, though the run ends at
once. The other is that the session cannot be marked as completed: then its removal is not even tried,
though it would succeed (`Sample.finished_and_resumed`).
-/

namespace ChatFlow

/-! ## Nothing to resume -/

namespace Keeping

variable {s : Store} {conv : String} {now : Moment}

/-- There is nothing to resume in the conversation: as long as it has these sessions, no load at the time
gives a context. -/
def IsAbsent (s : Store) (conv : String) (now : Moment) : Prop :=
  ∀ v : World, v.IsQuiet → v.store.sessionsOf conv = s.sessionsOf conv → v.now = now →
    ((load conv).run v).1 = .ok none

theorem isAbsent_iff : IsAbsent s conv now ↔ seen s conv now = .ok none := by
  constructor
  · intro absent
    let v : World := ⟨⟨now, [], [], [], []⟩, s, [], true, []⟩
    have loaded := absent v rfl rfl rfl
    rwa [load_run_fst (w := v) rfl] at loaded
  · intro nothing v quiet same clock
    have sight : seen v.store conv now = seen s conv now :=
      seen_congr (by rw [Store.session?_eq_head?, Store.session?_eq_head?, same])
    rw [load_run_fst quiet, clock, sight, nothing]

theorem isAbsent_congr {t : Store} (same : t.sessionsOf conv = s.sessionsOf conv) :
    IsAbsent t conv now ↔ IsAbsent s conv now := by
  unfold IsAbsent
  rw [same]

end Keeping

namespace Interpreter

open ChatFlow.Flow (Definition)

open Keeping (IsAbsent LeftByClear seen)

open Operation (run_bind)

variable {i : Interpreter} {m : Inbound} {w v : World} {conv : String}

/-! ## Answers that are over -/

/-- Unless it goes on, an answer leaves the session of its conversation, or lets it fade. -/
theorem fades_respond (reachable : w.IsReachable) (alone : w.IsAlone)
    (ends : ∀ o, ((i.respond m).run w).1 = .ok o → o.completed = true) :
    Store.Fades m.conversationId w.store ((i.respond m).run w).2.store := by
  have resumes := fades_resume reachable alone m.conversationId
  have spent := spends_resume m.conversationId w
  cases resumed : (resume m.conversationId).run w with
  | mk result v =>
    rw [resumed] at resumes spent
    have reachable' := spent.isReachable reachable
    have alone' := spent.isAlone alone
    match result with
    | .error f =>
      rw [respond, run_bind, resumed]
      exact resumes
    | .ok none =>
      rcases sessions_anew (i := i) reachable' alone' resumed with same | ⟨-, o, run, idle⟩
      · exact resumes.trans (.of_sessions (by rw [Store.sessionsOf, same]; rfl))
      · exact absurd (idle.symm.trans (ends o run)) Bool.false_ne_true
    | .ok (some (c, d)) =>
      have responds : (i.respond m).run w = (i.proceed m c d).run v := by
        rw [respond, run_bind, resumed]
      have proceeds := proceed_cases reachable' alone' i m c d
      rw [responds] at ends ⊢
      generalize (i.proceed m c d).run v = r at proceeds ends
      cases proceeds with
      | ended o u left => exact resumes.trans left.fades
      | goesOn o u waits => exact absurd (waits.symm.trans (ends o rfl)) Bool.false_ne_true
      | fails f u same reason => exact resumes.trans (.of_sessions (congrArg (Store.sessionsOf · _) same))

/-! ## Completed answers -/

/-- Behind an answer that completes its conversation is one that was given, or one that broke down and was
followed by an attempt to clear the conversation. -/
inductive Completes (i : Interpreter) (m : Inbound) (w : World) : Prop
  | given (o : Outcome) (v : World) (responds : (i.respond m).run w = (.ok o, v))
    (completed : o.completed = true) (left : (i.process m w).2.store = v.store)
  | broken (f : Failure) (v : World) (responds : (i.respond m).run w = (.error f, v))
    (other : ¬ f.IsConflict) (left : LeftByClear m.conversationId v (i.process m w).2.store)

theorem completes_of_completed (reachable : w.IsReachable) (alone : w.IsAlone)
    (completed : (i.process m w).1.completed = true) : Completes i m w := by
  have spent := spends_respond i m w
  cases responds : (i.respond m).run w with
  | mk result v =>
    rw [responds] at spent
    cases result with
    | ok o =>
      have same := process_of_ok responds
      rw [same] at completed
      exact .given o v responds completed (by rw [same])
    | error f =>
      by_cases conflict : f.IsConflict
      · obtain ⟨conv, n, rfl⟩ := conflict
        rw [process_of_conflict responds] at completed
        cases completed
      · obtain ⟨u, clears, left⟩ := Keeping.leftByClear_of_clear (w := v.noted .error component)
          (spent.isReachable reachable) (spent.isAlone alone) m.conversationId
        refine .broken f v responds conflict ?_
        rw [process_of_clear responds conflict clears]
        exact left.of_spares rfl fun _ _ _ => rfl

/-- An answer that completes its conversation leaves the session, or lets it fade. -/
theorem Completes.fades (completes : Completes i m w) (reachable : w.IsReachable) (alone : w.IsAlone) :
    Store.Fades m.conversationId w.store (i.process m w).2.store := by
  have fades := fades_respond (i := i) (m := m) reachable alone
  cases completes with
  | given o v responds completed left =>
    rw [responds] at fades
    rw [left]
    exact fades fun o' same => by
      cases same
      exact completed
  | broken f v responds other left =>
    rw [responds] at fades
    exact (fades fun o same => by cases same).trans left.fades

/-! ## Where there was something to resume -/

/-- What has become of the session when the answer is there or has broken down: it was hidden and is left
alone; or it was read, and there was an attempt to clear the conversation, or a failure came first. -/
inductive Responded (conv : String) (w : World) : Except Failure Outcome × World → Prop
  | untouched (r : Except Failure Outcome) (v : World) (hides : w.HidesSession)
    (same : v.store.sessionsOf conv = w.store.sessionsOf conv) : Responded conv w (r, v)
  | tried (r : Except Failure Outcome) (v : World) (shows : ¬ w.HidesSession)
    (left : LeftByClear conv w v.store) : Responded conv w (r, v)
  | fails (f : Failure) (v : World) (shows : ¬ w.HidesSession) (same : v.store = w.store)
    (spares : w.Spares v) : Responded conv w (.error f, v)

theorem respond_responded (reachable : w.IsReachable) (alone : w.IsAlone)
    (there : seen w.store m.conversationId w.now ≠ .ok none)
    (ends : ∀ o, ((i.respond m).run w).1 = .ok o → o.completed = true)
    (other : ∀ f, ((i.respond m).run w).1 = .error f → ¬ f.IsConflict) :
    Responded m.conversationId w ((i.respond m).run w) := by
  by_cases hides : w.HidesSession
  · obtain ⟨v, peeks, resumed⟩ := resume_of_hides reachable hides m.conversationId
    have spent := peeks.looks.spends
    have anew := sessions_anew (i := i) (spent.isReachable reachable) (spent.isAlone alone) resumed
    generalize (i.respond m).run w = r at anew
    obtain ⟨result, u⟩ := r
    refine .untouched result u hides ?_
    rw [peeks.looks.store alone] at anew
    rcases anew with same | ⟨absent, -⟩
    · exact congrArg (List.filter _) same
    · exact absurd (by rw [seen, absent]) there
  have spent := spends_resume m.conversationId w
  have resumes := resume_of_shows reachable alone hides there
  generalize resumed : (resume m.conversationId).run w = r at spent resumes
  have reachable' := spent.isReachable reachable
  have alone' := spent.isAlone alone
  cases resumes with
  | givenUp v u peeks clears =>
    obtain ⟨x, clears', left⟩ := Keeping.leftByClear_of_clear
      (peeks.looks.spends.isReachable reachable) (peeks.looks.spends.isAlone alone) m.conversationId
    cases clears.symm.trans clears'
    have left' := left.of_spares (peeks.looks.store alone) peeks.spares
    have anew := sessions_anew (i := i) reachable' alone' resumed
    generalize (i.respond m).run w = r at anew ends
    obtain ⟨result, y⟩ := r
    refine .tried result y hides (left'.of_sessionsOf ?_)
    rcases anew with same | ⟨-, o, run, idle⟩
    · exact congrArg (List.filter _) same
    · exact absurd (idle.symm.trans (ends o run)) Bool.false_ne_true
  | fails f v peeks =>
    rw [respond, run_bind, resumed]
    exact .fails f v hides (peeks.looks.store alone) peeks.spares
  | resumed c d v sight peeks =>
    have responds : (i.respond m).run w = (i.proceed m c d).run v := by
      rw [respond, run_bind, resumed]
    have proceeds := proceed_cases reachable' alone' i m c d
    have store := peeks.looks.store alone
    rw [responds] at ends other ⊢
    generalize (i.proceed m c d).run v = r at proceeds ends other
    cases proceeds with
    | ended o u left => exact .tried _ u hides (left.of_spares store peeks.spares)
    | goesOn o u waits => exact absurd (waits.symm.trans (ends o rfl)) Bool.false_ne_true
    | fails f u same reason =>
      have spares := reason.resolve_left (other f rfl)
      exact .fails f u hides (same.trans store) fun a c writes =>
        (spares a c writes).trans (peeks.spares a c writes)

/-- An attempt to clear a conversation in which there was something to resume leaves nothing to resume
exactly if it has an effect. -/
theorem isAbsent_leftByClear {s : Store} {now : Moment} (left : LeftByClear conv w s)
    (keyed : w.store.IsKeyed conv) (there : ¬ IsAbsent w.store conv now) :
    IsAbsent s conv now ↔ w.Clears := by
  constructor
  · intro absent
    by_cases clears : w.Clears
    · exact clears
    · exact absurd ((Keeping.isAbsent_congr (left.vain clears)).mp absent) there
  · intro clears
    exact Keeping.isAbsent_iff.mpr (Keeping.seen_of_isOver (left.ends keyed clears))

/-- Let faults strike any access but the creation of a client, let nobody else write, and let the
conversation have one session at most. After an answer that completes the conversation there is nothing to
resume exactly if there was nothing before, or the session is read and the attempt to clear it has an
effect, or the answer breaks down and the attempt that its excuse makes has one. -/
theorem finished_iff (i : Interpreter) (m : Inbound) (w : World) (reachable : w.IsReachable)
    (alone : w.IsAlone) (keyed : w.store.IsKeyed m.conversationId)
    (completed : (i.process m w).1.completed = true) :
    IsAbsent (i.process m w).2.store m.conversationId w.now ↔
      IsAbsent w.store m.conversationId w.now ∨
      (¬ w.HidesSession ∧ w.Clears) ∨
      (Breaks i m w ∧ ((i.respond m).run w).2.Clears) := by
  have completes := completes_of_completed reachable alone completed
  by_cases absent : IsAbsent w.store m.conversationId w.now
  · have nothing : IsAbsent (i.process m w).2.store m.conversationId w.now :=
      Keeping.isAbsent_iff.mpr (Keeping.seen_of_fades (completes.fades reachable alone) keyed
        (Keeping.isAbsent_iff.mp absent))
    exact ⟨fun _ => .inl absent, fun _ => nothing⟩
  have there : seen w.store m.conversationId w.now ≠ .ok none := mt Keeping.isAbsent_iff.mpr absent
  -- A session that is as it was can still be resumed, so only the attempt that follows matters.
  have still {v : World} {s : Store} (same : v.store.sessionsOf m.conversationId
      = w.store.sessionsOf m.conversationId) (left : LeftByClear m.conversationId v s) :
      IsAbsent s m.conversationId w.now ↔ v.Clears :=
    isAbsent_leftByClear left (by rw [Store.IsKeyed, same]; exact keyed)
      (mt (Keeping.isAbsent_congr same).mp absent)
  have responded := respond_responded (i := i) reachable alone there
  cases completes with
  | given o v responds completed left =>
    have whole : ¬ Breaks i m w := by
      rintro ⟨f, fails, -⟩
      rw [responds] at fails
      cases fails
    rw [responds] at responded
    rw [left]
    cases responded (fun o' same => by cases same; exact completed) (fun f same => by cases same) with
    | untouched _ _ hides same => simp [Keeping.isAbsent_congr same, absent, hides, whole]
    | tried _ _ shows left' => simp [isAbsent_leftByClear left' keyed absent, absent, shows, whole]
  | broken f v responds other left =>
    have breaks : Breaks i m w := ⟨f, by rw [responds], other⟩
    rw [responds] at responded ⊢
    cases responded (fun o same => by cases same) (fun g same => by cases same; exact other) with
    | untouched _ _ hides same => simp [still same left, absent, hides, breaks]
    | fails _ _ shows same spares =>
      have same' := congrArg (Store.sessionsOf · m.conversationId) same
      simp [still same' left, absent, shows, breaks, spares.clears_iff]
    | tried _ _ shows left' =>
      by_cases clears : w.Clears
      · have ended := left.fades.isOver (left'.ends keyed clears)
        simp [Keeping.isAbsent_iff.mpr (Keeping.seen_of_isOver ended), shows, clears]
      · simp [still (left'.vain clears) left, absent, shows, clears, breaks]

end Interpreter

namespace Sample

open Interpreter

/-- The world of the small bot at the question, where sessions cannot be marked at once. -/
def unmarkable : World := { world [session] with faults := [failing .updateOne .sessions] }

/-- The world of the small bot at the question, where sessions cannot be removed at once. -/
def unremovable : World := { world [session] with faults := [failing .deleteOne .sessions] }

/-- The name ends the flow. The session cannot be removed, but it is marked as completed. -/
theorem finished_unremovable :
    ((interpreter 24).process (message "Ann") unremovable).1.completed = true ∧
      Keeping.IsAbsent ((interpreter 24).process (message "Ann") unremovable).2.store "chat" noon := by
  have completed : ((interpreter 24).process (message "Ann") unremovable).1.completed = true := by
    decide +kernel
  have reachable : unremovable.IsReachable := isReachable_of_failing rfl (by decide)
  have alone : unremovable.IsAlone := isAlone_of_failing rfl
  have shows : ¬ unremovable.HidesSession := fun hides => World.hidesSession_iff.mp hides rfl
  refine ⟨completed, ?_⟩
  exact (finished_iff (interpreter 24) (message "Ann") unremovable reachable alone (Nat.le_refl 1)
    completed).mpr (.inr (.inl ⟨shows, .inl rfl⟩))

/-- The name ends the flow, and one failure to mark the session leaves it to be resumed, though it could
have been removed. -/
theorem finished_and_resumed :
    ¬ ∀ (i : Interpreter) (m : Inbound) (w : World),
      w.IsReachable → w.IsAlone → w.store.IsKeyed m.conversationId →
      (∀ f ∈ w.faults, f.collection = some .sessions) →
      (w.meets .updateOne .sessions = .ok false ∨ w.meets .deleteOne .sessions = .ok false) →
      (i.process m w).1.completed = true →
      Keeping.IsAbsent (i.process m w).2.store m.conversationId w.now := by
  intro finished
  have reachable : unmarkable.IsReachable := isReachable_of_failing rfl (by decide)
  have alone : unmarkable.IsAlone := isAlone_of_failing rfl
  have sessions : ∀ f ∈ unmarkable.faults, f.collection = some .sessions := by
    intro f here
    rw [List.mem_singleton.mp here]
    rfl
  have completed : ((interpreter 24).process (message "Ann") unmarkable).1.completed = true := by
    decide +kernel
  have absent := finished (interpreter 24) (message "Ann") unmarkable reachable alone (Nat.le_refl 1)
    sessions (.inr rfl) completed
  have there : ((Keeping.seen ((interpreter 24).process (message "Ann") unmarkable).2.store "chat"
      noon).toOption.join).isSome = true := by decide +kernel
  rw [show Keeping.seen _ "chat" noon = .ok none from Keeping.isAbsent_iff.mp absent] at there
  cases there

end Sample

end ChatFlow
