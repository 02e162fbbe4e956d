import ChatFlow.Proofs.Conversation.Saving

/-!
What clearing a conversation leaves when its writes may fail.

Clearing marks the session as completed and then removes it. Either write alone is enough for the session
not to be resumed, but a mark that fails ends the attempt, and the removal is not tried. So clearing has an
effect exactly if the mark is made, or if it finds nothing and the removal is made (`World.Clears`); what
it leaves in each case is `World.afterClear`.

The second section is about what may happen to the session of a conversation on the way to an answer that
saves nothing: it is left, marked or removed (`Store.Fades`). A conversation in which there was nothing to
resume stays one (`Keeping.seen_of_fades`), and one whose session is completed stays completed
(`Store.Fades.isOver`).
-/

namespace ChatFlow

/-! ## What is left of a conversation -/

namespace Store

variable {s t u : Store} {conv : String}

/-- All that the conversation has are sessions that are completed. -/
def IsOver (s : Store) (conv : String) : Prop :=
  ∀ doc ∈ s.sessionsOf conv, doc.lookup "status" = some (.text Session.completed)

/-- Of the sessions of the conversation some are gone and some are completed; the others are as they
were. -/
def Fades (conv : String) (s t : Store) : Prop :=
  ∀ doc ∈ t.sessionsOf conv,
    doc ∈ s.sessionsOf conv ∨ doc.lookup "status" = some (.text Session.completed)

theorem Fades.of_sessions (same : t.sessionsOf conv = s.sessionsOf conv) : Fades conv s t :=
  fun _ here => .inl (same ▸ here)

theorem Fades.trans (first : Fades conv s t) (second : Fades conv t u) : Fades conv s u := by
  intro doc here
  rcases second doc here with old | completed
  · exact first doc old
  · exact .inr completed

theorem Fades.isOver (h : Fades conv s t) (ended : s.IsOver conv) : t.IsOver conv := by
  intro doc here
  rcases h doc here with old | completed
  · exact ended doc old
  · exact completed

theorem isOver_of_nil (none : s.sessionsOf conv = []) : s.IsOver conv := by
  intro doc here
  rw [none] at here
  cases here

theorem lookup_status_completed (now : Moment) (doc : Entries) :
    (completed now doc).lookup "status" = some (.text Session.completed) := by
  have once : (([("status", .text Session.completed), ("last_activity_at", .date now)] : Entries).map
      Prod.fst).Nodup := by simp
  exact Entries.lookup_update_of_lookup once doc rfl

theorem fades_marked (s : Store) (now : Moment) (conv : String) : Fades conv s (s.marked now conv) := by
  intro doc here
  rw [sessionsOf_marked] at here
  rcases Documents.mem_modifyFirst here with old | ⟨was, -, rfl⟩
  · exact .inl old
  · exact .inr (lookup_status_completed now was)

theorem fades_cleared (s : Store) (conv : String) : Fades conv s (s.cleared conv) := by
  intro doc here
  rw [sessionsOf_cleared] at here
  exact .inl (Documents.mem_of_mem_removeFirst here)

/-- The one session of a conversation is completed by its mark. -/
theorem IsKeyed.isOver_marked (keyed : s.IsKeyed conv) (now : Moment) :
    (s.marked now conv).IsOver conv := by
  intro doc here
  rw [sessionsOf_marked] at here
  rcases Documents.mem_modifyFirst here with old | ⟨was, -, rfl⟩
  · have one := keyed.sessionsOf_eq_of_mem old
    rw [one, Documents.modifyFirst_singleton (holdsAll_of_sessionsOf one), List.mem_singleton] at here
    rw [here]
    exact lookup_status_completed now doc
  · exact lookup_status_completed now was

end Store

namespace Keeping

variable {s t : Store} {conv : String} {now : Moment}

/-- What is seen depends on the sessions of the conversation only. -/
theorem seen_congr (same : t.session? conv = s.session? conv) : seen t conv now = seen s conv now := by
  rw [seen, seen, same]

/-- A session that is completed is not resumed. -/
theorem seen_of_completed {doc : Entries} (stored : s.session? conv = some doc)
    (completed : doc.lookup "status" = some (.text Session.completed)) : seen s conv now = .ok none := by
  rw [seen, stored]
  dsimp only
  cases text : doc.withIdText? with
  | error e => rfl
  | ok es =>
    dsimp only
    cases read : readSession? now es with
    | error e => rfl
    | ok pair =>
      obtain ⟨session, history⟩ := pair
      have parts := Session.read_eq_valid_iff.mp (read_of_readSession? read)
      have shown := (Entries.lookup_of_withIdText? text (by decide) (by decide)).trans completed
      have status : session.status = Session.completed :=
        Schema.Checked.valid.inj (parts.status.symm.trans (Schema.defaulted_of_lookup shown rfl))
      have unresumable : isResumable? now session = .ok false := by
        rw [isResumable?, status]
        rfl
      dsimp only
      rw [unresumable]
      rfl

theorem seen_of_isOver (ended : s.IsOver conv) : seen s conv now = .ok none := by
  cases stored : s.session? conv with
  | none => rw [seen, stored]
  | some doc =>
    rw [Store.session?_eq_head?] at stored
    exact seen_of_completed (Store.session?_eq_head?.trans stored) (ended doc (List.mem_of_head? stored))

/-- Where there is nothing to resume, nothing fades into something to resume. -/
theorem seen_of_fades (fades : Store.Fades conv s t) (keyed : s.IsKeyed conv)
    (nothing : seen s conv now = .ok none) : seen t conv now = .ok none := by
  cases stored : t.session? conv with
  | none => rw [seen, stored]
  | some doc =>
    have here := stored
    rw [Store.session?_eq_head?] at here
    rcases fades doc (List.mem_of_head? here) with old | completed
    · rw [seen_congr (stored.trans (Store.session?_of_sessionsOf (keyed.sessionsOf_eq_of_mem old)).symm)]
      exact nothing
    · exact seen_of_completed stored completed

end Keeping

/-! ## Clearing -/

namespace World

/-- An attempt to clear a conversation has an effect: the session is marked, or the mark finds none and
the removal does. -/
def Clears (w : World) : Prop :=
  w.meets .updateOne .sessions = .ok false ∨
    w.meets .updateOne .sessions = .ok true ∧ w.meets .deleteOne .sessions = .ok false

/-- The store after an attempt to clear a conversation. -/
def afterClear (w : World) (conv : String) : Store :=
  match w.meets .updateOne .sessions, w.meets .deleteOne .sessions with
  | .error _, _ => w.store
  | .ok _, .ok false => w.store.cleared conv
  | .ok false, _ => w.store.marked w.now conv
  | .ok true, _ => w.store

variable {w v : World} {conv : String}

theorem Spares.clears_iff (h : w.Spares v) : v.Clears ↔ w.Clears := by
  rw [Clears, Clears, h .updateOne .sessions rfl, h .deleteOne .sessions rfl]

theorem fades_afterClear (w : World) (conv : String) : Store.Fades conv w.store (w.afterClear conv) := by
  unfold afterClear
  split
  · exact .of_sessions rfl
  · exact Store.fades_cleared w.store conv
  · exact Store.fades_marked w.store w.now conv
  · exact .of_sessions rfl

/-- An attempt that has an effect leaves no session, or a completed one. -/
theorem isOver_afterClear (keyed : w.store.IsKeyed conv) (clears : w.Clears) :
    (w.afterClear conv).IsOver conv := by
  have gone : (w.store.cleared conv).IsOver conv := Store.isOver_of_nil keyed.sessionsOf_cleared
  have marked := keyed.isOver_marked w.now
  unfold Clears at clears
  unfold afterClear
  generalize w.meets .updateOne .sessions = marks at clears ⊢
  generalize w.meets .deleteOne .sessions = removes at clears ⊢
  rcases clears with rfl | ⟨rfl, rfl⟩
  · rcases removes with cause | _ | _
    · exact marked
    · exact gone
    · exact marked
  · exact gone

/-- An attempt without an effect leaves the store as it was. -/
theorem afterClear_of_not_clears (vain : ¬ w.Clears) : w.afterClear conv = w.store := by
  unfold Clears at vain
  unfold afterClear
  generalize w.meets .updateOne .sessions = marks at vain ⊢
  generalize w.meets .deleteOne .sessions = removes at vain ⊢
  rcases marks with cause | _ | _
  · rfl
  · exact absurd (.inl rfl) vain
  · rcases removes with cause | _ | _
    · rfl
    · exact absurd (.inr ⟨rfl, rfl⟩) vain
    · rfl

end World

namespace Operation

variable {w : World} {conv : String}

/-- What becomes of a mark. -/
theorem completeSession_of_meets (reachable : w.IsReachable) (alone : w.IsAlone) (conv : String) :
    ∃ v, w.Looks v ∧ (∀ b c, .updateOne ≠ b → v.meets b c = w.meets b c) ∧
      (completeSession conv).run w = match w.meets .updateOne .sessions with
        | .error cause => (.error (storageFailure cause), v.noted .error storeComponent)
        | .ok true => (.ok (), v)
        | .ok false => (.ok (), v.withStore (w.store.marked w.now conv)) := by
  obtain ⟨v, looks, others, run⟩ := write_of_meets (w := w.joined) alone .updateOne .sessions ()
    (Store.completeSession w.now conv)
  have met : w.joined.meets .updateOne .sessions = w.meets .updateOne .sessions := rfl
  refine ⟨v, (World.Looks.joined w).trans looks, others, ?_⟩
  rw [completeSession, run_bind, connect_run reachable]
  dsimp only
  rw [orStorageFailure_run, run_bind, run_now]
  dsimp only
  rw [World.joined_now, run, met]
  rcases w.meets .updateOne .sessions with cause | _ | _ <;> rfl

/-- What becomes of a removal. -/
theorem deleteSession_of_meets (reachable : w.IsReachable) (alone : w.IsAlone) (conv : String) :
    ∃ v, w.Looks v ∧ (deleteSession conv).run w = match w.meets .deleteOne .sessions with
      | .error cause => (.error (storageFailure cause), v.noted .error storeComponent)
      | .ok true => (.ok (), v)
      | .ok false => (.ok (), v.withStore (w.store.cleared conv)) := by
  obtain ⟨v, looks, -, run⟩ := write_of_meets (w := w.joined) alone .deleteOne .sessions ()
    (Store.deleteSession conv)
  have met : w.joined.meets .deleteOne .sessions = w.meets .deleteOne .sessions := rfl
  refine ⟨v, (World.Looks.joined w).trans looks, ?_⟩
  rw [deleteSession, run_bind, connect_run reachable]
  dsimp only
  rw [orStorageFailure_run, run, met]
  rcases w.meets .deleteOne .sessions with cause | _ | _ <;> rfl

end Operation

namespace Keeping

open Operation (run_bind run_attempt)

variable {w : World} {conv : String}

/-- After a mark that did not fail, the removal is tried. -/
theorem clear_of_marked {x : World} (marks : (Operation.completeSession conv).run w = (.ok (), x))
    (reachable : x.IsReachable) (alone : x.IsAlone) :
    ∃ v, (clear conv).run w = (.ok (), v) ∧ v.store = match x.meets .deleteOne .sessions with
      | .ok false => x.store.cleared conv
      | _ => x.store := by
  obtain ⟨u, looks, removes⟩ := Operation.deleteSession_of_meets reachable alone conv
  have same := looks.store alone
  rw [clear, run_bind, run_attempt, run_bind, marks]
  dsimp only
  rw [removes]
  rcases x.meets .deleteOne .sessions with cause | _ | _
  · refine ⟨(u.noted .error Operation.storeComponent).noted .error component, ?_, same⟩
    dsimp only
    rw [isStorage_storageFailure]
    rfl
  · exact ⟨_, rfl, rfl⟩
  · exact ⟨u, rfl, same⟩

/-- Clearing never fails, whatever becomes of its writes. -/
theorem clear_of_meets (reachable : w.IsReachable) (alone : w.IsAlone) (conv : String) :
    ∃ v, (clear conv).run w = (.ok (), v) ∧ v.store = w.afterClear conv := by
  obtain ⟨u, looks, others, marks⟩ := Operation.completeSession_of_meets reachable alone conv
  have met : u.meets .deleteOne .sessions = w.meets .deleteOne .sessions := others _ _ (by decide)
  have same := looks.store alone
  have reachable' := looks.spends.isReachable reachable
  have alone' := looks.spends.isAlone alone
  rw [World.afterClear]
  rcases marked : w.meets .updateOne .sessions with cause | _ | _ <;> rw [marked] at marks
  · refine ⟨(u.noted .error Operation.storeComponent).noted .error component, ?_, same⟩
    rw [clear, run_bind, run_attempt, run_bind, marks]
    dsimp only
    rw [isStorage_storageFailure]
    rfl
  · obtain ⟨v, run, left⟩ := clear_of_marked marks reachable' alone'
    have met' : (u.withStore (w.store.marked w.now conv)).meets .deleteOne .sessions
        = w.meets .deleteOne .sessions := met
    rw [met', World.withStore_store] at left
    refine ⟨v, run, left.trans ?_⟩
    rcases w.meets .deleteOne .sessions with cause | _ | _
    · rfl
    · exact Store.cleared_marked w.now
    · rfl
  · obtain ⟨v, run, left⟩ := clear_of_marked marks reachable' alone'
    rw [met, same] at left
    refine ⟨v, run, left.trans ?_⟩
    rcases w.meets .deleteOne .sessions with cause | _ | _ <;> rfl

/-- What an attempt to clear a conversation leaves of it. -/
structure LeftByClear (conv : String) (w : World) (s : Store) : Prop where
  fades : Store.Fades conv w.store s
  ends : w.store.IsKeyed conv → w.Clears → s.IsOver conv
  vain : ¬ w.Clears → s.sessionsOf conv = w.store.sessionsOf conv

theorem leftByClear_of_clear (reachable : w.IsReachable) (alone : w.IsAlone) (conv : String) :
    ∃ v, (clear conv).run w = (.ok (), v) ∧ LeftByClear conv w v.store := by
  obtain ⟨v, run, left⟩ := clear_of_meets reachable alone conv
  refine ⟨v, run, ?_⟩
  rw [left]
  exact ⟨w.fades_afterClear conv, World.isOver_afterClear, fun vain => by
    rw [World.afterClear_of_not_clears vain]⟩

/-- What an attempt leaves depends on the store that it finds, and on what its writes meet. -/
theorem LeftByClear.of_spares {v : World} {s : Store} (h : LeftByClear conv v s)
    (same : v.store = w.store) (spares : w.Spares v) : LeftByClear conv w s where
  fades := same ▸ h.fades
  ends keyed clears := h.ends (same ▸ keyed) (spares.clears_iff.mpr clears)
  vain vain := by
    rw [h.vain (mt spares.clears_iff.mp vain), same]

theorem LeftByClear.of_sessionsOf {s t : Store} (h : LeftByClear conv w s)
    (same : t.sessionsOf conv = s.sessionsOf conv) : LeftByClear conv w t where
  fades := h.fades.trans (.of_sessions same)
  ends keyed clears := (Store.Fades.of_sessions same).isOver (h.ends keyed clears)
  vain vain := same.trans (h.vain vain)

/-! ## Loading -/

/-- A session that cannot be used is removed, unless a fault strikes the removal. -/
theorem fades_discarded (reachable : w.IsReachable) (alone : w.IsAlone) (conv : String) :
    Store.Fades conv w.store ((discarded conv).run w).2.store := by
  obtain ⟨u, looks, removes⟩ := Operation.deleteSession_of_meets reachable alone conv
  have same : Store.Fades conv w.store u.store := by
    rw [looks.store alone]
    exact .of_sessions rfl
  rw [discarded, run_bind, discard, run_bind, run_attempt, removes]
  rcases w.meets .deleteOne .sessions with cause | _ | _
  · dsimp only
    rw [isStorage_storageFailure]
    exact same
  · exact Store.fades_cleared w.store conv
  · exact same

/-- A load leaves the session of its conversation, or removes it. -/
theorem fades_load (reachable : w.IsReachable) (alone : w.IsAlone) (conv : String) :
    Store.Fades conv w.store ((load conv).run w).2.store := by
  have sought := Operation.getSession_cases conv w
  rw [load_eq]
  generalize (Operation.getSession conv).run w = r at sought
  have unchanged {v : World} (looks : w.Looks v) : Store.Fades conv w.store v.store := by
    rw [looks.store alone]
    exact .of_sessions rfl
  cases sought with
  | nothing v looks => exact unchanged looks
  | fails f v looks passed =>
    dsimp only
    split
    · exact unchanged (looks.trans (.of_same rfl rfl rfl))
    · exact unchanged looks
  | found doc es v looks stored text =>
    have reachable' := looks.spends.isReachable reachable
    have alone' := looks.spends.isAlone alone
    dsimp only
    cases readSession? v.now es with
    | error e =>
      exact (unchanged looks).trans
        (fades_discarded (w := v.noted .error component) reachable' alone' conv)
    | ok pair =>
      dsimp only
      rcases isResumable? v.now pair.1 with f | _ | _
      · exact unchanged looks
      · exact (unchanged looks).trans (fades_discarded reachable' alone' conv)
      · exact unchanged looks

end Keeping

end ChatFlow
