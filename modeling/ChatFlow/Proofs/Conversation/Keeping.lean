import ChatFlow.Proofs.Conversation.Record

/-!
Loading, saving and clearing in a quiet world.

Where no fault waits, each of the three is a function of the store. Clearing comes to a removal: that
the session is marked as completed first makes no difference to the store that is left. A save is an
insertion for a context that was never stored and a conditional update for every other one, and a load
either finds nothing, or finds a context, or removes a session that cannot be used.
-/

namespace ChatFlow

namespace Store

/-- The store without the session of a conversation. -/
def cleared (s : Store) (conv : String) : Store :=
  s.change .sessions (Documents.removeFirst (sessionOf conv))

/-- The document of a session marked as completed. -/
def completed (now : Moment) (doc : Entries) : Entries :=
  Entries.update doc [("status", .text Session.completed), ("last_activity_at", .date now)]

/-- The store with the session of a conversation marked as completed. -/
def marked (s : Store) (now : Moment) (conv : String) : Store :=
  s.change .sessions (Documents.modifyFirst (sessionOf conv) (completed now))

/-- The store with one more session. -/
def added (s : Store) (doc : Entries) : Store :=
  s.change .sessions (· ++ [doc])

/-- The store with the session of a conversation that has a sequence number advanced. -/
def saved (s : Store) (conv : String) (n : Int) (fields : Entries) : Store :=
  s.change .sessions (Documents.modifyFirst (sessionAt conv n) (advanced fields))

variable {s : Store} {conv : String} {doc : Entries}

theorem lookup_completed {key : String} (now : Moment) (status : key ≠ "status")
    (activity : key ≠ "last_activity_at") : (completed now doc).lookup key = doc.lookup key :=
  Entries.lookup_update_of_notMem _ (by simp [status, activity])

theorem holdsAll_sessionOf_completed (now : Moment) (d : Entries) :
    (completed now d).holdsAll (sessionOf conv) = d.holdsAll (sessionOf conv) :=
  holdsAll_sessionOf_update (by simp)

@[simp] theorem cleared_marked (now : Moment) : (s.marked now conv).cleared conv = s.cleared conv := by
  have same : Documents.removeFirst (sessionOf conv)
      (Documents.modifyFirst (sessionOf conv) (completed now) s.sessions) = _ :=
    Documents.removeFirst_modifyFirst (fun d h => (holdsAll_sessionOf_completed now d).trans h) _
  show ({ s with sessions := _ } : Store) = { s with sessions := _ }
  rw [← same]
  rfl

/-- Clearing changes the store exactly if the conversation has a session. -/
theorem cleared_eq_self_iff : s.cleared conv = s ↔ s.session? conv = none := by
  rw [session?, ← Documents.removeFirst_eq_self_iff]
  constructor
  · exact fun same => congrArg Store.sessions same
  · intro same
    show ({ s with sessions := Documents.removeFirst (sessionOf conv) s.sessions } : Store) = s
    rw [same]

/-! ### The sessions that are left -/

theorem sessionsOf_cleared : (s.cleared conv).sessionsOf conv =
    Documents.removeFirst (sessionOf conv) (s.sessionsOf conv) :=
  sessionsOf_change_removeFirst fun _ h => h

/-- Clearing a conversation with one session at most leaves none. -/
theorem IsKeyed.sessionsOf_cleared (keyed : s.IsKeyed conv) :
    (s.cleared conv).sessionsOf conv = [] := by
  rw [Store.sessionsOf_cleared]
  unfold IsKeyed at keyed
  match found : s.sessionsOf conv with
  | [] => rfl
  | [d] => exact Documents.removeFirst_singleton (holdsAll_of_sessionsOf found)
  | _ :: _ :: _ => simp [found] at keyed

theorem sessionsOf_marked (now : Moment) : (s.marked now conv).sessionsOf conv =
    Documents.modifyFirst (sessionOf conv) (completed now) (s.sessionsOf conv) :=
  sessionsOf_change_modifyFirst fun d h => ⟨h, (holdsAll_sessionOf_completed now d).trans h⟩

theorem sessionsOf_added (h : doc.holdsAll (sessionOf conv) = true) :
    (s.added doc).sessionsOf conv = s.sessionsOf conv ++ [doc] := by
  rw [added, sessionsOf_change_append, h, if_pos rfl]

/-- A save changes the document of the conversation that has the sequence number. -/
theorem sessionsOf_saved {n : Int} {fields : Entries}
    (other : "conversation_id" ∉ fields.map Prod.fst) :
    (s.saved conv n fields).sessionsOf conv =
      Documents.modifyFirst (sessionAt conv n) (advanced fields) (s.sessionsOf conv) := by
  refine sessionsOf_change_modifyFirst fun d holds => ?_
  have of : d.holdsAll (sessionOf conv) = true := (holdsAll_sessionAt.mp holds).1
  exact ⟨of, (holdsAll_sessionOf_advanced other).trans of⟩

/-- A save turns the one session of a conversation into the advanced one. -/
theorem sessionsOf_saved_of_holds {n : Int} {fields : Entries} (h : s.sessionsOf conv = [doc])
    (other : "conversation_id" ∉ fields.map Prod.fst)
    (found : doc.holds "sequence" (.int n) = true) :
    (s.saved conv n fields).sessionsOf conv = [advanced fields doc] := by
  have here : doc.holdsAll (sessionAt conv n) = true :=
    holdsAll_sessionAt.mpr ⟨holdsAll_of_sessionsOf h, found⟩
  rw [sessionsOf_saved other, h, Documents.modifyFirst_singleton here]

theorem sessionsOf_saved_singleton {n : Int} {fields : Entries} (h : s.sessionsOf conv = [doc])
    (other : "conversation_id" ∉ fields.map Prod.fst)
    (sequence : doc.lookup "sequence" = some (.int n)) :
    (s.saved conv n fields).sessionsOf conv = [advanced fields doc] :=
  sessionsOf_saved_of_holds h other
    ((Entries.holds_int_of_lookup sequence).trans (beq_self_eq_true n))

end Store

namespace World

/-- The world after a conversation was cleared. -/
def cleared (w : World) (conv : String) : World :=
  w.joined.withStore (w.store.cleared conv)

end World

namespace Keeping

variable {w : World} {conv : String}

open Operation (run_bind run_attempt run_pure run_ofExcept run_now)

/-- A failure that the store passes on is one of the store. -/
theorem isStorage_storageFailure (cause : Failure) :
    isStorage (Operation.storageFailure cause) = true := by
  unfold Operation.storageFailure
  split <;> rfl

/-! ## Clearing -/

theorem complete_run (h : w.LetsWrite) :
    (Operation.completeSession conv).run w
      = (.ok (), w.joined.withStore (w.store.marked w.now conv)) :=
  Operation.completeSession_run h conv

/-- Removing a session that was marked leaves what clearing leaves. -/
theorem delete_run_of_marked (h : w.LetsWrite) (t : Moment) :
    (Operation.deleteSession conv).run (w.joined.withStore (w.store.marked t conv))
      = (.ok (), w.cleared conv) := by
  have writes : (w.joined.withStore (w.store.marked t conv)).LetsWrite := h
  have store : (w.store.marked t conv).cleared conv = w.store.cleared conv := Store.cleared_marked t
  rw [Store.cleared] at store
  rw [Operation.deleteSession_run writes, World.withStore_store, store]
  rfl

theorem clear_run (h : w.LetsWrite) : (clear conv).run w = (.ok (), w.cleared conv) := by
  rw [clear, run_bind, run_attempt, run_bind, complete_run h]
  dsimp only
  rw [delete_run_of_marked h]
  rfl

theorem discard_run (h : w.LetsWrite) : (discard conv).run w = (.ok (), w.cleared conv) := by
  rw [discard, run_bind, run_attempt, Operation.deleteSession_run h]
  rfl

/-! ## Loading -/

/-- Removes a session that cannot be used; then there is no context. -/
def discarded (conv : String) : Operation (Option Context) := do
  discard conv
  return none

theorem discarded_run (h : w.LetsWrite) : (discarded conv).run w = (.ok none, w.cleared conv) := by
  rw [discarded, run_bind, discard_run h]
  rfl

/-- What loading does with the document that was sought. -/
theorem load_eq (conv : String) (w : World) :
    (load conv).run w = match (Operation.getSession conv).run w with
      | (.error f, v) =>
        if isStorage f then (.ok none, v.noted .error component) else (.error f, v)
      | (.ok none, v) => (.ok none, v)
      | (.ok (some doc), v) =>
        match readSession? v.now doc with
        | .error _ => (discarded conv).run (v.noted .error component)
        | .ok (session, history) =>
          match isResumable? v.now session with
          | .error f => (.error f, v)
          | .ok true => (.ok (some (.ofSession session history)), v)
          | .ok false => (discarded conv).run v := by
  rw [load, run_bind, run_attempt]
  rcases (Operation.getSession conv).run w with ⟨f | _ | doc, v⟩
  · dsimp only
    cases isStorage f <;> rfl
  · rfl
  · dsimp only
    rw [run_bind, run_now]
    dsimp only
    cases readSession? v.now doc with
    | error e =>
      dsimp only
      rw [run_bind, Operation.run_reportError]
      rfl
    | ok read =>
      obtain ⟨session, history⟩ := read
      dsimp only
      rw [run_bind, run_now]
      dsimp only
      rw [run_bind, run_ofExcept]
      cases isResumable? v.now session with
      | error f => rfl
      | ok resumable => cases resumable <;> rfl

/-- What loading gives in a quiet world, and what it leaves. -/
theorem load_run (h : w.IsQuiet) :
    (load conv).run w = match w.store.session? conv with
      | none => (.ok none, w.joined)
      | some doc =>
        match doc.withIdText? with
        | .error _ =>
          (.ok none, (w.joined.noted .error Operation.storeComponent).noted .error component)
        | .ok doc =>
          match readSession? w.now doc with
          | .error _ => (.ok none, (w.noted .error component).cleared conv)
          | .ok (session, history) =>
            match isResumable? w.now session with
            | .error f => (.error f, w.joined)
            | .ok true => (.ok (some (.ofSession session history)), w.joined)
            | .ok false => (.ok none, w.cleared conv) := by
  have writes : (w.joined.noted .error component).LetsWrite := h.letsWrite
  have writes' : w.joined.LetsWrite := h.letsWrite
  rw [load_eq, Operation.getSession_run h]
  cases w.store.session? conv with
  | none => rfl
  | some doc =>
    dsimp only
    cases doc.withIdText? with
    | error e =>
      dsimp only
      rw [isStorage_storageFailure]
      rfl
    | ok doc =>
      dsimp only
      rw [World.joined_now, discarded_run writes, discarded_run writes']
      rfl

/-- Without a session there is no context. -/
theorem load_run_of_none (h : w.IsQuiet) (absent : w.store.session? conv = none) :
    (load conv).run w = (.ok none, w.joined) := by
  rw [load_run h, absent]

/-! ## Saving -/

section Save

variable {hours : Int} {c : Context} {expiresAt : Moment}

theorem not_conflict_of_expiry? {now : Moment} {f : Failure} (late : expiry? now hours = .error f) :
    ¬ f.IsConflict := by
  rintro ⟨conv, n, rfl⟩
  unfold expiry? at late
  dsimp only at late
  split at late
  · cases late
  · split at late <;> cases late

/-- Without an expiry nothing is written. -/
theorem save_of_expiry_error {f : Failure} (late : expiry? w.now hours = .error f) :
    save hours c w = ((.error f, c), w) := by
  rw [save, StateM.bind_apply, StateM.get_apply]
  dsimp only
  rw [late]
  rfl

theorem save_of_store (timely : expiry? w.now hours = .ok expiresAt) :
    save hours c w = match (store { c with lastActivityAt := w.now } w.now expiresAt).run w with
      | (.ok n, v) => ((.ok true, c.kept n w.now), v)
      | (.error f, v) =>
        if isStorage f then
          ((.ok false, { c with lastActivityAt := w.now }), v.noted .error component)
        else ((.error f, { c with lastActivityAt := w.now }), v) := by
  rw [save, StateM.bind_apply, StateM.get_apply]
  dsimp only
  rw [timely]
  dsimp only
  rw [StateM.bind_apply]
  rcases (store { c with lastActivityAt := w.now } w.now expiresAt).run w with ⟨f | n, v⟩
  · dsimp only
    cases isStorage f <;> rfl
  · rfl

/-- A context that was never stored is inserted if its conversation has no session. -/
theorem store_fresh (h : w.LetsWrite) (now expiresAt : Moment) (fresh : c.sequence = 0) :
    (store c now expiresAt).run w =
      if (w.store.session? c.conversationId).isSome then
        (.error (.conflict c.conversationId 0), w.joined)
      else (.ok 1, w.joined.withStore (w.store.added (c.document 1 now expiresAt))) := by
  have inserted := Operation.insertSession_run h (c.firstSession now expiresAt)
  rw [show (c.firstSession now expiresAt).conversationId = c.conversationId from rfl,
    c.firstSession_toEntries] at inserted
  rw [store, if_pos (by rw [fresh]; rfl), run_bind, inserted]
  cases (w.store.session? c.conversationId).isSome <;> rfl

/-- Every other context is written only into a session with its sequence number. -/
theorem store_stored (h : w.LetsWrite) (now expiresAt : Moment) (stored : c.sequence ≠ 0) :
    (store c now expiresAt).run w =
      match w.store.sessions.find? (Store.sessionAt c.conversationId c.sequence) with
      | none => (.error (.conflict c.conversationId c.sequence), w.joined)
      | some doc =>
        (.ok (Operation.sequenceOf (Store.advanced (c.savedFields now expiresAt) doc)),
          w.joined.withStore
            (w.store.saved c.conversationId c.sequence (c.savedFields now expiresAt))) := by
  have updated := Operation.updateSession_run h c.conversationId c.sequence
    (c.savedFields now expiresAt)
  rw [store, if_neg (by simpa using stored), run_bind, updated]
  cases w.store.sessions.find? (Store.sessionAt c.conversationId c.sequence) <;> rfl

theorem save_fresh (h : w.LetsWrite) (timely : expiry? w.now hours = .ok expiresAt)
    (fresh : c.sequence = 0) :
    save hours c w =
      if (w.store.session? c.conversationId).isSome then
        ((.error (.conflict c.conversationId 0), { c with lastActivityAt := w.now }), w.joined)
      else ((.ok true, c.kept 1 w.now),
        w.joined.withStore (w.store.added (c.document 1 w.now expiresAt))) := by
  rw [save_of_store timely,
    store_fresh (c := { c with lastActivityAt := w.now }) h w.now expiresAt fresh]
  dsimp only
  cases (w.store.session? c.conversationId).isSome <;> rfl

theorem save_stored (h : w.LetsWrite) (timely : expiry? w.now hours = .ok expiresAt)
    (stored : c.sequence ≠ 0) :
    save hours c w =
      match w.store.sessions.find? (Store.sessionAt c.conversationId c.sequence) with
      | none => ((.error (.conflict c.conversationId c.sequence),
          { c with lastActivityAt := w.now }), w.joined)
      | some doc =>
        ((.ok true, c.kept
          (Operation.sequenceOf (Store.advanced (c.savedFields w.now expiresAt) doc)) w.now),
          w.joined.withStore
            (w.store.saved c.conversationId c.sequence (c.savedFields w.now expiresAt))) := by
  rw [save_of_store timely,
    store_stored (c := { c with lastActivityAt := w.now }) h w.now expiresAt stored]
  dsimp only
  cases w.store.sessions.find? (Store.sessionAt c.conversationId c.sequence) <;> rfl

/-- What a save may come to where the conversation has a session: it is too late for an expiry; or the
session does not have the number of the context, which is a conflict; or the session is advanced. -/
inductive Saves (c : Context) (doc : Entries) (w : World) :
    (Except Failure Bool × Context) × World → Prop
  | late (f : Failure) (other : ¬ f.IsConflict) : Saves c doc w ((.error f, c), w)
  | outdated (n : Int) (kept : Context) (missed : c.sequence = 0 ∨
      w.store.sessions.find? (Store.sessionAt c.conversationId c.sequence) = none) :
    Saves c doc w ((.error (.conflict c.conversationId n), kept), w.joined)
  | written (kept : Context) (expiresAt : Moment)
    (found : doc.holds "sequence" (.int c.sequence) = true) :
    Saves c doc w ((.ok true, kept), w.joined.withStore
      (w.store.saved c.conversationId c.sequence (c.savedFields w.now expiresAt)))

theorem save_cases (h : w.LetsWrite) {doc : Entries}
    (one : w.store.sessionsOf c.conversationId = [doc]) (hours : Int) :
    Saves c doc w (save hours c w) := by
  cases timely : expiry? w.now hours with
  | error f =>
    rw [save_of_expiry_error timely]
    exact .late f (not_conflict_of_expiry? timely)
  | ok e =>
    by_cases fresh : c.sequence = 0
    · rw [save_fresh h timely fresh, Store.session?_of_sessionsOf one]
      exact .outdated _ _ (.inl fresh)
    · have sought := Store.find?_sessionAt_singleton c.sequence one
      rw [save_stored h timely fresh, sought]
      by_cases found : doc.holds "sequence" (.int c.sequence) = true
      · rw [if_pos found]
        exact .written _ e found
      · rw [if_neg found] at sought ⊢
        exact .outdated _ _ (.inr sought)

/-- A save lets no fault wait. -/
theorem save_quiet (h : w.IsQuiet) (hours : Int) (c : Context) : (save hours c w).2.IsQuiet := by
  cases timely : expiry? w.now hours with
  | error f =>
    rw [save_of_expiry_error timely]
    exact h
  | ok e =>
    by_cases fresh : c.sequence = 0
    · rw [save_fresh h.letsWrite timely fresh]
      split <;> exact h
    · rw [save_stored h.letsWrite timely fresh]
      split <;> exact h

end Save

end Keeping

end ChatFlow
