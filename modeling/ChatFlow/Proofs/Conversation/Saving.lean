import ChatFlow.Proofs.Conversation.Rereading

/-!
What a save leaves, whatever faults strike.

A save inserts the session of a context that was never stored, advances the session of any other one, or
leaves the store as it is (`Keeping.store_cases`). Its result tells which: it is true only if the context
was written (`Keeping.written_of_save`), and false only if it was not, for which a fault has to strike a
write (`Keeping.store_of_unsaved`). The document that a save leaves holds the context
(`Context.isSavedIn_document`, `Context.isSavedIn_advanced`).
-/

namespace ChatFlow

/-! ## Documents -/

namespace Context

variable {c c₀ : Context} {doc : Entries}

/-- The document holds the context, as far as a save writes it or a resumed run is bound by it. -/
structure IsSavedIn (c : Context) (doc : Entries) : Prop where
  flow : doc.lookup "flow_id" = some (.text c.flowId)
  version : doc.lookup "version_id" = some (.text c.versionId)
  currentNode : doc.lookup "current_node_id" = some (.text c.currentNodeId)
  vars : doc.lookup "variables" = some (.dict c.vars)
  history : doc.lookup "message_history" = some (.list (c.history.map Message.toValue))
  active : doc.lookup "status" = some (.text Session.active)

/-- The sequence number of the document is the next one after that of the context. It is an integer, or a
floating-point number if it was one before. -/
def IsBumpedIn (c : Context) (doc : Entries) : Prop :=
  doc.lookup "sequence" = some (.int (c.sequence + 1)) ∨
    ∃ x, Decimal.whole? x = some c.sequence ∧
      doc.lookup "sequence" = some (.float (x + Float.ofInt 1))

theorem storedHistory_toValue (c : Context) :
    c.storedHistory.map Value.dict = c.history.map Message.toValue := by
  rw [storedHistory, List.map_map]
  rfl

theorem isSavedIn_document (c : Context) (n : Int) (writtenAt expiresAt : Moment) :
    c.IsSavedIn (c.document n writtenAt expiresAt) where
  flow := rfl
  version := rfl
  currentNode := rfl
  vars := rfl
  history := by
    rw [← storedHistory_toValue]
    rfl
  active := rfl

/-- A save writes the context into the document that it was loaded from. -/
theorem isSavedIn_advanced (loaded : c₀.IsLoadedFrom doc) (run : c.Continues c₀)
    (writtenAt expiresAt : Moment) :
    c.IsSavedIn (Store.advanced (c.savedFields writtenAt expiresAt) doc) where
  flow := by
    rw [c.lookup_unsaved writtenAt expiresAt (by decide) (by decide), loaded.flow, run.flowId]
  version := by
    rw [c.lookup_unsaved writtenAt expiresAt (by decide) (by decide), loaded.version, run.versionId]
  currentNode := c.lookup_saved writtenAt expiresAt rfl
  vars := c.lookup_saved writtenAt expiresAt rfl
  history := by
    rw [← storedHistory_toValue]
    exact c.lookup_saved writtenAt expiresAt rfl
  active := c.lookup_saved writtenAt expiresAt rfl

/-- A save bumps the number by which it found the document. -/
theorem isBumpedIn_advanced (found : doc.holds "sequence" (.int c.sequence) = true)
    (writtenAt expiresAt : Moment) :
    c.IsBumpedIn (Store.advanced (c.savedFields writtenAt expiresAt) doc) := by
  have unwritten : "sequence" ∉ (c.savedFields writtenAt expiresAt).map Prod.fst := by
    rw [map_fst_savedFields]
    decide
  have kept : (Entries.update doc (c.savedFields writtenAt expiresAt)).lookup "sequence"
      = doc.lookup "sequence" := Entries.lookup_update_of_notMem _ unwritten
  unfold Entries.holds at found
  cases stored : doc.lookup "sequence" with
  | none =>
    rw [stored] at found
    cases found
  | some v =>
    rw [stored] at found kept
    cases v with
    | int n =>
      have same : n = c.sequence := by simpa [Value.isSameLeaf] using found
      subst same
      exact .inl (c.advanced_document_sequence writtenAt expiresAt stored)
    | float x =>
      have same : Decimal.whole? x = some c.sequence := by simpa [Value.isSameLeaf] using found
      refine .inr ⟨x, same, ?_⟩
      rw [Store.advanced]
      simp [Entries.increment?, kept]
    | _ => cases found

end Context

/-! ## Saves -/

namespace Keeping

open Operation (run_bind)

/-- The second store is the first with the context written into it: its session added, or the session
with its sequence number advanced. -/
inductive Written (c : Context) (s : Store) (now expiresAt : Moment) : Store → Prop
  | added (fresh : c.sequence = 0) (absent : s.session? c.conversationId = none) :
    Written c s now expiresAt (s.added (c.document 1 now expiresAt))
  | advanced (stored : c.sequence ≠ 0) (doc : Entries)
    (found : s.sessions.find? (Store.sessionAt c.conversationId c.sequence) = some doc) :
    Written c s now expiresAt (s.saved c.conversationId c.sequence (c.savedFields now expiresAt))

variable {hours : Int} {c kept : Context} {w v : World}

/-- A context is written, or nothing is. -/
theorem store_cases (c : Context) (now expiresAt : Moment) (w : World) :
    (∃ f v, w.Looks v ∧ (store c now expiresAt).run w = (.error f, v)) ∨
      ∃ n u s, w.Looks u ∧ Written c u.store now expiresAt s ∧
        (store c now expiresAt).run w = (.ok n, u.withStore s) := by
  by_cases fresh : c.sequence = 0
  · rw [store, if_pos (by simp [fresh]), run_bind]
    obtain ⟨u, looks, ⟨f, run⟩ | run | ⟨absent, run⟩⟩ :=
      Operation.insertSession_cases (c.firstSession now expiresAt) w
    · rw [run]
      exact .inl ⟨f, u, looks, rfl⟩
    · rw [run]
      exact .inl ⟨_, u, looks, rfl⟩
    · rw [run]
      exact .inr ⟨1, u, _, looks, .added fresh absent, rfl⟩
  · rw [store, if_neg (by simp [fresh]), run_bind]
    obtain ⟨u, looks, ⟨f, run⟩ | run | ⟨doc, found, run⟩⟩ :=
      Operation.updateSession_cases c.conversationId c.sequence (c.savedFields now expiresAt) w
    · rw [run]
      exact .inl ⟨f, u, looks, rfl⟩
    · rw [run]
      exact .inl ⟨_, u, looks, rfl⟩
    · rw [run]
      exact .inr ⟨_, u, _, looks, .advanced fresh doc found, rfl⟩

/-- A save that gives a result could tell when the session expires. -/
theorem expiry_of_save {saved : Bool} (saves : save hours c w = ((.ok saved, kept), v)) :
    ∃ e, expiry? w.now hours = .ok e := by
  cases timely : expiry? w.now hours with
  | ok e => exact ⟨e, rfl⟩
  | error f =>
    rw [save_of_expiry_error timely] at saves
    cases saves

/-- A save that succeeds has written the context. -/
theorem written_of_save (alone : w.IsAlone) (saves : save hours c w = ((.ok true, kept), v)) :
    ∃ e, expiry? w.now hours = .ok e ∧ Written c w.store w.now e v.store := by
  obtain ⟨e, timely⟩ := expiry_of_save saves
  refine ⟨e, timely, ?_⟩
  rw [save_of_store timely] at saves
  rcases store_cases { c with lastActivityAt := w.now } w.now e w with ⟨f, u, looks, run⟩ |
    ⟨n, u, s, looks, written, run⟩
  · rw [run] at saves
    dsimp only at saves
    split at saves <;> cases saves
  · rw [run] at saves
    cases saves
    rw [looks.store alone] at written
    cases written with
    | added fresh absent => exact .added fresh absent
    | advanced stored doc found => exact .advanced stored doc found

/-- A save in vain has written nothing, and a fault struck its write. -/
theorem store_of_unsaved (alone : w.IsAlone) (saves : save hours c w = ((.ok false, kept), v)) :
    v.store = w.store ∧ ¬ w.LetsWrite := by
  obtain ⟨e, timely⟩ := expiry_of_save saves
  constructor
  · rw [save_of_store timely] at saves
    rcases store_cases { c with lastActivityAt := w.now } w.now e w with ⟨f, u, looks, run⟩ |
      ⟨n, u, s, looks, written, run⟩
    · rw [run] at saves
      dsimp only at saves
      split at saves
      · cases saves
        exact looks.store alone
      · cases saves
    · rw [run] at saves
      cases saves
  · intro writes
    by_cases fresh : c.sequence = 0
    · rw [save_fresh writes timely fresh] at saves
      split at saves <;> cases saves
    · rw [save_stored writes timely fresh] at saves
      split at saves <;> cases saves

/-- Writing a context fails for the store's reasons, or by a conflict. -/
theorem store_fails (reachable : w.IsReachable) {now expiresAt : Moment} {f : Failure}
    (run : (store c now expiresAt).run w = (.error f, v)) : isStorage f = true ∨ f.IsConflict := by
  unfold store at run
  split at run
  · rw [run_bind] at run
    cases inserts : (Operation.insertSession (c.firstSession now expiresAt)).run w with
    | mk result u =>
      rw [inserts] at run
      match result with
      | .error g =>
        cases run
        obtain ⟨cause, rfl⟩ := Operation.insertSession_fails reachable inserts
        exact .inl (isStorage_storageFailure cause)
      | .ok true => cases run
      | .ok false =>
        cases run
        exact .inr ⟨_, _, rfl⟩
  · rw [run_bind] at run
    cases updates : (Operation.updateSession c.conversationId c.sequence
        (c.savedFields now expiresAt)).run w with
    | mk result u =>
      rw [updates] at run
      match result with
      | .error g =>
        cases run
        obtain ⟨cause, rfl⟩ := Operation.updateSession_fails reachable updates
        exact .inl (isStorage_storageFailure cause)
      | .ok (some n) => cases run
      | .ok none =>
        cases run
        exact .inr ⟨_, _, rfl⟩

/-- A save that fails has written nothing. It fails by a conflict, or for want of an expiry, before it has
done anything. -/
theorem save_fails (reachable : w.IsReachable) (alone : w.IsAlone) {f : Failure}
    (saves : save hours c w = ((.error f, kept), v)) : v.store = w.store ∧ (f.IsConflict ∨ v = w) := by
  cases timely : expiry? w.now hours with
  | error g =>
    rw [save_of_expiry_error timely] at saves
    cases saves
    exact ⟨rfl, .inr rfl⟩
  | ok e =>
    rw [save_of_store timely] at saves
    rcases store_cases { c with lastActivityAt := w.now } w.now e w with ⟨g, u, looks, run⟩ |
      ⟨n, u, s, looks, written, run⟩
    · have why := store_fails reachable run
      rw [run] at saves
      dsimp only at saves
      split at saves
      · cases saves
      · rename_i other
        cases saves
        refine ⟨looks.store alone, .inl ?_⟩
        exact why.resolve_left fun passed => other passed
    · rw [run] at saves
      cases saves

end Keeping

end ChatFlow
