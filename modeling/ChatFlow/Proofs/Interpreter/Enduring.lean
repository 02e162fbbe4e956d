import ChatFlow.Proofs.Flow.Failing
import ChatFlow.Proofs.Interpreter.Resuming

/-!
Answering while faults wait.

However a message is answered, the faults that wait afterwards are left of those that waited before
(`Interpreter.spends_process`). So an answer that begins in a quiet world ends in one, and an answer
that begins in a world without other writers ends in one.

A resume does not fail by a conflict as long as faults wait for reads only
(`Interpreter.avoidsConflict_resume`): conflicts come from saves.
-/

namespace ChatFlow

open ChatFlow.Flow (Definition)

open Operation

/-! ## Faults -/

namespace Keeping

theorem spends_discard (conv : String) : (discard conv).Spends := by
  refine spends_bind (spends_attempt (spends_deleteSession conv)) ?_
  rintro (f | _)
  · dsimp only
    split
    · exact spends_throw _
    · exact spends_onOutside _
  · exact spends_pure _

theorem spends_load (conv : String) : (load conv).Spends := by
  refine spends_bind (spends_attempt (spends_getSession conv)) ?_
  rintro (f | _ | doc)
  · dsimp only
    split
    · exact spends_throw _
    · exact spends_bind (spends_onOutside _) fun _ => spends_pure _
  · exact spends_pure _
  · refine spends_bind spends_now fun now => ?_
    cases readSession? now doc with
    | error _ =>
      exact spends_bind (spends_onOutside _) fun _ =>
        spends_bind (spends_discard conv) fun _ => spends_pure _
    | ok read =>
      obtain ⟨session, history⟩ := read
      refine spends_bind spends_now fun now => spends_bind (spends_ofExcept _) fun resumable => ?_
      cases resumable with
      | true => exact spends_pure _
      | false => exact spends_bind (spends_discard conv) fun _ => spends_pure _

theorem spends_store (c : Context) (now expiresAt : Moment) : (store c now expiresAt).Spends := by
  unfold store
  split
  · refine spends_bind (spends_insertSession _) fun inserted => ?_
    cases inserted with
    | true => exact spends_pure _
    | false => exact spends_throw _
  · refine spends_bind (spends_updateSession _ _ _) fun sequence => ?_
    cases sequence with
    | some n => exact spends_pure _
    | none => exact spends_throw _

theorem spends_save (hours : Int) (c : Context) (w : World) : w.Spends (save hours c w).2 := by
  cases timely : expiry? w.now hours with
  | error f =>
    rw [save_of_expiry_error timely]
    exact .refl w
  | ok e =>
    have stores := spends_store { c with lastActivityAt := w.now } w.now e w
    rw [save_of_store timely]
    generalize (store { c with lastActivityAt := w.now } w.now e).run w = r at stores ⊢
    obtain ⟨f | n, v⟩ := r
    · dsimp only
      cases isStorage f <;> exact stores
    · exact stores

theorem spends_clear (conv : String) : (clear conv).Spends := by
  refine spends_bind (spends_attempt <| spends_bind (spends_completeSession conv)
    fun _ => spends_deleteSession conv) ?_
  rintro (f | _)
  · dsimp only
    split
    · exact spends_throw _
    · exact spends_onOutside _
  · exact spends_pure _

end Keeping

namespace Interpreter

variable {i : Interpreter} {m : Inbound}

theorem spends_resume (conv : String) : (resume conv).Spends := by
  refine spends_bind (Keeping.spends_load conv) fun found => ?_
  cases found with
  | none => exact spends_pure _
  | some context =>
    refine spends_bind (Library.isReading_load _ _).spends fun definition => ?_
    split
    · exact spends_pure _
    · exact spends_bind (spends_onOutside _) fun _ =>
        spends_bind (Keeping.spends_clear conv) fun _ => spends_pure _

theorem spends_countRun (flowId : String) (success : Bool) : (countRun flowId success).Spends := by
  refine spends_bind (Operation.spends_countRun flowId success) fun counted => ?_
  cases counted with
  | true => exact spends_pure _
  | false => exact spends_onOutside _

theorem spends_save (i : Interpreter) (c : Context) : (i.save c).Spends := by
  intro w
  rw [save_run]
  exact Keeping.spends_save i.sessionHours c w

theorem spends_start (i : Interpreter) (m : Inbound) (d : Definition) : (i.start m d).Spends := by
  refine spends_bind spends_now fun now => spends_bind (spends_ofExcept _) fun c =>
    spends_bind (spends_onOutside _) fun p => ?_
  dsimp only
  split
  · exact spends_bind (spends_countRun _ _) fun _ => spends_pure _
  · split
    · exact spends_bind (spends_save i _) fun _ => spends_pure _
    · exact spends_pure _

theorem spends_proceed (i : Interpreter) (m : Inbound) (c : Context) (d : Definition) :
    (i.proceed m c d).Spends := by
  refine spends_bind (spends_onOutside _) fun p => ?_
  dsimp only
  split
  · exact spends_bind (Keeping.spends_clear _) fun _ =>
      spends_bind (spends_countRun _ _) fun _ => spends_pure _
  · split
    · exact spends_bind (Keeping.spends_clear _) fun _ => spends_pure _
    · exact spends_bind (spends_save i _) fun _ => spends_pure _

theorem spends_respond (i : Interpreter) (m : Inbound) : (i.respond m).Spends := by
  refine spends_bind (spends_resume _) fun found => ?_
  cases found with
  | some p => exact spends_proceed i m p.1 p.2
  | none =>
    refine spends_bind (Dispatch.isReading_find _ _ _ _).spends fun found => ?_
    cases found with
    | none => exact spends_bind spends_now fun _ => spends_pure _
    | some d => exact spends_start i m d

/-- An answer spends faults and brings none. -/
theorem spends_process (i : Interpreter) (m : Inbound) (w : World) : w.Spends (i.process m w).2 := by
  have responds := spends_respond i m w
  rw [process, StateM.bind_apply]
  generalize (i.respond m).run w = r at responds ⊢
  obtain ⟨f | o, v⟩ := r
  · have clears := Keeping.spends_clear m.conversationId (v.noted .error component)
    have noted : w.Spends (v.noted .error component) := responds
    cases f with
    | conflict conv n => exact responds
    | _ =>
      dsimp only
      rw [StateM.bind_apply, StateM.bind_apply, World.reportError_apply]
      generalize (Keeping.clear m.conversationId).run (v.noted .error component) = r at clears ⊢
      obtain ⟨f | _, u⟩ := r <;> exact noted.trans clears
  · exact responds

end Interpreter

/-! ## Conflicts -/

namespace Keeping

/-- A load fails only if the expiry of the session has no place in the order of the clock. -/
theorem avoidsConflict_load (conv : String) : (load conv).AvoidsConflict := by
  intro w writes f failed
  have spends := spends_getSession conv w
  have sought := getSession_cases conv w
  rw [load_eq] at failed
  generalize (getSession conv).run w = r at spends sought failed
  cases sought with
  | nothing v looks => cases failed
  | fails g v looks passed =>
    obtain ⟨cause, rfl⟩ := passed writes
    dsimp only at failed
    rw [isStorage_storageFailure] at failed
    cases failed
  | found doc es v looks stored text =>
    have still : v.LetsWrite := spends.letsWrite writes
    have noted : (v.noted .error component).LetsWrite := still
    dsimp only at failed
    rw [discarded_run noted, discarded_run still] at failed
    cases read : readSession? v.now es with
    | error g =>
      rw [read] at failed
      cases failed
    | ok pair =>
      rw [read] at failed
      dsimp only at failed
      cases resumable : isResumable? v.now pair.1 with
      | ok usable =>
        rw [resumable] at failed
        cases usable <;> cases failed
      | error g =>
        rw [resumable] at failed
        cases failed
        rintro ⟨conv, n, rfl⟩
        unfold isResumable? at resumable
        split at resumable
        · cases resumable
        · split at resumable <;> cases resumable

end Keeping

namespace Interpreter

/-- What keeps a conversation from being resumed is no conflict. -/
theorem avoidsConflict_resume (conv : String) : (resume conv).AvoidsConflict := by
  refine avoidsConflict_bind (Keeping.spends_load conv) (Keeping.avoidsConflict_load conv) fun found => ?_
  cases found with
  | none => exact avoidsConflict_pure _
  | some context =>
    refine avoidsConflict_bind (Library.isReading_load _ _).spends (Library.avoidsConflict_load _ _)
      fun definition => ?_
    split
    · exact avoidsConflict_pure _
    · refine avoidsConflict_of_ok fun w writes => ⟨none, ?_⟩
      have noted : (w.noted .warning component).LetsWrite := writes
      rw [run_bind, run_warn]
      dsimp only
      rw [run_bind, Keeping.clear_run noted]
      rfl

end Interpreter

namespace Sample

/-- The next access of this sort to the collection fails, once. -/
def failing (a : Access) (c : Collection) : Fault :=
  ⟨a, some c, 1, none, .fails (.foreign "AutoReconnect" "connection closed")⟩

variable {w : World} {a : Access} {c : Collection}

theorem isAlone_of_failing (h : w.faults = [failing a c]) : w.IsAlone := by
  intro f here
  rw [h, List.mem_singleton] at here
  rw [here]
  rfl

theorem isReachable_of_failing (h : w.faults = [failing a c]) (other : a ≠ .connect) :
    w.IsReachable := by
  intro f here
  rw [h, List.mem_singleton] at here
  rw [here]
  exact other

theorem letsWrite_of_failing (h : w.faults = [failing a c]) (reads : a.reads = true) :
    w.LetsWrite := by
  intro f here
  rw [h, List.mem_singleton] at here
  rw [here]
  exact reads

theorem fails_of_failing (h : w.faults = [failing a c]) :
    ∀ f ∈ w.faults, ∃ cause, f.effect = .fails cause := by
  intro f here
  rw [h, List.mem_singleton] at here
  rw [here]
  exact ⟨_, rfl⟩

end Sample

end ChatFlow
