import ChatFlow.Proofs.Conversation.Loading
import ChatFlow.Proofs.Flow.Reading
import ChatFlow.Proofs.Interpreter.Answering

/-!
Operations that overlook some of the sessions.

An operation on one conversation should not care what other sessions there are. `Overlooks` says this of
two runs: the operation does in a world what it does in the world without the hidden sessions
(`World.without`), which it leaves as they are. The notion is closed under the ways in which operations
are put together, so it is shown for single accesses and carried from there to all of answering.

Faults may wait, and they may let other writers in, as long as these write to the conversation or to no
session at all (`World.Minds`).
-/

namespace ChatFlow

/-! ## Hidden documents -/

/-- The change of a list of documents overlooks the hidden ones and leaves them alone. -/
structure Documents.Spares (hidden : Entries → Bool) (f : Documents → Documents) : Prop where
  visible : ∀ docs, (f docs).filter (!hidden ·) = f (docs.filter (!hidden ·))
  concealed : ∀ docs, (f docs).filter hidden = docs.filter hidden

namespace Store

/-- The store without the hidden sessions. -/
def without (hidden : Entries → Bool) (s : Store) : Store :=
  s.change .sessions fun docs => docs.filter (!hidden ·)

/-- The sessions that are hidden. -/
def concealed (hidden : Entries → Bool) (s : Store) : Documents :=
  s.sessions.filter hidden

/-- No session of the conversation is hidden. -/
def Shows (conv : String) (hidden : Entries → Bool) : Prop :=
  ∀ doc : Entries, doc.holdsAll (sessionOf conv) = true → hidden doc = false

variable {hidden : Entries → Bool} {conv : String} {s : Store}

/-- A search for a document of the conversation does not meet hidden sessions. -/
theorem find?_without (shows : Shows conv hidden) {filter : Entries}
    (only : ∀ doc : Entries, doc.holdsAll filter = true → doc.holdsAll (sessionOf conv) = true) :
    (s.without hidden).sessions.find? filter = s.sessions.find? filter :=
  Documents.find?_filter (fun doc h => by rw [shows doc (only doc h)]; rfl) s.sessions

theorem session?_without (shows : Shows conv hidden) :
    (s.without hidden).session? conv = s.session? conv :=
  find?_without shows fun _ h => h

theorem change_without {f : Documents → Documents} (spares : Documents.Spares hidden f) :
    (s.without hidden).change .sessions f = (s.change .sessions f).without hidden := by
  show ({ s with sessions := f (s.sessions.filter (!hidden ·)) } : Store)
    = { s with sessions := (f s.sessions).filter (!hidden ·) }
  rw [spares.visible]

theorem spares_modifyFirst (shows : Shows conv hidden) (filter : Entries) (change : Entries → Entries)
    (only : ∀ doc : Entries, doc.holdsAll filter = true →
      doc.holdsAll (sessionOf conv) = true ∧ (change doc).holdsAll (sessionOf conv) = true) :
    Documents.Spares hidden (Documents.modifyFirst filter change) where
  visible := Documents.filter_modifyFirst fun doc h =>
    ⟨by rw [shows doc (only doc h).1]; rfl, by rw [shows _ (only doc h).2]; rfl⟩
  concealed := Documents.filter_modifyFirst_of_not fun doc h =>
    ⟨shows doc (only doc h).1, shows _ (only doc h).2⟩

theorem spares_removeFirst (shows : Shows conv hidden) :
    Documents.Spares hidden (Documents.removeFirst (sessionOf conv)) where
  visible := Documents.filter_removeFirst fun doc h => by rw [shows doc h]; rfl
  concealed := Documents.filter_removeFirst_of_not shows

theorem spares_append (shows : Shows conv hidden) {doc : Entries}
    (mine : doc.holdsAll (sessionOf conv) = true) : Documents.Spares hidden (· ++ [doc]) where
  visible docs := by
    rw [List.filter_append, List.filter_cons_of_pos (by rw [shows doc mine]; rfl), List.filter_nil]
  concealed docs := by
    rw [List.filter_append, List.filter_cons_of_neg (by simp [shows doc mine]), List.filter_nil,
      List.append_nil]

/-- Putting a session of the conversation in its place. -/
theorem spares_put (shows : Shows conv hidden) {doc : Entries}
    (mine : doc.holdsAll (sessionOf conv) = true) :
    Documents.Spares hidden (Documents.put Collection.sessions.key doc) := by
  have key : [(Collection.sessions.key, doc.getD Collection.sessions.key)] = sessionOf conv := by
    rw [sessionOf, ← Entries.getD_of_lookup (holdsAll_sessionOf.mp mine)]
    rfl
  have modify := spares_modifyFirst shows (sessionOf conv) (fun _ => doc) fun d h => ⟨h, mine⟩
  have append := spares_append shows mine
  have seen (docs : Documents) : (docs.filter (!hidden ·)).any (·.holdsAll (sessionOf conv))
      = docs.any (·.holdsAll (sessionOf conv)) := by
    rw [List.any_filter]
    congr 1
    funext d
    cases h : d.holdsAll (sessionOf conv) with
    | false => rw [Bool.and_false]
    | true => rw [shows d h]; rfl
  constructor
  · intro docs
    unfold Documents.put
    rw [key]
    dsimp only
    rw [seen]
    split
    · exact modify.visible docs
    · exact append.visible docs
  · intro docs
    unfold Documents.put
    rw [key]
    dsimp only
    split
    · exact modify.concealed docs
    · exact append.concealed docs

end Store

/-! ## Two runs -/

namespace World

/-- The world without the hidden sessions. -/
def without (hidden : Entries → Bool) (w : World) : World :=
  w.withStore (w.store.without hidden)

theorem without_congr {p q : Entries → Bool} {w : World}
    (same : ∀ doc ∈ w.store.sessions, p doc = q doc) : w.without p = w.without q := by
  have sessions : w.store.sessions.filter (!p ·) = w.store.sessions.filter (!q ·) :=
    List.filter_congr fun doc here => by rw [same doc here]
  exact congrArg (fun docs => w.withStore { w.store with sessions := docs }) sessions

/-- Nothing is left of the sessions if all are hidden. -/
theorem without_without_all (p : Entries → Bool) (w : World) :
    (w.without p).without (fun _ => true) = w.without fun _ => true := by
  have none (docs : Documents) : docs.filter (fun _ => !true) = [] := by simp
  have left (v : World) : v.without (fun _ => true) = v.withStore { v.store with sessions := [] } :=
    congrArg (fun docs => v.withStore { v.store with sessions := docs }) (none v.store.sessions)
  rw [left, left]
  rfl

/-- Other writers write to the conversation or to no session at all. -/
def Minds (conv : String) (w : World) : Prop :=
  ∀ f ∈ w.faults, ∀ doc, f.before = some (.sessions, doc) → doc.holdsAll (Store.sessionOf conv) = true

/-- What is done in a world leaves the hidden sessions alone. -/
structure Leaves (conv : String) (hidden : Entries → Bool) (w v : World) : Prop where
  concealed : v.store.concealed hidden = w.store.concealed hidden
  minds : v.Minds conv

/-- The activity does in a world what it does without the hidden sessions, and leaves these alone. -/
def Overlooks {α : Type} (conv : String) (hidden : Entries → Bool) (x : StateM World α) : Prop :=
  ∀ w : World, w.Minds conv →
    x (w.without hidden) = ((x w).1, (x w).2.without hidden) ∧ w.Leaves conv hidden (x w).2

variable {α β : Type} {conv : String} {hidden : Entries → Bool} {w v u : World}

theorem Leaves.refl (minds : w.Minds conv) : w.Leaves conv hidden w := ⟨rfl, minds⟩

theorem Leaves.trans (first : w.Leaves conv hidden v) (second : v.Leaves conv hidden u) :
    w.Leaves conv hidden u :=
  ⟨second.concealed.trans first.concealed, second.minds⟩

theorem overlooks_bind {x : StateM World α} {f : α → StateM World β}
    (hx : Overlooks conv hidden x) (hf : ∀ a, Overlooks conv hidden (f a)) :
    Overlooks conv hidden (x >>= f) := by
  intro w minds
  obtain ⟨same, left⟩ := hx w minds
  obtain ⟨same', left'⟩ := hf (x w).1 (x w).2 left.minds
  rw [StateM.bind_apply, StateM.bind_apply, same]
  exact ⟨same', left.trans left'⟩

theorem overlooks_pure (a : α) : Overlooks conv hidden (pure a) := fun _ minds => ⟨rfl, .refl minds⟩

theorem overlooks_onOutside (x : StateM Outside α) : Overlooks conv hidden (onOutside x) :=
  fun _ minds => ⟨rfl, rfl, minds⟩

end World

namespace Operation

variable {α β : Type} {conv : String} {hidden : Entries → Bool}

/-- The operation overlooks the hidden sessions. -/
def Overlooks (conv : String) (hidden : Entries → Bool) (x : Operation α) : Prop :=
  World.Overlooks conv hidden x.run

theorem overlooks_pure (a : α) : Overlooks conv hidden (pure a) := fun _ minds => ⟨rfl, .refl minds⟩

theorem overlooks_throw (e : Failure) : Overlooks conv hidden (throw e : Operation α) :=
  fun _ minds => ⟨rfl, .refl minds⟩

theorem overlooks_ofExcept (e : Except Failure α) : Overlooks conv hidden (ofExcept e) := by
  cases e with
  | error f => exact overlooks_throw f
  | ok a => exact overlooks_pure a

/-- Of the second part only those cases matter that the first can give. -/
theorem overlooks_bind_of {x : Operation α} {f : α → Operation β} {P : α → Prop}
    (gives : x.Gives P) (hx : Overlooks conv hidden x) (hf : ∀ a, P a → Overlooks conv hidden (f a)) :
    Overlooks conv hidden (x >>= f) := by
  intro w minds
  obtain ⟨same, left⟩ := hx w minds
  rw [run_bind, run_bind, same]
  have p := gives w (x.run w).2
  generalize x.run w = r at left p ⊢
  obtain ⟨e | a, v⟩ := r
  · exact ⟨rfl, left⟩
  · obtain ⟨same', left'⟩ := hf a (p a rfl) v left.minds
    exact ⟨same', left.trans left'⟩

theorem overlooks_bind {x : Operation α} {f : α → Operation β} (hx : Overlooks conv hidden x)
    (hf : ∀ a, Overlooks conv hidden (f a)) : Overlooks conv hidden (x >>= f) :=
  overlooks_bind_of gives_any hx fun a _ => hf a

/-- A part that looks at the world, but not at its sessions. -/
theorem overlooks_get {f : World → Operation β} (blind : ∀ w : World, f (w.without hidden) = f w)
    (hf : ∀ w, Overlooks conv hidden (f w)) : Overlooks conv hidden (get >>= f) := by
  intro w minds
  rw [run_bind, run_bind, run_get, run_get]
  dsimp only
  rw [blind w]
  exact hf w w minds

/-- A part that changes the world, but not the store. -/
theorem overlooks_modify {f : World → World}
    (apart : ∀ w s, f (w.withStore s) = (f w).withStore s) (faults : ∀ w, (f w).faults = w.faults) :
    Overlooks conv hidden (modify f : Operation Unit) := by
  intro w minds
  have store := World.store_of_apart apart w
  refine ⟨?_, ?_, ?_⟩
  · rw [run_modify, run_modify, World.without, World.without, apart, store]
  · show (f w).store.concealed hidden = _
    rw [store]
  · show (f w).Minds conv
    rw [World.Minds, faults]
    exact minds

theorem overlooks_attempt {x : Operation α} (hx : Overlooks conv hidden x) :
    Overlooks conv hidden (attempt x) := by
  intro w minds
  obtain ⟨same, left⟩ := hx w minds
  rw [run_attempt, run_attempt, same]
  exact ⟨rfl, left⟩

theorem overlooks_now : Overlooks conv hidden now := fun _ minds => ⟨rfl, .refl minds⟩

/-- An activity on the outside overlooks all sessions. -/
theorem overlooks_outside (x : StateM Outside (Except Failure α)) :
    Overlooks conv hidden (ExceptT.mk (World.onOutside x)) :=
  World.overlooks_onOutside x

theorem overlooks_lift {x : StateM World α} (hx : World.Overlooks conv hidden x) :
    Overlooks conv hidden (liftM x : Operation α) := by
  intro w minds
  obtain ⟨same, left⟩ := hx w minds
  have run (w : World) : (liftM x : Operation α).run w = (.ok (x w).1, (x w).2) := rfl
  rw [run, run, same]
  exact ⟨rfl, left⟩

theorem overlooks_warn (component : String) :
    Overlooks conv hidden (liftM (World.warn component) : Operation Unit) :=
  overlooks_lift (World.overlooks_onOutside _)

theorem overlooks_reportError (component : String) :
    Overlooks conv hidden (liftM (World.reportError component) : Operation Unit) :=
  overlooks_lift (World.overlooks_onOutside _)

theorem overlooks_orStorageFailure {x : Operation α} (hx : Overlooks conv hidden x) :
    Overlooks conv hidden (orStorageFailure x) :=
  overlooks_bind (overlooks_attempt hx) fun
    | .ok _ => overlooks_pure _
    | .error _ => overlooks_bind (overlooks_reportError _) fun _ => overlooks_throw _

theorem overlooks_orLog (default : α) {x : Operation α} (hx : Overlooks conv hidden x) :
    Overlooks conv hidden (orLog default x) :=
  overlooks_bind (overlooks_attempt hx) fun
    | .ok _ => overlooks_pure _
    | .error _ => overlooks_bind (overlooks_reportError _) fun _ => overlooks_pure _

/-! ## Accesses -/

section Sessions

variable (shows : Store.Shows conv hidden)

include shows

theorem written_without {before : Option (Collection × Entries)} (s : Store)
    (minds : ∀ doc, before = some (.sessions, doc) → doc.holdsAll (Store.sessionOf conv) = true) :
    written before (s.without hidden) = (written before s).without hidden
      ∧ (written before s).concealed hidden = s.concealed hidden := by
  match before with
  | none => exact ⟨rfl, rfl⟩
  | some (.flows, _) => exact ⟨rfl, rfl⟩
  | some (.versions, _) => exact ⟨rfl, rfl⟩
  | some (.sessions, doc) =>
    have put := Store.spares_put shows (minds doc rfl)
    exact ⟨Store.change_without put, put.concealed s.sessions⟩

theorem overlooks_disturb (a : Access) (c : Option Collection) :
    Overlooks conv hidden (disturb a c) := by
  intro w minds
  have faults : (w.without hidden).faults = w.faults := rfl
  rw [disturb_eq, disturb_eq, faults]
  cases strike : Fault.strike? a c w.faults with
  | none => exact ⟨rfl, .refl minds⟩
  | some p =>
    obtain ⟨f, left⟩ := p
    obtain ⟨here, others⟩ := Fault.isLeftOf_of_strike strike
    obtain ⟨same, concealed⟩ := written_without shows w.store (minds f here)
    dsimp only
    refine ⟨?_, concealed, fun g mem doc before => ?_⟩
    · show (_, ({ w with faults := left, store := written f.before (w.store.without hidden) } : World))
        = _
      rw [same]
      rfl
    · obtain ⟨h, old, left⟩ := others g mem
      exact minds h old doc (left.before.symm.trans before)

theorem overlooks_connect : Overlooks conv hidden connect := by
  refine overlooks_get (fun _ => rfl) fun w => ?_
  split
  · exact overlooks_bind (overlooks_disturb shows _ _) fun _ =>
      overlooks_modify (fun _ _ => rfl) fun _ => rfl
  · exact overlooks_pure _

theorem overlooks_read (a : Access) (c : Collection) (default : α) {f : Store → α}
    (blind : ∀ s : Store, f (s.without hidden) = f s) :
    Overlooks conv hidden (read a c default f) := by
  refine overlooks_bind (overlooks_disturb shows _ _) fun misses => ?_
  split
  · exact overlooks_pure _
  · exact overlooks_get (fun w => congrArg pure (blind w.store)) fun _ => overlooks_pure _

omit shows in
/-- A change of the store that overlooks the hidden sessions. -/
theorem overlooks_change {f : Store → Except Failure (α × Store)}
    (same : ∀ s : Store, f (s.without hidden) = (f s).map fun p => (p.1, p.2.without hidden))
    (concealed : ∀ s a t, f s = .ok (a, t) → t.concealed hidden = s.concealed hidden) :
    Overlooks conv hidden (do
      let (result, store) ← ofExcept (f (← get).store)
      modify fun w => { w with store }
      return result) := by
  intro w minds
  have alone : f (w.without hidden).store = (f w.store).map fun p => (p.1, p.2.without hidden) :=
    same w.store
  rw [change_run, change_run, alone]
  cases changed : f w.store with
  | error e => exact ⟨rfl, .refl minds⟩
  | ok p => exact ⟨rfl, concealed w.store p.1 p.2 changed, minds⟩

theorem overlooks_write (a : Access) (c : Collection) (default : α)
    {f : Store → Except Failure (α × Store)}
    (same : ∀ s : Store, f (s.without hidden) = (f s).map fun p => (p.1, p.2.without hidden))
    (concealed : ∀ s a t, f s = .ok (a, t) → t.concealed hidden = s.concealed hidden) :
    Overlooks conv hidden (write a c default f) := by
  refine overlooks_bind (overlooks_disturb shows _ _) fun misses => ?_
  split
  · exact overlooks_pure _
  · exact overlooks_change same concealed

/-! ### Sessions -/

theorem overlooks_getSession : Overlooks conv hidden (getSession conv) :=
  overlooks_bind (overlooks_connect shows) fun _ => overlooks_orStorageFailure <|
    overlooks_bind (overlooks_read shows _ _ _ fun _ => Store.session?_without shows) fun
      | none => overlooks_pure _
      | some _ => overlooks_bind (overlooks_ofExcept _) fun _ => overlooks_pure _

theorem overlooks_insertSession {session : Session} (mine : session.conversationId = conv) :
    Overlooks conv hidden (insertSession session) := by
  subst mine
  have own : Entries.holdsAll (("_id", .text session.conversationId) :: session.toEntries)
      (Store.sessionOf session.conversationId) = true := by
    rw [Store.holdsAll_sessionOf_toEntries, beq_self_eq_true]
  have append := Store.spares_append shows own
  refine overlooks_bind (overlooks_connect shows) fun _ => overlooks_bind (overlooks_attempt <|
    overlooks_bind (overlooks_disturb shows _ _) fun _ => overlooks_change ?_ ?_) ?_
  · intro s
    rw [Store.insertSession, Store.insertSession, Store.session?_without shows]
    split
    · rfl
    · dsimp only
      rw [Store.change_without append]
      rfl
  · intro s a t inserted
    unfold Store.insertSession at inserted
    split at inserted
    · cases inserted
      rfl
    · cases inserted
      exact append.concealed s.sessions
  · rintro (cause | inserted)
    · dsimp only
      split
      · exact overlooks_pure _
      · exact overlooks_bind (overlooks_reportError _) fun _ => overlooks_throw _
    · exact overlooks_pure _

theorem overlooks_updateSession {expected : Int} {fields : Entries}
    (other : "conversation_id" ∉ fields.map Prod.fst) :
    Overlooks conv hidden (updateSession conv expected fields) := by
  have own (doc : Entries) (h : doc.holdsAll (Store.sessionAt conv expected) = true) :
      doc.holdsAll (Store.sessionOf conv) = true := (Store.holdsAll_sessionAt.mp h).1
  have modify := Store.spares_modifyFirst shows (Store.sessionAt conv expected)
    (Store.advanced fields) fun doc h =>
      ⟨own doc h, (Store.holdsAll_sessionOf_advanced other).trans (own doc h)⟩
  refine overlooks_bind (overlooks_connect shows) fun _ => overlooks_orStorageFailure <|
    overlooks_bind (overlooks_write shows _ _ _ ?_ ?_) fun _ => overlooks_pure _
  · intro s
    rw [Store.updateSession, Store.updateSession, Store.find?_without shows own,
      Store.change_without modify]
    split <;> rfl
  · intro s a t updated
    unfold Store.updateSession at updated
    split at updated
    · cases updated
      rfl
    · cases updated
      exact modify.concealed s.sessions

theorem overlooks_completeSession : Overlooks conv hidden (completeSession conv) := by
  have modify (now : Moment) := Store.spares_modifyFirst shows (Store.sessionOf conv)
    (Entries.update · [("status", .text Session.completed), ("last_activity_at", .date now)]) fun doc h => ⟨h, (Store.holdsAll_sessionOf_update (by simp)).trans h⟩
  refine overlooks_bind (overlooks_connect shows) fun _ => overlooks_orStorageFailure <|
    overlooks_bind overlooks_now fun now => overlooks_write shows _ _ _ ?_ ?_
  · intro s
    rw [Store.completeSession, Store.completeSession, Store.change_without (modify now)]
    rfl
  · intro s a t completed
    cases completed
    exact (modify now).concealed s.sessions

theorem overlooks_deleteSession : Overlooks conv hidden (deleteSession conv) := by
  have remove := Store.spares_removeFirst shows
  refine overlooks_bind (overlooks_connect shows) fun _ => overlooks_orStorageFailure <|
    overlooks_write shows _ _ _ ?_ ?_
  · intro s
    rw [Store.deleteSession, Store.deleteSession, Store.change_without remove]
    rfl
  · intro s a t deleted
    cases deleted
    exact remove.concealed s.sessions

/-- What only reads flows and versions overlooks all sessions. -/
theorem IsReading.overlooks {x : Operation α} (h : x.IsReading) : Overlooks conv hidden x := by
  induction h with
  | pure a => exact overlooks_pure a
  | ofExcept e => exact overlooks_ofExcept e
  | bind _ _ hx hf => exact overlooks_bind hx hf
  | attempt _ hx => exact overlooks_attempt hx
  | look blind _ hf => exact overlooks_get (fun w => blind w _) hf
  | keep apart faults _ => exact overlooks_modify apart faults
  | outside _ => exact overlooks_outside _
  | report _ => exact overlooks_lift (World.overlooks_onOutside _)
  | connect => exact overlooks_connect shows
  | read a c default blind _ => exact overlooks_read shows a c default fun s => blind s _

end Sessions

end Operation

/-! ## Keeping -/

namespace Keeping

open Operation

variable {conv : String} {hidden : Entries → Bool}

/-- The document that is found is one of the conversation. -/
theorem gives_getSession (conv : String) :
    (getSession conv).Gives fun found =>
      ∀ es, found = some es → es.lookup "conversation_id" = some (.text conv) := by
  refine gives_bind gives_any fun _ _ => gives_orStorageFailure ?_
  have read : (read .findOne .sessions none (·.session? conv)).Gives fun found =>
      ∀ doc, found = some doc → doc.holdsAll (Store.sessionOf conv) = true :=
    gives_read (fun _ none => nomatch none) fun _ _ found => Store.holdsAll_of_session? found
  refine gives_bind read fun found mine => ?_
  cases found with
  | none => exact gives_pure fun _ none => nomatch none
  | some doc =>
    refine gives_bind (gives_ofExcept fun _ => id) fun es text => gives_pure fun _ same => ?_
    cases same
    rw [Entries.lookup_of_withIdText? text (by decide) (by decide)]
    exact Store.holdsAll_sessionOf.mp (mine doc rfl)

/-- A context that is loaded is one of the conversation. -/
theorem gives_load (conv : String) :
    (load conv).Gives fun found => ∀ c, found = some c → c.conversationId = conv := by
  refine gives_bind (gives_attempt (gives_getSession conv)) ?_
  rintro (f | _ | es) mine
  · dsimp only
    split
    · exact gives_throw
    · exact gives_bind gives_any fun _ _ => gives_pure fun _ none => nomatch none
  · exact gives_pure fun _ none => nomatch none
  · refine gives_bind gives_any fun now _ => ?_
    cases read : readSession? now es with
    | error f =>
      exact gives_bind gives_any fun _ _ => gives_bind gives_any fun _ _ =>
        gives_pure fun _ none => nomatch none
    | ok pair =>
      obtain ⟨session, history⟩ := pair
      refine gives_bind gives_any fun now' _ => gives_bind gives_any fun resumable _ => ?_
      cases resumable with
      | false => exact gives_bind gives_any fun _ _ => gives_pure fun _ none => nomatch none
      | true =>
        refine gives_pure fun c same => ?_
        cases same
        have text := (Session.isReadFrom (read_of_readSession? read)).conversation
        rw [mine _ rfl es rfl] at text
        exact (Value.text.inj (Option.some.inj text)).symm

section

variable (shows : Store.Shows conv hidden)

include shows

theorem overlooks_discard : Overlooks conv hidden (discard conv) := by
  refine overlooks_bind (overlooks_attempt (overlooks_deleteSession shows)) ?_
  rintro (f | _)
  · dsimp only
    split
    · exact overlooks_throw _
    · exact overlooks_warn _
  · exact overlooks_pure _

theorem overlooks_load : Overlooks conv hidden (load conv) := by
  refine overlooks_bind (overlooks_attempt (overlooks_getSession shows)) ?_
  rintro (f | _ | doc)
  · dsimp only
    split
    · exact overlooks_throw _
    · exact overlooks_bind (overlooks_reportError _) fun _ => overlooks_pure _
  · exact overlooks_pure _
  · refine overlooks_bind overlooks_now fun now => ?_
    cases readSession? now doc with
    | error _ =>
      exact overlooks_bind (overlooks_reportError _) fun _ =>
        overlooks_bind (overlooks_discard shows) fun _ => overlooks_pure _
    | ok read =>
      obtain ⟨session, history⟩ := read
      refine overlooks_bind overlooks_now fun now => ?_
      refine overlooks_bind (overlooks_ofExcept _) fun resumable => ?_
      cases resumable with
      | true => exact overlooks_pure _
      | false => exact overlooks_bind (overlooks_discard shows) fun _ => overlooks_pure _

theorem overlooks_store {c : Context} (mine : c.conversationId = conv) (now expiresAt : Moment) :
    Overlooks conv hidden (store c now expiresAt) := by
  subst mine
  unfold store
  split
  · refine overlooks_bind (overlooks_insertSession shows rfl) fun inserted => ?_
    cases inserted with
    | true => exact overlooks_pure _
    | false => exact overlooks_throw _
  · refine overlooks_bind (overlooks_updateSession shows ?_) fun sequence => ?_
    · rw [Context.map_fst_savedFields]
      decide
    · cases sequence with
      | some n => exact overlooks_pure _
      | none => exact overlooks_throw _

theorem overlooks_save {c : Context} (mine : c.conversationId = conv) (hours : Int) :
    World.Overlooks conv hidden (save hours c) := by
  intro w minds
  have now : (w.without hidden).now = w.now := rfl
  cases timely : expiry? w.now hours with
  | error f =>
    rw [save_of_expiry_error timely, save_of_expiry_error (w := w.without hidden) timely]
    exact ⟨rfl, .refl minds⟩
  | ok e =>
    obtain ⟨same, left⟩ := overlooks_store shows (c := { c with lastActivityAt := w.now }) mine w.now e
      w minds
    rw [save_of_store timely, save_of_store (w := w.without hidden) timely, now, same]
    generalize (store { c with lastActivityAt := w.now } w.now e).run w = r at left ⊢
    obtain ⟨f | n, v⟩ := r
    · dsimp only
      cases isStorage f with
      | true => exact ⟨rfl, left.concealed, left.minds⟩
      | false => exact ⟨rfl, left⟩
    · exact ⟨rfl, left⟩

theorem overlooks_clear : Overlooks conv hidden (clear conv) := by
  refine overlooks_bind (overlooks_attempt <| overlooks_bind (overlooks_completeSession shows)
    fun _ => overlooks_deleteSession shows) ?_
  rintro (f | _)
  · dsimp only
    split
    · exact overlooks_throw _
    · exact overlooks_reportError _
  · exact overlooks_pure _

end

end Keeping

/-! ## Answering -/

namespace Interpreter

open ChatFlow.Flow (Definition)

open Operation

variable {hidden : Entries → Bool} {i : Interpreter} {m : Inbound} {d : Definition} {c : Context}

/-- A turn goes on with the run of its context. -/
theorem gives_turn (i : Interpreter) (d : Definition) (c : Context) (reply : Option String) :
    (i.turn d c reply).Gives fun p => p.2.Continues c := by
  intro w v p run
  rw [turn_run] at run
  have same := Except.ok.inj (congrArg Prod.fst run)
  rw [← same]
  exact Turn.takeTurn_continues i.registry i.maxHops d c reply w.outside

/-- A resumed context is one of the conversation. -/
theorem gives_resume (conv : String) :
    (resume conv).Gives fun found => ∀ c d, found = some (c, d) → c.conversationId = conv := by
  refine gives_bind (Keeping.gives_load conv) fun found mine => ?_
  cases found with
  | none => exact gives_pure fun _ _ none => nomatch none
  | some context =>
    refine gives_bind gives_any fun definition _ => ?_
    split
    · refine gives_pure fun c d same => ?_
      cases same
      exact mine context rfl
    · exact gives_bind gives_any fun _ _ => gives_bind gives_any fun _ _ =>
        gives_pure fun _ _ none => nomatch none

theorem overlooks_turn {conv : String} (reply : Option String) :
    Overlooks conv hidden (i.turn d c reply) :=
  overlooks_lift (World.overlooks_onOutside _)

section

variable {conv : String} (shows : Store.Shows conv hidden)

include shows

theorem overlooks_resume : Overlooks conv hidden (resume conv) := by
  refine overlooks_bind (Keeping.overlooks_load shows) fun found => ?_
  cases found with
  | none => exact overlooks_pure _
  | some context =>
    refine overlooks_bind (IsReading.overlooks shows (Library.isReading_load _ _)) fun definition => ?_
    split
    · exact overlooks_pure _
    · exact overlooks_bind (overlooks_warn _) fun _ =>
        overlooks_bind (Keeping.overlooks_clear shows) fun _ => overlooks_pure _

theorem overlooks_countRun (flowId : String) (success : Bool) :
    Overlooks conv hidden (countRun flowId success) := by
  have counts (now : Moment) : Overlooks conv hidden
      (write .updateOne .flows false (Store.countRun now flowId success)) := by
    refine overlooks_write shows _ _ _ (fun s => ?_) fun s r t counted => ?_
    · have flow : (s.without hidden).flow? flowId = s.flow? flowId := rfl
      rw [Store.countRun, Store.countRun, flow]
      split
      · rfl
      · split <;> rfl
    · unfold Store.countRun at counted
      split at counted
      · cases counted
        rfl
      · split at counted
        · cases counted
        · cases counted
          rfl
  refine overlooks_bind (overlooks_bind (overlooks_connect shows) fun _ =>
    overlooks_orLog _ <| overlooks_bind overlooks_now fun now => counts now) fun counted => ?_
  cases counted with
  | true => exact overlooks_pure _
  | false => exact overlooks_warn _

theorem overlooks_save (mine : c.conversationId = conv) : Overlooks conv hidden (i.save c) := by
  intro w minds
  obtain ⟨same, left⟩ := Keeping.overlooks_save shows mine i.sessionHours w minds
  rw [save_run, save_run, same]
  exact ⟨rfl, left⟩

end

variable (shows : Store.Shows m.conversationId hidden)

include shows

theorem overlooks_start : Overlooks m.conversationId hidden (i.start m d) := by
  refine overlooks_bind overlooks_now fun now => ?_
  refine overlooks_bind_of (P := fun c => c.conversationId = m.conversationId)
    (gives_ofExcept fun c created => (Context.fresh_of_create? created).2) (overlooks_ofExcept _)
    fun c mine => ?_
  refine overlooks_bind_of (gives_turn _ _ _ _) (overlooks_turn _) fun p run => ?_
  dsimp only
  split
  · exact overlooks_bind (overlooks_countRun shows _ _) fun _ => overlooks_pure _
  · split
    · exact overlooks_bind (overlooks_save shows (run.conversationId.trans mine)) fun _ =>
        overlooks_pure _
    · exact overlooks_pure _

theorem overlooks_proceed (mine : c.conversationId = m.conversationId) :
    Overlooks m.conversationId hidden (i.proceed m c d) := by
  refine overlooks_bind_of (gives_turn _ _ _ _) (overlooks_turn _) fun p run => ?_
  dsimp only
  split
  · exact overlooks_bind (Keeping.overlooks_clear shows) fun _ =>
      overlooks_bind (overlooks_countRun shows _ _) fun _ => overlooks_pure _
  · split
    · exact overlooks_bind (Keeping.overlooks_clear shows) fun _ => overlooks_pure _
    · exact overlooks_bind (overlooks_save shows (run.conversationId.trans mine)) fun _ =>
        overlooks_pure _

theorem overlooks_respond : Overlooks m.conversationId hidden (i.respond m) := by
  refine overlooks_bind_of (gives_resume _) (overlooks_resume shows) fun found mine => ?_
  cases found with
  | some p =>
    obtain ⟨c, d⟩ := p
    exact overlooks_proceed shows (mine c d rfl)
  | none =>
    refine overlooks_bind (IsReading.overlooks shows (Dispatch.isReading_find _ _ _ _)) fun found => ?_
    cases found with
    | none => exact overlooks_bind overlooks_now fun _ => overlooks_pure _
    | some d => exact overlooks_start shows

/-- Answering a message overlooks the sessions of other conversations. -/
theorem overlooks_process (i : Interpreter) :
    World.Overlooks m.conversationId hidden (i.process m) := by
  refine World.overlooks_bind (overlooks_respond shows) fun result => ?_
  have excuse (e : Moment → Outcome) :
      World.Overlooks m.conversationId hidden (do return e (← get).now) :=
    fun _ minds => ⟨rfl, .refl minds⟩
  match result with
  | .ok outcome => exact World.overlooks_pure outcome
  | .error cause =>
    cases cause with
    | conflict _ _ => exact World.overlooks_bind (World.overlooks_onOutside _) fun _ => excuse concurrent
    | _ =>
      refine World.overlooks_bind (World.overlooks_onOutside _) fun _ =>
        World.overlooks_bind (Keeping.overlooks_clear shows) fun cleared => ?_
      cases cleared with
      | ok _ => exact excuse (broken · _)
      | error _ =>
        exact World.overlooks_bind (World.overlooks_onOutside _) fun _ => excuse (broken · _)

end Interpreter

end ChatFlow
