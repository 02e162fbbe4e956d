import ChatFlow.Proofs.World.Quiet

/-!
Worlds in which faults wait.

Whatever an operation does, the faults that wait after it are those that waited before, with fewer
strikes left (`Operation.Spends`). So a property of faults that has nothing to do with the number of
their strikes holds on as long as the service works: that a client can be created
(`World.IsReachable`), that they only wait for reads (`World.LetsWrite`), or that none of them lets
another writer in (`World.IsAlone`).

The second section is about accesses that only look at the store. In a world without other writers they
leave it as it is, whatever strikes (`World.Looks`).
-/

namespace ChatFlow

/-! ## What is left of faults -/

namespace Fault

/-- The first fault is the second after some strikes. -/
def IsLeftOf (g f : Fault) : Prop :=
  g.times ≤ f.times ∧ g = { f with times := g.times }

theorem IsLeftOf.refl (f : Fault) : f.IsLeftOf f := ⟨Nat.le_refl _, rfl⟩

theorem IsLeftOf.trans {h g f : Fault} (hg : h.IsLeftOf g) (gf : g.IsLeftOf f) : h.IsLeftOf f := by
  obtain ⟨fewer, same⟩ := hg
  obtain ⟨fewer', same'⟩ := gf
  refine ⟨Nat.le_trans fewer fewer', ?_⟩
  rw [same'] at same
  exact same

theorem IsLeftOf.access {g f : Fault} (h : g.IsLeftOf f) : g.access = f.access := by
  rw [h.2]

theorem IsLeftOf.before {g f : Fault} (h : g.IsLeftOf f) : g.before = f.before := by
  rw [h.2]

/-- The fault that strikes is one of those that waited, and what waits on is left of them. -/
theorem isLeftOf_of_strike {a : Access} {c : Option Collection} {faults left : List Fault} {f : Fault}
    (strike : strike? a c faults = some (f, left)) :
    f ∈ faults ∧ ∀ g ∈ left, ∃ h ∈ faults, g.IsLeftOf h := by
  induction faults generalizing left with
  | nil => cases strike
  | cons h rest ih =>
    rw [strike?] at strike
    split at strike
    · cases strike
      refine ⟨List.mem_cons_self, fun g here => ?_⟩
      rcases List.mem_cons.mp here with rfl | later
      · exact ⟨f, List.mem_cons_self, Nat.sub_le _ _, rfl⟩
      · exact ⟨g, List.mem_cons_of_mem _ later, .refl g⟩
    · cases struck : strike? a c rest with
      | none =>
        rw [struck] at strike
        cases strike
      | some p =>
        rw [struck] at strike
        cases strike
        obtain ⟨here, others⟩ := ih struck
        refine ⟨List.mem_cons_of_mem _ here, fun g mem => ?_⟩
        rcases List.mem_cons.mp mem with rfl | later
        · exact ⟨g, List.mem_cons_self, .refl g⟩
        · obtain ⟨k, old, left⟩ := others g later
          exact ⟨k, List.mem_cons_of_mem _ old, left⟩

end Fault

namespace World

/-- No fault lets another writer in. -/
def IsAlone (w : World) : Prop :=
  ∀ f ∈ w.faults, f.before = none

/-- The next look-up of a session fails or finds nothing. -/
def HidesSession (w : World) : Prop :=
  ∃ f left, Fault.strike? .findOne (some .sessions) w.faults = some (f, left) ∧
    Operation.struck f.effect ≠ .ok false

/-- The world without its faults. -/
def calmed (w : World) : World := { w with faults := [] }

/-- The faults of the second world are left of those of the first. -/
def Spends (w v : World) : Prop :=
  ∀ g ∈ v.faults, ∃ f ∈ w.faults, g.IsLeftOf f

variable {w v u : World}

theorem IsQuiet.isAlone (h : w.IsQuiet) : w.IsAlone := by
  intro f here
  rw [h] at here
  cases here

theorem Spends.of_faults (same : v.faults = w.faults) : w.Spends v := by
  intro g here
  rw [same] at here
  exact ⟨g, here, .refl g⟩

theorem Spends.refl (w : World) : w.Spends w := .of_faults rfl

theorem Spends.trans (first : w.Spends v) (second : v.Spends u) : w.Spends u := by
  intro h here
  obtain ⟨g, waited, left⟩ := second h here
  obtain ⟨f, old, left'⟩ := first g waited
  exact ⟨f, old, left.trans left'⟩

theorem Spends.isQuiet (h : w.Spends v) (quiet : w.IsQuiet) : v.IsQuiet := by
  rw [IsQuiet, List.eq_nil_iff_forall_not_mem]
  intro g here
  obtain ⟨f, old, -⟩ := h g here
  rw [quiet] at old
  cases old

theorem Spends.isAlone (h : w.Spends v) (alone : w.IsAlone) : v.IsAlone := by
  intro g here
  obtain ⟨f, old, left⟩ := h g here
  rw [left.before]
  exact alone f old

theorem Spends.isReachable (h : w.Spends v) (reachable : w.IsReachable) : v.IsReachable := by
  intro g here
  obtain ⟨f, old, left⟩ := h g here
  rw [left.access]
  exact reachable f old

theorem Spends.letsWrite (h : w.Spends v) (writes : w.LetsWrite) : v.LetsWrite := by
  intro g here
  obtain ⟨f, old, left⟩ := h g here
  rw [left.access]
  exact writes f old

end World

namespace Operation

variable {α β : Type} {x : Operation α} {f : α → Operation β}

/-- The operation spends faults and brings none. -/
def Spends (x : Operation α) : Prop :=
  ∀ w : World, w.Spends (x.run w).2

theorem spends_pure (a : α) : (pure a : Operation α).Spends := fun w => .refl w

theorem spends_throw (e : Failure) : (throw e : Operation α).Spends := fun w => .refl w

theorem spends_ofExcept (e : Except Failure α) : (ofExcept e).Spends := by
  intro w
  rw [run_ofExcept]
  exact .refl w

theorem spends_bind (hx : x.Spends) (hf : ∀ a, (f a).Spends) : (x >>= f).Spends := by
  intro w
  have first := hx w
  rw [run_bind]
  generalize x.run w = r at first ⊢
  obtain ⟨e | a, v⟩ := r
  · exact first
  · exact first.trans (hf a v)

theorem spends_attempt (hx : x.Spends) : (attempt x).Spends := hx

/-- A part that looks at the world. -/
theorem spends_get {f : World → Operation β} (hf : ∀ w, (f w).Spends) : (get >>= f).Spends :=
  fun w => hf w w

/-- A part that changes the world, but not its faults. -/
theorem spends_modify {f : World → World} (same : ∀ w, (f w).faults = w.faults) :
    (modify f : Operation Unit).Spends := fun w => .of_faults (same w)

/-- An activity on the outside. -/
theorem spends_onOutside (x : StateM Outside α) : (liftM (World.onOutside x) : Operation α).Spends :=
  fun _ => .of_faults rfl

theorem spends_now : now.Spends := fun w => .refl w

theorem spends_orStorageFailure (hx : x.Spends) : (orStorageFailure x).Spends :=
  spends_bind (spends_attempt hx) fun
    | .ok _ => spends_pure _
    | .error _ => spends_bind (spends_onOutside _) fun _ => spends_throw _

theorem spends_orLog (default : α) (hx : x.Spends) : (orLog default x).Spends :=
  spends_bind (spends_attempt hx) fun
    | .ok _ => spends_pure _
    | .error _ => spends_bind (spends_onOutside _) fun _ => spends_pure _

/-! ### Accesses -/

theorem spends_disturb (a : Access) (c : Option Collection) : (disturb a c).Spends := by
  intro w
  rw [disturb_eq]
  cases strike : Fault.strike? a c w.faults with
  | none => exact .refl w
  | some p => exact (Fault.isLeftOf_of_strike strike).2

theorem spends_connect : connect.Spends := by
  refine spends_get fun w => ?_
  split
  · exact spends_bind (spends_disturb _ _) fun _ => spends_modify fun _ => rfl
  · exact spends_pure _

theorem spends_read (a : Access) (c : Collection) (default : α) (f : Store → α) :
    (read a c default f).Spends := by
  refine spends_bind (spends_disturb _ _) fun misses => ?_
  split
  · exact spends_pure _
  · exact spends_get fun _ => spends_pure _

theorem spends_change (f : Store → Except Failure (α × Store)) :
    (do
      let (result, store) ← ofExcept (f (← get).store)
      modify fun w => { w with store }
      return result : Operation α).Spends :=
  spends_get fun _ => spends_bind (spends_ofExcept _) fun _ =>
    spends_bind (spends_modify fun _ => rfl) fun _ => spends_pure _

theorem spends_write (a : Access) (c : Collection) (default : α)
    (f : Store → Except Failure (α × Store)) : (write a c default f).Spends := by
  refine spends_bind (spends_disturb _ _) fun misses => ?_
  split
  · exact spends_pure _
  · exact spends_change f

theorem spends_getSession (conv : String) : (getSession conv).Spends :=
  spends_bind spends_connect fun _ => spends_orStorageFailure <|
    spends_bind (spends_read _ _ _ _) fun
      | none => spends_pure _
      | some _ => spends_bind (spends_ofExcept _) fun _ => spends_pure _

theorem spends_insertSession (session : Session) : (insertSession session).Spends := by
  refine spends_bind spends_connect fun _ => spends_bind (spends_attempt <|
    spends_bind (spends_disturb _ _) fun _ => spends_change _) ?_
  rintro (cause | inserted)
  · dsimp only
    split
    · exact spends_pure _
    · exact spends_bind (spends_onOutside _) fun _ => spends_throw _
  · exact spends_pure _

theorem spends_updateSession (conv : String) (expected : Int) (fields : Entries) :
    (updateSession conv expected fields).Spends :=
  spends_bind spends_connect fun _ => spends_orStorageFailure <|
    spends_bind (spends_write _ _ _ _) fun _ => spends_pure _

theorem spends_completeSession (conv : String) : (completeSession conv).Spends :=
  spends_bind spends_connect fun _ => spends_orStorageFailure <|
    spends_bind spends_now fun _ => spends_write _ _ _ _

theorem spends_deleteSession (conv : String) : (deleteSession conv).Spends :=
  spends_bind spends_connect fun _ => spends_orStorageFailure <| spends_write _ _ _ _

theorem spends_countRun (id : String) (success : Bool) : (countRun id success).Spends :=
  spends_bind spends_connect fun _ => spends_orLog _ <|
    spends_bind spends_now fun _ => spends_write _ _ _ _

end Operation

/-! ## Looking at the store -/

namespace World

/-- What happened between the two worlds looked at the store at most: without other writers it is as it
was. -/
structure Looks (w v : World) : Prop where
  spends : w.Spends v
  now : v.now = w.now
  store : w.IsAlone → v.store = w.store

namespace Looks

variable {w v u : World}

theorem refl (w : World) : w.Looks w := ⟨.refl w, rfl, fun _ => rfl⟩

theorem trans (first : w.Looks v) (second : v.Looks u) : w.Looks u where
  spends := first.spends.trans second.spends
  now := second.now.trans first.now
  store alone := (second.store (first.spends.isAlone alone)).trans (first.store alone)

/-- The client, the log and the definitions in memory are not what is looked at. -/
theorem of_same (store : v.store = w.store) (faults : v.faults = w.faults) (now : v.now = w.now) :
    w.Looks v := ⟨.of_faults faults, now, fun _ => store⟩

theorem joined (w : World) : w.Looks w.joined := of_same rfl rfl rfl

/-- In a quiet world looking is reading. -/
theorem reads (h : w.Looks v) (quiet : w.IsQuiet) : w.Reads v where
  store := h.store quiet.isAlone
  faults := (h.spends.isQuiet quiet).trans quiet.symm
  now := h.now

end Looks

end World

namespace Operation

variable {α : Type} {w : World}

theorem looks_disturb (a : Access) (c : Option Collection) (w : World) :
    w.Looks ((disturb a c).run w).2 := by
  refine ⟨spends_disturb a c w, ?_, fun alone => ?_⟩
  · rw [disturb_eq]
    cases Fault.strike? a c w.faults <;> rfl
  · rw [disturb_eq]
    cases strike : Fault.strike? a c w.faults with
    | none => rfl
    | some p =>
      obtain ⟨f, left⟩ := p
      have nobody : f.before = none := alone f (Fault.isLeftOf_of_strike strike).1
      show written f.before w.store = w.store
      rw [nobody]
      rfl

/-- Connecting succeeds or fails, and looks at nothing. -/
theorem looks_connect (w : World) : w.Looks (connect.run w).2 := by
  rw [connect, run_bind, run_get]
  dsimp only
  split
  · have looks := looks_disturb .connect none w
    rw [run_bind]
    generalize (disturb .connect none).run w = r at looks ⊢
    obtain ⟨e | _, v⟩ := r
    · exact looks
    · exact looks.trans (.of_same rfl rfl rfl)
  · exact .refl w

/-- A read fails, misses, or gives what it sees; it looks at the store only. -/
theorem read_cases (a : Access) (c : Collection) (default : α) (f : Store → α) (w : World) :
    ∃ v, w.Looks v ∧ ((∃ e, (read a c default f).run w = (.error e, v))
      ∨ (read a c default f).run w = (.ok default, v)
      ∨ (read a c default f).run w = (.ok (f v.store), v)) := by
  have looks := looks_disturb a (some c) w
  refine ⟨_, looks, ?_⟩
  rw [read, run_bind]
  generalize (disturb a (some c)).run w = r
  obtain ⟨e | _ | _, v⟩ := r
  · exact .inl ⟨e, rfl⟩
  · exact .inr (.inr rfl)
  · exact .inr (.inl rfl)

/-- A write fails, misses, or makes its change of the store that it meets; nothing else is written. -/
theorem write_cases (a : Access) (c : Collection) (default : α) (f : Store → Except Failure (α × Store))
    (w : World) : ∃ v, w.Looks v ∧ ((∃ e, (write a c default f).run w = (.error e, v))
      ∨ (write a c default f).run w = (.ok default, v)
      ∨ ∃ r s, f v.store = .ok (r, s) ∧ (write a c default f).run w = (.ok r, v.withStore s)) := by
  have looks := looks_disturb a (some c) w
  refine ⟨_, looks, ?_⟩
  rw [write, run_bind]
  generalize (disturb a (some c)).run w = r
  obtain ⟨e | _ | _, v⟩ := r
  · exact .inl ⟨e, rfl⟩
  · have change := change_run f v
    dsimp only
    cases changed : f v.store with
    | error e =>
      rw [changed] at change
      exact .inl ⟨e, change⟩
    | ok p =>
      rw [changed] at change
      exact .inr (.inr ⟨p.1, p.2, rfl, change⟩)
  · exact .inr (.inl rfl)

/-- An insertion fails, finds another session, or adds the document of the session. -/
theorem insertSession_cases (session : Session) (w : World) :
    ∃ v, w.Looks v ∧ ((∃ f, (insertSession session).run w = (.error f, v))
      ∨ (insertSession session).run w = (.ok false, v)
      ∨ v.store.session? session.conversationId = none ∧
        (insertSession session).run w = (.ok true, v.withStore (v.store.change .sessions
          (· ++ [("_id", .text session.conversationId) :: session.toEntries])))) := by
  have connects := looks_connect w
  rw [insertSession, run_bind]
  generalize connect.run w = r at connects
  obtain ⟨f | _, u⟩ := r
  · exact ⟨u, connects, .inl ⟨f, rfl⟩⟩
  · have looks := looks_disturb .insertOne (some .sessions) u
    dsimp only at connects ⊢
    rw [run_bind, run_attempt, run_bind]
    generalize (disturb .insertOne (some .sessions)).run u = r at looks
    obtain ⟨cause | misses, v⟩ := r
    · dsimp only
      split
      · exact ⟨v, connects.trans looks, .inr (.inl rfl)⟩
      · exact ⟨v.noted .error storeComponent, (connects.trans looks).trans (.of_same rfl rfl rfl),
          .inl ⟨_, rfl⟩⟩
    · refine ⟨v, connects.trans looks, .inr ?_⟩
      simp only [run_bind, run_get, run_ofExcept, Store.insertSession]
      by_cases present : (v.store.session? session.conversationId).isSome = true
      · rw [if_pos present]
        exact .inl rfl
      · rw [if_neg present]
        exact .inr ⟨by simpa using present, rfl⟩

/-- A conditional update fails, finds no session with the sequence number, or advances the session. -/
theorem updateSession_cases (conv : String) (expected : Int) (fields : Entries) (w : World) :
    ∃ v, w.Looks v ∧ ((∃ f, (updateSession conv expected fields).run w = (.error f, v))
      ∨ (updateSession conv expected fields).run w = (.ok none, v)
      ∨ ∃ doc, v.store.sessions.find? (Store.sessionAt conv expected) = some doc ∧
        (updateSession conv expected fields).run w
          = (.ok (some (sequenceOf (Store.advanced fields doc))), v.withStore (v.store.change .sessions
              (Documents.modifyFirst (Store.sessionAt conv expected) (Store.advanced fields))))) := by
  have connects := looks_connect w
  rw [updateSession, run_bind]
  generalize connect.run w = r at connects
  obtain ⟨f | _, u⟩ := r
  · exact ⟨u, connects, .inl ⟨f, rfl⟩⟩
  · obtain ⟨v, looks, writes⟩ := write_cases .findOneAndUpdate .sessions none
      (Store.updateSession conv expected fields) u
    have looks := connects.trans looks
    dsimp only
    rw [orStorageFailure_run, run_bind]
    rcases writes with ⟨e, run⟩ | run | ⟨r, s, changed, run⟩
    · rw [run]
      exact ⟨v.noted .error storeComponent, looks.trans (.of_same rfl rfl rfl), .inl ⟨_, rfl⟩⟩
    · rw [run]
      exact ⟨v, looks, .inr (.inl rfl)⟩
    · rw [run]
      unfold Store.updateSession at changed
      cases found : v.store.sessions.find? (Store.sessionAt conv expected) with
      | none =>
        rw [found] at changed
        cases changed
        exact ⟨v, looks, .inr (.inl rfl)⟩
      | some doc =>
        rw [found] at changed
        cases changed
        exact ⟨v, looks, .inr (.inr ⟨doc, found, rfl⟩)⟩

/-- What looking for a session may come to: its document, nothing, or a failure. The failure is one that
the store passes on, unless there was no client. -/
inductive Sought (conv : String) (w : World) : Except Failure (Option Entries) × World → Prop
  | found (doc es : Entries) (v : World) (looks : w.Looks v)
    (stored : v.store.session? conv = some doc) (text : doc.withIdText? = .ok es) :
    Sought conv w (.ok (some es), v)
  | nothing (v : World) (looks : w.Looks v) : Sought conv w (.ok none, v)
  | fails (f : Failure) (v : World) (looks : w.Looks v)
    (passed : w.LetsWrite → ∃ cause, f = storageFailure cause) : Sought conv w (.error f, v)

theorem getSession_cases (conv : String) (w : World) : Sought conv w ((getSession conv).run w) := by
  have connects := looks_connect w
  rw [getSession, run_bind]
  cases client : connect.run w with
  | mk result u =>
    rw [client] at connects
    cases result with
    | error f =>
      refine .fails f u connects fun writes => ?_
      rw [connect_run writes.isReachable] at client
      cases client
    | ok _ =>
      obtain ⟨v, looks, reads⟩ := read_cases .findOne .sessions none (·.session? conv) u
      have looks := connects.trans looks
      dsimp only
      rw [orStorageFailure_run, run_bind]
      rcases reads with ⟨cause, run⟩ | run | run
      · rw [run]
        exact .fails _ _ (looks.trans (.of_same rfl rfl rfl)) fun _ => ⟨cause, rfl⟩
      · rw [run]
        exact .nothing v looks
      · rw [run]
        dsimp only
        cases stored : v.store.session? conv with
        | none => exact .nothing v looks
        | some doc =>
          dsimp only
          rw [run_bind, run_ofExcept]
          cases text : doc.withIdText? with
          | error cause => exact .fails _ _ (looks.trans (.of_same rfl rfl rfl)) fun _ => ⟨cause, rfl⟩
          | ok es => exact .found doc es v looks stored text

end Operation

end ChatFlow
