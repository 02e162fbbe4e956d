import ChatFlow.Store.SessionAccess

/-!
Operations in a quiet world, one in which no fault waits.

Every operation of the service is a sequence of accesses, and every access may be disturbed. Where no
fault waits each access is a function of the store. The first section says how the result of a compound
operation comes from the results of its parts; the others give, for each access, its result and the
world that it leaves. An access that writes only needs the faults to wait for something else
(`World.LetsWrite`).
-/

namespace ChatFlow

/-- An activity that cannot fail goes on with the result and the state of its first part. -/
theorem StateM.bind_apply {σ α β : Type} (x : StateM σ α) (f : α → StateM σ β) (s : σ) :
    (x >>= f) s = f (x s).1 (x s).2 := rfl

theorem StateM.get_apply {σ : Type} (s : σ) : (get : StateM σ σ) s = (s, s) := rfl

/-- The failure is a conflict over a session. -/
def Failure.IsConflict (f : Failure) : Prop := ∃ conv n, f = .conflict conv n

/-- The sort of access only reads documents. -/
def Access.reads : Access → Bool
  | findOne | find => true
  | _ => false

/-- Faults that wait for other accesses do not strike. -/
theorem Fault.strike?_eq_none {a : Access} {c : Option Collection} {faults : List Fault}
    (other : ∀ f ∈ faults, f.access ≠ a) : strike? a c faults = none := by
  induction faults with
  | nil => rfl
  | cons f rest ih =>
    have apart : f.fits a c = false := by
      simp [fits, other f List.mem_cons_self]
    rw [strike?, apart, ih fun g later => other g (List.mem_cons_of_mem f later)]
    rfl

/-- The store after another writer wrote, if one did. -/
def written (before : Option (Collection × Entries)) (s : Store) : Store :=
  match before with
  | some (c, doc) => s.put c doc
  | none => s

namespace World

/-- No fault waits for an access. -/
def IsQuiet (w : World) : Prop := w.faults = []

/-- All faults wait for accesses that read. -/
def LetsWrite (w : World) : Prop :=
  ∀ f ∈ w.faults, f.access.reads = true

/-- No fault waits for the creation of a client. -/
def IsReachable (w : World) : Prop :=
  ∀ f ∈ w.faults, f.access ≠ .connect

/-- The world with a client of the store. -/
def joined (w : World) : World := { w with connected := true }

/-- The world with one more log line. -/
def noted (weight : Weight) (component : String) (w : World) : World :=
  { w with outside := w.outside.note weight component }

/-- The world with another store. -/
def withStore (w : World) (s : Store) : World := { w with store := s }

/-- The world with another outside. -/
def withOutside (w : World) (o : Outside) : World := { w with outside := o }

section Fields

variable (w : World) (weight : Weight) (component : String) (s : Store) (o : Outside)

@[simp] theorem joined_store : w.joined.store = w.store := rfl
@[simp] theorem joined_outside : w.joined.outside = w.outside := rfl
@[simp] theorem joined_now : w.joined.now = w.now := rfl
@[simp] theorem withStore_store : (w.withStore s).store = s := rfl
@[simp] theorem withOutside_store : (w.withOutside o).store = w.store := rfl

@[simp] theorem isQuiet_joined : w.joined.IsQuiet ↔ w.IsQuiet := Iff.rfl
@[simp] theorem letsWrite_joined : w.joined.LetsWrite ↔ w.LetsWrite := Iff.rfl
@[simp] theorem isReachable_joined : w.joined.IsReachable ↔ w.IsReachable := Iff.rfl

theorem reportError_apply : reportError component w = ((), w.noted .error component) := rfl

end Fields

theorem IsQuiet.letsWrite {w : World} (h : w.IsQuiet) : w.LetsWrite := by
  intro f here
  rw [h] at here
  cases here

/-- The creation of a client is no read. -/
theorem LetsWrite.isReachable {w : World} (h : w.LetsWrite) : w.IsReachable := by
  intro f here same
  have reads := h f here
  rw [same] at reads
  cases reads

/-- What may have changed between two worlds is the log, the client and the definitions in memory. -/
structure Reads (w v : World) : Prop where
  store : v.store = w.store
  faults : v.faults = w.faults
  now : v.now = w.now

namespace Reads

theorem refl (w : World) : w.Reads w := ⟨rfl, rfl, rfl⟩

theorem trans {u v w : World} (uv : u.Reads v) (vw : v.Reads w) : u.Reads w :=
  ⟨vw.store.trans uv.store, vw.faults.trans uv.faults, vw.now.trans uv.now⟩

theorem isQuiet {w v : World} (h : w.Reads v) (quiet : w.IsQuiet) : v.IsQuiet :=
  h.faults.trans quiet

end Reads

end World

namespace Operation

variable {α β : Type} {w : World}

/-! ## Compound operations -/

theorem run_pure (a : α) (w : World) : (pure a : Operation α).run w = (.ok a, w) := rfl

/-- What follows a failed part is not done. -/
theorem run_bind (x : Operation α) (f : α → Operation β) (w : World) :
    (x >>= f).run w = match x.run w with
      | (.ok a, v) => (f a).run v
      | (.error e, v) => (.error e, v) := by
  show ExceptT.bindCont f (x.run w).1 (x.run w).2 = _
  rcases x.run w with ⟨_ | _, _⟩ <;> rfl

theorem run_get (w : World) : (get : Operation World).run w = (.ok w, w) := rfl

theorem run_modify (f : World → World) (w : World) :
    (modify f : Operation Unit).run w = (.ok (), f w) := rfl

theorem run_now (w : World) : Operation.now.run w = (.ok w.now, w) := rfl

theorem run_ofExcept (e : Except Failure α) (w : World) : (ofExcept e).run w = (e, w) := by
  cases e <;> rfl

/-- A failure that is caught becomes a value. -/
theorem run_attempt (x : Operation α) (w : World) :
    (attempt x).run w = (.ok (x.run w).1, (x.run w).2) := rfl

theorem run_warn (component : String) (w : World) :
    (liftM (World.warn component) : Operation Unit).run w = (.ok (), w.noted .warning component) := rfl

theorem run_reportError (component : String) (w : World) :
    (liftM (World.reportError component) : Operation Unit).run w
      = (.ok (), w.noted .error component) := rfl

/-! ### Results -/

section Results

variable {x : Operation α} {f : α → Operation β} {P : α → Prop} {Q : β → Prop}

/-- Every result of the operation is as described. -/
def Gives (x : Operation α) (P : α → Prop) : Prop :=
  ∀ w v a, x.run w = (.ok a, v) → P a

theorem gives_any : x.Gives fun _ => True := fun _ _ _ _ => trivial

theorem gives_pure {a : α} (h : P a) : (pure a : Operation α).Gives P := by
  intro w v b run
  have same : (Except.ok a : Except Failure α) = .ok b := congrArg Prod.fst run
  rwa [← Except.ok.inj same]

theorem gives_throw {e : Failure} : (throw e : Operation α).Gives P := by
  intro w v b run
  have same : (Except.error e : Except Failure α) = .ok b := congrArg Prod.fst run
  cases same

theorem gives_ofExcept {e : Except Failure α} (h : ∀ a, e = .ok a → P a) : (ofExcept e).Gives P := by
  intro w v a run
  rw [run_ofExcept] at run
  exact h a (congrArg Prod.fst run)

theorem gives_bind (hx : x.Gives P) (hf : ∀ a, P a → (f a).Gives Q) : (x >>= f).Gives Q := by
  intro w v b run
  rw [run_bind] at run
  cases first : x.run w with
  | mk result u =>
    rw [first] at run
    cases result with
    | error e =>
      have same : (Except.error e : Except Failure β) = .ok b := congrArg Prod.fst run
      cases same
    | ok a => exact hf a (hx w u a first) u v b run

theorem gives_attempt (hx : x.Gives P) : (attempt x).Gives fun r => ∀ a, r = .ok a → P a := by
  intro w v r run a same
  rw [run_attempt] at run
  have result : (x.run w).1 = r := Except.ok.inj (congrArg Prod.fst run)
  exact hx w (x.run w).2 a (Prod.ext (result.trans same) rfl)

theorem gives_orStorageFailure (hx : x.Gives P) : (orStorageFailure x).Gives P :=
  gives_bind (gives_attempt hx) fun
    | .ok a, p => gives_pure (p a rfl)
    | .error _, _ => gives_bind gives_any fun _ _ => gives_throw

theorem gives_read {a : Access} {c : Collection} {default : α} {f : Store → α} (h : P default)
    (hf : ∀ s, P (f s)) : (read a c default f).Gives P :=
  gives_bind gives_any fun misses _ => by
    split
    · exact gives_pure h
    · exact gives_bind gives_any fun _ _ => gives_pure (hf _)

end Results

/-! ## Accesses -/

/-- The result of an access that a fault strikes. -/
def struck : FaultEffect → Except Failure Bool
  | .none => .ok false
  | .fails cause => .error cause
  | .misses => .ok true

/-- A fault that strikes writes first and then has its effect. -/
theorem disturb_eq (a : Access) (c : Option Collection) (w : World) :
    (disturb a c).run w = match Fault.strike? a c w.faults with
      | none => (.ok false, w)
      | some (f, faults) =>
        (struck f.effect, { w with faults, store := written f.before w.store }) := by
  rw [disturb, run_bind, run_get]
  dsimp only
  cases Fault.strike? a c w.faults with
  | none => rfl
  | some p =>
    obtain ⟨⟨access, collection, times, before, effect⟩, faults⟩ := p
    cases effect <;> rfl

theorem disturb_run_of_strike? {a : Access} {c : Option Collection}
    (h : Fault.strike? a c w.faults = none) : (disturb a c).run w = (.ok false, w) := by
  rw [disturb_eq, h]

theorem disturb_run (h : w.IsQuiet) (a : Access) (c : Option Collection) :
    (disturb a c).run w = (.ok false, w) :=
  disturb_run_of_strike? (by rw [h, Fault.strike?_nil])

/-- Faults that wait for reads strike nothing else. -/
theorem disturb_run_of_letsWrite (h : w.LetsWrite) (a : Access) (c : Option Collection)
    (writes : a.reads = false) : (disturb a c).run w = (.ok false, w) := by
  refine disturb_run_of_strike? (Fault.strike?_eq_none fun f here same => ?_)
  have reads := h f here
  rw [same, writes] at reads
  cases reads

theorem connect_run (h : w.IsReachable) : connect.run w = (.ok (), w.joined) := by
  rw [connect, run_bind, run_get]
  dsimp only
  cases connected : w.connected with
  | true =>
    have same : w.joined = w := by rw [World.joined, ← connected]
    rw [same]
    rfl
  | false =>
    have passes : (disturb .connect none).run w = (.ok false, w) :=
      disturb_run_of_strike? (Fault.strike?_eq_none h)
    rw [if_pos (show (!false) = true from rfl), run_bind, passes]
    rfl

theorem read_run (h : w.IsQuiet) (a : Access) (c : Collection) (default : α) (f : Store → α) :
    (read a c default f).run w = (.ok (f w.store), w) := by
  rw [read, run_bind, disturb_run h]
  rfl

/-- A change of the store that fails leaves it as it was. -/
theorem change_run (f : Store → Except Failure (α × Store)) (w : World) :
    ((do
      let (result, store) ← ofExcept (f (← get).store)
      modify fun w => { w with store }
      return result) : Operation α).run w = match f w.store with
        | .ok (r, s) => (.ok r, w.withStore s)
        | .error e => (.error e, w) := by
  simp only [run_bind, run_get, run_ofExcept]
  cases f w.store with
  | ok p => rfl
  | error e => rfl

theorem write_run (h : w.LetsWrite) (a : Access) (c : Collection) (default : α)
    (f : Store → Except Failure (α × Store)) (writes : a.reads = false) :
    (write a c default f).run w = match f w.store with
      | .ok (r, s) => (.ok r, w.withStore s)
      | .error e => (.error e, w) := by
  rw [write, run_bind, disturb_run_of_letsWrite h a _ writes]
  exact change_run f w

/-- A failure is logged, and passed on as a failure of the store. -/
theorem orStorageFailure_run (x : Operation α) (w : World) :
    (orStorageFailure x).run w = match x.run w with
      | (.ok a, v) => (.ok a, v)
      | (.error e, v) => (.error (storageFailure e), v.noted .error storeComponent) := by
  rw [orStorageFailure, run_bind, run_attempt]
  rcases x.run w with ⟨_ | _, _⟩ <;> rfl

/-- A failure is logged, and the default taken instead. -/
theorem orLog_run (default : α) (x : Operation α) (w : World) :
    (orLog default x).run w = match x.run w with
      | (.ok a, v) => (.ok a, v)
      | (.error _, v) => (.ok default, v.noted .error storeComponent) := by
  rw [orLog, run_bind, run_attempt]
  rcases x.run w with ⟨_ | _, _⟩ <;> rfl

theorem orLog_ok (default : α) (x : Operation α) (w : World) :
    ∃ a v, (orLog default x).run w = (.ok a, v) := by
  rw [orLog_run]
  rcases x.run w with ⟨_ | a, v⟩ <;> exact ⟨_, _, rfl⟩

/-! ## Sessions -/

theorem getSession_run (h : w.IsQuiet) (conversationId : String) :
    (getSession conversationId).run w = match w.store.session? conversationId with
      | none => (.ok none, w.joined)
      | some doc =>
        match doc.withIdText? with
        | .ok doc => (.ok (some doc), w.joined)
        | .error e => (.error (storageFailure e), w.joined.noted .error storeComponent) := by
  rw [getSession, run_bind, connect_run h.letsWrite.isReachable]
  simp only [orStorageFailure_run, run_bind, read_run (w.isQuiet_joined.mpr h), World.joined_store]
  cases w.store.session? conversationId with
  | none => rfl
  | some doc =>
    simp only [run_bind, run_ofExcept]
    cases doc.withIdText? <;> rfl

theorem insertSession_run (h : w.LetsWrite) (session : Session) :
    (insertSession session).run w =
      if (w.store.session? session.conversationId).isSome then (.ok false, w.joined)
      else (.ok true, w.joined.withStore (w.store.change .sessions
        (· ++ [("_id", .text session.conversationId) :: session.toEntries]))) := by
  rw [insertSession, run_bind, connect_run h.isReachable]
  have undisturbed := disturb_run_of_letsWrite (w.letsWrite_joined.mpr h) .insertOne
    (some .sessions) rfl
  by_cases present : (w.store.session? session.conversationId).isSome = true
  · have found : Store.insertSession session w.joined.store = .ok (false, w.store) := if_pos present
    rw [if_pos present]
    simp only [run_bind, run_attempt, undisturbed, run_get, run_ofExcept, found]
    rfl
  · have added : Store.insertSession session w.joined.store = .ok (true, w.store.change .sessions
        (· ++ [("_id", .text session.conversationId) :: session.toEntries])) := if_neg present
    rw [if_neg present]
    simp only [run_bind, run_attempt, undisturbed, run_get, run_ofExcept, added]
    rfl

theorem updateSession_run (h : w.LetsWrite) (conversationId : String) (expected : Int)
    (fields : Entries) :
    (updateSession conversationId expected fields).run w =
      match w.store.sessions.find? (Store.sessionAt conversationId expected) with
      | none => (.ok none, w.joined)
      | some doc =>
        (.ok (some (sequenceOf (Store.advanced fields doc))),
          w.joined.withStore (w.store.change .sessions
            (Documents.modifyFirst (Store.sessionAt conversationId expected)
              (Store.advanced fields)))) := by
  rw [updateSession, run_bind, connect_run h.isReachable]
  simp only [orStorageFailure_run, run_bind,
    write_run (w.letsWrite_joined.mpr h) .findOneAndUpdate _ _ _ rfl, World.joined_store,
    Store.updateSession]
  cases Documents.find? w.store.sessions (Store.sessionAt conversationId expected) <;> rfl

theorem completeSession_run (h : w.LetsWrite) (conversationId : String) :
    (completeSession conversationId).run w = (.ok (), w.joined.withStore
      (w.store.change .sessions (Documents.modifyFirst (Store.sessionOf conversationId)
        (Entries.update · [("status", .text Session.completed),
          ("last_activity_at", .date w.now)])))) := by
  rw [completeSession, run_bind, connect_run h.isReachable]
  simp only [orStorageFailure_run, run_bind, run_now,
    write_run (w.letsWrite_joined.mpr h) .updateOne _ _ _ rfl, World.joined_store,
    Store.completeSession]
  rfl

theorem deleteSession_run (h : w.LetsWrite) (conversationId : String) :
    (deleteSession conversationId).run w = (.ok (), w.joined.withStore
      (w.store.change .sessions (Documents.removeFirst (Store.sessionOf conversationId)))) := by
  rw [deleteSession, run_bind, connect_run h.isReachable]
  simp only [orStorageFailure_run,
    write_run (w.letsWrite_joined.mpr h) .deleteOne _ _ _ rfl, World.joined_store,
    Store.deleteSession]

end Operation

end ChatFlow
