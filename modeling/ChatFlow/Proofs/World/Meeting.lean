import ChatFlow.Proofs.World.Faults

/-!
What the next access will meet.

The faults that wait tell of each sort of access whether the next one passes, finds nothing or fails
(`World.meets`). An access of one sort uses up no fault that waits for another, so an operation that only
reads changes nothing about what the next write will meet (`World.Peeks`). That is how the fate of a write
can be told from the faults that waited before the reads that precede it.

So what becomes of the look-up of a session is settled by what the next search meets
(`Operation.getSession_of_meets`), and a write of a session that fails does so with a failure that the
store passes on (`Operation.insertSession_fails`, `Operation.updateSession_fails`).
-/

namespace ChatFlow

/-- The sort of access changes documents. -/
def Access.writes : Access → Bool
  | insertOne | findOneAndUpdate | updateOne | deleteOne => true
  | _ => false

/-! ## Meeting faults -/

namespace Fault

theorem map_fst_strike?_cons (a : Access) (c : Option Collection) (f : Fault) (rest : List Fault) :
    (strike? a c (f :: rest)).map Prod.fst
      = if f.fits a c then some f else (strike? a c rest).map Prod.fst := by
  rw [strike?]
  cases f.fits a c with
  | true => rfl
  | false =>
    rw [if_neg Bool.false_ne_true, if_neg Bool.false_ne_true, Option.map_map]
    rfl

/-- A strike at one sort of access uses up no fault that waits for another. -/
theorem map_fst_strike?_of_strike? {a b : Access} {c c' : Option Collection} {faults left : List Fault}
    {f : Fault} (other : b ≠ a) (strike : strike? b c' faults = some (f, left)) :
    (strike? a c left).map Prod.fst = (strike? a c faults).map Prod.fst := by
  induction faults generalizing left with
  | nil => cases strike
  | cons g rest ih =>
    rw [strike?] at strike
    split at strike
    · rename_i fits
      cases strike
      have waits : f.access = b := by
        simp only [Fault.fits, Bool.and_eq_true, beq_iff_eq] at fits
        exact fits.1.2
      have apart : f.fits a c = false := by simp [Fault.fits, waits, other]
      have apart' : ({ f with times := f.times - 1 } : Fault).fits a c = false := by
        simp [Fault.fits, waits, other]
      rw [map_fst_strike?_cons, map_fst_strike?_cons, apart, apart']
      rfl
    · cases later : strike? b c' rest with
      | none =>
        rw [later] at strike
        cases strike
      | some p =>
        rw [later] at strike
        cases strike
        rw [map_fst_strike?_cons, map_fst_strike?_cons, ih later]

end Fault

namespace World

/-- What the next access of a sort to a collection meets: it passes, or finds nothing, or fails. -/
def meets (w : World) (a : Access) (c : Collection) : Except Failure Bool :=
  match (Fault.strike? a (some c) w.faults).map Prod.fst with
  | none => .ok false
  | some f => Operation.struck f.effect

variable {w v u : World}

theorem meets_of_faults (same : v.faults = w.faults) (a : Access) (c : Collection) :
    v.meets a c = w.meets a c := by
  rw [meets, meets, same]

/-- A session is hidden if the next search for one does not pass. -/
theorem hidesSession_iff : w.HidesSession ↔ w.meets .findOne .sessions ≠ .ok false := by
  unfold HidesSession meets
  cases Fault.strike? .findOne (some .sessions) w.faults with
  | none => simp
  | some p =>
    obtain ⟨f, left⟩ := p
    constructor
    · rintro ⟨g, left', same, strikes⟩
      cases same
      exact strikes
    · exact fun strikes => ⟨f, left, rfl, strikes⟩

/-- What the next writes meet is the same in both worlds. -/
def Spares (w v : World) : Prop :=
  ∀ a c, a.writes = true → v.meets a c = w.meets a c

/-- What happened between the two worlds was reading: it looked at the store at most, and used up no fault
that waits for a write. -/
structure Peeks (w v : World) : Prop where
  looks : w.Looks v
  spares : w.Spares v

namespace Peeks

theorem refl (w : World) : w.Peeks w := ⟨.refl w, fun _ _ _ => rfl⟩

theorem trans (first : w.Peeks v) (second : v.Peeks u) : w.Peeks u where
  looks := first.looks.trans second.looks
  spares a c writes := (second.spares a c writes).trans (first.spares a c writes)

theorem of_same (store : v.store = w.store) (faults : v.faults = w.faults) (now : v.now = w.now) :
    w.Peeks v := ⟨.of_same store faults now, fun a c _ => meets_of_faults faults a c⟩

theorem joined (w : World) : w.Peeks w.joined := of_same rfl rfl rfl

end Peeks

end World

namespace Operation

variable {α : Type} {w : World} {conv : String}

/-- An access that faults may disturb comes out as it was to meet them. -/
theorem disturb_fst (a : Access) (c : Collection) (w : World) :
    ((disturb a (some c)).run w).1 = w.meets a c := by
  rw [disturb_eq, World.meets]
  cases Fault.strike? a (some c) w.faults <;> rfl

/-- What waits for other sorts of access waits on. -/
theorem meets_disturb {a b : Access} (other : b ≠ a) (c' : Option Collection) (c : Collection)
    (w : World) : ((disturb b c').run w).2.meets a c = w.meets a c := by
  rw [disturb_eq]
  cases strike : Fault.strike? b c' w.faults with
  | none => rfl
  | some p =>
    obtain ⟨f, left⟩ := p
    have same := Fault.map_fst_strike?_of_strike? (c := some c) other strike
    rw [World.meets, World.meets, ← same]

theorem peeks_disturb {a : Access} (reads : a.writes = false) (c : Option Collection) (w : World) :
    w.Peeks ((disturb a c).run w).2 := by
  refine ⟨looks_disturb a c w, fun b c' writes => meets_disturb ?_ c c' w⟩
  rintro rfl
  rw [reads] at writes
  cases writes

theorem peeks_connect (w : World) : w.Peeks (connect.run w).2 := by
  rw [connect, run_bind, run_get]
  dsimp only
  split
  · have peeks := peeks_disturb (a := .connect) rfl none w
    rw [run_bind]
    generalize (disturb .connect none).run w = r at peeks ⊢
    obtain ⟨e | _, v⟩ := r
    · exact peeks
    · exact peeks.trans (.of_same rfl rfl rfl)
  · exact .refl w

/-- A read fails, finds nothing, or gives what it finds, as it was to meet the faults. -/
theorem read_of_meets {a : Access} (reads : a.writes = false) (c : Collection) (default : α)
    (f : Store → α) (w : World) :
    ∃ v, w.Peeks v ∧ (read a c default f).run w = match w.meets a c with
      | .error e => (.error e, v)
      | .ok true => (.ok default, v)
      | .ok false => (.ok (f v.store), v) := by
  have peeks := peeks_disturb reads (some c) w
  have met := disturb_fst a c w
  rw [read, run_bind]
  generalize (disturb a (some c)).run w = r at peeks met ⊢
  obtain ⟨result, v⟩ := r
  dsimp only at met peeks
  refine ⟨v, peeks, ?_⟩
  rw [← met]
  rcases result with e | _ | _ <;> rfl

theorem peeks_read {a : Access} (reads : a.writes = false) (c : Collection) (default : α) (f : Store → α)
    (w : World) : w.Peeks ((read a c default f).run w).2 := by
  obtain ⟨v, peeks, run⟩ := read_of_meets reads c default f w
  rw [run]
  rcases w.meets a c with e | _ | _ <;> exact peeks

/-- Without other writers a write fails, misses, or makes its change, as it was to meet the faults; what
waits for other sorts of access waits on. -/
theorem write_of_meets (alone : w.IsAlone) (a : Access) (c : Collection) (default : α)
    (f : Store → Except Failure (α × Store)) :
    ∃ v, w.Looks v ∧ (∀ b c', a ≠ b → v.meets b c' = w.meets b c') ∧
      (write a c default f).run w = match w.meets a c with
        | .error e => (.error e, v)
        | .ok true => (.ok default, v)
        | .ok false =>
          match f w.store with
          | .ok (r, s) => (.ok r, v.withStore s)
          | .error e => (.error e, v) := by
  have looks := looks_disturb a (some c) w
  have met := disturb_fst a c w
  have others (b : Access) (c' : Collection) (other : a ≠ b) :
      ((disturb a (some c)).run w).2.meets b c' = w.meets b c' := meets_disturb other (some c) c' w
  rw [write, run_bind]
  generalize (disturb a (some c)).run w = r at looks met others ⊢
  obtain ⟨result, v⟩ := r
  dsimp only at looks met others
  refine ⟨v, looks, others, ?_⟩
  rw [← met, ← looks.store alone]
  rcases result with e | _ | _
  · rfl
  · exact change_run f v
  · rfl

/-! ## Looking for a session -/

/-- What becomes of the look-up of a session. -/
theorem getSession_of_meets (reachable : w.IsReachable) (conv : String) :
    ∃ v, w.Peeks v ∧ (getSession conv).run w = match w.meets .findOne .sessions with
      | .error cause => (.error (storageFailure cause), v.noted .error storeComponent)
      | .ok true => (.ok none, v)
      | .ok false =>
        match v.store.session? conv with
        | none => (.ok none, v)
        | some doc =>
          match doc.withIdText? with
          | .ok es => (.ok (some es), v)
          | .error cause => (.error (storageFailure cause), v.noted .error storeComponent) := by
  obtain ⟨v, peeks, run⟩ := read_of_meets (a := .findOne) rfl .sessions none (·.session? conv) w.joined
  have met : w.joined.meets .findOne .sessions = w.meets .findOne .sessions := rfl
  refine ⟨v, (World.Peeks.joined w).trans peeks, ?_⟩
  rw [getSession, run_bind, connect_run reachable]
  dsimp only
  rw [orStorageFailure_run, run_bind, run, met]
  rcases w.meets .findOne .sessions with cause | _ | _
  · rfl
  · dsimp only
    cases v.store.session? conv with
    | none => rfl
    | some doc =>
      dsimp only
      rw [run_bind, run_ofExcept]
      cases doc.withIdText? <;> rfl
  · rfl

/-- A session that is hidden is missed, or the look-up fails with a failure that the store passes on. -/
theorem getSession_of_hides (reachable : w.IsReachable) (hides : w.HidesSession) (conv : String) :
    ∃ v, w.Peeks v ∧ ((getSession conv).run w = (.ok none, v) ∨
      ∃ cause, (getSession conv).run w = (.error (storageFailure cause), v)) := by
  have strikes := World.hidesSession_iff.mp hides
  obtain ⟨v, peeks, run⟩ := getSession_of_meets reachable conv
  generalize w.meets .findOne .sessions = met at strikes run
  rcases met with cause | _ | _
  · exact ⟨v.noted .error storeComponent, peeks.trans (.of_same rfl rfl rfl), .inr ⟨cause, run⟩⟩
  · exact absurd rfl strikes
  · exact ⟨v, peeks, .inl run⟩

/-- A session that is not hidden is read. -/
theorem getSession_of_shows (reachable : w.IsReachable) (alone : w.IsAlone) (shows : ¬ w.HidesSession)
    {doc : Entries} (stored : w.store.session? conv = some doc) :
    ∃ v, w.Peeks v ∧ (getSession conv).run w = match doc.withIdText? with
      | .ok es => (.ok (some es), v)
      | .error cause => (.error (storageFailure cause), v.noted .error storeComponent) := by
  have passes : w.meets .findOne .sessions = .ok false :=
    Classical.byContradiction fun strikes => shows (World.hidesSession_iff.mpr strikes)
  obtain ⟨v, peeks, run⟩ := getSession_of_meets reachable conv
  rw [passes, peeks.looks.store alone, stored] at run
  exact ⟨v, peeks, run⟩

/-! ## Writing a session -/

/-- An insertion fails only with a failure that the store passes on. -/
theorem insertSession_fails (reachable : w.IsReachable) {session : Session} {f : Failure} {v : World}
    (run : (insertSession session).run w = (.error f, v)) : ∃ cause, f = storageFailure cause := by
  rw [insertSession, run_bind, connect_run reachable] at run
  dsimp only at run
  rw [run_bind, run_attempt] at run
  dsimp only at run
  split at run
  · cases run
  · rename_i cause failed
    split at run
    · cases run
    · rw [run_bind, run_reportError] at run
      exact ⟨cause, (Except.error.inj (congrArg Prod.fst run)).symm⟩

/-- What is passed on as a failure of the store is one. -/
theorem orStorageFailure_fails {x : Operation α} {f : Failure} {v : World}
    (run : (orStorageFailure x).run w = (.error f, v)) : ∃ cause, f = storageFailure cause := by
  rw [orStorageFailure_run] at run
  generalize x.run w = r at run
  obtain ⟨cause | a, u⟩ := r
  · exact ⟨cause, (Except.error.inj (congrArg Prod.fst run)).symm⟩
  · cases run

/-- A conditional update fails only with a failure that the store passes on. -/
theorem updateSession_fails (reachable : w.IsReachable) {expected : Int} {fields : Entries}
    {f : Failure} {v : World} (run : (updateSession conv expected fields).run w = (.error f, v)) :
    ∃ cause, f = storageFailure cause := by
  rw [updateSession, run_bind, connect_run reachable] at run
  exact orStorageFailure_fails run

end Operation

end ChatFlow
