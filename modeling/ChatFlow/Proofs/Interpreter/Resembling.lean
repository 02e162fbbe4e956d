import ChatFlow.Proofs.Flow.Consulting
import ChatFlow.Proofs.Interpreter.Answering
import ChatFlow.Proofs.Turn.Logging

/-!
Answering in two worlds that resemble each other.

Once it is known whether a run is resumed or started, and on which definition, an answer depends on little:
on the clock, on what the other services answer, and on the sessions. The flows matter only for the count
of runs, and neither the log nor the definitions in memory matter at all. So in two quiet worlds with the
same sessions the rest of answering comes to the same and leaves the same sessions; and if all of the
store is the same, the same store is left (`World.Resembles`). The lemmas follow answering from its parts
to the whole (`Interpreter.start_resembles`, `proceed_resembles`, `process_resembles`).
-/

namespace ChatFlow

open ChatFlow.Flow (Definition)

/-- No fault waits in the two worlds, they have the same sessions, and the same outside but for the log.
If `whole` holds, they have the same store. -/
structure World.Resembles (whole : Prop) (w v : World) : Prop where
  quiet : w.IsQuiet
  quiet' : v.IsQuiet
  sessions : w.store.sessions = v.store.sessions
  store : whole → w.store = v.store
  outside : w.outside.unlogged = v.outside.unlogged

namespace World.Resembles

variable {whole : Prop} {w v : World}

theorem refl (quiet : w.IsQuiet) : w.Resembles whole w := ⟨quiet, quiet, rfl, fun _ => rfl, rfl⟩

theorem symm (h : w.Resembles whole v) : v.Resembles whole w :=
  ⟨h.quiet', h.quiet, h.sessions.symm, fun all => (h.store all).symm, h.outside.symm⟩

theorem now (h : w.Resembles whole v) : w.now = v.now := Outside.now_of_unlogged h.outside

theorem session? (h : w.Resembles whole v) (conv : String) : w.store.session? conv = v.store.session? conv := by
  rw [Store.session?, h.sessions]
  rfl

theorem noted (h : w.Resembles whole v) (weight : Weight) (component : String) :
    (w.noted weight component).Resembles whole (v.noted weight component) :=
  ⟨h.quiet, h.quiet', h.sessions, h.store, h.outside⟩

theorem joined (h : w.Resembles whole v) : w.joined.Resembles whole v.joined :=
  ⟨h.quiet, h.quiet', h.sessions, h.store, h.outside⟩

theorem withOutside (h : w.Resembles whole v) {o o' : Outside} (same : o.unlogged = o'.unlogged) :
    (w.withOutside o).Resembles whole (v.withOutside o') :=
  ⟨h.quiet, h.quiet', h.sessions, h.store, same⟩

/-- A change of the sessions keeps the resemblance. -/
theorem change (h : w.Resembles whole v) (f : Documents → Documents) :
    (w.joined.withStore (w.store.change .sessions f)).Resembles whole
      (v.joined.withStore (v.store.change .sessions f)) where
  quiet := h.quiet
  quiet' := h.quiet'
  sessions := congrArg f h.sessions
  store all := congrArg (Store.change · .sessions f) (h.store all)
  outside := h.outside

theorem cleared (h : w.Resembles whole v) (conv : String) :
    (w.cleared conv).Resembles whole (v.cleared conv) := h.change _

/-- Consultations keep the resemblance. -/
theorem consults {x y : World} (h : w.Resembles whole v) (left : w.Consults x) (right : v.Consults y) :
    x.Resembles whole y where
  quiet := left.isQuiet h.quiet
  quiet' := right.isQuiet h.quiet'
  sessions := by rw [left.store, right.store, h.sessions]
  store all := by rw [left.store, right.store, h.store all]
  outside := left.outside.trans (h.outside.trans right.outside.symm)

/-- Loads of definitions keep the resemblance, whatever they load. -/
theorem leaves {x y : World} (h : w.Resembles whole v) {id id' : String} {requested requested' : Option String}
    (left : Library.Leaves id requested w x) (right : Library.Leaves id' requested' v y) :
    x.Resembles whole y where
  quiet := left.faults.trans h.quiet
  quiet' := right.faults.trans h.quiet'
  sessions := by rw [left.store, right.store, h.sessions]
  store all := by rw [left.store, right.store, h.store all]
  outside := left.outside.trans (h.outside.trans right.outside.symm)

/-! ## Loading, saving and counting -/

theorem load (h : w.Resembles whole v) (conv : String) :
    ((Keeping.load conv).run w).1 = ((Keeping.load conv).run v).1 ∧
      ((Keeping.load conv).run w).2.Resembles whole ((Keeping.load conv).run v).2 := by
  rw [Keeping.load_run h.quiet, Keeping.load_run h.quiet', h.session?, h.now]
  cases v.store.session? conv with
  | none => exact ⟨rfl, h.joined⟩
  | some doc =>
    dsimp only
    cases doc.withIdText? with
    | error f => exact ⟨rfl, (h.joined.noted _ _).noted _ _⟩
    | ok es =>
      dsimp only
      cases Keeping.readSession? v.now es with
      | error f => exact ⟨rfl, (h.noted _ _).cleared conv⟩
      | ok pair =>
        dsimp only
        cases Keeping.isResumable? v.now pair.1 with
        | error f => exact ⟨rfl, h.joined⟩
        | ok usable =>
          cases usable with
          | true => exact ⟨rfl, h.joined⟩
          | false => exact ⟨rfl, h.cleared conv⟩

theorem save (h : w.Resembles whole v) (hours : Int) (c : Context) :
    (Keeping.save hours c w).1 = (Keeping.save hours c v).1 ∧
      (Keeping.save hours c w).2.Resembles whole (Keeping.save hours c v).2 := by
  cases timely : Keeping.expiry? v.now hours with
  | error f =>
    rw [Keeping.save_of_expiry_error (h.now ▸ timely), Keeping.save_of_expiry_error timely]
    exact ⟨rfl, h⟩
  | ok e =>
    have timely' : Keeping.expiry? w.now hours = .ok e := h.now ▸ timely
    by_cases fresh : c.sequence = 0
    · rw [Keeping.save_fresh h.quiet.letsWrite timely' fresh,
        Keeping.save_fresh h.quiet'.letsWrite timely fresh, h.session?, h.now]
      cases (v.store.session? c.conversationId).isSome with
      | true => exact ⟨rfl, h.joined⟩
      | false => exact ⟨rfl, h.change _⟩
    · rw [Keeping.save_stored h.quiet.letsWrite timely' fresh,
        Keeping.save_stored h.quiet'.letsWrite timely fresh, h.sessions, h.now]
      cases v.store.sessions.find? (Store.sessionAt c.conversationId c.sequence) with
      | none => exact ⟨rfl, h.joined⟩
      | some doc => exact ⟨rfl, h.change _⟩

theorem counted (h : w.Resembles whole v) (flowId : String) (success : Bool) :
    (Interpreter.counted w flowId success).Resembles whole (Interpreter.counted v flowId success) := by
  obtain ⟨sessions, faults, -⟩ := Interpreter.countRun_run h.quiet.letsWrite flowId success
  obtain ⟨sessions', faults', -⟩ := Interpreter.countRun_run h.quiet'.letsWrite flowId success
  have outside (w : World) (quiet : w.IsQuiet) :
      (Interpreter.counted w flowId success).outside.unlogged = w.outside.unlogged := by
    rw [Interpreter.counted_eq quiet.letsWrite]
    rcases Store.countRun w.now flowId success w.store with f | ⟨_ | _, s⟩ <;> rfl
  have store (w : World) (quiet : w.IsQuiet) : (Interpreter.counted w flowId success).store
      = ((Store.countRun w.now flowId success w.store).toOption.map Prod.snd).getD w.store := by
    rw [Interpreter.counted_eq quiet.letsWrite]
    rcases Store.countRun w.now flowId success w.store with f | ⟨_ | _, s⟩ <;> rfl
  exact {
    quiet := faults.trans h.quiet
    quiet' := faults'.trans h.quiet'
    sessions := by rw [sessions, sessions', h.sessions]
    store := fun all => by rw [store w h.quiet, store v h.quiet', h.now, h.store all]
    outside := by rw [outside w h.quiet, outside v h.quiet', h.outside] }

end World.Resembles

namespace Interpreter

variable {whole : Prop} {i : Interpreter} {m : Inbound} {w v : World} {d : Definition} {c : Context}

open Operation (run_bind run_ofExcept run_now)

/-! ## Runs -/

/-- A run is started alike. -/
theorem start_resembles (ignores : i.registry.IgnoresLog) (h : w.Resembles whole v) (m : Inbound)
    (d : Definition) :
    ((i.start m d).run w).1 = ((i.start m d).run v).1 ∧
      ((i.start m d).run w).2.Resembles whole ((i.start m d).run v).2 := by
  cases created : Context.create? v.now d m.conversationId m.contact with
  | error f =>
    have fails (u : World) (now : u.now = v.now) : (i.start m d).run u = (.error f, u) := by
      rw [start, run_bind, run_now]
      dsimp only
      rw [run_bind, run_ofExcept, now, created]
    rw [fails w h.now, fails v rfl]
    exact ⟨rfl, h⟩
  | ok c =>
    rw [i.start_run m d h.quiet.letsWrite.isReachable (h.now ▸ created),
      i.start_run m d h.quiet'.letsWrite.isReachable created, h.now]
    obtain ⟨same, left⟩ := Turn.ignoresLog_takeTurn ignores i.maxHops d
      (c.say [.ofUser v.now m.message none]) none w.outside v.outside h.outside
    generalize Turn.takeTurn i.registry i.maxHops d (c.say [.ofUser v.now m.message none]) none
      w.outside = r at same left ⊢
    generalize Turn.takeTurn i.registry i.maxHops d (c.say [.ofUser v.now m.message none]) none
      v.outside = r' at same left ⊢
    obtain ⟨⟨o, c'⟩, out⟩ := r
    obtain ⟨⟨o', c''⟩, out'⟩ := r'
    cases same
    have after : (w.withOutside out).Resembles whole (v.withOutside out') := h.withOutside left
    dsimp only
    cases next o with
    | ended => exact ⟨rfl, after.counted _ _⟩
    | failed => exact ⟨rfl, after⟩
    | waits =>
      obtain ⟨saved, left⟩ := after.save i.sessionHours c'
      exact ⟨by rw [saved], left⟩

/-- A run goes on alike, also on definitions with the same graph. -/
theorem proceed_resembles (ignores : i.registry.IgnoresLog) (h : w.Resembles whole v) (m : Inbound)
    (c : Context) {d d' : Definition} (nodes : d.version.nodes = d'.version.nodes)
    (edges : d.version.edges = d'.version.edges) :
    ((i.proceed m c d).run w).1 = ((i.proceed m c d').run v).1 ∧
      ((i.proceed m c d).run w).2.Resembles whole ((i.proceed m c d').run v).2 := by
  rw [i.proceed_run m c d h.quiet.letsWrite, i.proceed_run m c d' h.quiet'.letsWrite,
    Turn.takeTurn_graph nodes edges]
  obtain ⟨same, left⟩ := Turn.ignoresLog_takeTurn ignores i.maxHops d' c (some m.message) w.outside
    v.outside h.outside
  generalize Turn.takeTurn i.registry i.maxHops d' c (some m.message) w.outside = r at same left ⊢
  generalize Turn.takeTurn i.registry i.maxHops d' c (some m.message) v.outside = r' at same left ⊢
  obtain ⟨⟨o, c'⟩, out⟩ := r
  obtain ⟨⟨o', c''⟩, out'⟩ := r'
  cases same
  have after : (w.withOutside out).Resembles whole (v.withOutside out') := h.withOutside left
  dsimp only
  cases next o with
  | ended => exact ⟨rfl, (after.cleared _).counted _ _⟩
  | failed => exact ⟨rfl, after.cleared _⟩
  | waits =>
    obtain ⟨saved, left⟩ := after.save i.sessionHours c'
    exact ⟨by rw [saved], left⟩

/-! ## Whole answers -/

/-- Answers are alike if what answering comes to before they are given is. -/
theorem process_resembles (same : ((i.respond m).run w).1 = ((i.respond m).run v).1)
    (left : ((i.respond m).run w).2.Resembles whole ((i.respond m).run v).2) :
    (i.process m w).1 = (i.process m v).1 ∧ (i.process m w).2.Resembles whole (i.process m v).2 := by
  cases responds : (i.respond m).run w with
  | mk e u =>
    cases responds' : (i.respond m).run v with
    | mk e' u' =>
      rw [responds, responds'] at same left
      cases same
      cases e with
      | ok o =>
        rw [process_of_ok responds, process_of_ok responds']
        exact ⟨rfl, left⟩
      | error f =>
        by_cases conflict : f.IsConflict
        · obtain ⟨conv, n, rfl⟩ := conflict
          rw [process_of_conflict responds, process_of_conflict responds', left.now]
          exact ⟨rfl, left.noted _ _⟩
        · rw [process_of_error responds conflict left.quiet.letsWrite,
            process_of_error responds' conflict left.quiet'.letsWrite, left.now]
          exact ⟨rfl, (left.noted _ _).cleared _⟩

end Interpreter

end ChatFlow
