import ChatFlow.Proofs.Contention.CompareAndSwap
import ChatFlow.Proofs.Interpreter.Resuming

/-!
Several deliveries race for one session.

The deliveries have loaded the same session of one conversation and made their turns. What is left of
each are its writes, and any interleaving of these may happen: a save, or the mark, the removal and the
count of a run that is over. `advance` is one write of one delivery, made of the operations that
`Interpreter.process` is made of, and `process_eq_finish` says that a delivery whose writes are not
interrupted is `process`.

`Exclusive` says of a race what one would like to hold of all: one delivery at most is answered with
anything but the excuse for a conflict, one run at most is counted, and nobody removes a session that
somebody else has saved. It holds of every schedule exactly if there is no race at all or every turn
waits for a reply (`exclusive_iff`). Saves exclude each other because they are conditional, and the
invariant `Settled` of a race of saves says who won; marks, removals and counts are not, so a delivery
whose turn ends the run takes effect whatever happened before.
-/

namespace ChatFlow

namespace Contention

open ChatFlow.Flow (Definition)

open Interpreter (next)

/-! ## Deliveries -/

/-- A delivery that has loaded the session: the text of its message, and what its turn meets outside. -/
structure Delivery where
  text : String
  outside : Outside

/-- How far a delivery is. -/
inductive Phase where
  /-- It has made its turn and written nothing yet. -/
  | turned
  /-- Its save failed for another reason than a conflict. -/
  | failing (cause : Failure)
  /-- It has marked the session, after such a failure or because its run is over or failed. -/
  | marked (cause : Option Failure)
  /-- It has removed the session of a run that is over. -/
  | removed
  | answered (o : Outcome)

/-- What a step of a delivery does. -/
inductive Event where
  | saved
  | marked
  | removed
  | counted
  | answered (o : Outcome)

/-- The event of a write, if it does what it says. -/
def Event.when (happens : Bool) (e : Event) : List Event :=
  if happens then [e] else []

/-- A run was counted. -/
def counts (flowId : String) (success : Bool) (w : World) : Bool :=
  match ((Operation.countRun flowId success).run w).1 with
  | .ok b => b
  | .error _ => false

/-- Marks the session as completed. -/
def mark (c : Context) (cause : Option Failure) (w : World) : List Event × Phase × World :=
  (Event.marked.when (w.store.session? c.conversationId).isSome, .marked cause,
    ((Operation.completeSession c.conversationId).run w).2)

section Steps

variable (i : Interpreter) (d : Definition) (c : Context) (x : Delivery)

/-- The outcome of a delivery's turn, and the context it leaves. -/
def Delivery.turn : Outcome × Context :=
  (Turn.takeTurn i.registry i.maxHops d c (some x.text) x.outside).1

/-- The turn of the delivery waits for a reply. -/
def Delivery.Waits : Prop := (x.turn i d c).1.waitingForInput = true

/-- The next write of a delivery. -/
def advance : Phase → World → List Event × Phase × World
  | .turned, w =>
    match next (x.turn i d c).1 with
    | .waits =>
      match Keeping.save i.sessionHours (x.turn i d c).2 w with
      | ((.ok saved, _), v) =>
        (Event.saved.when saved ++ [.answered (x.turn i d c).1], .answered (x.turn i d c).1, v)
      | ((.error (.conflict _ _), _), v) =>
        ([.answered (Interpreter.concurrent v.now)], .answered (Interpreter.concurrent v.now),
          v.noted .warning Interpreter.component)
      | ((.error cause, _), v) => ([], .failing cause, v.noted .error Interpreter.component)
    | .ended | .failed => mark c none w
  | .failing cause, w => mark c (some cause) w
  | .marked cause, w =>
    let removed := Event.removed.when (w.store.session? c.conversationId).isSome
    let v := ((Operation.deleteSession c.conversationId).run w).2
    match cause with
    | some f =>
      (removed ++ [.answered (Interpreter.broken v.now f)], .answered (Interpreter.broken v.now f), v)
    | none =>
      if next (x.turn i d c).1 = .ended then (removed, .removed, v)
      else (removed ++ [.answered (x.turn i d c).1], .answered (x.turn i d c).1, v)
  | .removed, w =>
    (Event.counted.when (counts (x.turn i d c).2.flowId (x.turn i d c).1.success w)
        ++ [.answered (x.turn i d c).1],
      .answered (x.turn i d c).1,
      Interpreter.counted w (x.turn i d c).2.flowId (x.turn i d c).1.success)
  | .answered o, w => ([], .answered o, w)

/-- So many writes of a delivery, one after another. -/
def finish : Nat → Phase × World → Phase × World
  | 0, s => s
  | n + 1, s => finish n (advance i d c x s.1 s.2).2

end Steps

/-! ## Races -/

/-- A race: the world, how far each delivery is, and what each has done so far. -/
structure Race where
  world : World
  phase : Nat → Phase
  journal : List (Nat × Event)

/-- The world at another time. -/
def atTime (w : World) (t : Moment) : World :=
  w.withOutside { w.outside with now := t }

section Races

variable (i : Interpreter) (d : Definition) (c : Context) (ds : List Delivery)

/-- A race in which nobody has written yet. -/
def Race.start (w : World) : Race := ⟨w, fun _ => .turned, []⟩

/-- One write of the delivery of a number, at a time. -/
def Race.step (r : Race) (s : Nat × Moment) : Race :=
  match ds[s.1]? with
  | none => r
  | some x =>
    let result := advance i d c x (r.phase s.1) (atTime r.world s.2)
    { world := result.2.2
      phase := fun j => if j = s.1 then result.2.1 else r.phase j
      journal := r.journal ++ result.1.map fun e => (s.1, e) }

/-- A race along a schedule, which says whose turn it is, and when. -/
def Race.run (r : Race) (schedule : List (Nat × Moment)) : Race :=
  schedule.foldl (Race.step i d c ds) r

end Races

/-- The outcome is the excuse for a conflict. -/
def IsConflict (o : Outcome) : Prop := ∃ t, o = Interpreter.concurrent t

/-- At most one delivery takes effect. -/
structure Exclusive (journal : List (Nat × Event)) : Prop where
  answers : ∀ j k o p, (j, .answered o) ∈ journal → (k, .answered p) ∈ journal →
    ¬ IsConflict o → ¬ IsConflict p → j = k
  counts : ∀ j k, (j, .counted) ∈ journal → (k, .counted) ∈ journal → j = k
  spares : ∀ before after j k, journal = before ++ (j, .saved) :: after →
    (k, .marked) ∈ after ∨ (k, .removed) ∈ after → k = j

/-- What follows an event in a journal is in the journal. -/
theorem mem_of_after {journal before after : List (Nat × Event)} {e f : Nat × Event}
    (split : journal = before ++ e :: after) (later : f ∈ after) : f ∈ journal := by
  rw [split]
  exact List.mem_append_right _ (List.mem_cons_of_mem _ later)

/-- A journal of one delivery at most is exclusive. -/
theorem Exclusive.of_alone {journal : List (Nat × Event)} {n : Nat} (alone : n ≤ 1)
    (only : ∀ e ∈ journal, e.1 < n) : Exclusive journal := by
  have same (j k : Nat) (e f : Event) (one : (j, e) ∈ journal) (two : (k, f) ∈ journal) : j = k := by
    have := only _ one
    have := only _ two
    omega
  refine ⟨fun j k o p one two _ _ => same j k _ _ one two, fun j k one two => same j k _ _ one two, ?_⟩
  intro before after j k split here
  have saved : (j, Event.saved) ∈ journal := by
    rw [split]
    exact List.mem_append_right _ List.mem_cons_self
  rcases here with marked | removed
  · exact same k j _ _ (mem_of_after split marked) saved
  · exact same k j _ _ (mem_of_after split removed) saved

/-! ## A delivery alone -/

section Alone

variable {i : Interpreter} {d : Definition} {c : Context} {w v : World}

theorem finish_succ (x : Delivery) (n : Nat) (s : Phase × World) :
    finish i d c x (n + 1) s = finish i d c x n (advance i d c x s.1 s.2).2 := rfl

/-- Marking and removing one after the other is clearing. -/
theorem world_of_mark_remove (quiet : w.IsQuiet) (conv : String) :
    ((Operation.deleteSession conv).run ((Operation.completeSession conv).run w).2).2
      = w.cleared conv := by
  rw [Keeping.complete_run quiet.letsWrite, Keeping.delete_run_of_marked quiet.letsWrite]

/-- A delivery whose writes nobody interrupts is answered as by `Interpreter.process`, and leaves the
same world. -/
theorem process_eq_finish (m : Inbound) (quiet : w.IsQuiet)
    (resumed : (Interpreter.resume m.conversationId).run w = (.ok (some (c, d)), v)) :
    finish i d c ⟨m.message, v.outside⟩ 3 (.turned, v.withOutside
        (Turn.takeTurn i.registry i.maxHops d c (some m.message) v.outside).2)
      = (.answered (i.process m w).1, (i.process m w).2) := by
  obtain ⟨loaded, reads⟩ := Interpreter.load_of_resume quiet resumed
  obtain ⟨-, doc, session, from_⟩ := Keeping.load_some quiet loaded
  have mine : c.conversationId = m.conversationId := Keeping.conversationId_of_load session from_
  have still : v.IsQuiet := reads.isQuiet quiet
  have responds : (i.respond m).run w = (i.proceed m c d).run v := by
    rw [Interpreter.respond, Operation.run_bind, resumed]
  have proceeds := i.proceed_run m c d still.letsWrite
  rw [← responds, ← mine] at proceeds
  have turn : Delivery.turn i d c ⟨m.message, v.outside⟩
      = (Turn.takeTurn i.registry i.maxHops d c (some m.message) v.outside).1 := rfl
  generalize Turn.takeTurn i.registry i.maxHops d c (some m.message) v.outside = r at proceeds turn ⊢
  obtain ⟨⟨o, later⟩, left⟩ := r
  dsimp only at proceeds turn ⊢
  have quiet' : (v.withOutside left).IsQuiet := still
  rw [finish_succ, finish_succ, finish_succ, finish]
  cases after : next o with
  | ended =>
    rw [after] at proceeds
    rw [Interpreter.process_of_ok proceeds]
    simp only [advance, turn, after, mark, if_true, world_of_mark_remove quiet']
  | failed =>
    rw [after] at proceeds
    rw [Interpreter.process_of_ok proceeds]
    simp only [advance, turn, after, mark, world_of_mark_remove quiet']
    rfl
  | waits =>
    rw [after] at proceeds
    dsimp only at proceeds
    have saves := Keeping.save_quiet quiet' i.sessionHours later
    simp only [advance, turn, after]
    generalize Keeping.save i.sessionHours later (v.withOutside left) = r at proceeds saves ⊢
    obtain ⟨⟨f | b, kept⟩, u⟩ := r
    · by_cases conflict : f.IsConflict
      · obtain ⟨conv, n, rfl⟩ := conflict
        rw [Interpreter.process_of_conflict proceeds]
      · rw [Interpreter.process_of_error proceeds conflict saves.letsWrite, ← mine]
        have still : (u.noted .error Interpreter.component).IsQuiet := saves
        cases f with
        | conflict conv n => exact absurd ⟨conv, n, rfl⟩ conflict
        | _ =>
          simp only [mark, world_of_mark_remove still]
          rfl
    · rw [Interpreter.process_of_ok proceeds]

end Alone

/-! ## Steps of a race -/

section Steps

variable {i : Interpreter} {d : Definition} {c : Context} {ds : List Delivery} {r : Race}

theorem step_of_none {s : Nat × Moment} (h : ds[s.1]? = none) : r.step i d c ds s = r := by
  rw [Race.step, h]

theorem step_of_some {s : Nat × Moment} {x : Delivery} (h : ds[s.1]? = some x) :
    r.step i d c ds s =
      { world := (advance i d c x (r.phase s.1) (atTime r.world s.2)).2.2
        phase := fun j =>
          if j = s.1 then (advance i d c x (r.phase s.1) (atTime r.world s.2)).2.1 else r.phase j
        journal := r.journal
          ++ (advance i d c x (r.phase s.1) (atTime r.world s.2)).1.map fun e => (s.1, e) } := by
  rw [Race.step, h]

theorem run_cons (s : Nat × Moment) (schedule : List (Nat × Moment)) :
    r.run i d c ds (s :: schedule) = (r.step i d c ds s).run i d c ds schedule := rfl

theorem run_append (first second : List (Nat × Moment)) :
    r.run i d c ds (first ++ second) = (r.run i d c ds first).run i d c ds second :=
  List.foldl_append

/-- What was done stays done. -/
theorem mem_journal_step {e : Nat × Event} (h : e ∈ r.journal) (s : Nat × Moment) :
    e ∈ (r.step i d c ds s).journal := by
  cases found : ds[s.1]? with
  | none =>
    rw [step_of_none found]
    exact h
  | some x =>
    rw [step_of_some found]
    exact List.mem_append_left _ h

theorem mem_journal_run {e : Nat × Event} (h : e ∈ r.journal) (schedule : List (Nat × Moment)) :
    e ∈ (r.run i d c ds schedule).journal := by
  induction schedule generalizing r with
  | nil => exact h
  | cons s rest ih => exact ih (mem_journal_step h s)

/-- A step of one delivery leaves the others where they are. -/
theorem phase_step_of_ne {j : Nat} {s : Nat × Moment} (other : j ≠ s.1) :
    (r.step i d c ds s).phase j = r.phase j := by
  cases found : ds[s.1]? with
  | none => rw [step_of_none found]
  | some x =>
    rw [step_of_some found]
    exact if_neg other

/-- Only deliveries of the race do anything. -/
theorem journal_step_lt (h : ∀ e ∈ r.journal, e.1 < ds.length) (s : Nat × Moment) :
    ∀ e ∈ (r.step i d c ds s).journal, e.1 < ds.length := by
  cases found : ds[s.1]? with
  | none =>
    rw [step_of_none found]
    exact h
  | some x =>
    rw [step_of_some found]
    intro e here
    rcases List.mem_append.mp here with before | fresh
    · exact h e before
    · obtain ⟨event, -, rfl⟩ := List.mem_map.mp fresh
      exact (List.getElem?_eq_some_iff.mp found).1

theorem journal_run_lt (h : ∀ e ∈ r.journal, e.1 < ds.length) (schedule : List (Nat × Moment)) :
    ∀ e ∈ (r.run i d c ds schedule).journal, e.1 < ds.length := by
  induction schedule generalizing r with
  | nil => exact h
  | cons s rest ih => exact ih (journal_step_lt h s)

end Steps

/-! ## Races of saves -/

section Saves

variable {i : Interpreter} {d : Definition} {c : Context} {ds : List Delivery} {conv : String}
  {n : Int}

/-- The conversation has one session, with this sequence number. -/
def IsAt (conv : String) (n : Int) (w : World) : Prop :=
  ∃ doc, w.store.sessionsOf conv = [doc] ∧ doc.lookup "sequence" = some (.int n)

/-- An entry in the journal of a race of saves that this delivery has won: it is the winner's, or the
excuse for a conflict. -/
def IsSettledBy (k : Nat) (e : Nat × Event) : Prop :=
  (e.1 = k ∧ (e.2 = .saved ∨ ∃ o, e.2 = .answered o)) ∨ ∃ o, e.2 = .answered o ∧ IsConflict o

/-- A race of saves: nobody has saved, and nobody has done anything; or one delivery has saved, and
everybody else found the sequence number changed. -/
inductive Settled (conv : String) (n : Int) : Race → Prop
  | undecided (r : Race) (quiet : r.world.IsQuiet) (at_ : IsAt conv n r.world)
    (turned : ∀ j, r.phase j = .turned) (silent : r.journal = []) : Settled conv n r
  | won (r : Race) (k : Nat) (quiet : r.world.IsQuiet) (at_ : IsAt conv (n + 1) r.world)
    (phases : ∀ j, r.phase j = .turned ∨ ∃ o, r.phase j = .answered o)
    (entries : ∀ e ∈ r.journal, IsSettledBy k e) : Settled conv n r

/-- A save finds the number that it expects, and moves it up. -/
theorem save_isAt {w : World} {later : Context} (quiet : w.IsQuiet) (at_ : IsAt conv n w)
    (mine : later.conversationId = conv) (number : later.sequence = n) (positive : 1 ≤ n)
    {hours : Int} (timely : ∃ e, Keeping.expiry? w.now hours = .ok e) :
    ∃ kept v, Keeping.save hours later w = ((.ok true, kept), v) ∧ IsAt conv (n + 1) v := by
  obtain ⟨doc, one, found⟩ := at_
  obtain ⟨e, timely⟩ := timely
  have saved := Keeping.save_stored (c := later) quiet.letsWrite timely (by omega)
  rw [mine, number, Store.find?_sessionAt_of_sequence n one found, if_pos rfl] at saved
  refine ⟨_, _, saved, _, Store.sessionsOf_saved_singleton one ?_ found, later.advanced_document_sequence _ _ found⟩
  rw [Context.map_fst_savedFields]
  decide

/-- A save that finds another number is a conflict, and writes nothing. -/
theorem save_conflict (hours : Int) {w : World} {later : Context} (quiet : w.IsQuiet) {m : Int}
    (at_ : IsAt conv m w) (mine : later.conversationId = conv) (number : later.sequence = n)
    (positive : 1 ≤ n) (other : m ≠ n)
    (timely : ∃ e, Keeping.expiry? w.now hours = .ok e) :
    ∃ kept, Keeping.save hours later w = ((.error (.conflict conv n), kept), w.joined) := by
  obtain ⟨doc, one, found⟩ := at_
  obtain ⟨e, timely⟩ := timely
  have saved := Keeping.save_stored (c := later) quiet.letsWrite timely (by omega)
  rw [mine, number, Store.find?_sessionAt_of_sequence n one found, if_neg other] at saved
  exact ⟨_, saved⟩

theorem turn_continues (x : Delivery) : (x.turn i d c).2.Continues c :=
  Turn.takeTurn_continues i.registry i.maxHops d c (some x.text) x.outside

theorem turn_shape (x : Delivery) : Turn.Shape (x.turn i d c).1 :=
  Turn.takeTurn_shape i.registry i.maxHops d c (some x.text) x.outside

/-- No turn is answered with the excuse for a conflict. -/
theorem not_isConflict_turn (x : Delivery) : ¬ IsConflict (x.turn i d c).1 :=
  fun ⟨t, same⟩ => (turn_shape x).ne_concurrent t same

/-- A step of a race of saves. -/
theorem Settled.step {r : Race} (settled : Settled conv n r) (mine : c.conversationId = conv)
    (number : c.sequence = n) (positive : 1 ≤ n) (waits : ∀ x ∈ ds, x.Waits i d c)
    {s : Nat × Moment} (timely : ∃ e, Keeping.expiry? s.2 i.sessionHours = .ok e) :
    Settled conv n (r.step i d c ds s) := by
  cases found : ds[s.1]? with
  | none =>
    rw [step_of_none found]
    exact settled
  | some x =>
    have after : next (x.turn i d c).1 = .waits :=
      (Interpreter.next_waits (turn_shape x)).mpr (waits x (List.mem_of_getElem? found))
    have mine' : (x.turn i d c).2.conversationId = conv := (turn_continues x).conversationId.trans mine
    have number' : (x.turn i d c).2.sequence = n := (turn_continues x).sequence.trans number
    rw [step_of_some found]
    cases settled with
    | undecided quiet at_ turned silent =>
      have still : (atTime r.world s.2).IsQuiet := quiet
      obtain ⟨kept, v, saved, at'⟩ := save_isAt still at_ mine' number' positive timely
      have quiet' : v.IsQuiet := by
        have := Keeping.save_quiet still i.sessionHours (x.turn i d c).2
        rwa [saved] at this
      rw [turned s.1, silent]
      simp only [advance, after, saved, Event.when, if_true]
      refine .won _ s.1 quiet' at' (fun j => ?_) (fun e here => ?_)
      · dsimp only
        split
        · exact .inr ⟨_, rfl⟩
        · exact .inl (turned j)
      · simp only [List.nil_append, List.cons_append, List.map_cons, List.map_nil, List.mem_cons,
          List.not_mem_nil, or_false] at here
        rcases here with rfl | rfl
        · exact .inl ⟨rfl, .inl rfl⟩
        · exact .inl ⟨rfl, .inr ⟨_, rfl⟩⟩
    | won k quiet at_ phases entries =>
      rcases phases s.1 with turned | ⟨o, answered⟩
      · have still : (atTime r.world s.2).IsQuiet := quiet
        obtain ⟨kept, saved⟩ := save_conflict i.sessionHours still at_ mine' number' positive
          (by omega) timely
        rw [turned]
        simp only [advance, after, saved]
        refine .won _ k quiet at_ (fun j => ?_) (fun e here => ?_)
        · dsimp only
          split
          · exact .inr ⟨_, rfl⟩
          · exact phases j
        · rcases List.mem_append.mp here with before | fresh
          · exact entries e before
          · simp only [List.map_cons, List.map_nil, List.mem_singleton] at fresh
            exact .inr ⟨_, congrArg Prod.snd fresh, _, rfl⟩
      · rw [answered]
        simp only [advance, List.map_nil, List.append_nil]
        refine .won _ k quiet at_ (fun j => ?_) entries
        dsimp only
        split
        · exact .inr ⟨o, rfl⟩
        · exact phases j

theorem Settled.run {r : Race} (settled : Settled conv n r) (mine : c.conversationId = conv)
    (number : c.sequence = n) (positive : 1 ≤ n) (waits : ∀ x ∈ ds, x.Waits i d c)
    (schedule : List (Nat × Moment))
    (timely : ∀ s ∈ schedule, ∃ e, Keeping.expiry? s.2 i.sessionHours = .ok e) :
    Settled conv n (r.run i d c ds schedule) := by
  induction schedule generalizing r with
  | nil => exact settled
  | cons s rest ih =>
    exact ih (settled.step mine number positive waits (timely s List.mem_cons_self))
      fun s' later => timely s' (List.mem_cons_of_mem s later)

/-- In a race of saves one delivery takes effect at most. -/
theorem Settled.exclusive {r : Race} (settled : Settled conv n r) : Exclusive r.journal := by
  cases settled with
  | undecided quiet at_ turned silent =>
    rw [silent]
    refine ⟨?_, ?_, ?_⟩
    · intro j k o p here
      cases here
    · intro j k here
      cases here
    · intro before after j k split
      simp at split
  | won k quiet at_ phases entries =>
    have winner (j : Nat) (o : Outcome) (here : (j, .answered o) ∈ r.journal)
        (effect : ¬ IsConflict o) : j = k := by
      rcases entries _ here with ⟨same, -⟩ | ⟨p, same, conflict⟩
      · exact same
      · cases same
        exact absurd conflict effect
    have never (j : Nat) (e : Event) (here : (j, e) ∈ r.journal) :
        e = .saved ∨ ∃ o, e = .answered o := by
      rcases entries _ here with ⟨-, same⟩ | ⟨p, same, -⟩
      · exact same
      · exact .inr ⟨p, same⟩
    refine ⟨?_, ?_, ?_⟩
    · intro j j' o p here here' effect effect'
      rw [winner j o here effect, winner j' p here' effect']
    · intro j j' here
      rcases never j _ here with same | ⟨o, same⟩ <;> cases same
    · intro before after j j' split here
      rcases here with marked | removed
      · rcases never j' _ (mem_of_after split marked) with same | ⟨o, same⟩ <;> cases same
      · rcases never j' _ (mem_of_after split removed) with same | ⟨o, same⟩ <;> cases same

end Saves

/-! ## Turns that end a run -/

section Endings

variable {i : Interpreter} {d : Definition} {c : Context} {ds : List Delivery} {r : Race}

/-- Three steps of a delivery. -/
def thrice (k : Nat) (t : Moment) : List (Nat × Moment) := [(k, t), (k, t), (k, t)]

theorem phase_thrice_of_ne {j k : Nat} (other : j ≠ k) (t : Moment) :
    (r.run i d c ds (thrice k t)).phase j = r.phase j := by
  rw [thrice, run_cons, run_cons, run_cons]
  show (((r.step i d c ds (k, t)).step i d c ds (k, t)).step i d c ds (k, t)).phase j = _
  rw [phase_step_of_ne other, phase_step_of_ne other, phase_step_of_ne other]

/-- A delivery whose turn ends the run is answered with its outcome, whatever the world is like. -/
theorem answered_of_ending {k : Nat} {x : Delivery} (found : ds[k]? = some x)
    (turned : r.phase k = .turned) (ends : ¬ x.Waits i d c) (t : Moment) :
    (k, .answered (x.turn i d c).1) ∈ (r.run i d c ds (thrice k t)).journal := by
  rw [thrice, run_cons]
  have first : (r.step i d c ds (k, t)).phase k = .marked none := by
    rw [step_of_some found]
    dsimp only
    rw [if_pos rfl, turned]
    cases after : next (x.turn i d c).1 with
    | waits => exact absurd ((Interpreter.next_waits (turn_shape x)).mp after) ends
    | ended => simp only [advance, after, mark]
    | failed => simp only [advance, after, mark]
  generalize r.step i d c ds (k, t) = r₁ at first ⊢
  rw [run_cons]
  by_cases ended : next (x.turn i d c).1 = .ended
  · have second : (r₁.step i d c ds (k, t)).phase k = .removed := by
      rw [step_of_some found]
      dsimp only
      rw [if_pos rfl, first]
      simp only [advance, ended, if_true]
    generalize r₁.step i d c ds (k, t) = r₂ at second ⊢
    rw [run_cons]
    refine mem_journal_run ?_ []
    rw [step_of_some found, second]
    refine List.mem_append_right _ (List.mem_map.mpr ⟨_, ?_, rfl⟩)
    exact List.mem_append_right _ (List.mem_singleton_self _)
  · refine mem_journal_run ?_ [(k, t)]
    rw [step_of_some found, first]
    refine List.mem_append_right _ (List.mem_map.mpr ⟨_, ?_, rfl⟩)
    simp only [advance, if_neg ended]
    exact List.mem_append_right _ (List.mem_singleton_self _)

/-- The first to save is answered with its outcome. -/
theorem answered_of_save {k : Nat} {x : Delivery} (found : ds[k]? = some x)
    (turned : r.phase k = .turned) (waits : x.Waits i d c) {conv : String} {n : Int}
    (quiet : r.world.IsQuiet) (at_ : IsAt conv n r.world) (mine : c.conversationId = conv)
    (number : c.sequence = n) (positive : 1 ≤ n) {t : Moment}
    (timely : ∃ e, Keeping.expiry? t i.sessionHours = .ok e) :
    (k, .answered (x.turn i d c).1) ∈ (r.run i d c ds (thrice k t)).journal := by
  have after : next (x.turn i d c).1 = .waits := (Interpreter.next_waits (turn_shape x)).mpr waits
  have mine' : (x.turn i d c).2.conversationId = conv := (turn_continues x).conversationId.trans mine
  have number' : (x.turn i d c).2.sequence = n := (turn_continues x).sequence.trans number
  have still : (atTime r.world t).IsQuiet := quiet
  obtain ⟨kept, v, saved, -⟩ := save_isAt still at_ mine' number' positive timely
  rw [thrice, run_cons]
  refine mem_journal_run ?_ [(k, t), (k, t)]
  rw [step_of_some found]
  refine List.mem_append_right _ (List.mem_map.mpr ⟨_, ?_, rfl⟩)
  dsimp only
  rw [turned]
  simp only [advance, after, saved]
  exact List.mem_append_right _ (List.mem_singleton_self _)

/-- If one of two deliveries ends the run, both can take effect: the other one first. -/
theorem not_exclusive_of_ending {conv : String} {n : Int} {w : World} (quiet : w.IsQuiet)
    (at_ : IsAt conv n w) (mine : c.conversationId = conv) (number : c.sequence = n)
    (positive : 1 ≤ n) {t : Moment} (timely : ∃ e, Keeping.expiry? t i.sessionHours = .ok e)
    {j k : Nat} {x y : Delivery} (other : j ≠ k) (first : ds[j]? = some x) (second : ds[k]? = some y)
    (ends : ¬ y.Waits i d c) :
    ¬ Exclusive ((Race.start w).run i d c ds (thrice j t ++ thrice k t)).journal := by
  intro exclusive
  rw [run_append] at exclusive
  have one : (j, .answered (x.turn i d c).1)
      ∈ ((Race.start w).run i d c ds (thrice j t)).journal := by
    by_cases waits : x.Waits i d c
    · exact answered_of_save first rfl waits quiet at_ mine number positive timely
    · exact answered_of_ending first rfl waits t
  have turned : ((Race.start w).run i d c ds (thrice j t)).phase k = .turned :=
    phase_thrice_of_ne (fun same => other same.symm) t
  have two := answered_of_ending second turned ends t
  exact other (exclusive.answers j k _ _ (mem_journal_run one _) two (not_isConflict_turn x)
    (not_isConflict_turn y))

end Endings

/-! ## Which races are exclusive -/

/-- Deliveries of one conversation that resumed the same session exclude each other, in every order of
their writes, exactly if there are not two of them or every turn waits for a reply. No fault waits, and
the clock stays where the expiry of a session is a point in time. -/
theorem exclusive_iff (i : Interpreter) (d : Definition) (c : Context) (ds : List Delivery)
    (conv : String) (w v : World) (quiet : w.IsQuiet)
    (counted : IsCounted (w.store.sessionsOf conv))
    (resumed : (Interpreter.resume conv).run w = (.ok (some (c, d)), v))
    (timely : ∃ e, Keeping.expiry? v.now i.sessionHours = .ok e) :
    (∀ schedule : List (Nat × Moment),
      (∀ s ∈ schedule, ∃ e, Keeping.expiry? s.2 i.sessionHours = .ok e) →
        Exclusive ((Race.start v).run i d c ds schedule).journal) ↔
      ds.length ≤ 1 ∨ ∀ x ∈ ds, x.Waits i d c := by
  obtain ⟨loaded, reads⟩ := Interpreter.load_of_resume quiet resumed
  obtain ⟨-, doc, session, from_⟩ := Keeping.load_some quiet loaded
  have mine : c.conversationId = conv := Keeping.conversationId_of_load session from_
  obtain ⟨n, at_, number, positive⟩ : ∃ n, IsAt conv n v ∧ c.sequence = n ∧ 1 ≤ n := by
    rcases counted with nothing | ⟨doc', n, one, found, positive⟩
    · rw [Store.session?_eq_head?, nothing] at session
      cases session
    · rw [Store.session?_of_sessionsOf one] at session
      cases session
      exact ⟨n, ⟨_, by rw [reads.store]; exact one, found⟩, from_.sequence n found, positive⟩
  have still : v.IsQuiet := reads.isQuiet quiet
  constructor
  · intro exclusive
    by_cases alone : ds.length ≤ 1
    · exact .inl alone
    · refine .inr fun y here => Classical.byContradiction fun ends => ?_
      obtain ⟨k, second⟩ := List.mem_iff_getElem?.mp here
      -- Some other delivery goes first: there are two of them.
      obtain ⟨j, other, x, first⟩ : ∃ j, j ≠ k ∧ ∃ x, ds[j]? = some x := by
        by_cases zero : k = 0
        · exact ⟨1, by omega, ds[1], List.getElem?_eq_getElem (by omega)⟩
        · exact ⟨0, by omega, ds[0], List.getElem?_eq_getElem (by omega)⟩
      refine not_exclusive_of_ending still at_ mine number positive timely other first second ends
        (exclusive _ fun s mem => ?_)
      have time : s.2 = v.now := by
        simp only [thrice, List.mem_append, List.mem_cons, List.not_mem_nil, or_false] at mem
        rcases mem with (rfl | rfl | rfl) | (rfl | rfl | rfl) <;> rfl
      rw [time]
      exact timely
  · rintro (alone | waits) schedule times
    · exact .of_alone alone (journal_run_lt (fun e none => absurd none List.not_mem_nil) schedule)
    · exact (Settled.run (.undecided _ still at_ (fun _ => rfl) rfl) mine number positive waits schedule
        times).exclusive

end Contention

namespace Sample

open Contention

/-- A delivery to the small bot. -/
def delivery (text : String) : Delivery := ⟨text, (world []).outside⟩

theorem resume_session :
    (Interpreter.resume "chat").run (world [session])
      = (.ok (some (context, definition)), world [session]) := by
  rw [Interpreter.resume, Operation.run_bind, load_session]
  rfl

/-- Two blank replies: the bot asks again, and the answers exclude each other. -/
theorem exclusive_iff_blank :
    (∀ schedule : List (Nat × Moment),
      (∀ s ∈ schedule, ∃ e, Keeping.expiry? s.2 (interpreter 24).sessionHours = .ok e) →
        Exclusive ((Race.start (world [session])).run (interpreter 24) definition context
          [delivery "", delivery ""] schedule).journal) ↔
      [delivery "", delivery ""].length ≤ 1 ∨
        ∀ x ∈ [delivery "", delivery ""], x.Waits (interpreter 24) definition context :=
  exclusive_iff (interpreter 24) definition context [delivery "", delivery ""] "chat"
    (world [session]) (world [session]) rfl isCounted_session resume_session ⟨nextNoon, rfl⟩

/-- A blank reply and a name: the first is saved, and the second ends the run all the same. -/
theorem not_exclusive_name :
    ¬ Exclusive ((Race.start (world [session])).run (interpreter 24) definition context
      [delivery "", delivery "Ann"] (thrice 0 noon ++ thrice 1 noon)).journal := by
  have ends : ¬ (delivery "Ann").Waits (interpreter 24) definition context := by
    have idle : ((delivery "Ann").turn (interpreter 24) definition context).1.waitingForInput
        = false := by decide +kernel
    intro waits
    exact absurd (idle.symm.trans waits) Bool.false_ne_true
  have quiet : (world [session]).IsQuiet := rfl
  have at_ : IsAt "chat" 1 (world [session]) := ⟨session, rfl, rfl⟩
  exact not_exclusive_of_ending quiet at_ rfl rfl (Int.le_refl 1) ⟨nextNoon, rfl⟩ (by decide) rfl rfl ends

end Sample

end ChatFlow
