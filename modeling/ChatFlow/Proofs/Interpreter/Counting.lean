import ChatFlow.Proofs.Interpreter.OneDocument
import ChatFlow.Proofs.Interpreter.Turning
import ChatFlow.Proofs.Store.Counters

/-!
The counters of flows count their runs.

The document of a flow says how many of its runs are over, and how many of these were successful
(`Entries.tally?`). `Interpreter.finished` tells the same from the answers, without the store: it is the list
of the turns that completed a run of the flow, each with its success. Over every history of answers and edits
the counters grow by exactly what this list counts, as long as they are integers or absent
(`Interpreter.counters_count_runs`).

One step is `Interpreter.process_counts`: an answer that is a turn which completes its run counts it on one
document, and every other answer leaves all flows as they are. For counters that are no integers this need
not be so, as the store refuses to add to what is no number.
-/

namespace ChatFlow

open ChatFlow.Flow (Definition)

namespace Interpreter

open Contention (atTime)

open Store (AreCounted AreOrdered CountsOn plus)

variable {i : Interpreter} {m : Inbound} {w v : World} {o : Outcome} {id : String}

/-! ## One answer -/

/-- A turn ends its run if it completes the flow. -/
theorem next_ended (shape : Turn.Shape o) : next o = .ended ↔ o.completed = true := by
  cases shape with
  | waits success messages => simp [next, Outcome.plain, Outcome.isHandoff, Turn.given?]
  | ends success messages handoff => simp [next, Outcome.plain]
  | fails messages excuse completed error apologizes said =>
    cases completed <;> simp [next, Outcome.plain, Outcome.isHandoff, Turn.given?, said]

/-- An answer is a turn that completes the flow, and the run is counted, or no flow has changed. -/
inductive Counts (i : Interpreter) (m : Inbound) (w : World) : Prop
  | finished (d : Definition) (o : Outcome) (c : Context) (u : World) (makes : Makes i m w d o c u)
    (completed : o.completed = true) (answer : (i.process m w).1 = o)
    (counts : CountsOn (.ofId c.flowId) o.success w.store.flows (i.process m w).2.store.flows)
  | unfinished (goes_on : ∀ d o c u, Makes i m w d o c u → o.completed = false)
    (same : (i.process m w).2.store.flows = w.store.flows)

theorem process_counts (i : Interpreter) (m : Inbound) (quiet : w.IsQuiet)
    (counted : AreCounted w.store.flows) : Counts i m w := by
  have turned := process_turned quiet i m
  generalize answered : i.process m w = r at turned
  cases turned with
  | ended d o c u v makes ends carries =>
    refine .finished d o c u makes ((next_ended makes.shape).mp ends) (by rw [answered]) ?_
    rw [answered]
    exact Store.countsOn_of_tallied (makes.tallied quiet carries o.success) counted
  | unended d o c u answer v makes goes_on carries =>
    refine .unfinished (fun d' o' c' u' makes' => ?_) ?_
    · obtain ⟨rfl, -, -⟩ := makes.unique makes'
      exact Bool.eq_false_iff.mpr (goes_on ∘ (next_ended makes.shape).mpr)
    · rw [answered]
      exact carries.flows.trans (makes.flows quiet)
  | excused answer v idle quiet clock flows =>
    refine .unfinished (fun d o c u makes => absurd makes (idle d o c u)) ?_
    rw [answered]
    exact flows

/-! ## Histories -/

/-- The world after a history. -/
def serve (i : Interpreter) : List Step → World → World
  | [], w => w
  | .edit e :: rest, w => serve i rest (e.apply w)
  | .delivery now m :: rest, w => serve i rest (i.process m (atTime w now)).2

/-- The success of the run of the flow that the answer to a message completes, if it completes one. -/
def completed (i : Interpreter) (id : String) (m : Inbound) (w : World) : List Bool :=
  match i.turned? m w with
  | some (o, c) => if o.completed && (Value.ofId c.flowId).isSameLeaf (.ofId id) then [o.success] else []
  | none => []

/-- The runs of a flow that are completed in a history, each by its success. -/
def finished (i : Interpreter) (id : String) : List Step → World → List Bool
  | [], _ => []
  | .edit e :: rest, w => finished i id rest (e.apply w)
  | .delivery now m :: rest, w =>
    completed i id m (atTime w now) ++ finished i id rest (i.process m (atTime w now)).2

/-- What all flows count, by their ids. -/
def counters (w : World) : List (Option Value × Option (Int × Int)) :=
  w.store.flows.map fun doc => (doc.lookup "_id", doc.tally?)

/-- The edits of a history do not touch the counters. -/
def KeepsCounters (i : Interpreter) : List Step → World → Prop
  | [], _ => True
  | .edit e :: rest, w => counters (e.apply w) = counters w ∧ KeepsCounters i rest (e.apply w)
  | .delivery now m :: rest, w => KeepsCounters i rest (i.process m (atTime w now)).2

theorem areCounted_iff : AreCounted w.store.flows ↔ ∀ p ∈ counters w, p.2.isSome = true := by
  simp [AreCounted, counters]

theorem areOrdered_iff :
    AreOrdered w.store.flows ↔ ∀ p ∈ counters w, ∀ n k, p.2 = some (n, k) → k ≤ n := by
  simp only [AreOrdered, counters, List.forall_mem_map]

/-- Flows with the same counters count the same. -/
theorem tally?_of_counters (same : counters v = counters w) (id : String) :
    v.store.tally? id = w.store.tally? id := by
  unfold counters at same
  unfold Store.tally? Store.flow?
  generalize v.store.flows = docs at same
  generalize w.store.flows = docs' at same
  induction docs generalizing docs' with
  | nil =>
    rw [List.map_nil, eq_comm, List.map_eq_nil_iff] at same
    rw [same]
  | cons doc rest ih =>
    cases docs' with
    | nil => cases same
    | cons doc' rest' =>
      rw [List.map_cons, List.map_cons, List.cons.injEq, Prod.mk.injEq] at same
      obtain ⟨⟨key, tally⟩, same⟩ := same
      by_cases own : doc.lookup "_id" = some (.ofId id)
      · rw [Documents.find?_cons_of_own own, Documents.find?_cons_of_own (key.symm.trans own),
          Option.bind_some, Option.bind_some, tally]
      · have other := own
        rw [key] at other
        rw [Documents.find?_cons_of_other own, Documents.find?_cons_of_other other, ih rest' same]

/-- An answer adds to the counters of a flow the run that it completes. -/
theorem tally?_process (quiet : w.IsQuiet) (counted : AreCounted w.store.flows) (i : Interpreter)
    (m : Inbound) (id : String) :
    (i.process m w).2.store.tally? id = (w.store.tally? id).map (plus (completed i id m w)) := by
  unfold completed
  cases process_counts i m quiet counted with
  | finished d o c u makes completed answer counts =>
    rw [turned?_eq_some_iff.mpr ⟨d, u, makes⟩]
    dsimp only
    rw [completed, Bool.true_and]
    exact counts.find?
  | unfinished goes_on same =>
    rw [Store.tally?, Store.flow?, same, ← Store.flow?, ← Store.tally?]
    cases turned : i.turned? m w with
    | none => exact (Store.map_plus_nil _).symm
    | some r =>
      obtain ⟨d, u, makes⟩ := turned?_eq_some_iff.mp turned
      dsimp only
      rw [goes_on d _ _ u makes, Bool.false_and, if_neg Bool.false_ne_true, Store.map_plus_nil]

theorem areCounted_process (quiet : w.IsQuiet) (counted : AreCounted w.store.flows) (i : Interpreter)
    (m : Inbound) : AreCounted (i.process m w).2.store.flows := by
  cases process_counts i m quiet counted with
  | finished d o c u makes completed answer counts => exact counts.areCounted counted
  | unfinished goes_on same => rwa [same]

theorem areOrdered_process (quiet : w.IsQuiet) (counted : AreCounted w.store.flows)
    (ordered : AreOrdered w.store.flows) (i : Interpreter) (m : Inbound) :
    AreOrdered (i.process m w).2.store.flows := by
  cases process_counts i m quiet counted with
  | finished d o c u makes completed answer counts => exact counts.areOrdered ordered
  | unfinished goes_on same => rwa [same]

/-- What holds throughout a history. -/
structure IsCounted (w : World) : Prop where
  quiet : w.IsQuiet
  counted : AreCounted w.store.flows

theorem IsCounted.edit (h : IsCounted w) {e : Edit} (keeps : counters (e.apply w) = counters w) :
    IsCounted (e.apply w) where
  quiet := (e.leaves h.quiet).2.1.trans h.quiet
  counted := by
    rw [areCounted_iff, keeps]
    exact areCounted_iff.mp h.counted

theorem IsCounted.process (h : IsCounted w) (i : Interpreter) (m : Inbound) (now : Moment) :
    IsCounted (i.process m (atTime w now)).2 where
  quiet := (spends_process i m (atTime w now)).isQuiet h.quiet
  counted := areCounted_process (w := atTime w now) h.quiet h.counted i m

theorem keepsCounters_append {before after : List Step} : KeepsCounters i (before ++ after) w ↔
    KeepsCounters i before w ∧ KeepsCounters i after (serve i before w) := by
  induction before generalizing w with
  | nil => simp [KeepsCounters, serve]
  | cons step rest ih => cases step <;> simp [KeepsCounters, serve, ih, and_assoc]

theorem IsCounted.serve (h : IsCounted w) {steps : List Step} (keeps : KeepsCounters i steps w) :
    IsCounted (serve i steps w) := by
  induction steps generalizing w with
  | nil => exact h
  | cons step rest ih =>
    cases step with
    | edit e => exact ih (h.edit keeps.1) keeps.2
    | delivery now m => exact ih (h.process i m now) keeps

/-- The counters of a flow grow by the runs that are completed. -/
theorem IsCounted.tally?_serve (h : IsCounted w) {steps : List Step} (keeps : KeepsCounters i steps w)
    (id : String) :
    (Interpreter.serve i steps w).store.tally? id = (w.store.tally? id).map (plus (finished i id steps w)) := by
  induction steps generalizing w with
  | nil => exact (Store.map_plus_nil _).symm
  | cons step rest ih =>
    cases step with
    | edit e =>
      rw [Interpreter.serve, ih (h.edit keeps.1) keeps.2, tally?_of_counters keeps.1, finished]
    | delivery now m =>
      have answered := tally?_process (w := atTime w now) h.quiet h.counted i m id
      rw [Interpreter.serve, ih (h.process i m now) keeps, answered, finished, Store.map_plus_append]
      rfl

theorem IsCounted.areOrdered_serve (h : IsCounted w) {steps : List Step} (keeps : KeepsCounters i steps w)
    (ordered : AreOrdered w.store.flows) : AreOrdered (Interpreter.serve i steps w).store.flows := by
  induction steps generalizing w with
  | nil => exact ordered
  | cons step rest ih =>
    cases step with
    | edit e =>
      refine ih (h.edit keeps.1) keeps.2 ?_
      rw [areOrdered_iff, keeps.1]
      exact areOrdered_iff.mp ordered
    | delivery now m =>
      exact ih (h.process i m now) keeps (areOrdered_process (w := atTime w now) h.quiet h.counted ordered i m)

/-- In every history each answer counts the run that it completes and no other, the counters of a flow grow
by its completed runs, and no flow comes to have more successful runs than runs. -/
theorem counters_count_runs (i : Interpreter) (steps : List Step) (w : World) (quiet : w.IsQuiet)
    (counted : AreCounted w.store.flows) (keeps : KeepsCounters i steps w) :
    (∀ before now m after, steps = before ++ .delivery now m :: after →
        Counts i m (atTime (serve i before w) now)) ∧
      (∀ id, (serve i steps w).store.tally? id = (w.store.tally? id).map (plus (finished i id steps w))) ∧
      (AreOrdered w.store.flows → AreOrdered (serve i steps w).store.flows) := by
  have start : IsCounted w := ⟨quiet, counted⟩
  refine ⟨fun before now m after parts => ?_, start.tally?_serve keeps, start.areOrdered_serve keeps⟩
  rw [parts, keepsCounters_append] at keeps
  have there := start.serve keeps.1
  exact process_counts i m there.quiet there.counted

end Interpreter

namespace Sample

open Interpreter

open Contention (atTime)

/-- The small bot asks its question, and has a second version when the name is given. -/
def conversation : List Step := .delivery noon (message "hello") :: republication

theorem keepsCounters_conversation :
    KeepsCounters (interpreter 24) conversation opening :=
  ⟨by with_unfolding_all rfl, by with_unfolding_all rfl, by with_unfolding_all rfl, trivial⟩

/-- The one run of the conversation is counted, when the name is given. -/
theorem counters_count_runs_conversation :
    Counts (interpreter 24) (message "hello") (atTime opening noon) ∧
      (serve (interpreter 24) conversation opening).store.tally? "greeting" = some (1, 1) := by
  have counted : Store.AreCounted opening.store.flows := by
    unfold Store.AreCounted
    decide +kernel
  obtain ⟨each, total, -⟩ := counters_count_runs (interpreter 24) conversation opening rfl counted
    keepsCounters_conversation
  refine ⟨each [] noon (message "hello") _ rfl, ?_⟩
  rw [total "greeting"]
  decide +kernel

/-- The document of a flow whose runs are counted in a text. -/
def wordyDocument : Entries := Entries.update flowDocument [("total_runs", .text "3")]

/-- The world of a bot with that flow, which ends at once. -/
def wordy : World := stocked [wordyDocument] [Entries.update nextDocument [("_id", .text "v1")]]

/-- What the flow of that bot is read to have run. -/
def runsRead (w : World) : Option Int := (w.store.readFlow? w.now "greeting").map (·.totalRuns)

/-- A number in a text is read, but a run is not added to it: the flow is completed and its runs stay three. -/
theorem text_counter_stays :
    (¬ ∀ (i : Interpreter) (m : Inbound) (w : World), w.IsQuiet → Counts i m w) ∧
      ((interpreter 24).turned? (message "hello") wordy).any (fun (o, c) => o.completed && c.flowId == "greeting")
        = true ∧
      runsRead wordy = some 3 ∧ runsRead ((interpreter 24).process (message "hello") wordy).2 = some 3 := by
  have completes : ((interpreter 24).turned? (message "hello") wordy).any
      (fun (o, c) => o.completed && c.flowId == "greeting") = true := by decide +kernel
  refine ⟨fun counts => ?_, completes, by decide +kernel, by decide +kernel⟩
  cases turned : (interpreter 24).turned? (message "hello") wordy with
  | none =>
    rw [turned] at completes
    cases completes
  | some r =>
    obtain ⟨o, c⟩ := r
    obtain ⟨d, u, makes⟩ := turned?_eq_some_iff.mp turned
    rw [turned, Option.any_some, Bool.and_eq_true, beq_iff_eq] at completes
    cases counts (interpreter 24) (message "hello") wordy rfl with
    | finished d' o' c' u' makes' completed answer counts =>
      obtain ⟨-, rfl, -⟩ := makes.unique makes'
      have flows : wordy.store.flows = [wordyDocument] := rfl
      rw [flows] at counts
      generalize ((interpreter 24).process (message "hello") wordy).2.store.flows = left at counts
      cases counts with
      | here own counts =>
        obtain ⟨n, k, tally, -⟩ := counts.tally
        cases tally
      | later other counts =>
        rw [completes.2] at other
        exact other rfl
    | unfinished goes_on same =>
      rw [goes_on d o c u makes] at completes
      cases completes.1

end Sample

end ChatFlow
