import ChatFlow.Proofs.Interpreter.Tallying
import ChatFlow.Proofs.Turn.Building

/-!
Answers with a turn, and answers without one.

Where no fault waits a message is answered by a turn or by an excuse, and `Interpreter.turned?` computes the
turn, if there is one (`Interpreter.turned?_eq_some_iff`). After a turn that ends its run, the run is counted.
After any other turn, and where there was none, no flow has changed (`Interpreter.process_turned`). An answer
takes no time: the clock shows afterwards what it showed before (`Interpreter.now_process`).
-/

namespace ChatFlow

namespace Interpreter

open ChatFlow.Flow (Definition)

open Operation (run_bind run_now run_ofExcept)

variable {i : Interpreter} {m : Inbound} {w u v : World} {d : Definition} {o : Outcome} {c : Context}

/-- The turn by which a message is answered: its outcome, and the context that it leaves. -/
def turned? (i : Interpreter) (m : Inbound) (w : World) : Option (Outcome × Context) :=
  match (resume m.conversationId).run w with
  | (.error _, _) => none
  | (.ok (some (c, d)), u) =>
    some (Turn.takeTurn i.registry i.maxHops d c (some m.message) u.outside).1
  | (.ok none, v) =>
    match (Dispatch.find m.workspaceId m.botId (.ofMessage m.message) false).run v with
    | (.ok (some d), u) =>
      match Context.create? u.now d m.conversationId m.contact with
      | .ok c => some (Turn.takeTurn i.registry i.maxHops d (c.say [.ofUser u.now m.message none]) none
          u.outside).1
      | .error _ => none
    | _ => none

theorem turned?_eq_some_iff : i.turned? m w = some (o, c) ↔ ∃ d u, Makes i m w d o c u := by
  constructor
  · intro turned
    unfold turned? at turned
    split at turned
    · cases turned
    · rename_i c₀ d u resumed
      exact ⟨d, _, .proceeds c₀ c d u o _ resumed (Prod.ext (Option.some.inj turned) rfl)⟩
    · rename_i v resumed
      split at turned
      · rename_i d u found
        split at turned
        · rename_i c₀ created
          exact ⟨d, _, .starts c₀ c d v u o _ resumed found created (Prod.ext (Option.some.inj turned) rfl)⟩
        · cases turned
      · cases turned
  · rintro ⟨d, u, makes⟩
    unfold turned?
    cases makes with
    | proceeds c₀ later d u o left resumed turn =>
      rw [resumed]
      dsimp only
      rw [turn]
    | starts c₀ later d v u o left resumed found created turn =>
      rw [resumed]
      dsimp only
      rw [found]
      dsimp only
      rw [created]
      dsimp only
      rw [turn]

theorem turned?_eq_none_iff : i.turned? m w = none ↔ ∀ d o c u, ¬ Makes i m w d o c u := by
  rw [Option.eq_none_iff_forall_ne_some]
  constructor
  · exact fun none d o c u makes => none (o, c) (turned?_eq_some_iff.mpr ⟨d, u, makes⟩)
  · rintro idle ⟨o, c⟩ turned
    obtain ⟨d, u, makes⟩ := turned?_eq_some_iff.mp turned
    exact idle d o c u makes

/-! ## The two sorts of answers -/

/-- What is left after an answer, by the turn that was made. -/
inductive Turned (i : Interpreter) (m : Inbound) (w : World) : Outcome × World → Prop
  /-- The turn ends its run, which is counted. -/
  | ended (d : Definition) (o : Outcome) (c : Context) (u v : World) (makes : Makes i m w d o c u)
    (ends : next o = .ended) (carries : u.Carries m.conversationId c.flowId v) :
    Turned i m w (o, counted v c.flowId o.success)
  /-- The turn waits or fails. If it waits and cannot be saved, the answer is an excuse. -/
  | unended (d : Definition) (o : Outcome) (c : Context) (u : World) (answer : Outcome) (v : World)
    (makes : Makes i m w d o c u) (goes_on : next o ≠ .ended)
    (carries : u.Carries m.conversationId c.flowId v) : Turned i m w (answer, v)
  /-- There is no turn, and the answer is an excuse. -/
  | excused (answer : Outcome) (v : World) (idle : ∀ d o c u, ¬ Makes i m w d o c u) (quiet : v.IsQuiet)
    (clock : v.now = w.now) (flows : v.store.flows = w.store.flows) : Turned i m w (answer, v)

/-- An answer that breaks down without a turn is an excuse. -/
theorem turned_of_error {f : Failure} (idle : ∀ d o c u, ¬ Makes i m w d o c u)
    (fails : (i.respond m).run w = (.error f, v)) (quiet : v.IsQuiet) (clock : v.now = w.now)
    (flows : v.store.flows = w.store.flows) : Turned i m w (i.process m w) := by
  have carries := carries_of_error "" fails quiet
  exact .excused _ _ idle (carries.quiet quiet) (carries.now.trans clock) (carries.flows.trans flows)

/-- If there is nothing to resume, and no turn is made, the answer is an excuse. -/
theorem turned_of_nothing (quiet : w.IsQuiet) (idle : ∀ d o c u, ¬ Makes i m w d o c u)
    (resumed : (resume m.conversationId).run w = (.ok none, v)) : Turned i m w (i.process m w) := by
  obtain ⟨flows, quiet'⟩ := flows_of_nothing quiet resumed
  have clock := now_of_resume_none quiet resumed
  have reads := (Dispatch.isReading_find m.workspaceId m.botId (.ofMessage m.message) false).onlyReads v
    quiet'
  have responds := respond_of_nothing (i := i) resumed
  generalize found : (Dispatch.find m.workspaceId m.botId (.ofMessage m.message) false).run v = r
    at reads responds
  have flows' := (congrArg Store.flows reads.store).trans flows
  have clock' := reads.now.trans clock
  obtain ⟨f | _ | d, u⟩ := r
  · exact turned_of_error idle responds (reads.isQuiet quiet') clock' flows'
  · rw [process_of_ok responds]
    exact .excused _ _ idle (reads.isQuiet quiet') clock' flows'
  · dsimp only at responds
    cases created : Context.create? u.now d m.conversationId m.contact with
    | error f =>
      rw [start, run_bind, run_now] at responds
      dsimp only at responds
      rw [run_bind, run_ofExcept, created] at responds
      exact turned_of_error idle responds (reads.isQuiet quiet') clock' flows'
    | ok c =>
      exact absurd (.starts c _ d v u _ _ resumed found created rfl) (idle d _ _ _)

/-- Where no fault waits, a message is answered by a turn or by an excuse. -/
theorem process_turned (quiet : w.IsQuiet) (i : Interpreter) (m : Inbound) :
    Turned i m w (i.process m w) := by
  by_cases turned : ∃ d o c u, Makes i m w d o c u
  · obtain ⟨d, o, c, u, makes⟩ := turned
    obtain ⟨v, carries, left, answer⟩ := process_of_makes makes (makes.spends.isQuiet quiet)
    by_cases ends : next o = .ended
    · rw [if_pos ends] at left
      rw [show i.process m w = (o, counted v c.flowId o.success) from
        Prod.ext (answer (by rw [ends]; decide)) left]
      exact .ended d o c u v makes ends carries
    · rw [if_neg ends] at left
      rw [show i.process m w = ((i.process m w).1, v) from Prod.ext rfl left]
      exact .unended d o c u _ v makes ends carries
  · have idle : ∀ d o c u, ¬ Makes i m w d o c u := fun d o c u makes => turned ⟨d, o, c, u, makes⟩
    have resumes := resume_cases quiet m.conversationId
    cases resumed : (resume m.conversationId).run w with
    | mk found v =>
      rw [resumed] at resumes
      match found with
      | .error f =>
        cases resumes with
        | fails _ _ reads =>
          have fails : (i.respond m).run w = (.error f, v) := by rw [respond, run_bind, resumed]
          exact turned_of_error idle fails (reads.isQuiet quiet) reads.now (congrArg Store.flows reads.store)
      | .ok none => exact turned_of_nothing quiet idle resumed
      | .ok (some (c, d)) => exact absurd (.proceeds c _ d v _ _ resumed rfl) (idle d _ _ _)

/-! ## The clock -/

/-- Up to the end of its turn an answer takes no time. -/
theorem Makes.now (makes : Makes i m w d o c u) (built : i.registry.IsBuilt) (quiet : w.IsQuiet) :
    u.now = w.now := by
  cases makes with
  | proceeds c₀ later d u o left resumed turn =>
    have still := (Turn.isBuilt_takeTurn built i.maxHops d c₀ (some m.message)).now_eq u.outside
    rw [turn] at still
    exact still.trans (load_of_resume quiet resumed).2.now
  | starts c₀ later d v u o left resumed found created turn =>
    have finds := (Dispatch.isReading_find m.workspaceId m.botId (.ofMessage m.message) false).looks v
    have still := (Turn.isBuilt_takeTurn built i.maxHops d (c₀.say [.ofUser u.now m.message none]) none).now_eq
      u.outside
    rw [found] at finds
    rw [turn] at still
    exact still.trans (finds.now.trans (now_of_resume_none quiet resumed))

/-- An answer takes no time. -/
theorem now_process (built : i.registry.IsBuilt) (quiet : w.IsQuiet) (m : Inbound) :
    (i.process m w).2.now = w.now := by
  have turned := process_turned quiet i m
  generalize i.process m w = r at turned
  cases turned with
  | ended d o c u v makes ends carries =>
    have still : v.IsQuiet := carries.quiet (makes.spends.isQuiet quiet)
    obtain ⟨-, -, clock⟩ := countRun_run still.letsWrite c.flowId o.success
    exact clock.trans (carries.now.trans (makes.now built quiet))
  | unended d o c u answer v makes goes_on carries => exact carries.now.trans (makes.now built quiet)
  | excused answer v idle quiet clock flows => exact clock

end Interpreter

end ChatFlow
