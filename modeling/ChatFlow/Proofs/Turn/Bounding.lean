import ChatFlow.Proofs.Interpreter.Answering
import ChatFlow.Proofs.Turn.Building
import ChatFlow.Proofs.Turn.Stepping

/-!
The bound on the visits of a turn.

The bound ends turns and does nothing else. Whatever a turn does within a bound it does within a larger one
(`Turn.ComesTo.mono`), so that a turn which ends before its bound is the same turn under every larger bound,
and one which is broken off by its bound is a first part of the turn under a larger one
(`Turn.takeTurn_of_le`). That the calls are among those of the longer turn needs behaviors that take no call
back (`Registry.KeepsCalls`); behaviors that are built of the primitive activities cannot.
-/

namespace ChatFlow

open ChatFlow.Flow (Definition)
open Relation (ReflTransGen)

/-- No behavior of the registry takes a call back. -/
def Registry.KeepsCalls (r : Registry) : Prop :=
  ∀ b ∈ r.fallback :: r.behaviors.map Prod.snd, ∀ node c reply o,
    o.calls <+: ((b node c reply).run o).2.calls

theorem Registry.IsBuilt.keepsCalls {r : Registry} (built : r.IsBuilt) : r.KeepsCalls := by
  intro b registered node c reply o
  obtain ⟨more, calls, -⟩ := (built b registered node c reply).calls_eq o
  rw [calls]
  exact List.prefix_append _ _

theorem Registry.calls_behavior (r : Registry) (kind : String) (o : Outside) :
    (r.behavior kind o).2.calls = o.calls := by
  unfold behavior
  cases r.behaviors.lookup kind <;> rfl

namespace Turn

/-- The turn was broken off since no more visits were allowed. -/
def Ending.isExhaustion : Ending → Bool
  | .exhausts _ => true
  | _ => false

/-- The turn ends because no more visits are allowed. -/
def Exhausts (registry : Registry) (maxHops : Nat) (d : Definition) (c : Context) (reply : Option String)
    (start : Outside) : Prop :=
  ∃ course, Takes registry maxHops d c reply start course ∧ course.ending.isExhaustion = true

variable {registry : Registry} {maxHops k k' : Nat} {d : Definition} {c : Context} {reply : Option String}
  {start : Outside} {s t : Stage} {v : Visit} {left : Outside} {course : Course}

/-- A visit that ends a turn does not do so by the bound. -/
theorem Visit.Closes.not_isExhaustion {from_ place : String} {ending : Ending}
    (closes : v.Closes d from_ place ending) : ending.isExhaustion = false := by
  cases closes <;> rfl

theorem Halts.isExhaustion_iff (halts : Halts registry maxHops d c reply start s course) :
    course.ending.isExhaustion = true ↔ s.visits.length = maxHops := by
  cases halts with
  | exhausts full => exact iff_of_true rfl full
  | misses room => exact iff_of_false Bool.false_ne_true (Nat.ne_of_lt room)
  | closes room _ closes =>
    exact iff_of_false (ne_true_of_eq_false closes.not_isExhaustion) (Nat.ne_of_lt room)

/-- A turn is broken off by the bound if it makes all the visits that are allowed and is to go on. -/
theorem exhausts_iff :
    Exhausts registry maxHops d c reply start ↔
      ∃ s, ComesTo registry maxHops d c reply start s ∧ s.visits.length = maxHops := by
  constructor
  · rintro ⟨course, ⟨s, comes, halts⟩, exhaustion⟩
    exact ⟨s, comes, halts.isExhaustion_iff.mp exhaustion⟩
  · rintro ⟨s, comes, full⟩
    exact ⟨_, ⟨s, comes, .exhausts full⟩, rfl⟩

/-- Whether a turn was broken off by the bound is seen from its outcome: it is reported, and the apology
comes from no node. A node that fails may report the same, but then the apology comes from that node. -/
theorem exhausts_iff_outcome :
    Exhausts registry maxHops d c reply start ↔
      (takeTurn registry maxHops d c reply start).1.1.error = some "Maximum hop count exceeded" ∧
      ((takeTurn registry maxHops d c reply start).1.1.messages.getLast?.bind (·.nodeId)) = none := by
  obtain ⟨course, takes⟩ := exists_takes registry maxHops d c reply start
  have exhausts : Exhausts registry maxHops d c reply start ↔ course.ending.isExhaustion = true :=
    ⟨fun ⟨other, takes', exhaustion⟩ => takes'.unique takes ▸ exhaustion, fun h => ⟨course, takes, h⟩⟩
  rw [exhausts, (takeTurn_of_takes takes).1]
  obtain ⟨visits, place, ending, left⟩ := course
  cases ending with
  | waits | completes | misses => simp [Course.outcome, Ending.isExhaustion, Ending.error?]
  | fails => simp [Course.outcome, Ending.isExhaustion, Ending.apology?, Message.ofBot]
  | exhausts =>
    simp [Course.outcome, Ending.isExhaustion, Ending.error?, Ending.apology?, Message.ofBot]

instance : Decidable (Exhausts registry maxHops d c reply start) :=
  decidable_of_iff _ exhausts_iff_outcome.symm

/-! ## Under a larger bound -/

theorem Steps.mono (le : k ≤ k') (step : Steps registry k d c reply start s t) :
    Steps registry k' d c reply start s t := by
  obtain ⟨room, visits, leads⟩ := step
  exact .goesOn (Nat.lt_of_lt_of_le room le) visits leads

theorem ComesTo.mono (le : k ≤ k') (comes : ComesTo registry k d c reply start s) :
    ComesTo registry k' d c reply start s :=
  ReflTransGen.mono (fun _ _ => Steps.mono le) _ _ comes

theorem Halts.mono (le : k ≤ k') (halts : Halts registry k d c reply start s course)
    (settled : course.ending.isExhaustion = false) : Halts registry k' d c reply start s course := by
  cases halts with
  | exhausts => cases settled
  | misses room missing => exact .misses (Nat.lt_of_lt_of_le room le) missing
  | closes room visits closes => exact .closes (Nat.lt_of_lt_of_le room le) visits closes

/-! ## What is done stays done -/

theorem Steps.isPrefix_visits (step : Steps registry maxHops d c reply start s t) :
    s.visits <+: t.visits := by
  obtain ⟨-, -, -⟩ := step
  exact List.prefix_append _ _

theorem isPrefix_visits_of_steps (steps : ReflTransGen (Steps registry maxHops d c reply start) s t) :
    s.visits <+: t.visits := by
  induction steps with
  | refl => exact List.prefix_rfl
  | tail _ step ih => exact ih.trans step.isPrefix_visits

theorem Halts.isPrefix_visits (halts : Halts registry maxHops d c reply start s course) :
    s.visits <+: course.visits := by
  cases halts with
  | exhausts | misses => exact List.prefix_rfl
  | closes => exact List.prefix_append _ _

/-- What was said stays said. -/
theorem isPrefix_said {visits more : List Visit} (longer : visits <+: more) : said visits <+: said more := by
  obtain ⟨later, rfl⟩ := longer
  rw [said, said, List.flatMap_append]
  exact List.prefix_append _ _

/-- A visit adds its calls to those made before. -/
theorem Visits.isPrefix_calls (keeps : registry.KeepsCalls)
    (visits : Visits registry d c reply start s v left) : s.outside.calls <+: left.calls := by
  obtain ⟨node, -, visited⟩ := visits
  have kept := registry.behaviorOf_of_forall keeps node.kind node
    (after c (heard c start.now reply) s.visits s.place) (s.handed reply)
    (registry.behavior node.kind s.outside).2
  rw [Registry.calls_behavior] at kept
  unfold visit at visited
  split at visited <;> rename_i executed <;> rw [executed] at kept
  · cases visited
    exact kept
  · cases visited
    split <;> exact kept

theorem isPrefix_calls_of_steps (keeps : registry.KeepsCalls)
    (steps : ReflTransGen (Steps registry maxHops d c reply start) s t) :
    s.outside.calls <+: t.outside.calls := by
  induction steps with
  | refl => exact List.prefix_rfl
  | tail _ step ih =>
    obtain ⟨-, visits, -⟩ := step
    exact ih.trans (visits.isPrefix_calls keeps)

theorem Halts.isPrefix_calls (keeps : registry.KeepsCalls)
    (halts : Halts registry maxHops d c reply start s course) :
    s.outside.calls <+: course.outside.calls := by
  cases halts with
  | exhausts | misses => exact List.prefix_rfl
  | closes _ visits => exact visits.isPrefix_calls keeps

/-- From each stage on, what was said and called before begins what the turn says and calls. -/
theorem ComesTo.isPrefix (comes : ComesTo registry maxHops d c reply start s) :
    said s.visits <+: (takeTurn registry maxHops d c reply start).1.1.messages ∧
      (registry.KeepsCalls →
        s.outside.calls <+: (takeTurn registry maxHops d c reply start).2.calls) := by
  obtain ⟨t, course, steps, halts⟩ := exists_halts registry d c reply start comes.length_le
  have takes : Takes registry maxHops d c reply start course := ⟨t, comes.trans steps, halts⟩
  rw [(takeTurn_of_takes takes).1]
  constructor
  · have longer : s.visits <+: course.visits :=
      (isPrefix_visits_of_steps steps).trans halts.isPrefix_visits
    exact (isPrefix_said longer).trans (List.prefix_append _ _)
  · intro keeps
    exact (isPrefix_calls_of_steps keeps steps).trans (halts.isPrefix_calls keeps)

/-! ## The bound only ends turns -/

/-- A turn that is not broken off by its bound is the same under every larger bound: it comes to the same
outcome, leaves the same context, makes the same calls and writes the same log. -/
theorem takeTurn_eq_of_not_exhausts (le : k ≤ k') (settled : ¬ Exhausts registry k d c reply start) :
    takeTurn registry k' d c reply start = takeTurn registry k d c reply start := by
  obtain ⟨course, takes⟩ := exists_takes registry k d c reply start
  have ends : course.ending.isExhaustion = false :=
    Bool.eq_false_iff.mpr fun exhaustion => settled ⟨course, takes, exhaustion⟩
  have takes' : Takes registry k' d c reply start course := by
    obtain ⟨s, comes, halts⟩ := takes
    exact ⟨s, comes.mono le, halts.mono le ends⟩
  rw [(takeTurn_of_takes takes).1, (takeTurn_of_takes takes').1]

/-- Under a larger bound, a turn that is not broken off by its bound is the same, and one that is broken off
says and does the same at first: what it says before its apology begins the messages of the longer turn, and,
unless a behavior takes calls back, its calls begin those of the longer turn. -/
theorem takeTurn_of_le (registry : Registry) (d : Definition) (c : Context) (reply : Option String)
    (start : Outside) (le : k ≤ k') :
    (¬ Exhausts registry k d c reply start →
      takeTurn registry k' d c reply start = takeTurn registry k d c reply start) ∧
    (Exhausts registry k d c reply start → ∃ course, Takes registry k d c reply start course ∧
      (takeTurn registry k d c reply start).1.1.messages
        = said course.visits ++ [.ofBot course.outside.now apology none] ∧
      said course.visits <+: (takeTurn registry k' d c reply start).1.1.messages ∧
      (registry.KeepsCalls → (takeTurn registry k d c reply start).2.calls
        <+: (takeTurn registry k' d c reply start).2.calls)) := by
  refine ⟨takeTurn_eq_of_not_exhausts le, fun exhausts => ?_⟩
  obtain ⟨s, comes, full⟩ := exhausts_iff.mp exhausts
  have takes : Takes registry k d c reply start _ := ⟨s, comes, .exhausts full⟩
  obtain ⟨tells, calls⟩ := (comes.mono le).isPrefix
  refine ⟨_, takes, ?_, tells, ?_⟩ <;> rw [(takeTurn_of_takes takes).1]
  · rfl
  · exact calls

end Turn

/-! ## A flow that polls -/

namespace Sample

open Turn

/-- Asks another service, says that it waits, and begins again. The node `bye` stands apart. -/
def polling : Definition :=
  { definition with version := { version with
    nodes := [⟨"poll", "api_call", [("apiConfig", .dict [("url", .text "http://status")])], []⟩,
      ⟨"tell", "message", [("content", .text "Still waiting.")], []⟩, ⟨"bye", "end", [], []⟩]
    edges := [⟨"e1", "poll", "tell", none, none, []⟩, ⟨"e2", "tell", "poll", none, none, []⟩] } }

/-- The conversation at the node. -/
def contextAt (nodeId : String) : Context := { context with currentNodeId := nodeId }

/-- The service that is polled always answers. -/
def answering : Outside := ⟨noon, List.replicate 9 (.response 200 ""), [], [], []⟩

/-- Three visits of the flow that polls are the first three of five, and make the first two of three calls; a
turn that ends by itself is the same with five visits allowed as with three. -/
theorem takeTurn_of_le_polling :
    (Exhausts (.standard services) 3 polling (contextAt "poll") none answering ∧
      (takeTurn (.standard services) 3 polling (contextAt "poll") none answering).2.calls.length = 2 ∧
      (takeTurn (.standard services) 5 polling (contextAt "poll") none answering).2.calls.length = 3 ∧
      ∃ course, Takes (.standard services) 3 polling (contextAt "poll") none answering course ∧
        (takeTurn (.standard services) 3 polling (contextAt "poll") none answering).1.1.messages
          = said course.visits ++ [.ofBot course.outside.now apology none] ∧
        said course.visits
          <+: (takeTurn (.standard services) 5 polling (contextAt "poll") none answering).1.1.messages ∧
        (takeTurn (.standard services) 3 polling (contextAt "poll") none answering).2.calls
          <+: (takeTurn (.standard services) 5 polling (contextAt "poll") none answering).2.calls) ∧
    ¬ Exhausts (.standard services) 3 polling (contextAt "bye") none answering ∧
      takeTurn (.standard services) 5 polling (contextAt "bye") none answering
        = takeTurn (.standard services) 3 polling (contextAt "bye") none answering := by
  have polls : Exhausts (.standard services) 3 polling (contextAt "poll") none answering := by
    decide +kernel
  have ends : ¬ Exhausts (.standard services) 3 polling (contextAt "bye") none answering := by
    decide +kernel
  have le : 3 ≤ 5 := by decide
  obtain ⟨course, takes, messages, tells, makes⟩ :=
    (takeTurn_of_le (.standard services) polling (contextAt "poll") none answering le).2 polls
  exact ⟨⟨polls, by decide +kernel, by decide +kernel, course, takes, messages, tells,
      makes (Registry.isBuilt_standard services).keepsCalls⟩,
    ends, (takeTurn_of_le (.standard services) polling (contextAt "bye") none answering le).1 ends⟩

end Sample

end ChatFlow
