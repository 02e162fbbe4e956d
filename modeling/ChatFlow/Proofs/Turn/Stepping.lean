import Mathlib.Logic.Relation
import ChatFlow.Proofs.Turn.Telling

/-!
Turns, step by step.

The loop of a turn keeps four things at once: the context, the messages for the reply, whether all went
well, and where to go on. Here a turn is described without them, by the nodes that it visits
(`Turn.Visit`). A `Turn.Stage` is what is left of a turn between two visits: which they were, which node
comes next, and the outside. `Turn.Steps` leads from one stage to the next, `Turn.Halts` says how a turn
ends, in six ways, and a `Turn.Course` is a turn from its beginning to its end (`Turn.Takes`). Everything
else is read off the visits: the variables and the history of the context (`Turn.after`), the messages and
the flags of the outcome (`Turn.Course.outcome`).

Every turn has exactly one course, and comes to what the course says (`Turn.takeTurn_takes`). Existence is
by induction on the visits that are still allowed, uniqueness because no stage has two successors
(`Turn.steps_rightUnique`), and the loop follows a course since each of its rounds follows one step
(`Turn.hop_of_steps`).
-/

namespace ChatFlow

open ChatFlow.Flow (Node Edge Definition)
open Relation (ReflTransGen)

namespace Turn

/-! ## Visits -/

/-- A node that was executed, when, and what came of it. -/
structure Visit where
  node : Node
  time : Moment
  result : Except Failure Outcome

namespace Visit

/-- What the node said; a node that failed said nothing. -/
def messages (v : Visit) : List Message :=
  match v.result with
  | .ok o => o.messages
  | .error _ => []

/-- The variables that the node set. -/
def vars (v : Visit) : Entries :=
  match v.result with
  | .ok o => o.vars.getD []
  | .error _ => []

/-- The node did not fail and reports a success. -/
def succeeds (v : Visit) : Bool :=
  match v.result with
  | .ok o => o.success
  | .error _ => false

/-- The time of the last activity, given the one before the visit. -/
def stamp (v : Visit) (before : Moment) : Moment :=
  match v.result with
  | .ok _ => v.time
  | .error _ => before

end Visit

/-- What the nodes said, one after another. -/
def said (visits : List Visit) : List Message :=
  visits.flatMap Visit.messages

/-- The variables overwritten by those of the nodes, one after another. -/
def assigned (vars : Entries) (visits : List Visit) : Entries :=
  visits.foldl (fun vars v => Entries.update vars v.vars) vars

/-- The time of the last activity after the visits. -/
def stamped (before : Moment) (visits : List Visit) : Moment :=
  visits.foldl (fun before v => v.stamp before) before

/-- The nodes with the replies that they are handed: the first gets the reply, the others none. -/
def handedTo (reply : Option String) : List Visit → List (Node × Option String)
  | [] => []
  | v :: rest => (v.node, reply) :: rest.map fun v => (v.node, none)

/-- The context after the visits, when the walk is to go on at the node of the id. What was heard stands in
the history before what was said. -/
def after (c : Context) (heard : List Message) (visits : List Visit) (id : String) : Context :=
  { c with
    vars := assigned c.vars visits
    history := c.history ++ heard ++ said visits
    currentNodeId := id
    lastActivityAt := stamped c.lastActivityAt visits }

theorem said_concat (visits : List Visit) (v : Visit) : said (visits ++ [v]) = said visits ++ v.messages := by
  simp [said]

theorem assigned_append (vars : Entries) (visits more : List Visit) :
    assigned vars (visits ++ more) = assigned (assigned vars visits) more :=
  List.foldl_append

theorem assigned_concat (vars : Entries) (visits : List Visit) (v : Visit) :
    assigned vars (visits ++ [v]) = Entries.update (assigned vars visits) v.vars :=
  assigned_append vars visits [v]

theorem stamped_concat (before : Moment) (visits : List Visit) (v : Visit) :
    stamped before (visits ++ [v]) = v.stamp (stamped before visits) := by
  simp [stamped]

theorem handedTo_concat (reply : Option String) (visits : List Visit) (v : Visit) :
    handedTo reply (visits ++ [v])
      = handedTo reply visits ++ [(v.node, if visits.isEmpty then reply else none)] := by
  cases visits <;> simp [handedTo]

theorem after_nil (c : Context) (heard : List Message) (id : String) :
    after c heard [] id = { c with history := c.history ++ heard, currentNodeId := id } := by
  simp [after, said, assigned, stamped]

/-- Executes a node. A failure, or a report of no success, is noted in the log. -/
def visit (registry : Registry) (node : Node) (c : Context) (reply : Option String) (here : Outside) :
    Visit × Outside :=
  match (registry.behaviorOf node.kind node c reply).run (registry.behavior node.kind here).2 with
  | (.error f, left) => (⟨node, here.now, .error f⟩, left.note .error component)
  | (.ok o, left) => (⟨node, here.now, .ok o⟩, if o.success then left else left.note .warning component)

/-- What a visit holds is the result of the behavior of its node. -/
theorem visit_fst (registry : Registry) (node : Node) (c : Context) (reply : Option String) (here : Outside) :
    (visit registry node c reply here).1 = ⟨node, here.now,
      ((registry.behaviorOf node.kind node c reply).run (registry.behavior node.kind here).2).1⟩ := by
  unfold visit
  split <;> rename_i executed <;> rw [executed]

theorem node_of_visit {registry : Registry} {node : Node} {c : Context} {reply : Option String}
    {here left : Outside} {v : Visit} (visited : visit registry node c reply here = (v, left)) :
    v.node = node := by
  have made := congrArg Prod.fst visited
  rw [visit_fst] at made
  cases made
  rfl

/-! ## Successors -/

/-- The node that comes next after an outcome: the one that the outcome names, else the target of the first
edge of the named branch, else the target of the first edge. Empty names count for nothing. -/
inductive Chooses (d : Definition) (node : Node) (o : Outcome) : String → Prop
  | named {id : String} (names : given? o.nextNodeId = some id) : Chooses d node o id
  | byBranch {branch : String} {e : Edge} (unnamed : given? o.nextNodeId = none)
    (leaves : given? o.sourceHandle = some branch)
    (first : d.version.edges.find? (fun e => e.source == node.id && e.sourceHandle == some branch) = some e)
    (target_ne : e.target ≠ "") : Chooses d node o e.target
  | byFirst {e : Edge} (unnamed : given? o.nextNodeId = none)
    (noBranch : ∀ branch, given? o.sourceHandle = some branch →
      ∀ e ∈ d.version.edges, e.source = node.id → e.sourceHandle ≠ some branch)
    (first : d.version.edges.find? (·.source == node.id) = some e)
    (target_ne : e.target ≠ "") : Chooses d node o e.target

theorem given?_some_eq_some_iff {s text : String} : given? (some s) = some text ↔ s = text ∧ s ≠ "" := by
  by_cases empty : s = "" <;> simp [given?, empty]

/-- The edge by which a node is left, with one search for each of the two cases. -/
theorem edge?_eq (d : Definition) (id : String) (handle : Option String) :
    d.edge? id handle =
      ((given? handle).bind fun branch =>
        d.version.edges.find? fun e => e.source == id && e.sourceHandle == some branch).or
      (d.version.edges.find? (·.source == id)) := by
  unfold Definition.edge? Definition.outgoing given?
  dsimp only
  rw [List.head?_filter]
  cases handle with
  | none => rfl
  | some branch =>
    dsimp only
    cases branch.isEmpty with
    | true => rfl
    | false =>
      rw [List.find?_filter]
      simp only [Bool.false_eq_true, if_false, Option.bind_some, Bool.decide_and, Bool.decide_eq_true]

theorem chooses_iff {d : Definition} {node : Node} {o : Outcome} {id : String} :
    Chooses d node o id ↔ nextNode? d node o = some id := by
  unfold nextNode?
  constructor
  · intro chosen
    cases chosen with
    | named names => rw [names]
    | byBranch unnamed leaves first target_ne =>
      rw [unnamed, edge?_eq, leaves, Option.bind_some, first]
      exact given?_some_eq_some_iff.mpr ⟨rfl, target_ne⟩
    | byFirst unnamed noBranch first target_ne =>
      have none : ((given? o.sourceHandle).bind fun branch => d.version.edges.find? fun e =>
          e.source == node.id && e.sourceHandle == some branch) = none := by
        rw [Option.bind_eq_none_iff]
        intro branch leaves
        rw [List.find?_eq_none]
        intro e listed both
        rw [Bool.and_eq_true, beq_iff_eq, beq_iff_eq] at both
        exact noBranch branch leaves e listed both.1 both.2
      rw [unnamed, edge?_eq, none, first]
      exact given?_some_eq_some_iff.mpr ⟨rfl, target_ne⟩
  · intro next
    cases names : given? o.nextNodeId with
    | some named =>
      rw [names] at next
      exact Option.some.inj next ▸ .named names
    | none =>
      rw [names, edge?_eq] at next
      cases branched : (given? o.sourceHandle).bind fun branch => d.version.edges.find? fun e =>
          e.source == node.id && e.sourceHandle == some branch with
      | some e =>
        rw [branched] at next
        obtain ⟨rfl, target_ne⟩ := given?_some_eq_some_iff.mp next
        obtain ⟨branch, leaves, first⟩ := Option.bind_eq_some_iff.mp branched
        exact .byBranch names leaves first target_ne
      | none =>
        rw [branched, Option.none_or] at next
        cases first : d.version.edges.find? (·.source == node.id) with
        | none =>
          rw [first] at next
          cases next
        | some e =>
          rw [first] at next
          obtain ⟨rfl, target_ne⟩ := given?_some_eq_some_iff.mp next
          refine .byFirst names (fun branch leaves e listed source same => ?_) first target_ne
          have none := List.find?_eq_none.mp (Option.bind_eq_none_iff.mp branched branch leaves) e listed
          exact none (by rw [source, same, beq_self_eq_true, beq_self_eq_true]; rfl)

theorem Chooses.unique {d : Definition} {node : Node} {o : Outcome} {id id' : String}
    (h : Chooses d node o id) (h' : Chooses d node o id') : id = id' :=
  Option.some.inj ((chooses_iff.mp h).symm.trans (chooses_iff.mp h'))

/-! ## Stages and courses -/

/-- A turn between two visits: those that were made, the id of the node that comes next, and the outside. -/
structure Stage where
  visits : List Visit
  place : String
  outside : Outside

/-- The reply that the next node is handed: the user's at first, and then none. -/
def Stage.handed (s : Stage) (reply : Option String) : Option String :=
  if s.visits.isEmpty then reply else none

/-- The ways in which a turn ends. -/
inductive Ending where
  /-- The node visited last wants a reply. -/
  | waits
  /-- The node visited last ends the flow, or nothing comes after it. -/
  | completes (handoff : Option Handoff)
  /-- The node that comes next does not exist. -/
  | misses (time : Moment)
  /-- The node visited last failed. -/
  | fails (time : Moment) (nodeId : String) (cause : Failure)
  /-- No more visits are allowed. -/
  | exhausts (time : Moment)

namespace Ending

/-- What is said when a turn breaks off. -/
def apology? : Ending → Option Message
  | waits => none
  | completes _ => none
  | misses t => some (.ofBot t missingNodeApology none)
  | fails t id _ => some (.ofBot t apology (some id))
  | exhausts t => some (.ofBot t apology none)

/-- What is reported when a turn breaks off. -/
def error? : Ending → Option String
  | waits => none
  | completes _ => none
  | misses _ => some "Current node not found"
  | fails _ _ f => some (reportedError f)
  | exhausts _ => some "Maximum hop count exceeded"

/-- A reply is wanted. -/
def wantsReply : Ending → Bool
  | waits => true
  | _ => false

/-- The flow is over. -/
def endsFlow : Ending → Bool
  | completes _ | misses _ => true
  | _ => false

/-- The conversation is handed over. -/
def handoff? : Ending → Option Handoff
  | completes handoff => handoff
  | _ => none

end Ending

/-- The turn goes on after the visit, at the node of the id. -/
def Visit.LeadsTo (d : Definition) (v : Visit) (next : String) : Prop :=
  ∃ o, v.result = .ok o ∧ o.waitingForInput = false ∧ o.completed = false ∧ Chooses d v.node o next

/-- The turn ends with the visit, which was made at `place`: where it leaves the conversation, and how it
ends. -/
inductive Visit.Closes (d : Definition) (v : Visit) (place : String) : String → Ending → Prop
  | fails {f : Failure} (gives : v.result = .error f) : Closes d v place place (.fails v.time v.node.id f)
  | waits {o : Outcome} (gives : v.result = .ok o) (waits : o.waitingForInput = true) :
    Closes d v place ((given? o.nextNodeId).getD place) .waits
  | completes {o : Outcome} (gives : v.result = .ok o) (waits : o.waitingForInput = false)
    (ends : o.completed = true ∨ ∀ next, ¬ Chooses d v.node o next) :
    Closes d v place place (.completes o.handoff)

/-- A whole turn: the visits, the id of the node at which it ends, how it ends, and what it leaves outside. -/
structure Course where
  visits : List Visit
  place : String
  ending : Ending
  outside : Outside

namespace Course

/-- The outcome of the turn. -/
def outcome (course : Course) : Outcome where
  success := course.visits.all Visit.succeeds && course.ending.apology?.isNone
  messages := said course.visits ++ course.ending.apology?.toList
  vars := none
  nextNodeId := none
  sourceHandle := none
  waitingForInput := course.ending.wantsReply
  completed := course.ending.endsFlow
  handoff := course.ending.handoff?
  error := course.ending.error?

/-- The context that the turn leaves. The reply is heard with the first visit. -/
def context (course : Course) (c : Context) (now : Moment) (reply : Option String) : Context :=
  after c (if course.visits.isEmpty then [] else heard c now reply) course.visits course.place

end Course

section Semantics

variable (registry : Registry) (maxHops : Nat) (d : Definition) (c : Context) (reply : Option String)
  (start : Outside)

/-- The stage at which a turn begins. -/
def beginning : Stage := ⟨[], c.currentNodeId, start⟩

/-- The node that comes next exists, and its execution makes a visit. The node is handed the context with
everything that was set, heard and said, and the reply if it is the first. -/
def Visits (s : Stage) (v : Visit) (left : Outside) : Prop :=
  ∃ node, d.node? s.place = some node ∧
    visit registry node (after c (heard c start.now reply) s.visits s.place) (s.handed reply) s.outside
      = (v, left)

/-- A turn goes on by one visit. -/
inductive Steps : Stage → Stage → Prop
  | goesOn {s : Stage} {v : Visit} {left : Outside} {next : String} (room : s.visits.length < maxHops)
    (visits : Visits registry d c reply start s v left) (leads : v.LeadsTo d next) :
    Steps s ⟨s.visits ++ [v], next, left⟩

/-- A turn ends, with a last visit or without. -/
inductive Halts : Stage → Course → Prop
  | exhausts {s : Stage} (full : s.visits.length = maxHops) :
    Halts s ⟨s.visits, s.place, .exhausts s.outside.now, s.outside.note .error component⟩
  | misses {s : Stage} (room : s.visits.length < maxHops) (missing : d.node? s.place = none) :
    Halts s ⟨s.visits, s.place, .misses s.outside.now, s.outside.note .error component⟩
  | closes {s : Stage} {v : Visit} {left : Outside} {place : String} {ending : Ending}
    (room : s.visits.length < maxHops) (visits : Visits registry d c reply start s v left)
    (closes : v.Closes d s.place place ending) :
    Halts s ⟨s.visits ++ [v], place, ending, left⟩

/-- A turn comes to the stage. -/
def ComesTo (s : Stage) : Prop :=
  ReflTransGen (Steps registry maxHops d c reply start) (beginning c start) s

/-- A turn takes the course. -/
def Takes (course : Course) : Prop :=
  ∃ s, ComesTo registry maxHops d c reply start s ∧ Halts registry maxHops d c reply start s course

end Semantics

variable {registry : Registry} {maxHops : Nat} {d : Definition} {c : Context} {reply : Option String}
  {start : Outside} {s t u : Stage} {v : Visit} {left : Outside} {course : Course}

/-! ## There is one course -/

theorem Visits.unique {v' : Visit} {left' : Outside} (h : Visits registry d c reply start s v left)
    (h' : Visits registry d c reply start s v' left') : v = v' ∧ left = left' := by
  obtain ⟨node, found, visited⟩ := h
  obtain ⟨node', found', visited'⟩ := h'
  cases Option.some.inj (found.symm.trans found')
  exact Prod.mk.inj (visited.symm.trans visited')

theorem Visit.LeadsTo.unique {next next' : String} (h : v.LeadsTo d next) (h' : v.LeadsTo d next') :
    next = next' := by
  obtain ⟨o, gives, -, -, chooses⟩ := h
  obtain ⟨o', gives', -, -, chooses'⟩ := h'
  cases Except.ok.inj (gives.symm.trans gives')
  exact chooses.unique chooses'

theorem Visit.Closes.unique {from_ place place' : String} {ending ending' : Ending}
    (h : v.Closes d from_ place ending) (h' : v.Closes d from_ place' ending') :
    place = place' ∧ ending = ending' := by
  cases h with
  | fails gives =>
    cases h' with
    | fails gives' =>
      cases Except.error.inj (gives.symm.trans gives')
      exact ⟨rfl, rfl⟩
    | waits gives' => cases gives.symm.trans gives'
    | completes gives' => cases gives.symm.trans gives'
  | waits gives waits =>
    cases h' with
    | fails gives' => cases gives.symm.trans gives'
    | waits gives' =>
      cases Except.ok.inj (gives.symm.trans gives')
      exact ⟨rfl, rfl⟩
    | completes gives' waits' =>
      cases Except.ok.inj (gives.symm.trans gives')
      cases waits.symm.trans waits'
  | completes gives waits =>
    cases h' with
    | fails gives' => cases gives.symm.trans gives'
    | waits gives' waits' =>
      cases Except.ok.inj (gives.symm.trans gives')
      cases waits.symm.trans waits'
    | completes gives' =>
      cases Except.ok.inj (gives.symm.trans gives')
      exact ⟨rfl, rfl⟩

/-- A visit that ends the turn leads nowhere. -/
theorem Visit.Closes.not_leadsTo {from_ place next : String} {ending : Ending}
    (h : v.Closes d from_ place ending) : ¬ v.LeadsTo d next := by
  rintro ⟨o, gives, waits, completes, chooses⟩
  cases h with
  | fails gives' => cases gives.symm.trans gives'
  | waits gives' waits' =>
    cases Except.ok.inj (gives.symm.trans gives')
    cases waits.symm.trans waits'
  | completes gives' _ ends =>
    cases Except.ok.inj (gives.symm.trans gives')
    rcases ends with ends | none
    · cases completes.symm.trans ends
    · exact none next chooses

/-- A visit ends the turn or leads somewhere. -/
theorem Visit.leadsTo_or_closes (d : Definition) (v : Visit) (from_ : String) :
    (∃ next, v.LeadsTo d next) ∨ ∃ place ending, v.Closes d from_ place ending := by
  cases gives : v.result with
  | error f => exact .inr ⟨_, _, .fails gives⟩
  | ok o =>
    cases waits : o.waitingForInput with
    | true => exact .inr ⟨_, _, .waits gives waits⟩
    | false =>
      cases completes : o.completed with
      | true => exact .inr ⟨_, _, .completes gives waits (.inl completes)⟩
      | false =>
        by_cases leads : ∃ next, Chooses d v.node o next
        · obtain ⟨next, chooses⟩ := leads
          exact .inl ⟨next, o, gives, waits, completes, chooses⟩
        · exact .inr ⟨_, _, .completes gives waits (.inr (not_exists.mp leads))⟩

/-- No stage has two successors. -/
theorem steps_rightUnique : Relator.RightUnique (Steps registry maxHops d c reply start) := by
  rintro s t u ⟨room, visits, leads⟩ ⟨room', visits', leads'⟩
  obtain ⟨rfl, rfl⟩ := visits.unique visits'
  cases leads.unique leads'
  rfl

theorem Visits.found (h : Visits registry d c reply start s v left) : d.node? s.place = some v.node := by
  obtain ⟨node, found, visited⟩ := h
  rw [node_of_visit visited]
  exact found

/-- A turn that ends does not go on. -/
theorem Halts.not_steps (halts : Halts registry maxHops d c reply start s course) :
    ¬ Steps registry maxHops d c reply start s t := by
  rintro ⟨room, visits, leads⟩
  cases halts with
  | exhausts full => exact absurd full (Nat.ne_of_lt room)
  | misses room' missing => cases missing.symm.trans visits.found
  | closes room' visits' closes =>
    obtain ⟨rfl, rfl⟩ := visits.unique visits'
    exact closes.not_leadsTo leads

/-- A turn ends in one way. -/
theorem Halts.unique {other : Course} (h : Halts registry maxHops d c reply start s course)
    (h' : Halts registry maxHops d c reply start s other) : course = other := by
  cases h with
  | exhausts full =>
    cases h' with
    | exhausts => rfl
    | misses room => exact absurd full (Nat.ne_of_lt room)
    | closes room => exact absurd full (Nat.ne_of_lt room)
  | misses room missing =>
    cases h' with
    | exhausts full => exact absurd full (Nat.ne_of_lt room)
    | misses => rfl
    | closes _ visits => cases missing.symm.trans visits.found
  | closes room visits closes =>
    cases h' with
    | exhausts full => exact absurd full (Nat.ne_of_lt room)
    | misses _ missing => cases missing.symm.trans visits.found
    | closes _ visits' closes' =>
      obtain ⟨rfl, rfl⟩ := visits.unique visits'
      obtain ⟨rfl, rfl⟩ := closes.unique closes'
      rfl

/-- A stage with which the turn ends is the last. -/
theorem Halts.eq_of_steps (halts : Halts registry maxHops d c reply start s course)
    (steps : ReflTransGen (Steps registry maxHops d c reply start) s t) : s = t := by
  cases steps.cases_head with
  | inl same => exact same
  | inr later =>
    obtain ⟨next, step, -⟩ := later
    exact absurd step halts.not_steps

/-- A turn takes one course only. -/
theorem Takes.unique {other : Course} (h : Takes registry maxHops d c reply start course)
    (h' : Takes registry maxHops d c reply start other) : course = other := by
  obtain ⟨s, comes, halts⟩ := h
  obtain ⟨t, comes', halts'⟩ := h'
  have same : s = t := by
    rcases ReflTransGen.total_of_right_unique steps_rightUnique comes comes' with later | later
    · exact halts.eq_of_steps later
    · exact (halts'.eq_of_steps later).symm
  subst same
  exact halts.unique halts'

/-! ## There is a course -/

/-- A turn makes no more visits than are allowed. -/
theorem Steps.length_le (step : Steps registry maxHops d c reply start s t) :
    t.visits.length ≤ maxHops := by
  obtain ⟨room, -, -⟩ := step
  rw [List.length_append]
  exact room

/-- As long as visits are allowed, a turn goes on or ends. -/
theorem steps_or_halts (registry : Registry) (d : Definition) (c : Context) (reply : Option String)
    (start : Outside) (within : s.visits.length ≤ maxHops) :
    (∃ t, Steps registry maxHops d c reply start s t ∧ t.visits.length = s.visits.length + 1) ∨
      ∃ course, Halts registry maxHops d c reply start s course := by
  rcases Nat.lt_or_eq_of_le within with room | full
  · cases found : d.node? s.place with
    | none => exact .inr ⟨_, .misses room found⟩
    | some node =>
      have visits : Visits registry d c reply start s _ _ := ⟨node, found, rfl⟩
      rcases Visit.leadsTo_or_closes d _ s.place with ⟨next, leads⟩ | ⟨place, ending, closes⟩
      · exact .inl ⟨_, .goesOn room visits leads, by simp⟩
      · exact .inr ⟨_, .closes room visits closes⟩
  · exact .inr ⟨_, .exhausts full⟩

/-- From every stage a turn comes to an end. -/
theorem exists_halts (registry : Registry) (d : Definition) (c : Context) (reply : Option String)
    (start : Outside) (within : s.visits.length ≤ maxHops) :
    ∃ t course, ReflTransGen (Steps registry maxHops d c reply start) s t ∧
      Halts registry maxHops d c reply start t course := by
  -- By induction on the visits that are still allowed.
  induction left : maxHops - s.visits.length generalizing s with
  | zero =>
    rcases steps_or_halts registry d c reply start within with ⟨t, step, longer⟩ | ⟨course, halts⟩
    · have := step.length_le
      omega
    · exact ⟨s, course, .refl, halts⟩
  | succ n ih =>
    rcases steps_or_halts registry d c reply start within with ⟨t, step, longer⟩ | ⟨course, halts⟩
    · obtain ⟨u, course, steps, halts⟩ := ih step.length_le (by omega)
      exact ⟨u, course, .head step steps, halts⟩
    · exact ⟨s, course, .refl, halts⟩

theorem exists_takes (registry : Registry) (maxHops : Nat) (d : Definition) (c : Context)
    (reply : Option String) (start : Outside) :
    ∃ course, Takes registry maxHops d c reply start course := by
  obtain ⟨t, course, steps, halts⟩ :=
    exists_halts registry d c reply start (s := beginning c start) (Nat.zero_le maxHops)
  exact ⟨course, t, steps, halts⟩

/-! ## The loop follows the course -/

/-- A turn that has made no visit is at its beginning. -/
theorem ComesTo.eq_beginning (comes : ComesTo registry maxHops d c reply start s) (none : s.visits = []) :
    s = beginning c start := by
  cases comes.cases_tail with
  | inl same => exact same
  | inr last =>
    obtain ⟨t, -, step⟩ := last
    obtain ⟨room, visits, leads⟩ := step
    cases List.append_ne_nil_of_right_ne_nil t.visits (List.cons_ne_nil _ _) none

/-- The walk of the loop at a stage. -/
def Stage.walk (s : Stage) (c : Context) (now : Moment) (reply : Option String) : Walk where
  context := after c (if s.visits.isEmpty then [] else heard c now reply) s.visits s.place
  messages := said s.visits
  success := s.visits.all Visit.succeeds

/-- The walk of the loop with the reply in the history. -/
def Stage.hears (s : Stage) (c : Context) (now : Moment) (reply : Option String) : Walk where
  context := after c (heard c now reply) s.visits s.place
  messages := said s.visits
  success := s.visits.all Visit.succeeds

theorem walk_beginning (c : Context) (start : Outside) (reply : Option String) :
    (beginning c start).walk c start.now reply = .start c := by
  simp [Stage.walk, beginning, Walk.start, after_nil, said]

/-- The reply goes into the history before the first visit, and nothing before the others. -/
theorem hear_walk (comes : ComesTo registry maxHops d c reply start s) {node : Node}
    (found : d.node? s.place = some node) :
    hear (s.walk c start.now reply) s.outside.now node (s.handed reply) = s.hears c start.now reply := by
  cases visited : s.visits with
  | nil =>
    have first := comes.eq_beginning visited
    subst first
    have here : node.id = c.currentNodeId := Definition.id_of_node? found
    have handed : (beginning c start).handed reply = reply := rfl
    rw [walk_beginning, handed]
    unfold hear Stage.hears beginning heard
    rw [here, after_nil]
    cases given? reply <;> simp [Walk.start, Context.say, said]
  | cons v rest => simp [hear, given?, Stage.walk, Stage.hears, Stage.handed, visited]

/-- After a visit the reply is in the history in any case. -/
theorem walk_concat (visits : List Visit) (v : Visit) (place : String) (left : Outside) (c : Context)
    (now : Moment) (reply : Option String) :
    (⟨visits ++ [v], place, left⟩ : Stage).walk c now reply
      = (⟨visits ++ [v], place, left⟩ : Stage).hears c now reply := by
  simp [Stage.walk, Stage.hears]

/-- What a node gives is absorbed as its visit is added. -/
theorem absorb_hears (s : Stage) (c : Context) (now : Moment) (reply : Option String) {v : Visit}
    {o : Outcome} (gives : v.result = .ok o) (left : Outside) :
    (s.hears c now reply).absorb v.time o
      = (⟨s.visits ++ [v], s.place, left⟩ : Stage).hears c now reply := by
  have messages : v.messages = o.messages := by rw [Visit.messages, gives]
  have vars : v.vars = o.vars.getD [] := by rw [Visit.vars, gives]
  have succeeds : v.succeeds = o.success := by rw [Visit.succeeds, gives]
  have stamp (t : Moment) : v.stamp t = v.time := by rw [Visit.stamp, gives]
  simp only [Stage.hears, Walk.absorb, after, said_concat, assigned_concat, stamped_concat, messages,
    vars, stamp, List.all_append, List.all_cons, List.all_nil, succeeds, Bool.and_true, List.append_assoc]

/-- The visit of a node that fails brings nothing. -/
theorem hears_of_failed (s : Stage) (c : Context) (now : Moment) (reply : Option String) {v : Visit}
    {f : Failure} (gives : v.result = .error f) :
    said (s.visits ++ [v]) = (s.hears c now reply).messages ∧
      after c (heard c now reply) (s.visits ++ [v]) s.place = (s.hears c now reply).context := by
  have messages : v.messages = [] := by rw [Visit.messages, gives]
  have vars : v.vars = [] := by rw [Visit.vars, gives]
  have stamp (t : Moment) : v.stamp t = t := by rw [Visit.stamp, gives]
  constructor
  · rw [said_concat, messages, List.append_nil]
    rfl
  · rw [after, said_concat, assigned_concat, stamped_concat, messages, vars, stamp, List.append_nil]
    rfl

/-- A round of the loop executes the node that comes next. -/
theorem hop_of_visits (comes : ComesTo registry maxHops d c reply start s)
    (visits : Visits registry d c reply start s v left) :
    hop registry d (s.handed reply) (s.walk c start.now reply) s.outside = match v.result with
      | .error f =>
        (.ended ((s.hears c start.now reply).failure (.ofBot v.time apology (some v.node.id)) false
          (reportedError f)) (s.hears c start.now reply).context, left)
      | .ok o => (settle d v.node ((s.hears c start.now reply).absorb v.time o) o, left) := by
  obtain ⟨node, found, visited⟩ := visits
  have here : (s.walk c start.now reply).context.currentNodeId = s.place := rfl
  have known := registry.behavior_fst node.kind s.outside
  rw [hop_eq, here, found]
  dsimp only
  rw [hear_walk comes found]
  unfold visit at visited
  rw [← known] at visited
  generalize registry.behavior node.kind s.outside = b at visited ⊢
  obtain ⟨behavior, started⟩ := b
  have handed : (s.hears c start.now reply).context = after c (heard c start.now reply) s.visits s.place := rfl
  dsimp only at visited ⊢
  rw [handed]
  cases executed : (behavior node (after c (heard c start.now reply) s.visits s.place)
      (s.handed reply)).run started with
  | mk result after =>
    rw [executed] at visited
    cases result <;> cases visited <;> rfl

/-- A round of the loop makes the step that the turn makes. -/
theorem hop_of_steps (comes : ComesTo registry maxHops d c reply start s)
    (step : Steps registry maxHops d c reply start s t) :
    hop registry d (s.handed reply) (s.walk c start.now reply) s.outside
      = (.goesOn (t.walk c start.now reply), t.outside) := by
  obtain ⟨-, visits, o, gives, waits, completes, chooses⟩ := step
  rename_i v left next
  rw [hop_of_visits comes visits, gives, walk_concat]
  dsimp only
  rw [absorb_hears s c start.now reply gives left, settle, waits, completes, chooses_iff.mp chooses]
  rfl

/-- The outcome of a turn that breaks off is a failure of its walk. -/
theorem outcome_of_apology (w : Walk) (visits : List Visit) (place : String) (ending : Ending)
    (left : Outside) {excuse : Message} {error : String} (messages : said visits = w.messages)
    (apologizes : ending.apology? = some excuse) (errs : ending.error? = some error) :
    (⟨visits, place, ending, left⟩ : Course).outcome = w.failure excuse ending.endsFlow error := by
  cases ending with
  | waits => cases apologizes
  | completes => cases apologizes
  | misses | fails | exhausts =>
    simp [Course.outcome, Walk.failure, Outcome.plain, messages, apologizes, errs, Ending.wantsReply,
      Ending.handoff?]

/-- The outcome of a turn that does not break off has the success and the messages of its walk. -/
theorem outcome_of_settled (visits : List Visit) (place : String) (ending : Ending) (left : Outside)
    (settled : ending.apology? = none) :
    (⟨visits, place, ending, left⟩ : Course).outcome = { Outcome.plain with
      success := visits.all Visit.succeeds
      messages := said visits
      waitingForInput := ending.wantsReply
      completed := ending.endsFlow
      handoff := ending.handoff? } := by
  have errs : ending.error? = none := by
    cases ending with
    | waits => rfl
    | completes => rfl
    | misses | fails | exhausts => cases settled
  simp [Course.outcome, Outcome.plain, settled, errs]

/-- A round of the loop ends the turn with the visit that closes it. -/
theorem hop_of_closes (comes : ComesTo registry maxHops d c reply start s)
    (visits : Visits registry d c reply start s v left) {place : String} {ending : Ending}
    (closes : v.Closes d s.place place ending) :
    hop registry d (s.handed reply) (s.walk c start.now reply) s.outside =
      (.ended (⟨s.visits ++ [v], place, ending, left⟩ : Course).outcome
        (after c (heard c start.now reply) (s.visits ++ [v]) place), left) := by
  rw [hop_of_visits comes visits]
  cases closes with
  | fails gives =>
    obtain ⟨messages, context⟩ := hears_of_failed s c start.now reply gives
    rw [gives, context, outcome_of_apology _ _ _ _ _ messages rfl rfl]
    rfl
  | waits gives waits =>
    rw [gives, outcome_of_settled _ _ _ _ rfl]
    dsimp only
    rw [absorb_hears s c start.now reply gives left, settle, waits]
    rfl
  | @completes o gives waits ends =>
    rw [gives, outcome_of_settled _ _ _ _ rfl]
    dsimp only
    rw [absorb_hears s c start.now reply gives left, settle, waits]
    cases completed : o.completed with
    | true => rfl
    | false =>
      have none : nextNode? d v.node o = none := by
        rcases ends with completes | none
        · cases completed.symm.trans completes
        · exact Option.eq_none_iff_forall_ne_some.mpr fun next leads => none next (chooses_iff.mpr leads)
      rw [none]
      rfl

/-- With a step one round less is left, and no reply is handed on. -/
theorem Steps.rounds (step : Steps registry maxHops d c reply start s t) :
    maxHops - s.visits.length = maxHops - t.visits.length + 1 ∧ t.handed reply = none := by
  obtain ⟨room, -, -⟩ := step
  constructor
  · rw [List.length_append, List.length_singleton]
    omega
  · simp [Stage.handed]

/-- What the loop comes to from a stage on. -/
def Stage.rest (s : Stage) (registry : Registry) (maxHops : Nat) (d : Definition) (c : Context)
    (reply : Option String) (now : Moment) : (Outcome × Context) × Outside :=
  hops registry d (maxHops - s.visits.length) (s.handed reply) (s.walk c now reply) s.outside

/-- What the loop has executed up to a stage, and executes from there on. -/
def Stage.executed (s : Stage) (registry : Registry) (maxHops : Nat) (d : Definition) (c : Context)
    (reply : Option String) (now : Moment) : List (Node × Option String) :=
  handedTo reply s.visits
    ++ executions registry d (maxHops - s.visits.length) (s.handed reply) (s.walk c now reply) s.outside

/-- While visits are allowed, the loop has a round left. -/
theorem exists_round (room : s.visits.length < maxHops) : ∃ n, maxHops - s.visits.length = n + 1 :=
  Nat.exists_eq_add_one_of_ne_zero (Nat.sub_ne_zero_of_lt room)

theorem walk_currentNodeId (s : Stage) (c : Context) (now : Moment) (reply : Option String) :
    (s.walk c now reply).context.currentNodeId = s.place := rfl

theorem rest_of_steps (comes : ComesTo registry maxHops d c reply start s)
    (step : Steps registry maxHops d c reply start s t) :
    s.rest registry maxHops d c reply start.now = t.rest registry maxHops d c reply start.now := by
  obtain ⟨rounds, handed⟩ := step.rounds
  rw [Stage.rest, Stage.rest, rounds, hops_succ, hop_of_steps comes step, handed]

theorem executed_of_steps (comes : ComesTo registry maxHops d c reply start s)
    (step : Steps registry maxHops d c reply start s t) :
    s.executed registry maxHops d c reply start.now = t.executed registry maxHops d c reply start.now := by
  obtain ⟨rounds, handed⟩ := step.rounds
  have round := hop_of_steps comes step
  rw [Stage.executed, Stage.executed, rounds, executions, walk_currentNodeId, round, handed]
  obtain ⟨-, visits, -⟩ := step
  rw [visits.found, handedTo_concat, List.append_assoc]
  rfl

/-- The loop ends as the turn does. -/
theorem rest_of_halts (comes : ComesTo registry maxHops d c reply start s)
    (halts : Halts registry maxHops d c reply start s course) :
    s.rest registry maxHops d c reply start.now
      = ((course.outcome, course.context c start.now reply), course.outside) := by
  cases halts with
  | exhausts full =>
    rw [Stage.rest, full, Nat.sub_self, outcome_of_apology (s.walk c start.now reply) _ _ _ _ rfl rfl rfl]
    rfl
  | misses room missing =>
    obtain ⟨n, rounds⟩ := exists_round room
    rw [Stage.rest, rounds, hops_succ, hop_eq, walk_currentNodeId, missing,
      outcome_of_apology (s.walk c start.now reply) _ _ _ _ rfl rfl rfl]
    rfl
  | closes room visits closes =>
    obtain ⟨n, rounds⟩ := exists_round room
    rw [Stage.rest, rounds, hops_succ, hop_of_closes comes visits closes]
    simp [Course.context]

theorem executed_of_halts (comes : ComesTo registry maxHops d c reply start s)
    (halts : Halts registry maxHops d c reply start s course) :
    s.executed registry maxHops d c reply start.now = handedTo reply course.visits := by
  cases halts with
  | exhausts full =>
    rw [Stage.executed, full, Nat.sub_self, executions, List.append_nil]
  | misses room missing =>
    obtain ⟨n, rounds⟩ := exists_round room
    rw [Stage.executed, rounds, executions, walk_currentNodeId, missing, List.append_nil]
  | closes room visits closes =>
    obtain ⟨n, rounds⟩ := exists_round room
    rw [Stage.executed, rounds, executions, walk_currentNodeId, visits.found,
      hop_of_closes comes visits closes, handedTo_concat]
    rfl

/-- A turn is what the loop comes to from any stage of it. -/
theorem takeTurn_of_comesTo (comes : ComesTo registry maxHops d c reply start s) :
    takeTurn registry maxHops d c reply start = s.rest registry maxHops d c reply start.now ∧
      executions registry d maxHops reply (.start c) start
        = s.executed registry maxHops d c reply start.now := by
  induction comes with
  | refl =>
    rw [Stage.rest, Stage.executed, walk_beginning]
    exact ⟨rfl, rfl⟩
  | tail before step ih => rwa [rest_of_steps before step, executed_of_steps before step] at ih

/-- A turn comes to what its course says, and executes the nodes of the course. -/
theorem takeTurn_of_takes (takes : Takes registry maxHops d c reply start course) :
    takeTurn registry maxHops d c reply start
        = ((course.outcome, course.context c start.now reply), course.outside) ∧
      executions registry d maxHops reply (.start c) start = handedTo reply course.visits := by
  obtain ⟨s, comes, halts⟩ := takes
  rw [← rest_of_halts comes halts, ← executed_of_halts comes halts]
  exact takeTurn_of_comesTo comes

/-- A turn makes no more visits than are allowed, up to any stage of it. -/
theorem ComesTo.length_le (comes : ComesTo registry maxHops d c reply start s) :
    s.visits.length ≤ maxHops := by
  cases comes.cases_tail with
  | inl first =>
    rw [first]
    exact Nat.zero_le _
  | inr last =>
    obtain ⟨t, -, step⟩ := last
    exact step.length_le

/-- A turn makes no more visits than are allowed. -/
theorem Takes.length_le (takes : Takes registry maxHops d c reply start course) :
    course.visits.length ≤ maxHops := by
  obtain ⟨s, comes, halts⟩ := takes
  cases halts with
  | exhausts | misses => exact comes.length_le
  | closes room =>
    rw [List.length_append]
    exact room

/-- Every turn takes exactly one course, makes no more visits than are allowed, executes the visited nodes in
order with the reply for the first only, and comes to the outcome, the context and the outside of its
course. -/
theorem takeTurn_takes (registry : Registry) (maxHops : Nat) (d : Definition) (c : Context)
    (reply : Option String) (start : Outside) :
    ∃ course, Takes registry maxHops d c reply start course ∧
      (∀ other, Takes registry maxHops d c reply start other → other = course) ∧
      course.visits.length ≤ maxHops ∧
      executions registry d maxHops reply (.start c) start = handedTo reply course.visits ∧
      takeTurn registry maxHops d c reply start
        = ((course.outcome, course.context c start.now reply), course.outside) := by
  obtain ⟨course, takes⟩ := exists_takes registry maxHops d c reply start
  obtain ⟨turn, executed⟩ := takeTurn_of_takes takes
  exact ⟨course, takes, fun other takes' => takes'.unique takes, takes.length_le, executed, turn⟩

end Turn

end ChatFlow
