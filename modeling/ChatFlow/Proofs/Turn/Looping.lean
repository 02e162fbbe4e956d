import Mathlib.Data.List.Chain
import Mathlib.Data.List.Dedup
import Mathlib.Data.List.Duplicate
import Mathlib.Data.List.Perm.Subperm
import ChatFlow.Proofs.Turn.Bounding

/-!
Only flows that loop reach the bound.

A turn walks along the flow: each visit leads to the next by an edge or because the node names it
(`Turn.Leads`). If the bound exceeds the number of distinct ids, a turn that makes as many visits as it may
has visited some node twice, since every visited node belongs to the flow. The way from the first of these
visits to the second is a cycle, so that turns on flows without cycles never end by the bound
(`Turn.duplicate_of_exhausts`).
-/

namespace ChatFlow

open ChatFlow.Flow (Node Edge Definition)
open Relation (ReflTransGen TransGen)

theorem Flow.Definition.mem_of_node? {d : Definition} {id : String} {node : Node}
    (found : d.node? id = some node) : node ∈ d.version.nodes := by
  unfold Definition.node? at found
  split at found
  · cases found
  · exact List.mem_of_find?_eq_some found

namespace Turn

/-- A turn may go on from the first node to the second: by an edge, or since the first, in some situation,
names the second and does not end the turn. -/
inductive Leads (registry : Registry) (d : Definition) : String → String → Prop
  | byEdge {e : Edge} (listed : e ∈ d.version.edges) : Leads registry d e.source e.target
  | byName {node : Node} {c : Context} {reply : Option String} {here left : Outside} {o : Outcome}
    {id : String} (listed : node ∈ d.version.nodes)
    (gives : (registry.behaviorOf node.kind node c reply).run here = (.ok o, left))
    (waits : o.waitingForInput = false) (completes : o.completed = false)
    (names : given? o.nextNodeId = some id) : Leads registry d node.id id

variable {registry : Registry} {maxHops : Nat} {d : Definition} {c : Context} {reply : Option String}
  {start : Outside} {s t : Stage} {v : Visit} {left : Outside}

/-- What a visit gave is what the behavior of its node gives somewhere. -/
theorem Visits.gives {o : Outcome} (visits : Visits registry d c reply start s v left)
    (gives : v.result = .ok o) :
    ∃ c' reply' here left', (registry.behaviorOf v.node.kind v.node c' reply').run here = (.ok o, left') := by
  obtain ⟨node, -, visited⟩ := visits
  have made := congrArg Prod.fst visited
  rw [visit_fst] at made
  cases made
  exact ⟨_, _, _, _, Prod.ext gives rfl⟩

/-- A step of a turn goes along the flow. -/
theorem Steps.leads (step : Steps registry maxHops d c reply start s t) :
    Leads registry d s.place t.place := by
  obtain ⟨-, visits, o, gives, waits, completes, chooses⟩ := step
  rename_i v left next
  have here : v.node.id = s.place := Definition.id_of_node? visits.found
  rw [← here]
  cases chooses with
  | named names =>
    obtain ⟨c', reply', outside, left', gave⟩ := visits.gives gives
    exact .byName (Definition.mem_of_node? visits.found) gave waits completes names
  | byBranch _ _ first =>
    have leaves := List.find?_some first
    rw [Bool.and_eq_true, beq_iff_eq] at leaves
    rw [← leaves.1]
    exact .byEdge (List.mem_of_find?_eq_some first)
  | byFirst _ _ first =>
    have leaves := List.find?_some first
    rw [beq_iff_eq] at leaves
    rw [← leaves]
    exact .byEdge (List.mem_of_find?_eq_some first)

/-! ## The way of a turn -/

/-- The ids of the visited nodes. -/
def Stage.ids (s : Stage) : List String :=
  s.visits.map (·.node.id)

/-- What a visit adds to the nodes of a turn. -/
theorem Steps.ids (step : Steps registry maxHops d c reply start s t) : t.ids = s.ids ++ [s.place] := by
  obtain ⟨-, visits, -⟩ := step
  rw [Stage.ids, List.map_append, ← Definition.id_of_node? visits.found]
  rfl

/-- Every visited node is the one that the flow has under its id. -/
theorem ComesTo.found (comes : ComesTo registry maxHops d c reply start s) :
    ∀ v ∈ s.visits, d.node? v.node.id = some v.node := by
  induction comes with
  | refl => exact fun v none => absurd none List.not_mem_nil
  | tail _ step ih =>
    obtain ⟨-, visits, -⟩ := step
    intro v visited
    rcases List.mem_append.mp visited with earlier | last
    · exact ih v earlier
    · rw [List.mem_singleton.mp last, Definition.id_of_node? visits.found]
      exact visits.found

/-- The visited nodes and the one that comes next are a way along the flow. -/
theorem ComesTo.isChain (comes : ComesTo registry maxHops d c reply start s) :
    List.IsChain (Leads registry d) (s.ids ++ [s.place]) := by
  induction comes with
  | refl => exact .singleton _
  | tail _ step ih =>
    rw [step.ids, List.append_assoc]
    exact List.isChain_append_cons_cons.mpr ⟨ih, step.leads, .singleton _⟩

/-- Where nothing leads back, no node is visited twice. -/
theorem ComesTo.nodup_ids (comes : ComesTo registry maxHops d c reply start s)
    (acyclic : ∀ id, ¬ TransGen (Leads registry d) id id) : s.ids.Nodup := by
  have chain : List.IsChain (TransGen (Leads registry d)) (s.ids ++ [s.place]) :=
    comes.isChain.imp fun _ _ => TransGen.single
  have ordered : (s.ids ++ [s.place]).Pairwise (TransGen (Leads registry d)) :=
    List.isChain_iff_pairwise.mp chain
  refine (List.pairwise_append.mp ordered).1.imp ?_
  rintro id _ leads rfl
  exact acyclic id leads

/-- If no node is visited twice, there are no more visits than distinct ids. -/
theorem ComesTo.length_le_of_nodup (comes : ComesTo registry maxHops d c reply start s)
    (once : (s.visits.map Visit.node).Nodup) :
    s.visits.length ≤ (d.version.nodes.map (·.id)).dedup.length := by
  have ids : s.ids = (s.visits.map Visit.node).map (·.id) := by
    rw [List.map_map]
    rfl
  have distinct : s.ids.Nodup := by
    rw [ids]
    refine once.map_on ?_
    intro node mem node' mem' same
    obtain ⟨v, visited, rfl⟩ := List.mem_map.mp mem
    obtain ⟨v', visited', rfl⟩ := List.mem_map.mp mem'
    have found := comes.found v visited
    rw [same, comes.found v' visited'] at found
    exact (Option.some.inj found).symm
  have known : s.ids ⊆ (d.version.nodes.map (·.id)).dedup := by
    intro id mem
    obtain ⟨v, visited, rfl⟩ := List.mem_map.mp mem
    rw [List.mem_dedup]
    exact List.mem_map_of_mem (Definition.mem_of_node? (comes.found v visited))
  have shorter := (distinct.subperm known).length_le
  rwa [Stage.ids, List.length_map] at shorter

/-! ## Reaching the bound -/

theorem map_fst_handedTo (reply : Option String) (visits : List Visit) :
    (handedTo reply visits).map Prod.fst = visits.map Visit.node := by
  cases visits with
  | nil => rfl
  | cons v rest => simp [handedTo]

/-- A turn that ends by the bound, in a flow with fewer distinct ids, executes a node twice. If the nodes of
the flow lead along no cycle, such a turn does not exist. -/
theorem duplicate_of_exhausts (registry : Registry) (maxHops : Nat) (d : Definition) (c : Context)
    (reply : Option String) (start : Outside)
    (few : (d.version.nodes.map (·.id)).dedup.length < maxHops) :
    (Exhausts registry maxHops d c reply start → ∃ node,
      List.Duplicate node ((executions registry d maxHops reply (.start c) start).map Prod.fst)) ∧
    ((∀ id, ¬ TransGen (Leads registry d) id id) → ¬ Exhausts registry maxHops d c reply start) := by
  have twice (s : Stage) (comes : ComesTo registry maxHops d c reply start s)
      (full : s.visits.length = maxHops) : ¬ (s.visits.map Visit.node).Nodup := by
    intro once
    have := comes.length_le_of_nodup once
    omega
  constructor
  · intro exhausts
    obtain ⟨s, comes, full⟩ := exhausts_iff.mp exhausts
    have takes : Takes registry maxHops d c reply start _ := ⟨s, comes, .exhausts full⟩
    rw [(takeTurn_of_takes takes).2, map_fst_handedTo]
    exact List.exists_duplicate_iff_not_nodup.mpr (twice s comes full)
  · intro acyclic exhausts
    obtain ⟨s, comes, full⟩ := exhausts_iff.mp exhausts
    refine twice s comes full (.of_map (·.id) ?_)
    rw [List.map_map]
    exact comes.nodup_ids acyclic

end Turn

/-! ## A flow that loops and one that does not -/

namespace Sample

open Turn

/-- Two nodes that do nothing, one after the other. -/
def straight : Definition :=
  { definition with version := { version with
    nodes := [⟨"first", "start", [], []⟩, ⟨"last", "start", [], []⟩]
    edges := [⟨"e1", "first", "last", none, none, []⟩] } }

theorem leads_straight {id id' : String} (leads : Leads (.standard services) straight id id') :
    id = "first" ∧ id' = "last" := by
  cases leads with
  | byEdge listed =>
    cases List.mem_singleton.mp listed
    exact ⟨rfl, rfl⟩
  | @byName node c reply here left o _ listed gives _ _ names =>
    have starts : node.kind = "start" := by
      rcases List.mem_pair.mp listed with rfl | rfl <;> rfl
    rw [starts] at gives
    cases gives
    cases names

theorem not_transGen_straight (id : String) : ¬ TransGen (Leads (.standard services) straight) id id := by
  have across {a b : String} (leads : TransGen (Leads (.standard services) straight) a b) :
      a = "first" ∧ b = "last" := by
    induction leads with
    | single leads => exact leads_straight leads
    | tail _ last ih => exact ⟨ih.1, (leads_straight last).2⟩
  intro back
  have both := across back
  exact absurd (both.1.symm.trans both.2) (by decide)

/-- Five visits of the flow that polls, which has three nodes, come to a node again; a flow without cycles
is left before the bound. -/
theorem duplicate_of_exhausts_polling :
    ((polling.version.nodes.map (·.id)).dedup.length < 5 ∧
      Exhausts (.standard services) 5 polling (contextAt "poll") none answering ∧
      ∃ node, List.Duplicate node ((executions (.standard services) polling 5 none
        (.start (contextAt "poll")) answering).map Prod.fst)) ∧
    (straight.version.nodes.map (·.id)).dedup.length < 3 ∧
      (∀ id, ¬ TransGen (Leads (.standard services) straight) id id) ∧
      ¬ Exhausts (.standard services) 3 straight (contextAt "first") none answering := by
  have few : (polling.version.nodes.map (·.id)).dedup.length < 5 := by decide +kernel
  have exhausts : Exhausts (.standard services) 5 polling (contextAt "poll") none answering := by
    decide +kernel
  have few' : (straight.version.nodes.map (·.id)).dedup.length < 3 := by decide +kernel
  exact ⟨⟨few, exhausts,
      (duplicate_of_exhausts (.standard services) 5 polling (contextAt "poll") none answering few).1
        exhausts⟩,
    few', not_transGen_straight,
    (duplicate_of_exhausts (.standard services) 3 straight (contextAt "first") none answering few').2
      not_transGen_straight⟩

end Sample

end ChatFlow
