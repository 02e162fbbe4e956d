import ChatFlow.Proofs.Turn.Standard

/-!
Who asks, and who is answered.

A turn that waits for a reply stands at a node of its definition, of a kind that may ask, and the last
message of the turn, which is also the last of the history, comes from that node (`Turn.AsksAt`). This
goes through the hops of a turn: messages of earlier nodes come first, and a node that asks ends the
turn where it is.

`Turn.executions` lists what a turn executes, and with which replies; it misses nothing
(`Turn.hops_of_executions`). A reply is only handed to the node at which a turn begins
(`Turn.node_of_executions`).
-/

namespace ChatFlow

open ChatFlow.Flow (Node Definition)

/-- A node that is found has the id that it was looked up by. -/
theorem Flow.Definition.id_of_node? {d : Definition} {id : String} {node : Node}
    (found : d.node? id = some node) : node.id = id := by
  unfold Definition.node? at found
  split at found
  · cases found
  · have same := List.find?_some found
    simpa using same

namespace Turn

variable {registry : Registry} {d : Definition}

/-! ## Asking -/

/-- The conversation stands at a node that may ask, and was last sent a message of that node. -/
structure AsksAt (registry : Registry) (d : Definition) (o : Outcome) (c : Context) : Prop where
  node : ∃ node, d.node? c.currentNodeId = some node ∧ registry.MayAsk node.kind
  message : ∃ m, o.messages.getLast? = some m ∧ c.history.getLast? = some m ∧
    m.IsFrom c.currentNodeId

/-- A turn that waits is settled with the messages of the walk, at the node that asked. -/
theorem settle_asks {node : Node} {w : Walk} {o r : Outcome} {c : Context} {id : String}
    (asked : o.IsAskedBy id) (ended : settle d node w o = .ended r c) (waits : r.waitingForInput = true) :
    o.waitingForInput = true ∧ r.messages = w.messages ∧ c = w.context := by
  unfold settle at ended
  split at ended
  · rename_i asks
    rw [(asked asks).1] at ended
    cases ended
    exact ⟨asks, rfl, rfl⟩
  · dsimp only at ended
    split at ended
    · cases ended
      cases waits
    · split at ended
      · cases ended
      · cases ended
        cases waits

/-- Hearing a reply does not move the conversation. -/
theorem hear_currentNodeId (w : Walk) (now : Moment) (node : Node) (reply : Option String) :
    (hear w now node reply).context.currentNodeId = w.context.currentNodeId := by
  unfold hear
  cases given? reply <;> rfl

/-- What a node says last is said last. -/
theorem getLast?_absorb (w : Walk) (now : Moment) {o : Outcome} {m : Message}
    (last : o.messages.getLast? = some m) :
    (w.absorb now o).messages.getLast? = some m ∧
      (w.absorb now o).context.history.getLast? = some m := by
  constructor
  · rw [Walk.absorb, List.getLast?_append, last]
    rfl
  · rw [Walk.absorb, List.getLast?_append, last]
    rfl

/-- A hop with which a turn comes to wait asks. -/
theorem hop_asks (plain : registry.IsPlain) {reply : Option String} {w : Walk} {outside : Outside}
    {r : Outcome} {c : Context} {left : Outside}
    (ended : hop registry d reply w outside = (.ended r c, left)) (waits : r.waitingForInput = true) :
    AsksAt registry d r c := by
  rw [hop_eq] at ended
  cases found : d.node? w.context.currentNodeId with
  | none =>
    rw [found] at ended
    cases ended
    cases waits
  | some node =>
    have inPlace := (plain.behavior node.kind outside).inPlace
    have kind : (registry.behavior node.kind outside).1 = registry.behaviorOf node.kind :=
      registry.behavior_fst node.kind outside
    have here := hear_currentNodeId w outside.now node reply
    rw [found] at ended
    dsimp only at ended
    generalize registry.behavior node.kind outside = b at inPlace kind ended
    generalize hear w outside.now node reply = heard at here ended
    obtain ⟨behavior, started⟩ := b
    dsimp only at inPlace kind ended
    cases executed : (behavior node heard.context reply).run started with
    | mk result after =>
      rw [executed] at ended
      cases result with
      | error f =>
        cases ended
        cases waits
      | ok o =>
        have asked := inPlace node _ reply _ o _ executed
        obtain ⟨asks, messages, context⟩ := settle_asks asked (congrArg Prod.fst ended) waits
        obtain ⟨-, m, last, sent⟩ := asked asks
        have stands : c.currentNodeId = w.context.currentNodeId := by
          rw [context]
          exact here
        have at_ : node.id = c.currentNodeId := (Definition.id_of_node? found).trans stands.symm
        refine ⟨⟨node, stands.symm ▸ found, fun never => ?_⟩, m, ?_, ?_, at_ ▸ sent⟩
        · rw [← kind] at never
          exact absurd ((never node _ reply _ o _ executed).symm.trans asks) Bool.false_ne_true
        · rw [messages]
          exact (getLast?_absorb heard outside.now last).1
        · rw [context]
          exact (getLast?_absorb heard outside.now last).2

theorem hops_asks (plain : registry.IsPlain) (n : Nat) (reply : Option String) (w : Walk)
    (outside : Outside) (waits : (hops registry d n reply w outside).1.1.waitingForInput = true) :
    AsksAt registry d (hops registry d n reply w outside).1.1
      (hops registry d n reply w outside).1.2 := by
  induction n generalizing reply w outside with
  | zero => cases waits
  | succ n ih =>
    rw [hops_succ] at waits ⊢
    cases first : hop registry d reply w outside with
    | mk r left =>
      rw [first] at waits
      cases r with
      | ended o c => exact hop_asks plain first waits
      | goesOn next => exact ih none next left waits

/-- A turn that waits asks. -/
theorem takeTurn_asks (plain : registry.IsPlain) (maxHops : Nat) (c : Context)
    (reply : Option String) (outside : Outside)
    (waits : (takeTurn registry maxHops d c reply outside).1.1.waitingForInput = true) :
    AsksAt registry d (takeTurn registry maxHops d c reply outside).1.1
      (takeTurn registry maxHops d c reply outside).1.2 :=
  hops_asks plain maxHops reply (.start c) outside waits

/-- The outcome waits only at a node that exists. -/
def WaitsAt (d : Definition) (o : Outcome) (c : Context) : Prop :=
  o.waitingForInput = true → (d.node? c.currentNodeId).isSome = true

/-- A turn that waits leaves a context whose current node exists. -/
theorem takeTurn_waits_at (plain : registry.IsPlain) (maxHops : Nat) (c : Context)
    (reply : Option String) (outside : Outside) :
    WaitsAt d (takeTurn registry maxHops d c reply outside).1.1
      (takeTurn registry maxHops d c reply outside).1.2 := by
  intro waits
  obtain ⟨node, found, -⟩ := (takeTurn_asks plain maxHops c reply outside waits).node
  rw [found]
  rfl

/-! ## Being answered -/

/-- The nodes that a turn executes, each with the reply that it is handed. -/
def executions (registry : Registry) (d : Definition) :
    Nat → Option String → Walk → Outside → List (Node × Option String)
  | 0, _, _, _ => []
  | n + 1, reply, w, outside =>
    match d.node? w.context.currentNodeId with
    | none => []
    | some node =>
      (node, reply) :: match hop registry d reply w outside with
        | (.ended _ _, _) => []
        | (.goesOn next, left) => executions registry d n none next left

/-- Nothing else is executed: behaviors that do the same for the nodes and replies of the list make the
same turn. -/
theorem hops_of_executions {other : Registry} {n : Nat} {reply : Option String} {w : Walk}
    {outside : Outside}
    (known : ∀ kind outside, (other.behavior kind outside).2 = (registry.behavior kind outside).2)
    (same : ∀ p ∈ executions registry d n reply w outside, ∀ c,
      other.behaviorOf p.1.kind p.1 c p.2 = registry.behaviorOf p.1.kind p.1 c p.2) :
    hops other d n reply w outside = hops registry d n reply w outside := by
  induction n generalizing reply w outside with
  | zero => rfl
  | succ n ih =>
    have step : hop other d reply w outside = hop registry d reply w outside := by
      rw [hop_eq, hop_eq]
      cases found : d.node? w.context.currentNodeId with
      | none => rfl
      | some node =>
        have listed : (node, reply) ∈ executions registry d (n + 1) reply w outside := by
          rw [executions, found]
          exact List.mem_cons_self
        have behaves := same _ listed (hear w outside.now node reply).context
        have first := other.behavior_fst node.kind outside
        have first' := registry.behavior_fst node.kind outside
        have second := known node.kind outside
        rw [← first, ← first'] at behaves
        dsimp only
        generalize other.behavior node.kind outside = b at behaves second ⊢
        generalize registry.behavior node.kind outside = b' at behaves second ⊢
        obtain ⟨behavior, started⟩ := b
        obtain ⟨behavior', started'⟩ := b'
        dsimp only at behaves second ⊢
        rw [behaves, second]
    rw [hops_succ, hops_succ, step]
    cases next : hop registry d reply w outside with
    | mk r left =>
      cases r with
      | ended o c => rfl
      | goesOn later =>
        refine ih fun p listed => same p ?_
        rw [executions]
        -- A hop goes on only from a node that exists.
        cases found : d.node? w.context.currentNodeId with
        | none =>
          rw [hop_eq, found] at next
          cases next
        | some node =>
          dsimp only
          rw [next]
          exact List.mem_cons_of_mem _ listed

/-- After its first node a turn hands no reply to any. -/
theorem none_of_executions {n : Nat} {w : Walk} {outside : Outside} {node : Node}
    {handed : Option String} (executed : (node, handed) ∈ executions registry d n none w outside) :
    handed = none := by
  induction n generalizing w outside with
  | zero => cases executed
  | succ n ih =>
    rw [executions] at executed
    split at executed
    · cases executed
    · rcases List.mem_cons.mp executed with same | later
      · exact congrArg Prod.snd same
      · split at later
        · cases later
        · exact ih later

/-- The node that a turn hands a reply is the one at which the turn begins. -/
theorem node_of_executions {n : Nat} {reply : Option String} {w : Walk} {outside : Outside}
    {node : Node} {text : String}
    (executed : (node, some text) ∈ executions registry d n reply w outside) :
    d.node? w.context.currentNodeId = some node ∧ reply = some text := by
  cases n with
  | zero => cases executed
  | succ n =>
    rw [executions] at executed
    split at executed
    · cases executed
    · rename_i first found
      rcases List.mem_cons.mp executed with same | later
      · cases same
        exact ⟨found, rfl⟩
      · split at later
        · cases later
        · cases none_of_executions later

end Turn

end ChatFlow
