import ChatFlow.Proofs.Turn.Asking

/-!
What a turn tells.

A turn keeps its messages twice: for the reply, and in the history of its context. Between the two lists
stands only what the user said, which goes into the history before the first node is executed
(`Turn.heard`). Each hop adds the messages of its node to both (`Turn.hop_tells`), so a turn that does not
fail leaves the history as it was, followed by what was heard and by exactly the messages of its outcome
(`Turn.takeTurn_tells`). The apology of a turn that fails is in the reply only.
-/

namespace ChatFlow

open ChatFlow.Flow (Node Definition)

namespace Turn

variable {registry : Registry} {d : Definition}

/-- What the history of a context gets from a reply: its text, for the node at which the context stands,
and nothing if there is no text. -/
def heard (c : Context) (now : Moment) (reply : Option String) : List Message :=
  (given? reply).toList.map fun text => .ofUser now text (some c.currentNodeId)

theorem heard_none (c : Context) (now : Moment) : heard c now none = [] := rfl

/-- On the way from the walk, the same messages were added to the reply and, after what was heard, to the
history. -/
def Tells (w : Walk) (heard messages : List Message) (c : Context) : Prop :=
  ∃ said, messages = w.messages ++ said ∧ c.history = w.context.history ++ heard ++ said

/-- What a hop comes to tells what was said, unless it fails. -/
def Hop.Tells (w : Walk) (heard : List Message) : Hop → Prop
  | .ended o c => o.error = none → Turn.Tells w heard o.messages c
  | .goesOn next => Turn.Tells w heard next.messages next.context

theorem Tells.trans {w next : Walk} {heard messages : List Message} {c : Context}
    (first : Tells w heard next.messages next.context) (rest : Tells next [] messages c) :
    Tells w heard messages c := by
  obtain ⟨said, told, kept⟩ := first
  obtain ⟨said', told', kept'⟩ := rest
  refine ⟨said ++ said', ?_, ?_⟩
  · rw [told', told, List.append_assoc]
  · rw [kept', kept, List.append_nil, List.append_assoc _ said]

theorem hear_tells (w : Walk) (now : Moment) {node : Node} (here : node.id = w.context.currentNodeId)
    (reply : Option String) :
    (hear w now node reply).messages = w.messages ∧
      (hear w now node reply).context.history = w.context.history ++ heard w.context now reply := by
  unfold hear heard
  rw [here]
  cases given? reply with
  | none => exact ⟨rfl, (List.append_nil _).symm⟩
  | some text => exact ⟨rfl, rfl⟩

/-- How a turn goes on after a node changes nothing that was said. -/
theorem settle_tells (d : Definition) (node : Node) (o : Outcome) {w absorbed : Walk}
    {heard : List Message} (told : Turn.Tells w heard absorbed.messages absorbed.context) :
    (settle d node absorbed o).Tells w heard := by
  unfold settle
  split
  · exact fun _ => told
  · dsimp only
    split
    · exact fun _ => told
    · cases nextNode? d node o with
      | none => exact fun _ => told
      | some id => exact told

/-- One hop adds the same messages to the reply and to the history. -/
theorem hop_tells (registry : Registry) (d : Definition) (reply : Option String) (w : Walk)
    (outside : Outside) :
    (hop registry d reply w outside).1.Tells w (heard w.context outside.now reply) := by
  rw [hop_eq]
  cases found : d.node? w.context.currentNodeId with
  | none => exact fun whole => nomatch whole
  | some node =>
    obtain ⟨messages, history⟩ := hear_tells w outside.now (Definition.id_of_node? found) reply
    dsimp only
    rcases registry.behavior node.kind outside with ⟨behavior, started⟩
    dsimp only
    rcases (behavior node (hear w outside.now node reply).context reply).run started
      with ⟨f | o, left⟩
    · exact fun whole => nomatch whole
    · refine settle_tells d node o ⟨o.messages, ?_, ?_⟩
      · rw [Walk.absorb, messages]
      · rw [Walk.absorb, history]

theorem hops_tells (registry : Registry) (d : Definition) (n : Nat) (reply : Option String) (w : Walk)
    (outside : Outside) (whole : (hops registry d n reply w outside).1.1.error = none) :
    Tells w (heard w.context outside.now reply) (hops registry d n reply w outside).1.1.messages
      (hops registry d n reply w outside).1.2 := by
  induction n generalizing reply w outside with
  | zero => cases whole
  | succ n ih =>
    have first := hop_tells registry d reply w outside
    rw [hops_succ] at whole ⊢
    generalize hop registry d reply w outside = r at first whole ⊢
    obtain ⟨⟨o, c⟩ | ⟨next⟩, left⟩ := r
    · exact first whole
    · have rest := ih none next left whole
      rw [heard_none] at rest
      exact Tells.trans first rest

/-- A turn that does not fail leaves the history with what was heard and with the messages of its
outcome. -/
theorem takeTurn_tells (registry : Registry) (maxHops : Nat) (d : Definition) (c : Context)
    (reply : Option String) (outside : Outside)
    (whole : (takeTurn registry maxHops d c reply outside).1.1.error = none) :
    (takeTurn registry maxHops d c reply outside).1.2.history
      = c.history ++ heard c outside.now reply
          ++ (takeTurn registry maxHops d c reply outside).1.1.messages := by
  obtain ⟨said, told, kept⟩ := hops_tells registry d maxHops reply (.start c) outside whole
  have same : (takeTurn registry maxHops d c reply outside).1.1.messages = said := told
  rw [same]
  exact kept

/-- A turn that waits did not fail. -/
theorem Shape.error_of_waits {o : Outcome} (shape : Shape o) (waits : o.waitingForInput = true) :
    o.error = none := by
  cases shape with
  | waits success messages => rfl
  | ends success messages handoff => cases waits
  | fails messages excuse completed error apologizes said => cases waits

end Turn

end ChatFlow
