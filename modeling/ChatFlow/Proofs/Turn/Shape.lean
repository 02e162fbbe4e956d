import ChatFlow.Interpreter
import ChatFlow.Proofs.Conversation.Record

/-!
What a turn comes to.

Whatever the behaviors of the nodes do, a turn ends in one of three ways: it waits for a reply, it ends
the flow, or it fails with an apology (`Turn.Shape`). The context that it leaves is a later state of
the run it was given: behaviors cannot touch what the run was made with. `hop_eq` says what one hop
does; the facts about whole turns come from it by induction on the bound on hops.
-/

namespace ChatFlow

open ChatFlow.Flow (Node Definition)

namespace Turn

/-! ## One hop -/

/-- What is reported of a node that failed. -/
def reportedError (f : Failure) : String :=
  if f.text.isEmpty then "Node execution failed" else f.text

/-- What one hop comes to, and what it does outside. -/
theorem hop_eq (registry : Registry) (d : Definition) (reply : Option String) (w : Walk)
    (outside : Outside) :
    hop registry d reply w outside = match d.node? w.context.currentNodeId with
      | none =>
        (.ended (w.failure (.ofBot outside.now missingNodeApology none) true
          "Current node not found") w.context, outside.note .error component)
      | some node =>
        match registry.behavior node.kind outside with
        | (behavior, started) =>
          match (behavior node (hear w outside.now node reply).context reply).run started with
          | (.error f, left) =>
            (.ended ((hear w outside.now node reply).failure
                (.ofBot outside.now apology (some node.id)) false (reportedError f))
              (hear w outside.now node reply).context, left.note .error component)
          | (.ok o, left) =>
            (settle d node ((hear w outside.now node reply).absorb outside.now o) o,
              if o.success then left else left.note .warning component) := by
  rw [hop, StateM.bind_apply, StateM.get_apply]
  dsimp only
  cases d.node? w.context.currentNodeId with
  | none => rfl
  | some node =>
    dsimp only
    rw [StateM.bind_apply]
    rcases registry.behavior node.kind outside with ⟨behavior, started⟩
    dsimp only
    rw [StateM.bind_apply]
    rcases (behavior node (hear w outside.now node reply).context reply).run started
      with ⟨f | o, left⟩
    · rfl
    · dsimp only
      cases o.success <;> rfl

/-! ## The ways a turn ends -/

/-- The ways a turn ends. -/
inductive Shape : Outcome → Prop
  | waits (success : Bool) (messages : List Message) :
    Shape { Outcome.plain with success, messages, waitingForInput := true }
  | ends (success : Bool) (messages : List Message) (handoff : Option Handoff) :
    Shape { Outcome.plain with success, messages, completed := true, handoff }
  | fails (messages : List Message) (excuse : Message) (completed : Bool) (error : String)
    (apologizes : excuse.content = apology ∨ excuse.content = missingNodeApology)
    (said : error.isEmpty = false) :
    Shape { Outcome.plain with
      success := false, messages := messages ++ [excuse], completed, error := some error }

/-- What a hop comes to is fit to be the end of a turn, or goes on in the same run. -/
def Hop.Fits (c : Context) : Hop → Prop
  | .ended o later => Shape o ∧ later.Continues c
  | .goesOn w => w.context.Continues c

theorem reportedError_isEmpty (f : Failure) : (reportedError f).isEmpty = false := by
  unfold reportedError
  split
  · decide
  · rename_i given
    simpa using given

theorem hear_continues (w : Walk) (now : Moment) (node : Node) (reply : Option String) :
    (hear w now node reply).context.Continues w.context := by
  unfold hear
  cases given? reply <;> rfl

theorem settle_fits (d : Definition) (node : Node) (w : Walk) (now : Moment) (o : Outcome) :
    (settle d node (w.absorb now o) o).Fits w.context := by
  unfold settle
  split
  · exact ⟨.waits _ _, rfl⟩
  · dsimp only
    split
    · exact ⟨.ends _ _ _, rfl⟩
    · cases nextNode? d node o with
      | none => exact ⟨.ends _ _ _, rfl⟩
      | some id => rfl

theorem Hop.Fits.trans {later c : Context} {r : Hop} (h : r.Fits later) (run : later.Continues c) :
    r.Fits c := by
  cases r with
  | ended o last => exact ⟨h.1, h.2.trans run⟩
  | goesOn w => exact Context.Continues.trans h run

theorem hop_fits (registry : Registry) (d : Definition) (reply : Option String) (w : Walk)
    (outside : Outside) : (hop registry d reply w outside).1.Fits w.context := by
  rw [hop_eq]
  cases d.node? w.context.currentNodeId with
  | none => exact ⟨.fails _ _ _ _ (.inr rfl) (by decide), .refl _⟩
  | some node =>
    have heard := hear_continues w outside.now node reply
    dsimp only
    rcases registry.behavior node.kind outside with ⟨behavior, started⟩
    dsimp only
    rcases (behavior node (hear w outside.now node reply).context reply).run started
      with ⟨f | o, left⟩
    · exact ⟨.fails _ _ _ _ (.inl rfl) (reportedError_isEmpty f), heard⟩
    · exact (settle_fits d node _ outside.now o).trans heard

/-! ## Whole turns -/

theorem hops_succ (registry : Registry) (d : Definition) (n : Nat) (reply : Option String) (w : Walk)
    (outside : Outside) :
    hops registry d (n + 1) reply w outside = match hop registry d reply w outside with
      | (.ended o c, left) => ((o, c), left)
      | (.goesOn w, left) => hops registry d n none w left := by
  rw [hops, StateM.bind_apply]
  rcases hop registry d reply w outside with ⟨_ | _, left⟩ <;> rfl

theorem hops_fits (registry : Registry) (d : Definition) (n : Nat) (reply : Option String) (w : Walk)
    (outside : Outside) :
    Shape (hops registry d n reply w outside).1.1
      ∧ (hops registry d n reply w outside).1.2.Continues w.context := by
  induction n generalizing reply w outside with
  | zero => exact ⟨.fails _ _ _ _ (.inl rfl) (by decide), .refl _⟩
  | succ n ih =>
    have first := hop_fits registry d reply w outside
    rw [hops_succ]
    generalize hop registry d reply w outside = r at first ⊢
    obtain ⟨⟨o, c⟩ | ⟨next⟩, left⟩ := r
    · exact first
    · obtain ⟨shape, run⟩ := ih none next left
      exact ⟨shape, run.trans first⟩

/-- A turn waits, ends the flow or fails. -/
theorem takeTurn_shape (registry : Registry) (maxHops : Nat) (d : Definition) (c : Context)
    (reply : Option String) (outside : Outside) :
    Shape (takeTurn registry maxHops d c reply outside).1.1 :=
  (hops_fits registry d maxHops reply (.start c) outside).1

/-- A turn goes on with the run of its context. -/
theorem takeTurn_continues (registry : Registry) (maxHops : Nat) (d : Definition) (c : Context)
    (reply : Option String) (outside : Outside) :
    (takeTurn registry maxHops d c reply outside).1.2.Continues c :=
  (hops_fits registry d maxHops reply (.start c) outside).2

/-! ## What follows from the shape -/

/-- A turn that neither ended the flow nor failed waits. -/
theorem Shape.waiting_iff {o : Outcome} (h : Shape o) :
    o.waitingForInput = true ↔
      (o.completed || o.isHandoff) = false ∧ (given? o.error).isSome = false := by
  cases h with
  | waits => simp [Outcome.plain, Outcome.isHandoff, given?]
  | ends => simp [Outcome.plain]
  | fails messages excuse completed error apologizes said =>
    simp [Outcome.plain, Outcome.isHandoff, given?, said]

/-- No turn gives the excuse for a conflict. -/
theorem Shape.ne_concurrent {o : Outcome} (h : Shape o) (t : Moment) :
    o ≠ Interpreter.concurrent t := by
  intro same
  cases h with
  | waits => exact Bool.noConfusion (congrArg Outcome.waitingForInput same)
  | ends => exact Bool.noConfusion (congrArg Outcome.completed same)
  | fails messages excuse completed error apologizes said =>
    have messages : messages ++ [excuse] = [] ++ [.ofBot t Interpreter.concurrentMessage none] :=
      congrArg Outcome.messages same
    have last : excuse = .ofBot t Interpreter.concurrentMessage none :=
      List.singleton_inj.mp (List.append_inj' messages rfl).2
    rw [last] at apologizes
    have text : (Message.ofBot t Interpreter.concurrentMessage none).content
        = Interpreter.concurrentMessage := rfl
    rw [text] at apologizes
    revert apologizes
    decide

end Turn

namespace Interpreter

/-- The excuse for a missing flow is none for a conflict. -/
theorem noFlow_ne_concurrent (s t : Moment) : noFlow s ≠ concurrent t := fun same =>
  Bool.noConfusion (congrArg Outcome.completed same)

/-- The excuse for a failure is none for a conflict. -/
theorem broken_ne_concurrent (s t : Moment) (cause : Failure) : broken s cause ≠ concurrent t :=
  fun same => Bool.noConfusion (congrArg Outcome.completed same)

end Interpreter

end ChatFlow
