import ChatFlow.Proofs.Turn.Building

/-!
Turns and the log.

Nothing in a turn reads the log. So from two outsides that differ in their logs only a turn comes to the
same, makes the same calls, and leaves outsides that differ in their logs only (`Turn.ignoresLog_takeTurn`).
Activities that are built of the primitive ones have the property because these have it
(`Outside.IsBuiltOf.ignoresLog`), and so the built-in behaviors do. A registry with further behaviors has
the property if these do (`Registry.IgnoresLog`).
-/

namespace ChatFlow

open ChatFlow.Flow (Node Definition)

namespace Outside

variable {o o' : Outside}

theorem now_of_unlogged (same : o.unlogged = o'.unlogged) : o.now = o'.now :=
  (congrArg Outside.now same : o.unlogged.now = o'.unlogged.now)

theorem calls_of_unlogged (same : o.unlogged = o'.unlogged) : o.calls = o'.calls :=
  (congrArg Outside.calls same : o.unlogged.calls = o'.unlogged.calls)

/-- Making a request takes the same answer whatever the log holds. -/
theorem send_of_unlogged (same : o.unlogged = o'.unlogged) (call : HttpCall) :
    (o.send call).1 = (o'.send call).1 ∧ (o.send call).2.unlogged = (o'.send call).2.unlogged := by
  obtain ⟨now, answers, completions, calls, log⟩ := o
  obtain ⟨now', answers', completions', calls', log'⟩ := o'
  simp only [unlogged, Outside.mk.injEq, and_true] at same
  obtain ⟨rfl, rfl, rfl, rfl⟩ := same
  cases answers <;> exact ⟨rfl, rfl⟩

theorem complete_of_unlogged (same : o.unlogged = o'.unlogged) (call : CompletionCall) :
    (o.complete call).1 = (o'.complete call).1 ∧
      (o.complete call).2.unlogged = (o'.complete call).2.unlogged := by
  obtain ⟨now, answers, completions, calls, log⟩ := o
  obtain ⟨now', answers', completions', calls', log'⟩ := o'
  simp only [unlogged, Outside.mk.injEq, and_true] at same
  obtain ⟨rfl, rfl, rfl, rfl⟩ := same
  cases completions <;> exact ⟨rfl, rfl⟩

/-! ## Activities that cannot fail -/

section Activities

variable {α β : Type}

/-- The activity does the same whatever the log holds. -/
def IgnoresLog (x : StateM Outside α) : Prop :=
  ∀ o o' : Outside, o.unlogged = o'.unlogged →
    (x o).1 = (x o').1 ∧ (x o).2.unlogged = (x o').2.unlogged

theorem ignoresLog_pure (a : α) : IgnoresLog (pure a) := fun _ _ same => ⟨rfl, same⟩

theorem ignoresLog_bind {x : StateM Outside α} {f : α → StateM Outside β} (hx : IgnoresLog x)
    (hf : ∀ a, IgnoresLog (f a)) : IgnoresLog (x >>= f) := by
  intro o o' same
  obtain ⟨result, left⟩ := hx o o' same
  rw [StateM.bind_apply, StateM.bind_apply, result]
  exact hf (x o').1 (x o).2 (x o').2 left

/-- An activity that looks at the outside, but not at the log. -/
theorem ignoresLog_look {f : Outside → StateM Outside β}
    (blind : ∀ o o' : Outside, o.unlogged = o'.unlogged → f o = f o') (hf : ∀ o, IgnoresLog (f o)) :
    IgnoresLog (get >>= f) := by
  intro o o' same
  rw [StateM.bind_apply, StateM.bind_apply, StateM.get_apply, StateM.get_apply]
  dsimp only
  rw [blind o o' same]
  exact hf o' o o' same

theorem ignoresLog_warn (component : String) : IgnoresLog (Service.warn component) :=
  fun _ _ same => ⟨rfl, same⟩

theorem ignoresLog_reportError (component : String) : IgnoresLog (Service.reportError component) :=
  fun _ _ same => ⟨rfl, same⟩

/-- What an activity is built of ignores the log, and so does the activity. -/
theorem IsBuiltOf.ignoresLog {asked : CompletionCall → Prop} {x : StateM Outside α} (h : IsBuiltOf asked x) :
    IgnoresLog x := by
  induction h with
  | pure a => exact ignoresLog_pure a
  | bind hx hf ihx ihf => exact ignoresLog_bind ihx ihf
  | now => exact fun _ _ same => ⟨now_of_unlogged same, same⟩
  | note weight component => exact fun _ _ same => ⟨rfl, same⟩
  | send call => exact fun _ _ same => send_of_unlogged same call
  | complete => exact fun _ _ same => complete_of_unlogged same _

end Activities

end Outside

/-- The activity does the same whatever the log holds. -/
def Service.IgnoresLog {α : Type} (x : Service α) : Prop :=
  Outside.IgnoresLog x.run

/-- The behavior does the same whatever the log holds. -/
def Behavior.IgnoresLog (b : Behavior) : Prop :=
  ∀ (node : Node) (c : Context) (reply : Option String), (b node c reply).IgnoresLog

/-! ## Registries -/

namespace Registry

/-- All behaviors of the registry ignore the log. -/
def IgnoresLog (r : Registry) : Prop :=
  ∀ b ∈ r.fallback :: r.behaviors.map Prod.snd, b.IgnoresLog

theorem ignoresLog_behavior (r : Registry) (kind : String) : Outside.IgnoresLog (r.behavior kind) := by
  unfold behavior
  cases r.behaviors.lookup kind with
  | some b => exact Outside.ignoresLog_pure b
  | none => exact Outside.ignoresLog_bind (Outside.ignoresLog_warn _) fun _ => Outside.ignoresLog_pure _

theorem IgnoresLog.behavior {r : Registry} (ignores : r.IgnoresLog) (kind : String) (o : Outside) :
    (r.behavior kind o).1.IgnoresLog :=
  behavior_of_forall ignores kind o

/-- Behaviors that are built of the primitive activities ignore the log. -/
theorem IsBuilt.ignoresLog {r : Registry} (built : r.IsBuilt) : r.IgnoresLog :=
  fun b here node c reply => (built b here node c reply).ignoresLog

theorem ignoresLog_standard (s : Services) : (standard s).IgnoresLog :=
  (isBuilt_standard s).ignoresLog

end Registry

/-! ## Turns -/

namespace Turn

open Outside

variable {registry : Registry}

theorem ignoresLog_hop (ignores : registry.IgnoresLog) (d : Definition) (reply : Option String)
    (w : Walk) : IgnoresLog (hop registry d reply w) := by
  intro o o' same
  rw [hop_eq, hop_eq, now_of_unlogged same]
  cases d.node? w.context.currentNodeId with
  | none => exact ⟨rfl, same⟩
  | some node =>
    obtain ⟨chosen, started⟩ := registry.ignoresLog_behavior node.kind o o' same
    have deaf := ignores.behavior node.kind o'
    dsimp only
    generalize registry.behavior node.kind o = b at chosen started ⊢
    generalize registry.behavior node.kind o' = b' at chosen started deaf ⊢
    obtain ⟨behavior, s⟩ := b
    obtain ⟨behavior', s'⟩ := b'
    dsimp only at chosen started deaf ⊢
    subst chosen
    obtain ⟨result, left⟩ := deaf node (hear w o'.now node reply).context reply s s' started
    generalize (behavior node (hear w o'.now node reply).context reply).run s = r at result left ⊢
    generalize (behavior node (hear w o'.now node reply).context reply).run s' = r' at result left ⊢
    obtain ⟨e, p⟩ := r
    obtain ⟨e', p'⟩ := r'
    dsimp only at result left ⊢
    subst result
    cases e with
    | error f => exact ⟨rfl, left⟩
    | ok out =>
      refine ⟨rfl, ?_⟩
      dsimp only
      cases out.success <;> exact left

theorem ignoresLog_hops (ignores : registry.IgnoresLog) (d : Definition) (n : Nat)
    (reply : Option String) (w : Walk) : IgnoresLog (hops registry d n reply w) := by
  induction n generalizing reply w with
  | zero =>
    refine ignoresLog_bind (ignoresLog_reportError _) fun _ =>
      ignoresLog_look (fun o o' same => ?_) fun _ => ignoresLog_pure _
    rw [now_of_unlogged same]
  | succ n ih =>
    exact ignoresLog_bind (ignoresLog_hop ignores d reply w) fun
      | .ended _ _ => ignoresLog_pure _
      | .goesOn next => ih none next

/-- A turn does the same whatever the log holds. -/
theorem ignoresLog_takeTurn (ignores : registry.IgnoresLog) (maxHops : Nat) (d : Definition)
    (c : Context) (reply : Option String) : IgnoresLog (takeTurn registry maxHops d c reply) :=
  ignoresLog_hops ignores d maxHops reply (.start c)

end Turn

end ChatFlow
