import ChatFlow.Proofs.Turn.Building

/-!
Turns and the history.

Of what a context remembers of a conversation, its history, its number of writes and the time of its last
activity, no node makes anything but a request for a completion, and what comes back for a request does not
depend on it. So from two contexts that stand alike (`Context.standing`), and from two outsides with the same
clock and the same answers to come (`Outside.ahead`), a turn comes to the same outcome and leaves contexts that
stand alike again (`Turn.takeTurn_alike`). The registry of the built-in behaviors has this property because each
of these does (`Registry.forgets_standard`).
-/

namespace ChatFlow

open ChatFlow.Flow (Node Definition)

/-! ## What is compared -/

/-- Where the context stands: all of it but what it remembers of the conversation. -/
def Context.standing (c : Context) : Context :=
  { c with history := [], sequence := 0, lastActivityAt := c.startedAt }

@[simp] theorem Context.standing_kept (c : Context) (n : Int) (t : Moment) :
    (c.kept n t).standing = c.standing := rfl

@[simp] theorem Context.standing_say (c : Context) (messages : List Message) :
    (c.say messages).standing = c.standing := rfl

/-- A context that stands like another one has its own memories only. -/
theorem Context.eq_of_standing {c c' : Context} (alike : c.standing = c'.standing) :
    c' = { c with
      history := c'.history
      sequence := c'.sequence
      lastActivityAt := c'.lastActivityAt } := by
  obtain ⟨_, _, _, _, _, _, _, _, _, _, _, _⟩ := c
  obtain ⟨_, _, _, _, _, _, _, _, _, _, _, _⟩ := c'
  simp only [standing, Context.mk.injEq] at alike ⊢
  simp only [alike, and_true]

namespace Outside

/-- What lies ahead: the clock and the answers to come, without the journal. -/
def ahead (o : Outside) : Outside := { o with calls := [], log := [] }

@[simp] theorem ahead_note (o : Outside) (weight : Weight) (component : String) :
    (o.note weight component).ahead = o.ahead := rfl

theorem now_of_ahead {o o' : Outside} (same : o.ahead = o'.ahead) : o.now = o'.now :=
  (congrArg Outside.now same : o.ahead.now = o'.ahead.now)

variable {α β : Type} {x y : StateM Outside α}

/-- Where the same lies ahead of them, the two activities come to the same and leave the same ahead. -/
def Alike (x y : StateM Outside α) : Prop :=
  ∀ o o' : Outside, o.ahead = o'.ahead → (x o).1 = (y o').1 ∧ (x o).2.ahead = (y o').2.ahead

theorem Alike.bind {f g : α → StateM Outside β} (first : Alike x y) (rest : ∀ a, Alike (f a) (g a)) :
    Alike (x >>= f) (y >>= g) := by
  intro o o' same
  obtain ⟨result, left⟩ := first o o' same
  rw [StateM.bind_apply, StateM.bind_apply, result]
  exact rest (y o').1 (x o).2 (y o').2 left

theorem alike_complete (call call' : CompletionCall) :
    Alike (modifyGet (·.complete call)) (modifyGet (·.complete call')) := by
  intro o o' same
  obtain ⟨now, answers, completions, calls, log⟩ := o
  obtain ⟨now', answers', completions', calls', log'⟩ := o'
  simp only [ahead, Outside.mk.injEq, and_true] at same
  obtain ⟨rfl, rfl, rfl⟩ := same
  cases completions <;> exact ⟨rfl, rfl⟩

/-- What is built of the primitive activities looks at nothing but what lies ahead. -/
theorem IsBuiltOf.alike {x : StateM Outside α} (h : IsBuiltOf (fun _ => True) x) : Alike x x := by
  induction h with
  | pure a => exact fun _ _ same => ⟨rfl, same⟩
  | bind hx hf ihx ihf => exact ihx.bind ihf
  | now => exact fun _ _ same => ⟨now_of_ahead same, same⟩
  | note weight component => exact fun _ _ same => ⟨rfl, same⟩
  | send call =>
    intro o o' same
    obtain ⟨now, answers, completions, calls, log⟩ := o
    obtain ⟨now', answers', completions', calls', log'⟩ := o'
    simp only [ahead, Outside.mk.injEq, and_true] at same
    obtain ⟨rfl, rfl, rfl⟩ := same
    cases answers <;> exact ⟨rfl, rfl⟩
  | complete => exact alike_complete _ _

end Outside

namespace Service

variable {α β : Type} {x y : Service α}

/-- Where the same lies ahead of them, the two activities come to the same and leave the same ahead. -/
def Alike (x y : Service α) : Prop :=
  Outside.Alike x.run y.run

theorem IsBuiltOf.alike (h : x.IsBuiltOf fun _ => True) : x.Alike x := Outside.IsBuiltOf.alike h

theorem Alike.bind {f g : α → Service β} (first : x.Alike y) (rest : ∀ a, (f a).Alike (g a)) :
    (x >>= f).Alike (y >>= g) :=
  Outside.Alike.bind (f := ExceptT.bindCont f) (g := ExceptT.bindCont g) first fun
    | .ok a => rest a
    | .error _ => (Outside.IsBuiltOf.pure _).alike

theorem Alike.lift {x y : StateM Outside α} (h : Outside.Alike x y) :
    (liftM x : Service α).Alike (liftM y) :=
  Outside.Alike.bind h fun _ => (Outside.IsBuiltOf.pure _).alike

theorem Alike.attempt (h : x.Alike y) : (Service.attempt x).Alike (Service.attempt y) :=
  Alike.lift h

/-- Two requests for a completion take the same answer, whatever they ask. -/
theorem alike_complete (call call' : CompletionCall) : (complete call).Alike (complete call') :=
  (Alike.lift (Outside.alike_complete call call')).bind fun
    | .choices _ => (isBuilt_pure _).alike
    | .failure cause => (isBuilt_throw cause).alike

end Service

/-! ## Behaviors -/

namespace Behavior

/-- The behavior makes nothing of what a context remembers, as far as its outcomes go. -/
def Forgets (b : Behavior) : Prop :=
  ∀ (node : Node) (c c' : Context) (reply : Option String), c.standing = c'.standing →
    (b node c reply).Alike (b node c' reply)

/-- A behavior that reads nothing of what a context remembers. -/
theorem forgets_of_isBuilt {b : Behavior} (built : b.IsBuilt)
    (blind : ∀ (node : Node) (c : Context) (reply : Option String) (history : List Message) (n : Int)
      (t : Moment), b node { c with history := history, sequence := n, lastActivityAt := t } reply
        = b node c reply) :
    b.Forgets := by
  intro node c c' reply alike
  rw [Context.eq_of_standing alike, blind node c reply c'.history c'.sequence c'.lastActivityAt]
  exact (built node c reply).alike

/-- Prompts without or with a history are answered alike. -/
theorem alike_generate (generator : TextGenerator) (p p' : Prompt) :
    (generator.generate p).Alike (generator.generate p') := by
  unfold TextGenerator.generate
  split
  · exact (Service.isBuilt_throw _).alike.bind fun _ => (Service.alike_complete _ _).bind fun
      | _ :: _ => (Service.isBuilt_pure _).alike
      | [] => (Service.isBuilt_pure _).alike
  · exact (Service.alike_complete _ _).bind fun
      | _ :: _ => (Service.isBuilt_pure _).alike
      | [] => (Service.isBuilt_pure _).alike

theorem forgets_answer (generator : TextGenerator) : (answer generator).Forgets := by
  intro node c c' reply alike
  have scope : c'.scope = c.scope := by
    rw [Context.eq_of_standing alike]
    rfl
  unfold answer
  refine (Service.isBuilt_ofExcept _).alike.bind fun settings => ?_
  dsimp only
  rw [scope]
  split
  · exact (Service.isBuilt_bind (Service.isBuilt_ofExcept _) fun prompt =>
      Service.isBuilt_bind Service.isBuilt_now fun now => Service.isBuilt_pure _).alike
  · refine (alike_generate generator _ _).attempt.bind fun text => ?_
    cases text with
    | ok text =>
      exact (Service.isBuilt_bind Service.isBuilt_now fun now => Service.isBuilt_pure _).alike
    | error f =>
      exact (Service.isBuilt_bind (Service.isBuilt_lift (Outside.IsBuiltOf.reportError _)) fun _ =>
        Service.isBuilt_bind Service.isBuilt_now fun now => Service.isBuilt_pure _).alike

end Behavior

/-! ## Registries -/

namespace Registry

/-- All behaviors of the registry forget. -/
def Forgets (r : Registry) : Prop :=
  ∀ b ∈ r.fallback :: r.behaviors.map Prod.snd, b.Forgets

theorem isBuilt_behavior (r : Registry) (kind : String) : Outside.IsBuilt (r.behavior kind) := by
  unfold behavior
  cases r.behaviors.lookup kind with
  | some b => exact .pure b
  | none => exact .bind (.warn _) fun _ => .pure _

theorem forgets_standard (s : Services) : (standard s).Forgets := by
  have plain (b : Behavior) (built : b.IsBuilt) := Behavior.forgets_of_isBuilt built
  rw [Forgets, behaviors_standard, fallback_standard]
  simp only [List.forall_mem_cons]
  exact ⟨plain _ Behavior.isBuilt_message fun _ _ _ _ _ _ => rfl,
    plain _ Behavior.isBuilt_start fun _ _ _ _ _ _ => rfl,
    plain _ Behavior.isBuilt_message fun _ _ _ _ _ _ => rfl,
    plain _ Behavior.isBuilt_question fun _ _ _ _ _ _ => rfl,
    plain _ Behavior.isBuilt_condition fun _ _ _ _ _ _ => rfl,
    Behavior.forgets_answer _,
    plain _ (Behavior.isBuilt_act _) fun _ _ _ _ _ _ => rfl,
    plain _ Behavior.isBuilt_setVariable fun _ _ _ _ _ _ => rfl,
    plain _ Behavior.isBuilt_delay fun _ _ _ _ _ _ => rfl,
    plain _ (Behavior.isBuilt_fetch _) fun _ _ _ _ _ _ => rfl,
    plain _ Behavior.isBuilt_handoff fun _ _ _ _ _ _ => rfl,
    plain _ Behavior.isBuilt_finish fun _ _ _ _ _ _ => rfl,
    fun b none => absurd none List.not_mem_nil⟩

end Registry

/-! ## Turns -/

namespace Turn

open Outside

variable {registry : Registry} {d : Definition}

/-- The walk with its context as it stands. -/
def Walk.standing (w : Walk) : Walk := { w with context := w.context.standing }

/-- What a hop comes to, with its context as it stands. -/
def Hop.standing : Hop → Hop
  | .ended o c => .ended o c.standing
  | .goesOn w => .goesOn w.standing

theorem hear_standing (w : Walk) (now : Moment) (node : Node) (reply : Option String) :
    (hear w now node reply).standing = w.standing := by
  unfold hear
  cases given? reply <;> rfl

theorem absorb_standing (w : Walk) (now : Moment) (o : Outcome) :
    (w.absorb now o).standing = (w.standing.absorb now o).standing := rfl

theorem settle_standing (node : Node) (w : Walk) (o : Outcome) :
    (settle d node w o).standing = settle d node w.standing o := by
  unfold settle
  split
  · rfl
  · dsimp only
    split
    · rfl
    · cases nextNode? d node o <;> rfl

/-- A hop of walks that stand alike comes to the same. -/
theorem hop_alike (forgets : registry.Forgets) (reply : Option String) {w w' : Walk} {o o' : Outside}
    (alike : w.standing = w'.standing) (same : o.ahead = o'.ahead) :
    (hop registry d reply w o).1.standing = (hop registry d reply w' o').1.standing ∧
      (hop registry d reply w o).2.ahead = (hop registry d reply w' o').2.ahead := by
  have here : w.context.currentNodeId = w'.context.currentNodeId :=
    (congrArg (·.context.currentNodeId) alike : w.standing.context.currentNodeId = _)
  rw [hop_eq, hop_eq, ← now_of_ahead same, here]
  cases d.node? w'.context.currentNodeId with
  | none =>
    refine ⟨?_, same⟩
    have said : w.messages = w'.messages := (congrArg Walk.messages alike : w.standing.messages = _)
    have stands : w.context.standing = w'.context.standing := congrArg Walk.context alike
    simp only [Hop.standing, Walk.failure, said, stands]
  | some node =>
    obtain ⟨chosen, started⟩ := (registry.isBuilt_behavior node.kind).alike o o' same
    have forgetful : (registry.behavior node.kind o').1.Forgets := Registry.behavior_of_forall forgets node.kind o'
    have heard : (hear w o.now node reply).standing = (hear w' o.now node reply).standing := by
      rw [hear_standing, hear_standing, alike]
    dsimp only
    generalize registry.behavior node.kind o = b at chosen started ⊢
    generalize registry.behavior node.kind o' = b' at chosen started forgetful ⊢
    generalize hear w o.now node reply = h at heard ⊢
    generalize hear w' o.now node reply = h' at heard ⊢
    obtain ⟨behavior, s⟩ := b
    obtain ⟨behavior', s'⟩ := b'
    dsimp only at chosen started forgetful ⊢
    subst chosen
    have said : h.messages = h'.messages := (congrArg Walk.messages heard : h.standing.messages = _)
    have stands : h.context.standing = h'.context.standing := congrArg Walk.context heard
    obtain ⟨result, left⟩ := forgetful node h.context h'.context reply stands s s' started
    generalize (behavior node h.context reply).run s = r at result left ⊢
    generalize (behavior node h'.context reply).run s' = r' at result left ⊢
    obtain ⟨e, p⟩ := r
    obtain ⟨e', p'⟩ := r'
    dsimp only at result left ⊢
    subst result
    cases e with
    | error f =>
      refine ⟨?_, left⟩
      simp only [Hop.standing, Walk.failure, said, stands]
    | ok out =>
      dsimp only
      refine ⟨?_, by cases out.success <;> exact left⟩
      rw [settle_standing, settle_standing, absorb_standing h, heard, ← absorb_standing h']

theorem hops_alike (forgets : registry.Forgets) (n : Nat) (reply : Option String) {w w' : Walk} {o o' : Outside}
    (alike : w.standing = w'.standing) (same : o.ahead = o'.ahead) :
    (hops registry d n reply w o).1.1 = (hops registry d n reply w' o').1.1 ∧
      (hops registry d n reply w o).1.2.standing = (hops registry d n reply w' o').1.2.standing ∧
      (hops registry d n reply w o).2.ahead = (hops registry d n reply w' o').2.ahead := by
  induction n generalizing reply w w' o o' with
  | zero =>
    have said : w.messages = w'.messages := (congrArg Walk.messages alike : w.standing.messages = _)
    refine ⟨?_, congrArg Walk.context alike, same⟩
    show w.failure (.ofBot o.now apology none) false _ = w'.failure (.ofBot o'.now apology none) false _
    rw [now_of_ahead same, Walk.failure, said]
    rfl
  | succ n ih =>
    obtain ⟨result, left⟩ := hop_alike (d := d) forgets reply alike same
    rw [hops_succ, hops_succ]
    generalize hop registry d reply w o = r at result left ⊢
    generalize hop registry d reply w' o' = r' at result left ⊢
    obtain ⟨⟨e, c⟩ | ⟨next⟩, p⟩ := r <;> obtain ⟨⟨e', c'⟩ | ⟨next'⟩, p'⟩ := r'
    · obtain ⟨outcome, context⟩ := Hop.ended.inj result
      exact ⟨outcome, context, left⟩
    · cases result
    · cases result
    · exact ih none (Hop.goesOn.inj result) left

/-- A turn makes nothing of what a context remembers. -/
theorem takeTurn_alike (forgets : registry.Forgets) (maxHops : Nat) {c c' : Context} (reply : Option String)
    {o o' : Outside} (alike : c.standing = c'.standing) (same : o.ahead = o'.ahead) :
    (takeTurn registry maxHops d c reply o).1.1 = (takeTurn registry maxHops d c' reply o').1.1 ∧
      (takeTurn registry maxHops d c reply o).1.2.standing
        = (takeTurn registry maxHops d c' reply o').1.2.standing ∧
      (takeTurn registry maxHops d c reply o).2.ahead = (takeTurn registry maxHops d c' reply o').2.ahead :=
  hops_alike forgets maxHops reply (congrArg (⟨·, [], true⟩ : Context → Walk) alike) same

end Turn

end ChatFlow
