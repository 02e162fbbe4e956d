import ChatFlow.Proofs.Turn.Standard

/-!
What turns are built of.

Behaviors look at the clock, write log lines, make requests and ask for completions, and nothing else
outside (`Outside.IsBuiltOf`). The notion is closed under the ways in which activities are put together, so
that it is shown for each behavior once and carried over to hops and whole turns (`Turn.isBuilt_takeTurn`);
what is true of the few primitive activities is then true of turns by one induction. So a turn leaves the
clock alone (`Outside.IsBuiltOf.now_eq`), and if it makes no call it changes nothing outside but the log
(`Outside.IsBuiltOf.unlogged_eq`). Which completions an activity asks for is a parameter: without a reply no
built-in behavior asks for any (`Registry.isBuiltFor_standard`). A registry with further behaviors has these
properties if its behaviors are built in the same way (`Registry.IsBuilt`).
-/

namespace ChatFlow

open ChatFlow.Flow (Node Definition)

namespace Outside

/-- The outside with an empty log. -/
def unlogged (o : Outside) : Outside := { o with log := [] }

@[simp] theorem unlogged_note (o : Outside) (weight : Weight) (component : String) :
    (o.note weight component).unlogged = o.unlogged := rfl

/-- What the activity is built of: it gives values, does one thing after another, looks at the clock, writes
log lines, makes requests and asks for completions of some description. -/
inductive IsBuiltOf (asked : CompletionCall → Prop) : {α : Type} → StateM Outside α → Prop
  | pure {α : Type} (a : α) : IsBuiltOf asked (pure a)
  | bind {α β : Type} {x : StateM Outside α} {f : α → StateM Outside β} (hx : IsBuiltOf asked x)
    (hf : ∀ a, IsBuiltOf asked (f a)) : IsBuiltOf asked (x >>= f)
  | now : IsBuiltOf asked (do return (← get).now)
  | note (weight : Weight) (component : String) : IsBuiltOf asked (modify (·.note weight component))
  | send (call : HttpCall) : IsBuiltOf asked (modifyGet (·.send call))
  | complete {call : CompletionCall} (may : asked call) : IsBuiltOf asked (modifyGet (·.complete call))

/-- What the activity is built of, whatever completions it asks for. -/
abbrev IsBuilt {α : Type} (x : StateM Outside α) : Prop := IsBuiltOf (fun _ => True) x

/-- The completions that were asked for so far. -/
def completions (o : Outside) : List CompletionCall :=
  o.calls.filterMap fun
    | .completion call => some call
    | .http _ => none

variable {asked : CompletionCall → Prop}

namespace IsBuiltOf

variable {α β : Type}

theorem warn (component : String) : IsBuiltOf asked (Service.warn component) := .note _ _

theorem reportError (component : String) : IsBuiltOf asked (Service.reportError component) := .note _ _

/-- An activity that looks at the outside, but only at the clock. -/
theorem look {f : Outside → StateM Outside β} (blind : ∀ o o' : Outside, o.now = o'.now → f o = f o')
    (hf : ∀ o, IsBuiltOf asked (f o)) : IsBuiltOf asked (get >>= f) := by
  have same : (get >>= f) = (do return (← get).now) >>= fun t => f ⟨t, [], [], [], []⟩ := by
    funext o
    rw [StateM.bind_apply, StateM.get_apply, blind o ⟨o.now, [], [], [], []⟩ rfl]
    rfl
  rw [same]
  exact .bind .now fun t => hf _

theorem foldlM {step : β → α → StateM Outside β} (h : ∀ b a, IsBuiltOf asked (step b a)) (as : List α)
    (b : β) : IsBuiltOf asked (as.foldlM step b) := by
  induction as generalizing b with
  | nil => exact .pure b
  | cons a rest ih =>
    rw [List.foldlM_cons]
    exact .bind (h b a) ih

/-! ### What it leaves -/

/-- The activity leaves the clock alone. -/
theorem now_eq {x : StateM Outside α} (h : IsBuiltOf asked x) (o : Outside) : (x o).2.now = o.now := by
  induction h generalizing o with
  | pure a => rfl
  | bind hx hf ihx ihf =>
    rw [StateM.bind_apply, ihf, ihx]
  | now => rfl
  | note weight component => rfl
  | send call =>
    obtain ⟨now, answers, completions, calls, log⟩ := o
    cases answers <;> rfl
  | complete call =>
    obtain ⟨now, answers, completions, calls, log⟩ := o
    cases completions <;> rfl

/-- The activity adds its calls to the journal, and takes no answer without one. -/
theorem calls_eq {x : StateM Outside α} (h : IsBuiltOf asked x) (o : Outside) :
    ∃ more, (x o).2.calls = o.calls ++ more ∧ (more = [] → (x o).2.unlogged = o.unlogged) ∧
      ∀ call, .completion call ∈ more → asked call := by
  induction h generalizing o with
  | pure a => exact ⟨[], (List.append_nil _).symm, fun _ => rfl, nofun⟩
  | @bind _ _ x f hx hf ihx ihf =>
    obtain ⟨first, calls, silent, may⟩ := ihx o
    obtain ⟨later, calls', silent', may'⟩ := ihf (x o).1 (x o).2
    rw [StateM.bind_apply]
    refine ⟨first ++ later, by rw [calls', calls, List.append_assoc], fun none => ?_, fun call made => ?_⟩
    · obtain ⟨rfl, rfl⟩ := List.append_eq_nil_iff.mp none
      exact (silent' rfl).trans (silent rfl)
    · exact (List.mem_append.mp made).elim (may call) (may' call)
  | now => exact ⟨[], (List.append_nil _).symm, fun _ => rfl, nofun⟩
  | note weight component => exact ⟨[], (List.append_nil _).symm, fun _ => rfl, nofun⟩
  | send call =>
    obtain ⟨now, answers, completions, calls, log⟩ := o
    cases answers <;> exact ⟨[.http call], rfl, nofun, by simp⟩
  | complete may =>
    obtain ⟨now, answers, completions, calls, log⟩ := o
    cases completions <;> exact ⟨[.completion _], rfl, nofun, by simpa using may⟩

/-- An activity that made no call changed nothing but the log. -/
theorem unlogged_eq {x : StateM Outside α} (h : IsBuiltOf asked x) {o : Outside}
    (silent : (x o).2.calls = o.calls) : (x o).2.unlogged = o.unlogged := by
  obtain ⟨more, calls, same, -⟩ := h.calls_eq o
  exact same (List.append_right_eq_self.mp (calls.symm.trans silent))

/-- An activity that may ask for no completion asks for none. -/
theorem completions_eq {x : StateM Outside α} (h : IsBuiltOf (fun _ => False) x) (o : Outside) :
    (x o).2.completions = o.completions := by
  obtain ⟨more, calls, -, may⟩ := h.calls_eq o
  have none : more.filterMap (fun | .completion call => some call | .http _ => none) = [] := by
    rw [List.filterMap_eq_nil_iff]
    rintro (_ | call) made
    · rfl
    · exact (may call made).elim
  rw [completions, calls, List.filterMap_append, none, List.append_nil, completions]

end IsBuiltOf

end Outside

namespace Service

variable {α β : Type} {asked : CompletionCall → Prop}

/-- The activity is built of the primitive ones, the completions being of some description. -/
def IsBuiltOf (asked : CompletionCall → Prop) (x : Service α) : Prop :=
  Outside.IsBuiltOf asked x.run

/-- The activity is built of the primitive ones. -/
abbrev IsBuilt (x : Service α) : Prop := x.IsBuiltOf fun _ => True

theorem isBuilt_pure (a : α) : (pure a : Service α).IsBuiltOf asked := .pure _

theorem isBuilt_throw (f : Failure) : (throw f : Service α).IsBuiltOf asked := .pure _

theorem isBuilt_ofExcept (e : Except Failure α) : (ofExcept e).IsBuiltOf asked := by
  cases e with
  | error f => exact isBuilt_throw f
  | ok a => exact isBuilt_pure a

theorem isBuilt_bind {x : Service α} {f : α → Service β} (hx : x.IsBuiltOf asked) (hf : ∀ a, (f a).IsBuiltOf asked) :
    (x >>= f).IsBuiltOf asked :=
  Outside.IsBuiltOf.bind (f := ExceptT.bindCont f) hx fun
    | .ok a => hf a
    | .error _ => .pure _

theorem isBuilt_lift {x : StateM Outside α} (hx : Outside.IsBuiltOf asked x) : (liftM x : Service α).IsBuiltOf asked :=
  Outside.IsBuiltOf.bind hx fun _ => .pure _

theorem isBuilt_attempt {x : Service α} (hx : x.IsBuiltOf asked) : (attempt x).IsBuiltOf asked :=
  isBuilt_lift hx

theorem isBuilt_now : now.IsBuiltOf asked := Outside.IsBuiltOf.bind .now fun _ => .pure _

theorem isBuilt_send (call : HttpCall) : (send call).IsBuiltOf asked :=
  isBuilt_bind (isBuilt_lift (.send call)) fun
    | .response _ _ => isBuilt_pure _
    | .failure cause => isBuilt_throw cause

theorem isBuilt_complete {call : CompletionCall} (may : asked call) : (complete call).IsBuiltOf asked :=
  isBuilt_bind (isBuilt_lift (.complete may)) fun
    | .choices _ => isBuilt_pure _
    | .failure cause => isBuilt_throw cause

end Service

/-! ## Behaviors -/

namespace Behavior

open Service

/-- The behavior is built of the primitive activities, the completions being of some description. -/
def IsBuiltOf (asked : CompletionCall → Prop) (b : Behavior) : Prop :=
  ∀ (node : Node) (c : Context) (reply : Option String), (b node c reply).IsBuiltOf asked

/-- The behavior is built of the primitive activities. -/
abbrev IsBuilt (b : Behavior) : Prop := b.IsBuiltOf fun _ => True

variable {asked : CompletionCall → Prop}

theorem isBuilt_start : start.IsBuiltOf asked := fun _ _ _ => isBuilt_pure _

theorem isBuilt_message : message.IsBuiltOf asked := fun _ _ _ =>
  isBuilt_bind (isBuilt_ofExcept _) fun _ => isBuilt_bind isBuilt_now fun _ =>
    isBuilt_pure _

theorem isBuilt_question : question.IsBuiltOf asked := by
  intro node c reply
  unfold question
  refine isBuilt_bind (isBuilt_ofExcept _) fun choices =>
    isBuilt_bind (isBuilt_ofExcept _) fun variableName => ?_
  split
  · exact isBuilt_bind (isBuilt_ofExcept _) fun content =>
      isBuilt_bind isBuilt_now fun now => isBuilt_pure _
  · dsimp only
    split
    · exact isBuilt_pure _
    · refine isBuilt_bind (isBuilt_ofExcept _) fun choice => ?_
      cases choice with
      | some c => exact isBuilt_pure _
      | none => exact isBuilt_bind isBuilt_now fun now =>
          isBuilt_bind (isBuilt_ofExcept _) fun m => isBuilt_pure _

theorem isBuilt_evaluate (rule : Flow.Rule) (scope : Value) :
    (Branch.evaluate rule scope).IsBuiltOf asked := by
  refine isBuilt_bind (isBuilt_ofExcept _) fun verdict => ?_
  cases verdict with
  | brokenPattern =>
    exact isBuilt_bind (isBuilt_lift (Outside.IsBuiltOf.reportError _)) fun _ =>
      isBuilt_pure _
  | unknownOperator =>
    exact isBuilt_bind (isBuilt_lift (Outside.IsBuiltOf.warn _)) fun _ => isBuilt_pure _
  | holds => exact isBuilt_pure _
  | fails => exact isBuilt_pure _

theorem isBuilt_firstHolding (scope : Value) (rules : List Flow.Rule) :
    (Branch.firstHolding scope rules).IsBuiltOf asked := by
  induction rules with
  | nil => exact isBuilt_pure _
  | cons rule rest ih =>
    refine isBuilt_bind (isBuilt_evaluate rule scope) fun holds => ?_
    split
    · exact isBuilt_bind (isBuilt_ofExcept _) fun _ => isBuilt_pure _
    · exact ih

theorem isBuilt_condition : condition.IsBuiltOf asked := fun _ _ _ =>
  isBuilt_bind (isBuilt_ofExcept _) fun rules =>
    isBuilt_bind (isBuilt_firstHolding _ rules) fun
      | some _ => isBuilt_pure _
      | none => isBuilt_bind (isBuilt_ofExcept _) fun _ => isBuilt_pure _

theorem isBuilt_generate {generator : TextGenerator} {p : Prompt} (may : asked (generator.request p)) :
    (generator.generate p).IsBuiltOf asked := by
  unfold TextGenerator.generate
  split
  · exact isBuilt_bind (isBuilt_throw _) fun _ =>
      isBuilt_bind (isBuilt_complete may) fun
        | _ :: _ => isBuilt_pure _
        | [] => isBuilt_pure _
  · exact isBuilt_bind (isBuilt_complete may) fun
      | _ :: _ => isBuilt_pure _
      | [] => isBuilt_pure _

/-- Only a reply that is not empty is answered by a completion. -/
theorem isBuilt_answer (generator : TextGenerator) {reply : Option String}
    (may : (reply.getD "").isEmpty = false → ∀ call, asked call) (node : Node) (c : Context) :
    (answer generator node c reply).IsBuiltOf asked := by
  unfold answer
  refine isBuilt_bind (isBuilt_ofExcept _) fun settings => ?_
  dsimp only
  split
  · exact isBuilt_bind (isBuilt_ofExcept _) fun prompt =>
      isBuilt_bind isBuilt_now fun now => isBuilt_pure _
  · next given =>
    refine isBuilt_bind (isBuilt_attempt (isBuilt_generate (may (by simpa using given) _))) fun text => ?_
    cases text with
    | ok text => exact isBuilt_bind isBuilt_now fun now => isBuilt_pure _
    | error f => exact isBuilt_bind (isBuilt_lift (Outside.IsBuiltOf.reportError _)) fun _ =>
        isBuilt_bind isBuilt_now fun now => isBuilt_pure _

theorem isBuilt_setVariable : setVariable.IsBuiltOf asked := by
  intro node c reply
  unfold setVariable
  dsimp only
  split
  · exact isBuilt_pure _
  · exact isBuilt_bind (isBuilt_ofExcept _) fun _ =>
      isBuilt_bind (isBuilt_ofExcept _) fun _ =>
        isBuilt_bind (isBuilt_ofExcept _) fun _ => isBuilt_pure _

theorem isBuilt_delay : delay.IsBuiltOf asked := by
  intro node c reply
  unfold delay
  refine isBuilt_bind (isBuilt_ofExcept _) fun seconds => ?_
  cases seconds with
  | none => exact isBuilt_bind (isBuilt_ofExcept _) fun _ =>
      isBuilt_bind (isBuilt_lift (Outside.IsBuiltOf.warn _)) fun _ => isBuilt_pure _
  | some seconds =>
    dsimp only
    split
    · exact isBuilt_pure _
    · exact isBuilt_bind isBuilt_now fun now => isBuilt_pure _

theorem isBuilt_fetch (timeout : Quantity) : (fetch timeout).IsBuiltOf asked := by
  intro node c reply
  unfold fetch
  dsimp only
  split
  · exact isBuilt_pure _
  · refine isBuilt_bind (isBuilt_attempt (isBuilt_bind (isBuilt_ofExcept _) fun call =>
      isBuilt_send call)) fun answer => ?_
    cases answer with
    | ok answer =>
      obtain ⟨status, body⟩ := answer
      dsimp only
      split
      · exact isBuilt_bind (isBuilt_lift (Outside.IsBuiltOf.warn _)) fun _ =>
          isBuilt_pure _
      · exact isBuilt_pure _
    | error f =>
      dsimp only
      split
      · exact isBuilt_bind (isBuilt_throw f) fun _ =>
          isBuilt_bind (isBuilt_lift (Outside.IsBuiltOf.reportError _)) fun _ =>
            isBuilt_pure _
      · exact isBuilt_bind (isBuilt_lift (Outside.IsBuiltOf.reportError _)) fun _ =>
          isBuilt_pure _

theorem isBuilt_handoff : handoff.IsBuiltOf asked := fun _ _ _ =>
  isBuilt_bind (isBuilt_ofExcept _) fun _ => isBuilt_bind (isBuilt_ofExcept _) fun _ =>
    isBuilt_bind isBuilt_now fun _ => isBuilt_pure _

theorem isBuilt_finish : finish.IsBuiltOf asked := by
  intro node c reply
  unfold finish
  dsimp only
  split
  · exact isBuilt_bind (isBuilt_ofExcept _) fun content =>
      isBuilt_bind isBuilt_now fun now => isBuilt_pure _
  · exact isBuilt_pure _

/-! ### Actions -/

theorem isBuilt_create (leads : LeadService) (l : Lead) : Outside.IsBuiltOf asked (leads.create l) := by
  have exchange : (leads.exchange l).IsBuiltOf asked :=
    isBuilt_bind (isBuilt_ofExcept _) fun _ => isBuilt_bind (isBuilt_send _) fun
      | (_, _) => isBuilt_pure _
  have refused : Outside.IsBuiltOf asked (do
      Service.reportError LeadService.component
      return (none : Option String)) :=
    Outside.IsBuiltOf.bind (Outside.IsBuiltOf.reportError _) fun _ => Outside.IsBuiltOf.pure _
  unfold LeadService.create
  split
  · exact Outside.IsBuiltOf.bind (Outside.IsBuiltOf.warn _) fun _ => Outside.IsBuiltOf.pure _
  · refine Outside.IsBuiltOf.bind exchange fun answer => ?_
    cases answer with
    | error f => exact refused
    | ok id =>
      cases id with
      | none => exact refused
      | some id => exact Outside.IsBuiltOf.pure _

theorem isBuilt_triggerWebhook (timeout : Quantity) (c : Context) (action : Flow.Action)
    (done : Act.Progress) : (Act.triggerWebhook timeout c action done).IsBuiltOf asked := by
  unfold Act.triggerWebhook
  dsimp only
  split
  · refine isBuilt_bind isBuilt_now fun now => isBuilt_bind (isBuilt_ofExcept _) fun call =>
      isBuilt_bind (isBuilt_send call) fun answer => ?_
    obtain ⟨status, body⟩ := answer
    refine isBuilt_bind (isBuilt_ofExcept _) fun _ => ?_
    dsimp only
    split
    · exact isBuilt_bind (isBuilt_lift (Outside.IsBuiltOf.warn _)) fun _ => isBuilt_pure _
    · exact isBuilt_pure _
  · exact isBuilt_bind (isBuilt_lift (Outside.IsBuiltOf.warn _)) fun _ => isBuilt_pure _

theorem isBuilt_sendEmail (c : Context) (action : Flow.Action) (done : Act.Progress) :
    (Act.sendEmail c action done).IsBuiltOf asked := by
  unfold Act.sendEmail
  dsimp only
  split
  · exact isBuilt_bind (isBuilt_lift (Outside.IsBuiltOf.warn _)) fun _ => isBuilt_pure _
  · exact isBuilt_bind (isBuilt_ofExcept _) fun _ => isBuilt_bind (isBuilt_ofExcept _)
      fun _ => isBuilt_bind (isBuilt_ofExcept _) fun _ => isBuilt_pure _

theorem isBuilt_perform (reach : Act.Reach) (c : Context) (action : Flow.Action) (done : Act.Progress) :
    (Act.perform reach c action done).IsBuiltOf asked := by
  unfold Act.perform
  split
  · exact isBuilt_ofExcept _
  · exact isBuilt_bind (isBuilt_lift (isBuilt_create reach.leads _)) fun
      | some _ => isBuilt_pure _
      | none => isBuilt_pure _
  · exact isBuilt_triggerWebhook _ c action done
  · exact isBuilt_sendEmail c action done
  · exact isBuilt_ofExcept _
  · exact isBuilt_pure _
  · exact isBuilt_pure _
  · exact isBuilt_bind (isBuilt_lift (Outside.IsBuiltOf.warn _)) fun _ => isBuilt_pure _

theorem isBuilt_tryOne (reach : Act.Reach) (c : Context) (done : Act.Progress) (v : Value) :
    Outside.IsBuiltOf asked (Act.tryOne reach c done v) := by
  unfold Act.tryOne
  split
  · exact Outside.IsBuiltOf.bind (Outside.IsBuiltOf.reportError _) fun _ => Outside.IsBuiltOf.pure _
  · exact Outside.IsBuiltOf.bind (isBuilt_perform reach c _ done) fun
      | .ok _ => Outside.IsBuiltOf.pure _
      | .error _ => Outside.IsBuiltOf.bind (Outside.IsBuiltOf.reportError _) fun _ =>
          Outside.IsBuiltOf.pure _

theorem isBuilt_act (reach : Act.Reach) : (act reach).IsBuiltOf asked := fun _ c _ =>
  isBuilt_bind (isBuilt_ofExcept _) fun actions => isBuilt_bind
    (isBuilt_lift (Outside.IsBuiltOf.foldlM (isBuilt_tryOne reach c) actions _)) fun _ =>
      isBuilt_bind (isBuilt_ofExcept _) fun _ => isBuilt_pure _

end Behavior

/-! ## Registries -/

namespace Registry

/-- All behaviors of the registry are built of the primitive activities. -/
def IsBuilt (r : Registry) : Prop :=
  ∀ b ∈ r.fallback :: r.behaviors.map Prod.snd, b.IsBuilt

variable {asked : CompletionCall → Prop} {reply : Option String}

/-- With this reply, all behaviors of the registry are built of the primitive activities, the completions being
of some description. -/
def IsBuiltFor (asked : CompletionCall → Prop) (reply : Option String) (r : Registry) : Prop :=
  ∀ b ∈ r.fallback :: r.behaviors.map Prod.snd, ∀ (node : Node) (c : Context), (b node c reply).IsBuiltOf asked

theorem IsBuilt.isBuiltFor {r : Registry} (built : r.IsBuilt) (reply : Option String) :
    r.IsBuiltFor (fun _ => True) reply :=
  fun b here node c => built b here node c reply

/-- An activity that begins by looking up a behavior. -/
theorem IsBuiltFor.bind_behavior {r : Registry} (built : r.IsBuiltFor asked reply) (kind : String) {β : Type}
    {f : Behavior → StateM Outside β}
    (hf : ∀ b : Behavior, (∀ node c, (b node c reply).IsBuiltOf asked) → Outside.IsBuiltOf asked (f b)) :
    Outside.IsBuiltOf asked (r.behavior kind >>= f) := by
  have fits := hf _ (behaviorOf_of_forall built kind)
  unfold behaviorOf at fits
  unfold behavior
  generalize r.behaviors.lookup kind = found at fits ⊢
  cases found with
  | some b => exact fits
  | none =>
    show Outside.IsBuiltOf asked (Service.warn component >>= fun _ => f r.fallback)
    exact .bind (.warn _) fun _ => fits

/-- The built-in behaviors ask for completions on a reply that is not empty. -/
theorem isBuiltFor_standard (s : Services) (may : (reply.getD "").isEmpty = false → ∀ call, asked call) :
    (standard s).IsBuiltFor asked reply := by
  have plain (b : Behavior) (built : b.IsBuiltOf asked) (node : Node) (c : Context) := built node c reply
  rw [IsBuiltFor, behaviors_standard, fallback_standard]
  simp only [List.forall_mem_cons]
  exact ⟨plain _ Behavior.isBuilt_message, plain _ Behavior.isBuilt_start, plain _ Behavior.isBuilt_message,
    plain _ Behavior.isBuilt_question, plain _ Behavior.isBuilt_condition, Behavior.isBuilt_answer _ may,
    plain _ (Behavior.isBuilt_act _), plain _ Behavior.isBuilt_setVariable, plain _ Behavior.isBuilt_delay,
    plain _ (Behavior.isBuilt_fetch _), plain _ Behavior.isBuilt_handoff, plain _ Behavior.isBuilt_finish,
    fun b none => absurd none List.not_mem_nil⟩

theorem isBuilt_standard (s : Services) : (standard s).IsBuilt :=
  fun b here node c _ => isBuiltFor_standard s (fun _ _ => trivial) b here node c

end Registry

/-! ## Turns -/

namespace Turn

open Outside

variable {registry : Registry} {asked : CompletionCall → Prop} {reply : Option String}

theorem isBuilt_hop (built : registry.IsBuiltFor asked reply) (d : Definition) (w : Walk) :
    IsBuiltOf asked (hop registry d reply w) := by
  refine .look (fun o o' same => by rw [same]) fun o => ?_
  dsimp only
  cases d.node? w.context.currentNodeId with
  | none => exact .bind (.reportError _) fun _ => .pure _
  | some node =>
    refine built.bind_behavior node.kind fun behavior made => .bind (made node _) fun result => ?_
    cases result with
    | error f => exact .bind (.reportError _) fun _ => .pure _
    | ok o =>
      dsimp only
      cases o.success with
      | true => exact .pure _
      | false => exact .bind (.warn _) fun _ => .pure _

theorem isBuilt_hops (first : registry.IsBuiltFor asked reply) (later : registry.IsBuiltFor asked none)
    (d : Definition) (n : Nat) (w : Walk) : IsBuiltOf asked (hops registry d n reply w) := by
  induction n generalizing reply w with
  | zero =>
    exact .bind (.reportError _) fun _ => .look (fun o o' same => by rw [same]) fun _ => .pure _
  | succ n ih =>
    exact .bind (isBuilt_hop first d w) fun
      | .ended _ _ => .pure _
      | .goesOn next => ih later next

/-- A turn is built of the primitive activities. -/
theorem isBuilt_takeTurn (built : registry.IsBuilt) (maxHops : Nat) (d : Definition) (c : Context)
    (reply : Option String) : IsBuilt (takeTurn registry maxHops d c reply) :=
  isBuilt_hops (built.isBuiltFor reply) (built.isBuiltFor none) d maxHops (.start c)

end Turn

end ChatFlow
