import ChatFlow.Proofs.Turn.Shape

/-!
Turns with the built-in behaviors.

A context comes from the store with another sequence number and another time of last activity than the
context that was saved. The built-in behaviors look at neither (`Behavior.IsBlind`), so that a turn on
the one context is a turn on the other (`Turn.takeTurn_kept`). Most of them never ask for a reply
(`Behavior.NeverAsks`); those that do ask with a message of the node that they are executed for, and
stay there (`Behavior.AsksInPlace`). These are facts about single behaviors; a registry with further
behaviors has them if these do.
-/

namespace ChatFlow

open ChatFlow.Flow (Node Definition)

namespace Service

variable {α β : Type} {P : β → Prop}

/-- One activity after another: the second begins where the first succeeds. -/
theorem run_bind (x : Service α) (f : α → Service β) (o : Outside) :
    (x >>= f).run o = match x.run o with
      | (.ok a, left) => (f a).run left
      | (.error fault, left) => (.error fault, left) := by
  show (match x.run o with | (r, left) => ExceptT.bindCont f r left) = _
  rcases x.run o with ⟨_ | _, _⟩ <;> rfl

/-- An activity that begins with a value or a failure. -/
theorem run_ofExcept_bind (e : Except Failure α) (f : α → Service β) (o : Outside) :
    (ofExcept e >>= f).run o = match e with
      | .ok a => (f a).run o
      | .error fault => (.error fault, o) := by
  cases e <;> rfl

/-- The result of an activity does not fail, whatever it is. -/
theorem run_attempt (x : Service α) (o : Outside) :
    (attempt x).run o = (.ok (x.run o).1, (x.run o).2) := rfl

/-- Every result of the activity is as described. -/
def Gives (x : Service β) (P : β → Prop) : Prop :=
  ∀ outside a left, x.run outside = (.ok a, left) → P a

theorem gives_pure {a : β} (h : P a) : (pure a : Service β).Gives P := by
  intro outside b left run
  have same : (Except.ok a : Except Failure β) = .ok b := congrArg Prod.fst run
  rw [← Except.ok.inj same]
  exact h

theorem gives_throw {f : Failure} : (throw f : Service β).Gives P := by
  intro outside b left run
  have same : (Except.error f : Except Failure β) = .ok b := congrArg Prod.fst run
  cases same

theorem gives_ofExcept {e : Except Failure β} (h : ∀ a, e = .ok a → P a) : (ofExcept e).Gives P := by
  cases e with
  | error f => exact gives_throw
  | ok a => exact gives_pure (h a rfl)

/-- Of the last part only those cases matter that the first can give. -/
theorem gives_bind_of {Q : α → Prop} {x : Service α} {f : α → Service β} (hx : x.Gives Q)
    (hf : ∀ a, Q a → (f a).Gives P) : (x >>= f).Gives P := by
  intro outside b left run
  rw [run_bind] at run
  cases first : x.run outside with
  | mk result between =>
    rw [first] at run
    cases result with
    | ok a => exact hf a (hx outside a between first) between b left run
    | error e => cases run

/-- What an activity gives is what its last part gives. -/
theorem gives_bind {x : Service α} {f : α → Service β} (h : ∀ a, (f a).Gives P) :
    (x >>= f).Gives P :=
  gives_bind_of (Q := fun _ => True) (fun _ _ _ _ => trivial) fun a _ => h a

end Service

/-- The bot sent the message at the node of this id. -/
def Message.IsFrom (m : Message) (id : String) : Prop :=
  m.role = .bot ∧ m.nodeId = some id

/-- An outcome that asks ends with a message of the node, and names no node to go on with. -/
def Outcome.IsAskedBy (o : Outcome) (id : String) : Prop :=
  o.waitingForInput = true → o.nextNodeId = none ∧ ∃ m, o.messages.getLast? = some m ∧ m.IsFrom id

theorem Outcome.isAskedBy_asking {m : Message} {id : String} (h : m.IsFrom id) :
    (Outcome.asking [m]).IsAskedBy id :=
  fun _ => ⟨rfl, m, rfl, h⟩

/-! ## Behaviors -/

namespace Behavior

open Service (gives_bind gives_bind_of gives_ofExcept gives_pure gives_throw)

/-- The behavior looks neither at the sequence number of a context nor at the time of its last
activity. -/
def IsBlind (b : Behavior) : Prop :=
  ∀ (node : Node) (c : Context) (n : Int) (t : Moment) (reply : Option String),
    b node (c.kept n t) reply = b node c reply

/-- The behavior never asks for a reply. -/
def NeverAsks (b : Behavior) : Prop :=
  ∀ (node : Node) (c : Context) (reply : Option String),
    (b node c reply).Gives fun o => o.waitingForInput = false

/-- The behavior asks for a reply at the node that it is executed for. -/
def AsksInPlace (b : Behavior) : Prop :=
  ∀ (node : Node) (c : Context) (reply : Option String),
    (b node c reply).Gives fun o => o.IsAskedBy node.id

theorem NeverAsks.asksInPlace {b : Behavior} (h : b.NeverAsks) : b.AsksInPlace := by
  intro node c reply outside o left run asks
  exact absurd ((h node c reply outside o left run).symm.trans asks) Bool.false_ne_true

/-- What is true of the built-in behaviors. -/
structure IsPlain (b : Behavior) : Prop where
  blind : b.IsBlind
  inPlace : b.AsksInPlace

/-! ### Asking -/

theorem asksInPlace_question : question.AsksInPlace := by
  intro node c reply
  unfold question
  refine gives_bind fun choices => gives_bind fun variableName => ?_
  split
  · exact gives_bind fun content => gives_bind fun now =>
      gives_pure (Outcome.isAskedBy_asking ⟨rfl, rfl⟩)
  · dsimp only
    split
    · exact gives_pure nofun
    · refine gives_bind fun choice => ?_
      cases choice with
      | some c => exact gives_pure nofun
      | none =>
        refine gives_bind fun now => gives_bind_of (Q := fun m => m.IsFrom node.id) ?_ fun m sent =>
          gives_pure (Outcome.isAskedBy_asking sent)
        refine gives_ofExcept fun m read => ?_
        unfold Message.fromSetting? at read
        split at read
        · cases read
          exact ⟨rfl, rfl⟩
        · cases read

theorem asksInPlace_answer (generator : TextGenerator) : (answer generator).AsksInPlace := by
  intro node c reply
  unfold answer
  refine gives_bind fun settings => ?_
  dsimp only
  split
  · exact gives_bind fun prompt => gives_bind fun now =>
      gives_pure (Outcome.isAskedBy_asking ⟨rfl, rfl⟩)
  · refine gives_bind fun text => ?_
    cases text with
    | ok text => exact gives_bind fun now => gives_pure nofun
    | error f => exact gives_bind fun _ => gives_bind fun now => gives_pure nofun

/-! ### Never asking -/

theorem neverAsks_start : start.NeverAsks := fun _ _ _ => gives_pure rfl

theorem neverAsks_message : message.NeverAsks := fun _ _ _ =>
  gives_bind fun _ => gives_bind fun _ => gives_pure rfl

theorem neverAsks_condition : condition.NeverAsks := by
  intro node c reply
  unfold condition
  refine gives_bind fun rules => gives_bind fun first => ?_
  cases first with
  | some rule => exact gives_pure rfl
  | none => exact gives_bind fun next => gives_pure rfl

theorem neverAsks_act (reach : Act.Reach) : (act reach).NeverAsks := fun _ _ _ =>
  gives_bind fun _ => gives_bind fun _ => gives_bind fun _ => gives_pure rfl

theorem neverAsks_setVariable : setVariable.NeverAsks := by
  intro node c reply
  unfold setVariable
  dsimp only
  split
  · exact gives_pure rfl
  · exact gives_bind fun assignment => gives_bind fun filled => gives_bind fun value => gives_pure rfl

theorem neverAsks_delay : delay.NeverAsks := by
  intro node c reply
  unfold delay
  refine gives_bind fun seconds => ?_
  cases seconds with
  | none => exact gives_bind fun _ => gives_bind fun _ => gives_pure rfl
  | some seconds =>
    dsimp only
    split
    · exact gives_pure rfl
    · exact gives_bind fun now => gives_pure rfl

theorem waitingForInput_answered (name : String) (status : Int) (body : String) :
    (Fetch.answered name status body).waitingForInput = false := by
  unfold Fetch.answered
  split <;> rfl

theorem neverAsks_fetch (timeout : Quantity) : (fetch timeout).NeverAsks := by
  intro node c reply
  unfold fetch
  dsimp only
  split
  · exact gives_pure rfl
  · refine gives_bind fun answer => ?_
    cases answer with
    | ok answer =>
      obtain ⟨status, body⟩ := answer
      have answered := waitingForInput_answered
        (Fetch.responseVariable (node.setting "apiConfig")) status body
      dsimp only
      split
      · exact gives_bind fun _ => gives_pure answered
      · exact gives_pure answered
    | error f =>
      dsimp only
      split
      · exact gives_bind fun _ => gives_bind fun _ => gives_pure rfl
      · exact gives_bind fun _ => gives_pure rfl

theorem neverAsks_handoff : handoff.NeverAsks := fun _ _ _ =>
  gives_bind fun _ => gives_bind fun _ => gives_bind fun _ => gives_pure rfl

theorem neverAsks_finish : finish.NeverAsks := by
  intro node c reply
  unfold finish
  dsimp only
  split
  · exact gives_bind fun content => gives_bind fun now => gives_pure rfl
  · exact gives_pure rfl

end Behavior

/-! ## Registries -/

namespace Registry

/-- All behaviors of the registry are like the built-in ones. -/
def IsPlain (r : Registry) : Prop :=
  ∀ b ∈ r.fallback :: r.behaviors.map Prod.snd, b.IsPlain

/-- The behavior of a kind. -/
def behaviorOf (r : Registry) (kind : String) : Behavior :=
  (r.behaviors.lookup kind).getD r.fallback

theorem behavior_fst (r : Registry) (kind : String) (outside : Outside) :
    (r.behavior kind outside).1 = r.behaviorOf kind := by
  unfold behavior behaviorOf
  cases r.behaviors.lookup kind <;> rfl

theorem behaviorOf_cases (r : Registry) (kind : String) :
    r.behaviorOf kind = r.fallback ∨ (kind, r.behaviorOf kind) ∈ r.behaviors := by
  unfold behaviorOf
  cases found : r.behaviors.lookup kind with
  | none => exact .inl rfl
  | some b =>
    obtain ⟨before, after, split, -⟩ := List.lookup_eq_some_iff.mp found
    rw [split]
    exact .inr (List.mem_append_right _ List.mem_cons_self)

/-- What all behaviors of a registry have in common is true of the behavior of any kind. -/
theorem behaviorOf_of_forall {r : Registry} {P : Behavior → Prop}
    (all : ∀ b ∈ r.fallback :: r.behaviors.map Prod.snd, P b) (kind : String) :
    P (r.behaviorOf kind) := by
  rcases r.behaviorOf_cases kind with same | registered
  · rw [same]
    exact all _ List.mem_cons_self
  · exact all _ (List.mem_cons_of_mem _ (List.mem_map_of_mem registered))

theorem behavior_of_forall {r : Registry} {P : Behavior → Prop}
    (all : ∀ b ∈ r.fallback :: r.behaviors.map Prod.snd, P b) (kind : String) (outside : Outside) :
    P (r.behavior kind outside).1 := by
  rw [behavior_fst]
  exact behaviorOf_of_forall all kind

theorem IsPlain.behavior {r : Registry} (plain : r.IsPlain) (kind : String) (outside : Outside) :
    (r.behavior kind outside).1.IsPlain :=
  behavior_of_forall plain kind outside

theorem fallback_standard (s : Services) : (standard s).fallback = Behavior.message := rfl

theorem behaviors_standard (s : Services) :
    (standard s).behaviors.map Prod.snd = [Behavior.start, Behavior.message, Behavior.question,
      Behavior.condition, Behavior.answer s.generator, Behavior.act ⟨s.leads, s.webhookTimeout⟩,
      Behavior.setVariable, Behavior.delay, Behavior.fetch s.apiTimeout, Behavior.handoff,
      Behavior.finish] := rfl

theorem isPlain_standard (s : Services) : (standard s).IsPlain := by
  have blind (b : Behavior) (same : b.IsBlind) (asks : b.AsksInPlace) : b.IsPlain := ⟨same, asks⟩
  rw [IsPlain, behaviors_standard, fallback_standard]
  simp only [List.forall_mem_cons]
  exact ⟨blind _ (fun _ _ _ _ _ => rfl) Behavior.neverAsks_message.asksInPlace,
    blind _ (fun _ _ _ _ _ => rfl) Behavior.neverAsks_start.asksInPlace,
    blind _ (fun _ _ _ _ _ => rfl) Behavior.neverAsks_message.asksInPlace,
    blind _ (fun _ _ _ _ _ => rfl) Behavior.asksInPlace_question,
    blind _ (fun _ _ _ _ _ => rfl) Behavior.neverAsks_condition.asksInPlace,
    blind _ (fun _ _ _ _ _ => rfl) (Behavior.asksInPlace_answer _),
    blind _ (fun _ _ _ _ _ => rfl) (Behavior.neverAsks_act _).asksInPlace,
    blind _ (fun _ _ _ _ _ => rfl) Behavior.neverAsks_setVariable.asksInPlace,
    blind _ (fun _ _ _ _ _ => rfl) Behavior.neverAsks_delay.asksInPlace,
    blind _ (fun _ _ _ _ _ => rfl) (Behavior.neverAsks_fetch _).asksInPlace,
    blind _ (fun _ _ _ _ _ => rfl) Behavior.neverAsks_handoff.asksInPlace,
    blind _ (fun _ _ _ _ _ => rfl) Behavior.neverAsks_finish.asksInPlace,
    fun b none => absurd none List.not_mem_nil⟩

/-- Nodes of the kind may ask for a reply. -/
def MayAsk (r : Registry) (kind : String) : Prop :=
  ¬ (r.behaviorOf kind).NeverAsks

/-- Of the built-in kinds two may ask. -/
theorem mayAsk_standard {s : Services} {kind : String} (may : (standard s).MayAsk kind) :
    kind = "question" ∨ kind = "ai_answer" := by
  rcases (standard s).behaviorOf_cases kind with same | registered
  · exact absurd (same ▸ Behavior.neverAsks_message) may
  · unfold MayAsk at may
    generalize (standard s).behaviorOf kind = b at may registered
    simp only [standard, List.mem_cons, Prod.mk.injEq, List.not_mem_nil, or_false] at registered
    rcases registered with ⟨-, rfl⟩ | ⟨-, rfl⟩ | ⟨question, -⟩ | ⟨-, rfl⟩ | ⟨answer, -⟩ | ⟨-, rfl⟩ |
      ⟨-, rfl⟩ | ⟨-, rfl⟩ | ⟨-, rfl⟩ | ⟨-, rfl⟩ | ⟨-, rfl⟩
    · exact absurd Behavior.neverAsks_start may
    · exact absurd Behavior.neverAsks_message may
    · exact .inl question
    · exact absurd Behavior.neverAsks_condition may
    · exact .inr answer
    · exact absurd (Behavior.neverAsks_act _) may
    · exact absurd Behavior.neverAsks_setVariable may
    · exact absurd Behavior.neverAsks_delay may
    · exact absurd (Behavior.neverAsks_fetch _) may
    · exact absurd Behavior.neverAsks_handoff may
    · exact absurd Behavior.neverAsks_finish may

end Registry

/-! ## Turns -/

namespace Turn

variable {registry : Registry} {d : Definition}

/-- The walk with its context as it is kept in the store. -/
def Walk.kept (w : Walk) (n : Int) (t : Moment) : Walk :=
  { w with context := w.context.kept n t }

/-- What a hop comes to, with its context as it is kept in the store. -/
def Hop.kept (n : Int) (t : Moment) : Hop → Hop
  | .ended o c => .ended o (c.kept n t)
  | .goesOn w => .goesOn (w.kept n t)

theorem hear_kept (w : Walk) (n : Int) (t now : Moment) (node : Node) (reply : Option String) :
    hear (w.kept n t) now node reply = (hear w now node reply).kept n t := by
  unfold hear
  cases given? reply <;> rfl

theorem settle_kept (node : Node) (w : Walk) (n : Int) (t : Moment) (o : Outcome) :
    settle d node (w.kept n t) o = (settle d node w o).kept n t := by
  unfold settle
  split
  · rfl
  · dsimp only
    split
    · rfl
    · cases nextNode? d node o <;> rfl

/-- A hop on a kept context is a hop on the context itself. -/
theorem hop_kept (plain : registry.IsPlain) (reply : Option String) (w : Walk) (n : Int) (t : Moment)
    (outside : Outside) :
    ∃ t', hop registry d reply (w.kept n t) outside =
      ((hop registry d reply w outside).1.kept n t', (hop registry d reply w outside).2) := by
  rw [hop_eq, hop_eq, show (w.kept n t).context.currentNodeId = w.context.currentNodeId from rfl]
  cases d.node? w.context.currentNodeId with
  | none => exact ⟨t, rfl⟩
  | some node =>
    have blind := (plain.behavior node.kind outside).blind
    dsimp only
    rw [hear_kept]
    generalize registry.behavior node.kind outside = b at blind ⊢
    generalize hear w outside.now node reply = heard
    obtain ⟨behavior, started⟩ := b
    dsimp only at blind ⊢
    rw [show (heard.kept n t).context = heard.context.kept n t from rfl, blind]
    rcases (behavior node heard.context reply).run started with ⟨f | o, left⟩
    · exact ⟨t, rfl⟩
    · refine ⟨outside.now, ?_⟩
      have absorbed : (heard.kept n t).absorb outside.now o
          = (heard.absorb outside.now o).kept n outside.now := rfl
      dsimp only
      rw [absorbed, settle_kept]

theorem hops_kept (plain : registry.IsPlain) (m : Nat) (reply : Option String) (w : Walk) (n : Int)
    (t : Moment) (outside : Outside) :
    ∃ t', hops registry d m reply (w.kept n t) outside =
      (((hops registry d m reply w outside).1.1, (hops registry d m reply w outside).1.2.kept n t'),
        (hops registry d m reply w outside).2) := by
  induction m generalizing reply w t outside with
  | zero => exact ⟨t, rfl⟩
  | succ m ih =>
    obtain ⟨t', first⟩ := hop_kept (d := d) plain reply w n t outside
    rw [hops_succ, hops_succ, first]
    rcases hop registry d reply w outside with ⟨⟨o, c⟩ | ⟨next⟩, left⟩
    · exact ⟨t', rfl⟩
    · exact ih none next t' left

/-- A turn on a kept context is a turn on the context itself. -/
theorem takeTurn_kept (plain : registry.IsPlain) (maxHops : Nat) (c : Context)
    (reply : Option String) (n : Int) (t : Moment) (outside : Outside) :
    ∃ t', takeTurn registry maxHops d (c.kept n t) reply outside =
      (((takeTurn registry maxHops d c reply outside).1.1,
          (takeTurn registry maxHops d c reply outside).1.2.kept n t'),
        (takeTurn registry maxHops d c reply outside).2) :=
  hops_kept plain maxHops reply (.start c) n t outside

/-- Of a definition a hop uses the nodes and the edges only. -/
theorem hop_graph {d' : Definition} (nodes : d'.version.nodes = d.version.nodes)
    (edges : d'.version.edges = d.version.edges) (reply : Option String) (w : Walk) :
    hop registry d' reply w = hop registry d reply w := by
  obtain ⟨flow, version⟩ := d
  obtain ⟨flow', version'⟩ := d'
  obtain ⟨_, _, _, _, _, _, _⟩ := version
  obtain ⟨_, _, _, _, _, _, _⟩ := version'
  cases nodes
  cases edges
  rfl

/-- Of a definition a turn uses the nodes and the edges only. -/
theorem takeTurn_graph {d' : Definition} (nodes : d'.version.nodes = d.version.nodes)
    (edges : d'.version.edges = d.version.edges) (maxHops : Nat) (c : Context)
    (reply : Option String) (outside : Outside) :
    takeTurn registry maxHops d' c reply outside = takeTurn registry maxHops d c reply outside := by
  suffices ∀ (m : Nat) (reply : Option String) (w : Walk) (outside : Outside),
      hops registry d' m reply w outside = hops registry d m reply w outside from
    this maxHops reply (.start c) outside
  intro m
  induction m with
  | zero => exact fun _ _ _ => rfl
  | succ m ih =>
    intro reply w outside
    rw [hops_succ, hops_succ, hop_graph nodes edges]
    rcases hop registry d reply w outside with ⟨_ | next, left⟩
    · rfl
    · exact ih none next left

/-- Of a definition a turn uses the version only. -/
theorem takeTurn_version {d' : Definition} (same : d'.version = d.version) (maxHops : Nat)
    (c : Context) (reply : Option String) (outside : Outside) :
    takeTurn registry maxHops d' c reply outside = takeTurn registry maxHops d c reply outside :=
  takeTurn_graph (congrArg Flow.Version.nodes same) (congrArg Flow.Version.edges same) maxHops c reply
    outside

end Turn

end ChatFlow
