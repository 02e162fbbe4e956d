import ChatFlow.Proofs.Channel.Writing
import ChatFlow.Proofs.Turn.Standard

/-!
What the outcomes of turns carry beside their texts.

The messages of the built-in behaviors come without data, with the options of a question, or with the
seconds of a pause; a handoff takes the variables of its conversation along. So the data of a message can
always be written, and for a handoff it depends on the variables alone (`Outcome.Carries`). A turn says what
its nodes say, and an apology without data (`Turn.takeTurn_carries`).
-/

namespace ChatFlow

open ChatFlow.Flow (Node Definition)

/-- The variables that the handoff takes along. -/
def Handoff.vars (h : Handoff) : Value :=
  Entries.getD (h.metadata.getD []) "variables"

/-- The data of the message can be written. -/
def Message.IsWritable (m : Message) : Prop :=
  ∀ data, m.metadata = some data → (Value.dict data).IsWritable

/-- The data of the handoff can be written. -/
def Handoff.IsWritable (h : Handoff) : Prop :=
  ∀ data, h.metadata = some data → (Value.dict data).IsWritable

/-- Of what the outcome carries, the variables of a handoff alone decide whether it can be written. -/
structure Outcome.Carries (o : Outcome) : Prop where
  messages : ∀ m ∈ o.messages, m.IsWritable
  handoff : ∀ h, o.handoff = some h → (h.IsWritable ↔ h.vars.IsWritable)

/-! ## Messages and handoffs -/

theorem Message.isWritable_of_bare {m : Message} (bare : m.metadata = none) : m.IsWritable := by
  intro data there
  rw [bare] at there
  cases there

theorem Outcome.Carries.of_bare {o : Outcome} (bare : ∀ m ∈ o.messages, m.metadata = none)
    (kept : o.handoff = none) : o.Carries where
  messages m said := Message.isWritable_of_bare (bare m said)
  handoff h given := by
    rw [kept] at given
    cases given

/-- An outcome with one message and no handoff. -/
theorem Outcome.Carries.of_message {o : Outcome} {m : Message} (one : o.messages = [m])
    (writable : m.IsWritable) (kept : o.handoff = none) : o.Carries where
  messages m' said := by
    rw [one, List.mem_singleton] at said
    exact said ▸ writable
  handoff h given := by
    rw [kept] at given
    cases given

/-- A handoff has the metadata that it is read from. -/
theorem Handoff.metadata_of_read {reason priority : Value} {data : Entries} {h : Handoff}
    (given : (Handoff.read (.dict [("reason", reason), ("priority", priority),
      ("metadata", .dict data)])).toExcept Handoff.title = .ok h) : h.metadata = some data := by
  have fields : Handoff.read (.dict [("reason", reason), ("priority", priority),
      ("metadata", .dict data)]) =
      Handoff.mk <$> (Schema.text reason).under (.name "reason")
        <*> (Schema.nullable Schema.text priority).under (.name "priority")
        <*> .valid (some data) := rfl
  rw [fields] at given
  generalize (Schema.text reason).under (.name "reason") = r at given
  generalize (Schema.nullable Schema.text priority).under (.name "priority") = p at given
  cases r with
  | invalid issues => cases p <;> cases given
  | valid r =>
    cases p with
    | invalid issues => cases given
    | valid p =>
      cases given
      rfl

namespace Behavior

open Service (gives_bind gives_bind_of gives_ofExcept gives_pure gives_throw)

/-- The options of a question can always be written. -/
theorem isWritable_choices {m : Message} {choices : List Flow.Choice}
    (shown : m.metadata = Ask.choicesMetadata choices) : m.IsWritable := by
  intro data there
  rw [shown] at there
  unfold Ask.choicesMetadata at there
  split at there
  · cases there
  · cases there
    rw [Value.isWritable_dict, List.forall_mem_singleton, Value.isWritable_list, List.forall_mem_map]
    intro c _
    rw [Value.isWritable_dict]
    simp only [List.forall_mem_cons]
    exact ⟨Value.isWritable_text _, Value.isWritable_text _, Value.isWritable_text _,
      fun _ none => nomatch none⟩

/-- So can the seconds of a pause, finite or not. -/
theorem isWritable_pauseMessage (now : Moment) (node : Node) (seconds : Float) :
    (pauseMessage now node seconds).IsWritable := by
  intro data there
  cases there
  rw [Value.isWritable_dict]
  simp only [List.forall_mem_cons]
  exact ⟨Value.isWritable_text _, Value.isWritable_float _, fun _ here => absurd here List.not_mem_nil⟩

theorem isWritable_handoffOf? {node : Node} {c : Context} {h : Handoff}
    (given : handoffOf? node c = .ok h) : h.IsWritable ↔ h.vars.IsWritable := by
  have metadata := Handoff.metadata_of_read given
  have vars : h.vars = c.scope := by
    rw [Handoff.vars, metadata]
    rfl
  have decides : (Value.dict [("node_id", .text node.id), ("flow_id", .text c.flowId),
      ("variables", c.scope)]).IsWritable ↔ c.scope.IsWritable := by
    rw [Value.isWritable_dict]
    simp only [List.forall_mem_cons]
    exact ⟨fun parts => parts.2.2.1, fun writable => ⟨Value.isWritable_text _, Value.isWritable_text _,
      writable, fun _ here => absurd here List.not_mem_nil⟩⟩
  rw [vars]
  constructor
  · exact fun writable => decides.mp (writable _ metadata)
  · intro writable data there
    cases metadata.symm.trans there
    exact decides.mpr writable

/-! ## Behaviors -/

/-- Of what the behavior gives, only the variables of a handoff decide whether it can be written. -/
def Carries (b : Behavior) : Prop :=
  ∀ (node : Node) (c : Context) (reply : Option String), (b node c reply).Gives Outcome.Carries

/-- An outcome that says nothing and hands nothing over. -/
theorem carries_silent {o : Outcome} (silent : o.messages = []) (kept : o.handoff = none) : o.Carries :=
  .of_bare (fun m said => by rw [silent] at said; cases said) kept

/-- An outcome with a text of the bot. -/
theorem carries_text {o : Outcome} {now : Moment} {text : String} {id : Option String}
    (one : o.messages = [.ofBot now text id]) (kept : o.handoff = none) : o.Carries :=
  .of_message one (Message.isWritable_of_bare rfl) kept

theorem carries_start : start.Carries := fun _ _ _ => gives_pure (carries_silent rfl rfl)

theorem carries_message : message.Carries := fun _ _ _ =>
  gives_bind fun _ => gives_bind fun _ => gives_pure (carries_text rfl rfl)

theorem carries_question : question.Carries := by
  intro node c reply
  unfold question
  refine gives_bind fun choices => gives_bind fun variableName => ?_
  split
  · exact gives_bind fun content => gives_bind fun now =>
      gives_pure (.of_message rfl (isWritable_choices rfl) rfl)
  · dsimp only
    split
    · exact gives_pure (carries_silent rfl rfl)
    · refine gives_bind fun choice => ?_
      cases choice with
      | some c => exact gives_pure (carries_silent rfl rfl)
      | none =>
        refine gives_bind fun now => gives_bind_of (Q := fun m => m.metadata = none) ?_ fun m bare =>
          gives_pure (.of_message rfl (Message.isWritable_of_bare bare) rfl)
        refine gives_ofExcept fun m read => ?_
        unfold Message.fromSetting? at read
        split at read
        · cases read
          rfl
        · cases read

theorem carries_condition : condition.Carries := by
  intro node c reply
  unfold condition
  refine gives_bind fun rules => gives_bind fun first => ?_
  cases first with
  | some rule => exact gives_pure (carries_silent rfl rfl)
  | none => exact gives_bind fun next => gives_pure (carries_silent rfl rfl)

theorem carries_answer (generator : TextGenerator) : (answer generator).Carries := by
  intro node c reply
  unfold answer
  refine gives_bind fun settings => ?_
  dsimp only
  split
  · exact gives_bind fun prompt => gives_bind fun now => gives_pure (carries_text rfl rfl)
  · refine gives_bind fun text => ?_
    cases text with
    | ok text => exact gives_bind fun now => gives_pure (carries_text rfl rfl)
    | error f => exact gives_bind fun _ => gives_bind fun now => gives_pure (carries_text rfl rfl)

theorem carries_act (reach : Act.Reach) : (act reach).Carries := fun _ _ _ =>
  gives_bind fun _ => gives_bind fun _ => gives_bind fun _ => gives_pure (carries_silent rfl rfl)

theorem carries_setVariable : setVariable.Carries := by
  intro node c reply
  unfold setVariable
  dsimp only
  split
  · exact gives_pure (carries_silent rfl rfl)
  · exact gives_bind fun assignment => gives_bind fun filled => gives_bind fun value =>
      gives_pure (carries_silent rfl rfl)

theorem carries_delay : delay.Carries := by
  intro node c reply
  unfold delay
  refine gives_bind fun seconds => ?_
  cases seconds with
  | none => exact gives_bind fun _ => gives_bind fun _ => gives_pure (carries_silent rfl rfl)
  | some seconds =>
    dsimp only
    split
    · exact gives_pure (carries_silent rfl rfl)
    · exact gives_bind fun now => gives_pure (.of_message rfl (isWritable_pauseMessage now node seconds) rfl)

theorem carries_answered (name : String) (status : Int) (body : String) :
    (Fetch.answered name status body).Carries := by
  unfold Fetch.answered
  split <;> exact carries_silent rfl rfl

theorem carries_fetch (timeout : Quantity) : (fetch timeout).Carries := by
  intro node c reply
  unfold fetch
  dsimp only
  split
  · exact gives_pure (carries_silent rfl rfl)
  · refine gives_bind fun answer => ?_
    cases answer with
    | ok answer =>
      obtain ⟨status, body⟩ := answer
      have answered := carries_answered (Fetch.responseVariable (node.setting "apiConfig")) status body
      dsimp only
      split
      · exact gives_bind fun _ => gives_pure answered
      · exact gives_pure answered
    | error f =>
      dsimp only
      split
      · exact gives_bind fun _ => gives_bind fun _ => gives_pure (carries_silent rfl rfl)
      · exact gives_bind fun _ => gives_pure (carries_silent rfl rfl)

theorem carries_handoff : handoff.Carries := by
  intro node c reply
  unfold handoff
  refine gives_bind fun content => gives_bind_of (Q := fun h => h.IsWritable ↔ h.vars.IsWritable)
    (gives_ofExcept fun h given => isWritable_handoffOf? given) fun h decides => gives_bind fun now =>
      gives_pure ⟨fun m said => Message.isWritable_of_bare ?_, fun h' same => Option.some.inj same ▸ decides⟩
  rw [List.mem_singleton.mp said]
  rfl

theorem carries_finish : finish.Carries := by
  intro node c reply
  unfold finish
  dsimp only
  split
  · exact gives_bind fun content => gives_bind fun now => gives_pure (carries_text rfl rfl)
  · exact gives_pure (carries_silent rfl rfl)

end Behavior

namespace Registry

/-- All behaviors of the registry carry what the built-in ones do. -/
def Carries (r : Registry) : Prop :=
  ∀ b ∈ r.fallback :: r.behaviors.map Prod.snd, b.Carries

theorem carries_standard (s : Services) : (standard s).Carries := by
  rw [Carries, fallback_standard, behaviors_standard]
  simp only [List.forall_mem_cons]
  exact ⟨Behavior.carries_message, Behavior.carries_start, Behavior.carries_message,
    Behavior.carries_question, Behavior.carries_condition, Behavior.carries_answer _,
    Behavior.carries_act _, Behavior.carries_setVariable, Behavior.carries_delay,
    Behavior.carries_fetch _, Behavior.carries_handoff, Behavior.carries_finish,
    fun _ none => nomatch none⟩

end Registry

/-! ## Turns -/

namespace Turn

variable {registry : Registry} {d : Definition}

/-- What was said on the way can be written. -/
def Walk.Carries (w : Walk) : Prop :=
  ∀ m ∈ w.messages, m.IsWritable

/-- What a hop comes to carries no more. -/
def Hop.Carries : Hop → Prop
  | .ended o _ => o.Carries
  | .goesOn w => w.Carries

theorem Walk.Carries.hear {w : Walk} (carries : w.Carries) (now : Moment) (node : Node)
    (reply : Option String) : (hear w now node reply).Carries := by
  unfold Turn.hear
  cases given? reply <;> exact carries

theorem Walk.Carries.absorb {w : Walk} {o : Outcome} (carries : w.Carries) (said : o.Carries)
    (now : Moment) : (w.absorb now o).Carries := by
  intro m there
  rcases List.mem_append.mp there with before | new
  · exact carries m before
  · exact said.messages m new

theorem Walk.Carries.failure {w : Walk} (carries : w.Carries) (now : Moment) (text : String)
    (id : Option String) (completed : Bool) (error : String) :
    (w.failure (.ofBot now text id) completed error).Carries where
  messages m there := by
    rcases List.mem_append.mp there with before | apology
    · exact carries m before
    · exact Message.isWritable_of_bare (List.mem_singleton.mp apology ▸ rfl)
  handoff h given := nomatch given

theorem settle_carries {node : Node} {w : Walk} {o : Outcome} (carries : w.Carries) (said : o.Carries) :
    (settle d node w o).Carries := by
  unfold settle
  split
  · exact ⟨carries, nofun⟩
  · dsimp only
    split
    · exact ⟨carries, said.handoff⟩
    · cases nextNode? d node o with
      | none => exact ⟨carries, said.handoff⟩
      | some id => exact carries

theorem hop_carries (known : registry.Carries) {w : Walk} (carries : w.Carries) (reply : Option String)
    (outside : Outside) : (hop registry d reply w outside).1.Carries := by
  rw [hop_eq]
  cases d.node? w.context.currentNodeId with
  | none => exact carries.failure _ _ _ _ _
  | some node =>
    have heard := carries.hear outside.now node reply
    have behaves := Registry.behavior_of_forall known node.kind outside
    dsimp only
    generalize registry.behavior node.kind outside = b at behaves ⊢
    obtain ⟨behavior, started⟩ := b
    dsimp only at behaves ⊢
    cases executed : (behavior node (hear w outside.now node reply).context reply).run started with
    | mk result left =>
      cases result with
      | error f => exact heard.failure _ _ _ _ _
      | ok o =>
        have said : o.Carries := behaves node _ reply started o left executed
        exact settle_carries (heard.absorb said outside.now) said

theorem hops_carries (known : registry.Carries) (n : Nat) (reply : Option String) {w : Walk}
    (carries : w.Carries) (outside : Outside) : (hops registry d n reply w outside).1.1.Carries := by
  induction n generalizing reply w outside with
  | zero => exact carries.failure _ _ _ _ _
  | succ n ih =>
    have first := hop_carries (d := d) known carries reply outside
    rw [hops_succ]
    generalize hop registry d reply w outside = r at first ⊢
    obtain ⟨⟨o, c⟩ | ⟨next⟩, left⟩ := r
    · exact first
    · exact ih none first left

/-- A turn carries what its nodes do. -/
theorem takeTurn_carries (known : registry.Carries) (maxHops : Nat) (c : Context)
    (reply : Option String) (outside : Outside) :
    (takeTurn registry maxHops d c reply outside).1.1.Carries :=
  hops_carries known maxHops reply (w := .start c) (fun _ none => nomatch none) outside

end Turn

end ChatFlow
