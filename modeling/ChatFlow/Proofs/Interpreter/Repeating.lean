import ChatFlow.Proofs.Behavior.Matching
import ChatFlow.Proofs.Interpreter.Settling
import ChatFlow.Proofs.Interpreter.Transparency
import ChatFlow.Proofs.Interpreter.Turning
import ChatFlow.Proofs.Turn.Forgetting

/-!
Replies that a question does not recognise.

A question with options asks again for a blank reply and for one that chooses no option
(`Behavior.Ask.AsksAgain`). Such a reply is a stutter: the conversation stays where it stands, with the same
variables at the same node, and the session is the one of a context that has a longer history only
(`Interpreter.process_asksAgain`). By induction this holds of any number of such replies
(`Interpreter.answerAll_asksAgain`), and since no turn makes anything of the history (`Turn.takeTurn_alike`),
the reply after them is answered as it would have been without them
(`Interpreter.unrecognised_replies_stutter`).
-/

namespace ChatFlow

open ChatFlow.Flow (Node Definition Choice)

/-! ## Replies -/

namespace Behavior.Ask

variable {node : Node} {choices : List Choice} {name reply : String} {c : Context}

/-- The question asks again for the reply. -/
inductive AsksAgain (node : Node) (choices : List Choice) (c : Context) (reply : String) : Prop
  /-- The reply is blank, and the question can be put. -/
  | blank (given : isBlankReply (some reply) = true) (content : String)
    (filled : Template.fillValue? c.scope (node.setting "content") = .ok content)
  /-- The reply chooses no option. -/
  | unmatched (given : isBlankReply (some reply) = false) (none : choose? choices reply = .ok none)
    (retry : (node.setting "retryMessage").isPresent = false ∨
      ∃ text, node.setting "retryMessage" = .text text)

/-- The question then says one message and waits. -/
theorem answered_of_asksAgain (some_ : choices ≠ []) (again : AsksAgain node choices c reply) (now : Moment) :
    ∃ m, answered node choices name c now reply = .ok (.asking [m]) := by
  unfold answered
  cases again with
  | blank given content filled =>
    rw [given, if_pos rfl, filled]
    exact ⟨_, rfl⟩
  | unmatched given none retry =>
    have options : choices.isEmpty = false := by simpa using some_
    obtain ⟨m, said⟩ := fromSetting?_retry now node.id retry
    rw [given, if_neg Bool.false_ne_true, options, if_neg Bool.false_ne_true, none]
    dsimp only
    rw [said]
    exact ⟨m, rfl⟩

end Behavior.Ask

/-- The conversation of the context stands at a question with options. -/
structure Context.IsAtQuestion (c : Context) (d : Definition) (node : Node) (choices : List Choice) : Prop where
  flow : d.flow.id = some c.flowId
  version : d.version.id = some c.versionId
  found : d.node? c.currentNodeId = some node
  kind : node.kind = "question"
  valid : Behavior.Ask.choices? node = .ok choices
  some_ : choices ≠ []
  named : ∃ name, Behavior.Ask.variableName? node = .ok name

/-- Where a conversation stands does not depend on its history. -/
theorem Context.IsAtQuestion.of_standing {c c' : Context} {d : Definition} {node : Node} {choices : List Choice}
    (at_ : c.IsAtQuestion d node choices) (alike : c.standing = c'.standing) : c'.IsAtQuestion d node choices := by
  rw [eq_of_standing alike]
  exact ⟨at_.flow, at_.version, at_.found, at_.kind, at_.valid, at_.some_, at_.named⟩

theorem Behavior.Ask.AsksAgain.of_standing {node : Node} {choices : List Choice} {c c' : Context} {reply : String}
    (again : AsksAgain node choices c reply) (alike : c.standing = c'.standing) :
    AsksAgain node choices c' reply := by
  rw [Context.eq_of_standing alike]
  cases again with
  | blank given content filled => exact .blank given content filled
  | unmatched given none retry => exact .unmatched given none retry

/-! ## Turns -/

namespace Turn

variable {d : Definition} {node : Node} {choices : List Choice} {c : Context} {reply : String}

/-- A turn on a reply that the question asks again for says one message and moves nothing but the history and the
time. -/
theorem takeTurn_asksAgain (s : Services) {maxHops : Nat} (bound : 0 < maxHops)
    (at_ : c.IsAtQuestion d node choices) (again : Behavior.Ask.AsksAgain node choices c reply)
    (outside : Outside) :
    ∃ m said, takeTurn (.standard s) maxHops d c (some reply) outside
      = ((.asking [m], { c with history := c.history ++ said, lastActivityAt := outside.now }), outside) := by
  obtain ⟨n, rfl⟩ := Nat.exists_eq_succ_of_ne_zero (Nat.ne_of_gt bound)
  obtain ⟨name, named⟩ := at_.named
  have behavior : (Registry.standard s).behavior node.kind outside = (Behavior.question, outside) := by
    rw [at_.kind]
    rfl
  -- What the node is handed is the context with the reply in its history, which it does not read.
  obtain ⟨heard, hears⟩ : ∃ heard, hear (.start c) outside.now node (some reply)
      = .start { c with history := c.history ++ heard } := by
    unfold hear
    cases given? (some reply) with
    | none => exact ⟨[], by rw [List.append_nil]⟩
    | some text => exact ⟨_, rfl⟩
  have again' : Behavior.Ask.AsksAgain node choices { c with history := c.history ++ heard } reply :=
    again.of_standing rfl
  obtain ⟨m, answered⟩ := @Behavior.Ask.answered_of_asksAgain _ _ name _ _ at_.some_ again' outside.now
  have executed := Behavior.Ask.question_run at_.valid named { c with history := c.history ++ heard } reply outside
  rw [answered] at executed
  refine ⟨m, heard ++ [m], ?_⟩
  rw [takeTurn, hops_succ, hop_eq, show (Walk.start c).context.currentNodeId = c.currentNodeId from rfl, at_.found]
  dsimp only
  rw [behavior, hears]
  dsimp only
  rw [show (Walk.start { c with history := c.history ++ heard }).context
    = { c with history := c.history ++ heard } from rfl, executed, ← List.append_assoc]
  rfl

end Turn

/-! ## Answers -/

namespace Interpreter

variable {i : Interpreter} {d : Definition} {conv : String} {w : World} {a : Arrival} {c : Context}
  {node : Node} {choices : List Choice}

/-- The conversation has one session, that of the context. -/
def Holds (conv : String) (w : World) (c : Context) : Prop :=
  Mirrors conv w c w.outside

/-- What an answer leaves of its conversation: the session of the context if it waits, and none otherwise. -/
def Leaves (conv : String) (o : Outcome) (c : Context) (w : World) : Prop :=
  if o.waitingForInput then Holds conv w c else w.store.sessionsOf conv = []

theorem Mirrors.holds {outside : Outside} (mirrors : Mirrors conv w c outside) : Holds conv w c :=
  ⟨mirrors.conversation, rfl, mirrors.sessions⟩

/-- Under which number a context was loaded and when it was written does not matter to the session. -/
theorem Holds.kept (holds : Holds conv w c) (n : Int) (t : Moment) : Holds conv w (c.kept n t) :=
  ⟨holds.conversation, rfl, holds.sessions⟩

/-- Where a conversation is held that does not wait after its answer, no session is left. -/
theorem sessionsOf_of_not_waits {m : Inbound} (quiet : w.IsQuiet) {n : Int} (positive : 1 ≤ n) {s t : Moment}
    (held : w.store.sessionsOf m.conversationId = [c.document n s t])
    (idle : (i.process m w).1.waitingForInput = false) :
    (i.process m w).2.store.sessionsOf m.conversationId = [] := by
  have found := Store.session?_of_sessionsOf held
  have sound : w.store.IsSound m.conversationId := by
    refine ⟨Store.isKeyed_of_singleton held, fun doc here => ?_⟩
    cases found.symm.trans here
    exact ⟨_, c.withIdText?_document n s t⟩
  have settles := settles_of_counted i m quiet sound fun doc here => by
    cases found.symm.trans here
    exact ⟨n, positive, c.document_sequence n s t⟩
  have count := settles.sessions
  rw [idle] at count
  exact List.eq_nil_of_length_eq_zero count

/-- A message that finds its conversation is answered by the turn on its context, and what is left is the context
that the turn leaves. -/
theorem answer_of_finds (plain : i.registry.IsPlain) (finds : a.Finds i d conv w) (holds : Holds conv w c)
    (flow : d.flow.id = some c.flowId) (version : d.version.id = some c.versionId)
    (node : (d.node? c.currentNodeId).isSome = true) {o : Outcome} {later : Context} {left : Outside}
    (turn : Turn.takeTurn i.registry i.maxHops d c (some a.message.message) (a.gap.pass w).outside
      = ((o, later), left)) :
    ∃ c', c'.standing = later.standing ∧ c'.history = later.history ∧
      i.turned? a.message (a.gap.pass w) = some (o, c') ∧ (i.process a.message (a.gap.pass w)).1 = o ∧
      Leaves conv o c' (i.process a.message (a.gap.pass w)).2 := by
  obtain ⟨n, s, t, positive, held⟩ := holds.sessions
  obtain ⟨e, expires, unexpired⟩ := finds.unexpired _ (Store.session?_of_sessionsOf held)
  rw [c.document_expiresAt] at expires
  cases expires
  obtain ⟨d', bound, same⟩ := finds.bound c.flowId c.versionId flow version
  have node' : (d'.node? c.currentNodeId).isSome = true := by
    rw [Definition.node?, same]
    exact node
  have mine : c.conversationId = a.message.conversationId := holds.conversation.trans finds.conversation.symm
  rw [← finds.sessions, ← finds.conversation] at held
  obtain ⟨outcome, mirrors⟩ := process_resume plain finds.quiet mine positive held unexpired bound same node
    finds.timely turn
  obtain ⟨v, resumed, outside, -⟩ := resume_run finds.quiet (mine ▸ held) unexpired bound node'
  obtain ⟨t', kept⟩ := Turn.takeTurn_kept (d := d) plain i.maxHops c (some a.message.message) n s
    (a.gap.pass w).outside
  rw [turn] at kept
  refine ⟨later.kept n t', rfl, rfl, ?_, outcome, ?_⟩
  · unfold turned?
    rw [← mine, resumed]
    dsimp only
    rw [outside, Turn.takeTurn_version same, kept]
  · unfold Leaves
    rw [← finds.conversation]
    cases waits : o.waitingForInput with
    | true => exact (mirrors waits).holds.kept n t'
    | false => exact sessionsOf_of_not_waits finds.quiet positive held (outcome ▸ waits)

/-! ## Unrecognised replies -/

/-- A reply that a question asks again for is a stutter: the answer waits, and the session is the one of a context
that stands where it stood. -/
theorem process_asksAgain {s : Services} {maxHops : Nat} {hours : Int} (bound : 0 < maxHops)
    (at_ : c.IsAtQuestion d node choices) (holds : Holds conv w c)
    (finds : a.Finds (standard s maxHops hours) d conv w)
    (again : Behavior.Ask.AsksAgain node choices c a.message.message) :
    ∃ m c', ((standard s maxHops hours).process a.message (a.gap.pass w)).1 = .asking [m] ∧
      c'.standing = c.standing ∧ c.history <+: c'.history ∧
      Holds conv ((standard s maxHops hours).process a.message (a.gap.pass w)).2 c' := by
  obtain ⟨m, said, turn⟩ := Turn.takeTurn_asksAgain s bound at_ again (a.gap.pass w).outside
  have there : (d.node? c.currentNodeId).isSome = true := by
    rw [at_.found]
    rfl
  obtain ⟨c', stands, history, -, outcome, left⟩ := answer_of_finds (i := standard s maxHops hours)
    (Registry.isPlain_standard s) finds holds at_.flow at_.version there turn
  exact ⟨m, c', outcome, stands, history ▸ List.prefix_append _ _, left⟩

/-- The world after messages were answered one after another. -/
def afterAll (i : Interpreter) : World → List Arrival → World
  | w, [] => w
  | w, a :: rest => afterAll i (i.process a.message (a.gap.pass w)).2 rest

/-- Every message finds the conversation as the one before it left it. -/
def FindAll (i : Interpreter) (d : Definition) (conv : String) : World → List Arrival → Prop
  | _, [] => True
  | w, a :: rest => a.Finds i d conv w ∧ FindAll i d conv (i.process a.message (a.gap.pass w)).2 rest

/-- Any number of such replies is a stutter. -/
theorem answerAll_asksAgain {s : Services} {maxHops : Nat} {hours : Int} (bound : 0 < maxHops)
    (at_ : c.IsAtQuestion d node choices) (holds : Holds conv w c) {detour : List Arrival}
    (found : FindAll (standard s maxHops hours) d conv w detour)
    (again : ∀ a ∈ detour, Behavior.Ask.AsksAgain node choices c a.message.message) :
    (∀ answer ∈ (standard s maxHops hours).answerAll w detour, ∃ m c', answer.1 = .asking [m] ∧
      c'.standing = c.standing ∧ c.history <+: c'.history ∧ Holds conv answer.2 c') ∧
    ∃ c', c'.standing = c.standing ∧ Holds conv ((standard s maxHops hours).afterAll w detour) c' := by
  induction detour generalizing w c with
  | nil => exact ⟨fun _ none => absurd none List.not_mem_nil, c, rfl, holds⟩
  | cons a rest ih =>
    obtain ⟨m, c', outcome, stands, remembers, holds'⟩ :=
      process_asksAgain bound at_ holds found.1 (again a List.mem_cons_self)
    obtain ⟨answers, c'', stands', holds''⟩ := ih (at_.of_standing stands.symm) holds' found.2
      fun b here => (again b (List.mem_cons_of_mem a here)).of_standing stands.symm
    refine ⟨fun answer here => ?_, c'', stands'.trans stands, holds''⟩
    rcases List.mem_cons.mp here with rfl | later
    · exact ⟨m, c', outcome, stands, remembers, holds'⟩
    · obtain ⟨m', c₁, outcome', stands₁, remembers₁, holds₁⟩ := answers answer later
      exact ⟨m', c₁, outcome', stands₁.trans stands, remembers.trans remembers₁, holds₁⟩

/-- Unrecognised replies are stutter steps. Let a conversation stand at a question with options, and let
messages find it for which the question asks again. Each of them is answered with one message that waits, and
leaves the session of a context that stands where it stood, with a longer history. And a further message is
answered as it would have been without them, from the same clock and the same answers to come: the outcomes are
the same, and the contexts that the turns leave stand alike, as do those that the sessions hold. -/
theorem unrecognised_replies_stutter {s : Services} {maxHops : Nat} {hours : Int} (bound : 0 < maxHops)
    (at_ : c.IsAtQuestion d node choices) (holds : Holds conv w c) {detour : List Arrival}
    (found : FindAll (standard s maxHops hours) d conv w detour)
    (again : ∀ a ∈ detour, Behavior.Ask.AsksAgain node choices c a.message.message) :
    (∀ answer ∈ (standard s maxHops hours).answerAll w detour, ∃ m c', answer.1 = .asking [m] ∧
      c'.standing = c.standing ∧ c.history <+: c'.history ∧ Holds conv answer.2 c') ∧
    ∀ a b : Arrival, a.message.message = b.message.message →
      a.Finds (standard s maxHops hours) d conv ((standard s maxHops hours).afterAll w detour) →
      b.Finds (standard s maxHops hours) d conv w →
      (a.gap.pass ((standard s maxHops hours).afterAll w detour)).outside.ahead = (b.gap.pass w).outside.ahead →
      ∃ o c₁ c₂, c₁.standing = c₂.standing ∧
        (standard s maxHops hours).turned? a.message
          (a.gap.pass ((standard s maxHops hours).afterAll w detour)) = some (o, c₁) ∧
        (standard s maxHops hours).turned? b.message (b.gap.pass w) = some (o, c₂) ∧
        ((standard s maxHops hours).process a.message
          (a.gap.pass ((standard s maxHops hours).afterAll w detour))).1 = o ∧
        ((standard s maxHops hours).process b.message (b.gap.pass w)).1 = o ∧
        Leaves conv o c₁ ((standard s maxHops hours).process a.message
          (a.gap.pass ((standard s maxHops hours).afterAll w detour))).2 ∧
        Leaves conv o c₂ ((standard s maxHops hours).process b.message (b.gap.pass w)).2 := by
  obtain ⟨answers, c', stands, holds'⟩ := answerAll_asksAgain bound at_ holds found again
  refine ⟨answers, fun a b same finds finds' ahead => ?_⟩
  generalize (standard s maxHops hours).afterAll w detour = u at holds' finds ahead ⊢
  have plain : (standard s maxHops hours).registry.IsPlain := Registry.isPlain_standard s
  have there : (d.node? c.currentNodeId).isSome = true := by
    rw [at_.found]
    rfl
  have at_' := at_.of_standing stands.symm
  have there' : (d.node? c'.currentNodeId).isSome = true := by
    rw [at_'.found]
    rfl
  obtain ⟨outcome, stands_, -⟩ := Turn.takeTurn_alike (d := d) (Registry.forgets_standard s) maxHops
    (some a.message.message) stands ahead
  cases turn : Turn.takeTurn (.standard s) maxHops d c' (some a.message.message) (a.gap.pass u).outside with
  | mk result left =>
    cases turn' : Turn.takeTurn (.standard s) maxHops d c (some a.message.message) (b.gap.pass w).outside with
    | mk result' left' =>
      obtain ⟨o, later⟩ := result
      obtain ⟨o', later'⟩ := result'
      rw [turn, turn'] at outcome stands_
      cases outcome
      rw [same] at turn'
      obtain ⟨c₁, alike, -, made, answer, leaves⟩ := answer_of_finds plain finds holds' at_'.flow at_'.version
        there' turn
      obtain ⟨c₂, alike', -, made', answer', leaves'⟩ := answer_of_finds plain finds' holds at_.flow at_.version
        there turn'
      exact ⟨o, c₁, c₂, alike.trans (stands_.trans alike'.symm), made, made', answer, answer', leaves, leaves'⟩

end Interpreter

/-! ## A conversation about colors -/

namespace Sample

open Interpreter

/-- Asks for a color, and ends. -/
def colorful : Definition :=
  ⟨flow, { version with nodes := [colors, ⟨"bye", "end", [], []⟩] }⟩

/-- The conversation has been asked for a color. -/
def choosing : World :=
  { world [session] with cache := [("greeting:v1", colorful)] }

theorem isAtQuestion_colors : context.IsAtQuestion colorful colors colorChoices where
  flow := rfl
  version := rfl
  found := by with_unfolding_all rfl
  kind := rfl
  valid := choices_colors
  some_ := by decide
  named := ⟨"color", by with_unfolding_all rfl⟩

theorem holds_choosing : Holds "chat" choosing context :=
  ⟨rfl, rfl, 1, noon, nextNoon, Int.le_refl 1, by with_unfolding_all rfl⟩

/-- A message finds its conversation if the definition is in memory and noon has not passed. -/
theorem finds_still {w : World} {text : String} (quiet : w.IsQuiet)
    (expires : (w.store.session? "chat").bind (·.lookup "expires_at") = some (.date nextNoon))
    (now : w.now = noon) (later : ((interpreter 24).process (message text) w).2.now = noon)
    (bound : ((Library.load "greeting" (some "v1")).run w.joined).1 = .ok (some colorful)) :
    Arrival.Finds ⟨still, message text⟩ (interpreter 24) colorful "chat" w where
  conversation := rfl
  quiet := quiet
  sessions := rfl
  unexpired := by
    intro doc found
    rw [found] at expires
    refine ⟨nextNoon, expires, ?_⟩
    rw [pass_still, now]
    decide +kernel
  bound := by
    intro f v flow version
    cases flow
    cases version
    exact ⟨colorful, bound, rfl⟩
  timely := ⟨nextNoon, by rw [pass_still, later]; exact expiry_noon⟩

/-- The world after an answer that is no option. -/
def puzzled : World := ((interpreter 24).process (message "green") choosing).2

/-- The world after a blank answer to the same question. -/
def silent : World := ((interpreter 24).process (message " ") puzzled).2

/-- After an answer that is no option and a blank one, a color is taken as if it had come first. -/
theorem unrecognised_replies_stutter_green :
    ∃ o c₁ c₂, c₁.standing = c₂.standing ∧ c₁.vars = [("color", .text "red")] ∧
      (interpreter 24).turned? (message "red") silent = some (o, c₁) ∧
      (interpreter 24).turned? (message "red") choosing = some (o, c₂) := by
  have green : Arrival.Finds ⟨still, message "green"⟩ (interpreter 24) colorful "chat" choosing :=
    finds_still rfl (by with_unfolding_all rfl) rfl (by decide +kernel) (by with_unfolding_all rfl)
  have blank : Arrival.Finds ⟨still, message " "⟩ (interpreter 24) colorful "chat" puzzled :=
    finds_still (by with_unfolding_all rfl) (by with_unfolding_all rfl) (by decide +kernel) (by decide +kernel)
      (by with_unfolding_all rfl)
  have red : Arrival.Finds ⟨still, message "red"⟩ (interpreter 24) colorful "chat" silent :=
    finds_still (by with_unfolding_all rfl) (by with_unfolding_all rfl) (by decide +kernel) (by decide +kernel)
      (by with_unfolding_all rfl)
  have red' : Arrival.Finds ⟨still, message "red"⟩ (interpreter 24) colorful "chat" choosing :=
    finds_still rfl (by with_unfolding_all rfl) rfl (by decide +kernel) (by with_unfolding_all rfl)
  have again : ∀ a ∈ [(⟨still, message "green"⟩ : Arrival), ⟨still, message " "⟩],
      Behavior.Ask.AsksAgain colors colorChoices context a.message.message := by
    simp only [List.forall_mem_cons]
    exact ⟨.unmatched (by decide +kernel) (by with_unfolding_all rfl) (.inl (by decide +kernel)),
      .blank (by decide +kernel) "Pick one" (by with_unfolding_all rfl),
      fun _ none => absurd none List.not_mem_nil⟩
  have found : FindAll (standard services 50 24) colorful "chat" choosing
      [⟨still, message "green"⟩, ⟨still, message " "⟩] := ⟨green, blank, trivial⟩
  obtain ⟨-, anew⟩ := unrecognised_replies_stutter (by decide) isAtQuestion_colors holds_choosing found again
  obtain ⟨o, c₁, c₂, alike, made, made', -⟩ := anew ⟨still, message "red"⟩ ⟨still, message "red"⟩ rfl red red'
    (by with_unfolding_all rfl)
  have vars : ((interpreter 24).turned? (message "red") silent).map (·.2.vars)
      = some [("color", .text "red")] := by with_unfolding_all rfl
  refine ⟨o, c₁, c₂, alike, ?_, made, made'⟩
  rw [show (interpreter 24).turned? (message "red") silent = some (o, c₁) from made] at vars
  exact Option.some.inj vars

/-- A superscript chooses no option either, and the conversation is gone after it. -/
theorem superscript_is_no_stutter :
    Holds "chat" choosing context ∧
      Arrival.Finds ⟨still, message "²"⟩ (interpreter 24) colorful "chat" choosing ∧
      (∀ o, Behavior.Ask.choose? colorChoices "²" ≠ .ok (some o)) ∧
      ((interpreter 24).process (message "²") choosing).2.store.sessionsOf "chat" = [] := by
  refine ⟨holds_choosing, finds_still rfl (by with_unfolding_all rfl) rfl (by decide +kernel)
    (by with_unfolding_all rfl), ?_, by with_unfolding_all rfl⟩
  have fails : Behavior.Ask.choose? colorChoices "²" = .error (.badInteger "²") := by with_unfolding_all rfl
  intro o takes
  cases fails.symm.trans takes

end Sample

end ChatFlow
