import ChatFlow.Behavior.Ask
import ChatFlow.Proofs.Decimal.Integers
import ChatFlow.Proofs.Interpreter.Answering
import ChatFlow.Proofs.Turn.Standard

/-!
Which replies a question takes.

A question whose options are valid answers a reply by asking once more or by setting one variable, unless the
reply baffles it: no option has the reply as its value or label, and the reply looks like a number but cannot
be read as one. Superscripts and circled digits do, since they are digits but not decimal, and so do numerals
of more than `Decimal.digitLimit` digits. These are the only replies on which a question fails, apart from
faults of its own settings (`Behavior.question_replies_iff`).
-/

namespace ChatFlow

open ChatFlow.Flow (Node Choice)

namespace Outcome

/-- The outcome asks: it waits, with one message, and sets nothing. -/
def Asks (o : Outcome) : Prop :=
  o.waitingForInput = true ∧ o.messages.length = 1 ∧ o.vars = none

/-- The outcome takes a reply: it goes on without a message, and sets exactly one variable. -/
def Accepts (o : Outcome) : Prop :=
  o.waitingForInput = false ∧ o.completed = false ∧ o.messages = [] ∧
    ∃ name value, o.vars = some [(name, value)]

theorem asks_asking (m : Message) : (asking [m]).Asks := ⟨rfl, rfl, rfl⟩

theorem accepts_setting (name : String) (value : Value) : (setting [(name, value)]).Accepts :=
  ⟨rfl, rfl, rfl, name, value, rfl⟩

end Outcome

namespace Behavior

namespace Ask

variable {node : Node} {choices : List Choice} {name : String} {reply : List Char}

/-! ## Reading the number of an option -/

/-- The reply looks like a number and cannot be read as one: it has digits that are not decimal, or too many
digits. -/
def isUnreadable (reply : List Char) : Bool :=
  looksNumeric reply && (reply.any (!Text.isDecimal ·) || Decimal.digitLimit < reply.length)

/-- No option has the reply as its value or label, and the reply is an unreadable number. -/
def baffles (choices : List Choice) (reply : List Char) : Bool :=
  choices.all (!isNamedBy reply ·) && isUnreadable reply

theorem numbered?_isOk_iff : (∃ r, numbered? choices reply = .ok r) ↔ isUnreadable reply = false := by
  unfold numbered? isUnreadable
  cases numeric : looksNumeric reply with
  | false => simp
  | true =>
    rw [looksNumeric, Bool.and_eq_true, List.all_eq_true] at numeric
    have nonempty : reply ≠ [] := by
      rintro rfl
      cases numeric.1
    have reads := Decimal.readInteger_digits_iff nonempty numeric.2
    have readable : (reply.any (!Text.isDecimal ·) || decide (Decimal.digitLimit < reply.length)) = false ↔
        (∀ c ∈ reply, Text.isDecimal c = true) ∧ reply.length ≤ Decimal.digitLimit := by
      simp
    rw [Bool.true_and, readable, ← reads]
    cases read : Decimal.readInteger (String.ofList reply) with
    | ok n => exact iff_of_true ⟨_, rfl⟩ ⟨n, rfl⟩
    | error fault => cases fault <;> exact iff_of_false nofun nofun

/-- Choosing an option fails exactly on the replies that baffle. -/
theorem choose?_isOk_iff {reply : String} :
    (∃ r, choose? choices reply = .ok r) ↔ baffles choices (normalized reply) = false := by
  unfold choose? baffles
  dsimp only
  cases named : choices.find? (isNamedBy (normalized reply)) with
  | some choice =>
    have listed : choices.all (!isNamedBy (normalized reply) ·) = false := by
      rw [List.all_eq_false]
      exact ⟨choice, List.mem_of_find?_eq_some named, by simp [List.find?_some named]⟩
    rw [listed]
    exact iff_of_true ⟨_, rfl⟩ rfl
  | none =>
    have unnamed : choices.all (!isNamedBy (normalized reply) ·) = true := by
      simpa using List.find?_eq_none.mp named
    rw [unnamed, Bool.true_and, ← @numbered?_isOk_iff choices]
    rcases numbered? choices (normalized reply) with f | _ | choice
    · exact iff_of_false nofun nofun
    · exact iff_of_true ⟨_, rfl⟩ ⟨_, rfl⟩
    · exact iff_of_true ⟨_, rfl⟩ ⟨_, rfl⟩

/-! ## Answering a reply -/

/-- What a question with these options gives for a reply, at this time. -/
def answered (node : Node) (choices : List Choice) (name : String) (c : Context) (now : Moment)
    (reply : String) : Except Failure Outcome :=
  if isBlankReply (some reply) then
    (Template.fillValue? c.scope (node.setting "content")).map fun content =>
      .asking [{ Message.ofBot now content (some node.id) with metadata := choicesMetadata choices }]
  else if choices.isEmpty then .ok (.setting [(name, .text (Text.trim reply))])
  else
    match choose? choices reply with
    | .error f => .error f
    | .ok (some choice) =>
      .ok { Outcome.setting [(name, .text choice.value)] with
        nextNodeId := choice.nextNodeId
        sourceHandle := some choice.id }
    | .ok none =>
      (Message.fromSetting? now ((node.setting "retryMessage").orElse (.text defaultRetryMessage)) node.id).map
        fun m => .asking [m]

/-- A question looks at nothing but the clock, and changes nothing. -/
theorem question_run (valid : choices? node = .ok choices) (named : variableName? node = .ok name)
    (c : Context) (reply : String) (outside : Outside) :
    (question node c (some reply)).run outside
      = (answered node choices name c outside.now reply, outside) := by
  unfold question answered
  rw [valid, named, Service.run_ofExcept_bind]
  dsimp only
  rw [Service.run_ofExcept_bind]
  dsimp only [Option.getD_some]
  cases isBlankReply (some reply) with
  | true => cases Template.fillValue? c.scope (node.setting "content") <;> rfl
  | false =>
    cases choices.isEmpty with
    | true => rfl
    | false =>
      rcases choose? choices reply with f | _ | choice
      · rfl
      · cases (node.setting "retryMessage").orElse (.text defaultRetryMessage) <;> rfl
      · rfl

/-- What a question gives for a reply asks again or takes the reply. -/
theorem asks_or_accepts {c : Context} {now : Moment} {reply : String} {o : Outcome}
    (gives : answered node choices name c now reply = .ok o) : o.Asks ∨ o.Accepts := by
  unfold answered at gives
  split at gives
  · cases content : Template.fillValue? c.scope (node.setting "content") with
    | error f =>
      rw [content] at gives
      cases gives
    | ok text =>
      rw [content] at gives
      cases gives
      exact .inl (Outcome.asks_asking _)
  split at gives
  · cases gives
    exact .inr (Outcome.accepts_setting _ _)
  split at gives
  · cases gives
  · cases gives
    exact .inr ⟨rfl, rfl, rfl, _, _, rfl⟩
  · generalize (node.setting "retryMessage").orElse (.text defaultRetryMessage) = retry at gives
    cases retry with
    | text said =>
      cases gives
      exact .inl (Outcome.asks_asking _)
    | _ => cases gives

/-- The text of a retry can be said if it is a text or absent. -/
theorem fromSetting?_retry (now : Moment) (nodeId : String) {retry : Value}
    (isText : retry.isPresent = false ∨ ∃ text, retry = .text text) :
    ∃ m, Message.fromSetting? now (retry.orElse (.text defaultRetryMessage)) nodeId = .ok m := by
  unfold Value.orElse
  rcases isText with absent | ⟨text, rfl⟩
  · rw [absent, if_neg Bool.false_ne_true]
    exact ⟨.ofBot now defaultRetryMessage (some nodeId), rfl⟩
  · split
    · exact ⟨.ofBot now text (some nodeId), rfl⟩
    · exact ⟨.ofBot now defaultRetryMessage (some nodeId), rfl⟩

/-- A question with a variable to set gives something exactly if, for a blank reply, its text can be filled
in, and any other reply does not baffle it. -/
theorem answered_isOk_iff (retry : (node.setting "retryMessage").isPresent = false ∨
      ∃ text, node.setting "retryMessage" = .text text) (c : Context) (now : Moment) (reply : String) :
    (∃ o, answered node choices name c now reply = .ok o) ↔
      if isBlankReply (some reply) then
        ∃ text, Template.fillValue? c.scope (node.setting "content") = .ok text
      else choices = [] ∨ baffles choices (normalized reply) = false := by
  unfold answered
  split
  · cases Template.fillValue? c.scope (node.setting "content") with
    | error f => simp [Except.map]
    | ok text => simp [Except.map]
  · rw [← choose?_isOk_iff, ← List.isEmpty_iff]
    cases choices.isEmpty with
    | true => exact iff_of_true ⟨_, rfl⟩ (.inl rfl)
    | false =>
      rcases choose? choices reply with f | _ | choice
      · simp
      · obtain ⟨m, said⟩ := fromSetting?_retry now node.id retry
        rw [said]
        exact iff_of_true ⟨_, rfl⟩ (.inr ⟨_, rfl⟩)
      · exact iff_of_true ⟨_, rfl⟩ (.inr ⟨_, rfl⟩)

/-- A question without a variable to set fails. -/
theorem question_run_of_error {f : Failure} (valid : choices? node = .ok choices)
    (unnamed : variableName? node = .error f) (c : Context) (reply : Option String) (outside : Outside) :
    (question node c reply).run outside = (.error f, outside) := by
  unfold question
  rw [valid, Service.run_ofExcept_bind, unnamed]
  rfl

end Ask

/-- A question whose options are valid asks again or takes the reply, setting one variable, exactly if the
name of its variable can be told and
* for a blank reply, its own text can be filled in;
* for any other, it has no options or the reply does not baffle it. -/
theorem question_replies_iff {node : Node} {choices : List Choice} (valid : Ask.choices? node = .ok choices)
    (retry : (node.setting "retryMessage").isPresent = false ∨
      ∃ text, node.setting "retryMessage" = .text text)
    (c : Context) (reply : String) (outside : Outside) :
    (∃ o, (question node c (some reply)).run outside = (.ok o, outside) ∧ (o.Asks ∨ o.Accepts)) ↔
      (∃ name, Ask.variableName? node = .ok name) ∧
        if Ask.isBlankReply (some reply) then
          ∃ text, Template.fillValue? c.scope (node.setting "content") = .ok text
        else choices = [] ∨ Ask.baffles choices (Ask.normalized reply) = false := by
  cases named : Ask.variableName? node with
  | error f =>
    rw [Ask.question_run_of_error valid named]
    exact iff_of_false (by rintro ⟨o, gives, -⟩; cases gives) (by rintro ⟨⟨name, named⟩, -⟩; cases named)
  | ok name =>
    rw [Ask.question_run valid named, ← @Ask.answered_isOk_iff _ choices name retry c outside.now reply]
    constructor
    · rintro ⟨o, gives, -⟩
      exact ⟨⟨name, rfl⟩, o, (Prod.mk.inj gives).1⟩
    · rintro ⟨-, o, gives⟩
      exact ⟨o, by rw [gives], Ask.asks_or_accepts gives⟩

end Behavior

/-! ## A question with two options -/

namespace Sample

open Behavior

/-- Asks for a color. -/
def colors : Node where
  id := "ask"
  kind := "question"
  data := [("content", .text "Pick one"), ("variable", .text "color"), ("options", .list [
    .dict [("id", .text "opt-red"), ("label", .text "Red color"), ("value", .text "red")],
    .dict [("id", .text "opt-blue"), ("label", .text "Blue color"), ("value", .text "blue")]])]
  extra := []

/-- The options of the question. -/
def colorChoices : List Choice :=
  [⟨"opt-red", "Red color", "red", none, []⟩, ⟨"opt-blue", "Blue color", "blue", none, []⟩]

theorem choices_colors : Ask.choices? colors = .ok colorChoices := by
  with_unfolding_all rfl

/-- A two of another script chooses the second option, and a superscript two baffles the question. -/
theorem question_replies_iff_colors :
    Ask.choices? colors = .ok colorChoices ∧ (colors.setting "retryMessage").isPresent = false ∧
      (∃ o, (question colors context (some "٢")).run (world []).outside = (.ok o, (world []).outside) ∧
        (o.Asks ∨ o.Accepts)) ∧
      ¬ ∃ o, (question colors context (some "²")).run (world []).outside = (.ok o, (world []).outside) ∧
        (o.Asks ∨ o.Accepts) := by
  have absent : (colors.setting "retryMessage").isPresent = false := by decide +kernel
  have named : Ask.variableName? colors = .ok "color" := by with_unfolding_all rfl
  refine ⟨choices_colors, absent, ?_, ?_⟩
  · rw [question_replies_iff choices_colors (.inl absent)]
    refine ⟨⟨_, named⟩, ?_⟩
    rw [if_neg (by decide +kernel)]
    exact .inr (by decide +kernel)
  · rw [question_replies_iff choices_colors (.inl absent)]
    rintro ⟨-, takes⟩
    rw [if_neg (by decide +kernel)] at takes
    rcases takes with none | takes
    · cases none
    · exact absurd takes (by decide +kernel)

/-- A question fails on a superscript, although its settings are all in order. -/
theorem question_fails_on_superscript :
    Ask.choices? colors = .ok colorChoices ∧ colors.setting "content" = .text "Pick one" ∧
      (colors.setting "retryMessage").isPresent = false ∧
      (question colors context (some "²")).run (world []).outside
        = (.error (.badInteger "²"), (world []).outside) := by
  exact ⟨choices_colors, by with_unfolding_all rfl, by decide +kernel, by with_unfolding_all rfl⟩

end Sample

end ChatFlow
