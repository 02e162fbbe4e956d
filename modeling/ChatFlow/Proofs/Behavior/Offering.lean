import ChatFlow.Proofs.Behavior.Matching

/-!
Replying with a value that a question offers.

The prompt of a question shows the values of its options as they were written (`Message.Offers`). A reply is
compared with them less the blanks around it, and the values keep theirs. So a value without blanks at its ends
always takes an option when it is sent back, namely the first one that has it as value or label, case aside
(`Ask.IsFirstCalled`); what is stored and which branch is taken are those of that option. A value with such
blanks never matches itself, and takes that option only if the value less its blanks happens to choose the same
branch (`Behavior.offered_taken_iff`).
-/

namespace ChatFlow

open ChatFlow.Flow (Node Choice)

/-- The message shows a channel an option with this value. -/
def Message.Offers (m : Message) (value : String) : Prop :=
  ∃ shown option, Entries.getD (m.metadata.getD []) "options" = .list shown ∧ option ∈ shown ∧
    option.entry "value" = .text value

namespace Outcome

/-- An option is taken: its value is stored and its branch is named. -/
def taking (name : String) (c : Choice) : Outcome :=
  { setting [(name, .text c.value)] with nextNodeId := c.nextNodeId, sourceHandle := some c.id }

theorem taking_inj {name : String} {c c' : Choice} :
    taking name c = taking name c' ↔ c.id = c'.id ∧ c.value = c'.value ∧ c.nextNodeId = c'.nextNodeId := by
  simp only [taking, setting, Outcome.mk.injEq, Option.some.injEq, List.cons.injEq, Prod.mk.injEq,
    Value.text.injEq, and_true, true_and]
  exact ⟨fun ⟨stored, branch, handle⟩ => ⟨handle, stored, branch⟩,
    fun ⟨handle, stored, branch⟩ => ⟨stored, branch, handle⟩⟩

end Outcome

namespace Behavior

namespace Ask

variable {node : Node} {choices : List Choice} {name value : String} {first : Choice}

/-! ## Prompts -/

/-- The values that a question shows are those of its options. -/
theorem offers_iff {m : Message} (data : m.metadata = choicesMetadata choices) :
    m.Offers value ↔ ∃ o ∈ choices, o.value = value := by
  unfold Message.Offers
  rw [data]
  cases choices with
  | nil =>
    have none : Entries.getD ((choicesMetadata []).getD []) "options" = .null := rfl
    simp [none]
  | cons o rest =>
    have shown : Entries.getD ((choicesMetadata (o :: rest)).getD []) "options"
        = .list ((o :: rest).map fun o =>
          .dict [("id", .text o.id), ("label", .text o.label), ("value", .text o.value)]) := rfl
    have entry (o : Choice) : (Value.dict [("id", .text o.id), ("label", .text o.label),
        ("value", .text o.value)]).entry "value" = .text o.value := rfl
    rw [shown]
    constructor
    · rintro ⟨shown, option, same, listed, offered⟩
      obtain ⟨o', mem, rfl⟩ := List.mem_map.mp (Value.list.inj same ▸ listed)
      rw [entry, Value.text.injEq] at offered
      exact ⟨o', mem, offered⟩
    · rintro ⟨o', mem, rfl⟩
      exact ⟨_, _, rfl, List.mem_map_of_mem mem, entry o'⟩

/-- A question that prompts has valid options and a variable, and its prompt shows the options. -/
theorem shows_of_prompt {asked : Option String} (blank : isBlankReply asked = true) {c : Context}
    {outside left : Outside} {prompt : Outcome}
    (prompted : (question node c asked).run outside = (.ok prompt, left)) :
    ∃ choices name, choices? node = .ok choices ∧ variableName? node = .ok name ∧
      ∀ m ∈ prompt.messages, m.metadata = choicesMetadata choices := by
  unfold question at prompted
  rw [Service.run_ofExcept_bind] at prompted
  cases valid : choices? node with
  | error f =>
    rw [valid] at prompted
    cases prompted
  | ok choices =>
    rw [valid] at prompted
    dsimp only at prompted
    rw [Service.run_ofExcept_bind] at prompted
    cases named : variableName? node with
    | error f =>
      rw [named] at prompted
      cases prompted
    | ok name =>
      rw [named] at prompted
      dsimp only at prompted
      rw [blank, if_pos rfl, Service.run_ofExcept_bind] at prompted
      refine ⟨choices, name, rfl, rfl, ?_⟩
      cases content : Template.fillValue? c.scope (node.setting "content") with
      | error f =>
        rw [content] at prompted
        cases prompted
      | ok text =>
        rw [content] at prompted
        cases prompted
        intro m said
        rw [List.mem_singleton.mp said]

/-! ## Sending a value back -/

/-- The value or the label of the option is the text, case aside. -/
def IsCalled (text : String) (c : Choice) : Prop :=
  Text.lower c.value = Text.lower text ∨ Text.lower c.label = Text.lower text

/-- The first option that has the text as its value or label, case aside. -/
def IsFirstCalled (choices : List Choice) (text : String) (first : Choice) : Prop :=
  ∃ before later, choices = before ++ first :: later ∧ IsCalled text first ∧ ∀ c ∈ before, ¬ IsCalled text c

theorem isNamedBy_iff {text : String} {c : Choice} :
    isNamedBy (Text.lowerChars text.toList) c = true ↔ IsCalled text c := by
  simp only [isNamedBy, IsCalled, Text.lower, Bool.or_eq_true, beq_iff_eq, String.ofList_inj]

theorem find?_eq_some_iff_isFirstCalled {text : String} :
    choices.find? (isNamedBy (Text.lowerChars text.toList)) = some first ↔ IsFirstCalled choices text first := by
  simp only [List.find?_eq_some_iff_append, IsFirstCalled, isNamedBy_iff, Bool.not_eq_true', ← Bool.not_eq_true]
  exact ⟨fun ⟨called, before, later, parts, others⟩ => ⟨before, later, parts, called, others⟩,
    fun ⟨before, later, parts, called, others⟩ => ⟨called, before, later, parts, others⟩⟩

/-- Among options one of which has the value, some option is the first that is called by it. -/
theorem exists_isFirstCalled {o : Choice} (listed : o ∈ choices) :
    ∃ first, IsFirstCalled choices o.value first := by
  have found : (choices.find? (isNamedBy (Text.lowerChars o.value.toList))).isSome = true := by
    rw [List.find?_isSome]
    exact ⟨o, listed, isNamedBy_iff.mpr (.inl rfl)⟩
  obtain ⟨first, here⟩ := Option.isSome_iff_exists.mp found
  exact ⟨first, find?_eq_some_iff_isFirstCalled.mp here⟩

/-- A reply without blanks at its ends chooses the first option that is called by it. -/
theorem choose?_of_isFirstCalled (bare : Text.trim value = value) (called : IsFirstCalled choices value first) :
    choose? choices value = .ok (some first) := by
  have same : normalized value = Text.lowerChars value.toList := by
    rw [normalized, ← @String.toList_ofList (Text.trimChars value.toList)]
    exact congrArg (fun text => Text.lowerChars (String.toList text)) bare
  unfold choose?
  dsimp only
  rw [same, find?_eq_some_iff_isFirstCalled.mpr called]

/-- An option is taken by the replies that choose it, or another one with the same branch. -/
theorem answered_eq_taking_iff {reply : String} (given : isBlankReply (some reply) = false)
    (some_ : choices ≠ []) {c : Context} {now : Moment} {o : Choice} :
    answered node choices name c now reply = .ok (.taking name o) ↔
      ∃ picked, choose? choices reply = .ok (some picked) ∧
        picked.id = o.id ∧ picked.value = o.value ∧ picked.nextNodeId = o.nextNodeId := by
  have options : choices.isEmpty = false := by simpa using some_
  unfold answered
  rw [given, if_neg Bool.false_ne_true, options, if_neg Bool.false_ne_true]
  rcases choose? choices reply with f | _ | picked
  · exact iff_of_false nofun nofun
  · refine iff_of_false (fun taken => ?_) nofun
    cases retry : Message.fromSetting? now ((node.setting "retryMessage").orElse (.text defaultRetryMessage))
        node.id with
    | error f =>
      rw [retry] at taken
      cases taken
    | ok m =>
      rw [retry] at taken
      exact Bool.noConfusion (congrArg Outcome.waitingForInput (Except.ok.inj taken))
  · change (Except.ok (Outcome.taking name picked) : Except Failure Outcome) = .ok (.taking name o) ↔ _
    rw [Except.ok.injEq, Outcome.taking_inj]
    constructor
    · exact fun same => ⟨picked, rfl, same⟩
    · rintro ⟨chosen, same, branch⟩
      cases same
      exact branch

end Ask

/-- Let a prompt of a question offer a value that is not blank. Then the options have a first one that is called
by the value, and in every context a reply with exactly the value takes that option, exactly if the value has
no blanks at its ends or chooses its branch without them. -/
theorem offered_taken_iff {node : Node} {c : Context} {asked : Option String} {outside left : Outside}
    {prompt : Outcome} {m : Message} {value : String} (blank : Ask.isBlankReply asked = true)
    (prompted : (question node c asked).run outside = (.ok prompt, left)) (shown : m ∈ prompt.messages)
    (offers : m.Offers value) (given : Ask.isBlankReply (some value) = false) :
    ∃ choices name first, Ask.choices? node = .ok choices ∧ Ask.variableName? node = .ok name ∧
      Ask.IsFirstCalled choices value first ∧ ∀ (c' : Context) (here : Outside),
        (question node c' (some value)).run here = (.ok (.taking name first), here) ↔
          Text.trim value = value ∨ ∃ picked, Ask.choose? choices value = .ok (some picked) ∧
            picked.id = first.id ∧ picked.value = first.value ∧ picked.nextNodeId = first.nextNodeId := by
  obtain ⟨choices, name, valid, named, data⟩ := Ask.shows_of_prompt blank prompted
  obtain ⟨o, listed, rfl⟩ := (Ask.offers_iff (data m shown)).mp offers
  obtain ⟨first, called⟩ := Ask.exists_isFirstCalled listed
  refine ⟨choices, name, first, valid, named, called, fun c' here => ?_⟩
  rw [Ask.question_run valid named, Prod.mk.injEq, and_iff_left rfl,
    Ask.answered_eq_taking_iff given (List.ne_nil_of_mem listed)]
  refine ⟨.inr, fun chosen => ?_⟩
  rcases chosen with bare | picked
  · exact ⟨first, Ask.choose?_of_isFirstCalled bare called, rfl, rfl, rfl⟩
  · exact picked

end Behavior

/-! ## Values with and without blanks -/

namespace Sample

open Behavior

/-- What the question about a color shows. -/
def colorsShown : Message :=
  { Message.ofBot noon "Pick one" (some "ask") with metadata := Ask.choicesMetadata colorChoices }

theorem prompt_colors :
    (question colors context none).run (world []).outside = (.ok (.asking [colorsShown]), (world []).outside) := by
  with_unfolding_all rfl

/-- The question about a color offers red, and the first option is taken by it. -/
theorem offered_taken_iff_red :
    (question colors context none).run (world []).outside = (.ok (.asking [colorsShown]), (world []).outside) ∧
      colorsShown.Offers "red" ∧
      (question colors context (some "red")).run (world []).outside
        = (.ok (.taking "color" ⟨"opt-red", "Red color", "red", none, []⟩), (world []).outside) := by
  have offers : colorsShown.Offers "red" := by
    refine (Ask.offers_iff rfl).mpr ⟨_, List.mem_cons_self, rfl⟩
  refine ⟨prompt_colors, offers, ?_⟩
  obtain ⟨choices, name, first, valid, named, called, taken⟩ := offered_taken_iff (by decide +kernel)
    prompt_colors (List.mem_singleton.mpr rfl) offers (by decide +kernel)
  cases choices_colors.symm.trans valid
  cases named
  have here : colorChoices.find? (Ask.isNamedBy (Text.lowerChars "red".toList)) = some first :=
    Ask.find?_eq_some_iff_isFirstCalled.mpr called
  cases here
  exact (taken context (world []).outside).mpr (.inl (by decide +kernel))

/-- Asks for a color, and the value of its first option has blanks at its ends. -/
def spacedColors (id label value : String) : Node where
  id := "ask"
  kind := "question"
  data := [("content", .text "Pick one"), ("variable", .text "color"), ("options", .list [
    .dict [("id", .text "opt-crimson"), ("label", .text "Crimson"), ("value", .text " red ")],
    .dict [("id", .text id), ("label", .text label), ("value", .text value)]])]
  extra := []

/-- A question shows the value of its first option with the blanks around it, and asks again when that is sent
back. Where another option has a label with the same letters, that option is taken instead. -/
theorem spaced_value_not_taken :
    (∃ prompt m, (question (spacedColors "opt-blue" "Blue" "blue") context none).run (world []).outside
        = (.ok (.asking [prompt]), (world []).outside) ∧
      prompt.Offers " red " ∧
      (question (spacedColors "opt-blue" "Blue" "blue") context (some " red ")).run (world []).outside
        = (.ok (.asking [m]), (world []).outside)) ∧
    (question (spacedColors "opt-infra" "Infrared" "ir") context (some " red ")).run (world []).outside
      = (.ok (.taking "color" ⟨"opt-infra", "Infrared", "ir", none, []⟩), (world []).outside) := by
  refine ⟨⟨_, _, by with_unfolding_all rfl, ?_, by with_unfolding_all rfl⟩, by with_unfolding_all rfl⟩
  exact (Ask.offers_iff (by with_unfolding_all rfl)).mpr ⟨⟨"opt-crimson", "Crimson", " red ", none, []⟩,
    List.mem_cons_self, rfl⟩

end Sample

end ChatFlow
