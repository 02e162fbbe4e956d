import Mathlib.Data.List.DropRight
import ChatFlow.Proofs.Interpreter.Answering
import ChatFlow.Proofs.Turn.Building

/-!
What the language model is asked.

A turn writes the reply into the history before the node is executed, and the node takes it out again, if it stands
last; it does, since nothing comes between (`Behavior.Answer.conversation_say`). So the model sees the last messages of
the history as it was before the turn, and the reply once, as the last message of all. The rest of the turn has no
reply, and without one no node asks the model: the request is the only one of the turn
(`Turn.takeTurn_completes`).
-/

namespace ChatFlow

open ChatFlow.Flow (Node Definition Generation)

namespace Outside

theorem completions_complete (o : Outside) (call : CompletionCall) :
    (o.complete call).2.completions = o.completions ++ [call] := by
  obtain ⟨now, answers, completions, calls, log⟩ := o
  cases completions <;> simp [complete, record, Outside.completions]

end Outside

namespace Service

theorem run_complete (call : CompletionCall) (o : Outside) :
    (complete call).run o = match o.complete call with
      | (.choices contents, left) => (.ok contents, left)
      | (.failure cause, left) => (.error cause, left) := by
  have asks : (modifyGet (·.complete call) : Service CompletionAnswer).run o
      = (.ok (o.complete call).1, (o.complete call).2) := rfl
  rw [complete, run_bind, asks]
  rcases o.complete call with ⟨_ | _, _⟩ <;> rfl

end Service

/-- A generator with a key makes one request for a prompt. -/
theorem TextGenerator.completions_generate {g : TextGenerator} (configured : g.configured = true) (p : Prompt)
    (o : Outside) : ((g.generate p).run o).2.completions = o.completions ++ [g.request p] := by
  rw [generate, configured, ← Outside.completions_complete]
  show ((Service.complete (g.request p) >>= _).run o).2.completions = _
  rw [Service.run_bind, Service.run_complete]
  rcases o.complete (g.request p) with ⟨(_ | ⟨content, rest⟩) | cause, left⟩ <;> rfl

namespace Behavior

namespace Answer

/-- The reply is left out of the history where it was said last, whatever was said before. -/
theorem withoutReply_append (history : List Message) (now : Moment) (reply : String) (place : Option String) :
    withoutReply (history ++ [.ofUser now reply place]) reply = history := by
  have user : (Message.ofUser now reply place).role = .user := rfl
  have same : (Message.ofUser now reply place).content = reply := rfl
  rw [withoutReply, List.getLast?_concat]
  simp [user, same]

/-- The last ten messages of the history as it was before the reply was heard, and then the reply. -/
theorem conversation_say (c : Context) (now : Moment) (reply : String) (place : Option String) :
    conversation (c.say [.ofUser now reply place]).history reply
      = ((c.history.filter (·.role != .system)).rtake 10).map
          (fun m => ⟨if m.role = .user then "user" else "assistant", m.content⟩) ++ [⟨"user", reply⟩] := by
  have heard : (c.say [.ofUser now reply place]).history.filter (·.role != .system)
      = c.history.filter (·.role != .system) ++ [.ofUser now reply place] := by
    rw [Context.say, List.filter_append]
    rfl
  have spoken : utterance = fun m => ⟨if m.role = .user then "user" else "assistant", m.content⟩ := by
    funext m
    simp [utterance]
  rw [conversation, heard, withoutReply_append, spoken]
  rfl

/-- The system prompt goes before the conversation. -/
theorem messages_request (g : TextGenerator) (chosen : Generation) (c : Context) (reply : String) :
    (g.request (promptFor chosen c reply)).messages
      = ⟨"system", textOr chosen.systemPrompt defaultSystemPrompt⟩ :: conversation c.history reply := rfl

/-- The settings for the model. -/
def settings (node : Node) : Schema.Checked Generation :=
  Generation.read ((node.setting "aiConfig").orElse (.dict []))

end Answer

open Answer

/-- On a reply the node makes one request, unless its settings do not fit: then it makes none. -/
theorem completions_answer {g : TextGenerator} (configured : g.configured = true) (node : Node) (c : Context)
    {reply : String} (given : reply ≠ "") (o : Outside) :
    ((answer g node c (some reply)).run o).2.completions = match settings node with
      | .valid settings => o.completions ++ [g.request (promptFor settings c reply)]
      | .invalid _ => o.completions := by
  unfold answer settings
  rw [Service.run_ofExcept_bind]
  cases Generation.read ((node.setting "aiConfig").orElse (.dict [])) with
  | invalid issues => rfl
  | valid settings =>
    dsimp only [Schema.Checked.toExcept]
    rw [Option.getD_some, if_neg (by simpa using given), Service.run_bind, Service.run_attempt,
      ← TextGenerator.completions_generate configured]
    rcases (g.generate (promptFor settings c reply)).run o with ⟨f | text, left⟩ <;> rfl

end Behavior

namespace Turn

open Behavior.Answer (settings promptFor textOr defaultSystemPrompt)

variable {d : Definition} {c : Context} {node : Node} {reply : String} {s : Services}

/-- Without a reply a walk makes no request of the model, however far it goes. -/
theorem completions_hops (s : Services) (d : Definition) (n : Nat) (w : Walk) (o : Outside) :
    (hops (.standard s) d n none w o).2.completions = o.completions := by
  have silent : (Registry.standard s).IsBuiltFor (fun _ => False) none := Registry.isBuiltFor_standard s nofun
  exact (isBuilt_hops silent silent d n w).completions_eq o

/-- The first hop makes the request of its node, with the reply in the history. -/
theorem completions_hop (configured : s.generator.configured = true)
    (found : d.node? c.currentNodeId = some node) (kind : node.kind = "ai_answer") (given : reply ≠ "") (o : Outside) :
    (hop (.standard s) d (some reply) (.start c) o).2.completions = match settings node with
      | .valid settings => o.completions
          ++ [s.generator.request (promptFor settings (c.say [.ofUser o.now reply (some node.id)]) reply)]
      | .invalid _ => o.completions := by
  have known : (Registry.standard s).behavior node.kind o = (Behavior.answer s.generator, o) := by
    rw [kind]
    rfl
  have heard : (hear (.start c) o.now node (some reply)).context = c.say [.ofUser o.now reply (some node.id)] := by
    rw [hear, given?, if_neg (by simpa using given)]
    rfl
  rw [← Behavior.completions_answer configured node _ given o, hop_eq]
  simp only [Walk.start, found, known] at heard ⊢
  rw [heard]
  rcases (Behavior.answer s.generator node _ (some reply)).run o with ⟨f | out, left⟩
  · rfl
  · dsimp only
    split <;> rfl

/-- A turn with a reply to a node that lets the model answer makes one request of the model: the system prompt, the last
ten messages of the history before the turn, those of the system left out, and the reply. It makes none if the settings
of the node do not fit. -/
theorem takeTurn_completes (configured : s.generator.configured = true)
    (found : d.node? c.currentNodeId = some node) (kind : node.kind = "ai_answer") (given : reply ≠ "") {maxHops : Nat}
    (allowed : 0 < maxHops) (o : Outside) :
    (∀ chosen, settings node = .valid chosen → ∃ call,
      (takeTurn (.standard s) maxHops d c (some reply) o).2.completions = o.completions ++ [call] ∧
      call.messages = ⟨"system", textOr chosen.systemPrompt defaultSystemPrompt⟩ ::
        ((c.history.filter (·.role != .system)).rtake 10).map
          (fun m => ⟨if m.role = .user then "user" else "assistant", m.content⟩) ++ [⟨"user", reply⟩]) ∧
    (∀ issues, settings node = .invalid issues →
      (takeTurn (.standard s) maxHops d c (some reply) o).2.completions = o.completions) := by
  obtain ⟨n, rfl⟩ := Nat.exists_eq_succ_of_ne_zero (Nat.ne_of_gt allowed)
  have turn : (takeTurn (.standard s) (n + 1) d c (some reply) o).2.completions
      = (hop (.standard s) d (some reply) (.start c) o).2.completions := by
    rw [takeTurn, hops_succ]
    rcases hop (.standard s) d (some reply) (.start c) o with ⟨_ | next, left⟩
    · rfl
    · exact completions_hops s d n next left
  rw [turn, completions_hop configured found kind given o]
  constructor
  · rintro chosen fits
    refine ⟨_, by rw [fits], ?_⟩
    rw [Behavior.Answer.messages_request, Behavior.Answer.conversation_say, List.cons_append]
  · rintro issues unfit
    rw [unfit]

end Turn

/-! ## A greeting, repeated -/

namespace Sample

/-- The bot reaches a language model. -/
def advisor : Services := { services with generator := ⟨true, "model"⟩ }

/-- Lets the model answer. -/
def advice : Node := ⟨"advise", "ai_answer", [], []⟩

/-- Lets the model answer, and nothing else. -/
def advising : Definition := ⟨flow, { version with nodes := [advice], edges := [] }⟩

/-- The user has said the same twice, with a note of the system between. -/
def greeted : Context :=
  { context with
    currentNodeId := "advise"
    history := [.ofUser noon "hi" none, .ofBot noon "Hello" none, ⟨.system, "typing", noon, none, none⟩,
      .ofUser noon "hi" none] }

/-- The user says the same for the third time: the model sees it three times, and not the note. -/
theorem takeTurn_completes_greeting :
    advisor.generator.configured = true ∧ advising.node? greeted.currentNodeId = some advice ∧
      ∃ call, (Turn.takeTurn (.standard advisor) 50 advising greeted (some "hi") (world []).outside).2.completions
          = [call] ∧
        call.messages = [⟨"system", Behavior.Answer.defaultSystemPrompt⟩, ⟨"user", "hi"⟩, ⟨"assistant", "Hello"⟩,
          ⟨"user", "hi"⟩, ⟨"user", "hi"⟩] := by
  have found : advising.node? greeted.currentNodeId = some advice := by with_unfolding_all rfl
  have fits : Behavior.Answer.settings advice = .valid ⟨none, none, none, none, none, []⟩ := by
    with_unfolding_all rfl
  obtain ⟨made, -⟩ := @Turn.takeTurn_completes advising greeted advice "hi" advisor rfl found rfl (by decide) 50
    (by decide) (world []).outside
  exact ⟨rfl, found, made _ fits⟩

end Sample

end ChatFlow
