import ChatFlow.Outside

/-!
Generating text with a language model.
-/

namespace ChatFlow

/-- Access to a language model. -/
structure TextGenerator where
  /-- A key for the model was configured. -/
  configured : Bool
  defaultModel : String
deriving Repr

/-- What a text is generated from. -/
structure Prompt where
  systemPrompt : String
  messages : List Utterance
  model : Option String
  temperature : Quantity
  maxTokens : Int
deriving Repr

namespace TextGenerator

/-- The failure of a generator without a key. -/
def notConfigured : Failure :=
  .service "Text generation is not configured (OPENAI_API_KEY missing)"

/-- The model that is asked: the one of the prompt unless it is empty. -/
def modelFor (g : TextGenerator) (p : Prompt) : String :=
  match p.model with
  | some m => if m.isEmpty then g.defaultModel else m
  | none => g.defaultModel

/-- The request for a prompt: the system's instruction goes first. -/
def request (g : TextGenerator) (p : Prompt) : CompletionCall where
  model := g.modelFor p
  messages := ⟨"system", p.systemPrompt⟩ :: p.messages
  temperature := p.temperature
  maxTokens := p.maxTokens

/-- Generates a text; nothing if the model offers none. -/
def generate (g : TextGenerator) (p : Prompt) : Service (Option String) := do
  if !g.configured then throw notConfigured
  match ← Service.complete (g.request p) with
  | content :: _ => return content
  | [] => return none

end TextGenerator

end ChatFlow
