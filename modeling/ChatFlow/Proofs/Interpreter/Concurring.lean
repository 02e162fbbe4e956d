import ChatFlow.Proofs.Interpreter.Beginning
import ChatFlow.Proofs.Interpreter.Resembling
import ChatFlow.Proofs.Library.Recounting

/-!
Answering in two worlds that agree on what is asked for.

Two worlds concur on a message if they have the same sessions and the same outside, the same flow is chosen
for the message, and the same definitions are loaded, in each case but for the counters of flows
(`Interpreter.Concur`). No turn looks at these counters (`Interpreter.follow_uncounted`). So answering begins
alike in both worlds (`Interpreter.beginning_concurs`), follows the same turn, and comes to the same answer
and the same sessions (`Interpreter.process_concurs`).
-/

namespace ChatFlow

open ChatFlow.Flow (Definition Candidate)

open Library (Request known?)

namespace Interpreter

variable {i : Interpreter} {m : Inbound} {w v : World}

/-! ## Counters do not matter -/

/-- The beginning without what every run changes. -/
def Beginning.uncounted : Beginning → Beginning
  | .goes_on c d => .goes_on c d.uncounted
  | .starts d => .starts d.uncounted
  | b => b

theorem takeTurn_uncounted (i : Interpreter) (d : Definition) (c : Context) (reply : Option String) :
    Turn.takeTurn i.registry i.maxHops d.uncounted c reply = Turn.takeTurn i.registry i.maxHops d c reply := by
  have nodes : d.uncounted.version.nodes = d.version.nodes := rfl
  have edges : d.uncounted.version.edges = d.version.edges := rfl
  exact funext fun outside => Turn.takeTurn_graph nodes edges i.maxHops c reply outside

/-- Answering goes on alike. -/
theorem follow_uncounted (i : Interpreter) (m : Inbound) (b : Beginning) :
    i.follow m b.uncounted = i.follow m b := by
  cases b with
  | fails f => rfl
  | falls_silent => rfl
  | goes_on c d =>
    show i.proceed m c d.uncounted = i.proceed m c d
    rw [proceed, turn, takeTurn_uncounted, proceed, turn]
  | starts d =>
    have created (now : Moment) : Context.create? now d.uncounted m.conversationId m.contact
        = Context.create? now d m.conversationId m.contact := rfl
    show i.start m d.uncounted = i.start m d
    unfold start turn
    simp only [created, takeTurn_uncounted]

theorem turnOf?_uncounted (i : Interpreter) (m : Inbound) (u : World) (b : Beginning) :
    i.turnOf? m u b.uncounted = i.turnOf? m u b := by
  cases b with
  | fails f => rfl
  | falls_silent => rfl
  | goes_on c d =>
    show some (Turn.takeTurn _ _ d.uncounted _ _ _) = some (Turn.takeTurn _ _ d _ _ _)
    rw [takeTurn_uncounted]
  | starts d =>
    have created : Context.create? u.now d.uncounted m.conversationId m.contact
        = Context.create? u.now d m.conversationId m.contact := rfl
    simp only [Beginning.uncounted, turnOf?, created, takeTurn_uncounted]

/-! ## Two worlds -/

/-- The results are the same but for what the function forgets. -/
inductive SameUpTo {α β : Type} (f : α → β) : Except Failure (Option α) → Except Failure (Option α) → Prop
  | fails (e : Failure) : SameUpTo f (.error e) (.error e)
  | nothing : SameUpTo f (.ok none) (.ok none)
  | found (a a' : α) (same : f a = f a') : SameUpTo f (.ok (some a)) (.ok (some a'))

theorem sameUpTo_of_map {α β : Type} {f : α → β} {x y : Except Failure (Option α)}
    (same : x.map (Option.map f) = y.map (Option.map f)) : SameUpTo f x y := by
  match x, y with
  | .error e, .error e' =>
    cases same
    exact .fails e
  | .ok none, .ok none => exact .nothing
  | .ok (some a), .ok (some a') => exact .found a a' (Option.some.inj (Except.ok.inj same))
  | .error _, .ok none => cases same
  | .error _, .ok (some _) => cases same
  | .ok none, .error _ => cases same
  | .ok none, .ok (some _) => cases same
  | .ok (some _), .error _ => cases same
  | .ok (some _), .ok none => cases same

theorem SameUpTo.symm {α β : Type} {f : α → β} {x y : Except Failure (Option α)} (h : SameUpTo f x y) :
    SameUpTo f y x := by
  cases h with
  | fails e => exact .fails e
  | nothing => exact .nothing
  | found a a' same => exact .found a' a same.symm

theorem SameUpTo.of_option {α β : Type} {f : α → β} {x y : Option α} (same : x.map f = y.map f) :
    SameUpTo f (.ok x) (.ok y) := sameUpTo_of_map (congrArg Except.ok same)

/-- The worlds have the same sessions, and agree on what the message asks for, run counters aside. -/
structure Concur (m : Inbound) (w v : World) : Prop extends w.Resembles False v where
  chosen : SameUpTo Candidate.uncounted
    (w.store.chosen? w.now m.workspaceId m.botId (.ofMessage m.message) false)
    (v.store.chosen? v.now m.workspaceId m.botId (.ofMessage m.message) false)
  known : ∀ r, Asks m w r → (known? w r.flowId r.version).map Definition.uncounted
    = (known? v r.flowId r.version).map Definition.uncounted

/-- Candidates that differ in their counters only have one id. -/
theorem id_of_uncounted {c c' : Candidate} (same : c.uncounted = c'.uncounted) : c.id = c'.id := by
  show c.uncounted.id = c'.uncounted.id
  rw [same]

/-- What is asked for depends on the session of the conversation and on the id of the chosen flow. -/
theorem Asks.of_resembles (alike : w.Resembles False v)
    (same : SameUpTo Candidate.uncounted
      (w.store.chosen? w.now m.workspaceId m.botId (.ofMessage m.message) false)
      (v.store.chosen? v.now m.workspaceId m.botId (.ofMessage m.message) false))
    {r : Request} (asks : Asks m w r) : Asks m v r := by
  cases asks with
  | bound c reads =>
    rw [alike.now] at reads
    exact .bound c (reads.congr (alike.session? _).symm)
  | triggered c chosen =>
    rw [chosen] at same
    generalize chosen' : v.store.chosen? v.now m.workspaceId m.botId (.ofMessage m.message) false = x at same
    cases same with
    | found _ c' same =>
      rw [id_of_uncounted same]
      exact .triggered c' chosen'

namespace Concur

/-- The message asks for the same in both worlds. -/
theorem asks_iff (h : Concur m w v) {r : Request} : Asks m w r ↔ Asks m v r :=
  ⟨.of_resembles h.toResembles h.chosen, .of_resembles h.toResembles.symm h.chosen.symm⟩

theorem apart (h : Concur m w v) (apart : Library.AreApart (Asks m w)) : Library.AreApart (Asks m v) :=
  fun r r' asks asks' => apart r r' (h.asks_iff.mpr asks) (h.asks_iff.mpr asks')

/-- What is learned of the answers that are asked for is the same in both worlds. -/
theorem known_of_learns (h : Concur m w v) (apart : Library.AreApart (Asks m w)) {x y : World}
    (learns : w.Learns (Asks m w) x) (learns' : v.Learns (Asks m v) y) {flowId : String}
    {versionId : Option String} (asks : Asks m w (.of flowId versionId)) :
    (known? x flowId versionId).map Definition.uncounted = (known? y flowId versionId).map Definition.uncounted := by
  have same := h.known _ asks
  rw [← learns.known?_eq apart asks, ← learns'.known?_eq (h.apart apart) (h.asks_iff.mp asks), Library.known?_of,
    Library.known?_of] at same
  exact same

end Concur

/-! ## Beginning alike -/

theorem uncounted_bound (definition : Option Definition) (id : String) :
    (bound definition id).map Definition.uncounted = bound (definition.map Definition.uncounted) id := by
  cases definition with
  | none => rfl
  | some d =>
    have node : d.uncounted.node? id = d.node? id := rfl
    rw [Option.map_some, bound, bound, Option.bind_some, Option.bind_some, node]
    cases d.node? id <;> rfl

/-- The same is resumed. -/
theorem resume_concurs (h : Concur m w v) (apart : Library.AreApart (Asks m w)) :
    SameUpTo (fun (c, d) => (c, Definition.uncounted d)) ((resume m.conversationId).run w).1
        ((resume m.conversationId).run v).1 ∧
      ((resume m.conversationId).run w).2.Resembles False ((resume m.conversationId).run v).2 := by
  obtain ⟨same, left⟩ := h.load m.conversationId
  have keeps := keepsFlows_load h.quiet m.conversationId
  have keeps' := keepsFlows_load h.quiet' m.conversationId
  have reads : ∀ c x, (Keeping.load m.conversationId).run w = (.ok (some c), x) →
      Asks m w (.of c.flowId (some c.versionId)) := fun c x loaded =>
    .bound c (Keeping.isReadAs_of_load h.quiet.isAlone loaded).2
  rw [resume_eq, resume_eq]
  generalize (Keeping.load m.conversationId).run w = r at same left keeps reads ⊢
  generalize (Keeping.load m.conversationId).run v = r' at same left keeps' ⊢
  obtain ⟨result, x⟩ := r
  obtain ⟨result', y⟩ := r'
  cases same
  match result with
  | .error f => exact ⟨.fails f, left⟩
  | .ok none => exact ⟨.nothing, left⟩
  | .ok (some c) =>
    have known := h.known_of_learns apart (.of_keepsFlows keeps) (.of_keepsFlows keeps') (reads c x rfl)
    obtain ⟨x', leaves, loads⟩ := Library.load_run left.quiet c.flowId (some c.versionId)
    obtain ⟨y', leaves', loads'⟩ := Library.load_run left.quiet' c.flowId (some c.versionId)
    have left' := left.leaves leaves leaves'
    have there := congrArg (bound · c.currentNodeId) known
    simp only [← uncounted_bound] at there
    have there := SameUpTo.of_option there
    dsimp only
    rw [loads, loads']
    dsimp only
    generalize bound (known? x c.flowId (some c.versionId)) c.currentNodeId = d at there ⊢
    generalize bound (known? y c.flowId (some c.versionId)) c.currentNodeId = d' at there ⊢
    cases there with
    | found d d' uncounted => exact ⟨.found _ _ (congrArg (Prod.mk c) uncounted), left'⟩
    | nothing =>
      have writes : (x'.noted .warning component).LetsWrite := World.IsQuiet.letsWrite left'.quiet
      have writes' : (y'.noted .warning component).LetsWrite := World.IsQuiet.letsWrite left'.quiet'
      dsimp only
      rw [Keeping.clear_run writes, Keeping.clear_run writes']
      exact ⟨.nothing, (left'.noted _ _).cleared _⟩

/-- If nothing is resumed the same flow answers. -/
theorem find_concurs (h : Concur m w v) (apart : Library.AreApart (Asks m w)) {x y : World}
    (learns : w.Learns (Asks m w) x) (learns' : v.Learns (Asks m v) y) (alike : x.Resembles False y) :
    SameUpTo Definition.uncounted
        ((Dispatch.find m.workspaceId m.botId (.ofMessage m.message) false).run x).1
        ((Dispatch.find m.workspaceId m.botId (.ofMessage m.message) false).run y).1 ∧
      ((Dispatch.find m.workspaceId m.botId (.ofMessage m.message) false).run x).2.Resembles False
        ((Dispatch.find m.workspaceId m.botId (.ofMessage m.message) false).run y).2 := by
  obtain ⟨x', consults, finds⟩ := Dispatch.find_run alike.quiet m.workspaceId m.botId (.ofMessage m.message) false
  obtain ⟨y', consults', finds'⟩ := Dispatch.find_run alike.quiet' m.workspaceId m.botId (.ofMessage m.message)
    false
  have alike' := alike.consults consults consults'
  rw [learns.now, Store.chosen?_congr learns.flows] at finds
  rw [learns'.now, Store.chosen?_congr learns'.flows] at finds'
  have same := h.chosen
  rw [finds, finds']
  generalize chosen : w.store.chosen? w.now m.workspaceId m.botId (.ofMessage m.message) false = r at same ⊢
  generalize v.store.chosen? v.now m.workspaceId m.botId (.ofMessage m.message) false = r' at same ⊢
  cases same with
  | fails f => exact ⟨.fails f, alike'⟩
  | nothing => exact ⟨.nothing, alike'⟩
  | found c c' same =>
    have known := h.known_of_learns apart (learns.keepsFlows consults.keepsFlows)
      (learns'.keepsFlows consults'.keepsFlows) (.triggered c chosen)
    obtain ⟨x'', leaves, loads⟩ := Library.load_run alike'.quiet c.id none
    obtain ⟨y'', leaves', loads'⟩ := Library.load_run alike'.quiet' c.id none
    dsimp only
    rw [← id_of_uncounted same, loads, loads']
    exact ⟨.of_option known, alike'.leaves leaves leaves'⟩

/-- Answering begins alike. -/
theorem beginning_concurs (h : Concur m w v) (apart : Library.AreApart (Asks m w)) :
    (beginning m w).1.uncounted = (beginning m v).1.uncounted ∧
      (beginning m w).2.Resembles False (beginning m v).2 := by
  obtain ⟨same, left⟩ := resume_concurs h apart
  have learns := resume_learns h.quiet apart
  have learns' := resume_learns h.quiet' (h.apart apart)
  rw [beginning, beginning]
  generalize (resume m.conversationId).run w = r at same left learns ⊢
  generalize (resume m.conversationId).run v = r' at same left learns' ⊢
  obtain ⟨result, x⟩ := r
  obtain ⟨result', y⟩ := r'
  cases same with
  | fails f => exact ⟨rfl, left⟩
  | found p p' same =>
    obtain ⟨c, d⟩ := p
    obtain ⟨c', d'⟩ := p'
    exact ⟨congrArg (fun q : Context × Definition => Beginning.goes_on q.1 q.2) same, left⟩
  | nothing =>
    obtain ⟨found, left'⟩ := find_concurs h apart learns learns' left
    dsimp only
    generalize (Dispatch.find m.workspaceId m.botId (.ofMessage m.message) false).run x = s at found left' ⊢
    generalize (Dispatch.find m.workspaceId m.botId (.ofMessage m.message) false).run y = s' at found left' ⊢
    obtain ⟨result, x⟩ := s
    obtain ⟨result', y⟩ := s'
    cases found with
    | fails f => exact ⟨rfl, left'⟩
    | nothing => exact ⟨rfl, left'⟩
    | found d d' same => exact ⟨congrArg Beginning.starts same, left'⟩

/-! ## Answering alike -/

theorem follow_resembles (ignores : i.registry.IgnoresLog) (h : w.Resembles False v) (m : Inbound)
    {b b' : Beginning} (same : b.uncounted = b'.uncounted) :
    ((i.follow m b).run w).1 = ((i.follow m b').run v).1 ∧
      ((i.follow m b).run w).2.Resembles False ((i.follow m b').run v).2 := by
  rw [← follow_uncounted i m b, same, follow_uncounted]
  cases b' with
  | fails f => exact ⟨rfl, h⟩
  | falls_silent =>
    refine ⟨?_, h⟩
    show Except.ok (noFlow w.now) = Except.ok (noFlow v.now)
    rw [h.now]
  | goes_on c d => exact proceed_resembles ignores h m c rfl rfl
  | starts d => exact start_resembles ignores h m d

/-- The same turn follows. -/
theorem turnOf?_resembles (ignores : i.registry.IgnoresLog) (h : w.Resembles False v) (m : Inbound)
    {b b' : Beginning} (same : b.uncounted = b'.uncounted) :
    (i.turnOf? m w b).map Prod.fst = (i.turnOf? m v b').map Prod.fst := by
  rw [← turnOf?_uncounted i m w b, same, turnOf?_uncounted]
  cases b' with
  | fails f => rfl
  | falls_silent => rfl
  | goes_on c d =>
    exact congrArg some
      (Turn.ignoresLog_takeTurn ignores i.maxHops d c (some m.message) w.outside v.outside h.outside).1
  | starts d =>
    simp only [turnOf?, h.now, Option.map_map]
    congr 1
    funext c
    exact (Turn.ignoresLog_takeTurn ignores i.maxHops d _ none w.outside v.outside h.outside).1

/-- A message is answered alike, and by the same turn. -/
theorem process_concurs (ignores : i.registry.IgnoresLog) (h : Concur m w v)
    (apart : Library.AreApart (Asks m w)) :
    (i.process m w).1 = (i.process m v).1 ∧ (i.process m w).2.Resembles False (i.process m v).2 ∧
      i.turned? m w = i.turned? m v := by
  obtain ⟨same, left⟩ := beginning_concurs h apart
  obtain ⟨result, after⟩ := follow_resembles (i := i) ignores left m same
  rw [← respond_eq, ← respond_eq] at result after
  obtain ⟨outcome, resembles⟩ := process_resembles result after
  refine ⟨outcome, resembles, ?_⟩
  rw [turned?_eq, turned?_eq, turnOf?_resembles ignores left m same]

end Interpreter

end ChatFlow
