import ChatFlow.Proofs.Interpreter.Publishing
import ChatFlow.Proofs.Library.Requests
import ChatFlow.Proofs.Store.Flows

/-!
Memory keeps the answers to different requests apart, if the requests do not clash.

The specification is a library whose memory is kept by request and not by key (`Shelved`): a definition is
found again by the request that it was loaded for, and by no other, and an invalidation drops the entries of
one flow. `Separates R` says that on requests from `R` nobody can tell the library from it, by what loads
return, by how many entries invalidations drop or by what remains in memory, over all histories, stores and
faults. It is so exactly if no two requests from `R` clash (`separates_iff`), as with ids that have no colon
(`separates_of_isPlain`). But the store admits arbitrary texts as ids, and so requests do clash
(`Sample.not_separates`).

The worlds of the two libraries differ in what is in memory, which a load from the store does not look at
(`Operation.IgnoresCache`). Then one step preserves that the keys in memory are those of the requests on the
shelf (`Shelved.step_real`), and so does a history.
-/

namespace ChatFlow

open ChatFlow.Flow (Definition)

open Interpreter (Edit)

/-! ## What a load from the store looks at -/

/-- The world with other definitions in memory. -/
def World.withCache (w : World) (cache : List (String × Definition)) : World := { w with cache }

namespace Operation

variable {α β : Type}

/-- The operation neither looks at the definitions in memory nor changes them. -/
def IgnoresCache (x : Operation α) : Prop :=
  ∀ w cache, x.run (w.withCache cache) = ((x.run w).1, (x.run w).2.withCache cache)

theorem ignoresCache_pure (a : α) : (pure a : Operation α).IgnoresCache := fun _ _ => rfl

theorem ignoresCache_ofExcept (e : Except Failure α) : (ofExcept e).IgnoresCache := by
  intro w cache
  rw [run_ofExcept, run_ofExcept]

theorem ignoresCache_now : now.IgnoresCache := fun _ _ => rfl

theorem ignoresCache_bind {x : Operation α} {f : α → Operation β} (hx : x.IgnoresCache)
    (hf : ∀ a, (f a).IgnoresCache) : (x >>= f).IgnoresCache := by
  intro w cache
  rw [run_bind, run_bind, hx w cache]
  rcases x.run w with ⟨e | a, v⟩
  · rfl
  · exact hf a v cache

theorem ignoresCache_orLog (default : α) {x : Operation α} (hx : x.IgnoresCache) :
    (orLog default x).IgnoresCache := by
  intro w cache
  rw [orLog_run, orLog_run, hx w cache]
  rcases x.run w with ⟨e | a, v⟩ <;> rfl

theorem ignoresCache_disturb (a : Access) (c : Option Collection) : (disturb a c).IgnoresCache := by
  intro w cache
  rw [disturb_eq, disturb_eq, World.withCache]
  cases Fault.strike? a c w.faults <;> rfl

theorem ignoresCache_connect : connect.IgnoresCache := by
  intro w cache
  rw [connect, run_bind, run_bind, run_get, run_get]
  cases connected : w.connected with
  | true => simp [World.withCache, connected, run_pure]
  | false =>
    have joins : (modify fun w => { w with connected := true } : Operation Unit).IgnoresCache :=
      fun _ _ => rfl
    have again := ignoresCache_bind (ignoresCache_disturb .connect none) (fun _ => joins) w cache
    simpa [World.withCache, connected] using again

theorem ignoresCache_read (a : Access) (c : Collection) (default : α) (f : Store → α) :
    (read a c default f).IgnoresCache := by
  refine ignoresCache_bind (ignoresCache_disturb a c) fun misses => ?_
  cases misses with
  | true => exact ignoresCache_pure default
  | false => exact fun _ _ => rfl

theorem ignoresCache_consult {record : Entries → Operation α}
    (reads : ∀ doc, (record doc).IgnoresCache) (a : Access) (c : Collection)
    (find : Store → Option Entries) :
    (do
      connect
      orLog none do
        match ← read a c none find with
        | none => return none
        | some doc => return some (← record doc) : Operation (Option α)).IgnoresCache :=
  ignoresCache_bind ignoresCache_connect fun _ =>
    ignoresCache_orLog _ <| ignoresCache_bind (ignoresCache_read a c none find) fun
      | none => ignoresCache_pure none
      | some doc => ignoresCache_bind (reads doc) fun _ => ignoresCache_pure _

theorem ignoresCache_flowRecord (doc : Entries) : (flowRecord doc).IgnoresCache :=
  ignoresCache_bind (ignoresCache_ofExcept _) fun _ =>
    ignoresCache_bind ignoresCache_now fun _ => ignoresCache_ofExcept _

theorem ignoresCache_versionRecord (doc : Entries) : (versionRecord doc).IgnoresCache :=
  ignoresCache_bind (ignoresCache_ofExcept _) fun _ =>
    ignoresCache_bind ignoresCache_now fun _ => ignoresCache_ofExcept _

theorem ignoresCache_getFlow (id : String) : (getFlow id).IgnoresCache :=
  ignoresCache_consult ignoresCache_flowRecord .findOne .flows (·.flow? id)

theorem ignoresCache_getVersion (id : String) : (getVersion id).IgnoresCache :=
  ignoresCache_consult ignoresCache_versionRecord .findOne .versions (·.version? id)

theorem ignoresCache_getLatestVersion (flowId : String) : (getLatestVersion flowId).IgnoresCache :=
  ignoresCache_consult ignoresCache_versionRecord .findOne .versions (·.latestVersion? flowId)

end Operation

open Operation

namespace Library

theorem ignoresCache_resolveVersion (flow : Flow.Record) (flowId : String) (versionId : Option String) :
    (resolveVersion flow flowId versionId).IgnoresCache := by
  unfold resolveVersion
  cases named? versionId with
  | some id => exact ignoresCache_getVersion id
  | none =>
    cases named? flow.currentVersionId with
    | some id => exact ignoresCache_getVersion id
    | none => exact ignoresCache_getLatestVersion flowId

theorem ignoresCache_fetch (flowId : String) (versionId : Option String) :
    (fetch flowId versionId).IgnoresCache :=
  ignoresCache_bind (ignoresCache_getFlow flowId) fun
    | none => ignoresCache_pure none
    | some flow => ignoresCache_bind (ignoresCache_resolveVersion flow flowId versionId) fun
      | none => ignoresCache_pure none
      | some _ => ignoresCache_pure _

/-- An empty version is no version. -/
theorem fetch_of (flowId : String) (versionId : Option String) :
    fetch (Request.of flowId versionId).flowId (Request.of flowId versionId).version
      = fetch flowId versionId := by
  have same (flow : Flow.Record) :
      resolveVersion flow flowId (named? versionId) = resolveVersion flow flowId versionId := by
    rw [resolveVersion, resolveVersion, named?_named?]
  simp only [fetch, Request.of, same]
  rfl

/-! ## Histories -/

/-- What an edit answers. -/
inductive Answer where
  | loaded (result : Except Failure (Option Definition))
  | dropped (count : Nat)
  | done

/-- An edit, with its answer. -/
def step (e : Edit) (w : World) : Answer × World :=
  (match e with
    | .load flowId versionId => .loaded ((load flowId versionId).run w).1
    | .invalidate flowId => .dropped (invalidate flowId w).1
    | .clear | .write _ _ => .done,
  e.apply w)

/-- Edits one after the other, each at a time, with their answers. -/
def run {σ : Type} (step : Edit → σ → Answer × σ) (atTime : σ → Moment → σ) :
    List (Moment × Edit) → σ → List Answer × σ
  | [], s => ([], s)
  | (t, e) :: rest, s =>
    let (answer, s) := step e (atTime s t)
    let (answers, s) := run step atTime rest s
    (answer :: answers, s)

/-! ## The library by requests -/

/-- A library whose memory is a shelf: what is kept there is found by the request it was loaded for. -/
structure Shelved where
  world : World
  shelf : List (Request × Definition)

namespace Shelved

/-- The library at a time. -/
def atTime (s : Shelved) (t : Moment) : Shelved := { s with world := Contention.atTime s.world t }

/-- The definition for a request, from the shelf or else from the store. -/
def load (r : Request) (s : Shelved) : Except Failure (Option Definition) × Shelved :=
  match s.shelf.lookup r with
  | some d => (.ok (some d), s)
  | none =>
    match (fetch r.flowId r.version).run s.world with
    | (.ok (some d), w) => (.ok (some d), ⟨w, s.shelf ++ [(r, d)]⟩)
    | (.ok none, w) => (.ok none, ⟨w.noted .warning component, s.shelf⟩)
    | (.error f, w) => (.error f, ⟨w, s.shelf⟩)

/-- An edit, with its answer. An invalidation drops what was loaded for the flow. -/
def step : Edit → Shelved → Answer × Shelved
  | .load flowId versionId, s =>
    let (result, s) := s.load (.of flowId versionId)
    (.loaded result, s)
  | .invalidate flowId, s =>
    (.dropped (s.shelf.filter (·.1.flowId == flowId)).length,
      { s with shelf := s.shelf.filter (·.1.flowId != flowId) })
  | .clear, s => (.done, { s with shelf := [] })
  | .write flows versions, s => (.done, { s with world := (Edit.write flows versions).apply s.world })

/-- What is on the shelf, by keys. -/
def memory (s : Shelved) : List (String × Definition) :=
  s.shelf.map fun (r, d) => (r.key, d)

end Shelved

/-- The edit asks for definitions, and drops those of flows, that are among the requests. -/
def IsOver (R : Request → Prop) : Edit → Prop
  | .load flowId versionId => R (.of flowId versionId)
  | .invalidate flowId => ∃ r, R r ∧ r.flowId = flowId
  | .clear | .write _ _ => True

/-- On these requests the library answers, and fills its memory, as if it kept its memory by request. -/
def Separates (R : Request → Prop) : Prop :=
  ∀ (w : World) (history : List (Moment × Edit)), w.cache = [] → (∀ e ∈ history, IsOver R e.2) →
    let real := run step Contention.atTime history w
    let ideal := run Shelved.step Shelved.atTime history ⟨w, []⟩
    real.1 = ideal.1 ∧ real.2.cache = ideal.2.memory

/-! ## Requests that do not clash -/

namespace Shelved

variable {R : Request → Prop} {s : Shelved} {r : Request} {d : Definition}

/-- The library with its memory by keys. -/
def real (s : Shelved) : World := s.world.withCache s.memory

/-- What is on the shelf was loaded for requests from `R`. -/
def Holds (R : Request → Prop) (s : Shelved) : Prop := ∀ p ∈ s.shelf, R p.1

theorem lookup_key (apart : AreApart R) (asked : R r) {shelf : List (Request × Definition)}
    (holds : ∀ p ∈ shelf, R p.1) :
    (shelf.map fun (r, d) => (r.key, d)).lookup r.key = shelf.lookup r := by
  induction shelf with
  | nil => rfl
  | cons p rest ih =>
    obtain ⟨r', d⟩ := p
    have kept : R r' := holds _ List.mem_cons_self
    have later := ih fun p here => holds p (List.mem_cons_of_mem _ here)
    have same : (r.key == r'.key) = (r == r') := by
      rw [Bool.eq_iff_iff, beq_iff_eq, beq_iff_eq]
      exact ⟨apart.eq_of_key_eq asked kept, congrArg Request.key⟩
    rw [List.map_cons, List.lookup_cons, List.lookup_cons, same, later]

theorem filter_key (apart : AreApart R) (asked : R r) {shelf : List (Request × Definition)}
    (holds : ∀ p ∈ shelf, R p.1) (keeps : Bool → Bool) :
    (shelf.map fun (r, d) => (r.key, d)).filter (fun (k, _) => keeps (isKeyOf r.flowId k))
      = (shelf.filter fun p => keeps (p.1.flowId == r.flowId)).map fun (r, d) => (r.key, d) := by
  rw [List.filter_map]
  refine congrArg _ (List.filter_congr fun p here => ?_)
  have same : isKeyOf r.flowId p.1.key = (p.1.flowId == r.flowId) := by
    rw [Bool.eq_iff_iff, beq_iff_eq]
    exact Request.isKeyOf_key_iff (apart _ _ asked (holds p here)) (apart _ _ (holds p here) asked)
  exact congrArg keeps same

theorem load_real (apart : AreApart R) (asked : R (.of flowId versionId)) (holds : s.Holds R) :
    (Library.load flowId versionId).run s.real
        = ((s.load (.of flowId versionId)).1, (s.load (.of flowId versionId)).2.real) ∧
      (s.load (.of flowId versionId)).2.Holds R := by
  have found : s.real.cache.lookup (Library.key flowId versionId) = s.shelf.lookup (.of flowId versionId) := by
    rw [← Request.key_of]
    exact lookup_key apart asked holds
  have fetched := ignoresCache_fetch flowId versionId s.world s.memory
  rw [Library.load, run_bind, run_get, load, fetch_of]
  dsimp only
  rw [found]
  cases s.shelf.lookup (.of flowId versionId) with
  | some d => exact ⟨rfl, holds⟩
  | none =>
    dsimp only
    rw [run_bind, real, fetched]
    rcases (fetch flowId versionId).run s.world with ⟨f | _ | d, w⟩
    · exact ⟨rfl, holds⟩
    · exact ⟨rfl, holds⟩
    · refine ⟨?_, fun p here => ?_⟩
      · simp [World.withCache, memory, real, Request.key_of]
        rfl
      · rcases List.mem_append.mp here with there | new
        · exact holds p there
        · rw [List.mem_singleton.mp new]
          exact asked

/-- The two libraries do an edit alike. -/
theorem step_real (apart : AreApart R) (holds : s.Holds R) {e : Edit} (within : IsOver R e) :
    Library.step e s.real = ((step e s).1, (step e s).2.real) ∧ (step e s).2.Holds R := by
  cases e with
  | write flows versions => exact ⟨rfl, holds⟩
  | clear => exact ⟨rfl, fun p here => absurd here List.not_mem_nil⟩
  | load flowId versionId =>
    obtain ⟨same, still⟩ := load_real apart within holds
    refine ⟨?_, still⟩
    rw [Library.step, Edit.apply, same]
    rfl
  | invalidate flowId =>
    obtain ⟨r, asked, rfl⟩ := within
    have dropped := filter_key apart asked holds fun mine => mine
    have left := filter_key apart asked holds fun mine => !mine
    refine ⟨?_, fun p here => holds p (List.mem_filter.mp here).1⟩
    have drops (w : World) : Library.step (.invalidate r.flowId) w =
        (.dropped (w.cache.filter fun (k, _) => isKeyOf r.flowId k).length,
          w.withCache (w.cache.filter fun (k, _) => !isKeyOf r.flowId k)) := rfl
    have remembered : s.real.cache = s.shelf.map fun (r, d) => (r.key, d) := rfl
    rw [drops, remembered, dropped, left, List.length_map]
    rfl

/-- The two libraries go through a history alike. -/
theorem run_real (apart : AreApart R) {history : List (Moment × Edit)} (holds : s.Holds R)
    (within : ∀ e ∈ history, IsOver R e.2) :
    Library.run Library.step Contention.atTime history s.real
      = ((Library.run step atTime history s).1, (Library.run step atTime history s).2.real) := by
  induction history generalizing s with
  | nil => rfl
  | cons e rest ih =>
    obtain ⟨t, e⟩ := e
    have timed : Contention.atTime s.real t = (s.atTime t).real := rfl
    obtain ⟨same, still⟩ := step_real (s := s.atTime t) apart holds (within _ List.mem_cons_self)
    have later := ih still fun e here => within e (List.mem_cons_of_mem _ here)
    rw [Library.run, Library.run, timed, same]
    dsimp only
    rw [later]

end Shelved

/-! ## Requests that clash -/

namespace Request

/-- The document of the flow that is asked for. -/
def flowDocument (r : Request) : Entries :=
  [("_id", .ofId r.flowId), ("workspace_id", .text ""), ("bot_id", .text ""), ("name", .text "")]

/-- The document of a version of it, whose id stands in the key. -/
def versionDocument (r : Request) : Entries :=
  [("_id", .ofId r.word), ("flow_id", .text r.flowId), ("version", .int 1)]

/-- A world with the flow and the version, and nothing in memory. -/
def world (r : Request) : World where
  outside := ⟨Sample.noon, [], [], [], []⟩
  store := ⟨[r.flowDocument], [r.versionDocument], []⟩
  faults := []
  connected := true
  cache := []

theorem ofDocument?_flowDocument (r : Request) (t : Moment) :
    ∃ flow, Flow.Record.ofDocument? t r.flowDocument = .ok flow ∧ flow.currentVersionId = none := by
  unfold flowDocument
  rcases Value.ofId_cases r.flowId with text | ⟨hex, record⟩
  · rw [text]
    exact ⟨_, by with_unfolding_all rfl, rfl⟩
  · rw [record]
    exact ⟨_, by with_unfolding_all rfl, rfl⟩

theorem ofDocument?_versionDocument (r : Request) (t : Moment) :
    ∃ version, Flow.Version.ofDocument? t r.versionDocument = .ok version ∧ version.flowId = r.flowId := by
  unfold versionDocument
  rcases Value.ofId_cases r.word with text | ⟨hex, record⟩
  · rw [text]
    exact ⟨_, by with_unfolding_all rfl, rfl⟩
  · rw [record]
    exact ⟨_, by with_unfolding_all rfl, rfl⟩

/-- In that world the request, and the one with the same key for the same flow, is answered with a
definition. -/
theorem exists_definition (r : Request) {r' : Request} (flow : r'.flowId = r.flowId)
    (word : r'.word = r.word) (t : Moment) :
    ∃ d, r.world.store.definition? t r'.flowId r'.version = some d := by
  obtain ⟨record, readsFlow, current⟩ := r.ofDocument?_flowDocument t
  obtain ⟨version, readsVersion, own⟩ := r.ofDocument?_versionDocument t
  have flowFound : r.world.store.flow? r.flowId = some r.flowDocument := by
    simp [world, Store.flow?, Documents.find?, Entries.holdsAll_ofId_iff, flowDocument]
  have versionFound : r.world.store.version? r.word = some r.versionDocument := by
    simp [world, Store.version?, Documents.find?, Entries.holdsAll_ofId_iff, versionDocument]
  have latestFound : r.world.store.latestVersion? r.flowId = some r.versionDocument := by
    have mine : r.versionDocument.holds "flow_id" (.text r.flowId) = true := by
      simp [Entries.holds_text_iff, versionDocument, List.lookup_cons]
    simp [world, Store.latestVersion?, mine, Store.highest]
  have found : r.world.store.versionFor? t record r'.flowId r'.version = some version := by
    unfold Store.versionFor?
    cases asked : r'.version with
    | none => simp [named?, current, flow, latestFound, readsVersion, Except.toOption]
    | some v =>
      have named : v ≠ "" := fun empty => r'.named (by rw [asked, empty])
      have present : named? (some v) = some v := by simp [named?, named]
      have here : r.word = v := by rw [← word, Request.word, asked, Option.getD_some]
      rw [here] at versionFound
      simp [present, Store.readVersion?, versionFound, readsVersion, Except.toOption]
  rw [flow] at found ⊢
  exact ⟨⟨record, version⟩, by
    simp [Store.definition?, Store.readFlow?, flowFound, readsFlow, Except.toOption, found, own]⟩

end Request

section Loads

variable {w : World} {flowId : String} {versionId : Option String} {d : Definition}

/-- What is not in memory is loaded from the store, and kept. -/
theorem apply_load_new (quiet : w.IsQuiet) (new : w.cache.lookup (key flowId versionId) = none)
    (found : w.store.definition? w.now flowId versionId = some d) :
    ((Edit.load flowId versionId).apply w).cache = w.cache ++ [(key flowId versionId, d)] := by
  obtain ⟨v, consults, fetched⟩ := fetch_run quiet flowId versionId
  rw [Edit.apply, load, run_bind, run_get]
  dsimp only
  rw [new]
  dsimp only
  rw [run_bind, fetched, found, ← consults.cache]
  rfl

/-- What is in memory is not loaded. -/
theorem apply_load_held (held : w.cache.lookup (key flowId versionId) = some d) :
    (Edit.load flowId versionId).apply w = w := by
  rw [Edit.apply, load, run_bind, run_get]
  dsimp only
  rw [held]
  rfl

theorem Shelved.step_new {s : Shelved} {r : Request} (quiet : s.world.IsQuiet)
    (new : s.shelf.lookup r = none)
    (found : s.world.store.definition? s.world.now r.flowId r.version = some d) :
    s.world.Consults (step (.load r.flowId r.version) s).2.world ∧
      (step (.load r.flowId r.version) s).2.shelf = s.shelf ++ [(r, d)] := by
  obtain ⟨v, consults, fetched⟩ := fetch_run quiet r.flowId r.version
  rw [step, Request.of_flowId_version, load, new]
  dsimp only
  rw [fetched, found]
  exact ⟨consults, rfl⟩

end Loads

variable {R : Request → Prop}

/-- Requests that do not clash are kept apart. -/
theorem separates_of_areApart (apart : AreApart R) : Separates R := by
  intro w history empty within
  have real : Shelved.real ⟨w, []⟩ = w := by
    rw [Shelved.real, Shelved.memory, World.withCache, List.map_nil, ← empty]
  have same := Shelved.run_real (s := ⟨w, []⟩) apart (fun p here => absurd here List.not_mem_nil) within
  rw [real] at same
  rw [same]
  exact ⟨rfl, rfl⟩

/-- What is in memory after two edits at noon. -/
theorem Separates.memory_eq (h : Separates R) (r : Request) {e e' : Edit} (first : IsOver R e)
    (second : IsOver R e') :
    (e'.apply (Contention.atTime (e.apply r.world) Sample.noon)).cache
      = (Shelved.step e' ((Shelved.step e ⟨r.world, []⟩).2.atTime Sample.noon)).2.memory := by
  refine (h r.world [(Sample.noon, e), (Sample.noon, e')] rfl ?_).2
  simp [first, second]

/-- An invalidation drops what is in memory for a flow whose id goes on from the given one. -/
theorem not_separates_of_continued {r r' : Request} {rest : String} (asked : R r) (asked' : R r')
    (flow : r'.flowId = r.flowId ++ ":" ++ rest) : ¬ Separates R := by
  intro separates
  have loading : IsOver R (.load r'.flowId r'.version) := by simpa [IsOver] using asked'
  have dropping : IsOver R (.invalidate r.flowId) := ⟨r, asked, rfl⟩
  have memory := separates.memory_eq r' loading dropping
  obtain ⟨d, found⟩ := r'.exists_definition rfl rfl Sample.noon
  have cache := apply_load_new (w := r'.world) rfl rfl found
  obtain ⟨-, shelf⟩ := Shelved.step_new (s := ⟨r'.world, []⟩) rfl rfl found
  have other : r'.flowId ≠ r.flowId := by
    intro same
    have lengths := congrArg (·.toList.length) (same.symm.trans flow)
    simp at lengths
  have drops : isKeyOf r.flowId (Library.key r'.flowId r'.version) = true := by
    rw [← Request.key_of, Request.of_flowId_version]
    exact Request.isKeyOf_of_continued flow
  generalize (Edit.load r'.flowId r'.version).apply r'.world = v at cache memory
  generalize (Shelved.step (.load r'.flowId r'.version) ⟨r'.world, []⟩).2 = s at shelf memory
  change v.cache.filter (fun (k, _) => !isKeyOf r.flowId k)
    = (s.shelf.filter (·.1.flowId != r.flowId)).map fun (r, d) => (r.key, d) at memory
  simp [cache, shelf, Request.world, drops, other] at memory

/-- The answer to a request for the current version is also given for the version of that name. -/
theorem not_separates_of_reserved {r r' : Request} (asked : R r) (asked' : R r')
    (flow : r.flowId = r'.flowId) (current : r.version = none) (named : r'.version = some "current") :
    ¬ Separates R := by
  intro separates
  have loading : IsOver R (.load r.flowId r.version) := by simpa [IsOver] using asked
  have loading' : IsOver R (.load r'.flowId r'.version) := by simpa [IsOver] using asked'
  have memory := separates.memory_eq r' loading loading'
  have word : r.word = r'.word := by rw [Request.word, Request.word, current, named]; rfl
  have key : Library.key r'.flowId r'.version = Library.key r.flowId r.version := by
    rw [← Request.key_of, ← Request.key_of, Request.of_flowId_version, Request.of_flowId_version,
      Request.key, Request.key, flow, word]
  have other : r' ≠ r := by
    rintro rfl
    rw [current] at named
    cases named
  obtain ⟨d, found⟩ := r'.exists_definition flow word Sample.noon
  obtain ⟨d', found'⟩ := r'.exists_definition rfl rfl Sample.noon
  have cache := apply_load_new (w := r'.world) rfl rfl found
  obtain ⟨consults, shelf⟩ := Shelved.step_new (s := ⟨r'.world, []⟩) rfl rfl found
  generalize (Edit.load r.flowId r.version).apply r'.world = v at cache memory
  generalize (Shelved.step (.load r.flowId r.version) ⟨r'.world, []⟩).2 = s at consults shelf memory
  have held : (Contention.atTime v Sample.noon).cache.lookup (Library.key r'.flowId r'.version) = some d := by
    show v.cache.lookup _ = _
    simp [cache, Request.world, key]
  have new : (s.atTime Sample.noon).shelf.lookup r' = none := by
    show s.shelf.lookup r' = none
    simp [shelf, List.lookup_cons, beq_false_of_ne other]
  have there : (s.atTime Sample.noon).world.store.definition? Sample.noon r'.flowId r'.version = some d' := by
    rw [← found', show (s.atTime Sample.noon).world.store = r'.world.store from consults.store]
  obtain ⟨-, shelf'⟩ := Shelved.step_new (s := s.atTime Sample.noon) (consults.isQuiet rfl) new there
  rw [apply_load_held held, Shelved.memory, shelf'] at memory
  have lengths := congrArg List.length memory
  simp [Contention.atTime, World.withOutside, cache, Shelved.atTime, shelf, Request.world] at lengths

/-- Keeping the answers to requests apart in memory comes to the requests not clashing. -/
theorem separates_iff : Separates R ↔ ∀ r r', R r → R r' → ¬ r.Clashes r' := by
  refine ⟨fun separates r r' asked asked' clashes => ?_, separates_of_areApart⟩
  cases clashes with
  | reserved flow current word => exact not_separates_of_reserved asked asked' flow current word separates
  | continued rest flow => exact not_separates_of_continued asked asked' flow separates

/-- Requests with plain ids are kept apart. -/
theorem separates_of_isPlain (plain : ∀ r, R r → r.IsPlain) : Separates R :=
  separates_of_areApart fun _ r' _ asked' => (plain r' asked').not_clashes

/-- The flow of the definition that an answer gives. -/
def Answer.flowId? : Answer → Option String
  | .loaded (.ok (some d)) => d.flow.id
  | _ => none

/-- The number of definitions that an answer reports as dropped. -/
def Answer.count : Answer → Nat
  | .dropped n => n
  | _ => 0

end Library

namespace Sample

open Library

/-- The request for the version `b:c` of flow `a`. -/
def outer : Request := .of "a" (some "b:c")

/-- The request for the version `c` of flow `a:b`. -/
def inner : Request := .of "a:b" (some "c")

/-- The world with the two flows and their versions. -/
def colons : World := { outer.world with
  store := ⟨[outer.flowDocument, inner.flowDocument], [outer.versionDocument, inner.versionDocument], []⟩ }

/-- Flow ids with colons mix up: the version of the one flow is answered with that of the other, and an
invalidation of the one drops what is in memory for the other. And the current version of a flow is
answered for a version that is not there. -/
theorem not_separates :
    ¬ Separates (fun r => r = outer ∨ r = inner) ∧
    ¬ Separates (fun r => r = .of "a" none ∨ r = .of "a:b" none) ∧
    ¬ Separates (fun r => r = .of "a" none ∨ r = .of "a" (some "current")) := by
  refine ⟨fun separates => ?answers, fun separates => ?drops, fun separates => ?current⟩
  case answers =>
    have same := (separates colons [(noon, .load "a" (some "b:c")), (noon, .load "a:b" (some "c"))] rfl
      (by simp [IsOver, outer, inner])).1
    exact absurd (congrArg (List.map Answer.flowId?) same) (by decide +kernel)
  case drops =>
    have same := (separates colons [(noon, .load "a:b" none), (noon, .invalidate "a")] rfl
      (by simp [IsOver])).1
    exact absurd (congrArg (List.map Answer.count) same) (by decide +kernel)
  case current =>
    have same := (separates colons [(noon, .load "a" none), (noon, .load "a" (some "current"))] rfl
      (by simp [IsOver])).1
    exact absurd (congrArg (List.map Answer.flowId?) same) (by decide +kernel)

end Sample

end ChatFlow
