import ChatFlow.Proofs.Library.Resolving
import ChatFlow.Proofs.Library.Separation

/-!
Memory is transparent, if authors have it invalidated.

Definitions in memory do not expire and are not compared with the store. So whoever writes to a flow, or to
one of its versions, has to have the flow invalidated before it is asked for again (`Library.Invalidates`).
Then every answer is that of a load from the store at that moment (`Library.load_transparent`): run
counters aside, and a time that a document does not give is the one at which the definition was loaded, not
the present.

The invariant is that what is in memory for the flow is what the store gives for it (`Library.IsFresh`). A
write may break it, and the next invalidation restores it (`Library.isFresh_apply`); over a history it holds
at the end, or memory was not invalidated yet (`Library.isFresh_after`). No condition can be spared
(`Sample.load_not_transparent`).
-/

namespace ChatFlow

open ChatFlow.Flow (Definition)

open Interpreter (Edit)

open Contention (atTime)

namespace Library

/-! ## Histories in which memory is invalidated -/

/-- The world after a history. -/
def after (history : List (Moment × Edit)) (w : World) : World :=
  (run step atTime history w).2

/-- What is in memory for a flow is dropped before anybody asks for the flow. -/
def Drops (flowId : String) : List (Moment × Edit) → Prop
  | [] => False
  | (_, .invalidate id) :: rest => id = flowId ∨ Drops flowId rest
  | (_, .clear) :: _ => True
  | (_, .load id _) :: rest => id ≠ flowId ∧ Drops flowId rest
  | (_, .write _ _) :: rest => Drops flowId rest

/-- After every write to the flow or one of its versions, what is in memory for the flow is dropped before
anybody asks for it. -/
def Invalidates (flowId : String) : List (Moment × Edit) → World → Prop
  | [], _ => True
  | (t, e) :: rest, w =>
    (Store.LeavesFlow flowId w.store (e.apply (atTime w t)).store ∨ Drops flowId rest) ∧
      Invalidates flowId rest (e.apply (atTime w t))

/-- Nobody asks for a flow whose id has a colon, or for a version named like the current one. -/
def ArePlain (history : List (Moment × Edit)) : Prop :=
  ∀ t flowId versionId, (t, Edit.load flowId versionId) ∈ history → (Request.of flowId versionId).IsPlain

/-- The definition for a request is, run counters aside, the one that is read from the store at a time, and
this is what the request is resolved to. -/
def IsUncached (w : World) (t : Moment) (flowId : String) (versionId : Option String) : Prop :=
  ∃ known read,
    ((load flowId versionId).run w).1 = .ok known ∧
    ((fetch flowId versionId).run (atTime w t)).1 = .ok read ∧
    known.map Definition.uncounted = read.map Definition.uncounted ∧
    w.store.Resolves t flowId versionId read

/-! ## What is in memory -/

variable {w v : World} {flowId : String} {times : List Moment} {history : List (Moment × Edit)}

/-- What is in memory for the flow was read at one of the times, and is what is stored, run counters
aside. -/
def IsFresh (flowId : String) (times : List Moment) (w : World) : Prop :=
  ∀ versionId d, (Request.of flowId versionId).IsPlain →
    w.cache.lookup (key flowId versionId) = some d →
    ∃ t ∈ times, (w.store.definition? t flowId versionId).map Definition.uncounted = some d.uncounted

theorem definition?_of_named? {s : Store} {t : Moment} {a b : Option String} (same : named? a = named? b) :
    s.definition? t flowId a = s.definition? t flowId b := by
  unfold Store.definition? Store.versionFor?
  rw [same]

namespace IsFresh

/-- An empty memory is fresh. -/
theorem of_nil (empty : ∀ versionId, w.cache.lookup (key flowId versionId) = none) :
    IsFresh flowId times w := by
  intro versionId d _ held
  rw [empty] at held
  cases held

/-- A write that leaves the flow alone leaves memory fresh. -/
theorem of_leavesFlow (h : IsFresh flowId times w) (leaves : Store.LeavesFlow flowId w.store v.store)
    (cache : v.cache = w.cache) : IsFresh flowId times v := by
  intro versionId d plain held
  rw [cache] at held
  obtain ⟨t, here, same⟩ := h versionId d plain held
  exact ⟨t, here, (leaves.definition?_eq t versionId).trans same⟩

/-- What remains when something is dropped is fresh. -/
theorem drops (h : IsFresh flowId times w) (store : v.store = w.store) (keeps : String → Bool)
    (cache : v.cache = w.cache.filter fun (k, _) => keeps k) : IsFresh flowId times v := by
  intro versionId d plain held
  rw [cache, Entries.lookup_filter] at held
  split at held
  · rw [store]
    exact h versionId d plain held
  · cases held

/-- A load leaves memory fresh. -/
theorem leaves (h : IsFresh flowId times w) (now : w.now ∈ times) {id : String}
    {requested : Option String} (asked : (Request.of id requested).IsPlain)
    (left : Leaves id requested w v) : IsFresh flowId times v := by
  intro versionId d plain held
  rw [left.store]
  rw [left.memory] at held
  split at held
  case isTrue same =>
    rw [← Request.key_of, ← Request.key_of] at same
    have one := Request.eq_of_key_eq asked.not_clashes plain.not_clashes same
    have flow : flowId = id := congrArg Request.flowId one
    have version : named? versionId = named? requested := congrArg Request.version one
    subst flow
    have known : ∃ t ∈ times,
        (w.store.definition? t flowId requested).map Definition.uncounted = some d.uncounted := by
      unfold known? at held
      cases there : w.cache.lookup (key flowId requested) with
      | some d' =>
        rw [there, Option.some_or] at held
        cases held
        exact h requested d asked there
      | none =>
        rw [there, Option.none_or] at held
        exact ⟨w.now, now, congrArg (Option.map Definition.uncounted) held⟩
    obtain ⟨t, here, read⟩ := known
    exact ⟨t, here, by rw [definition?_of_named? version, read]⟩
  case isFalse => exact h versionId d plain held

end IsFresh

/-- An invalidation of a flow drops all there is in memory for it. -/
theorem isFresh_invalidate (flowId : String) (times : List Moment) (w : World) :
    IsFresh flowId times ((Edit.invalidate flowId).apply w) := by
  refine .of_nil fun versionId => ?_
  show (w.cache.filter fun (k, _) => !isKeyOf flowId k).lookup (key flowId versionId) = none
  have mine : isKeyOf flowId (key flowId versionId) = true := by
    rw [← Request.key_of]
    exact (Request.of flowId versionId).isKeyOf_flowId_key
  rw [Entries.lookup_filter _ (!isKeyOf flowId ·), mine]
  rfl

/-- Memory that is fresh, or is dropped before anybody asks for the flow, is so after an edit. -/
theorem isFresh_apply {e : Edit} {rest : List (Moment × Edit)} (quiet : w.IsQuiet) (now : w.now ∈ times)
    (plain : ∀ id requested, e = .load id requested → (Request.of id requested).IsPlain)
    (invalidates : Store.LeavesFlow flowId w.store (e.apply w).store ∨ Drops flowId rest)
    (h : IsFresh flowId times w ∨ Drops flowId ((w.now, e) :: rest)) :
    IsFresh flowId times (e.apply w) ∨ Drops flowId rest := by
  cases e with
  | write flows versions =>
    rcases h with fresh | drops
    · exact invalidates.imp_left fun leaves => fresh.of_leavesFlow leaves rfl
    · exact .inr drops
  | clear => exact .inl (.of_nil fun _ => rfl)
  | invalidate id =>
    rcases h with fresh | rfl | drops
    · exact .inl (fresh.drops rfl (!isKeyOf id ·) rfl)
    · exact .inl (isFresh_invalidate _ times w)
    · exact .inr drops
  | load id requested =>
    rcases h with fresh | ⟨-, drops⟩
    · obtain ⟨v, left, loads⟩ := load_run quiet id requested
      rw [Edit.apply, loads]
      exact .inl (fresh.leaves now (plain id requested rfl) left)
    · exact .inr drops

theorem after_cons (t : Moment) (e : Edit) (rest : List (Moment × Edit)) (w : World) :
    after ((t, e) :: rest) w = after rest (e.apply (atTime w t)) := rfl

/-- Over a history in which it is invalidated memory is fresh in the end. -/
theorem isFresh_after (quiet : w.IsQuiet) (plain : ArePlain history)
    (during : ∀ e ∈ history, e.1 ∈ times) (invalidates : Invalidates flowId history w)
    (h : IsFresh flowId times w ∨ Drops flowId history) :
    (after history w).IsQuiet ∧ IsFresh flowId times (after history w) := by
  induction history generalizing w with
  | nil => exact ⟨quiet, h.resolve_right id⟩
  | cons first rest ih =>
    obtain ⟨t, e⟩ := first
    obtain ⟨edit, later⟩ := invalidates
    have timed : IsFresh flowId times (atTime w t) ∨ Drops flowId ((t, e) :: rest) :=
      h.imp_left fun fresh => fresh.of_leavesFlow (.refl _ _) rfl
    have quiet' : (e.apply (atTime w t)).IsQuiet := (e.leaves (w := atTime w t) quiet).2.1.trans quiet
    rw [after_cons]
    refine ih quiet' (fun t id requested here => plain t id requested (List.mem_cons_of_mem _ here))
      (fun e here => during e (List.mem_cons_of_mem _ here)) later ?_
    exact isFresh_apply (w := atTime w t) quiet (during _ List.mem_cons_self)
      (fun id requested load => plain t id requested (load ▸ List.mem_cons_self)) edit timed

/-- Where no fault waits, a load is answered from fresh memory as it would be from the store. -/
theorem isUncached_of_isFresh {versionId : Option String} (quiet : w.IsQuiet)
    (plain : (Request.of flowId versionId).IsPlain) (fresh : IsFresh flowId times w)
    (numbered : (w.store.versionsOf flowId).AreNumbered) :
    ∃ t ∈ w.now :: times, IsUncached w t flowId versionId := by
  obtain ⟨v, -, loads⟩ := load_run quiet flowId versionId
  have resolves (t : Moment) := Store.resolves_definition? numbered t versionId
  have fetches (t : Moment) : ((fetch flowId versionId).run (atTime w t)).1
      = .ok (w.store.definition? t flowId versionId) := by
    obtain ⟨u, -, fetched⟩ := fetch_run (w := atTime w t) quiet flowId versionId
    rw [fetched]
    rfl
  have same : ∃ t ∈ w.now :: times, (known? w flowId versionId).map Definition.uncounted
      = (w.store.definition? t flowId versionId).map Definition.uncounted := by
    unfold known?
    cases held : w.cache.lookup (key flowId versionId) with
    | none =>
      rw [Option.none_or]
      exact ⟨w.now, List.mem_cons_self, rfl⟩
    | some d =>
      obtain ⟨t, here, read⟩ := fresh versionId d plain held
      exact ⟨t, List.mem_cons_of_mem _ here, read.symm⟩
  obtain ⟨t, here, same⟩ := same
  exact ⟨t, here, known? w flowId versionId, _, by rw [loads], fetches t, same, resolves t⟩

/-- Whenever a flow is asked for, after a history from an empty memory in which it is invalidated after
every write, the answer is that of a load from the store at that moment. -/
theorem load_transparent (quiet : w.IsQuiet) (empty : w.cache = []) (plain : ArePlain history)
    (invalidates : Invalidates flowId history w) (now : Moment) {versionId : Option String}
    (asked : (Request.of flowId versionId).IsPlain)
    (numbered : ((after history w).store.versionsOf flowId).AreNumbered) :
    ∃ t ∈ now :: history.map Prod.fst, IsUncached (atTime (after history w) now) t flowId versionId := by
  have fresh : IsFresh flowId (history.map Prod.fst) w := .of_nil fun _ => by rw [empty]; rfl
  obtain ⟨still, fresh⟩ := isFresh_after quiet plain
    (fun e here => List.mem_map_of_mem here) invalidates (.inl fresh)
  have timed : IsFresh flowId (history.map Prod.fst) (atTime (after history w) now) :=
    fresh.of_leavesFlow (.refl _ _) rfl
  exact isUncached_of_isFresh (w := atTime (after history w) now) still asked timed numbered

end Library

namespace Sample

open Library

/-- The world of the bot with these versions of its flow, and nothing in memory. -/
def unloaded (versions : Documents) : World := { asking versions with cache := [] }

/-- A second version is added when the first is in memory, and the flow is invalidated. -/
def revision : List (Moment × Edit) :=
  [(noon, .load "greeting" none), (noon, addition), (noon, .invalidate "greeting")]

theorem isPlain_greeting : (Request.of "greeting" none).IsPlain := ⟨by decide, nofun⟩

theorem arePlain_revision : ArePlain revision := by
  intro t flowId versionId here
  simp only [revision, addition, List.mem_cons, Prod.mk.injEq, Edit.load.injEq, reduceCtorEq, and_false,
    List.not_mem_nil, or_false] at here
  obtain ⟨-, rfl, rfl⟩ := here
  exact isPlain_greeting

theorem load_transparent_revision :
    ∃ t ∈ nextNoon :: revision.map Prod.fst,
      IsUncached (atTime (after revision (unloaded [versionDocument])) nextNoon) t "greeting" none := by
  have loaded : Store.LeavesFlow "greeting" (unloaded [versionDocument]).store
      ((Edit.load "greeting" none).apply (atTime (unloaded [versionDocument]) noon)).store := .refl _ _
  have quiet : (unloaded [versionDocument]).IsQuiet := rfl
  refine load_transparent quiet rfl arePlain_revision ?_ nextNoon isPlain_greeting ?_
  · exact ⟨.inl loaded, .inr (.inl rfl), .inl (.refl _ _), trivial⟩
  · have two : (after revision (unloaded [versionDocument])).store.versionsOf "greeting"
        = [versionDocument, nextDocument] := by with_unfolding_all rfl
    rw [two]
    simp [Documents.AreNumbered, versionDocument, nextDocument, List.lookup_cons]

/-- The document of the flow's version, numbered by a text. -/
def lettered (id number : String) : Entries :=
  [("_id", .text id), ("flow_id", .text "greeting"), ("version", .text number)]

/-- The world of the bot with a ninth and a tenth version whose numbers are texts. -/
def textual : World := unloaded [lettered "v9" "9", lettered "v10" "10"]

/-- The world of the bot with nothing in memory, in which the flow cannot be read at once. -/
def troubled : World := { unloaded [versionDocument] with faults := [failing .findOne .flows] }

/-- The time that a definition gives for its flow. -/
def createdAt (d? : Option Definition) : Option Moment := d?.bind (·.flow.createdAt)

/-- A definition in memory has the time of its loading, if the document gives none. -/
theorem not_isUncached_loaded :
    ¬ IsUncached (atTime (after [(noon, .load "greeting" none)] (unloaded [versionDocument])) nextNoon)
      nextNoon "greeting" none := by
  rintro ⟨known, read, loads, fetches, same, -⟩
  have aside (d? : Option Definition) : createdAt (d?.map Definition.uncounted) = createdAt d? := by
    cases d? <;> rfl
  have one : createdAt known = createdAt read := by rw [← aside, same, aside]
  have early : ((load "greeting" none).run (atTime (after [(noon, .load "greeting" none)]
      (unloaded [versionDocument])) nextNoon)).1.toOption.map createdAt = some (some noon) := by
    decide +kernel
  have late : ((fetch "greeting" none).run (atTime (atTime (after [(noon, .load "greeting" none)]
      (unloaded [versionDocument])) nextNoon) nextNoon)).1.toOption.map createdAt
        = some (some nextNoon) := by
    decide +kernel
  rw [loads] at early
  rw [fetches] at late
  have apart := (Option.some.inj early).symm.trans (one.trans (Option.some.inj late))
  exact absurd apart (by decide)

/-- The store takes `9` for a higher number than `10` if they are texts. -/
theorem not_isUncached_textual : ¬ IsUncached textual noon "greeting" none := by
  rintro ⟨known, read, loads, fetches, same, resolves⟩
  have ninth : ((fetch "greeting" none).run (atTime textual noon)).1.toOption.map
      (Option.map (·.version.version)) = some (some 9) := by decide +kernel
  rw [fetches] at ninth
  have number : read.map (·.version.version) = some 9 := Option.some.inj ninth
  cases resolves with
  | missing absent => cases number
  | unversioned reads absent => cases number
  | unfit reads means unfit => cases number
  | @found flow version doc reads means read own =>
    have number : version.version = 9 := Option.some.inj number
    cases means with
    | explicit asked found => cases asked
    | current unasked current found =>
      have unnamed : (textual.store.readFlow? noon "greeting").map (named? ·.currentVersionId)
          = some none := by decide +kernel
      rw [reads] at unnamed
      exact absurd (current.symm.trans (Option.some.inj unnamed)) nofun
    | latest unasked unnamed own highest =>
      have all : textual.store.versionsOf "greeting" = [lettered "v9" "9", lettered "v10" "10"] := by
        with_unfolding_all rfl
      rw [all] at own highest
      have nine : (lettered "v9" "9").versionNumber? = some 9 := by decide +kernel
      have ten : (lettered "v10" "10").versionNumber? = some 10 := by decide +kernel
      rcases own with _ | ⟨_, _ | ⟨_, ⟨⟩⟩⟩
      · have most := highest 9 nine _ (List.mem_cons_of_mem _ List.mem_cons_self) 10 ten
        exact absurd most (by decide)
      · have tenth : (Flow.Version.ofDocument? noon (lettered "v10" "10")).toOption.map (·.version)
            = some 10 := by decide +kernel
        rw [read] at tenth
        have tenth : version.version = 10 := Option.some.inj tenth
        rw [number] at tenth
        cases tenth

/-- A flow that cannot be read is taken for one that is missing. -/
theorem not_isUncached_troubled : ¬ IsUncached troubled noon "greeting" (some "v1") := by
  rintro ⟨known, read, loads, fetches, same, resolves⟩
  have fails : ((fetch "greeting" (some "v1")).run (atTime troubled noon)).1.toOption.map Option.isSome
      = some false := by decide +kernel
  rw [fetches] at fails
  have nothing : read = none := Option.isNone_iff_eq_none.mp (by simpa using Option.some.inj fails)
  have found : troubled.store.version? "v1" = some versionDocument := by with_unfolding_all rfl
  rw [nothing] at resolves
  cases resolves with
  | missing absent =>
    have there : (troubled.store.readFlow? noon "greeting").isSome = true := by decide +kernel
    rw [absent] at there
    cases there
  | unversioned reads absent => exact absent versionDocument (.explicit rfl found)
  | unfit reads means unfit =>
    cases means with
    | current unasked current found' => cases unasked
    | latest unasked unnamed own highest => cases unasked
    | explicit asked found' =>
      cases asked
      rw [found] at found'
      cases found'
      have own : (Flow.Version.ofDocument? noon versionDocument).toOption.map (·.flowId)
          = some "greeting" := by decide +kernel
      cases version : Flow.Version.ofDocument? noon versionDocument with
      | error f =>
        rw [version] at own
        cases own
      | ok v =>
        rw [version] at own
        exact unfit v version (Option.some.inj own)

/-- Each condition is needed, and so is the time of loading: an answer from memory has times that a load
at the moment would not have, the highest version is another one where the numbers are texts, and a fault
hides a flow that is there. -/
theorem load_not_transparent :
    (¬ ∀ (w : World) (history : List (Moment × Edit)) (now : Moment) (flowId : String)
      (versionId : Option String), w.IsQuiet → w.cache = [] → ArePlain history →
      Invalidates flowId history w → (Request.of flowId versionId).IsPlain →
      ((after history w).store.versionsOf flowId).AreNumbered →
      IsUncached (atTime (after history w) now) now flowId versionId) ∧
    (¬ ∀ (w : World) (history : List (Moment × Edit)) (now : Moment) (flowId : String)
      (versionId : Option String), w.IsQuiet → w.cache = [] → ArePlain history →
      Invalidates flowId history w → (Request.of flowId versionId).IsPlain →
      ∃ t ∈ now :: history.map Prod.fst,
        IsUncached (atTime (after history w) now) t flowId versionId) ∧
    ¬ ∀ (w : World) (history : List (Moment × Edit)) (now : Moment) (flowId : String)
      (versionId : Option String), w.cache = [] → ArePlain history →
      Invalidates flowId history w → (Request.of flowId versionId).IsPlain →
      ((after history w).store.versionsOf flowId).AreNumbered →
      ∃ t ∈ now :: history.map Prod.fst,
        IsUncached (atTime (after history w) now) t flowId versionId := by
  refine ⟨fun transparent => ?loaded, fun transparent => ?textual, fun transparent => ?troubled⟩
  case loaded =>
    have plain : ArePlain [(noon, .load "greeting" none)] := fun t flowId versionId here =>
      arePlain_revision t flowId versionId (List.mem_cons.mpr (.inl (List.mem_singleton.mp here)))
    refine not_isUncached_loaded (transparent (unloaded [versionDocument])
      [(noon, .load "greeting" none)] nextNoon "greeting" none rfl rfl plain
      ⟨.inl (.refl _ _), trivial⟩ isPlain_greeting ?_)
    have one : (after [(noon, .load "greeting" none)] (unloaded [versionDocument])).store.versionsOf
        "greeting" = [versionDocument] := by with_unfolding_all rfl
    rw [one]
    simp [Documents.AreNumbered, versionDocument, List.lookup_cons]
  case textual =>
    obtain ⟨t, here, uncached⟩ := transparent textual [] noon "greeting" none rfl rfl nofun trivial
      isPlain_greeting
    rw [List.mem_singleton.mp here] at uncached
    exact not_isUncached_textual uncached
  case troubled =>
    have one : troubled.store.versionsOf "greeting" = [versionDocument] := by with_unfolding_all rfl
    obtain ⟨t, here, uncached⟩ := transparent troubled [] noon "greeting" (some "v1") rfl nofun trivial
      ⟨by decide, by decide⟩ (by
        rw [show (after [] troubled).store.versionsOf "greeting" = [versionDocument] from one]
        simp [Documents.AreNumbered, versionDocument, List.lookup_cons])
    rw [List.mem_singleton.mp here] at uncached
    exact not_isUncached_troubled uncached

end Sample

end ChatFlow
