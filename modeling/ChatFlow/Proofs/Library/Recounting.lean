import ChatFlow.Proofs.Library.Resolving
import ChatFlow.Proofs.Store.Increments

/-!
Flows that are read after a run was counted.

Counting a run writes two counters and the time of the last change. Whoever reads the flow afterwards reads
what was read before but for these (`Record.ofDocument?_counting`), and cannot read it if it could not be
read before, provided that the reading did not fail for the very entries that are written over: the time of
the last change, or a counter that is no integer (`Entries.IsSteady`). So the same flows are found by an id
and among the active flows of a bot (`Store.Recounts`), the same definitions are loaded and the same flow is
chosen for an event.
-/

namespace ChatFlow

open ChatFlow.Flow (Record Definition Candidate Event)

open Entries (CountsRun countedKeys)

open Schema

namespace Entries

variable {doc doc' : Entries} {success : Bool}

/-- The time of the last change can be read, or is not given. -/
def IsTimed (doc : Entries) : Prop := ∃ t, defaulted doc "updated_at" none (nullable moment) = .valid t

/-- Whether a flow can be read does not depend on how many of its runs were counted: its counters are no
floating-point numbers, and the time of its last change can be read or is not given. -/
structure IsSteady (doc : Entries) : Prop where
  exact : doc.IsExact
  timed : doc.IsTimed

theorem CountsRun.isTimed (counts : CountsRun success doc doc') : doc'.IsTimed := by
  obtain ⟨t, given⟩ := counts.time
  exact ⟨some t, by rw [defaulted_of_lookup given (a := some t) rfl]⟩

/-- A count can be read. -/
theorem defaulted_of_count? {key : String} {n : Int} (h : doc.count? key = some n) :
    defaulted doc key 0 integer = .valid n := by
  unfold count? at h
  unfold defaulted field
  cases given : doc.lookup key with
  | none =>
    rw [given] at h
    cases h
    rfl
  | some v =>
    rw [given] at h
    cases v with
    | int m =>
      cases h
      rfl
    | _ => cases h

/-- Whether a document holds certain entries depends on these only. -/
theorem holdsAll_congr {filter : Entries} (same : ∀ p ∈ filter, doc'.lookup p.1 = doc.lookup p.1) :
    doc'.holdsAll filter = doc.holdsAll filter := by
  unfold holdsAll
  rw [Bool.eq_iff_iff, List.all_eq_true, List.all_eq_true]
  refine forall_congr' fun ⟨key, v⟩ => imp_congr_right fun here => ?_
  have same : doc'.lookup key = doc.lookup key := same (key, v) here
  dsimp only
  rw [holds, same, holds]

end Entries

namespace Flow

variable {now : Moment} {doc doc' : Entries} {r : Record} {success : Bool}

/-- A flow can be read from every document with the same entries but for what a run changes, if that can be
read. -/
theorem Record.ofDocument?_recounted (reads : ofDocument? now doc = .ok r)
    (others : ∀ key, key ∉ countedKeys → doc'.lookup key = doc.lookup key)
    (counted : doc'.tally?.isSome = true) (timed : doc'.IsTimed) :
    ∃ n k t, ofDocument? now doc' = .ok { r with totalRuns := n, successfulRuns := k, updatedAt := t } := by
  obtain ⟨es, text, valid⟩ := ofDocument_eq_ok_iff.mp reads
  obtain ⟨es', text', id⟩ := Entries.withIdText?_of_same text (others "_id" (by decide))
  have shown (key : String) (other : key ≠ "id") (other_ : key ≠ "_id") : es'.lookup key = doc'.lookup key :=
    Entries.lookup_of_withIdText? text' other other_
  have same (key : String) (other : key ≠ "id") (other_ : key ≠ "_id") (uncounted : key ∉ countedKeys) :
      es'.lookup key = es.lookup key := by
    rw [shown key other other_, others key uncounted, Entries.lookup_of_withIdText? text other other_]
  obtain ⟨⟨n, k⟩, tally⟩ := Option.isSome_iff_exists.mp counted
  obtain ⟨total, good⟩ := Entries.tally?_eq_some_iff.mp tally
  obtain ⟨t, last⟩ := timed
  obtain ⟨u, last, -⟩ := exists_of_defaulted last (some now)
  obtain ⟨_, _, h₁, updatedAt, rfl⟩ := Checked.seq_eq_valid valid
  obtain ⟨_, _, h₂, createdAt, rfl⟩ := Checked.seq_eq_valid h₁
  obtain ⟨_, _, h₃, successfulRuns, rfl⟩ := Checked.seq_eq_valid h₂
  obtain ⟨_, _, h₄, totalRuns, rfl⟩ := Checked.seq_eq_valid h₃
  obtain ⟨_, _, h₅, current, rfl⟩ := Checked.seq_eq_valid h₄
  obtain ⟨_, _, h₆, published, rfl⟩ := Checked.seq_eq_valid h₅
  obtain ⟨_, _, h₇, status, rfl⟩ := Checked.seq_eq_valid h₆
  obtain ⟨_, _, h₈, triggers, rfl⟩ := Checked.seq_eq_valid h₇
  obtain ⟨_, _, h₉, name, rfl⟩ := Checked.seq_eq_valid h₈
  obtain ⟨_, _, h₁₀, bot, rfl⟩ := Checked.seq_eq_valid h₉
  obtain ⟨_, _, h₁₁, workspace, rfl⟩ := Checked.seq_eq_valid h₁₀
  obtain ⟨_, first, rfl⟩ := Checked.map_eq_valid h₁₁
  have kept {α : Type} {name : String} {read : Value → Checked α} {absent : Checked α} {a : α}
      (was : field es name read absent = .valid a) (uncounted : name ∉ "id" :: "_id" :: countedKeys) :
      field es' name read absent = .valid a := by
    simp only [List.mem_cons, not_or] at uncounted
    exact (field_congr (same name uncounted.1 uncounted.2.1 uncounted.2.2) read absent).trans was
  have fresh {α : Type} {name : String} {read : Value → Checked α} {absent : Checked α} {a : α}
      (is_ : field doc' name read absent = .valid a) (other : name ≠ "id") (other_ : name ≠ "_id") :
      field es' name read absent = .valid a := (field_congr (shown name other other_) read absent).trans is_
  refine ⟨n, k, u, ofDocument_eq_ok_iff.mpr ⟨es', text', ?_⟩⟩
  simp only [read, record, recordOr, maybe, required, defaulted, (field_congr id _ _).trans first,
    kept workspace (by decide), kept bot (by decide), kept name (by decide), kept triggers (by decide),
    kept status (by decide), kept published (by decide), kept current (by decide), kept createdAt (by decide),
    fresh (Entries.defaulted_of_count? total) (by decide) (by decide),
    fresh (Entries.defaulted_of_count? good) (by decide) (by decide),
    fresh last (by decide) (by decide), Checked.map_valid, Checked.seq_valid]

/-- Whoever reads a flow after a run was counted reads the same as before, but for the counters. -/
theorem Record.ofDocument?_countsRun (counts : CountsRun success doc doc') (timed : doc.IsTimed)
    (now : Moment) :
    (ofDocument? now doc').toOption.map uncounted = (ofDocument? now doc).toOption.map uncounted := by
  obtain ⟨n, k, tally, tally'⟩ := counts.tally
  cases reads : ofDocument? now doc with
  | ok r =>
    obtain ⟨n', k', t, reads'⟩ := ofDocument?_recounted reads counts.others (by rw [tally']; rfl) counts.isTimed
    rw [reads']
    rfl
  | error f =>
    cases reads' : ofDocument? now doc' with
    | error f' => rfl
    | ok r' =>
      -- What can be read after the count could be read before.
      obtain ⟨n', k', t, again⟩ := ofDocument?_recounted reads' (fun key other => (counts.others key other).symm)
        (by rw [tally]; rfl) timed
      rw [reads] at again
      cases again

/-- Nor does it matter whether the run could be counted. -/
theorem Record.ofDocument?_counting (steady : doc.IsSteady) (then_ now : Moment) (success : Bool) :
    (ofDocument? now (Store.counting then_ success doc)).toOption.map uncounted
      = (ofDocument? now doc).toOption.map uncounted := by
  cases tally : doc.tally? with
  | none => rw [Store.counting_of_tally?_none steady.exact tally]
  | some p =>
    rw [Store.counting_of_tally? then_ success tally]
    exact ofDocument?_countsRun (Store.countsRun_withTally then_ success tally) steady.timed now

end Flow

namespace Store

variable {s t : Store} {then_ : Moment} {id : String} {success : Bool} {docs : Documents} {doc : Entries}

/-- Whether flows can be read does not depend on how many of their runs were counted. -/
def AreSteady (docs : Documents) : Prop := ∀ doc ∈ docs, doc.IsSteady

theorem AreSteady.areExact (steady : AreSteady docs) : AreExact docs := fun doc here => (steady doc here).exact

/-- A reading of the items of a list, item by item. -/
theorem toOption_mapM_cons {ε α β γ : Type} (f : α → Except ε β) (g : β → γ) (a : α) (as : List α) :
    ((a :: as).mapM f).toOption.map (List.map g) =
      ((f a).toOption.map g).bind fun c => ((as.mapM f).toOption.map (List.map g)).map (c :: ·) := by
  rw [List.mapM_cons]
  cases f a with
  | error e => rfl
  | ok b =>
    cases as.mapM f with
    | error e => rfl
    | ok bs => rfl

/-- After a count the same flow is found by an id. -/
theorem find?_countOn (steady : AreSteady docs) (then_ now : Moment) (id : String) (success : Bool)
    (key : String) :
    (((countOn then_ id success docs).find? [("_id", .ofId key)]).bind fun doc =>
        (Record.ofDocument? now doc).toOption).map Record.uncounted =
      ((docs.find? [("_id", .ofId key)]).bind fun doc => (Record.ofDocument? now doc).toOption).map
        Record.uncounted := by
  induction docs with
  | nil => rfl
  | cons doc rest ih =>
    have first := steady doc List.mem_cons_self
    have ih := ih fun d here => steady d (List.mem_cons_of_mem _ here)
    unfold countOn at ih ⊢
    rw [Documents.modifyFirst]
    split
    · have same : (counting then_ success doc).lookup "_id" = doc.lookup "_id" :=
        lookup_counting first.exact then_ success (by decide)
      by_cases mine : doc.lookup "_id" = some (.ofId key)
      · rw [Documents.find?_cons_of_own mine, Documents.find?_cons_of_own (same.trans mine), Option.bind_some,
          Option.bind_some, Record.ofDocument?_counting first]
      · rw [Documents.find?_cons_of_other mine, Documents.find?_cons_of_other (same ▸ mine)]
    · by_cases mine : doc.lookup "_id" = some (.ofId key)
      · rw [Documents.find?_cons_of_own mine, Documents.find?_cons_of_own mine]
      · rw [Documents.find?_cons_of_other mine, Documents.find?_cons_of_other mine, ih]

/-- After a count the same flows are found among those that hold certain entries. -/
theorem mapM_countOn (steady : AreSteady docs) (then_ now : Moment) (id : String) (success : Bool)
    (filter : Entries) (uncounted : ∀ p ∈ filter, p.1 ∉ countedKeys) :
    (((countOn then_ id success docs).filter (·.holdsAll filter)).mapM (Record.ofDocument? now)).toOption.map
        (List.map Record.uncounted) =
      ((docs.filter (·.holdsAll filter)).mapM (Record.ofDocument? now)).toOption.map
        (List.map Record.uncounted) := by
  induction docs with
  | nil => rfl
  | cons doc rest ih =>
    have first := steady doc List.mem_cons_self
    have ih := ih fun d here => steady d (List.mem_cons_of_mem _ here)
    unfold countOn at ih ⊢
    rw [Documents.modifyFirst]
    split
    · have same : (counting then_ success doc).holdsAll filter = doc.holdsAll filter :=
        Entries.holdsAll_congr fun p here => lookup_counting first.exact then_ success (uncounted p here)
      simp only [List.filter_cons, same]
      split
      · rw [toOption_mapM_cons, toOption_mapM_cons, Record.ofDocument?_counting first]
      · rfl
    · simp only [List.filter_cons]
      split
      · rw [toOption_mapM_cons, toOption_mapM_cons, ih]
      · exact ih

/-- For readers the second store is the first, but for the counters of flows. -/
structure Recounts (s t : Store) : Prop where
  versions : t.versions = s.versions
  flow : ∀ now id, (t.readFlow? now id).map Record.uncounted = (s.readFlow? now id).map Record.uncounted
  active : ∀ now workspaceId botId, (t.readActive now workspaceId botId).map Record.uncounted
    = (s.readActive now workspaceId botId).map Record.uncounted

theorem Recounts.of_flows (flows : t.flows = s.flows) (versions : t.versions = s.versions) :
    Recounts s t where
  versions := versions
  flow now id := by rw [readFlow?, flow?, flows, readFlow?, flow?]
  active now workspaceId botId := by rw [readActive, activeFlows, flows, readActive, activeFlows]

theorem Recounts.of_countOn (steady : AreSteady s.flows) (flows : t.flows = countOn then_ id success s.flows)
    (versions : t.versions = s.versions) : Recounts s t where
  versions := versions
  flow now key := by
    rw [readFlow?, flow?, flows]
    exact find?_countOn steady then_ now id success key
  active now workspaceId botId := by
    have same := mapM_countOn steady then_ now id success [("workspace_id", .text workspaceId),
      ("bot_id", .text botId), ("status", .text "active"), ("is_published", .bool true)] (by simp [countedKeys])
    have parted (x : Option (List Record)) :
        (x.getD []).map Record.uncounted = (x.map (List.map Record.uncounted)).getD [] := by cases x <;> rfl
    rw [readActive, readActive, parted, parted, activeFlows, flows]
    exact congrArg (Option.getD · []) same

end Store

/-! ## What is loaded and chosen -/

namespace Flow.Candidate

/-- The candidate without what every run changes. -/
def uncounted (c : Candidate) : Candidate := { c with flow := c.flow.uncounted }

theorem best?_uncounted (cs : List Candidate) : best? (cs.map uncounted) = (best? cs).map uncounted := by
  induction cs with
  | nil => rfl
  | cons c rest ih =>
    rw [List.map_cons, best?, best?, ih]
    cases best? rest with
    | none => rfl
    | some d =>
      have before : d.uncounted.isBefore c.uncounted = d.isBefore c := rfl
      dsimp only [Option.map_some]
      rw [before]
      split <;> rfl

end Flow.Candidate

namespace Dispatch

theorem candidates?_uncounted (e : Event) (flows : List Record) :
    candidates? e (flows.map Record.uncounted) = (candidates? e flows).map (List.map Candidate.uncounted) := by
  induction flows with
  | nil => rfl
  | cons flow rest ih =>
    have triggers : flow.uncounted.triggers = flow.triggers := rfl
    rw [List.map_cons, candidates?, candidates?, triggers, ih]
    cases firstMatch? e flow.triggers with
    | error f => rfl
    | ok first =>
      cases candidates? e rest with
      | error f => rfl
      | ok others => cases first <;> rfl

end Dispatch

namespace Store.Recounts

variable {s t : Store} (h : Recounts s t)
include h

/-- The same definitions are read. -/
theorem definition? (now : Moment) (flowId : String) (versionId : Option String) :
    (t.definition? now flowId versionId).map Definition.uncounted
      = (s.definition? now flowId versionId).map Definition.uncounted := by
  have leaves : LeavesFlow flowId s t :=
    ⟨fun now => h.flow now flowId, by rw [versionsOf, h.versions, versionsOf],
      fun id => by rw [versionOf?, version?, h.versions, versionOf?, version?]⟩
  exact leaves.definition?_eq now versionId

theorem selected? (now : Moment) (workspaceId botId : String) (e : Event) :
    (t.selected? now workspaceId botId e).map (Option.map Candidate.uncounted)
      = (s.selected? now workspaceId botId e).map (Option.map Candidate.uncounted) := by
  have through (u : Store) : (u.selected? now workspaceId botId e).map (Option.map Candidate.uncounted)
      = (Dispatch.candidates? e ((u.readActive now workspaceId botId).map Record.uncounted)).map
          Candidate.best? := by
    rw [Store.selected?, Dispatch.candidates?_uncounted]
    cases Dispatch.candidates? e (u.readActive now workspaceId botId) with
    | error f => rfl
    | ok cs => exact congrArg Except.ok (Candidate.best?_uncounted cs).symm
  rw [through, through, h.active]

/-- The same flows are chosen. -/
theorem chosen? (now : Moment) (workspaceId botId : String) (e : Event) (triedFallback : Bool) :
    (t.chosen? now workspaceId botId e triedFallback).map (Option.map Candidate.uncounted)
      = (s.chosen? now workspaceId botId e triedFallback).map (Option.map Candidate.uncounted) := by
  have through (u : Store) :
      (u.chosen? now workspaceId botId e triedFallback).map (Option.map Candidate.uncounted)
        = match (u.selected? now workspaceId botId e).map (Option.map Candidate.uncounted) with
          | .error f => .error f
          | .ok (some c) => .ok (some c)
          | .ok none =>
            if e.kind == .fallback || triedFallback then .ok none
            else (u.selected? now workspaceId botId .lastResort).map (Option.map Candidate.uncounted) := by
    rw [Store.chosen?]
    cases u.selected? now workspaceId botId e with
    | error f => rfl
    | ok c? =>
      cases c? with
      | some c => rfl
      | none => cases e.kind == .fallback || triedFallback <;> rfl
  rw [through, through, h.selected?, h.selected?]

end Store.Recounts

end ChatFlow
