import ChatFlow.Proofs.Flow.Memory
import ChatFlow.Proofs.Store.Flows

/-!
The version that a request means, and what it depends on.

A request for a flow means the version that it names, or else the one that the flow names as current, or
else the highest one (`Store.Means`). It is resolved to the flow with that version, or to nothing if one of
them is missing or cannot be read or the version belongs to another flow (`Store.Resolves`). So it is with
what the library reads from the store, as long as the versions of the flow are numbered by integers: then
the order in which the store looks for the highest is that of the numbers (`Store.resolves_definition?`).

What is read depends on the flow's document and on those of its versions only. A write that leaves these
alone, run counters aside, goes unnoticed (`Store.LeavesFlow.definition?_eq`).
-/

namespace ChatFlow

open ChatFlow.Flow (Record Version Definition)

open Library (named?)

namespace Flow

/-- The record without what every run changes: the counters and the time of the last change. -/
def Record.uncounted (r : Record) : Record :=
  { r with totalRuns := 0, successfulRuns := 0, updatedAt := none }

/-- The definition without what every run changes. -/
def Definition.uncounted (d : Definition) : Definition := { d with flow := d.flow.uncounted }

/-- A version belongs to the flow that its document names. -/
theorem Version.lookup_of_ofDocument? {now : Moment} {doc : Entries} {v : Version}
    (h : ofDocument? now doc = .ok v) : doc.lookup "flow_id" = some (.text v.flowId) := by
  obtain ⟨es, text, valid⟩ := ofDocument_eq_ok_iff.mp h
  obtain ⟨_, _, h₁, createdAt, rfl⟩ := Schema.Checked.seq_eq_valid valid
  obtain ⟨_, _, h₂, vars, rfl⟩ := Schema.Checked.seq_eq_valid h₁
  obtain ⟨_, _, h₃, edges, rfl⟩ := Schema.Checked.seq_eq_valid h₂
  obtain ⟨_, _, h₄, nodes, rfl⟩ := Schema.Checked.seq_eq_valid h₃
  obtain ⟨_, _, h₅, version, rfl⟩ := Schema.Checked.seq_eq_valid h₄
  obtain ⟨_, _, h₆, flowId, rfl⟩ := Schema.Checked.seq_eq_valid h₅
  obtain ⟨_, id, rfl⟩ := Schema.Checked.map_eq_valid h₆
  rw [← Entries.lookup_of_withIdText? text (by decide) (by decide)]
  exact Schema.lookup_of_required_text flowId

end Flow

/-- The number under which a version is read. -/
def Entries.versionNumber? (doc : Entries) : Option Int :=
  match Schema.integer (doc.getD "version") with
  | .valid n => some n
  | .invalid _ => none

theorem Entries.versionNumber?_of_lookup {doc : Entries} {n : Int}
    (h : doc.lookup "version" = some (.int n)) : doc.versionNumber? = some n := by
  rw [versionNumber?, getD_of_lookup h]
  rfl

/-- The versions are numbered by integers. -/
def Documents.AreNumbered (docs : Documents) : Prop :=
  ∀ doc ∈ docs, ∃ n, doc.lookup "version" = some (.int n)

namespace Store

variable {s t : Store} {now : Moment} {flow : Record} {flowId : String} {versionId : Option String}
  {docs : Documents} {doc : Entries}

/-! ## Which version is meant -/

/-- The documents of the versions of a flow. -/
def versionsOf (s : Store) (flowId : String) : Documents :=
  s.versions.filter fun doc => doc.holds "flow_id" (.text flowId)

theorem highest_eq_none_iff : highest docs = none ↔ docs = [] := by
  cases docs with
  | nil => simp [highest]
  | cons doc rest =>
    rw [highest]
    cases highest rest with
    | none => simp
    | some best => dsimp only; split <;> simp

theorem isAbove_numbered {best : Entries} {m n : Int} (h : best.lookup "version" = some (.int m))
    (h' : doc.lookup "version" = some (.int n)) :
    isAbove (best.getD "version") (doc.getD "version") = true ↔ n < m := by
  rw [Entries.getD_of_lookup h, Entries.getD_of_lookup h']
  exact decide_eq_true_iff

/-- Of versions with numbers the highest is one with the highest number. -/
theorem highest_numbered (numbered : docs.AreNumbered) (h : highest docs = some doc) :
    doc ∈ docs ∧ ∃ n, doc.lookup "version" = some (.int n) ∧
      ∀ doc' ∈ docs, ∀ n', doc'.lookup "version" = some (.int n') → n' ≤ n := by
  induction docs generalizing doc with
  | nil => cases h
  | cons d rest ih =>
    obtain ⟨k, number⟩ := numbered d List.mem_cons_self
    have later : Documents.AreNumbered rest := fun d here => numbered d (List.mem_cons_of_mem _ here)
    have only (n : Int) (number' : d.lookup "version" = some (.int n)) : n = k := by
      rw [number] at number'
      cases number'
      rfl
    rw [highest] at h
    cases found : highest rest with
    | none =>
      rw [found] at h
      cases h
      rw [highest_eq_none_iff.mp found]
      refine ⟨List.mem_singleton_self d, k, number, fun doc' here n' number' => ?_⟩
      rw [List.mem_singleton.mp here] at number'
      exact Int.le_of_eq (only n' number')
    | some best =>
      obtain ⟨mem, m, top, most⟩ := ih later found
      simp only [found, isAbove_numbered top number] at h
      split at h
      case isTrue higher =>
        cases h
        refine ⟨List.mem_cons_of_mem _ mem, m, top, List.forall_mem_cons.mpr ⟨fun n' number' => ?_, most⟩⟩
        have same := only n' number'
        omega
      case isFalse lower =>
        cases h
        refine ⟨List.mem_cons_self, k, number, List.forall_mem_cons.mpr ⟨?_, ?_⟩⟩
        · exact fun n' number' => Int.le_of_eq (only n' number')
        · intro doc' there n' number'
          have below := most doc' there n' number'
          omega

/-- The document is that of the version that a request for a flow means. -/
inductive Means (s : Store) (flow : Record) (flowId : String) (versionId : Option String) :
    Entries → Prop
  /-- The request names the version. -/
  | explicit {id : String} {doc : Entries} (asked : named? versionId = some id)
    (found : s.version? id = some doc) : Means s flow flowId versionId doc
  /-- The flow names it as the current one. -/
  | current {id : String} {doc : Entries} (unasked : named? versionId = none)
    (current : named? flow.currentVersionId = some id) (found : s.version? id = some doc) :
    Means s flow flowId versionId doc
  /-- No version of the flow has a higher number. -/
  | latest {doc : Entries} (unasked : named? versionId = none)
    (unnamed : named? flow.currentVersionId = none) (own : doc ∈ s.versionsOf flowId)
    (highest : ∀ n, doc.versionNumber? = some n →
      ∀ doc' ∈ s.versionsOf flowId, ∀ n', doc'.versionNumber? = some n' → n' ≤ n) :
    Means s flow flowId versionId doc

/-- What a request is resolved to, if the store is read at a time. -/
inductive Resolves (s : Store) (now : Moment) (flowId : String) (versionId : Option String) :
    Option Definition → Prop
  | missing (absent : s.readFlow? now flowId = none) : Resolves s now flowId versionId none
  | unversioned {flow : Record} (reads : s.readFlow? now flowId = some flow)
    (absent : ∀ doc, ¬ s.Means flow flowId versionId doc) : Resolves s now flowId versionId none
  /-- The version cannot be read, or belongs to another flow. -/
  | unfit {flow : Record} {doc : Entries} (reads : s.readFlow? now flowId = some flow)
    (means : s.Means flow flowId versionId doc)
    (unfit : ∀ version, Version.ofDocument? now doc = .ok version → version.flowId ≠ flowId) :
    Resolves s now flowId versionId none
  | found {flow : Record} {version : Version} {doc : Entries}
    (reads : s.readFlow? now flowId = some flow) (means : s.Means flow flowId versionId doc)
    (version_reads : Version.ofDocument? now doc = .ok version) (own : version.flowId = flowId) :
    Resolves s now flowId versionId (some ⟨flow, version⟩)

/-- The document of the version that a request for a flow means. -/
def versionDocument? (s : Store) (flow : Record) (flowId : String) (versionId : Option String) :
    Option Entries :=
  match named? versionId with
  | some id => s.version? id
  | none =>
    match named? flow.currentVersionId with
    | some id => s.version? id
    | none => s.latestVersion? flowId

theorem versionFor?_eq : s.versionFor? now flow flowId versionId
    = (s.versionDocument? flow flowId versionId).bind fun doc => (Version.ofDocument? now doc).toOption := by
  unfold versionFor? versionDocument?
  cases named? versionId with
  | some id => rfl
  | none => cases named? flow.currentVersionId <;> rfl

theorem means_of_versionDocument? (numbered : (s.versionsOf flowId).AreNumbered)
    (h : s.versionDocument? flow flowId versionId = some doc) : s.Means flow flowId versionId doc := by
  unfold versionDocument? at h
  cases asked : named? versionId with
  | some id =>
    rw [asked] at h
    exact .explicit asked h
  | none =>
    rw [asked] at h
    cases current : named? flow.currentVersionId with
    | some id =>
      rw [current] at h
      exact .current asked current h
    | none =>
      rw [current] at h
      obtain ⟨own, m, lookup, most⟩ := highest_numbered numbered h
      refine .latest asked current own fun n number doc' here n' number' => ?_
      obtain ⟨m', lookup'⟩ := numbered doc' here
      rw [Entries.versionNumber?_of_lookup lookup, Option.some.injEq] at number
      rw [Entries.versionNumber?_of_lookup lookup', Option.some.injEq] at number'
      subst number number'
      exact most doc' here m' lookup'

theorem not_means_of_versionDocument? (h : s.versionDocument? flow flowId versionId = none) :
    ¬ s.Means flow flowId versionId doc := by
  unfold versionDocument? at h
  rintro (⟨asked, found⟩ | ⟨unasked, current, found⟩ | ⟨unasked, unnamed, own, -⟩)
  · rw [asked] at h
    exact absurd (h.symm.trans found) nofun
  · rw [unasked, current] at h
    exact absurd (h.symm.trans found) nofun
  · rw [unasked, unnamed] at h
    have empty : s.versionsOf flowId = [] := highest_eq_none_iff.mp h
    rw [empty] at own
    cases own

/-- What the library reads for a request is what the request is resolved to. -/
theorem resolves_definition? (numbered : (s.versionsOf flowId).AreNumbered) (now : Moment)
    (versionId : Option String) :
    s.Resolves now flowId versionId (s.definition? now flowId versionId) := by
  rw [definition?]
  cases reads : s.readFlow? now flowId with
  | none => exact .missing reads
  | some flow =>
    rw [Option.bind_some, versionFor?_eq]
    cases found : s.versionDocument? flow flowId versionId with
    | none => exact .unversioned reads fun _ => not_means_of_versionDocument? found
    | some doc =>
      have means := means_of_versionDocument? numbered found
      rw [Option.bind_some]
      cases version : Version.ofDocument? now doc with
      | error f =>
        refine .unfit reads means fun v same => ?_
        rw [version] at same
        cases same
      | ok v =>
        dsimp only [Except.toOption]
        rw [Option.bind_some]
        split
        case isTrue own => exact .found reads means version (beq_iff_eq.mp own)
        case isFalse other =>
          refine .unfit reads means fun v' same own => other ?_
          rw [version] at same
          cases same
          exact beq_iff_eq.mpr own

/-! ## Which writes matter -/

/-- Of the version's documents, the one with an id, if it is of the flow. -/
def versionOf? (s : Store) (flowId id : String) : Option Entries :=
  (s.version? id).filter fun doc => doc.holds "flow_id" (.text flowId)

/-- Of two stores the second has the same flow, run counters aside, and the same documents of its versions,
in the same order and under the same ids. -/
structure LeavesFlow (flowId : String) (s t : Store) : Prop where
  flow : ∀ now, (t.readFlow? now flowId).map Record.uncounted
    = (s.readFlow? now flowId).map Record.uncounted
  versions : t.versionsOf flowId = s.versionsOf flowId
  ids : ∀ id, t.versionOf? flowId id = s.versionOf? flowId id

theorem LeavesFlow.refl (flowId : String) (s : Store) : LeavesFlow flowId s s :=
  ⟨fun _ => rfl, rfl, fun _ => rfl⟩

/-- Where ids are distinct, the same documents are under the same ids. -/
theorem LeavesFlow.of_areDistinct (distinct : s.versions.AreDistinct) (distinct' : t.versions.AreDistinct)
    (flow : ∀ now, (t.readFlow? now flowId).map Record.uncounted
      = (s.readFlow? now flowId).map Record.uncounted)
    (versions : t.versionsOf flowId = s.versionsOf flowId) : LeavesFlow flowId s t where
  flow := flow
  versions := versions
  ids id := by
    rw [versionOf?, versionOf?, version?, version?, ← distinct.find?_filter, ← distinct'.find?_filter]
    exact congrArg (Documents.find? · _) versions

/-- The version that a request for a flow means, if it can be read and belongs to the flow. -/
def ownVersion? (s : Store) (now : Moment) (flow : Record) (flowId : String)
    (versionId : Option String) : Option Version :=
  (s.versionFor? now flow flowId versionId).filter fun version => version.flowId == flowId

theorem definition?_eq_ownVersion? : s.definition? now flowId versionId
    = (s.readFlow? now flowId).bind fun flow =>
        (s.ownVersion? now flow flowId versionId).map fun version => ⟨flow, version⟩ := by
  rw [definition?]
  congr 1
  funext flow
  rw [ownVersion?]
  cases s.versionFor? now flow flowId versionId with
  | none => rfl
  | some version =>
    simp only [Option.bind_some, Option.filter_some]
    split <;> rfl

/-- A version that is read belongs to a flow if its document does. -/
theorem filter_ofDocument? (doc : Entries) :
    (Version.ofDocument? now doc).toOption.filter (·.flowId == flowId)
      = if doc.holds "flow_id" (.text flowId) then (Version.ofDocument? now doc).toOption else none := by
  cases read : Version.ofDocument? now doc with
  | error f => simp [Except.toOption]
  | ok v =>
    have same : doc.holds "flow_id" (.text flowId) = (v.flowId == flowId) := by
      rw [Bool.eq_iff_iff, Entries.holds_text_iff, Version.lookup_of_ofDocument? read]
      simp
    rw [same]
    rfl

theorem filter_readVersion? (id : String) :
    (s.readVersion? now id).filter (·.flowId == flowId)
      = (s.versionOf? flowId id).bind fun doc => (Version.ofDocument? now doc).toOption := by
  rw [readVersion?, versionOf?]
  cases s.version? id with
  | none => rfl
  | some doc =>
    rw [Option.bind_some, filter_ofDocument?, Option.filter_some]
    cases doc.holds "flow_id" (.text flowId) <;> rfl

namespace LeavesFlow

variable (h : LeavesFlow flowId s t)
include h

theorem ownVersion?_eq {flow' : Record} (current : flow'.currentVersionId = flow.currentVersionId) :
    t.ownVersion? now flow' flowId versionId = s.ownVersion? now flow flowId versionId := by
  unfold ownVersion? versionFor?
  rw [current]
  cases named? versionId with
  | some id =>
    dsimp only
    rw [filter_readVersion?, filter_readVersion?, h.ids]
  | none =>
    cases named? flow.currentVersionId with
    | some id =>
      dsimp only
      rw [filter_readVersion?, filter_readVersion?, h.ids]
    | none =>
      have latest : t.latestVersion? flowId = s.latestVersion? flowId := congrArg highest h.versions
      dsimp only
      rw [latest]

/-- The definition that is read stays the same, run counters aside. -/
theorem definition?_eq (now : Moment) (versionId : Option String) :
    (t.definition? now flowId versionId).map Definition.uncounted
      = (s.definition? now flowId versionId).map Definition.uncounted := by
  have flow := h.flow now
  rw [definition?_eq_ownVersion?, definition?_eq_ownVersion?]
  cases before : s.readFlow? now flowId with
  | none =>
    cases after : t.readFlow? now flowId with
    | none => rfl
    | some r' =>
      rw [before, after] at flow
      cases flow
  | some r =>
    cases after : t.readFlow? now flowId with
    | none =>
      rw [before, after] at flow
      cases flow
    | some r' =>
      rw [before, after] at flow
      have same : r'.uncounted = r.uncounted := Option.some.inj flow
      have current : r'.currentVersionId = r.currentVersionId := by
        show r'.uncounted.currentVersionId = r.uncounted.currentVersionId
        rw [same]
      rw [Option.bind_some, Option.bind_some, h.ownVersion?_eq current, Option.map_map, Option.map_map]
      congr 1
      funext version
      exact congrArg (Definition.mk · version) same

end LeavesFlow

end Store

end ChatFlow
