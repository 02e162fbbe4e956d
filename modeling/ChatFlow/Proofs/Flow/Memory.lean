import ChatFlow.Proofs.Conversation.Rereading
import ChatFlow.Proofs.Flow.Consulting

/-!
The definition of a run, in the store and in memory.

A run is bound to a flow and a version, and asks for both with every message. What it is given comes from
memory or from the store. It is always the same graph (`Library.IsKept`), whatever is written and however
often it is read, as long as the flow can be read and the document of the version stays: reading again
differs only in times that a document does not give (`Store.definition?_later`). In memory the definition
has a key of its own (`Library.eq_of_key_eq`), unless the id of the version is empty or is the word that
stands for the current version. So neither a load of anything else nor an invalidation puts another graph
in its place.
-/

namespace ChatFlow

open ChatFlow.Flow (Record Version Definition)

open Schema

/-! ## Reading again -/

namespace Flow

variable {now : Moment} {doc : Entries}

/-- A document is read with its id as text, and then as a record. -/
theorem ofDocument_eq_ok_iff {α : Type} {read : Value → Checked α} {title : String} {a : α} :
    (do (read (.dict (← doc.withIdText?))).toExcept title : Except Failure α) = .ok a ↔
      ∃ es, doc.withIdText? = .ok es ∧ read (.dict es) = .valid a := by
  cases doc.withIdText? with
  | error f => exact ⟨nofun, fun ⟨_, text, _⟩ => nomatch text⟩
  | ok es =>
    change (read (.dict es)).toExcept title = .ok a ↔ _
    simp only [Except.ok.injEq, exists_eq_left']
    cases read (.dict es) with
    | valid b => simp [Checked.toExcept]
    | invalid issues => simp [Checked.toExcept]

/-- A flow that can be read at one time can be read at any. -/
theorem Record.ofDocument?_later {r : Record} (h : ofDocument? now doc = .ok r) (later : Moment) :
    ∃ r', ofDocument? later doc = .ok r' := by
  obtain ⟨es, text, valid⟩ := ofDocument_eq_ok_iff.mp h
  -- Only the last two fields look at the clock.
  obtain ⟨_, _, rest, updatedAt, rfl⟩ := Checked.seq_eq_valid valid
  obtain ⟨make, _, first, createdAt, rfl⟩ := Checked.seq_eq_valid rest
  obtain ⟨c, created, -⟩ := exists_of_defaulted createdAt (some later)
  obtain ⟨u, updated, -⟩ := exists_of_defaulted updatedAt (some later)
  refine ⟨make c u, ofDocument_eq_ok_iff.mpr ⟨es, text, ?_⟩⟩
  simp only [read, record, recordOr, first, created, updated, Checked.seq_valid]

/-- A version that can be read at one time can be read at any, and only its time may differ. -/
theorem Version.ofDocument?_later {v : Version} (h : ofDocument? now doc = .ok v) (later : Moment) :
    ∃ t, ofDocument? later doc = .ok { v with createdAt := t } := by
  obtain ⟨es, text, valid⟩ := ofDocument_eq_ok_iff.mp h
  obtain ⟨_, _, h₁, createdAt, rfl⟩ := Checked.seq_eq_valid valid
  obtain ⟨_, _, h₂, vars, rfl⟩ := Checked.seq_eq_valid h₁
  obtain ⟨_, _, h₃, edges, rfl⟩ := Checked.seq_eq_valid h₂
  obtain ⟨_, _, h₄, nodes, rfl⟩ := Checked.seq_eq_valid h₃
  obtain ⟨_, _, h₅, version, rfl⟩ := Checked.seq_eq_valid h₄
  obtain ⟨_, _, h₆, flowId, rfl⟩ := Checked.seq_eq_valid h₅
  obtain ⟨_, id, rfl⟩ := Checked.map_eq_valid h₆
  obtain ⟨t, created, -⟩ := exists_of_defaulted createdAt (some later)
  refine ⟨t, ofDocument_eq_ok_iff.mpr ⟨es, text, ?_⟩⟩
  simp only [read, record, recordOr, id, flowId, version, nodes, edges, vars, created,
    Checked.map_valid, Checked.seq_valid]

/-- The two definitions are of versions with the same graph. -/
structure Definition.SharesGraph (d d' : Definition) : Prop where
  nodes : d.version.nodes = d'.version.nodes
  edges : d.version.edges = d'.version.edges

namespace Definition.SharesGraph

variable {d d' d'' : Definition}

theorem refl (d : Definition) : d.SharesGraph d := ⟨rfl, rfl⟩

theorem symm (h : d.SharesGraph d') : d'.SharesGraph d := ⟨h.nodes.symm, h.edges.symm⟩

theorem trans (h : d.SharesGraph d') (h' : d'.SharesGraph d'') : d.SharesGraph d'' :=
  ⟨h.nodes.trans h'.nodes, h.edges.trans h'.edges⟩

theorem node? (h : d.SharesGraph d') (id : String) : d.node? id = d'.node? id := by
  rw [Definition.node?, h.nodes, Definition.node?]

end Definition.SharesGraph

end Flow

namespace Store

variable {s t : Store} {now present later : Moment} {flowId versionId : String} {d : Definition}

theorem readFlow?_later (readable : (s.readFlow? now flowId).isSome = true) (later : Moment) :
    ∃ r, s.readFlow? later flowId = some r := by
  unfold readFlow? at readable ⊢
  cases stored : s.flow? flowId with
  | none =>
    rw [stored] at readable
    cases readable
  | some doc =>
    rw [stored, Option.bind_some] at readable
    cases read : Record.ofDocument? now doc with
    | error f =>
      rw [read] at readable
      cases readable
    | ok r =>
      obtain ⟨r', again⟩ := Record.ofDocument?_later read later
      refine ⟨r', ?_⟩
      rw [Option.bind_some, again]
      rfl

theorem readVersion?_later {v : Version} (read : s.readVersion? now versionId = some v)
    (kept : t.version? versionId = s.version? versionId) (later : Moment) :
    ∃ at_, t.readVersion? later versionId = some { v with createdAt := at_ } := by
  unfold readVersion? at read ⊢
  rw [kept]
  cases stored : s.version? versionId with
  | none =>
    rw [stored] at read
    cases read
  | some doc =>
    rw [stored, Option.bind_some] at read
    cases first : Version.ofDocument? now doc with
    | error f =>
      rw [first] at read
      cases read
    | ok v' =>
      rw [first] at read
      cases read
      obtain ⟨at_, again⟩ := Version.ofDocument?_later first later
      refine ⟨at_, ?_⟩
      rw [Option.bind_some, again]
      rfl

/-- What a definition with an explicit version is made of. -/
theorem definition?_eq_some_iff (named : versionId ≠ "") :
    s.definition? now flowId (some versionId) = some d ↔
      s.readFlow? now flowId = some d.flow ∧ s.readVersion? now versionId = some d.version ∧
        d.version.flowId = flowId := by
  have explicit : Library.named? (some versionId) = some versionId := by simp [Library.named?, named]
  obtain ⟨flow, version⟩ := d
  simp only [definition?, versionFor?, explicit, Option.bind_eq_some_iff, beq_iff_eq,
    Option.ite_none_right_eq_some, Option.some.injEq, Definition.mk.injEq]
  constructor
  · rintro ⟨r, readsFlow, v, readsVersion, same, rfl, rfl⟩
    exact ⟨readsFlow, readsVersion, same⟩
  · rintro ⟨readsFlow, readsVersion, same⟩
    exact ⟨flow, readsFlow, version, readsVersion, same, rfl, rfl⟩

/-- A definition keeps its graph, as long as its flow can be read and the document of its version stays. -/
theorem definition?_later (named : versionId ≠ "")
    (was : s.definition? now flowId (some versionId) = some d)
    (readable : (t.readFlow? present flowId).isSome = true)
    (kept : t.version? versionId = s.version? versionId) (later : Moment) :
    ∃ d', t.definition? later flowId (some versionId) = some d' ∧ d'.SharesGraph d := by
  obtain ⟨-, readsVersion, own⟩ := (definition?_eq_some_iff named).mp was
  obtain ⟨r, readsFlow⟩ := readFlow?_later readable later
  obtain ⟨at_, again⟩ := readVersion?_later readsVersion kept later
  exact ⟨⟨r, { d.version with createdAt := at_ }⟩,
    (definition?_eq_some_iff named).mpr ⟨readsFlow, again, own⟩, rfl, rfl⟩

/-- Definitions are not made of sessions. -/
theorem definition?_congr (flows : t.flows = s.flows) (versions : t.versions = s.versions)
    (requested : Option String) : t.definition? now flowId requested = s.definition? now flowId requested := by
  obtain ⟨_, _, _⟩ := s
  obtain ⟨_, _, _⟩ := t
  cases flows
  cases versions
  rfl

end Store

/-! ## Keys -/

/-- A list is divided in one way only at a separator that is in neither part. -/
theorem List.eq_of_append_cons {α : Type} {sep : α} {as bs cs ds : List α} (first : sep ∉ cs)
    (second : sep ∉ ds) (same : as ++ sep :: bs = cs ++ sep :: ds) : as = cs ∧ bs = ds := by
  rcases List.append_eq_append_iff.mp same with ⟨es, rfl, rest⟩ | ⟨es, rfl, rest⟩
  · cases es with
    | nil => exact ⟨(List.append_nil _).symm, (List.cons.inj rest).2⟩
    | cons e es =>
      have here : sep = e := (List.cons.inj rest).1
      exact absurd (List.mem_append_right _ (here ▸ List.mem_cons_self)) first
  · cases es with
    | nil => exact ⟨List.append_nil _, (List.cons.inj rest).2.symm⟩
    | cons e es =>
      have later : ds = es ++ sep :: bs := (List.cons.inj rest).2
      rw [later] at second
      exact absurd (List.mem_append_right _ List.mem_cons_self) second

namespace Library

variable {flowId versionId : String} {d : Definition} {w v : World}

/-- No other request has the key under which the definition of this flow and version is kept. -/
structure HasOwnKey (flowId versionId : String) : Prop where
  flow : ':' ∉ flowId.toList
  version : ':' ∉ versionId.toList
  named : versionId ≠ ""
  explicit : versionId ≠ "current"

theorem eq_of_key_eq (own : HasOwnKey flowId versionId) {id : String} {requested : Option String}
    (same : key id requested = key flowId (some versionId)) : id = flowId ∧ requested = some versionId := by
  have mine : key flowId (some versionId) = flowId ++ ":" ++ versionId := by simp [key, own.named]
  obtain ⟨name, named, shown⟩ : ∃ name, key id requested = id ++ ":" ++ name ∧
      (name = "current" ∨ requested = some name) := by
    match requested with
    | none => exact ⟨_, rfl, .inl rfl⟩
    | some r =>
      by_cases empty : r.isEmpty = true
      · exact ⟨"current", by simp [key, empty], .inl rfl⟩
      · exact ⟨r, by simp [key, empty], .inr rfl⟩
  rw [mine, named] at same
  have divided : id.toList ++ ':' :: name.toList = flowId.toList ++ ':' :: versionId.toList := by
    have chars := congrArg String.toList same
    simpa using chars
  obtain ⟨ids, names⟩ := List.eq_of_append_cons own.flow own.version divided
  have names := String.toList_inj.mp names
  subst names
  exact ⟨String.toList_inj.mp ids, shown.resolve_left own.explicit⟩

/-! ## Bindings -/

/-- Whenever the flow and the version are asked for, the answer is a definition with the same graph. -/
structure IsKept (flowId versionId : String) (d : Definition) (w : World) : Prop where
  stored : ∀ t, ∃ d', w.store.definition? t flowId (some versionId) = some d' ∧ d'.SharesGraph d
  memory : ∀ d', w.cache.lookup (key flowId (some versionId)) = some d' → d'.SharesGraph d

namespace IsKept

/-- Neither sessions nor what is outside matter. -/
theorem of_same (h : IsKept flowId versionId d w) (flows : v.store.flows = w.store.flows)
    (versions : v.store.versions = w.store.versions) (cache : v.cache = w.cache) :
    IsKept flowId versionId d v where
  stored t := by
    rw [Store.definition?_congr flows versions]
    exact h.stored t
  memory := by
    rw [cache]
    exact h.memory

/-- The definition that is asked for has the graph. -/
theorem known (h : IsKept flowId versionId d w) :
    ∃ d', known? w flowId (some versionId) = some d' ∧ d'.SharesGraph d := by
  unfold known?
  cases held : w.cache.lookup (key flowId (some versionId)) with
  | none =>
    rw [Option.none_or]
    exact h.stored w.now
  | some d' => exact ⟨d', rfl, h.memory d' held⟩

/-- No load changes the graph. -/
theorem leaves (h : IsKept flowId versionId d w) (own : HasOwnKey flowId versionId) {id : String}
    {requested : Option String} (left : Leaves id requested w v) : IsKept flowId versionId d v where
  stored := by
    rw [left.store]
    exact h.stored
  memory := by
    intro d' held
    rw [left.memory] at held
    split at held
    · rename_i same
      obtain ⟨rfl, rfl⟩ := eq_of_key_eq own same.symm
      obtain ⟨d'', known, graph⟩ := h.known
      rw [known] at held
      cases held
      exact graph
    · exact h.memory d' held

/-- An author may write all flows and versions anew, if the flow can be read and the document of the
version stays. -/
theorem written (h : IsKept flowId versionId d w) (named : versionId ≠ "") {now : Moment}
    (readable : (v.store.readFlow? now flowId).isSome = true)
    (kept : v.store.version? versionId = w.store.version? versionId) (cache : v.cache = w.cache) :
    IsKept flowId versionId d v where
  stored t := by
    obtain ⟨d', was, graph⟩ := h.stored w.now
    obtain ⟨d'', later, same⟩ := Store.definition?_later named was readable kept t
    exact ⟨d'', later, same.trans graph⟩
  memory := by
    rw [cache]
    exact h.memory

/-- What is dropped from memory is loaded again. -/
theorem drops (h : IsKept flowId versionId d w) (store : v.store = w.store) (keeps : String → Bool)
    (cache : v.cache = w.cache.filter fun (k, _) => keeps k) : IsKept flowId versionId d v where
  stored := by
    rw [store]
    exact h.stored
  memory := by
    intro d' held
    rw [cache, Entries.lookup_filter] at held
    split at held
    · exact h.memory d' held
    · cases held

end IsKept

end Library

end ChatFlow
