import ChatFlow.Proofs.Conversation.Loading

/-!
Reading a session again.

A session is read anew with every message of its conversation, and each time at another present. Only
times that its document does not give are read as the present, so as long as the document stays and has
not expired the context that is read stands where it stood (`Keeping.IsReadAs.later`). And after a save
the context that was saved is read, with its history: from a document that the service made
(`Keeping.isReadAs_document`), and from any other one in which a context could be read before
(`Keeping.IsReadAs.saved`).
-/

namespace ChatFlow

/-- The two contexts stand at the same node of the same version of a flow, with the same variables. -/
structure Context.StandsAs (c' c : Context) : Prop where
  flow : c'.flowId = c.flowId
  version : c'.versionId = c.versionId
  node : c'.currentNodeId = c.currentNodeId
  vars : c'.vars = c.vars

/-! ## Fields -/

namespace Entries

/-- A document with the same record id can be read with its id as text too, and it is the same text. -/
theorem withIdText?_of_same {doc doc' es : Entries} (h : doc.withIdText? = .ok es)
    (same : doc'.lookup "_id" = doc.lookup "_id") :
    ∃ es', doc'.withIdText? = .ok es' ∧ es'.lookup "id" = es.lookup "id" := by
  unfold withIdText? at h ⊢
  rw [same]
  cases found : doc.lookup "_id" with
  | none =>
    rw [found] at h
    cases h
  | some v =>
    rw [found] at h
    dsimp only at h ⊢
    cases shown : v.display? with
    | error f =>
      rw [shown] at h
      cases h
    | ok s =>
      rw [shown] at h
      refine ⟨_, rfl, ?_⟩
      rw [← Except.ok.inj h, lookup_insert_self, lookup_insert_self]

end Entries

namespace Context

/-- After a save a document can be read with its id as text if it could be before, and it shows what was
saved. -/
theorem withIdText?_advanced (c : Context) {doc es : Entries} (text : doc.withIdText? = .ok es)
    (writtenAt expiresAt : Moment) :
    ∃ es', (Store.advanced (c.savedFields writtenAt expiresAt) doc).withIdText? = .ok es' ∧
      es'.lookup "sequence"
        = (Store.advanced (c.savedFields writtenAt expiresAt) doc).lookup "sequence" ∧
      (∀ key v, (c.savedFields writtenAt expiresAt).lookup key = some v → es'.lookup key = some v) ∧
      ∀ key, key ∉ "_id" :: "sequence" :: savedKeys → es'.lookup key = es.lookup key := by
  have unsaved {key : String} (uncounted : key ≠ "sequence") (other : key ∉ savedKeys) :
      (Store.advanced (c.savedFields writtenAt expiresAt) doc).lookup key = doc.lookup key :=
    c.lookup_unsaved writtenAt expiresAt uncounted other
  obtain ⟨es', text', id⟩ := Entries.withIdText?_of_same text (unsaved (by decide) (by decide))
  have shown (key : String) (id : key ≠ "id") (id_ : key ≠ "_id") :=
    Entries.lookup_of_withIdText? text' id id_
  refine ⟨es', text', shown "sequence" (by decide) (by decide), fun key v saved => ?_,
    fun key other => ?_⟩
  · have mem := c.mem_savedKeys writtenAt expiresAt saved
    rw [shown key (by rintro rfl; revert mem; decide) (by rintro rfl; revert mem; decide)]
    exact c.lookup_saved writtenAt expiresAt saved
  · rw [List.mem_cons, List.mem_cons, not_or, not_or] at other
    obtain ⟨id_, uncounted, other⟩ := other
    by_cases isId : key = "id"
    · rw [isId, id]
    · rw [shown key isId id_, unsaved uncounted other, Entries.lookup_of_withIdText? text isId id_]

end Context

namespace Schema

variable {α : Type} {es es' : Entries} {name : String}

/-- A field is read from its entry only. -/
theorem field_congr (same : es'.lookup name = es.lookup name) (read : Value → Checked α)
    (absent : Checked α) : field es' name read absent = field es name read absent := by
  rw [field, same]
  rfl

/-- Whether a field can be read does not depend on its default, and what is read only if it is absent. -/
theorem exists_of_defaulted {default a : α} {read : Value → Checked α}
    (h : defaulted es name default read = .valid a) (other : α) :
    ∃ b, defaulted es name other read = .valid b ∧ (es.lookup name ≠ none → b = a) := by
  unfold defaulted field at h ⊢
  cases found : es.lookup name with
  | none => exact ⟨other, rfl, fun given => absurd rfl given⟩
  | some v =>
    rw [found] at h
    exact ⟨a, h, fun _ => rfl⟩

end Schema

open Schema

/-! ## Records -/

/-- A message is read at any time if it is at one; only its time may differ. -/
theorem Message.read_later {now : Moment} {es : Entries} {m : Message}
    (h : read now (.dict es) = .valid m) (later : Moment) :
    ∃ t, read later (.dict es) = .valid { m with timestamp := t } := by
  obtain ⟨_, _, h₁, metadata, rfl⟩ := Checked.seq_eq_valid h
  obtain ⟨_, _, h₂, node, rfl⟩ := Checked.seq_eq_valid h₁
  obtain ⟨_, _, h₃, timestamp, rfl⟩ := Checked.seq_eq_valid h₂
  obtain ⟨_, _, h₄, content, rfl⟩ := Checked.seq_eq_valid h₃
  obtain ⟨_, role, rfl⟩ := Checked.map_eq_valid h₄
  obtain ⟨t, read, -⟩ := exists_of_defaulted timestamp later
  refine ⟨t, ?_⟩
  simp only [Message.read, record, recordOr, role, content, read, node, metadata, Checked.map_valid,
    Checked.seq_valid]

namespace Session

variable {s : Session} {now : Moment} {es : Entries}

/-- A session is read at any time if it is at one; only times that are not given may differ. -/
theorem IsRead.later (h : s.IsRead now es) (later : Moment) : ∃ startedAt lastActivityAt,
    { s with startedAt := startedAt, lastActivityAt := lastActivityAt }.IsRead later es := by
  obtain ⟨startedAt, started, -⟩ := exists_of_defaulted h.startedAt later
  obtain ⟨lastActivityAt, active, -⟩ := exists_of_defaulted h.lastActivityAt later
  exact ⟨startedAt, lastActivityAt, { h with startedAt := started, lastActivityAt := active }⟩

/-- A session is read after a save, with what was saved. The time at which it was started is no part of
a save; it is the present if the document does not give it. -/
theorem IsRead.saved (h : s.IsRead now es) (c : Context) {es' : Entries} {n : Int} {t e : Moment}
    (written : ∀ key v, (c.savedFields t e).lookup key = some v → es'.lookup key = some v)
    (counted : defaulted es' "sequence" 1 integer = .valid n)
    (others : ∀ key, key ∉ "_id" :: "sequence" :: Context.savedKeys →
      es'.lookup key = es.lookup key)
    (later : Moment) : ∃ startedAt, (es.lookup "started_at" ≠ none → startedAt = s.startedAt) ∧ { s with
      currentNodeId := c.currentNodeId, vars := c.vars, history := c.storedHistory, status := active,
      sequence := n, startedAt := startedAt, lastActivityAt := t, expiresAt := e }.IsRead later es' := by
  have same {α : Type} {key : String} (other : key ∉ "_id" :: "sequence" :: Context.savedKeys)
      (read : Value → Checked α) (absent : Checked α) :
      field es' key read absent = field es key read absent :=
    field_congr (others key other) read absent
  obtain ⟨startedAt, started, given⟩ := exists_of_defaulted h.startedAt later
  refine ⟨startedAt, given, ?_⟩
  exact {
    id := (same (by decide) _ _).trans h.id
    conversation := (same (by decide) _ _).trans h.conversation
    workspace := (same (by decide) _ _).trans h.workspace
    bot := (same (by decide) _ _).trans h.bot
    flow := (same (by decide) _ _).trans h.flow
    version := (same (by decide) _ _).trans h.version
    node := required_of_lookup (written _ _ rfl) rfl
    vars := defaulted_of_lookup (written _ _ rfl) rfl
    history := defaulted_of_lookup (written _ _ rfl) (itemsFrom_dict 0 c.storedHistory)
    contactId := (same (by decide) _ _).trans h.contactId
    contactName := (same (by decide) _ _).trans h.contactName
    contactEmail := (same (by decide) _ _).trans h.contactEmail
    status := defaulted_of_lookup (written _ _ rfl) rfl
    sequence := counted
    startedAt := (same (by decide) _ _).trans started
    lastActivityAt := defaulted_of_lookup (written _ _ rfl) rfl
    expiresAt := required_of_lookup (written _ _ rfl) rfl }

end Session

/-! ## Sessions -/

namespace Keeping

variable {s t : Store} {conv : String} {now present : Moment} {c c' : Context}

/-- The conversation has a session, and it expires after the time. -/
def Lasts (s : Store) (conv : String) (now : Moment) : Prop :=
  ∃ doc e, s.session? conv = some doc ∧ required doc "expires_at" moment = .valid e ∧
    e.compare? now = some .gt

theorem readHistory?_later {stored : List Entries} {history : List Message}
    (h : readHistory? now stored = .ok history) (later : Moment) :
    ∃ history', readHistory? later stored = .ok history' := by
  induction stored generalizing history with
  | nil => exact ⟨[], rfl⟩
  | cons es rest ih =>
    rw [readHistory?] at h ⊢
    cases first : Message.read now (.dict es) with
    | invalid issues =>
      rw [first] at h
      cases h
    | valid m =>
      obtain ⟨at_, again⟩ := Message.read_later first later
      rw [first] at h
      rw [again]
      dsimp only [Checked.toExcept] at h ⊢
      cases others : readHistory? now rest with
      | error f =>
        rw [others] at h
        cases h
      | ok ms =>
        obtain ⟨ms', read⟩ := ih others
        rw [read]
        exact ⟨_, rfl⟩

theorem readHistory?_of_readSession? {es : Entries} {session : Session} {history : List Message}
    (h : readSession? now es = .ok (session, history)) :
    readHistory? now session.history = .ok history := by
  have read := read_of_readSession? h
  unfold readSession? at h
  rw [read] at h
  dsimp only [Checked.toExcept] at h
  cases messages : readHistory? now session.history with
  | error f =>
    rw [messages] at h
    cases h
  | ok ms =>
    rw [messages] at h
    cases h
    rfl

/-- A session can be resumed if it is active and expires later. -/
theorem isResumable?_eq_true_iff {session : Session} :
    isResumable? now session = .ok true ↔
      session.status = Session.active ∧ session.expiresAt.compare? now = some .gt := by
  unfold isResumable?
  by_cases active : session.status = Session.active
  · have same : (session.status != Session.active) = false := by simp [active]
    rw [same, if_neg Bool.false_ne_true]
    rcases session.expiresAt.compare? now with _ | order
    · simp
    · cases order <;> simp [active]
  · have differs : (session.status != Session.active) = true := by simp [active]
    rw [if_pos differs]
    simp [active]

/-- A session that stays in the store and lasts is read again later, and the context stands where it
stood. -/
theorem IsReadAs.later (h : IsReadAs s conv now c) (same : t.session? conv = s.session? conv)
    (lasts : Lasts t conv present) : ∃ c', IsReadAs t conv present c' ∧ c'.StandsAs c := by
  obtain ⟨doc, es, session, history, stored, text, read, resumable, rfl⟩ := h
  obtain ⟨doc', e, stored', expires, unexpired⟩ := lasts
  rw [same, stored, Option.some.injEq] at stored'
  subst stored'
  have parts := Session.read_eq_valid_iff.mp (read_of_readSession? read)
  obtain ⟨startedAt, lastActivityAt, again⟩ := parts.later present
  obtain ⟨history', messages⟩ := readHistory?_later (readHistory?_of_readSession? read) present
  have expiry : session.expiresAt = e := by
    have here : es.lookup "expires_at" = doc.lookup "expires_at" :=
      Entries.lookup_of_withIdText? text (by decide) (by decide)
    have read := field_congr here moment (Checked.unfit .missing)
    exact Checked.valid.inj ((parts.expiresAt.symm.trans read).trans expires)
  have usable : isResumable? present { session with
      startedAt := startedAt, lastActivityAt := lastActivityAt } = .ok true := by
    rw [isResumable?_eq_true_iff] at resumable ⊢
    exact ⟨resumable.1, by rw [expiry]; exact unexpired⟩
  exact ⟨_, ⟨doc, es, _, history', same.trans stored, text,
    readSession?_of_read (Session.read_eq_valid_iff.mpr again) messages, usable, rfl⟩, rfl, rfl, rfl, rfl⟩

/-- A session that was made from a context is read as it, while it lasts. -/
theorem isReadAs_document {n : Int} {writtenAt expiresAt : Moment}
    (stored : s.session? conv = some (c.document n writtenAt expiresAt))
    (unexpired : expiresAt.compare? now = some .gt) : IsReadAs s conv now (c.kept n writtenAt) :=
  ⟨_, _, _, _, stored, c.withIdText?_document n writtenAt expiresAt,
    c.readSession?_document now n writtenAt expiresAt,
    isResumable?_eq_true_iff.mpr ⟨rfl, unexpired⟩, rfl⟩

/-- Nothing else is read from a session that was made from a context. -/
theorem IsReadAs.eq_kept {n : Int} {writtenAt expiresAt : Moment} (h : IsReadAs s conv now c)
    (stored : s.session? conv = some (c'.document n writtenAt expiresAt)) : c = c'.kept n writtenAt := by
  obtain ⟨doc, es, session, history, stored', text, read, -, rfl⟩ := h
  rw [stored, Option.some.injEq] at stored'
  subst stored'
  rw [c'.withIdText?_document, Except.ok.injEq] at text
  subst text
  rw [c'.readSession?_document] at read
  cases read
  rfl

/-- The stored context is loaded as it was kept, while it has not expired. -/
theorem load_run_of_document {w : World} (quiet : w.IsQuiet) {n : Int} {writtenAt expiresAt : Moment}
    (found : w.store.session? conv = some (c.document n writtenAt expiresAt))
    (unexpired : expiresAt.compare? w.now = some .gt) :
    (load conv).run w = (.ok (some (c.kept n writtenAt)), w.joined) :=
  load_run_of_isReadAs quiet (isReadAs_document found unexpired)

/-- The stored context is removed when it is met after it has expired. -/
theorem load_run_of_expired {w : World} (quiet : w.IsQuiet) {n : Int} {writtenAt expiresAt : Moment}
    (found : w.store.session? conv = some (c.document n writtenAt expiresAt)) {order : Ordering}
    (placed : expiresAt.compare? w.now = some order) (expired : order ≠ .gt) :
    (load conv).run w = (.ok none, w.cleared conv) := by
  have ended : isResumable? w.now (c.keptSession n writtenAt expiresAt) = .ok false := by
    have active : (c.keptSession n writtenAt expiresAt).expiresAt.compare? w.now = some order := placed
    rw [isResumable?, active]
    cases order with
    | gt => exact absurd rfl expired
    | lt => rfl
    | eq => rfl
  rw [load_run quiet, found]
  dsimp only
  rw [c.withIdText?_document]
  dsimp only
  rw [c.readSession?_document]
  dsimp only
  rw [ended]

/-- After a save the context that was saved is read from the session, while it lasts, with the number
that the session has then. -/
theorem IsReadAs.saved (h : IsReadAs s conv now c) (run : c'.Continues c) {doc : Entries} {n : Int}
    {writtenAt expiresAt : Moment} (before : s.session? conv = some doc)
    (after : t.session? conv = some (Store.advanced (c'.savedFields writtenAt expiresAt) doc))
    (counted : defaulted (Store.advanced (c'.savedFields writtenAt expiresAt) doc) "sequence" 1 integer
      = .valid n)
    (unexpired : expiresAt.compare? present = some .gt) :
    ∃ startedAt, IsReadAs t conv present { c'.kept n writtenAt with startedAt := startedAt } ∧
      (doc.lookup "started_at" ≠ none → startedAt = c.startedAt) := by
  obtain ⟨doc', es, session, history, stored, text, read, resumable, rfl⟩ := h
  rw [before, Option.some.injEq] at stored
  subst stored
  obtain ⟨es', text', number, written, others⟩ :=
    c'.withIdText?_advanced text writtenAt expiresAt
  have parts := Session.read_eq_valid_iff.mp (read_of_readSession? read)
  obtain ⟨startedAt, given, again⟩ := parts.saved c' written
    ((field_congr number integer (.valid 1)).trans counted) others present
  have usable : isResumable? present { session with
      currentNodeId := c'.currentNodeId, vars := c'.vars, history := c'.storedHistory,
      status := Session.active, sequence := n, startedAt := startedAt, lastActivityAt := writtenAt,
      expiresAt := expiresAt } = .ok true :=
    isResumable?_eq_true_iff.mpr ⟨rfl, unexpired⟩
  refine ⟨startedAt, ⟨_, es', _, c'.history, after, text', readSession?_of_read
    (Session.read_eq_valid_iff.mpr again) (readHistory?_toEntries present c'.history), usable, ?_⟩, ?_⟩
  · rw [run]
    rfl
  · rw [← Entries.lookup_of_withIdText? text (by decide) (by decide)]
    exact given

end Keeping

end ChatFlow
