import ChatFlow.Conversation.Keeping
import ChatFlow.Proofs.Store.Sessions

/-!
The document of a stored context.

A context is written in two ways: as a whole when it is first stored, and by some of its fields with
every further save. `Context.document` is the document that both ways arrive at. The first section says
so: an insertion writes the document of sequence number 1 (`firstSession_toEntries`), and a save of a
context that continues the run of a stored one turns the one document into the other, with the next
sequence number (`advanced_document`). The second section reads the document back
(`readSession?_document`): nothing of the context is lost but what the store itself keeps, the sequence
number and the time of the save.
-/

namespace ChatFlow

namespace Context

/-! ## Runs -/

/-- The context is a later state of the same run: what it was made with is still the same. -/
def Continues (later c : Context) : Prop :=
  later = { c with
    vars := later.vars
    history := later.history
    currentNodeId := later.currentNodeId
    lastActivityAt := later.lastActivityAt }

theorem Continues.refl (c : Context) : c.Continues c := rfl

theorem Continues.trans {a b c : Context} (ab : a.Continues b) (bc : b.Continues c) :
    a.Continues c := by
  unfold Continues at ab bc ⊢
  rw [bc] at ab
  exact ab

theorem Continues.conversationId {later c : Context} (h : later.Continues c) :
    later.conversationId = c.conversationId := by
  rw [h]

theorem Continues.flowId {later c : Context} (h : later.Continues c) : later.flowId = c.flowId := by
  rw [h]

theorem Continues.versionId {later c : Context} (h : later.Continues c) :
    later.versionId = c.versionId := by
  rw [h]

theorem Continues.sequence {later c : Context} (h : later.Continues c) :
    later.sequence = c.sequence := by
  rw [h]

/-- A fresh context belongs to the conversation it is made for, and was never stored. -/
theorem fresh_of_create? {now : Moment} {d : Flow.Definition} {conv : String}
    {contact : Option Contact} {c : Context} (created : create? now d conv contact = .ok c) :
    c.sequence = 0 ∧ c.conversationId = conv := by
  rw [create?] at created
  generalize Schema.Checked.toExcept title _ = ids at created
  cases ids with
  | error f => cases created
  | ok ids =>
    have made := Except.ok.inj created
    rw [← made]
    exact ⟨rfl, rfl⟩

/-- Nothing was said in a fresh context. -/
theorem history_of_create? {now : Moment} {d : Flow.Definition} {conv : String}
    {contact : Option Contact} {c : Context} (created : create? now d conv contact = .ok c) :
    c.history = [] := by
  rw [create?] at created
  generalize Schema.Checked.toExcept title _ = ids at created
  cases ids with
  | error f => cases created
  | ok ids =>
    have made := Except.ok.inj created
    rw [← made]

theorem not_conflict_of_create? {now : Moment} {d : Flow.Definition} {conv : String}
    {contact : Option Contact} {f : Failure} (failed : create? now d conv contact = .error f) :
    ¬ f.IsConflict := by
  rintro ⟨other, n, rfl⟩
  rw [create?] at failed
  generalize made : Schema.Checked.toExcept title _ = ids at failed
  cases ids with
  | ok ids => cases failed
  | error g =>
    cases failed
    unfold Schema.Checked.toExcept at made
    split at made <;> cases made

/-- The context as it is in the store: with the sequence number of its document and the time at which
it was written. -/
def kept (c : Context) (n : Int) (at_ : Moment) : Context :=
  { c with sequence := n, lastActivityAt := at_ }

@[simp] theorem kept_sequence (c : Context) (n : Int) (t : Moment) : (c.kept n t).sequence = n := rfl

@[simp] theorem kept_flowId (c : Context) (n : Int) (t : Moment) : (c.kept n t).flowId = c.flowId := rfl

@[simp] theorem kept_versionId (c : Context) (n : Int) (t : Moment) :
    (c.kept n t).versionId = c.versionId := rfl

@[simp] theorem kept_conversationId (c : Context) (n : Int) (t : Moment) :
    (c.kept n t).conversationId = c.conversationId := rfl

@[simp] theorem kept_currentNodeId (c : Context) (n : Int) (t : Moment) :
    (c.kept n t).currentNodeId = c.currentNodeId := rfl

/-! ## Writing -/

/-- The document of a context with a sequence number, written at a time and expiring at another. -/
def document (c : Context) (n : Int) (writtenAt expiresAt : Moment) : Entries :=
  ("_id", .text c.conversationId)
    :: { c.firstSession writtenAt expiresAt with sequence := n }.toEntries

/-- The first write of a context has sequence number 1. -/
theorem firstSession_toEntries (c : Context) (now expiresAt : Moment) :
    ("_id", .text c.conversationId) :: (c.firstSession now expiresAt).toEntries
      = c.document 1 now expiresAt := rfl

/-- The fields that a further save writes; none of them says whose session a document is. -/
def savedKeys : List String :=
  ["current_node_id", "variables", "message_history", "status", "last_activity_at", "expires_at"]

theorem map_fst_savedFields (c : Context) (now expiresAt : Moment) :
    (c.savedFields now expiresAt).map Prod.fst = savedKeys := rfl

section Document

variable (c : Context) (n : Int) (writtenAt expiresAt : Moment)

theorem document_conversationId :
    (c.document n writtenAt expiresAt).lookup "conversation_id" = some (.text c.conversationId) :=
  rfl

theorem document_sequence :
    (c.document n writtenAt expiresAt).lookup "sequence" = some (.int n) := rfl

theorem document_expiresAt :
    (c.document n writtenAt expiresAt).lookup "expires_at" = some (.date expiresAt) := rfl

theorem holdsAll_sessionOf_document :
    (c.document n writtenAt expiresAt).holdsAll (Store.sessionOf c.conversationId) = true :=
  Store.holdsAll_sessionOf.mpr (c.document_conversationId n writtenAt expiresAt)

theorem mem_savedKeys {key : String} {v : Value}
    (h : (c.savedFields writtenAt expiresAt).lookup key = some v) : key ∈ savedKeys := by
  obtain ⟨before, after, same, -⟩ := List.lookup_eq_some_iff.mp h
  rw [← c.map_fst_savedFields writtenAt expiresAt, same]
  simp

/-- What a save writes is there afterwards. -/
theorem lookup_saved {doc : Entries} {key : String} {v : Value}
    (h : (c.savedFields writtenAt expiresAt).lookup key = some v) :
    (Store.advanced (c.savedFields writtenAt expiresAt) doc).lookup key = some v := by
  have mem := c.mem_savedKeys writtenAt expiresAt h
  have once : ((c.savedFields writtenAt expiresAt).map Prod.fst).Nodup := by
    rw [map_fst_savedFields]
    decide
  rw [Store.lookup_advanced (by rintro rfl; revert mem; decide)]
  exact Entries.lookup_update_of_lookup once doc h

/-- A save leaves every entry but the sequence number and what it writes. -/
theorem lookup_unsaved {doc : Entries} {key : String} (other : key ≠ "sequence")
    (unsaved : key ∉ savedKeys) :
    (Store.advanced (c.savedFields writtenAt expiresAt) doc).lookup key = doc.lookup key := by
  rw [Store.lookup_advanced other, Entries.lookup_update_of_notMem]
  rwa [map_fst_savedFields]

/-- A save of a context that continues the run of a stored one gives the document of that context. -/
theorem advanced_document {later c : Context} (h : later.Continues c) (n : Int)
    (writtenAt expiresAt now expiry : Moment) :
    Store.advanced (later.savedFields now expiry) (c.document n writtenAt expiresAt)
      = later.document (n + 1) now expiry := by
  rw [Store.advanced_of_sequence (by rw [map_fst_savedFields]; decide)
    (c.document_sequence n writtenAt expiresAt), h]
  simp [document, firstSession, savedFields, Session.toEntries, Entries.update, Entries.insert,
    storedHistory]

/-- A save of a context gives the document found the next sequence number. -/
theorem advanced_document_sequence {doc : Entries} {m : Int}
    (h : doc.lookup "sequence" = some (.int m)) :
    (Store.advanced (c.savedFields writtenAt expiresAt) doc).lookup "sequence"
      = some (.int (m + 1)) := by
  rw [Store.advanced_of_sequence (by rw [map_fst_savedFields]; decide) h, Entries.lookup_insert_self]

end Document

/-- The document of a context is a session of its conversation only. -/
theorem conversationId_of_holdsAll {c : Context} {n : Int} {writtenAt expiresAt : Moment} {conv : String}
    (h : (c.document n writtenAt expiresAt).holdsAll (Store.sessionOf conv) = true) :
    c.conversationId = conv := by
  have mine := Store.holdsAll_sessionOf.mp h
  rw [c.document_conversationId, Option.some.injEq, Value.text.injEq] at mine
  exact mine

end Context

/-! ## Reading back -/

namespace Schema

variable {α : Type} {es : Entries} {name : String}

theorem required_of_lookup {read : Value → Checked α} {v : Value} {a : α}
    (h : es.lookup name = some v) (fits : read v = .valid a) : required es name read = .valid a := by
  simp only [required, field, h, fits, Checked.under_valid]

theorem defaulted_of_lookup {default : α} {read : Value → Checked α} {v : Value} {a : α}
    (h : es.lookup name = some v) (fits : read v = .valid a) :
    defaulted es name default read = .valid a := by
  simp only [defaulted, field, h, fits, Checked.under_valid]

/-- An optional text is read as it was written. -/
theorem maybe_text_of_lookup {o : Option String} (h : es.lookup name = some (.ofText? o)) :
    maybe es name text = .valid o :=
  defaulted_of_lookup h (by cases o <;> rfl)

theorem itemsFrom_dict (start : Nat) (history : List Entries) :
    itemsFrom dict start (history.map .dict) = .valid history := by
  induction history generalizing start with
  | nil => rfl
  | cons es rest ih =>
    rw [List.map_cons, itemsFrom, ih]
    rfl

end Schema

namespace Session

open Schema

/-- Reading the entries of a session gives the session back, with the id that they are read with. -/
theorem read_toEntries (s : Session) (now : Moment) (id : String) :
    read now (.dict (s.toEntries ++ [("id", .text id)])) = .valid { s with id := some id } := by
  simp only [read, record, recordOr]
  rw [maybe_text_of_lookup (o := some id) rfl,
    required_of_lookup (a := s.conversationId) rfl rfl,
    required_of_lookup (a := s.workspaceId) rfl rfl,
    required_of_lookup (a := s.botId) rfl rfl,
    required_of_lookup (a := s.flowId) rfl rfl,
    required_of_lookup (a := s.versionId) rfl rfl,
    required_of_lookup (a := s.currentNodeId) rfl rfl,
    defaulted_of_lookup (a := s.vars) rfl rfl,
    defaulted_of_lookup (a := s.history) rfl (itemsFrom_dict 0 s.history),
    maybe_text_of_lookup (o := s.contactId) rfl,
    maybe_text_of_lookup (o := s.contactName) rfl,
    maybe_text_of_lookup (o := s.contactEmail) rfl,
    defaulted_of_lookup (a := s.status) rfl rfl,
    defaulted_of_lookup (a := s.sequence) rfl rfl,
    defaulted_of_lookup (a := s.startedAt) rfl rfl,
    defaulted_of_lookup (a := s.lastActivityAt) rfl rfl,
    required_of_lookup (a := s.expiresAt) rfl rfl]
  rfl

end Session

namespace Keeping

/-- Reading stored messages gives them back. -/
theorem readHistory?_toEntries (now : Moment) (history : List Message) :
    readHistory? now (history.map Message.toEntries) = .ok history := by
  induction history with
  | nil => rfl
  | cons m rest ih =>
    have read : Message.read now (.dict m.toEntries) = .valid m := Message.read_toValue now m
    simp only [List.map_cons, readHistory?, read, Schema.Checked.toExcept, ih]
    rfl

theorem readSession?_of_read {now : Moment} {doc : Entries} {s : Session} {history : List Message}
    (read : Session.read now (.dict doc) = .valid s)
    (messages : readHistory? now s.history = .ok history) :
    readSession? now doc = .ok (s, history) := by
  unfold readSession?
  rw [read]
  dsimp only [Schema.Checked.toExcept]
  rw [messages]
  rfl

end Keeping

namespace Context

/-- The session that the document of a context is read as. -/
def keptSession (c : Context) (n : Int) (writtenAt expiresAt : Moment) : Session :=
  { c.firstSession writtenAt expiresAt with id := some c.conversationId, sequence := n }

/-- The document of a context is read with its id as text. -/
theorem withIdText?_document (c : Context) (n : Int) (writtenAt expiresAt : Moment) :
    (c.document n writtenAt expiresAt).withIdText? =
      .ok ((c.keptSession n writtenAt expiresAt).toEntries ++ [("id", .text c.conversationId)]) := by
  have id : (c.document n writtenAt expiresAt).lookup "_id" = some (.text c.conversationId) := rfl
  have shown : (Value.text c.conversationId).display? = .ok c.conversationId := rfl
  simp only [Entries.withIdText?, id, shown]
  rfl

/-- Reading the document of a context gives its session, and its messages. -/
theorem readSession?_document (c : Context) (now : Moment) (n : Int) (writtenAt expiresAt : Moment) :
    Keeping.readSession? now ((c.keptSession n writtenAt expiresAt).toEntries
        ++ [("id", .text c.conversationId)]) =
      .ok (c.keptSession n writtenAt expiresAt, c.history) := by
  exact Keeping.readSession?_of_read
    (Session.read_toEntries (c.keptSession n writtenAt expiresAt) now c.conversationId)
    (Keeping.readHistory?_toEntries now c.history)

end Context

end ChatFlow
