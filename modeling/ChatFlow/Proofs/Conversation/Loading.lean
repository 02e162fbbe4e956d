import ChatFlow.Proofs.Conversation.Keeping
import ChatFlow.Proofs.World.Meeting

/-!
What a loaded context says about the document it was loaded from.

A context comes from the one document of its conversation that the search finds
(`Keeping.IsReadAs`). Its ids and its sequence number are those of that document, whatever else the
document holds (`Keeping.load_some`). That is so whatever faults strike: a session that cannot be read
is left alone, and a context that is loaded is read from what is stored (`Keeping.load_of_hides`,
`Keeping.isReadAs_of_load`).
-/

namespace ChatFlow

/-! ## Reading a document with its id as text -/

namespace Entries

/-- Of entries that were chosen by their keys, those whose keys were chosen are found. -/
theorem lookup_filter {β : Type} (entries : List (String × β)) (keeps : String → Bool) (key : String) :
    (entries.filter fun (k, _) => keeps k).lookup key = if keeps key then entries.lookup key else none := by
  induction entries with
  | nil => rw [List.filter_nil, List.lookup_nil, ite_self]
  | cons e rest ih =>
    obtain ⟨k, v⟩ := e
    by_cases here : key = k
    · subst here
      cases kept : keeps key with
      | true => simp [kept]
      | false =>
        rw [List.filter_cons_of_neg (by simp [kept]), ih, kept]
        rfl
    · have other : (key == k) = false := beq_false_of_ne here
      cases kept : keeps k with
      | true => rw [List.filter_cons_of_pos (by simpa using kept), List.lookup_cons, List.lookup_cons, other, ih]
      | false => rw [List.filter_cons_of_neg (by simp [kept]), List.lookup_cons, other, ih]

theorem lookup_filter_ne {key other : String} (different : key ≠ other) (doc : Entries) :
    (doc.filter fun (k, _) => k != other).lookup key = doc.lookup key :=
  (lookup_filter doc (· != other) key).trans (if_pos (bne_iff_ne.mpr different))

/-- Reading a document with its id as text changes no other entry. -/
theorem lookup_of_withIdText? {doc es : Entries} (h : doc.withIdText? = .ok es) {key : String}
    (id : key ≠ "id") (id_ : key ≠ "_id") : es.lookup key = doc.lookup key := by
  unfold withIdText? at h
  cases found : doc.lookup "_id" with
  | none =>
    rw [found] at h
    cases h
  | some v =>
    rw [found] at h
    dsimp only at h
    cases shown : v.display? with
    | error e =>
      rw [shown] at h
      cases h
    | ok s =>
      rw [shown] at h
      rw [← Except.ok.inj h, lookup_insert_of_ne id, lookup_filter_ne id_]

end Entries

/-! ## Reading a record -/

namespace Schema

variable {α β : Type} {es : Entries} {name : String}

theorem Checked.seq_eq_valid {f : Checked (α → β)} {x : Checked α} {b : β}
    (h : f <*> x = .valid b) : ∃ g a, f = .valid g ∧ x = .valid a ∧ g a = b := by
  change Checked.ap f x = .valid b at h
  cases f with
  | invalid issues => cases x <;> cases h
  | valid g =>
    cases x with
    | invalid issues => cases h
    | valid a =>
      injection h with same
      exact ⟨g, a, rfl, rfl, same⟩

theorem Checked.map_eq_valid {f : α → β} {x : Checked α} {b : β} (h : f <$> x = .valid b) :
    ∃ a, x = .valid a ∧ f a = b := by
  cases x with
  | invalid issues => cases h
  | valid a =>
    injection h with same
    exact ⟨a, rfl, same⟩

/-- A text that is due was there. -/
theorem lookup_of_required_text {s : String} (h : required es name text = .valid s) :
    es.lookup name = some (.text s) := by
  unfold required field at h
  cases found : es.lookup name with
  | none =>
    rw [found] at h
    cases h
  | some v =>
    rw [found] at h
    cases v <;> first | (injection h with same; rw [same]) | cases h

/-- An integer that was there was read. -/
theorem of_defaulted_integer {default n m : Int} (h : defaulted es name default integer = .valid n)
    (found : es.lookup name = some (.int m)) : n = m := by
  rw [defaulted_of_lookup found (a := m) rfl] at h
  injection h with same
  exact same.symm

end Schema

namespace Session

open Schema

/-- Each part of the session is what its field is read as at a time. -/
structure IsRead (s : Session) (now : Moment) (es : Entries) : Prop where
  id : maybe es "id" text = .valid s.id
  conversation : required es "conversation_id" text = .valid s.conversationId
  workspace : required es "workspace_id" text = .valid s.workspaceId
  bot : required es "bot_id" text = .valid s.botId
  flow : required es "flow_id" text = .valid s.flowId
  version : required es "version_id" text = .valid s.versionId
  node : required es "current_node_id" text = .valid s.currentNodeId
  vars : defaulted es "variables" [] dict = .valid s.vars
  history : defaulted es "message_history" [] (items dict) = .valid s.history
  contactId : maybe es "contact_id" text = .valid s.contactId
  contactName : maybe es "contact_name" text = .valid s.contactName
  contactEmail : maybe es "contact_email" text = .valid s.contactEmail
  status : defaulted es "status" active text = .valid s.status
  sequence : defaulted es "sequence" 1 integer = .valid s.sequence
  startedAt : defaulted es "started_at" now moment = .valid s.startedAt
  lastActivityAt : defaulted es "last_activity_at" now moment = .valid s.lastActivityAt
  expiresAt : required es "expires_at" moment = .valid s.expiresAt

/-- A session is read if each of its parts is. -/
theorem read_eq_valid_iff {now : Moment} {es : Entries} {s : Session} :
    read now (.dict es) = .valid s ↔ s.IsRead now es := by
  constructor
  · intro h
    obtain ⟨_, _, h₁, expiresAt, rfl⟩ := Checked.seq_eq_valid h
    obtain ⟨_, _, h₂, lastActivityAt, rfl⟩ := Checked.seq_eq_valid h₁
    obtain ⟨_, _, h₃, startedAt, rfl⟩ := Checked.seq_eq_valid h₂
    obtain ⟨_, _, h₄, sequence, rfl⟩ := Checked.seq_eq_valid h₃
    obtain ⟨_, _, h₅, status, rfl⟩ := Checked.seq_eq_valid h₄
    obtain ⟨_, _, h₆, contactEmail, rfl⟩ := Checked.seq_eq_valid h₅
    obtain ⟨_, _, h₇, contactName, rfl⟩ := Checked.seq_eq_valid h₆
    obtain ⟨_, _, h₈, contactId, rfl⟩ := Checked.seq_eq_valid h₇
    obtain ⟨_, _, h₉, history, rfl⟩ := Checked.seq_eq_valid h₈
    obtain ⟨_, _, h₁₀, vars, rfl⟩ := Checked.seq_eq_valid h₉
    obtain ⟨_, _, h₁₁, node, rfl⟩ := Checked.seq_eq_valid h₁₀
    obtain ⟨_, _, h₁₂, version, rfl⟩ := Checked.seq_eq_valid h₁₁
    obtain ⟨_, _, h₁₃, flow, rfl⟩ := Checked.seq_eq_valid h₁₂
    obtain ⟨_, _, h₁₄, bot, rfl⟩ := Checked.seq_eq_valid h₁₃
    obtain ⟨_, _, h₁₅, workspace, rfl⟩ := Checked.seq_eq_valid h₁₄
    obtain ⟨_, _, h₁₆, conversation, rfl⟩ := Checked.seq_eq_valid h₁₅
    obtain ⟨_, id, rfl⟩ := Checked.map_eq_valid h₁₆
    exact {
      id, conversation, workspace, bot, flow, version, node, vars, history, contactId, contactName,
      contactEmail, status, sequence, startedAt, lastActivityAt, expiresAt }
  · intro h
    simp only [read, record, recordOr, h.id, h.conversation, h.workspace, h.bot, h.flow, h.version,
      h.node, h.vars, h.history, h.contactId, h.contactName, h.contactEmail, h.status, h.sequence,
      h.startedAt, h.lastActivityAt, h.expiresAt, Checked.map_valid, Checked.seq_valid]

/-- What reading a session takes from its document. -/
structure IsReadFrom (s : Session) (es : Entries) : Prop where
  conversation : es.lookup "conversation_id" = some (.text s.conversationId)
  workspace : es.lookup "workspace_id" = some (.text s.workspaceId)
  bot : es.lookup "bot_id" = some (.text s.botId)
  flow : es.lookup "flow_id" = some (.text s.flowId)
  version : es.lookup "version_id" = some (.text s.versionId)
  node : es.lookup "current_node_id" = some (.text s.currentNodeId)
  sequence : ∀ n, es.lookup "sequence" = some (.int n) → s.sequence = n

theorem isReadFrom {now : Moment} {es : Entries} {s : Session}
    (h : read now (.dict es) = .valid s) : s.IsReadFrom es := by
  have parts := read_eq_valid_iff.mp h
  exact {
    conversation := lookup_of_required_text parts.conversation
    workspace := lookup_of_required_text parts.workspace
    bot := lookup_of_required_text parts.bot
    flow := lookup_of_required_text parts.flow
    version := lookup_of_required_text parts.version
    node := lookup_of_required_text parts.node
    sequence := fun _ found => of_defaulted_integer parts.sequence found }

end Session

/-! ## Loading -/

namespace Context

/-- The context was loaded from the document. -/
structure IsLoadedFrom (c : Context) (doc : Entries) : Prop where
  conversation : doc.lookup "conversation_id" = some (.text c.conversationId)
  workspace : doc.lookup "workspace_id" = some (.text c.workspaceId)
  bot : doc.lookup "bot_id" = some (.text c.botId)
  flow : doc.lookup "flow_id" = some (.text c.flowId)
  version : doc.lookup "version_id" = some (.text c.versionId)
  node : doc.lookup "current_node_id" = some (.text c.currentNodeId)
  sequence : ∀ n, doc.lookup "sequence" = some (.int n) → c.sequence = n

end Context

namespace Keeping

open Operation (run_bind)

variable {w v : World} {conv : String} {c : Context}

theorem read_of_readSession? {now : Moment} {es : Entries} {s : Session} {history : List Message}
    (h : readSession? now es = .ok (s, history)) : Session.read now (.dict es) = .valid s := by
  unfold readSession? at h
  cases found : Session.read now (.dict es) with
  | invalid issues =>
    rw [found] at h
    cases h
  | valid t =>
    rw [found] at h
    dsimp only [Schema.Checked.toExcept] at h
    cases messages : readHistory? now t.history with
    | error f =>
      rw [messages] at h
      cases h
    | ok ms =>
      rw [messages] at h
      injection h with same
      injection same with same _
      rw [same]

/-! ### Usable sessions -/

/-- The conversation has a session that can be resumed at the present time, and that is read as the
context. -/
inductive IsReadAs (s : Store) (conv : String) (now : Moment) (c : Context) : Prop
  | intro (doc es : Entries) (session : Session) (history : List Message)
    (stored : s.session? conv = some doc) (text : doc.withIdText? = .ok es)
    (read : readSession? now es = .ok (session, history))
    (resumable : isResumable? now session = .ok true) (context : .ofSession session history = c)

/-- Only the session of the conversation matters. -/
theorem IsReadAs.congr {s t : Store} {now : Moment} (h : IsReadAs s conv now c)
    (same : t.session? conv = s.session? conv) : IsReadAs t conv now c := by
  obtain ⟨doc, es, session, history, stored, text, read, resumable, context⟩ := h
  exact ⟨doc, es, session, history, same.trans stored, text, read, resumable, context⟩

theorem IsReadAs.isLoadedFrom {s : Store} {now : Moment} (h : IsReadAs s conv now c) :
    ∃ doc, s.session? conv = some doc ∧ c.IsLoadedFrom doc := by
  obtain ⟨doc, es, session, history, stored, text, read, -, rfl⟩ := h
  have from_ := Session.isReadFrom (read_of_readSession? read)
  have same (key : String) (id : key ≠ "id") (id_ : key ≠ "_id") :
      doc.lookup key = es.lookup key := (Entries.lookup_of_withIdText? text id id_).symm
  refine ⟨doc, stored, ?_⟩
  exact {
    conversation := (same _ (by decide) (by decide)).trans from_.conversation
    workspace := (same _ (by decide) (by decide)).trans from_.workspace
    bot := (same _ (by decide) (by decide)).trans from_.bot
    flow := (same _ (by decide) (by decide)).trans from_.flow
    version := (same _ (by decide) (by decide)).trans from_.version
    node := (same _ (by decide) (by decide)).trans from_.node
    sequence := fun n found =>
      from_.sequence n ((same _ (by decide) (by decide)).symm.trans found) }

/-- A usable session is loaded where no fault waits. -/
theorem load_run_of_isReadAs (quiet : w.IsQuiet) (h : IsReadAs w.store conv w.now c) :
    (load conv).run w = (.ok (some c), w.joined) := by
  obtain ⟨doc, es, session, history, stored, text, read, resumable, rfl⟩ := h
  rw [load_run quiet, stored]
  dsimp only
  rw [text]
  dsimp only
  rw [read]
  dsimp only
  rw [resumable]

/-- Where a session is removed, no context is loaded. -/
theorem discarded_ne_some (loaded : (discarded conv).run w = (.ok (some c), v)) : False := by
  rw [discarded, run_bind] at loaded
  generalize (discard conv).run w = r at loaded
  obtain ⟨f | _, u⟩ := r <;> cases loaded

/-- What was loaded is the usable session that was stored, whatever faults struck. -/
theorem isReadAs_of_load (alone : w.IsAlone) (loaded : (load conv).run w = (.ok (some c), v)) :
    w.Looks v ∧ IsReadAs w.store conv w.now c := by
  have sought := Operation.getSession_cases conv w
  rw [load_eq] at loaded
  generalize (Operation.getSession conv).run w = r at sought loaded
  cases sought with
  | nothing v looks => cases loaded
  | fails f v looks passed =>
    dsimp only at loaded
    split at loaded <;> cases loaded
  | found doc es v looks stored text =>
    dsimp only at loaded
    cases read : readSession? v.now es with
    | error f =>
      rw [read] at loaded
      exact (discarded_ne_some loaded).elim
    | ok pair =>
      obtain ⟨session, history⟩ := pair
      rw [read] at loaded
      dsimp only at loaded
      cases resumable : isResumable? v.now session with
      | error f =>
        rw [resumable] at loaded
        cases loaded
      | ok usable =>
        rw [resumable] at loaded
        cases usable with
        | false => exact (discarded_ne_some loaded).elim
        | true =>
          cases loaded
          rw [looks.store alone] at stored
          rw [looks.now] at read resumable
          exact ⟨looks, doc, es, session, history, stored, text, read, resumable, rfl⟩

/-- What a load sees in a store at a time if nothing disturbs it. -/
def seen (s : Store) (conv : String) (now : Moment) : Except Failure (Option Context) :=
  match s.session? conv with
  | none => .ok none
  | some doc =>
    match doc.withIdText? with
    | .error _ => .ok none
    | .ok es =>
      match readSession? now es with
      | .error _ => .ok none
      | .ok (session, history) =>
        (isResumable? now session).map fun resumable =>
          if resumable then some (.ofSession session history) else none

theorem load_run_fst (quiet : w.IsQuiet) : ((load conv).run w).1 = seen w.store conv w.now := by
  rw [load_run quiet, seen]
  cases w.store.session? conv with
  | none => rfl
  | some doc =>
    dsimp only
    cases doc.withIdText? with
    | error e => rfl
    | ok es =>
      dsimp only
      cases readSession? w.now es with
      | error e => rfl
      | ok pair =>
        dsimp only
        rcases isResumable? w.now pair.1 with f | _ | _ <;> rfl

/-- A usable session is seen as its context. -/
theorem IsReadAs.seen_eq {s : Store} {now : Moment} (h : IsReadAs s conv now c) :
    seen s conv now = .ok (some c) := by
  obtain ⟨doc, es, session, history, stored, text, read, resumable, rfl⟩ := h
  rw [seen, stored]
  dsimp only
  rw [text]
  dsimp only
  rw [read]
  dsimp only
  rw [resumable]
  rfl

/-- A session that is hidden is left alone, and no context is loaded. -/
theorem load_of_hides (reachable : w.IsReachable) (hides : w.HidesSession) (conv : String) :
    ∃ v, w.Peeks v ∧ (load conv).run w = (.ok none, v) := by
  obtain ⟨v, peeks, found | ⟨cause, found⟩⟩ := Operation.getSession_of_hides reachable hides conv
  · refine ⟨v, peeks, ?_⟩
    rw [load_eq, found]
  · refine ⟨v.noted .error component, peeks.trans (.of_same rfl rfl rfl), ?_⟩
    rw [load_eq, found]
    dsimp only
    rw [isStorage_storageFailure]
    rfl

/-- What is not hidden is seen: a session that has not to be removed is left alone, and gives its context
or, if its expiry has no place in the order of the clock, a failure. -/
theorem load_of_seen (reachable : w.IsReachable) (alone : w.IsAlone) (shows : ¬ w.HidesSession)
    (there : seen w.store conv w.now ≠ .ok none) :
    ∃ v, w.Peeks v ∧ (load conv).run w = (seen w.store conv w.now, v) := by
  unfold seen at there ⊢
  cases stored : w.store.session? conv with
  | none =>
    rw [stored] at there
    exact absurd rfl there
  | some doc =>
    obtain ⟨v, peeks, found⟩ := Operation.getSession_of_shows reachable alone shows stored
    rw [stored] at there
    dsimp only at there ⊢
    cases text : doc.withIdText? with
    | error e =>
      rw [text] at there
      exact absurd rfl there
    | ok es =>
      rw [text] at there found
      dsimp only at there found ⊢
      refine ⟨v, peeks, ?_⟩
      rw [load_eq, found]
      dsimp only
      rw [peeks.looks.now]
      cases read : readSession? w.now es with
      | error e =>
        rw [read] at there
        exact absurd rfl there
      | ok pair =>
        rw [read] at there
        dsimp only at there ⊢
        cases resumable : isResumable? w.now pair.1 with
        | error f => rfl
        | ok usable =>
          rw [resumable] at there
          cases usable with
          | false => exact absurd rfl there
          | true => rfl

/-- A context is loaded from the document that is found for its conversation, and nothing is written. -/
theorem load_some (quiet : w.IsQuiet) (loaded : (load conv).run w = (.ok (some c), v)) :
    v = w.joined ∧ ∃ doc, w.store.session? conv = some doc ∧ c.IsLoadedFrom doc := by
  obtain ⟨-, reads⟩ := isReadAs_of_load quiet.isAlone loaded
  rw [load_run_of_isReadAs quiet reads] at loaded
  exact ⟨(congrArg Prod.snd loaded).symm, reads.isLoadedFrom⟩

/-! ### All that a load may come to -/

/-- What a load may come to: a context; nothing, as there is no session or its record id has no text; or
the removal of a session that cannot be used. An expiry that has no place in the order of the clock is
a failure. -/
inductive Loaded (conv : String) (w : World) : Except Failure (Option Context) × World → Prop
  | context (c : Context) : Loaded conv w (.ok (some c), w.joined)
  | nothing (v : World) (reads : w.Reads v)
    (unread : ∀ doc es, w.store.session? conv = some doc → doc.withIdText? ≠ .ok es) :
    Loaded conv w (.ok none, v)
  | removed (v : World) (reads : (w.cleared conv).Reads v) : Loaded conv w (.ok none, v)
  | fails (f : Failure) : Loaded conv w (.error f, w.joined)

theorem load_cases (quiet : w.IsQuiet) (conv : String) : Loaded conv w ((load conv).run w) := by
  rw [load_run quiet]
  cases found : w.store.session? conv with
  | none => exact .nothing _ ⟨rfl, rfl, rfl⟩ fun _ _ some => by simp [found] at some
  | some doc =>
    dsimp only
    cases text : doc.withIdText? with
    | error e =>
      refine .nothing _ ⟨rfl, rfl, rfl⟩ fun d es same => ?_
      rw [← Option.some.inj (found.symm.trans same), text]
      exact nofun
    | ok es =>
      dsimp only
      cases readSession? w.now es with
      | error e => exact .removed _ ⟨rfl, rfl, rfl⟩
      | ok pair =>
        dsimp only
        cases isResumable? w.now pair.1 with
        | error f => exact .fails f
        | ok resumable =>
          cases resumable with
          | true => exact .context _
          | false => exact .removed _ ⟨rfl, rfl, rfl⟩

/-- The context of a conversation says that it is. -/
theorem conversationId_of_load {s : Store} {doc : Entries} (found : s.session? conv = some doc)
    (loaded : c.IsLoadedFrom doc) : c.conversationId = conv := by
  have mine := Store.holdsAll_sessionOf.mp (Store.holdsAll_of_session? found)
  rw [loaded.conversation] at mine
  exact Value.text.inj (Option.some.inj mine)

end Keeping

end ChatFlow
