import ChatFlow.Proofs.Contention.Race
import ChatFlow.Proofs.Flow.Consulting
import ChatFlow.Proofs.Interpreter.Serving
import ChatFlow.Proofs.Interpreter.Turning

/-!
How long a conversation waits for a reply.

Every turn that waits puts off the expiry of its session: until the hours of the interpreter have passed
since that turn, a message of the conversation is the reply (`Interpreter.IsAwaited`). A later message, and
one that does not follow a turn that waits, finds nothing to resume, and the flow that answers is chosen anew
(`Interpreter.resumes_iff_awaited`).

`Ages` describes the worlds of a service whose clock goes forward, where the store may remove a session that
has expired, but no other. The invariant is `IsAged`: a session expires the hours after the answer that left
it, and it is there until then. It takes that an answer takes no time, as the expiry is counted from the end
of the turn.
-/

namespace ChatFlow

namespace Moment

variable {a b c : Moment}

/-- Moments of one clock are ordered by their counts. -/
theorem compare?_of_offset (same : a.offset = b.offset) :
    a.compare? b = some (compare (a.micros : Int) b.micros) := by
  have before : a.universal < b.universal ↔ (a.micros : Int) < b.micros := by
    rw [universal, universal, same]
    omega
  have at_once : a.universal = b.universal ↔ (a.micros : Int) = b.micros := by
    rw [universal, universal, same]
    omega
  rw [compare?, same, beq_self_eq_true, if_pos rfl]
  simp only [compare, compareOfLessAndEq, before, at_once]

theorem compare?_eq_gt_iff (same : a.offset = b.offset) : a.compare? b = some .gt ↔ b.micros < a.micros := by
  rw [compare?_of_offset same, Option.some.injEq, Int.compare_eq_gt, Int.ofNat_lt]

theorem of_shift? {delta : Int} (h : a.shift? delta = some b) :
    b.offset = a.offset ∧ (b.micros : Int) = a.micros + delta := by
  unfold shift? at h
  dsimp only at h
  split at h
  · rename_i within
    rw [Bool.and_eq_true, decide_eq_true_iff, decide_eq_true_iff] at within
    cases h
    exact ⟨rfl, Int.toNat_of_nonneg within.1⟩
  · cases h

end Moment

namespace Keeping

/-- A session that is saved expires the hours after the present. -/
theorem of_expiry? {now e : Moment} {hours : Int} (h : expiry? now hours = .ok e) :
    e.offset = now.offset ∧ (e.micros : Int) = now.micros + hours * 3600 * Moment.perSecond := by
  unfold expiry? at h
  dsimp only at h
  split at h
  · cases h
  · split at h
    · rename_i m shifted
      cases h
      exact Moment.of_shift? shifted
    · cases h

end Keeping

namespace Interpreter

open ChatFlow.Flow (Definition)

variable {i : Interpreter} {m : Inbound} {w v : World} {last : Answers} {conv : String}

/-! ## Services whose clock goes forward -/

/-- The session has expired. -/
def HasExpired (now : Moment) (doc : Entries) : Prop :=
  ∃ e, doc.lookup "expires_at" = some (.date e) ∧ e.compare? now ≠ some .gt

/-- The worlds of a service that began without sessions and whose clock goes forward. -/
inductive Ages (i : Interpreter) : World → Answers → Prop
  | begins (w : World) (quiet : w.IsQuiet) (empty : w.store.sessions = []) : Ages i w fun _ => none
  /-- Time passes. Anything may happen elsewhere, and sessions that have expired may be removed. -/
  | passes (w v : World) (last : Answers) (before : Ages i w last) (quiet : v.IsQuiet)
    (offset : v.now.offset = w.now.offset) (forward : w.now.micros ≤ v.now.micros)
    (sessions : v.store.sessions.Sublist w.store.sessions)
    (kept : ∀ doc ∈ w.store.sessions, HasExpired v.now doc ∨ doc ∈ v.store.sessions) : Ages i v last
  | answers (w : World) (last : Answers) (m : Inbound) (before : Ages i w last) :
    Ages i (i.process m w).2 (last.note ⟨m, w, (i.process m w).1⟩)

theorem Ages.serves (ages : Ages i w last) : Serves i w last := by
  induction ages with
  | begins w quiet empty => exact .begins w quiet empty
  | passes w v last _ quiet _ _ sessions _ ih => exact .passes w v last ih quiet sessions
  | answers w last m _ ih => exact .answers w last m ih

/-! ## Deadlines -/

/-- The time until which a reply to the answer is awaited, on the clock of the service. -/
def Answered.deadline (a : Answered) (hours : Int) : Int :=
  a.world.now.micros + hours * 3600 * Moment.perSecond

/-- The last turn of the conversation waits, and its time is not up. -/
def IsAwaited (i : Interpreter) (last : Answers) (conv : String) (now : Moment) : Prop :=
  ∃ a, last conv = some a ∧ a.outcome.waitingForInput = true ∧ (now.micros : Int) < a.deadline i.sessionHours

/-- The document is what the last answer of its conversation left, and expires with its deadline. -/
inductive IsDue (i : Interpreter) (now : Moment) (last : Answers) (doc : Entries) : Prop
  | intro (a : Answered) (d : Definition) (c : Context) (u : World) (n : Int) (e : Moment)
    (answer : last c.conversationId = some a) (makes : Makes i a.message a.world d a.outcome c u)
    (waits : a.outcome.waitingForInput = true) (offset : e.offset = now.offset)
    (deadline : (e.micros : Int) = a.deadline i.sessionHours) (document : doc = c.document n u.now e)

/-- The invariant of a service whose clock goes forward. -/
structure IsAged (i : Interpreter) (w : World) (last : Answers) : Prop where
  due : ∀ doc ∈ w.store.sessions, IsDue i w.now last doc
  /-- What is awaited has its session. -/
  there : ∀ conv, IsAwaited i last conv w.now → w.store.sessionsOf conv ≠ []

/-- Time takes away what has expired. -/
theorem IsAged.passes (aged : IsAged i w last) (offset : v.now.offset = w.now.offset)
    (forward : w.now.micros ≤ v.now.micros) (sessions : v.store.sessions.Sublist w.store.sessions)
    (kept : ∀ doc ∈ w.store.sessions, HasExpired v.now doc ∨ doc ∈ v.store.sessions) : IsAged i v last where
  due doc here := by
    obtain ⟨a, d, c, u, n, e, answer, makes, waits, same, deadline, document⟩ := aged.due doc (sessions.mem here)
    exact ⟨a, d, c, u, n, e, answer, makes, waits, same.trans offset.symm, deadline, document⟩
  there conv := by
    rintro ⟨a, answer, waits, early⟩
    have awaited : IsAwaited i last conv w.now :=
      ⟨a, answer, waits, Int.lt_of_le_of_lt (Int.ofNat_le.mpr forward) early⟩
    obtain ⟨doc, here⟩ := List.exists_mem_of_ne_nil _ (aged.there conv awaited)
    obtain ⟨was, mine⟩ := List.mem_filter.mp here
    refine List.ne_nil_of_mem (a := doc) (List.mem_filter.mpr ⟨?_, mine⟩)
    rcases kept doc was with ⟨e', expires, expired⟩ | stays
    · obtain ⟨a', d, c, u, n, e, answer', makes, waits', same, deadline, rfl⟩ := aged.due doc was
      rw [c.document_expiresAt, Option.some.injEq, Value.date.injEq] at expires
      subst expires
      rw [Context.conversationId_of_holdsAll mine, answer, Option.some.injEq] at answer'
      subst answer'
      refine absurd ?_ expired
      rw [Moment.compare?_eq_gt_iff (same.trans offset.symm)]
      omega
    · exact stays

/-- An answer that waits puts off the expiry of its session, and any other removes it. -/
theorem IsAged.process (aged : IsAged i w last) (served : IsServed i w last) (built : i.registry.IsBuilt)
    (m : Inbound) : IsAged i (i.process m w).2 (last.note ⟨m, w, (i.process m w).1⟩) where
  due doc here := by
    have clock := now_process built served.quiet m
    cases served.remains m here with
    | old was other =>
      obtain ⟨a, d, c, u, n, e, answer, makes, waits, same, deadline, rfl⟩ := aged.due doc was
      refine ⟨a, d, c, u, n, e, ?_, makes, waits, by rw [clock, same], deadline, rfl⟩
      rw [Answers.note, if_neg (conversationId_ne_of_other other), answer]
    | new d c u n e makes waits mine positive timely document =>
      rw [makes.now built served.quiet] at timely
      obtain ⟨offset, deadline⟩ := Keeping.of_expiry? timely
      refine ⟨⟨m, w, (i.process m w).1⟩, d, c, u, n, e, ?_, makes, waits, by rw [clock, offset], deadline,
        document⟩
      rw [Answers.note, if_pos mine]
  there conv := by
    rintro ⟨a, answer, waits, early⟩
    rw [now_process built served.quiet m] at early
    rw [Answers.note] at answer
    split at answer
    · rename_i mine
      cases answer
      have count := (served.settles m).sessions
      rw [waits, ← mine] at count
      exact List.ne_nil_of_length_eq_add_one count
    · rename_i other
      rw [sessionsOf_process_of_ne served.quiet other]
      exact aged.there conv ⟨a, answer, waits, early⟩

/-- The invariant holds in every world of such a service. -/
theorem Ages.isAged (ages : Ages i w last) (built : i.registry.IsBuilt) : IsAged i w last := by
  induction ages with
  | begins w quiet empty =>
    refine ⟨fun doc here => ?_, fun conv => ?_⟩
    · rw [empty] at here
      cases here
    · rintro ⟨a, answer, -⟩
      cases answer
  | passes w v last before _ offset forward sessions kept ih => exact ih.passes offset forward sessions kept
  | answers w last m before ih => exact ih.process before.serves.isServed built m

/-! ## The next message -/

/-- The flow and version that the conversation's session is bound to can be loaded, and have the node at which
the conversation stands. -/
def StaysBound (w : World) (conv : String) : Prop :=
  ∀ c, Keeping.IsReadAs w.store conv w.now c →
    ∃ d, Library.known? w c.flowId (some c.versionId) = some d ∧ (d.node? c.currentNodeId).isSome = true

/-- The message is a reply in the run of its conversation: it meets the context that the last turn left. -/
inductive Replies (i : Interpreter) (last : Answers) (m : Inbound) (w : World) : Prop
  | intro (a : Answered) (d₀ d : Definition) (c : Context) (u v : World) (n : Int)
    (answer : last m.conversationId = some a) (makes : Makes i a.message a.world d₀ a.outcome c u)
    (resumed : (resume m.conversationId).run w = (.ok (some (c.kept n u.now, d)), v))
    (responds : (i.respond m).run w = (i.proceed m (c.kept n u.now) d).run v)

/-- The message finds nothing to resume and no session is left, and it is answered by the flow that it
triggers. -/
inductive Opens (i : Interpreter) (m : Inbound) (w : World) : Prop
  | intro (v : World) (resumed : (resume m.conversationId).run w = (.ok none, v)) (clock : v.now = w.now)
    (gone : v.store.sessionsOf m.conversationId = [])
    (responds : (i.respond m).run w =
      match (Dispatch.find m.workspaceId m.botId (.ofMessage m.message) false).run v with
      | (.error f, u) => (.error f, u)
      | (.ok none, u) => (.ok (noFlow u.now), u)
      | (.ok (some d), u) => (i.start m d).run u)

theorem opens_of_resume_none (quiet : w.IsQuiet) (resumed : (resume m.conversationId).run w = (.ok none, v))
    (gone : v.store.sessionsOf m.conversationId = []) : Opens i m w :=
  ⟨v, resumed, now_of_resume_none quiet resumed, gone, respond_of_nothing resumed⟩

/-- A session that has not expired is replied to. -/
theorem IsDue.replies {doc : Entries} (due : IsDue i w.now last doc) (quiet : w.IsQuiet)
    (bound : StaysBound w m.conversationId) (stored : w.store.session? m.conversationId = some doc)
    (awaited : IsAwaited i last m.conversationId w.now) : Replies i last m w := by
  obtain ⟨a, d₀, c, u, n, e, answer, makes, waits, offset, deadline, rfl⟩ := due
  rw [Context.conversationId_of_holdsAll (Store.holdsAll_of_session? stored)] at answer
  have unexpired : e.compare? w.now = some .gt := by
    obtain ⟨a', answer', -, early⟩ := awaited
    rw [answer, Option.some.injEq] at answer'
    subst answer'
    rw [Moment.compare?_eq_gt_iff offset]
    omega
  have reads := Keeping.isReadAs_document stored unexpired
  obtain ⟨d, known, node⟩ := bound _ reads
  obtain ⟨v, -, loads⟩ := Library.load_run (w := w.joined) quiet (c.kept n u.now).flowId
    (some (c.kept n u.now).versionId)
  rw [Library.known?_of_consults (World.Consults.joined w), known] at loads
  have resumed := resume_run_of_load quiet reads loads node
  refine ⟨a, d₀, d, c, u, v, n, answer, makes, resumed, ?_⟩
  rw [respond, Operation.run_bind, resumed]

/-- A session that has expired is removed. -/
theorem IsDue.opens {doc : Entries} (due : IsDue i w.now last doc) (served : IsServed i w last)
    (stored : w.store.session? m.conversationId = some doc)
    (unawaited : ¬ IsAwaited i last m.conversationId w.now) : Opens i m w := by
  obtain ⟨a, d₀, c, u, n, e, answer, makes, waits, offset, deadline, rfl⟩ := due
  rw [Context.conversationId_of_holdsAll (Store.holdsAll_of_session? stored)] at answer
  have expired : compare (e.micros : Int) w.now.micros ≠ .gt := by
    intro early
    refine unawaited ⟨a, answer, waits, ?_⟩
    rw [← deadline]
    exact Int.compare_eq_gt.mp early
  have loaded := Keeping.load_run_of_expired served.quiet stored (Moment.compare?_of_offset offset) expired
  have resumed : (resume m.conversationId).run w = (.ok none, w.cleared m.conversationId) := by
    rw [resume_eq, loaded]
  exact opens_of_resume_none served.quiet resumed (served.keyed _).sessionsOf_cleared

/-- A message is a reply in the run of its conversation exactly if the last turn of the conversation waits
and the hours that a session is kept have not passed since that turn. Every other message starts afresh, and
no session is left to it. -/
theorem resumes_iff_awaited (s : Services) (maxHops : Nat) (hours : Int) (w : World) (last : Answers)
    (ages : Ages (standard s maxHops hours) w last) (m : Inbound) (bound : StaysBound w m.conversationId) :
    ((∃ c d v, (resume m.conversationId).run w = (.ok (some (c, d)), v)) ↔
        IsAwaited (standard s maxHops hours) last m.conversationId w.now) ∧
      (IsAwaited (standard s maxHops hours) last m.conversationId w.now →
        Replies (standard s maxHops hours) last m w) ∧
      (¬ IsAwaited (standard s maxHops hours) last m.conversationId w.now →
        Opens (standard s maxHops hours) m w) := by
  have served := ages.serves.isServed
  have aged := ages.isAged (Registry.isBuilt_standard s)
  have replies (awaited : IsAwaited (standard s maxHops hours) last m.conversationId w.now) :
      Replies (standard s maxHops hours) last m w := by
    obtain ⟨doc, here⟩ := List.exists_mem_of_ne_nil _ (aged.there _ awaited)
    have stored := Store.session?_of_sessionsOf ((served.keyed _).sessionsOf_eq_of_mem here)
    exact (aged.due doc (List.mem_filter.mp here).1).replies served.quiet bound stored awaited
  have opens (unawaited : ¬ IsAwaited (standard s maxHops hours) last m.conversationId w.now) :
      Opens (standard s maxHops hours) m w := by
    cases stored : w.store.session? m.conversationId with
    | none =>
      exact opens_of_resume_none served.quiet (resume_run_of_none served.quiet stored)
        (Store.session?_eq_none_iff.mp stored)
    | some doc => exact (aged.due doc (List.mem_of_find?_eq_some stored)).opens served stored unawaited
  refine ⟨⟨fun ⟨c, d, v, resumed⟩ => ?_, fun awaited => ?_⟩, replies, opens⟩
  · refine Classical.byContradiction fun unawaited => ?_
    obtain ⟨u, nothing, -⟩ := opens unawaited
    cases resumed.symm.trans nothing
  · obtain ⟨a, d₀, d, c, u, v, n, -, -, resumed, -⟩ := replies awaited
    exact ⟨_, d, v, resumed⟩

end Interpreter

namespace Sample

open Interpreter

open Contention (atTime)

/-- The last answer of the small bot is its question. -/
def askedAtNoon : Answers :=
  Answers.note (fun _ => none)
    ⟨message "hello", world [], ((interpreter 24).process (message "hello") (world [])).1⟩

theorem ages_asked (t : Moment) (offset : t.offset = none) (forward : noon.micros ≤ t.micros) :
    Ages (interpreter 24) (atTime asked t) askedAtNoon := by
  have clock : asked.now = noon := by decide +kernel
  have quiet : asked.IsQuiet := (spends_process (interpreter 24) (message "hello") (world [])).isQuiet rfl
  refine .passes asked _ _ (.answers (world []) _ (message "hello") (.begins (world []) rfl rfl)) quiet ?_ ?_
    (.refl _) fun doc here => .inr here
  · rw [clock]
    exact offset
  · rw [clock]
    exact forward

theorem staysBound_asked (t : Moment) : StaysBound (atTime asked t) "chat" := by
  intro c reads
  obtain ⟨doc, stored, loaded⟩ := reads.isLoadedFrom
  have session : asked.store.session? "chat" = some doc := stored
  have bound : (asked.store.session? "chat").all (fun doc => (doc.getD "flow_id").isText "greeting"
      && (doc.getD "version_id").isText "v1" && (doc.getD "current_node_id").isText "ask") = true := by
    decide +kernel
  rw [session, Option.all_some, Entries.getD_of_lookup loaded.flow, Entries.getD_of_lookup loaded.version,
    Entries.getD_of_lookup loaded.node] at bound
  simp only [Value.isText, Bool.and_eq_true, beq_iff_eq] at bound
  obtain ⟨⟨flow, version⟩, node⟩ := bound
  have held : ((asked.cache.lookup (Library.key "greeting" (some "v1"))).bind (·.node? "ask")).isSome = true := by
    decide +kernel
  obtain ⟨n, held⟩ := Option.isSome_iff_exists.mp held
  obtain ⟨d, kept, there⟩ := Option.bind_eq_some_iff.mp held
  refine ⟨d, ?_, ?_⟩
  · have same : (atTime asked t).cache = asked.cache := rfl
    rw [Library.known?, flow, version, same, kept, Option.some_or]
  · rw [node, there]
    rfl

/-- The last moment at which the name is awaited. -/
def justInTime : Moment := ⟨nextNoon.micros - 1, none⟩

/-- A day after the question the conversation is over; a microsecond earlier it is not. -/
theorem resumes_iff_awaited_asked :
    Replies (interpreter 24) askedAtNoon (message "Ann") (atTime asked justInTime) ∧
      Opens (interpreter 24) (message "Ann") (atTime asked nextNoon) := by
  have waits : ((interpreter 24).process (message "hello") (world [])).1.waitingForInput = true := by
    decide +kernel
  have answer : askedAtNoon "chat"
      = some ⟨message "hello", world [], ((interpreter 24).process (message "hello") (world [])).1⟩ := rfl
  refine ⟨(resumes_iff_awaited services 50 24 _ _ (ages_asked justInTime rfl (by decide +kernel))
    (message "Ann") (staysBound_asked _)).2.1 ⟨_, answer, waits, by decide +kernel⟩, ?_⟩
  refine (resumes_iff_awaited services 50 24 _ _ (ages_asked nextNoon rfl (by decide +kernel))
    (message "Ann") (staysBound_asked _)).2.2 ?_
  rintro ⟨a, same, -, early⟩
  cases answer.symm.trans same
  revert early
  decide +kernel

end Sample

end ChatFlow
