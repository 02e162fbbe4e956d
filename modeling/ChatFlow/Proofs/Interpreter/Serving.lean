import ChatFlow.Proofs.Interpreter.Overlooking
import ChatFlow.Proofs.Interpreter.Settling
import ChatFlow.Proofs.Interpreter.Transparency
import ChatFlow.Proofs.Interpreter.Waiting

/-!
A service that answers one message after another.

`Serves` describes the worlds that a service comes to whose store began without sessions, where messages
of any conversations are answered one after another and no fault waits. Between two answers anything may
happen, to flows, versions, the clock or other services, but sessions are only removed, as expired ones
are. Along with the world goes the last answer of every conversation.

The invariant is `IsServed`: every session is the document of the context that the last answer of its
conversation left, and that answer waits for a reply. An answer preserves it: the sessions of other
conversations are overlooked, and what is left of its own conversation is one session after an answer
that waits and none after any other. With the invariant, a save is never a conflict, and outcome and
store agree after every answer (`Interpreter.process_agrees`).
-/

namespace ChatFlow

open ChatFlow.Flow (Definition)

open Operation (gives_any gives_bind gives_pure)

/-! ## Outcomes -/

/-- The outcome says in one way how the conversation goes on: it is over, or waits, or failed. -/
structure Outcome.IsDefinite (o : Outcome) : Prop where
  state : (o.completed = true ∧ o.waitingForInput = false)
    ∨ (o.completed = false ∧ o.waitingForInput = true)
    ∨ (o.completed = false ∧ o.waitingForInput = false ∧ o.error.isSome = true)
  failed : o.error.isSome = true → o.success = false
  handedOver : o.isHandoff = true → o.completed = true

theorem Turn.Shape.isDefinite {o : Outcome} (h : Turn.Shape o) : o.IsDefinite := by
  cases h with
  | waits success messages => exact ⟨.inr (.inl ⟨rfl, rfl⟩), nofun, nofun⟩
  | ends success messages handoff => exact ⟨.inl ⟨rfl, rfl⟩, nofun, fun _ => rfl⟩
  | fails messages excuse completed error apologizes said =>
    refine ⟨?_, fun _ => rfl, nofun⟩
    cases completed with
    | true => exact .inl ⟨rfl, rfl⟩
    | false => exact .inr (.inr ⟨rfl, rfl, rfl⟩)

namespace Interpreter

variable {i : Interpreter} {m : Inbound} {w v u : World} {d : Definition} {c : Context} {o : Outcome}

theorem isDefinite_excuse (now : Moment) (message : String) (completed : Bool) (error : String) :
    (excuse now message completed error).IsDefinite := by
  refine ⟨?_, fun _ => rfl, nofun⟩
  cases completed with
  | true => exact .inl ⟨rfl, rfl⟩
  | false => exact .inr (.inr ⟨rfl, rfl, rfl⟩)

/-- What is true of the outcomes of turns and of the excuses is true of every outcome. -/
theorem gives_respond {P : Outcome → Prop}
    (turns : ∀ d c reply outside, P (Turn.takeTurn i.registry i.maxHops d c reply outside).1.1)
    (excuses : ∀ now message completed error, P (excuse now message completed error)) :
    (i.respond m).Gives P := by
  have turned (d : Definition) (c : Context) (reply : Option String) :
      (i.turn d c reply).Gives fun p => P p.1 := by
    intro w v p run
    rw [turn_run] at run
    rw [← Except.ok.inj (congrArg Prod.fst run)]
    exact turns d c reply w.outside
  refine gives_bind gives_any fun found _ => ?_
  cases found with
  | some p =>
    refine gives_bind (turned _ _ _) fun result fits => ?_
    dsimp only
    split
    · exact gives_bind gives_any fun _ _ => gives_bind gives_any fun _ _ => gives_pure fits
    · split
      · exact gives_bind gives_any fun _ _ => gives_pure fits
      · exact gives_bind gives_any fun _ _ => gives_pure fits
  | none =>
    refine gives_bind gives_any fun found _ => ?_
    cases found with
    | none => exact gives_bind gives_any fun now _ => gives_pure (excuses now _ _ _)
    | some d =>
      refine gives_bind gives_any fun now _ => gives_bind gives_any fun c _ =>
        gives_bind (turned _ _ _) fun result fits => ?_
      dsimp only
      split
      · exact gives_bind gives_any fun _ _ => gives_pure fits
      · split
        · exact gives_bind gives_any fun _ _ => gives_pure fits
        · exact gives_pure fits

/-- What is true of the outcomes of turns and of the excuses is true of every answer, whatever faults
strike. -/
theorem process_fits {P : Outcome → Prop}
    (turns : ∀ d c reply outside, P (Turn.takeTurn i.registry i.maxHops d c reply outside).1.1)
    (excuses : ∀ now message completed error, P (excuse now message completed error)) (m : Inbound)
    (w : World) : P (i.process m w).1 := by
  cases responds : (i.respond m).run w with
  | mk result v =>
    cases result with
    | ok o =>
      rw [process_of_ok responds]
      exact gives_respond turns excuses w v o responds
    | error f =>
      rw [process, StateM.bind_apply, responds]
      cases f with
      | conflict conv n => exact excuses _ _ _ _
      | _ =>
        dsimp only
        rw [StateM.bind_apply, StateM.bind_apply, World.reportError_apply]
        rcases (Keeping.clear m.conversationId).run (v.noted .error component) with ⟨_ | _, u⟩ <;>
          exact excuses _ _ _ _

/-- Every answer is definite. -/
theorem process_isDefinite (i : Interpreter) (m : Inbound) (w : World) :
    (i.process m w).1.IsDefinite :=
  process_fits (fun d c reply outside => (Turn.takeTurn_shape _ _ d c reply outside).isDefinite)
    isDefinite_excuse m w

/-! ## What a turn that waits stores -/

/-- The sessions of the conversation are documents that the service stored itself. -/
def IsOwn (s : Store) (conv : String) : Prop :=
  ∀ doc ∈ s.sessionsOf conv, ∃ c : Context, ∃ n : Int, ∃ writtenAt expiresAt,
    1 ≤ n ∧ doc = c.document n writtenAt expiresAt

/-- The context that a turn leaves is the one that is stored with an answer that waits. -/
theorem Makes.stores (makes : Makes i m w d o c u) (quiet : w.IsQuiet)
    (sound : w.store.IsSound m.conversationId) (own : IsOwn w.store m.conversationId)
    {saved : Bool} {kept : Context} (saves : Keeping.save i.sessionHours c u = ((.ok saved, kept), v)) :
    c.conversationId = m.conversationId ∧ ∃ n e, 1 ≤ n ∧
      Keeping.expiry? u.now i.sessionHours = .ok e ∧
      v.store.sessionsOf m.conversationId = [c.document n u.now e] := by
  have quiet' : u.IsQuiet := makes.spends.isQuiet quiet
  cases saved with
  | false =>
    obtain ⟨-, struck⟩ := Keeping.store_of_unsaved quiet'.isAlone saves
    exact absurd quiet'.letsWrite struck
  | true =>
    obtain ⟨e, timely, written⟩ := Keeping.written_of_save quiet'.isAlone saves
    obtain ⟨mine, stored⟩ := makes.stored quiet.isAlone sound.keyed written
    refine ⟨mine, ?_⟩
    cases stored with
    | first fresh one => exact ⟨1, e, Int.le_refl 1, timely, one⟩
    | further c₀ doc reads run was found one =>
      obtain ⟨c₁, n, s, t, positive, rfl⟩ := own doc
        (sound.keyed.sessionsOf_eq was ▸ List.mem_singleton_self doc)
      have same := reads.eq_kept was
      subst same
      -- But for the number under which it was loaded, the context continues the one that was stored.
      have run' : ({ c with sequence := c₁.sequence } : Context).Continues c₁ := by
        rw [run]
        rfl
      have next := Context.advanced_document run' n s t u.now e
      exact ⟨n + 1, e, Int.le_add_one positive, timely, one.trans (congrArg (fun doc => [doc]) next)⟩

/-! ## Services -/

/-- A message, the world that it met, and how it was answered. -/
structure Answered where
  message : Inbound
  world : World
  outcome : Outcome

/-- The last answer of every conversation, if there was one. -/
abbrev Answers := String → Option Answered

/-- The answers with a later one. -/
def Answers.note (last : Answers) (a : Answered) : Answers := fun conv =>
  if conv = a.message.conversationId then some a else last conv

/-- The worlds of a service that began without sessions and answers messages one after another. -/
inductive Serves (i : Interpreter) : World → Answers → Prop
  | begins (w : World) (quiet : w.IsQuiet) (empty : w.store.sessions = []) : Serves i w fun _ => none
  /-- Something happens elsewhere; sessions may expire. -/
  | passes (w v : World) (last : Answers) (before : Serves i w last) (quiet : v.IsQuiet)
    (sessions : v.store.sessions.Sublist w.store.sessions) : Serves i v last
  | answers (w : World) (last : Answers) (m : Inbound) (before : Serves i w last) :
    Serves i (i.process m w).2 (last.note ⟨m, w, (i.process m w).1⟩)

/-- The document is what the last answer of its conversation left: the context of a turn that waits. -/
inductive IsLeft (i : Interpreter) (last : Answers) (doc : Entries) : Prop
  | intro (a : Answered) (d : Definition) (c : Context) (u : World) (n : Int) (s t : Moment)
    (answer : last c.conversationId = some a) (mine : c.conversationId = a.message.conversationId)
    (makes : Makes i a.message a.world d a.outcome c u)
    (waits : a.outcome.waitingForInput = true) (positive : 1 ≤ n) (document : doc = c.document n s t)

/-- The invariant of a service. -/
structure IsServed (i : Interpreter) (w : World) (last : Answers) : Prop where
  quiet : w.IsQuiet
  keyed : ∀ conv, w.store.IsKeyed conv
  left : ∀ doc ∈ w.store.sessions, IsLeft i last doc

variable {last : Answers}

theorem IsServed.isOwn (served : IsServed i w last) (conv : String) : IsOwn w.store conv := by
  intro doc here
  obtain ⟨a, d, c, u, n, s, t, -, -, -, -, positive, document⟩ :=
    served.left doc (List.mem_filter.mp here).1
  exact ⟨c, n, s, t, positive, document⟩

theorem IsServed.isOwn_of_session? (served : IsServed i w last) {conv : String} {doc : Entries}
    (found : w.store.session? conv = some doc) :
    ∃ c : Context, ∃ n : Int, ∃ s t, 1 ≤ n ∧ doc = c.document n s t := by
  have one := (served.keyed conv).sessionsOf_eq found
  exact served.isOwn conv doc (one ▸ List.mem_singleton_self doc)

theorem IsServed.isSound (served : IsServed i w last) (conv : String) : w.store.IsSound conv where
  keyed := served.keyed conv
  named doc found := by
    obtain ⟨c, n, s, t, -, rfl⟩ := served.isOwn_of_session? found
    exact ⟨_, c.withIdText?_document n s t⟩

/-- In a service every answer settles its conversation. -/
theorem IsServed.settles (served : IsServed i w last) (m : Inbound) :
    Settles m.conversationId (i.process m w) := by
  refine settles_of_counted i m served.quiet (served.isSound m.conversationId) fun doc found => ?_
  obtain ⟨c, n, s, t, positive, rfl⟩ := served.isOwn_of_session? found
  exact ⟨n, positive, c.document_sequence n s t⟩

/-- The test for sessions of other conversations. -/
def isOther (conv : String) (doc : Entries) : Bool := !doc.holdsAll (Store.sessionOf conv)

/-- The document of a context that does not hold the conversation is one of another conversation. -/
theorem conversationId_ne_of_other {conv : String} {n : Int} {s t : Moment}
    (other : (c.document n s t).holdsAll (Store.sessionOf conv) = false) : c.conversationId ≠ conv := by
  rintro rfl
  rw [c.holdsAll_sessionOf_document] at other
  cases other

theorem shows_isOther (conv : String) : Store.Shows conv (isOther conv) := by
  intro doc mine
  rw [isOther, mine]
  rfl

/-- Where no fault waits nobody else writes. -/
theorem minds_of_quiet (quiet : w.IsQuiet) (conv : String) : w.Minds conv := by
  intro f here
  rw [quiet] at here
  cases here

/-- An answer leaves the sessions of other conversations alone. -/
theorem others_process (i : Interpreter) (m : Inbound) (quiet : w.IsQuiet) :
    (i.process m w).2.store.sessions.filter (isOther m.conversationId)
      = w.store.sessions.filter (isOther m.conversationId) :=
  (overlooks_process (shows_isOther _) i w (minds_of_quiet quiet _)).2.concealed

theorem sessionsOf_process_of_ne (quiet : w.IsQuiet) {conv : String} (other : conv ≠ m.conversationId) :
    (i.process m w).2.store.sessionsOf conv = w.store.sessionsOf conv := by
  have own (s : Store) : s.sessionsOf conv
      = (s.sessions.filter (isOther m.conversationId)).filter (·.holdsAll (Store.sessionOf conv)) := by
    rw [Store.filter_filter_sessionOf, List.filter_eq_self.mpr]
    intro doc here
    have belongs := Store.holdsAll_sessionOf.mp (List.mem_filter.mp here).2
    rw [isOther, Bool.not_eq_true', Bool.eq_false_iff]
    intro holds
    rw [Store.holdsAll_sessionOf, belongs] at holds
    exact other (Value.text.inj (Option.some.inj holds))
  rw [own, own, others_process i m quiet]

/-- Where a session comes from that an answer leaves. -/
inductive Remains (i : Interpreter) (m : Inbound) (w : World) (doc : Entries) : Prop
  /-- It is of another conversation, and was there before. -/
  | old (was : doc ∈ w.store.sessions) (other : doc.holdsAll (Store.sessionOf m.conversationId) = false)
  /-- The answer waits, and the context that its turn left was saved. -/
  | new (d : Definition) (c : Context) (u : World) (n : Int) (e : Moment)
    (makes : Makes i m w d (i.process m w).1 c u) (waits : (i.process m w).1.waitingForInput = true)
    (mine : c.conversationId = m.conversationId) (positive : 1 ≤ n)
    (timely : Keeping.expiry? u.now i.sessionHours = .ok e) (document : doc = c.document n u.now e)

theorem IsServed.remains (served : IsServed i w last) (m : Inbound) {doc : Entries}
    (here : doc ∈ (i.process m w).2.store.sessions) : Remains i m w doc := by
  cases mine : doc.holdsAll (Store.sessionOf m.conversationId) with
  | false =>
    have other : doc ∈ w.store.sessions.filter (isOther m.conversationId) := by
      rw [← others_process i m served.quiet]
      exact List.mem_filter.mpr ⟨here, by rw [isOther, mine]; rfl⟩
    exact .old (List.mem_filter.mp other).1 mine
  | true =>
    have left : doc ∈ (i.process m w).2.store.sessionsOf m.conversationId :=
      List.mem_filter.mpr ⟨here, mine⟩
    have count := (served.settles m).sessions
    cases waits : (i.process m w).1.waitingForInput with
    | false =>
      rw [waits] at count
      rw [List.eq_nil_of_length_eq_zero count] at left
      cases left
    | true =>
      obtain ⟨d, c, u, saved, kept, makes, saves⟩ := makes_of_waits waits
      obtain ⟨belongs, n, e, positive, timely, stored⟩ :=
        makes.stores served.quiet (served.isSound _) (served.isOwn _) saves
      rw [stored, List.mem_singleton] at left
      exact .new d c u n e makes waits belongs positive timely left

/-- A session that an answer leaves is what the last answer of its conversation left. -/
theorem IsServed.left_process (served : IsServed i w last) (m : Inbound) {doc : Entries}
    (here : doc ∈ (i.process m w).2.store.sessions) :
    IsLeft i (last.note ⟨m, w, (i.process m w).1⟩) doc := by
  cases served.remains m here with
  | old was other =>
    obtain ⟨a, d, c, u, n, s, t, answer, belongs, makes, waits, positive, rfl⟩ := served.left doc was
    refine ⟨a, d, c, u, n, s, t, ?_, belongs, makes, waits, positive, rfl⟩
    rw [Answers.note, if_neg (conversationId_ne_of_other other), answer]
  | new d c u n e makes waits mine positive timely document =>
    refine ⟨⟨m, w, (i.process m w).1⟩, d, c, u, n, u.now, e, ?_, mine, makes, waits, positive, document⟩
    rw [Answers.note, if_pos mine]

/-- An answer preserves the invariant of a service. -/
theorem IsServed.process (served : IsServed i w last) (m : Inbound) :
    IsServed i (i.process m w).2 (last.note ⟨m, w, (i.process m w).1⟩) where
  quiet := (spends_process i m w).isQuiet served.quiet
  keyed conv := by
    by_cases mine : conv = m.conversationId
    · subst mine
      rw [Store.IsKeyed, (served.settles m).sessions]
      cases (i.process m w).1.waitingForInput <;> decide
    · rw [Store.IsKeyed, sessionsOf_process_of_ne served.quiet mine]
      exact served.keyed conv
  left _ here := served.left_process m here

/-- The invariant holds in every world of a service. -/
theorem Serves.isServed (serves : Serves i w last) : IsServed i w last := by
  induction serves with
  | begins w quiet empty =>
    refine ⟨quiet, fun conv => ?_, fun doc here => ?_⟩
    · refine Store.isKeyed_of_nil ?_
      rw [Store.sessionsOf, empty, List.filter_nil]
    · rw [empty] at here
      cases here
  | passes w v last _ quiet sessions ih =>
    refine ⟨quiet, fun conv => ?_, fun doc here => ih.left doc (sessions.mem here)⟩
    have fewer := (sessions.filter (·.holdsAll (Store.sessionOf conv))).length_le
    exact Nat.le_trans fewer (ih.keyed conv)
  | answers w last m _ ih => exact ih.process m

/-! ## Outcome and store -/

/-- Outcome and store agree on the conversation. -/
structure Agree (conv : String) (o : Outcome) (s : Store) : Prop where
  definite : o.IsDefinite
  /-- Nobody else is said to have changed the conversation. -/
  answered : ∀ t, o ≠ concurrent t
  stored : (s.session? conv).isSome = true ↔ o.waitingForInput = true

/-- In a service every message is answered with an outcome that agrees with what is stored of its
conversation afterwards. -/
theorem process_agrees (serves : Serves i w last) (m : Inbound) :
    Agree m.conversationId (i.process m w).1 (i.process m w).2.store where
  definite := process_isDefinite i m w
  answered := (serves.isServed.settles m).answers
  stored := by
    have count := (serves.isServed.settles m).sessions
    rw [Store.session?_eq_head?]
    cases waits : (i.process m w).1.waitingForInput with
    | false =>
      rw [waits] at count
      rw [List.eq_nil_of_length_eq_zero count]
      simp
    | true =>
      rw [waits] at count
      obtain ⟨doc, one⟩ := List.length_eq_one_iff.mp count
      rw [one]
      simp

end Interpreter

namespace Sample

open Interpreter

/-- The small bot has asked for the name, and time passes. -/
theorem serves_asked : Serves (interpreter 24) asked
    (Answers.note (fun _ => none)
      ⟨message "hello", world [], ((interpreter 24).process (message "hello") (world [])).1⟩) :=
  .answers _ _ (message "hello") (.begins (world []) rfl rfl)

/-- The answer of the small bot to the name leaves no session, and ends the flow. -/
theorem process_agrees_name :
    ((interpreter 24).process (message "Ann") asked).1.completed = true ∧
      Agree "chat" ((interpreter 24).process (message "Ann") asked).1
        ((interpreter 24).process (message "Ann") asked).2.store :=
  ⟨by decide +kernel, process_agrees serves_asked (message "Ann")⟩

end Sample

end ChatFlow
