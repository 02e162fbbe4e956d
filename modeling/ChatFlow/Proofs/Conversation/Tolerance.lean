import ChatFlow.Proofs.Interpreter.Answering
import ChatFlow.Proofs.Conversation.Rereading

/-!
Loading from any document.

Nothing is known about a stored session but that it belongs to its conversation: any entry may be absent
or hold any value. Loading is to give the context if the session is usable, and to remove the session if
it is not (`Keeping.Answers`). It does so for every document with two exceptions
(`Keeping.load_answers_iff`). The readers of points in time accept moments of both sorts, but the clock is
of one sort: the expiry of an active session that is of the other sort cannot be compared with it, and
loading fails and leaves the session where it is (`Keeping.IsUnplaced`). That is so for every expiry given
as a number, as all numbers are read as anchored moments (`Keeping.isUnplaced_of_number`). And a document
without a record id that has a text is not read at all; the store gives every document a record id.
-/

namespace ChatFlow

/-! ## Points in time -/

namespace Moment

/-- Two moments have no order exactly if one of them is anchored and the other is not. -/
theorem compare?_eq_none_iff {a b : Moment} :
    a.compare? b = none ↔ a.offset.isSome ≠ b.offset.isSome := by
  unfold compare?
  by_cases same : a.offset.isSome = b.offset.isSome
  · rw [if_pos (beq_iff_eq.mpr same)]
    simp [same]
  · rw [if_neg (by simpa using same)]
    simp [same]

variable {m : Moment}

theorem offset_of_ofSeconds? {seconds : Int} {micros : Nat} (h : ofSeconds? seconds micros = some m) :
    m.offset = some 0 := by
  unfold ofSeconds? at h
  dsimp only at h
  split at h
  · cases h
  · cases h
    rfl

theorem offset_of_ofCount? {n : Int} {micros : Nat} (h : ofCount? n micros = some m) :
    m.offset = some 0 := by
  unfold ofCount? at h
  split at h <;> exact offset_of_ofSeconds? h

theorem offset_of_ofFloat? {x : Float} (h : ofFloat? x = some m) : m.offset = some 0 := by
  unfold ofFloat? at h
  split at h
  · split at h
    · exact offset_of_ofCount? h
    · cases h
  · cases h

end Moment

namespace Schema

theorem momentOr_eq_valid {cause : Cause} {m? : Option Moment} {m : Moment}
    (h : momentOr cause m? = .valid m) : m? = some m := by
  cases m? with
  | none => cases h
  | some _ =>
    cases h
    rfl

/-- A number is read as an anchored moment, if it is read as one at all. -/
theorem offset_of_moment_number {q : Quantity} {m : Moment} (h : moment q.toValue = .valid m) :
    m.offset = some 0 := by
  cases q with
  | whole n =>
    dsimp only [Quantity.toValue, moment] at h
    split at h
    · cases h
    · exact Moment.offset_of_ofCount? (momentOr_eq_valid h)
  | real x => exact Moment.offset_of_ofFloat? (momentOr_eq_valid h)

end Schema

namespace Keeping

variable {w : World} {conv : String} {doc : Entries} {now : Moment}

/-! ## Expiries without a place -/

/-- The document is read as an active session, and its expiry has no place in the order of the clock. -/
def IsUnplaced (now : Moment) (doc : Entries) : Prop :=
  ∃ es session history, doc.withIdText? = .ok es ∧ readSession? now es = .ok (session, history) ∧
    session.status = Session.active ∧ session.expiresAt.compare? now = none

/-- Only a session without a place makes the test for its use fail. -/
theorem isResumable?_eq_error_iff {session : Session} {f : Failure} :
    isResumable? now session = .error f ↔
      f = .unordered ∧ session.status = Session.active ∧ session.expiresAt.compare? now = none := by
  unfold isResumable?
  by_cases active : session.status = Session.active
  · have same : (session.status != Session.active) = false := by simp [active]
    rw [same, if_neg Bool.false_ne_true]
    rcases session.expiresAt.compare? now with _ | order
    · simp [active, eq_comm]
    · cases order <;> simp
  · have differs : (session.status != Session.active) = true := by simp [active]
    rw [if_pos differs]
    simp [active]

/-- The service's clock is unanchored, so that no active session whose expiry is a number has a place. -/
theorem isUnplaced_of_number {es : Entries} {session : Session} {history : List Message} {q : Quantity}
    (clock : now.offset = none) (text : doc.withIdText? = .ok es)
    (read : readSession? now es = .ok (session, history)) (active : session.status = Session.active)
    (number : doc.lookup "expires_at" = some q.toValue) : IsUnplaced now doc := by
  have expiry := (Session.read_eq_valid_iff.mp (read_of_readSession? read)).expiresAt
  have shown : es.lookup "expires_at" = doc.lookup "expires_at" :=
    Entries.lookup_of_withIdText? text (by decide) (by decide)
  have moment : Schema.moment q.toValue = .valid session.expiresAt := by
    unfold Schema.required Schema.field at expiry
    rw [shown, number] at expiry
    dsimp only at expiry
    cases known : Schema.moment q.toValue with
    | valid m =>
      rw [known] at expiry
      exact expiry
    | invalid issues =>
      rw [known] at expiry
      cases expiry
  refine ⟨es, session, history, text, read, active, Moment.compare?_eq_none_iff.mpr ?_⟩
  rw [Schema.offset_of_moment_number moment, clock]
  nofun

/-! ## Answers -/

/-- Loading answers: with the context of a usable session, which stays, or with nothing, and then the
conversation has no session that could be used and what it had is removed. -/
inductive Answers (conv : String) (w : World) : Except Failure (Option Context) × World → Prop
  | context (c : Context) (v : World) (reads : IsReadAs w.store conv w.now c)
    (stays : v.store = w.store) : Answers conv w (.ok (some c), v)
  | nothing (v : World) (unusable : ∀ c, ¬ IsReadAs w.store conv w.now c)
    (removed : v.store = w.store.cleared conv) : Answers conv w (.ok none, v)

/-- No context is read where loading sees none. -/
theorem not_isReadAs_of_seen {s : Store} (none : seen s conv now = .ok none) (c : Context) :
    ¬ IsReadAs s conv now c := by
  intro reads
  rw [reads.seen_eq] at none
  cases none

/-- Where loading gives no context, there is none to be read. -/
theorem not_isReadAs_of_load {v : World} (quiet : w.IsQuiet)
    (loads : (load conv).run w = (.ok none, v)) (c : Context) : ¬ IsReadAs w.store conv w.now c := by
  refine not_isReadAs_of_seen ?_ c
  rw [← load_run_fst quiet, loads]

theorem answers_of_absent (quiet : w.IsQuiet) (absent : w.store.session? conv = none) :
    Answers conv w ((load conv).run w) := by
  have loads := load_run_of_none quiet absent
  rw [loads]
  exact .nothing _ (not_isReadAs_of_load quiet loads) (Store.cleared_eq_self_iff.mpr absent).symm

section Stored

variable (quiet : w.IsQuiet) (stored : w.store.session? conv = some doc)

include quiet stored

/-- A document without a record id that has a text is not read, and left. -/
theorem load_of_unnamed (unnamed : ∀ es, doc.withIdText? ≠ .ok es) :
    ((load conv).run w).1 = .ok none ∧ ((load conv).run w).2.store = w.store := by
  rw [load_run quiet, stored]
  dsimp only
  cases text : doc.withIdText? with
  | ok es => exact absurd text (unnamed es)
  | error f => exact ⟨rfl, rfl⟩

/-- A session whose expiry has no place makes loading fail, and is left. -/
theorem load_of_isUnplaced (unplaced : IsUnplaced w.now doc) :
    (load conv).run w = (.error .unordered, w.joined) := by
  obtain ⟨es, session, history, text, read, active, apart⟩ := unplaced
  have fails := isResumable?_eq_error_iff.mpr ⟨rfl, active, apart⟩
  rw [load_run quiet, stored]
  dsimp only
  rw [text]
  dsimp only
  rw [read]
  dsimp only
  rw [fails]

/-- Every other session is answered. -/
theorem answers_of_placed {es : Entries} (text : doc.withIdText? = .ok es)
    (placed : ¬ IsUnplaced w.now doc) : Answers conv w ((load conv).run w) := by
  have loads : (load conv).run w = _ := load_run quiet
  rw [stored] at loads
  dsimp only at loads
  rw [text] at loads
  dsimp only at loads
  cases read : readSession? w.now es with
  | error f =>
    rw [read] at loads
    rw [loads]
    exact .nothing _ (not_isReadAs_of_load quiet loads) rfl
  | ok pair =>
    obtain ⟨session, history⟩ := pair
    rw [read] at loads
    dsimp only at loads
    cases resumable : isResumable? w.now session with
    | error f =>
      obtain ⟨-, unplaced⟩ := isResumable?_eq_error_iff.mp resumable
      exact absurd ⟨es, session, history, text, read, unplaced⟩ placed
    | ok usable =>
      rw [resumable] at loads
      rw [loads]
      cases usable with
      | false => exact .nothing _ (not_isReadAs_of_load quiet loads) rfl
      | true => exact .context _ _ ⟨doc, es, session, history, stored, text, read, resumable, rfl⟩ rfl

end Stored

/-- A document is answered exactly if its record id has a text and its expiry has a place. In the first
case of the other two nothing is loaded, in the second loading fails; both times the session is left. -/
theorem load_answers_iff (quiet : w.IsQuiet) (conv : String) :
    (Answers conv w ((load conv).run w) ↔ ∀ doc, w.store.session? conv = some doc →
      (∃ es, doc.withIdText? = .ok es) ∧ ¬ IsUnplaced w.now doc) ∧
    ∀ doc, w.store.session? conv = some doc →
      ((∀ es, doc.withIdText? ≠ .ok es) →
        ((load conv).run w).1 = .ok none ∧ ((load conv).run w).2.store = w.store) ∧
      (IsUnplaced w.now doc → (load conv).run w = (.error .unordered, w.joined)) := by
  refine ⟨⟨fun answers doc stored => ⟨?_, fun unplaced => ?_⟩, fun fit => ?_⟩,
    fun doc stored => ⟨load_of_unnamed quiet stored, load_of_isUnplaced quiet stored⟩⟩
  · by_cases named : ∃ es, doc.withIdText? = .ok es
    · exact named
    · obtain ⟨result, stays⟩ := load_of_unnamed quiet stored fun es text => named ⟨es, text⟩
      generalize (load conv).run w = r at answers result stays
      cases answers with
      | context c v reads _ => cases result
      | nothing v unusable removed =>
        have none := Store.cleared_eq_self_iff.mp (removed.symm.trans stays)
        rw [stored] at none
        cases none
  · rw [load_of_isUnplaced quiet stored unplaced] at answers
    cases answers
  · cases stored : w.store.session? conv with
    | none => exact answers_of_absent quiet stored
    | some doc =>
      obtain ⟨⟨es, text⟩, placed⟩ := fit doc stored
      exact answers_of_placed quiet stored text placed

end Keeping

namespace Sample

/-- The session of the small bot with an expiry in universal time that passed a month ago. -/
def overdue : Entries :=
  Entries.insert "expires_at" (.text "2024-02-01T12:00:00+00:00") session

theorem load_overdue :
    (Keeping.load "chat").run (world [overdue]) = (.error .unordered, world [overdue]) := by
  with_unfolding_all rfl

/-- The same session as the service stored it is loaded. -/
theorem load_answers_session :
    Keeping.Answers "chat" (world [session]) ((Keeping.load "chat").run (world [session])) := by
  refine (Keeping.load_answers_iff (w := world [session]) rfl "chat").1.mpr fun doc stored => ?_
  have same : some session = some doc := stored
  cases same
  refine ⟨⟨_, rfl⟩, ?_⟩
  rintro ⟨es, session, history, text, read, -, unplaced⟩
  cases text
  cases read
  revert unplaced
  decide +kernel

/-- An expired session is neither loaded nor removed. -/
theorem overdue_not_answered :
    ¬ ∀ (conv : String) (w : World), w.IsQuiet → w.store.IsKeyed conv →
      (∃ c v, (Keeping.load conv).run w = (.ok (some c), v)) ∨
        ∃ v, (Keeping.load conv).run w = (.ok none, v) ∧ v.store.session? conv = none := by
  intro answers
  rcases answers "chat" (world [overdue]) rfl (Nat.le_refl 1) with ⟨c, v, loaded⟩ | ⟨v, loaded, -⟩
  · rw [load_overdue] at loaded
    cases loaded
  · rw [load_overdue] at loaded
    cases loaded

end Sample

end ChatFlow
