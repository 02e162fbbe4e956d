import ChatFlow.Proofs.Contention.RoundTrip

/-!
One save wins.

Several contexts may have been made from one state of a conversation: loaded from the same session, or
fresh while there was none. They are saved one after another, in any order, and the clock may move in
between. The first save takes the sequence number that all of them expect (`IsCurrent.number`), so each
of the others is refused (`save_of_moved`), and the store stays as the first has left it
(`first_save_wins`). That holds on both ways to write a session, the insertion and the conditional
update.
-/

namespace ChatFlow

namespace Contention

open Keeping (expiry? load save)

/-- An attempt to save a context, with what is outside at the time. -/
abbrev Attempt := Outside × Context

/-- The results of saving one after another, and the world after all of it. -/
def saves (hours : Int) : List Attempt → World → List (Except Failure Bool × Context) × World
  | [], w => ([], w)
  | (outside, c) :: rest, w =>
    let (result, v) := save hours c (w.withOutside outside)
    let (results, u) := saves hours rest v
    (result :: results, u)

/-- The result of an attempt that comes too late: a conflict over the number that it expected. -/
def Attempt.refused : Attempt → Except Failure Bool × Context
  | (outside, c) =>
    (.error (.conflict c.conversationId c.sequence), { c with lastActivityAt := outside.now })

section Saves

variable {hours : Int} {conv : String} {w : World} {c : Context} {e : Moment}

/-- A current context expects what is stored: no session, or one with its sequence number. -/
theorem IsCurrent.number (h : IsCurrent hours w c) :
    (w.store.sessionsOf c.conversationId = [] ∧ c.sequence = 0) ∨
      ∃ doc, w.store.sessionsOf c.conversationId = [doc] ∧
        doc.lookup "sequence" = some (.int c.sequence) := by
  cases h with
  | fresh never absent => exact .inl ⟨Store.session?_eq_none_iff.mp absent, never⟩
  | loaded v u c₀ quiet saved loads run unwritten =>
    obtain ⟨d, n, writtenAt, expiresAt, -, -, one⟩ := saved.isRecorded
    obtain ⟨number, -⟩ := continues_of_load quiet one loads run
    refine .inr ⟨_, unwritten.trans one, ?_⟩
    rw [number]
    exact d.document_sequence n writtenAt expiresAt

/-- Current contexts of one conversation expect the same sequence number. -/
theorem IsCurrent.sequence_eq {c' : Context} (h : IsCurrent hours w c) (h' : IsCurrent hours w c')
    (same : c'.conversationId = c.conversationId) : c'.sequence = c.sequence := by
  rcases h.number with ⟨none, never⟩ | ⟨doc, one, found⟩ <;>
    rcases h'.number with ⟨none', never'⟩ | ⟨doc', one', found'⟩ <;> rw [same] at *
  · rw [never, never']
  · rw [none] at one'
    cases one'
  · rw [one] at none'
    cases none'
  · rw [one, List.singleton_inj] at one'
    rw [one', found', Option.some.injEq, Value.int.injEq] at found
    exact found

/-- What is outside has no part in whether a context is current. -/
theorem IsCurrent.withOutside (h : IsCurrent hours w c) (outside : Outside) :
    IsCurrent hours (w.withOutside outside) c := by
  cases h with
  | fresh never absent => exact .fresh never absent
  | loaded v u c₀ quiet saved loads run unwritten =>
    exact .loaded v u c₀ quiet saved loads run unwritten

/-- A save is refused if the session has another number than its context expects, and it writes
nothing. -/
theorem save_of_moved (quiet : w.IsQuiet) (timely : expiry? w.now hours = .ok e) {doc : Entries} {n : Int}
    (one : w.store.sessionsOf c.conversationId = [doc])
    (found : doc.lookup "sequence" = some (.int n)) (moved : n ≠ c.sequence) :
    save hours c w = (Attempt.refused (w.outside, c), w.joined) := by
  by_cases fresh : c.sequence = 0
  · rw [Keeping.save_fresh quiet.letsWrite timely fresh, Store.session?_of_sessionsOf one, Attempt.refused,
      fresh]
    rfl
  · rw [Keeping.save_stored quiet.letsWrite timely fresh,
      Store.find?_sessionAt_of_sequence c.sequence one found, if_neg moved]
    rfl

/-- If all expect another number than the session has, all are refused, and the store is left alone. -/
theorem saves_of_moved (attempts : List Attempt) (quiet : w.IsQuiet)
    (timely : ∀ a ∈ attempts, ∃ e, expiry? a.1.now hours = .ok e) {doc : Entries} {n : Int}
    (one : w.store.sessionsOf conv = [doc]) (found : doc.lookup "sequence" = some (.int n))
    (moved : ∀ a ∈ attempts, a.2.conversationId = conv ∧ n ≠ a.2.sequence) :
    (saves hours attempts w).1 = attempts.map Attempt.refused ∧
      (saves hours attempts w).2.store = w.store := by
  induction attempts generalizing w with
  | nil => exact ⟨rfl, rfl⟩
  | cons a rest ih =>
    obtain ⟨outside, c⟩ := a
    obtain ⟨e, expires⟩ := timely (outside, c) List.mem_cons_self
    obtain ⟨mine, late⟩ := moved (outside, c) List.mem_cons_self
    have refuses : save hours c (w.withOutside outside)
        = (Attempt.refused (outside, c), (w.withOutside outside).joined) :=
      save_of_moved (w := w.withOutside outside) quiet expires (by rw [mine]; exact one) found late
    obtain ⟨results, left⟩ := ih (w := (w.withOutside outside).joined) quiet
      (fun b later => timely b (List.mem_cons_of_mem _ later)) one
      (fun b later => moved b (List.mem_cons_of_mem _ later))
    rw [saves, refuses]
    exact ⟨congrArg (_ :: ·) results, left⟩

/-- Of any number of contexts that are current in one conversation, saved in any order, the first is
stored with the next sequence number. Each of the others is refused with a conflict over the number that
it expected, and the store stays as the first has left it. -/
theorem first_save_wins (hours : Int) (conv : String) (w : World) (first : Attempt)
    (others : List Attempt) (quiet : w.IsQuiet)
    (timely : ∀ a ∈ first :: others, ∃ e, expiry? a.1.now hours = .ok e)
    (rivals : ∀ a ∈ first :: others, a.2.conversationId = conv ∧ IsCurrent hours w a.2) :
    ∃ v e, expiry? first.1.now hours = .ok e ∧
      save hours first.2 (w.withOutside first.1)
        = ((.ok true, first.2.kept (first.2.sequence + 1) first.1.now), v) ∧
      v.store.sessionsOf conv = [first.2.document (first.2.sequence + 1) first.1.now e] ∧
      (saves hours others v).1 = others.map Attempt.refused ∧
      (saves hours others v).2.store = v.store := by
  obtain ⟨e, expires⟩ := timely first List.mem_cons_self
  obtain ⟨mine, current⟩ := rivals first List.mem_cons_self
  obtain ⟨v, wins, quiet', -, one⟩ :=
    save_of_current (w := w.withOutside first.1) quiet expires (current.withOutside first.1)
  rw [mine] at one
  have lose := saves_of_moved others quiet'
    (fun a later => timely a (List.mem_cons_of_mem _ later)) one
    (first.2.document_sequence (first.2.sequence + 1) first.1.now e) fun a later => by
      obtain ⟨theirs, current'⟩ := rivals a (List.mem_cons_of_mem _ later)
      have same := current.sequence_eq current' (theirs.trans mine.symm)
      exact ⟨theirs, by omega⟩
  exact ⟨v, e, expires, wins, one, lose⟩

end Saves

end Contention

namespace Sample

open Contention

/-- Two contexts were loaded from the session. The answer is saved into it, and the other context is
refused. -/
theorem first_save_wins_answered :
    ∃ v, Keeping.save 24 answered (world [session]) = ((.ok true, answered.kept 2 noon), v) ∧
      v.store.sessionsOf "chat" = [answered.document 2 noon nextNoon] ∧
      (saves 24 [((world []).outside, context)] v).1 = [(.error (.conflict "chat" 1), context)] ∧
      (saves 24 [((world []).outside, context)] v).2.store = v.store := by
  have timely : ∀ a ∈ [((world []).outside, answered), ((world []).outside, context)],
      ∃ e, Keeping.expiry? a.1.now 24 = .ok e := by
    intro a here
    simp only [List.mem_cons, List.not_mem_nil, or_false] at here
    rcases here with rfl | rfl <;> exact ⟨nextNoon, expiry_noon⟩
  have rivals : ∀ a ∈ [((world []).outside, answered), ((world []).outside, context)],
      a.2.conversationId = "chat" ∧ IsCurrent 24 (world [session]) a.2 := by
    intro a here
    simp only [List.mem_cons, List.not_mem_nil, or_false] at here
    rcases here with rfl | rfl
    · exact ⟨rfl, isCurrent_answered⟩
    · exact ⟨rfl, isCurrent_context⟩
  obtain ⟨v, e, expires, wins, stored, refused, left⟩ := first_save_wins 24 "chat" (world [session])
    ((world []).outside, answered) [((world []).outside, context)] rfl timely rivals
  have same : e = nextNoon := Except.ok.inj (expires.symm.trans expiry_noon)
  subst same
  exact ⟨v, wins, stored, refused, left⟩

/-- With sessions that are kept for longer than the calendar goes, not even the first save succeeds. -/
theorem no_save_wins :
    ¬ ∀ (hours : Int) (conv : String) (w : World) (first : Attempt) (others : List Attempt), w.IsQuiet →
      (∀ a ∈ first :: others, a.2.conversationId = conv ∧ IsCurrent hours w a.2) →
      (Keeping.save hours first.2 (w.withOutside first.1)).1.1 = .ok true := by
  intro wins
  have won := wins 1000000000 "chat" (world []) ((world []).outside, unsaved) [] rfl fun a here => by
    rw [List.mem_singleton] at here
    subst here
    exact ⟨rfl, .fresh rfl rfl⟩
  have lost : (Keeping.save 1000000000 unsaved (world [])).1.1.toOption = none := by decide +kernel
  rw [show (Keeping.save 1000000000 unsaved (world [])).1.1 = .ok true from won] at lost
  cases lost

end Sample

end ChatFlow
