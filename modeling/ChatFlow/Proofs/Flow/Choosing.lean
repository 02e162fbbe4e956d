import ChatFlow.Proofs.Flow.Consulting
import ChatFlow.Proofs.Interpreter.Answering
import ChatFlow.Proofs.Store.Flows

/-!
The flow that answers an event.

The specification looks at sets and not at the order of the store. The flows in service of a bot are held
against the event; each that matches has the rank of its first trigger that does (`Record.Ranks`); and the
highest rank wins, of equal ranks the smallest id (`Store.Wins`). If nothing matches, the same goes for the
fallback event (`Store.Chooses`). At most one id is chosen (`Store.Chooses.unique`).

The dispatch goes through lists: through the triggers of a flow (`Dispatch.firstMatch?`), through the flows
(`Dispatch.candidates?`) and through the candidates (`Candidate.best?`). One lemma for each says what it
finds, and together they say that the chosen id is found (`Store.chosen?_spec`). So the definition that is
loaded does not depend on the order of the flows (`Dispatch.find_chooses`). Whether it depends on the
flows that are not in service is a question of ids: the chosen flow is loaded by the text of its id, and
another flow may be the one that is found by it (`Sample.draft_answers`).
-/

namespace ChatFlow

open ChatFlow.Flow (Record Definition Trigger Event Candidate)

namespace Flow

/-! ## Triggers -/

variable {t : Trigger} {e : Event} {r : Record} {k : Int} {ts : List Trigger}

/-- The trigger was held against the event, with this result. -/
def Trigger.Judges (t : Trigger) (e : Event) (matched : Bool) : Prop :=
  ∃ m, t.match? e = .ok m ∧ m.toBool = matched

/-- The first trigger of the flow that matches has this priority; a missing one counts as 0. -/
def Record.Ranks (r : Record) (e : Event) (k : Int) : Prop :=
  ∃ before t after, r.triggers = before ++ t :: after ∧ (∀ u ∈ before, u.Judges e false) ∧
    t.Judges e true ∧ t.priority.getD 0 = k

/-- No trigger of the flow matches. -/
def Record.Passes (r : Record) (e : Event) : Prop := ∀ t ∈ r.triggers, t.Judges e false

/-- No trigger of the flow that is held against the event fails. -/
def Record.IsJudged (r : Record) (e : Event) : Prop := (∃ k, r.Ranks e k) ∨ r.Passes e

end Flow

namespace Dispatch

open ChatFlow.Flow

variable {t : Trigger} {e : Event} {r : Record} {k : Int} {ts : List Trigger}

/-- What comes of going through the triggers of a flow, trigger by trigger. -/
theorem firstMatch?_cons : firstMatch? e (t :: ts) = match t.match? e with
    | .error f => .error f
    | .ok m => if m.toBool then .ok (some t) else firstMatch? e ts := by
  rw [firstMatch?]
  cases t.match? e <;> rfl

theorem firstMatch?_of_judges_true (h : t.Judges e true) : firstMatch? e (t :: ts) = .ok (some t) := by
  obtain ⟨m, result, matched⟩ := h
  rw [firstMatch?_cons, result]
  dsimp only
  rw [if_pos matched]

theorem firstMatch?_of_judges_false (h : t.Judges e false) :
    firstMatch? e (t :: ts) = firstMatch? e ts := by
  obtain ⟨m, result, missed⟩ := h
  rw [firstMatch?_cons, result]
  dsimp only
  rw [if_neg (Bool.eq_false_iff.mp missed)]

/-- A trigger is found if it is the first that matches. -/
theorem firstMatch?_eq_some_iff : firstMatch? e ts = .ok (some t) ↔
    ∃ before after, ts = before ++ t :: after ∧ (∀ u ∈ before, u.Judges e false) ∧ t.Judges e true := by
  constructor
  · intro found
    induction ts with
    | nil => cases found
    | cons u rest ih =>
      rw [firstMatch?_cons] at found
      cases result : u.match? e with
      | error f =>
        rw [result] at found
        cases found
      | ok m =>
        rw [result] at found
        dsimp only at found
        cases matched : m.toBool with
        | true =>
          rw [matched, if_pos rfl] at found
          cases found
          exact ⟨[], rest, rfl, fun u here => absurd here List.not_mem_nil, m, result, matched⟩
        | false =>
          rw [matched, if_neg Bool.false_ne_true] at found
          obtain ⟨before, after, rfl, missed, hit⟩ := ih found
          refine ⟨u :: before, after, rfl, fun u' here => ?_, hit⟩
          rcases List.mem_cons.mp here with rfl | there
          · exact ⟨m, result, matched⟩
          · exact missed u' there
  · rintro ⟨before, after, rfl, missed, hit⟩
    induction before with
    | nil => exact firstMatch?_of_judges_true hit
    | cons u rest ih =>
      rw [List.cons_append, firstMatch?_of_judges_false (missed u List.mem_cons_self)]
      exact ih fun u here => missed u (List.mem_cons_of_mem _ here)

/-- Nothing is found if no trigger matches. -/
theorem firstMatch?_eq_none_iff : firstMatch? e ts = .ok none ↔ ∀ t ∈ ts, t.Judges e false := by
  induction ts with
  | nil => exact ⟨fun _ t here => absurd here List.not_mem_nil, fun _ => rfl⟩
  | cons u rest ih =>
    rw [firstMatch?_cons, List.forall_mem_cons, ← ih]
    unfold Trigger.Judges
    cases u.match? e with
    | error f => simp
    | ok m => cases matched : m.toBool <;> simp [matched]

theorem ranks_iff : r.Ranks e k ↔ ∃ t, firstMatch? e r.triggers = .ok (some t) ∧ t.rank = k := by
  simp only [firstMatch?_eq_some_iff]
  constructor
  · rintro ⟨before, t, after, triggers, missed, hit, rank⟩
    exact ⟨t, ⟨before, after, triggers, missed, hit⟩, rank⟩
  · rintro ⟨t, ⟨before, after, triggers, missed, hit⟩, rank⟩
    exact ⟨before, t, after, triggers, missed, hit, rank⟩

/-- A flow is judged if going through its triggers does not fail. -/
theorem isJudged_iff : r.IsJudged e ↔ ∃ first, firstMatch? e r.triggers = .ok first := by
  unfold Record.IsJudged Record.Passes
  simp only [ranks_iff, ← firstMatch?_eq_none_iff]
  constructor
  · rintro (⟨_, t, found, -⟩ | missed)
    · exact ⟨some t, found⟩
    · exact ⟨none, missed⟩
  · rintro ⟨_ | t, result⟩
    · exact .inr result
    · exact .inl ⟨t.rank, t, result, rfl⟩

/-- The fallback event is held against any trigger without fail. -/
theorem isJudged_lastResort (r : Record) : r.IsJudged .lastResort := by
  rw [isJudged_iff]
  induction r.triggers with
  | nil => exact ⟨none, rfl⟩
  | cons t rest ih =>
    have judged : t.match? .lastResort = .ok .no ∨ t.match? .lastResort = .ok .yes := by
      unfold Trigger.match?
      split
      · exact .inl rfl
      · exact .inr rfl
    rw [firstMatch?_cons]
    rcases judged with result | result
    · rw [result]
      exact ih
    · rw [result]
      exact ⟨some t, rfl⟩

/-! ## Candidates -/

/-- The first match decides the rank. -/
theorem ranks_iff_of_firstMatch? {first : Option Trigger} (found : firstMatch? e r.triggers = .ok first) :
    r.Ranks e k ↔ first.map Trigger.rank = some k := by
  simp [ranks_iff, found]

/-- The candidates are the flows that match, with their ranks. -/
theorem candidates?_of_isJudged {flows : List Record} (judged : ∀ r ∈ flows, r.IsJudged e) :
    ∃ cs, candidates? e flows = .ok cs ∧ ∀ c, c ∈ cs ↔ c.flow ∈ flows ∧ c.flow.Ranks e c.rank := by
  induction flows with
  | nil => exact ⟨[], rfl, by simp⟩
  | cons flow rest ih =>
    obtain ⟨first, found⟩ := isJudged_iff.mp (judged flow List.mem_cons_self)
    obtain ⟨cs, others, members⟩ := ih fun r here => judged r (List.mem_cons_of_mem _ here)
    cases first with
    | none =>
      have unranked (k : Int) : ¬ flow.Ranks e k := by simp [ranks_iff_of_firstMatch? found]
      refine ⟨cs, by rw [candidates?, found, others]; rfl, fun c => ?_⟩
      rw [members, List.mem_cons]
      constructor
      · rintro ⟨here, ranks⟩
        exact ⟨.inr here, ranks⟩
      · rintro ⟨here | there, ranks⟩
        · exact absurd (here ▸ ranks) (unranked _)
        · exact ⟨there, ranks⟩
    | some t =>
      have ranked (k : Int) : flow.Ranks e k ↔ t.rank = k := by simp [ranks_iff_of_firstMatch? found]
      refine ⟨⟨flow, t.rank⟩ :: cs, by rw [candidates?, found, others]; rfl, fun c => ?_⟩
      rw [List.mem_cons, members, List.mem_cons]
      constructor
      · rintro (rfl | ⟨there, ranks⟩)
        · exact ⟨.inl rfl, (ranked _).mpr rfl⟩
        · exact ⟨.inr there, ranks⟩
      · obtain ⟨r, k⟩ := c
        rintro ⟨rfl | there, ranks⟩
        · cases (ranked k).mp ranks
          exact .inl rfl
        · exact .inr ⟨there, ranks⟩

end Dispatch

namespace Flow.Candidate

/-- The rank of the first is higher, or it is the same and the id of the first no greater. -/
def IsAtLeast (c d : Candidate) : Prop := d.rank < c.rank ∨ d.rank = c.rank ∧ c.id ≤ d.id

variable {b c d : Candidate} {cs : List Candidate}

theorem isAtLeast_refl (c : Candidate) : c.IsAtLeast c := .inr ⟨rfl, String.le_refl _⟩

theorem IsAtLeast.trans (bc : b.IsAtLeast c) (cd : c.IsAtLeast d) : b.IsAtLeast d := by
  rcases bc with lower | ⟨same, before⟩
  · rcases cd with lower' | ⟨same', -⟩
    · exact .inl (by omega)
    · exact .inl (by omega)
  · rcases cd with lower' | ⟨same', before'⟩
    · exact .inl (by omega)
    · exact .inr ⟨by omega, String.le_trans before before'⟩

/-- Of two candidates the one that does not go before the other is outdone by it. -/
theorem isAtLeast_of_isBefore (h : c.isBefore d = true) : c.IsAtLeast d := by
  simp only [isBefore, Bool.or_eq_true, decide_eq_true_eq, Bool.and_eq_true, beq_iff_eq] at h
  rcases h with higher | ⟨same, before⟩
  · exact .inl higher
  · exact .inr ⟨same.symm, String.not_lt.mp (String.lt_asymm before)⟩

theorem isAtLeast_of_not_isBefore (h : d.isBefore c = false) : c.IsAtLeast d := by
  simp only [isBefore, Bool.or_eq_false_iff, decide_eq_false_iff_not, Bool.and_eq_false_iff,
    beq_eq_false_iff_ne] at h
  obtain ⟨notHigher, differ | after⟩ := h
  · exact .inl (by omega)
  · by_cases same : d.rank = c.rank
    · exact .inr ⟨same, String.not_lt.mp after⟩
    · exact .inl (by omega)

theorem best?_eq_none_iff : best? cs = none ↔ cs = [] := by
  cases cs with
  | nil => simp [best?]
  | cons c rest =>
    rw [best?]
    cases best? rest with
    | none => simp
    | some d => dsimp only; split <;> simp

/-- The best candidate is one of them, and outdone by none. -/
theorem best?_spec (h : best? cs = some c) : c ∈ cs ∧ ∀ d ∈ cs, c.IsAtLeast d := by
  induction cs generalizing c with
  | nil => cases h
  | cons b rest ih =>
    rw [best?] at h
    cases found : best? rest with
    | none =>
      rw [found] at h
      cases h
      rw [best?_eq_none_iff.mp found]
      simp [isAtLeast_refl]
    | some d =>
      obtain ⟨mem, most⟩ := ih found
      rw [found] at h
      dsimp only at h
      cases before : d.isBefore b with
      | true =>
        rw [before, if_pos rfl] at h
        cases h
        exact ⟨List.mem_cons_of_mem _ mem,
          List.forall_mem_cons.mpr ⟨isAtLeast_of_isBefore before, most⟩⟩
      | false =>
        rw [before, if_neg Bool.false_ne_true] at h
        cases h
        have outdone := isAtLeast_of_not_isBefore before
        exact ⟨List.mem_cons_self,
          List.forall_mem_cons.mpr ⟨isAtLeast_refl _, fun x here => outdone.trans (most x here)⟩⟩

end Flow.Candidate

/-! ## The flows of a bot -/

/-- Values are computed one after the other, if none fails. -/
theorem List.mapM_ok {α β : Type} {f : α → Except Failure β} {as : List α}
    (each : ∀ a ∈ as, ∃ b, f a = .ok b) :
    ∃ bs, as.mapM f = .ok bs ∧ ∀ b, b ∈ bs ↔ ∃ a ∈ as, f a = .ok b := by
  induction as with
  | nil => exact ⟨[], rfl, by simp⟩
  | cons a rest ih =>
    obtain ⟨b, first⟩ := each a List.mem_cons_self
    obtain ⟨bs, others, members⟩ := ih fun a here => each a (List.mem_cons_of_mem _ here)
    refine ⟨b :: bs, by rw [List.mapM_cons, first, others]; rfl, fun x => ?_⟩
    simp [members, first, eq_comm]

namespace Store

variable {s t : Store} {now : Moment} {workspaceId botId id : String} {e : Event} {doc : Entries}
  {r : Record} {k : Int}

/-- The flows in service of a bot: active and published, in its workspace. -/
theorem mem_activeFlows_iff : doc ∈ s.activeFlows workspaceId botId ↔
    doc ∈ s.flows ∧ doc.lookup "workspace_id" = some (.text workspaceId) ∧
      doc.lookup "bot_id" = some (.text botId) ∧ doc.lookup "status" = some (.text "active") ∧
      doc.lookup "is_published" = some (.bool true) := by
  have published : doc.holds "is_published" (.bool true) = true ↔
      doc.lookup "is_published" = some (.bool true) := by
    unfold Entries.holds
    cases doc.lookup "is_published" with
    | none => simp
    | some v => cases v <;> simp [Value.isSameLeaf]
  simp [activeFlows, List.mem_filter, Entries.holdsAll, Entries.holds_text_iff, published]

/-- A flow in service of the bot is read from its document, and matches the event with this rank. -/
def Offers (s : Store) (now : Moment) (workspaceId botId : String) (e : Event) (r : Record) (k : Int) :
    Prop :=
  (∃ doc ∈ s.activeFlows workspaceId botId, Record.ofDocument? now doc = .ok r) ∧ r.Ranks e k

/-- The id is that of a flow in service with the highest rank, and of all such the smallest. -/
def Wins (s : Store) (now : Moment) (workspaceId botId : String) (e : Event) (id : String) : Prop :=
  ∃ r k, s.Offers now workspaceId botId e r k ∧ r.id.getD "" = id ∧
    ∀ r' k', s.Offers now workspaceId botId e r' k' → k' < k ∨ k' = k ∧ id ≤ r'.id.getD ""

/-- The flow whose definition answers an event: of the flows that match the best one, or else of those
that match the fallback event. -/
inductive Chooses (s : Store) (now : Moment) (workspaceId botId : String) (e : Event) :
    Option String → Prop
  | matched {id : String} (wins : s.Wins now workspaceId botId e id) :
    Chooses s now workspaceId botId e (some id)
  | fallback {id : String} (none_matches : ∀ r k, ¬ s.Offers now workspaceId botId e r k)
    (first : e.kind ≠ .fallback) (wins : s.Wins now workspaceId botId .lastResort id) :
    Chooses s now workspaceId botId e (some id)
  | nothing (none_matches : ∀ r k, ¬ s.Offers now workspaceId botId e r k)
    (last : e.kind ≠ .fallback → ∀ r k, ¬ s.Offers now workspaceId botId .lastResort r k) :
    Chooses s now workspaceId botId e none

theorem Wins.unique {id' : String} (h : s.Wins now workspaceId botId e id)
    (h' : s.Wins now workspaceId botId e id') : id = id' := by
  obtain ⟨r, k, offers, rfl, most⟩ := h
  obtain ⟨r', k', offers', rfl, most'⟩ := h'
  rcases most r' k' offers' with lower | ⟨same, before⟩
  · rcases most' r k offers with lower' | ⟨same', -⟩ <;> omega
  · rcases most' r k offers with lower' | ⟨same', before'⟩
    · omega
    · exact String.le_antisymm before before'

theorem Wins.offers (h : s.Wins now workspaceId botId e id) :
    ∃ r k, s.Offers now workspaceId botId e r k := by
  obtain ⟨r, k, offers, -⟩ := h
  exact ⟨r, k, offers⟩

/-- At most one answer is right. -/
theorem Chooses.unique {id? id'? : Option String} (h : s.Chooses now workspaceId botId e id?)
    (h' : s.Chooses now workspaceId botId e id'?) : id? = id'? := by
  cases h with
  | matched wins =>
    obtain ⟨r, k, offers⟩ := wins.offers
    cases h' with
    | matched wins' => exact congrArg some (wins.unique wins')
    | fallback unmatched => exact absurd offers (unmatched r k)
    | nothing unmatched => exact absurd offers (unmatched r k)
  | fallback unmatched first wins =>
    cases h' with
    | matched wins' =>
      obtain ⟨r, k, offers⟩ := wins'.offers
      exact absurd offers (unmatched r k)
    | fallback _ _ wins' => exact congrArg some (wins.unique wins')
    | nothing _ last =>
      obtain ⟨r, k, offers⟩ := wins.offers
      exact absurd offers (last first r k)
  | nothing unmatched last =>
    cases h' with
    | matched wins' =>
      obtain ⟨r, k, offers⟩ := wins'.offers
      exact absurd offers (unmatched r k)
    | fallback _ first wins' =>
      obtain ⟨r, k, offers⟩ := wins'.offers
      exact absurd offers (last first r k)
    | nothing => rfl

/-- Every flow in service can be read. -/
def IsValid (s : Store) (now : Moment) (workspaceId botId : String) : Prop :=
  ∀ doc ∈ s.activeFlows workspaceId botId, ∃ r, Record.ofDocument? now doc = .ok r

/-- Holding the flows in service against the event does not fail. -/
def IsJudged (s : Store) (now : Moment) (workspaceId botId : String) (e : Event) : Prop :=
  ∀ doc ∈ s.activeFlows workspaceId botId, ∀ r, Record.ofDocument? now doc = .ok r → r.IsJudged e

theorem isJudged_lastResort : s.IsJudged now workspaceId botId .lastResort :=
  fun _ _ r _ => Dispatch.isJudged_lastResort r

/-- What is selected for an event is the winner, or there is nothing to select from. -/
theorem selected?_spec (valid : s.IsValid now workspaceId botId)
    (judged : s.IsJudged now workspaceId botId e) :
    (∃ c, s.selected? now workspaceId botId e = .ok (some c) ∧ s.Wins now workspaceId botId e c.id) ∨
      s.selected? now workspaceId botId e = .ok none ∧ ∀ r k, ¬ s.Offers now workspaceId botId e r k := by
  obtain ⟨flows, read, members⟩ := List.mapM_ok valid
  have active : s.readActive now workspaceId botId = flows := by
    rw [readActive, read]
    rfl
  obtain ⟨cs, found, candidates⟩ := Dispatch.candidates?_of_isJudged fun r here => by
    obtain ⟨doc, there, reads⟩ := (members r).mp here
    exact judged doc there r reads
  have offers (r : Record) (k : Int) : s.Offers now workspaceId botId e r k ↔ ⟨r, k⟩ ∈ cs := by
    rw [candidates, Offers, members]
  have selected : s.selected? now workspaceId botId e = .ok (Candidate.best? cs) := by
    rw [selected?, active, found]
    rfl
  rw [selected]
  cases best : Candidate.best? cs with
  | none =>
    rw [Candidate.best?_eq_none_iff] at best
    refine .inr ⟨rfl, fun r k offer => ?_⟩
    rw [offers, best] at offer
    cases offer
  | some c =>
    obtain ⟨mem, most⟩ := Candidate.best?_spec best
    exact .inl ⟨c, rfl, c.flow, c.rank, (offers _ _).mpr mem, rfl,
      fun r k offer => most ⟨r, k⟩ ((offers r k).mp offer)⟩

/-- The candidate for an event is the right one. -/
theorem chosen?_spec (valid : s.IsValid now workspaceId botId)
    (judged : s.IsJudged now workspaceId botId e) :
    ∃ c?, s.chosen? now workspaceId botId e false = .ok c? ∧
      s.Chooses now workspaceId botId e (c?.map Candidate.id) := by
  unfold chosen?
  rcases selected?_spec valid judged with ⟨c, selected, wins⟩ | ⟨selected, unmatched⟩
  · rw [selected]
    exact ⟨some c, rfl, .matched wins⟩
  · rw [selected]
    cases last : e.kind == .fallback with
    | true =>
      refine ⟨none, rfl, .nothing unmatched fun first => ?_⟩
      exact absurd (beq_iff_eq.mp last) first
    | false =>
      have first : e.kind ≠ .fallback := beq_eq_false_iff_ne.mp last
      rcases selected?_spec valid isJudged_lastResort with ⟨c, selected', wins⟩ | ⟨selected', unmatched'⟩
      · exact ⟨some c, selected', .fallback unmatched first wins⟩
      · exact ⟨none, selected', .nothing unmatched fun _ => unmatched'⟩

/-! ## Other flows -/

/-- The store with other flows. -/
def withFlows (s : Store) (flows : Documents) : Store := { s with flows }

variable {flows : Documents}

/-- Which flow is chosen is a matter of the flows in service, in any order. -/
theorem offers_of_perm (same : (t.activeFlows workspaceId botId).Perm (s.activeFlows workspaceId botId)) :
    t.Offers now workspaceId botId e r k ↔ s.Offers now workspaceId botId e r k := by
  simp only [Offers, same.mem_iff]

theorem wins_of_perm (same : (t.activeFlows workspaceId botId).Perm (s.activeFlows workspaceId botId)) :
    t.Wins now workspaceId botId e id ↔ s.Wins now workspaceId botId e id := by
  simp only [Wins, offers_of_perm same]

theorem Chooses.of_perm {id? : Option String}
    (same : (t.activeFlows workspaceId botId).Perm (s.activeFlows workspaceId botId))
    (h : s.Chooses now workspaceId botId e id?) : t.Chooses now workspaceId botId e id? := by
  cases h with
  | matched wins => exact .matched ((wins_of_perm same).mpr wins)
  | fallback unmatched first wins =>
    exact .fallback (fun r k offer => unmatched r k ((offers_of_perm same).mp offer)) first
      ((wins_of_perm same).mpr wins)
  | nothing unmatched last =>
    exact .nothing (fun r k offer => unmatched r k ((offers_of_perm same).mp offer))
      fun first r k offer => last first r k ((offers_of_perm same).mp offer)

theorem IsValid.of_perm (same : (t.activeFlows workspaceId botId).Perm (s.activeFlows workspaceId botId))
    (h : s.IsValid now workspaceId botId) : t.IsValid now workspaceId botId :=
  fun doc here => h doc (same.mem_iff.mp here)

theorem IsJudged.of_perm (same : (t.activeFlows workspaceId botId).Perm (s.activeFlows workspaceId botId))
    (h : s.IsJudged now workspaceId botId e) : t.IsJudged now workspaceId botId e :=
  fun doc here => h doc (same.mem_iff.mp here)

theorem definition?_of_flow? (flow : t.flow? id = s.flow? id) (versions : t.versions = s.versions)
    (versionId : Option String) : t.definition? now id versionId = s.definition? now id versionId := by
  unfold definition? readFlow? versionFor? readVersion? version? latestVersion?
  rw [flow, versions]

end Store

/-- The world with other flows in the store. -/
def World.withFlows (w : World) (flows : Documents) : World := w.withStore (w.store.withFlows flows)

namespace Dispatch

variable {w : World} {workspaceId botId : String} {e : Event} {id? : Option String} {flows : Documents}

/-- The definition of the chosen flow, as the library gives it. -/
def loaded (w : World) : Option String → Except Failure (Option Definition)
  | some id => ((Library.load id none).run w).1
  | none => .ok none

theorem loaded_of_consults {v : World} (quiet : w.IsQuiet) (h : w.Consults v) (id? : Option String) :
    loaded v id? = loaded w id? := by
  cases id? with
  | none => rfl
  | some id =>
    obtain ⟨_, -, before⟩ := Library.load_run quiet id none
    obtain ⟨_, -, after⟩ := Library.load_run (h.isQuiet quiet) id none
    rw [loaded, loaded, before, after, Library.known?_of_consults h]

/-- The definition of the chosen flow is the answer. -/
theorem find_run_fst (quiet : w.IsQuiet) (valid : w.store.IsValid w.now workspaceId botId)
    (judged : w.store.IsJudged w.now workspaceId botId e) :
    ∃ id?, w.store.Chooses w.now workspaceId botId e id? ∧
      ((find workspaceId botId e false).run w).1 = loaded w id? := by
  obtain ⟨c?, chosen, chooses⟩ := Store.chosen?_spec valid judged
  obtain ⟨v, consults, run⟩ := find_run quiet workspaceId botId e false
  refine ⟨c?.map Candidate.id, chooses, ?_⟩
  rw [run, chosen, ← loaded_of_consults quiet consults]
  cases c? <;> rfl

/-- With other flows the answer is the same, if the flows in service are, and the document that is found by
the chosen id is. -/
theorem find_run_withFlows (quiet : w.IsQuiet) (valid : w.store.IsValid w.now workspaceId botId)
    (judged : w.store.IsJudged w.now workspaceId botId e)
    (chooses : w.store.Chooses w.now workspaceId botId e id?)
    (same : ((w.store.withFlows flows).activeFlows workspaceId botId).Perm
      (w.store.activeFlows workspaceId botId))
    (found : ∀ id, id? = some id → (w.store.withFlows flows).flow? id = w.store.flow? id) :
    ((find workspaceId botId e false).run (w.withFlows flows)).1 = loaded w id? := by
  have quiet' : (w.withFlows flows).IsQuiet := quiet
  obtain ⟨id'?, chooses', answer⟩ := find_run_fst quiet' (valid.of_perm same) (judged.of_perm same)
  rw [answer, chooses'.unique (chooses.of_perm same)]
  cases id? with
  | none => rfl
  | some id =>
    obtain ⟨_, -, before⟩ := Library.load_run quiet id none
    obtain ⟨_, -, after⟩ := Library.load_run quiet' id none
    have stored : (w.store.withFlows flows).definition? w.now id none = w.store.definition? w.now id none :=
      Store.definition?_of_flow? (found id rfl) rfl none
    rw [loaded, loaded, before, after, Library.known?, Library.known?]
    exact congrArg (fun d? => Except.ok ((w.cache.lookup (Library.key id none)).or d?)) stored

/-- The flow that answers an event is the best one in service, whatever the order of the flows; and no
flow that is not in service matters, if one in service is found by the chosen id. -/
theorem find_chooses (quiet : w.IsQuiet) (distinct : w.store.flows.AreDistinct)
    (valid : w.store.IsValid w.now workspaceId botId)
    (judged : w.store.IsJudged w.now workspaceId botId e) :
    ∃ id?, w.store.Chooses w.now workspaceId botId e id? ∧
      ((find workspaceId botId e false).run w).1 = loaded w id? ∧
      (∀ flows : Documents, flows.Perm w.store.flows →
        ((find workspaceId botId e false).run (w.withFlows flows)).1 = loaded w id?) ∧
      ((∀ id, id? = some id → ∃ doc ∈ w.store.activeFlows workspaceId botId,
          doc.lookup "_id" = some (.ofId id)) →
        ∀ flows : Documents, flows.AreDistinct →
          ((w.store.withFlows flows).activeFlows workspaceId botId).Perm
            (w.store.activeFlows workspaceId botId) →
          ((find workspaceId botId e false).run (w.withFlows flows)).1 = loaded w id?) := by
  obtain ⟨id?, chooses, answer⟩ := find_run_fst quiet valid judged
  refine ⟨id?, chooses, answer, fun flows perm => ?order, fun own flows distinct' same => ?others⟩
  case order =>
    refine find_run_withFlows quiet valid judged chooses (perm.filter _) fun id _ => ?_
    exact distinct.find?_perm perm id
  case others =>
    refine find_run_withFlows quiet valid judged chooses same fun id chosen => ?_
    obtain ⟨doc, here, h⟩ := own id chosen
    have there : doc ∈ (w.store.withFlows flows).flows := (List.mem_filter.mp (same.mem_iff.mpr here)).1
    exact (distinct'.find?_eq there h).trans (distinct.find?_eq (List.mem_filter.mp here).1 h).symm

end Dispatch

namespace Sample

/-- The document of a flow in service of the bot, with these triggers. -/
def served (id : Value) (triggers : List Value) : Entries :=
  [("_id", id), ("workspace_id", .text "ws-1"), ("bot_id", .text "bot-1"), ("name", .text "Flow"),
    ("triggers", .list triggers), ("status", .text "active"), ("is_published", .bool true)]

/-- A trigger that listens to `bye`, with a priority. -/
def byeTrigger (priority : Int) : Value :=
  .dict [("type", .text "keyword"), ("conditions", .dict [("keywords", .list [.text "bye"])]),
    ("priority", .int priority)]

/-- A world with these flows and versions, and nothing in memory. -/
def stocked (flows versions : Documents) : World :=
  ⟨⟨noon, [], [], [], []⟩, ⟨flows, versions, []⟩, [], true, []⟩

/-- The document of the first version of a flow. -/
def edition (id flowId : String) : Entries :=
  [("_id", .text id), ("flow_id", .text flowId), ("version", .int 1)]

/-- Two flows that listen to `bye`. -/
def partings : Documents := [served (.text "b") [byeTrigger 1], served (.text "a") [byeTrigger 1]]

/-- The world with the two flows and a version for each. -/
def parting : World := stocked partings [edition "v1" "a", edition "v2" "b"]

/-- The two flows are read, and are held against the message without fail. -/
theorem reads_partings {doc : Entries} (here : doc ∈ partings) :
    ∃ r, Record.ofDocument? noon doc = .ok r ∧ r.IsJudged (.ofMessage "Bye") := by
  rcases here with _ | ⟨_, _ | ⟨_, ⟨⟩⟩⟩
  · exact ⟨_, by with_unfolding_all rfl, Dispatch.isJudged_iff.mpr ⟨_, by with_unfolding_all rfl⟩⟩
  · exact ⟨_, by with_unfolding_all rfl, Dispatch.isJudged_iff.mpr ⟨_, by with_unfolding_all rfl⟩⟩

theorem find_chooses_parting :
    ((Dispatch.find "ws-1" "bot-1" (.ofMessage "Bye") false).run (parting.withFlows partings.reverse)).1
      = ((Dispatch.find "ws-1" "bot-1" (.ofMessage "Bye") false).run parting).1 := by
  have quiet : parting.IsQuiet := rfl
  have distinct : parting.store.flows.AreDistinct := by
    simp [parting, stocked, partings, Documents.AreDistinct, served]
  have active : parting.store.activeFlows "ws-1" "bot-1" = partings := by with_unfolding_all rfl
  have valid : parting.store.IsValid parting.now "ws-1" "bot-1" := by
    intro doc here
    rw [active] at here
    obtain ⟨r, reads, -⟩ := reads_partings here
    exact ⟨r, reads⟩
  have judged : parting.store.IsJudged parting.now "ws-1" "bot-1" (.ofMessage "Bye") := by
    intro doc here r reads
    rw [active] at here
    obtain ⟨r', reads', judged⟩ := reads_partings here
    cases reads.symm.trans reads'
    exact judged
  obtain ⟨id?, -, answer, order, -⟩ := Dispatch.find_chooses quiet distinct valid judged
  rw [answer]
  exact order _ (List.reverse_perm partings)

/-- A text of the form of a record id. -/
def likeRecordId : String := "507f1f77bcf86cd799439011"

/-- A flow in service whose id is such a text. -/
def disguised : Entries := served (.text likeRecordId) [.dict [("type", .text "fallback")]]

/-- A draft of another bot whose record id is written so. -/
def draft : Entries :=
  [("_id", .recordId likeRecordId), ("workspace_id", .text "ws-1"), ("bot_id", .text "bot-2"),
    ("name", .text "Draft")]

/-- The world with the flow in service, and a version for it. -/
def eclipsed : World := stocked [disguised] [edition "v1" likeRecordId]

/-- A draft of another bot answers in the place of the flow that is in service. -/
theorem draft_answers :
    ¬ ∀ (w : World) (workspaceId botId : String) (e : Event) (flows : Documents), w.IsQuiet →
      w.store.flows.AreDistinct → w.store.IsValid w.now workspaceId botId →
      w.store.IsJudged w.now workspaceId botId e → flows.AreDistinct →
      (w.store.withFlows flows).activeFlows workspaceId botId = w.store.activeFlows workspaceId botId →
      ((Dispatch.find workspaceId botId e false).run (w.withFlows flows)).1
        = ((Dispatch.find workspaceId botId e false).run w).1 := by
  intro independent
  have active : eclipsed.store.activeFlows "ws-1" "bot-1" = [disguised] := by with_unfolding_all rfl
  have reads : ∃ r, Record.ofDocument? noon disguised = .ok r := ⟨_, by with_unfolding_all rfl⟩
  have distinct : eclipsed.store.flows.AreDistinct := by
    simp [eclipsed, stocked, Documents.AreDistinct]
  have distinct' : Documents.AreDistinct [disguised, draft] := by
    simp [Documents.AreDistinct, disguised, draft, served]
  have valid : eclipsed.store.IsValid eclipsed.now "ws-1" "bot-1" := by
    intro doc here
    rw [active, List.mem_singleton] at here
    rw [here]
    exact reads
  have same := independent eclipsed "ws-1" "bot-1" .lastResort [disguised, draft] rfl distinct valid
    Store.isJudged_lastResort distinct' (by with_unfolding_all rfl)
  exact absurd (congrArg (fun answer => answer.toOption.map Option.isSome) same) (by decide +kernel)

end Sample

end ChatFlow
