import ChatFlow.Proofs.Behavior.Calling
import ChatFlow.Proofs.Turn.Stepping

/-!
What calls leave in the variables.

A call that brought no success sets its error variable to the reason, and one that did sets it to nothing: it does
not write it at all (`Turn.Visit.RecordsReason`). Nothing takes a variable away again. So if only the calls that
store into a variable write its error variable, this holds the reason of the last of them that brought no success,
whatever came after it (`Turn.lookup_assigned`), and is there exactly if there was one.
-/

namespace ChatFlow

open ChatFlow.Flow (Node Definition)
open Behavior.Fetch

namespace Behavior.Fetch

/-- The node makes a call and stores what it brings in the variable. -/
def storesInto (name : String) (node : Node) : Bool :=
  node.kind == "api_call" && (node.setting "apiConfig").isPresent &&
    responseVariable (node.setting "apiConfig") == name

/-- The outcome sets the error variable exactly if it is no success, to its error, which is not empty. -/
structure Notes (name : String) (o : Outcome) : Prop where
  once : ((o.vars.getD []).map Prod.fst).Nodup
  reason : (o.vars.getD []).lookup (errorVariable name)
    = if o.success then none else some (.text (o.error.getD ""))
  given : o.success = false → (o.error.getD "").isEmpty = false

theorem notes_answered (name : String) (status : Int) (body : String) :
    Notes name (answered name status body) := by
  have apart := beq_false_of_ne (errorVariable_ne name)
  unfold answered
  cases isSuccessStatus status with
  | true =>
    refine ⟨by simp [Outcome.setting], ?_, nofun⟩
    show List.lookup _ [_] = none
    rw [List.lookup_cons, apart]
    rfl
  | false =>
    refine ⟨?_, ?_, fun _ => ?_⟩
    · show [name, errorVariable name].Nodup
      simpa using (errorVariable_ne name).symm
    · show List.lookup _ [_, _] = some _
      rw [List.lookup_cons, apart]
      exact List.lookup_cons_self
    · show ("API call failed with status " ++ toString status).isEmpty = false
      simp

theorem notes_failed (name : String) {error : String} (given : error.isEmpty = false) :
    Notes name (failed name error) :=
  ⟨by simp [Outcome.setting, failed], List.lookup_cons_self, fun _ => given⟩

end Behavior.Fetch

namespace Turn

variable {name : String}

namespace Visit

/-- The visit is a call that stores into the variable. -/
def isCall (name : String) (v : Visit) : Bool :=
  storesInto name v.node

/-- The visit is a call that stores into the variable, and brought no success. -/
def FailsCall (name : String) (v : Visit) : Prop :=
  v.isCall name = true ∧ ∃ o, v.result = .ok o ∧ o.success = false

/-- The reason of a call that brought no success. -/
def reason? (name : String) (v : Visit) : Option String :=
  match v.isCall name, v.result with
  | true, .ok o => if o.success then none else some (o.error.getD "")
  | _, _ => none

theorem reason?_isSome_iff {v : Visit} : (v.reason? name).isSome = true ↔ v.FailsCall name := by
  unfold reason? FailsCall
  cases v.isCall name with
  | false => simp
  | true =>
    cases v.result with
    | error f => simp
    | ok o => cases success : o.success <;> simp [success]

/-- The call sets its error variable exactly if it brought no success, to the reason, which is not empty. -/
structure RecordsReason (name : String) (v : Visit) : Prop where
  once : (v.vars.map Prod.fst).Nodup
  reason : v.vars.lookup (errorVariable name) = (v.reason? name).map .text
  given : ∀ r, v.reason? name = some r → r.isEmpty = false

end Visit

/-! ## Visits of turns -/

/-- The visit is what the execution of a node made, in some context and with some things outside. -/
def Visit.IsMade (registry : Registry) (v : Visit) : Prop :=
  ∃ node c reply here, (visit registry node c reply here).1 = v

section

variable {registry : Registry} {maxHops : Nat} {d : Definition} {c : Context} {reply : Option String}
  {start : Outside} {s : Stage} {v : Visit} {left : Outside} {course : Course}

theorem Visits.isMade (visits : Visits registry d c reply start s v left) : v.IsMade registry := by
  obtain ⟨node, -, visited⟩ := visits
  exact ⟨_, _, _, _, congrArg Prod.fst visited⟩

theorem ComesTo.isMade (comes : ComesTo registry maxHops d c reply start s) :
    ∀ v ∈ s.visits, v.IsMade registry := by
  induction comes with
  | refl => exact fun v none => absurd none List.not_mem_nil
  | tail _ step ih =>
    obtain ⟨-, visits, -⟩ := step
    rw [List.forall_mem_append, List.forall_mem_singleton]
    exact ⟨ih, visits.isMade⟩

theorem Takes.isMade (takes : Takes registry maxHops d c reply start course) :
    ∀ v ∈ course.visits, v.IsMade registry := by
  obtain ⟨s, comes, halts⟩ := takes
  cases halts with
  | exhausts | misses => exact comes.isMade
  | closes _ visits =>
    rw [List.forall_mem_append, List.forall_mem_singleton]
    exact ⟨comes.isMade, visits.isMade⟩

end

/-! ## Calls -/

/-- A call gives what came of the exchange, unless this is a failure that it does not handle. -/
theorem result_of_isCall (s : Services) {node : Node} {c : Context} {reply : Option String} {here : Outside}
    (call : (visit (.standard s) node c reply here).1.isCall name = true) :
    (visit (.standard s) node c reply here).1.result
      = match exchanged s.apiTimeout (node.setting "apiConfig") c.scope here with
        | .ok (status, body) => .ok (answered name status body)
        | .error f =>
          if isHandled f then .ok (failed name f.textOrName) else .error f := by
  rw [visit_fst] at call ⊢
  rw [Visit.isCall, storesInto, Bool.and_eq_true, Bool.and_eq_true, beq_iff_eq, beq_iff_eq] at call
  obtain ⟨⟨kind, configured⟩, rfl⟩ := call
  have known : (Registry.standard s).behaviorOf "api_call" = Behavior.fetch s.apiTimeout := rfl
  have started : ((Registry.standard s).behavior "api_call" here).2 = here := rfl
  dsimp only at kind ⊢
  rw [kind, known, started, fetch_run configured]
  rcases exchanged s.apiTimeout (node.setting "apiConfig") c.scope here with f | ⟨status, body⟩
  · dsimp only
    cases isHandled f <;> rfl
  · rfl

/-- A call fails if no response comes, or one without a status of success. -/
theorem failsCall_visit_iff (s : Services) {node : Node} {c : Context} {reply : Option String} {here : Outside}
    (call : (visit (.standard s) node c reply here).1.isCall name = true) :
    (visit (.standard s) node c reply here).1.FailsCall name ↔
      (∃ f, exchanged s.apiTimeout (node.setting "apiConfig") c.scope here = .error f ∧ isHandled f = true) ∨
      ∃ status body, exchanged s.apiTimeout (node.setting "apiConfig") c.scope here = .ok (status, body) ∧
        isSuccessStatus status = false := by
  rw [Visit.FailsCall, and_iff_right call, result_of_isCall s call]
  rcases exchanged s.apiTimeout (node.setting "apiConfig") c.scope here with f | ⟨status, body⟩
  · dsimp only
    cases known : isHandled f with
    | true => exact iff_of_true ⟨_, rfl, rfl⟩ (.inl ⟨f, rfl, known⟩)
    | false =>
      refine iff_of_false (by rintro ⟨_, none, -⟩; cases none) ?_
      rintro (⟨_, ⟨⟩, handled⟩ | ⟨_, _, none, -⟩)
      · cases known.symm.trans handled
      · cases none
  · have tells := (tells_answered name status body).success
    constructor
    · rintro ⟨_, ⟨⟩, fails⟩
      refine .inr ⟨status, body, rfl, Bool.eq_false_iff.mpr fun good => ?_⟩
      cases fails.symm.trans (tells.mpr ⟨status, body, rfl, good⟩)
    · rintro (⟨_, none, -⟩ | ⟨_, _, ⟨⟩, bad⟩)
      · cases none
      · refine ⟨_, rfl, Bool.eq_false_iff.mpr fun good => ?_⟩
        obtain ⟨_, _, ⟨⟩, success⟩ := tells.mp good
        cases bad.symm.trans success

/-- A call that gives an outcome records its reason as the outcome does. -/
theorem recordsReason_of_result {v : Visit} {o : Outcome} (call : v.isCall name = true) (gives : v.result = .ok o)
    (notes : Notes name o) : v.RecordsReason name := by
  have vars : v.vars = o.vars.getD [] := by rw [Visit.vars, gives]
  have known : v.reason? name = if o.success then none else some (o.error.getD "") := by
    rw [Visit.reason?, call, gives]
  refine ⟨vars ▸ notes.once, ?_, fun r here => ?_⟩
  · rw [vars, notes.reason, known]
    cases o.success <;> rfl
  · rw [known] at here
    cases success : o.success with
    | true =>
      rw [success] at here
      cases here
    | false =>
      rw [success] at here
      cases here
      exact notes.given success

/-- A visit that gives no outcome records nothing. -/
theorem recordsReason_of_error {v : Visit} {f : Failure} (fails : v.result = .error f) : v.RecordsReason name := by
  have none : v.reason? name = none := by
    rw [Visit.reason?, fails]
    cases v.isCall name <;> rfl
  have vars : v.vars = [] := by rw [Visit.vars, fails]
  refine ⟨vars ▸ List.nodup_nil, by rw [vars, none]; rfl, fun r here => ?_⟩
  cases none.symm.trans here

/-- Every call records its reason. -/
theorem Visit.IsMade.recordsReason {s : Services} {v : Visit} (made : v.IsMade (.standard s))
    (call : v.isCall name = true) : v.RecordsReason name := by
  obtain ⟨node, c, reply, here, rfl⟩ := made
  have gives := result_of_isCall s call
  generalize (visit (.standard s) node c reply here).1 = v at call gives
  generalize exchanged s.apiTimeout (node.setting "apiConfig") c.scope here = e at gives
  rcases e with f | ⟨status, body⟩
  · dsimp only at gives
    cases known : isHandled f with
    | true =>
      rw [known] at gives
      exact recordsReason_of_result call gives (notes_failed name (textOrName_isEmpty known))
    | false =>
      rw [known] at gives
      exact recordsReason_of_error gives
  · exact recordsReason_of_result call gives (notes_answered name status body)

/-! ## Runs of visits -/

/-- The reason of the last call of the visits that brought no success. -/
def lastReason? (name : String) : List Visit → Option String
  | [] => none
  | v :: rest => (lastReason? name rest).or (v.reason? name)

theorem lastReason?_isSome_iff {visits : List Visit} :
    (lastReason? name visits).isSome = true ↔ ∃ v ∈ visits, v.FailsCall name := by
  induction visits with
  | nil => simp [lastReason?]
  | cons v rest ih =>
    rw [lastReason?, Option.isSome_or, Bool.or_eq_true, ih, Visit.reason?_isSome_iff]
    simp only [List.mem_cons, exists_eq_or_imp]
    exact or_comm

theorem exists_of_lastReason? {visits : List Visit} {reason : String}
    (last : lastReason? name visits = some reason) : ∃ v ∈ visits, v.reason? name = some reason := by
  induction visits with
  | nil => cases last
  | cons v rest ih =>
    rw [lastReason?, Option.or_eq_some_iff] at last
    rcases last with later | ⟨-, here⟩
    · obtain ⟨v', listed, known⟩ := ih later
      exact ⟨v', List.mem_cons_of_mem v listed, known⟩
    · exact ⟨v, List.mem_cons_self, here⟩

/-- The reason of the last call that brought no success is not empty. -/
theorem lastReason?_isEmpty {visits : List Visit} {reason : String}
    (records : ∀ v ∈ visits, v.isCall name = true → v.RecordsReason name)
    (last : lastReason? name visits = some reason) : reason.isEmpty = false := by
  obtain ⟨v, listed, known⟩ := exists_of_lastReason? last
  have fails := Visit.reason?_isSome_iff.mp (Option.isSome_of_eq_some known)
  exact (records v listed fails.1).given reason known

/-- The reason of a visit is what the visit writes, if it is a call and records its reason, or does not write. -/
theorem lookup_update_reason {v : Visit} (vars : Entries)
    (records : v.isCall name = true → v.RecordsReason name)
    (own : v.isCall name = false → v.vars.lookup (errorVariable name) = none) :
    (Entries.update vars v.vars).lookup (errorVariable name)
      = ((v.reason? name).map .text).or (vars.lookup (errorVariable name)) := by
  cases call : v.isCall name with
  | true =>
    obtain ⟨once, reason, -⟩ := records call
    cases known : v.reason? name with
    | some r =>
      rw [known] at reason
      exact Entries.lookup_update_of_lookup once vars reason
    | none =>
      rw [known] at reason
      exact Entries.lookup_update_of_none reason
  | false =>
    have none : v.reason? name = none := by rw [Visit.reason?, call]
    rw [none]
    exact Entries.lookup_update_of_none (own call)

/-- If only the calls that store into the variable write its error variable, this holds the reason of the last of
them that brought no success, and what it held before if there is none. -/
theorem lookup_assigned {visits : List Visit} (vars : Entries)
    (records : ∀ v ∈ visits, v.isCall name = true → v.RecordsReason name)
    (own : ∀ v ∈ visits, v.isCall name = false → v.vars.lookup (errorVariable name) = none) :
    (assigned vars visits).lookup (errorVariable name)
      = ((lastReason? name visits).map .text).or (vars.lookup (errorVariable name)) := by
  induction visits generalizing vars with
  | nil => rfl
  | cons v rest ih =>
    rw [List.forall_mem_cons] at records own
    show (assigned (Entries.update vars v.vars) rest).lookup _ = _
    rw [ih _ records.2 own.2, lookup_update_reason vars records.1 own.1, lastReason?, Option.map_or,
      Option.or_assoc]

end Turn

end ChatFlow
