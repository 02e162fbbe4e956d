import ChatFlow.Proofs.Flow.Reading

/-!
Looking for the flow that answers does not fail by a conflict.

Records that cannot be read are logged and count as absent. What is left are triggers against which a
text cannot be held; they fail for other reasons than a conflict over a session. So an answer that
speaks of a conflict comes from a save (`Dispatch.avoidsConflict_find`).
-/

namespace ChatFlow

/-! ## Triggers -/

namespace Json

mutual

theorem not_conflict_of_fault? {asTexts : Bool} {f : Failure} :
    ∀ v : Value, fault? asTexts v = some f → ¬ f.IsConflict
  | .int n, h => by
    rw [fault?] at h
    split at h
    · cases h
      rintro ⟨_, _, same⟩
      cases same
    · cases h
  | .list items, h => not_conflict_of_faultInItems? items (by rwa [fault?] at h)
  | .dict entries, h => not_conflict_of_faultInEntries? entries (by rwa [fault?] at h)
  | .date _, h | .recordId _, h => by
    rw [fault?] at h
    split at h
    · cases h
    · cases h
      rintro ⟨_, _, same⟩
      cases same
  | .null, h | .bool _, h | .float _, h | .text _, h => by cases h

theorem not_conflict_of_faultInItems? {asTexts : Bool} {f : Failure} :
    ∀ items : List Value, faultInItems? asTexts items = some f → ¬ f.IsConflict
  | [], h => by cases h
  | v :: rest, h => by
    rw [faultInItems?] at h
    split at h
    · rename_i found
      exact not_conflict_of_fault? v (found.trans h)
    · exact not_conflict_of_faultInItems? rest h

theorem not_conflict_of_faultInEntries? {asTexts : Bool} {f : Failure} :
    ∀ entries : List (String × Value), faultInEntries? asTexts entries = some f → ¬ f.IsConflict
  | [], h => by cases h
  | (_, v) :: rest, h => by
    rw [faultInEntries?] at h
    split at h
    · rename_i found
      exact not_conflict_of_fault? v (found.trans h)
    · exact not_conflict_of_faultInEntries? rest h

end

end Json

namespace Flow

variable {f : Failure}

theorem not_conflict_of_display? {v : Value} (h : v.display? = .error f) : ¬ f.IsConflict := by
  unfold Value.display? at h
  split at h
  · rename_i found
    cases h
    exact Json.not_conflict_of_fault? v found
  · split at h <;> cases h

theorem not_conflict_of_anyKeyword? {text : List Char} {keywords : List Value}
    (h : anyKeyword? text keywords = .error f) : ¬ f.IsConflict := by
  induction keywords with
  | nil => cases h
  | cons k rest ih =>
    rw [anyKeyword?] at h
    split at h
    · rename_i shown
      cases h
      exact not_conflict_of_display? shown
    · split at h
      · cases h
      · exact ih h

theorem not_conflict_of_matchPattern? {pattern : Value} {text : String}
    (h : matchPattern? pattern text = .error f) : ¬ f.IsConflict := by
  rintro ⟨conv, n, rfl⟩
  unfold matchPattern? at h
  split at h
  · split at h
    · cases h
    · rename_i fault _
      cases fault <;> cases h
  · cases h
  · cases h
  · cases h

theorem not_conflict_of_elementsIfPresent? {v : Value} (h : v.elementsIfPresent? = .error f) :
    ¬ f.IsConflict := by
  rintro ⟨conv, n, rfl⟩
  unfold Value.elementsIfPresent? at h
  split at h
  · unfold Value.elements? at h
    split at h <;> cases h
  · cases h

theorem not_conflict_of_match? {t : Trigger} {e : Event} (h : t.match? e = .error f) :
    ¬ f.IsConflict := by
  unfold Trigger.match? at h
  split at h
  · cases h
  · split at h
    · cases h
    · dsimp only at h
      split at h
      · cases h
      · unfold Trigger.matchText? at h
        split at h
        · split at h
          · rename_i missing
            cases h
            exact not_conflict_of_elementsIfPresent? missing
          · rename_i keywords _
            cases found : anyKeyword? (Text.lowerChars (e.value.getD "").toList) keywords with
            | error g =>
              rw [found] at h
              cases h
              exact not_conflict_of_anyKeyword? found
            | ok b =>
              rw [found] at h
              cases h
        · cases h
        · dsimp only at h
          split at h
          · exact not_conflict_of_matchPattern? h
          · cases h
        · cases h
        · cases h

end Flow

/-! ## Operations -/

namespace Operation

variable {α β : Type}

/-- The operation does not fail by a conflict, as long as faults wait for reads only. -/
def AvoidsConflict (x : Operation α) : Prop :=
  ∀ w : World, w.LetsWrite → ∀ f, (x.run w).1 = .error f → ¬ f.IsConflict

theorem avoidsConflict_pure (a : α) : (pure a : Operation α).AvoidsConflict := nofun

theorem avoidsConflict_of_ok {x : Operation α} (h : ∀ w, w.LetsWrite → ∃ a, (x.run w).1 = .ok a) :
    x.AvoidsConflict := by
  intro w writes f failed
  obtain ⟨a, ok⟩ := h w writes
  rw [ok] at failed
  cases failed

theorem avoidsConflict_bind {x : Operation α} {f : α → Operation β} (spends : x.Spends)
    (hx : x.AvoidsConflict) (hf : ∀ a, (f a).AvoidsConflict) : (x >>= f).AvoidsConflict := by
  intro w writes e failed
  have still := (spends w).letsWrite writes
  have first := hx w writes
  rw [run_bind] at failed
  generalize x.run w = r at still first failed
  obtain ⟨g | a, v⟩ := r
  · exact first e (congrArg Except.error (Except.error.inj failed))
  · exact hf a v still e failed

theorem avoidsConflict_look {f : World → Operation β} (hf : ∀ w, (f w).AvoidsConflict) :
    (get >>= f).AvoidsConflict := fun w => hf w w

theorem avoidsConflict_connect : connect.AvoidsConflict :=
  avoidsConflict_of_ok fun w writes => ⟨(), by rw [connect_run writes.isReachable]⟩

/-- What logs its failures does not fail. -/
theorem avoidsConflict_orLog (default : α) (x : Operation α) : (orLog default x).AvoidsConflict := by
  refine avoidsConflict_of_ok fun w _ => ?_
  rw [orLog_run]
  rcases x.run w with ⟨_ | a, v⟩
  · exact ⟨default, rfl⟩
  · exact ⟨a, rfl⟩

theorem avoidsConflict_getFlow (id : String) : (getFlow id).AvoidsConflict :=
  avoidsConflict_bind spends_connect avoidsConflict_connect fun _ => avoidsConflict_orLog _ _

theorem avoidsConflict_getVersion (id : String) : (getVersion id).AvoidsConflict :=
  avoidsConflict_bind spends_connect avoidsConflict_connect fun _ => avoidsConflict_orLog _ _

theorem avoidsConflict_getLatestVersion (flowId : String) : (getLatestVersion flowId).AvoidsConflict :=
  avoidsConflict_bind spends_connect avoidsConflict_connect fun _ => avoidsConflict_orLog _ _

theorem avoidsConflict_getActiveFlows (workspaceId botId : String) :
    (getActiveFlows workspaceId botId).AvoidsConflict :=
  avoidsConflict_bind spends_connect avoidsConflict_connect fun _ => avoidsConflict_orLog _ _

end Operation

open Operation

namespace Library

open ChatFlow.Flow (Record)

theorem avoidsConflict_resolveVersion (flow : Record) (flowId : String) (versionId : Option String) :
    (resolveVersion flow flowId versionId).AvoidsConflict := by
  unfold resolveVersion
  cases named? versionId with
  | some id => exact avoidsConflict_getVersion id
  | none =>
    cases named? flow.currentVersionId with
    | some id => exact avoidsConflict_getVersion id
    | none => exact avoidsConflict_getLatestVersion flowId

theorem avoidsConflict_load (flowId : String) (versionId : Option String) :
    (load flowId versionId).AvoidsConflict := by
  have fetches : (fetch flowId versionId).AvoidsConflict :=
    avoidsConflict_bind (IsReading.getFlow flowId).spends (avoidsConflict_getFlow flowId) fun
      | none => avoidsConflict_pure _
      | some flow => avoidsConflict_bind (isReading_resolveVersion flow flowId versionId).spends
          (avoidsConflict_resolveVersion flow flowId versionId) fun
        | none => avoidsConflict_pure _
        | some _ => avoidsConflict_pure _
  refine avoidsConflict_look fun w => ?_
  cases w.cache.lookup (key flowId versionId) with
  | some d => exact avoidsConflict_pure _
  | none =>
    refine avoidsConflict_bind (isReading_fetch flowId versionId).spends fetches fun found => ?_
    cases found with
    | some d => exact avoidsConflict_of_ok fun _ _ => ⟨_, rfl⟩
    | none => exact avoidsConflict_of_ok fun _ _ => ⟨_, rfl⟩

end Library

namespace Dispatch

open ChatFlow.Flow (Record Trigger Event)

variable {α β : Type}

/-- The activity does not fail by a conflict. -/
def AvoidsConflict (x : Service α) : Prop :=
  ∀ o f, (x.run o).1 = .error f → ¬ f.IsConflict

theorem avoidsConflict_pure (a : α) : AvoidsConflict (pure a : Service α) := nofun

theorem avoidsConflict_bind {x : Service α} {f : α → Service β} (hx : AvoidsConflict x)
    (hf : ∀ a, AvoidsConflict (f a)) : AvoidsConflict (x >>= f) := by
  intro o e failed
  have first := hx o
  change (ExceptT.bindCont f (x.run o).1 (x.run o).2).1 = .error e at failed
  generalize x.run o = r at first failed
  obtain ⟨g | a, left⟩ := r
  · exact first e (congrArg Except.error (Except.error.inj failed))
  · exact hf a left e failed

theorem avoidsConflict_holds (t : Trigger) (e : Event) : AvoidsConflict (holds t e) := by
  refine avoidsConflict_bind (fun o f failed => ?_) fun
    | .byPlainText _ => nofun
    | .yes => avoidsConflict_pure _
    | .no => avoidsConflict_pure _
  cases held : t.match? e with
  | error g =>
    rw [held] at failed
    cases failed
    exact Flow.not_conflict_of_match? held
  | ok r =>
    rw [held] at failed
    cases failed

theorem avoidsConflict_firstMatch (e : Event) (ts : List Trigger) :
    AvoidsConflict (firstMatch e ts) := by
  induction ts with
  | nil => exact avoidsConflict_pure _
  | cons t rest ih =>
    refine avoidsConflict_bind (avoidsConflict_holds t e) fun matched => ?_
    cases matched with
    | true => exact avoidsConflict_pure _
    | false => exact ih

theorem avoidsConflict_candidates (e : Event) (flows : List Record) :
    AvoidsConflict (candidates e flows) := by
  induction flows with
  | nil => exact avoidsConflict_pure _
  | cons flow rest ih =>
    exact avoidsConflict_bind (avoidsConflict_firstMatch e flow.triggers) fun _ =>
      avoidsConflict_bind ih fun _ => avoidsConflict_pure _

theorem avoidsConflict_select (workspaceId botId : String) (e : Event) :
    (select workspaceId botId e).AvoidsConflict :=
  Operation.avoidsConflict_bind (IsReading.getActiveFlows workspaceId botId).spends
    (avoidsConflict_getActiveFlows workspaceId botId) fun flows =>
    Operation.avoidsConflict_bind (spends_onOutside _)
      (fun w _ => avoidsConflict_candidates e flows w.outside) fun _ =>
        Operation.avoidsConflict_pure _

/-- Looking for the flow that answers does not fail by a conflict. -/
theorem avoidsConflict_find (workspaceId botId : String) (e : Event) (triedFallback : Bool) :
    (find workspaceId botId e triedFallback).AvoidsConflict := by
  refine Operation.avoidsConflict_bind (isReading_select workspaceId botId e).spends
    (avoidsConflict_select workspaceId botId e) fun selected => ?_
  cases selected with
  | some c => exact Library.avoidsConflict_load c.id none
  | none =>
    dsimp only
    split
    · exact Operation.avoidsConflict_pure _
    · refine Operation.avoidsConflict_bind (isReading_select workspaceId botId .lastResort).spends
        (avoidsConflict_select workspaceId botId .lastResort) fun last => ?_
      cases last with
      | some c => exact Library.avoidsConflict_load c.id none
      | none => exact Operation.avoidsConflict_pure _

end Dispatch

end ChatFlow
