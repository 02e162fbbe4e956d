import ChatFlow.Flow.Dispatch
import ChatFlow.Proofs.World.Meeting

/-!
Looking for the flow that answers only reads.

`Operation.IsReading` says of which parts an operation is made if it reads flows and versions and no
sessions; the library and the dispatch are made of such parts. An operation of this kind leaves the
clock alone, and the store too unless a fault lets another writer in (`IsReading.looks`); what it changes
are the faults it meets, the definitions in memory and the log. In a quiet world the library does not
even log anything if it finds the definition (`Library.isSilentIf_load`).
-/

namespace ChatFlow

/-- A change that commutes with replacing the store leaves the store alone. -/
theorem World.store_of_apart {f : World → World}
    (apart : ∀ w s, f (w.withStore s) = (f w).withStore s) (w : World) : (f w).store = w.store := by
  show (f (w.withStore w.store)).store = w.store
  rw [apart, withStore_store]

namespace Operation

/-! ## Operations that read -/

/-- The operation reads flows and versions, and neither reads nor writes sessions. -/
inductive IsReading : {α : Type} → Operation α → Prop
  | pure {α : Type} (a : α) : IsReading (pure a)
  | ofExcept {α : Type} (e : Except Failure α) : IsReading (ofExcept e)
  | bind {α β : Type} {x : Operation α} {f : α → Operation β} (hx : IsReading x)
    (hf : ∀ a, IsReading (f a)) : IsReading (x >>= f)
  | attempt {α : Type} {x : Operation α} (hx : IsReading x) : IsReading (attempt x)
  /-- It looks at the world, but not at the store. -/
  | look {β : Type} {f : World → Operation β} (blind : ∀ w s, f (w.withStore s) = f w)
    (hf : ∀ w, IsReading (f w)) : IsReading (get >>= f)
  /-- It keeps something in mind. -/
  | keep {f : World → World} (apart : ∀ w s, f (w.withStore s) = (f w).withStore s)
    (faults : ∀ w, (f w).faults = w.faults) (now : ∀ w, (f w).now = w.now) : IsReading (modify f)
  | outside {α : Type} {x : StateM Outside (Except Failure α)} (now : ∀ o, (x o).2.now = o.now) :
    IsReading (ExceptT.mk (World.onOutside x))
  | report {x : StateM Outside Unit} (now : ∀ o, (x o).2.now = o.now) :
    IsReading (liftM (World.onOutside x))
  | connect : IsReading connect
  | read {α : Type} (a : Access) (c : Collection) (default : α) {f : Store → α}
    (blind : ∀ s docs, f { s with sessions := docs } = f s) (reads : a.writes = false := by rfl) :
    IsReading (read a c default f)

variable {α β : Type}

namespace IsReading

theorem now : Operation.now.IsReading := .look (fun _ _ => rfl) fun _ => .pure _

theorem warn (component : String) :
    (liftM (World.warn component) : Operation Unit).IsReading := .report fun _ => rfl

theorem reportError (component : String) :
    (liftM (World.reportError component) : Operation Unit).IsReading := .report fun _ => rfl

theorem orLog (default : α) {x : Operation α} (h : x.IsReading) : (orLog default x).IsReading :=
  .bind (.attempt h) fun
    | .ok _ => .pure _
    | .error _ => .bind (.reportError _) fun _ => .pure _

theorem mapM {f : α → Operation β} (h : ∀ a, (f a).IsReading) (as : List α) :
    (as.mapM f).IsReading := by
  induction as with
  | nil =>
    rw [List.mapM_nil]
    exact .pure _
  | cons a rest ih =>
    rw [List.mapM_cons]
    exact .bind (h a) fun _ => .bind ih fun _ => .pure _

/-! ### Flows and versions -/

theorem flowRecord (doc : Entries) : (flowRecord doc).IsReading :=
  .bind (.ofExcept _) fun _ => .bind .now fun _ => .ofExcept _

theorem versionRecord (doc : Entries) : (versionRecord doc).IsReading :=
  .bind (.ofExcept _) fun _ => .bind .now fun _ => .ofExcept _

theorem getFlow (id : String) : (getFlow id).IsReading :=
  .bind .connect fun _ => .orLog _ <| .bind (.read _ _ _ fun _ _ => rfl) fun
    | none => .pure _
    | some doc => .bind (.flowRecord doc) fun _ => .pure _

theorem getVersion (id : String) : (getVersion id).IsReading :=
  .bind .connect fun _ => .orLog _ <| .bind (.read _ _ _ fun _ _ => rfl) fun
    | none => .pure _
    | some doc => .bind (.versionRecord doc) fun _ => .pure _

theorem getLatestVersion (flowId : String) : (getLatestVersion flowId).IsReading :=
  .bind .connect fun _ => .orLog _ <| .bind (.read _ _ _ fun _ _ => rfl) fun
    | none => .pure _
    | some doc => .bind (.versionRecord doc) fun _ => .pure _

theorem getActiveFlows (workspaceId botId : String) : (getActiveFlows workspaceId botId).IsReading :=
  .bind .connect fun _ => .orLog _ <| .bind (.read _ _ _ fun _ _ => rfl) fun docs =>
    .mapM .flowRecord docs

end IsReading

/-! ### What it leaves -/

/-- The operation only reads, whatever faults strike. -/
theorem IsReading.peeks {x : Operation α} (h : x.IsReading) (w : World) : w.Peeks (x.run w).2 := by
  induction h generalizing w with
  | pure a => exact .refl w
  | ofExcept e =>
    rw [run_ofExcept]
    exact .refl w
  | @bind _ _ x f _ _ hx hf =>
    have first := hx w
    rw [run_bind]
    generalize x.run w = r at first ⊢
    obtain ⟨e | a, v⟩ := r
    · exact first
    · exact first.trans (hf a v)
  | attempt _ hx => exact hx w
  | look _ _ hf => exact hf w w
  | keep apart faults now => exact .of_same (World.store_of_apart apart w) (faults w) (now w)
  | outside now => exact .of_same rfl rfl (now w.outside)
  | report now => exact .of_same rfl rfl (now w.outside)
  | connect => exact peeks_connect w
  | read a c default _ reads => exact peeks_read reads c default _ w

theorem IsReading.looks {x : Operation α} (h : x.IsReading) (w : World) : w.Looks (x.run w).2 :=
  (h.peeks w).looks

theorem IsReading.spends {x : Operation α} (h : x.IsReading) : x.Spends :=
  fun w => (h.looks w).spends

/-- In a quiet world the operation only reads. -/
def OnlyReads (x : Operation α) : Prop :=
  ∀ w : World, w.IsQuiet → w.Reads (x.run w).2

theorem IsReading.onlyReads {x : Operation α} (h : x.IsReading) : x.OnlyReads :=
  fun w quiet => (h.looks w).reads quiet

end Operation

open Operation

/-! ## Definitions -/

namespace Library

open ChatFlow.Flow (Record Version Definition)

theorem isReading_resolveVersion (flow : Record) (flowId : String) (versionId : Option String) :
    (resolveVersion flow flowId versionId).IsReading := by
  unfold resolveVersion
  cases named? versionId with
  | some id => exact .getVersion id
  | none =>
    cases named? flow.currentVersionId with
    | some id => exact .getVersion id
    | none => exact .getLatestVersion flowId

theorem isReading_fetch (flowId : String) (versionId : Option String) :
    (fetch flowId versionId).IsReading :=
  .bind (.getFlow flowId) fun
    | none => .pure _
    | some flow => .bind (isReading_resolveVersion flow flowId versionId) fun
      | none => .pure _
      | some _ => .pure _

theorem isReading_keep (key : String) (d : Definition) :
    (modify fun w => { w with cache := w.cache ++ [(key, d)] } : Operation Unit).IsReading :=
  .keep (fun _ _ => rfl) (fun _ => rfl) fun _ => rfl

theorem isReading_load (flowId : String) (versionId : Option String) :
    (load flowId versionId).IsReading := by
  refine .look (fun _ _ => rfl) fun w => ?_
  cases w.cache.lookup (key flowId versionId) with
  | some d => exact .pure _
  | none =>
    refine .bind (isReading_fetch flowId versionId) fun found => ?_
    cases found with
    | some d => exact .bind (isReading_keep _ d) fun _ => .pure _
    | none => exact .bind (.warn _) fun _ => .pure _

end Library

namespace Operation

/-! ## Silence -/

section Silence

variable {α β : Type} {P : α → Prop} {Q : β → Prop}

/-- In a quiet world the operation leaves the outside alone if its result is as described. -/
def IsSilentIf (P : α → Prop) (x : Operation α) : Prop :=
  ∀ w v : World, ∀ a, w.IsQuiet → x.run w = (.ok a, v) → P a → v.outside = w.outside

theorem isSilentIf_of_world {x : Operation α} (h : ∀ w, w.IsQuiet → (x.run w).2.outside = w.outside) :
    x.IsSilentIf P := by
  intro w v a quiet run _
  rw [← h w quiet, run]

theorem isSilentIf_pure (a : α) : (pure a : Operation α).IsSilentIf P :=
  isSilentIf_of_world fun _ _ => rfl

theorem isSilentIf_ofExcept (e : Except Failure α) : (ofExcept e).IsSilentIf P :=
  isSilentIf_of_world fun w _ => by rw [run_ofExcept]

theorem isSilentIf_now {P : Moment → Prop} : now.IsSilentIf P := isSilentIf_of_world fun _ _ => rfl

theorem isSilentIf_connect {P : Unit → Prop} : connect.IsSilentIf P :=
  isSilentIf_of_world fun w quiet => by rw [connect_run quiet.letsWrite.isReachable, World.joined_outside]

theorem isSilentIf_read (a : Access) (c : Collection) (default : α) (f : Store → α) :
    (read a c default f).IsSilentIf P :=
  isSilentIf_of_world fun w quiet => by rw [read_run quiet]

/-- Two silent parts make a silent whole, if nothing as described comes of other results of the first. -/
theorem isSilentIf_bind {x : Operation α} {f : α → Operation β} (reads : x.IsReading)
    (hx : x.IsSilentIf P) (hf : ∀ a, P a → (f a).IsSilentIf Q)
    (other : ∀ a, ¬ P a → (f a).Gives fun b => ¬ Q b) : (x >>= f).IsSilentIf Q := by
  intro w v b quiet run q
  have still := (reads.onlyReads w quiet).isQuiet quiet
  rw [run_bind] at run
  cases first : x.run w with
  | mk result u =>
    rw [first] at run still
    cases result with
    | error e => exact absurd (congrArg Prod.fst run) (by simp)
    | ok a =>
      by_cases p : P a
      · exact (hf a p u v b still run q).trans (hx w u a quiet first p)
      · exact absurd q (other a p u v b run)

/-- A first part that is silent whatever it gives. -/
theorem isSilentIf_bind_any {x : Operation α} {f : α → Operation β} (reads : x.IsReading)
    (hx : x.IsSilentIf fun _ => True) (hf : ∀ a, (f a).IsSilentIf Q) : (x >>= f).IsSilentIf Q :=
  isSilentIf_bind reads hx (fun a _ => hf a) fun _ no => absurd trivial no

/-- Looking at the world leaves no log line. -/
theorem isSilentIf_look {f : World → Operation β} (hf : ∀ w, (f w).IsSilentIf Q) :
    (get >>= f).IsSilentIf Q := fun w => hf w w

/-- What is found although failures are logged was found silently. -/
theorem isSilentIf_orLog {x : Operation (Option α)} (h : x.IsSilentIf fun _ => True) :
    (orLog none x).IsSilentIf fun r => r.isSome = true := by
  intro w v r quiet run some
  rw [orLog_run] at run
  cases inner : x.run w with
  | mk result u =>
    rw [inner] at run
    cases result with
    | error e =>
      have absent : (none : Option α) = r := Except.ok.inj (congrArg Prod.fst run)
      rw [← absent] at some
      cases some
    | ok a =>
      have left : u = v := congrArg Prod.snd run
      rw [← left]
      exact h w u a quiet inner trivial

end Silence

theorem isSilentIf_flowRecord (doc : Entries) : (flowRecord doc).IsSilentIf fun _ => True :=
  isSilentIf_bind_any (.ofExcept _) (isSilentIf_ofExcept _) fun _ =>
    isSilentIf_bind_any .now isSilentIf_now fun _ => isSilentIf_ofExcept _

theorem isSilentIf_versionRecord (doc : Entries) : (versionRecord doc).IsSilentIf fun _ => True :=
  isSilentIf_bind_any (.ofExcept _) (isSilentIf_ofExcept _) fun _ =>
    isSilentIf_bind_any .now isSilentIf_now fun _ => isSilentIf_ofExcept _

theorem isSilentIf_getFlow (id : String) : (getFlow id).IsSilentIf fun r => r.isSome = true :=
  isSilentIf_bind_any .connect isSilentIf_connect fun _ => isSilentIf_orLog <|
    isSilentIf_bind_any (.read _ _ _ fun _ _ => rfl) (isSilentIf_read _ _ _ _) fun
      | none => isSilentIf_pure _
      | some doc => isSilentIf_bind_any (.flowRecord doc) (isSilentIf_flowRecord doc)
          fun _ => isSilentIf_pure _

theorem isSilentIf_getVersion (id : String) : (getVersion id).IsSilentIf fun r => r.isSome = true :=
  isSilentIf_bind_any .connect isSilentIf_connect fun _ => isSilentIf_orLog <|
    isSilentIf_bind_any (.read _ _ _ fun _ _ => rfl) (isSilentIf_read _ _ _ _) fun
      | none => isSilentIf_pure _
      | some doc => isSilentIf_bind_any (.versionRecord doc) (isSilentIf_versionRecord doc)
          fun _ => isSilentIf_pure _

theorem isSilentIf_getLatestVersion (flowId : String) :
    (getLatestVersion flowId).IsSilentIf fun r => r.isSome = true :=
  isSilentIf_bind_any .connect isSilentIf_connect fun _ => isSilentIf_orLog <|
    isSilentIf_bind_any (.read _ _ _ fun _ _ => rfl) (isSilentIf_read _ _ _ _) fun
      | none => isSilentIf_pure _
      | some doc => isSilentIf_bind_any (.versionRecord doc) (isSilentIf_versionRecord doc)
          fun _ => isSilentIf_pure _

end Operation

namespace Library

open ChatFlow.Flow (Record Version Definition)

theorem isSilentIf_resolveVersion (flow : Record) (flowId : String) (versionId : Option String) :
    (resolveVersion flow flowId versionId).IsSilentIf fun r => r.isSome = true := by
  unfold resolveVersion
  cases named? versionId with
  | some id => exact isSilentIf_getVersion id
  | none =>
    cases named? flow.currentVersionId with
    | some id => exact isSilentIf_getVersion id
    | none => exact isSilentIf_getLatestVersion flowId

theorem isSilentIf_fetch (flowId : String) (versionId : Option String) :
    (fetch flowId versionId).IsSilentIf fun r => r.isSome = true := by
  refine isSilentIf_bind (.getFlow flowId) (isSilentIf_getFlow flowId)
    (fun flow? some => ?_) (fun flow? absent => ?_)
  · obtain ⟨flow, rfl⟩ := Option.isSome_iff_exists.mp some
    refine isSilentIf_bind (isReading_resolveVersion flow flowId versionId)
      (isSilentIf_resolveVersion flow flowId versionId)
      (fun version? some => ?_) (fun version? absent => ?_)
    · obtain ⟨version, rfl⟩ := Option.isSome_iff_exists.mp some
      exact isSilentIf_pure _
    · rw [Option.not_isSome_iff_eq_none] at absent
      subst absent
      exact gives_pure Bool.false_ne_true
  · rw [Option.not_isSome_iff_eq_none] at absent
    subst absent
    exact gives_pure Bool.false_ne_true

/-- A definition that is found leaves no log line. -/
theorem isSilentIf_load (flowId : String) (versionId : Option String) :
    (load flowId versionId).IsSilentIf fun r => r.isSome = true := by
  refine isSilentIf_look fun w => ?_
  cases w.cache.lookup (key flowId versionId) with
  | some d => exact isSilentIf_pure _
  | none =>
    refine isSilentIf_bind (isReading_fetch flowId versionId) (isSilentIf_fetch flowId versionId)
      (fun found? some => ?_) (fun found? absent => ?_)
    · obtain ⟨d, rfl⟩ := Option.isSome_iff_exists.mp some
      exact isSilentIf_bind_any (isReading_keep _ d) (isSilentIf_of_world fun _ _ => rfl)
        fun _ => isSilentIf_pure _
    · rw [Option.not_isSome_iff_eq_none] at absent
      subst absent
      intro w v r run some
      have none : (none : Option Definition) = r := Except.ok.inj (congrArg Prod.fst run)
      rw [← none] at some
      cases some

end Library

/-! ## Dispatching -/

namespace Dispatch

open ChatFlow.Flow (Record Trigger Event Candidate)

variable {α β : Type}

/-- The activity leaves the clock alone. -/
def KeepsTime (x : Service α) : Prop :=
  ∀ o : Outside, (x.run o).2.now = o.now

theorem keepsTime_pure (a : α) : KeepsTime (pure a : Service α) := fun _ => rfl

theorem keepsTime_ofExcept (e : Except Failure α) : KeepsTime (Service.ofExcept e) := by
  intro o
  cases e <;> rfl

theorem keepsTime_bind {x : Service α} {f : α → Service β} (hx : KeepsTime x)
    (hf : ∀ a, KeepsTime (f a)) : KeepsTime (x >>= f) := by
  intro o
  have first := hx o
  show (ExceptT.bindCont f (x.run o).1 (x.run o).2).2.now = o.now
  generalize x.run o = r at first ⊢
  obtain ⟨e | a, left⟩ := r
  · exact first
  · exact (hf a left).trans first

theorem keepsTime_holds (t : Trigger) (e : Event) : KeepsTime (holds t e) :=
  keepsTime_bind (keepsTime_ofExcept _) fun
    | .byPlainText _ => keepsTime_bind (fun _ => rfl) fun _ => keepsTime_pure _
    | .yes => keepsTime_pure _
    | .no => keepsTime_pure _

theorem keepsTime_firstMatch (e : Event) (ts : List Trigger) : KeepsTime (firstMatch e ts) := by
  induction ts with
  | nil => exact keepsTime_pure _
  | cons t rest ih =>
    refine keepsTime_bind (keepsTime_holds t e) fun matched => ?_
    cases matched with
    | true => exact keepsTime_pure _
    | false => exact ih

theorem keepsTime_candidates (e : Event) (flows : List Record) : KeepsTime (candidates e flows) := by
  induction flows with
  | nil => exact keepsTime_pure _
  | cons flow rest ih =>
    exact keepsTime_bind (keepsTime_firstMatch e flow.triggers) fun _ =>
      keepsTime_bind ih fun _ => keepsTime_pure _

theorem isReading_select (workspaceId botId : String) (e : Event) :
    (select workspaceId botId e).IsReading :=
  .bind (.getActiveFlows workspaceId botId) fun flows =>
    .bind (.outside (keepsTime_candidates e flows)) fun _ => .pure _

/-- Looking for the flow that answers is reading. -/
theorem isReading_find (workspaceId botId : String) (e : Event) (triedFallback : Bool) :
    (find workspaceId botId e triedFallback).IsReading := by
  refine .bind (isReading_select workspaceId botId e) fun selected => ?_
  cases selected with
  | some c => exact Library.isReading_load c.id none
  | none =>
    dsimp only
    split
    · exact .pure _
    · refine .bind (isReading_select workspaceId botId .lastResort) fun last => ?_
      cases last with
      | some c => exact Library.isReading_load c.id none
      | none => exact .pure _

end Dispatch

end ChatFlow
