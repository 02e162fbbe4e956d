import ChatFlow.Proofs.Conversation.Rereading
import ChatFlow.Proofs.Flow.Reading
import ChatFlow.Proofs.Interpreter.Answering

/-!
What resuming a conversation may come to.

In a quiet world a conversation is resumed from the session that was loaded, and nothing is written; or
there is nothing to resume, because no session was found or because the one that was found is removed
(`Interpreter.resume_cases`).
-/

namespace ChatFlow

namespace Interpreter

open ChatFlow.Flow (Definition)

open Operation (run_bind)

variable {w v : World} {conv : String} {c : Context} {d : Definition}

/-- The definition, if it has the node. -/
def bound (definition : Option Definition) (id : String) : Option Definition :=
  definition.bind fun d => (d.node? id).map fun _ => d

theorem bound_eq_some_iff {definition : Option Definition} {id : String} :
    bound definition id = some d ↔ definition = some d ∧ (d.node? id).isSome = true := by
  cases definition with
  | none => simp [bound]
  | some e =>
    cases found : e.node? id with
    | none =>
      simp only [bound, Option.bind_some, found, Option.map_none, Option.some.injEq, reduceCtorEq,
        false_iff]
      rintro ⟨rfl, node⟩
      rw [found] at node
      cases node
    | some n =>
      simp only [bound, Option.bind_some, found, Option.map_some, Option.some.injEq]
      constructor
      · rintro rfl
        exact ⟨rfl, by rw [found]; rfl⟩
      · exact And.left

/-- What resuming does with the context that was loaded, and with the definition that it is bound to. -/
theorem resume_eq (conv : String) (w : World) :
    (resume conv).run w = match (Keeping.load conv).run w with
      | (.error f, v) => (.error f, v)
      | (.ok none, v) => (.ok none, v)
      | (.ok (some c), v) =>
        match (Library.load c.flowId (some c.versionId)).run v with
        | (.error f, u) => (.error f, u)
        | (.ok definition, u) =>
          match bound definition c.currentNodeId with
          | some d => (.ok (some (c, d)), u)
          | none =>
            match (Keeping.clear conv).run (u.noted .warning component) with
            | (.error f, x) => (.error f, x)
            | (.ok _, x) => (.ok none, x) := by
  rw [resume, run_bind]
  rcases (Keeping.load conv).run w with ⟨f | _ | c, v⟩
  · rfl
  · rfl
  · dsimp only
    rw [run_bind]
    rcases (Library.load c.flowId (some c.versionId)).run v with ⟨f | definition, u⟩
    · rfl
    · dsimp only
      unfold bound
      cases definition.bind fun d => (d.node? c.currentNodeId).map fun _ => d with
      | some d => rfl
      | none =>
        dsimp only
        rw [run_bind, Operation.run_warn]
        dsimp only
        rw [run_bind]
        rcases (Keeping.clear conv).run (u.noted .warning component) with ⟨_ | _, _⟩ <;> rfl

/-- If there is nothing to resume, a run of the flow that answers is started. -/
theorem respond_of_nothing {i : Interpreter} {m : Inbound}
    (resumed : (resume m.conversationId).run w = (.ok none, v)) :
    (i.respond m).run w =
      match (Dispatch.find m.workspaceId m.botId (.ofMessage m.message) false).run v with
      | (.error f, u) => (.error f, u)
      | (.ok none, u) => (.ok (noFlow u.now), u)
      | (.ok (some d), u) => (i.start m d).run u := by
  rw [respond, run_bind, resumed]
  dsimp only
  rw [run_bind]
  rcases (Dispatch.find m.workspaceId m.botId (.ofMessage m.message) false).run v
    with ⟨_ | _ | _, _⟩ <;> rfl

/-- What resuming may come to. A session whose run cannot go on is removed. -/
inductive Resumed (conv : String) (w : World) :
    Except Failure (Option (Context × Definition)) × World → Prop
  | resumes (c : Context) (d : Definition) (v : World)
    (loaded : (Keeping.load conv).run w = (.ok (some c), w.joined)) (reads : w.Reads v) :
    Resumed conv w (.ok (some (c, d)), v)
  | nothing (v : World) (reads : w.Reads v)
    (unread : ∀ doc es, w.store.session? conv = some doc → doc.withIdText? ≠ .ok es) :
    Resumed conv w (.ok none, v)
  | removed (v : World) (reads : (w.cleared conv).Reads v) : Resumed conv w (.ok none, v)
  | fails (f : Failure) (v : World) (reads : w.Reads v) : Resumed conv w (.error f, v)

theorem resume_cases (quiet : w.IsQuiet) (conv : String) :
    Resumed conv w ((resume conv).run w) := by
  have loads := Keeping.load_cases quiet conv
  rw [resume_eq]
  generalize result : (Keeping.load conv).run w = r at loads ⊢
  cases loads with
  | nothing v reads unread => exact .nothing v reads unread
  | removed v reads => exact .removed v reads
  | fails f => exact .fails f _ ⟨rfl, rfl, rfl⟩
  | context c =>
    have reads := (Library.isReading_load c.flowId (some c.versionId)).onlyReads w.joined quiet
    dsimp only
    generalize (Library.load c.flowId (some c.versionId)).run w.joined = r at reads
    obtain ⟨f | definition, u⟩ := r
    · exact .fails f u ⟨reads.store, reads.faults, reads.now⟩
    · dsimp only at reads ⊢
      cases bound definition c.currentNodeId with
      | some d => exact .resumes c d u result ⟨reads.store, reads.faults, reads.now⟩
      | none =>
        -- The run is given up: the session is cleared before the flow is looked for anew.
        have quiet' : (u.noted .warning component).IsQuiet := reads.isQuiet quiet
        have store : u.store.cleared conv = w.store.cleared conv := by
          rw [reads.store, World.joined_store]
        dsimp only
        rw [Keeping.clear_run quiet'.letsWrite]
        exact .removed _ ⟨store, reads.faults, reads.now⟩

/-- Without a session there is nothing to resume. -/
theorem resume_run_of_none (quiet : w.IsQuiet) (absent : w.store.session? conv = none) :
    (resume conv).run w = (.ok none, w.joined) := by
  rw [resume_eq, Keeping.load_run_of_none quiet absent]

/-- A usable session is resumed on the definition that is loaded for it, if that has the node. -/
theorem resume_run_of_load (quiet : w.IsQuiet) (reads : Keeping.IsReadAs w.store conv w.now c)
    (loads : (Library.load c.flowId (some c.versionId)).run w.joined = (.ok (some d), v))
    (node : (d.node? c.currentNodeId).isSome = true) :
    (resume conv).run w = (.ok (some (c, d)), v) := by
  have there : bound (some d) c.currentNodeId = some d := bound_eq_some_iff.mpr ⟨rfl, node⟩
  rw [resume_eq, Keeping.load_run_of_isReadAs quiet reads]
  dsimp only
  rw [loads]
  dsimp only
  rw [there]

/-- A usable session is resumed if the node at which it stands is there, and nothing is written. -/
theorem resume_run_of_isReadAs (quiet : w.IsQuiet) (reads : Keeping.IsReadAs w.store conv w.now c)
    (found : ((Library.load c.flowId (some c.versionId)).run w.joined).1 = .ok (some d))
    (node : (d.node? c.currentNodeId).isSome = true) :
    ∃ v, (resume conv).run w = (.ok (some (c, d)), v) ∧ v.outside = w.outside ∧ w.Reads v := by
  have quiet' : w.joined.IsQuiet := quiet
  have looks := (Library.isReading_load c.flowId (some c.versionId)).onlyReads w.joined quiet'
  have silent := Library.isSilentIf_load c.flowId (some c.versionId) w.joined
  obtain ⟨u, loads⟩ : ∃ u, (Library.load c.flowId (some c.versionId)).run w.joined
      = (.ok (some d), u) := ⟨_, Prod.ext found rfl⟩
  rw [loads] at looks
  exact ⟨u, resume_run_of_load quiet reads loads node, silent u (some d) quiet' loads rfl,
    ⟨looks.store, looks.faults, looks.now⟩⟩

/-- What is resumed is the session that was stored, at a node that is there, whatever faults struck. -/
theorem isReadAs_of_resume (alone : w.IsAlone)
    (resumed : (resume conv).run w = (.ok (some (c, d)), v)) :
    w.Looks v ∧ Keeping.IsReadAs w.store conv w.now c ∧ (d.node? c.currentNodeId).isSome = true := by
  rw [resume_eq] at resumed
  cases loaded : (Keeping.load conv).run w with
  | mk found u =>
    rw [loaded] at resumed
    match found with
    | .error f => cases resumed
    | .ok none => cases resumed
    | .ok (some c') =>
      obtain ⟨looks, reads⟩ := Keeping.isReadAs_of_load alone loaded
      have looks' := (Library.isReading_load c'.flowId (some c'.versionId)).looks u
      dsimp only at resumed
      generalize (Library.load c'.flowId (some c'.versionId)).run u = r at looks' resumed
      obtain ⟨f | definition, x⟩ := r
      · cases resumed
      · dsimp only at looks' resumed
        cases there : bound definition c'.currentNodeId with
        | none =>
          rw [there] at resumed
          dsimp only at resumed
          split at resumed <;> cases resumed
        | some d' =>
          rw [there] at resumed
          cases resumed
          exact ⟨looks.trans looks', reads, (bound_eq_some_iff.mp there).2⟩

/-- A resumed context was loaded, and nothing was written. -/
theorem load_of_resume (quiet : w.IsQuiet) (resumed : (resume conv).run w = (.ok (some (c, d)), v)) :
    (Keeping.load conv).run w = (.ok (some c), w.joined) ∧ w.Reads v := by
  have cases_ := resume_cases quiet conv
  rw [resumed] at cases_
  cases cases_ with
  | resumes _ _ _ loaded reads => exact ⟨loaded, reads⟩

/-- The clock stands still while a conversation is found to have nothing to resume. -/
theorem now_of_resume_none (quiet : w.IsQuiet) (resumed : (resume conv).run w = (.ok none, v)) :
    v.now = w.now := by
  have cases_ := resume_cases quiet conv
  rw [resumed] at cases_
  cases cases_ with
  | nothing _ reads unread => exact reads.now
  | removed _ reads => exact reads.now

end Interpreter

end ChatFlow
