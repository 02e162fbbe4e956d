import ChatFlow.Behavior.Act
import ChatFlow.Proofs.Interpreter.Answering
import ChatFlow.Proofs.Turn.Standard

/-!
What the actions of a node write.

`Act.writes` gives what a single action writes: the keys and values, in order. Of what was written before it an
action only looks at the tags. A run of a list of actions is a list of steps, one for each entry
(`Act.IsCourse`), and a step writes what its action writes, or nothing if the entry is no action or the action
fails (`Act.Step.IsTaken`). No entry keeps the later ones from having their step.

The outcome of the node holds all that was written, in order, with one exception: a `set_variable` action may name
its variable by a number, by true or by a point in time (`Act.Misnames`). Such a key is written like any other, but
no outcome can hold it, so that the whole node fails, whatever else was written (`Behavior.act_collects_iff`).
-/

namespace ChatFlow

open ChatFlow.Flow (Node Action)

namespace Behavior

namespace Act

variable {reach : Reach} {context : Context} {a : Action}

/-! ## Writing under keys of any sort -/

/-- A key and what is written under it. -/
abbrev Write := Value × Value

/-- A variable that tells that something was done. -/
def flag (name : String) : Write := (.text name, .bool true)

/-- The value is a text. -/
def isTextKey : Value → Bool
  | .text _ => true
  | _ => false

/-- The value can be a key: it is neither a list nor a dictionary. -/
def isKey : Value → Bool
  | .list _ | .dict _ => false
  | _ => true

/-- The variables among what is written. -/
def varsOf (ws : List Write) : Entries :=
  ws.filterMap fun
    | (.text name, value) => some (name, value)
    | _ => none

namespace Progress

/-- Writes under a key. -/
def put (p : Progress) (w : Write) : Progress :=
  match w.1 with
  | .text name => p.set name w.2
  | key => { p with strayKeys := if p.strayKeys.any (isSameKey key) then p.strayKeys else p.strayKeys ++ [key] }

/-- Writes one after another. -/
def record (p : Progress) (ws : List Write) : Progress :=
  ws.foldl put p

theorem setKey?_eq (p : Progress) (key value : Value) :
    p.setKey? key value = if isKey key then .ok (p.put (key, value)) else .error (.unhashable key.sortName) := by
  cases key with
  | list items => rfl
  | dict entries => rfl
  | text s => rfl
  | _ => simp only [setKey?, put, isKey]; split <;> rfl

theorem record_append (p : Progress) (ws more : List Write) :
    p.record (ws ++ more) = (p.record ws).record more :=
  List.foldl_append

/-- The variables are written over those that are there. -/
theorem vars_record (p : Progress) (ws : List Write) :
    (p.record ws).vars = Entries.update p.vars (varsOf ws) := by
  induction ws generalizing p with
  | nil => rfl
  | cons w rest ih =>
    rw [record, List.foldl_cons, ← record, ih]
    obtain ⟨key, value⟩ := w
    cases key <;> rfl

/-- There are stray keys exactly if some were there or are written. -/
theorem strayKeys_record (p : Progress) (ws : List Write) :
    (p.record ws).strayKeys = [] ↔ p.strayKeys = [] ∧ ∀ w ∈ ws, isTextKey w.1 = true := by
  induction ws generalizing p with
  | nil => simp [record]
  | cons w rest ih =>
    rw [record, List.foldl_cons, ← record, ih]
    have here : (p.put w).strayKeys = [] ↔ p.strayKeys = [] ∧ isTextKey w.1 = true := by
      obtain ⟨key, value⟩ := w
      cases key with
      | text s => simp [put, set, isTextKey]
      | _ =>
        -- A key that is there already keeps the list as it is, which is then not empty.
        simp only [put, isTextKey, Bool.false_eq_true, and_false, iff_false]
        split
        · rename_i listed
          rintro none
          rw [none] at listed
          cases listed
        · simp
    rw [here, List.forall_mem_cons, and_assoc]

/-- The variables are given if no key is stray, and else a report on the keys of the variables. -/
theorem finish?_record (ws : List Write) :
    (Progress.start.record ws).finish? = if ws.all (isTextKey ·.1) then .ok (Entries.update [] (varsOf ws))
      else .error (.invalid ⟨Outcome.title, (Progress.start.record ws).strayKeys.map fun k =>
        ⟨[.name "variables", keyPlace k, .name "[key]"], .notText⟩⟩) := by
  have stray := strayKeys_record .start ws
  unfold finish?
  by_cases clean : ∀ w ∈ ws, isTextKey w.1 = true
  · rw [stray.mpr ⟨rfl, clean⟩, vars_record, if_pos (List.all_eq_true.mpr clean)]
    rfl
  · have some_ : (Progress.start.record ws).strayKeys ≠ [] := fun none => clean (stray.mp none).2
    rw [if_neg (by simpa using some_), if_neg (by simpa using clean)]

end Progress

/-! ## What an action writes -/

/-- What a `set_variable` action writes: the text, if there is a name, under the name. -/
def namedWrites? (context : Context) (a : Action) : Except Failure (List Write) :=
  if !(a.setting "name").isPresent then .ok []
  else do
    let template ← ((a.setting "value").orElse (.text "")).display?
    let text ← Template.fillValue? context.scope (.text template)
    if isKey (a.setting "name") then return [(a.setting "name", .text text)]
    else throw (.unhashable (a.setting "name").sortName)

/-- What is written of a lead: that it was created and its id, unless there is none. -/
def leadWrites : Option String → List Write
  | some id => if id.isEmpty then [] else [flag "lead_created", (.text "lead_id", .text id)]
  | none => []

/-- Tells a webhook; without an address nobody is told. -/
def notify (timeout : Quantity) (context : Context) (a : Action) : Service Unit := do
  if (a.setting "url").isPresent then
    let call ← Service.ofExcept (webhookCall? (← Service.now) timeout context a)
    let (status, _) ← Service.send call
    let _ ← Service.ofExcept (a.setting "url").display?
    if !isSuccessStatus status then Service.warn component
  else
    Service.warn component

/-- Whom an email goes to. -/
def recipient (context : Context) (a : Action) : Value :=
  (a.setting "to").orElse (.ofText? context.contact.email)

/-- Queues an email and tells whether it has a recipient. -/
def queue (context : Context) (a : Action) : Service Bool := do
  if !(recipient context a).isPresent then
    Service.warn component
    return false
  let _ ← Service.ofExcept (Template.fillValue? context.scope (a.setting "subject"))
  let _ ← Service.ofExcept (recipient context a).display?
  let _ ← Service.ofExcept (a.setting "template").display?
  return true

/-- What an `add_tag` action writes: the tags so far, or else those of the context, and the tag. -/
def tagWrites? (context : Context) (seen : Entries) (a : Action) : Except Failure (List Write) := do
  let tags ← ((seen.lookup "tags").getD (Entries.getD context.vars "tags")).elementsIfPresent?
  return [(.text "tags", .list (tags ++ [a.setting "tag"]))]

/-- What an action writes, where `seen` was written before it. -/
def writes (reach : Reach) (context : Context) (seen : Entries) (a : Action) : Service (List Write) :=
  match Kind.ofWord? a.kind with
  | some .setVariable => Service.ofExcept (namedWrites? context a)
  | some .createLead => return leadWrites (← reach.leads.create (leadOf context a))
  | some .triggerWebhook => do
    notify reach.webhookTimeout context a
    return [flag "webhook_triggered"]
  | some .sendEmail => return if ← queue context a then [flag "email_sent"] else []
  | some .addTag => Service.ofExcept (tagWrites? context seen a)
  | some .updateContact => return [flag "contact_updated"]
  | some .scheduleAppointment => return [flag "appointment_scheduled"]
  | none => do
    Service.warn component
    return []

theorem setNamed?_eq (done : Progress) :
    setNamed? context a done = (namedWrites? context a).map done.record := by
  unfold setNamed? namedWrites?
  dsimp only
  split
  · rfl
  · cases ((a.setting "value").orElse (.text "")).display? with
    | error f => rfl
    | ok template =>
      change (Template.fillValue? context.scope (.text template) >>= _)
        = (Template.fillValue? context.scope (.text template) >>= _).map _
      cases Template.fillValue? context.scope (.text template) with
      | error f => rfl
      | ok text =>
        change done.setKey? _ _ = Except.map _ (if _ then _ else _)
        rw [Progress.setKey?_eq]
        split <;> rfl

theorem addTag?_eq (done : Progress) :
    addTag? context a done = (tagWrites? context done.vars a).map done.record := by
  unfold addTag? tagWrites?
  dsimp only
  cases ((done.vars.lookup "tags").getD (Entries.getD context.vars "tags")).elementsIfPresent? <;> rfl

theorem triggerWebhook_eq (timeout : Quantity) (done : Progress) :
    triggerWebhook timeout context a done
      = (do notify timeout context a; return done.set "webhook_triggered" (.bool true)) := by
  unfold triggerWebhook notify
  dsimp only
  split
  · simp only [bind_assoc]
    refine bind_congr fun now => bind_congr fun call => bind_congr fun answer => bind_congr fun _ => ?_
    split <;> rfl
  · rfl

theorem sendEmail_eq (done : Progress) :
    sendEmail context a done
      = (do return if ← queue context a then done.set "email_sent" (.bool true) else done) := by
  unfold sendEmail queue
  change (if !(recipient context a).isPresent then _ else _) = _
  split
  · rfl
  · simp only [bind_assoc]
    rfl

/-- An action does to the progress what it writes. -/
theorem perform_eq (done : Progress) :
    perform reach context a done = (do return done.record (← writes reach context done.vars a)) := by
  unfold perform writes
  cases Kind.ofWord? a.kind with
  | none => rfl
  | some kind =>
    cases kind with
    | setVariable =>
      dsimp only
      rw [setNamed?_eq]
      cases namedWrites? context a <;> rfl
    | addTag =>
      dsimp only
      rw [addTag?_eq]
      cases tagWrites? context done.vars a <;> rfl
    | createLead =>
      simp only [createLead, bind_assoc, pure_bind]
      refine bind_congr fun id => ?_
      cases id with
      | none => rfl
      | some id => dsimp only [leadWrites]; split <;> rfl
    | triggerWebhook =>
      simp only [triggerWebhook_eq, bind_assoc, pure_bind]
      rfl
    | sendEmail =>
      simp only [sendEmail_eq, bind_assoc, pure_bind]
      refine bind_congr fun queued => ?_
      cases queued <;> rfl
    | updateContact => rfl
    | scheduleAppointment => rfl

/-! ## Running a list of actions -/

/-- One step of a run of actions: the entry of the list, what was written before it, the outside that it met, what
it wrote, and what it left outside. -/
structure Step where
  entry : Value
  seen : Entries
  met : Outside
  written : List Write
  left : Outside

/-- What becomes of an entry. -/
inductive Step.IsTaken (reach : Reach) (context : Context) : Step → Prop
  /-- What is no action is logged and writes nothing. -/
  | unread {v : Value} {seen : Entries} {met : Outside} {issues : List Schema.Issue}
    (unfit : Action.read v = .invalid issues) :
    IsTaken reach context ⟨v, seen, met, [], met.note .error component⟩
  /-- An action that fails is logged and writes nothing. -/
  | failed {v : Value} {a : Action} {seen : Entries} {met left : Outside} {f : Failure}
    (read : Action.read v = .valid a) (fails : (writes reach context seen a).run met = (.error f, left)) :
    IsTaken reach context ⟨v, seen, met, [], left.note .error component⟩
  | done {v : Value} {a : Action} {seen : Entries} {met left : Outside} {ws : List Write}
    (read : Action.read v = .valid a) (gives : (writes reach context seen a).run met = (.ok ws, left)) :
    IsTaken reach context ⟨v, seen, met, ws, left⟩

/-- The steps follow one another: each sees what those before it wrote, and meets the outside that they left. -/
def IsCourse (reach : Reach) (context : Context) (seen : Entries) (met : Outside) : List Step → Outside → Prop
  | [], left => left = met
  | s :: rest, left =>
    s.seen = seen ∧ s.met = met ∧ s.IsTaken reach context ∧
      IsCourse reach context (Entries.update seen (varsOf s.written)) s.left rest left

/-- An entry is a step, and the progress is then that before it with what the step wrote. -/
theorem exists_step (reach : Reach) (context : Context) (done : Progress) (v : Value) (met : Outside) :
    ∃ s : Step, s.entry = v ∧ s.seen = done.vars ∧ s.met = met ∧ s.IsTaken reach context ∧
      tryOne reach context done v met = (done.record s.written, s.left) := by
  unfold tryOne
  cases read : Action.read v with
  | invalid issues => exact ⟨_, rfl, rfl, rfl, .unread read, rfl⟩
  | valid a =>
    simp only [Schema.Checked.toExcept, perform_eq]
    have runs := Service.run_bind (writes reach context done.vars a) (fun ws => pure (done.record ws)) met
    cases gives : (writes reach context done.vars a).run met with
    | mk result left =>
      rw [gives] at runs
      rw [StateM.bind_apply, runs]
      cases result with
      | ok ws => exact ⟨_, rfl, rfl, rfl, .done read gives, rfl⟩
      | error f => exact ⟨_, rfl, rfl, rfl, .failed read gives, rfl⟩

/-- A run of actions has a step for each entry, whatever becomes of the entries before. -/
theorem exists_course (reach : Reach) (context : Context) (vs : List Value) (done : Progress) (met : Outside) :
    ∃ steps left, steps.map Step.entry = vs ∧ IsCourse reach context done.vars met steps left ∧
      vs.foldlM (tryOne reach context) done met = (done.record (steps.flatMap Step.written), left) := by
  induction vs generalizing done met with
  | nil => exact ⟨[], met, rfl, rfl, rfl⟩
  | cons v rest ih =>
    obtain ⟨s, entry, seen, here, taken, runs⟩ := exists_step reach context done v met
    obtain ⟨steps, left, entries, course, runs'⟩ := ih (done.record s.written) s.left
    rw [Progress.vars_record] at course
    refine ⟨s :: steps, left, by rw [List.map_cons, entry, entries], ⟨seen, here, taken, course⟩, ?_⟩
    rw [List.foldlM_cons, StateM.bind_apply, runs, runs', List.flatMap_cons, Progress.record_append]

/-! ## The variables of each sort -/

/-- The variables of a sort of action; a `set_variable` action brings its own. -/
def Kind.names : Kind → List String
  | setVariable => []
  | createLead => ["lead_created", "lead_id"]
  | triggerWebhook => ["webhook_triggered"]
  | sendEmail => ["email_sent"]
  | addTag => ["tags"]
  | updateContact => ["contact_updated"]
  | scheduleAppointment => ["appointment_scheduled"]

theorem Kind.ofWord?_eq_some_iff {w : String} {k : Kind} : Kind.ofWord? w = some k ↔ w = k.word := by
  constructor
  · intro found
    have worded : k.word = w := by simpa using List.find?_some found
    exact worded.symm
  · rintro rfl
    cases k <;> decide +kernel

/-! ## Names that are no texts -/

/-- The entry is a `set_variable` action whose value can be filled in, and which names its variable by something
that can be a key but is no text. -/
def Misnames (context : Context) (v : Value) : Prop :=
  ∃ a, Action.read v = .valid a ∧ a.kind = Kind.setVariable.word ∧ (a.setting "name").isPresent = true ∧
    isKey (a.setting "name") = true ∧ isTextKey (a.setting "name") = false ∧
    ∃ template text, ((a.setting "value").orElse (.text "")).display? = .ok template ∧
      Template.fillValue? context.scope (.text template) = .ok text

/-- A `set_variable` action writes nothing without a name, and else the text, filled in, under its name. -/
theorem namedWrites?_eq_ok_iff {ws : List Write} :
    namedWrites? context a = .ok ws ↔
      (a.setting "name").isPresent = false ∧ ws = [] ∨
      (a.setting "name").isPresent = true ∧ isKey (a.setting "name") = true ∧
        ∃ template text, ((a.setting "value").orElse (.text "")).display? = .ok template ∧
          Template.fillValue? context.scope (.text template) = .ok text ∧ ws = [(a.setting "name", .text text)] := by
  unfold namedWrites?
  cases (a.setting "name").isPresent with
  | false => exact ⟨fun given => .inl ⟨rfl, (Except.ok.inj given).symm⟩, by rintro (⟨-, rfl⟩ | ⟨⟨⟩, -⟩); rfl⟩
  | true =>
    cases ((a.setting "value").orElse (.text "")).display? with
    | error f => simp [bind, Except.bind]
    | ok template =>
      cases filled : Template.fillValue? context.scope (.text template) with
      | error f => simp [bind, Except.bind, filled]
      | ok text =>
        cases isKey (a.setting "name") <;> simp [bind, Except.bind, filled, pure, Except.pure, throw, throwThe,
          MonadExceptOf.throw, eq_comm]

theorem run_writes_of_setVariable (sort : a.kind = Kind.setVariable.word) (seen : Entries) (met : Outside) :
    (writes reach context seen a).run met = (namedWrites? context a, met) := by
  rw [writes, Kind.ofWord?_eq_some_iff.mpr sort]
  cases namedWrites? context a <;> rfl

/-- An action of another sort writes nothing but the variables of its sort. -/
theorem gives_names {seen : Entries} (other : a.kind ≠ Kind.setVariable.word) :
    (writes reach context seen a).Gives fun ws =>
      ∀ w ∈ ws, ∃ kind name, a.kind = Kind.word kind ∧ name ∈ kind.names ∧ w.1 = .text name := by
  unfold writes
  cases sort : Kind.ofWord? a.kind with
  | none => exact Service.gives_bind fun _ => Service.gives_pure (by simp)
  | some kind =>
    have sort' := Kind.ofWord?_eq_some_iff.mp sort
    -- It is enough to name each variable that is written.
    suffices named : (writes reach context seen a).Gives fun ws => ∀ w ∈ ws, ∃ name ∈ kind.names, w.1 = .text name by
      rw [writes, sort] at named
      intro met ws left runs w written
      obtain ⟨name, listed, same⟩ := named met ws left runs w written
      exact ⟨kind, name, sort', listed, same⟩
    rw [writes, sort]
    cases kind with
    | setVariable => exact absurd sort' other
    | createLead =>
      refine Service.gives_bind fun id => Service.gives_pure ?_
      cases id with
      | none => simp [leadWrites]
      | some id => cases empty : id.isEmpty <;> simp [leadWrites, empty, flag, Kind.names]
    | triggerWebhook => exact Service.gives_bind fun _ => Service.gives_pure (by simp [flag, Kind.names])
    | sendEmail =>
      refine Service.gives_bind fun queued => Service.gives_pure ?_
      cases queued <;> simp [flag, Kind.names]
    | addTag =>
      refine Service.gives_ofExcept fun ws given => ?_
      unfold tagWrites? at given
      cases tags : ((seen.lookup "tags").getD (Entries.getD context.vars "tags")).elementsIfPresent? with
      | error f => rw [tags] at given; cases given
      | ok tags' => rw [tags] at given; cases given; simp [Kind.names]
    | updateContact => exact Service.gives_pure (by simp [flag, Kind.names])
    | scheduleAppointment => exact Service.gives_pure (by simp [flag, Kind.names])

/-- A `set_variable` action names its variable by something that is no text, exactly if it writes under that. -/
theorem misnames_iff {v : Value} (read : Action.read v = .valid a) :
    Misnames context v ↔ a.kind = Kind.setVariable.word ∧
      ∃ ws, namedWrites? context a = .ok ws ∧ ∃ w ∈ ws, isTextKey w.1 = false := by
  simp only [Misnames, read, Schema.Checked.valid.injEq, exists_eq_left', namedWrites?_eq_ok_iff]
  constructor
  · rintro ⟨sort, named, key, stray, template, text, shown, filled⟩
    exact ⟨sort, _, .inr ⟨named, key, template, text, shown, filled, rfl⟩, _, List.mem_cons_self, stray⟩
  · rintro ⟨sort, ws, ⟨-, rfl⟩ | ⟨named, key, template, text, shown, filled, rfl⟩, w, written, stray⟩
    · cases written
    · cases List.mem_singleton.mp written
      exact ⟨sort, named, key, stray, template, text, shown, filled⟩

/-- A step writes under something that is no text exactly if its entry misnames its variable. -/
theorem Step.IsTaken.textKeys_iff {s : Step} (taken : s.IsTaken reach context) :
    (∀ w ∈ s.written, isTextKey w.1 = true) ↔ ¬ Misnames context s.entry := by
  cases taken with
  | unread unfit =>
    refine iff_of_true (by simp) ?_
    rintro ⟨a, fits, -⟩
    rw [unfit] at fits
    cases fits
  | failed read fails =>
    refine iff_of_true (by simp) fun misnamed => ?_
    obtain ⟨sort, ws, named, -⟩ := (misnames_iff read).mp misnamed
    rw [run_writes_of_setVariable sort, named] at fails
    cases fails
  | @done v a seen met left ws read gives =>
    rw [misnames_iff read]
    by_cases sort : a.kind = Kind.setVariable.word
    · rw [run_writes_of_setVariable sort] at gives
      have named : namedWrites? context a = .ok ws := congrArg Prod.fst gives
      simp [sort, named]
    · refine iff_of_true (fun w written => ?_) (by rintro ⟨sort', -⟩; exact sort sort')
      obtain ⟨kind, name, -, -, key⟩ := gives_names sort _ _ _ gives w written
      rw [key]
      rfl

/-- A run writes under texts only, exactly if no entry misnames its variable. -/
theorem IsCourse.textKeys_iff {seen : Entries} {met left : Outside} {steps : List Step}
    (course : IsCourse reach context seen met steps left) :
    (∀ w ∈ steps.flatMap Step.written, isTextKey w.1 = true) ↔ ∀ v ∈ steps.map Step.entry, ¬ Misnames context v := by
  induction steps generalizing seen met with
  | nil => simp
  | cons s rest ih =>
    obtain ⟨-, -, taken, follows⟩ := course
    rw [List.flatMap_cons, List.forall_mem_append, taken.textKeys_iff, ih follows, List.map_cons,
      List.forall_mem_cons]

end Act

open Act

/-- A node takes a step for each of its actions, and gives the variables that they wrote, if all can be given. -/
theorem exists_act_run {node : Node} {vs : List Value} (listed : node.setting "actions" = .list vs)
    (reach : Reach) (context : Context) (reply : Option String) (outside : Outside) :
    ∃ steps left, steps.map Step.entry = vs ∧ IsCourse reach context [] outside steps left ∧
      (act reach node context reply).run outside
        = ((Progress.start.record (steps.flatMap Step.written)).finish?.map Outcome.setting, left) := by
  obtain ⟨steps, left, entries, course, runs⟩ := exists_course reach context vs .start outside
  refine ⟨steps, left, entries, course, ?_⟩
  have elements : (node.setting "actions").elementsIfPresent? = .ok vs := by
    rw [listed]
    cases vs <;> rfl
  have lifted : (liftM (runAll reach context vs) : Service Progress).run outside
      = (.ok (Progress.start.record (steps.flatMap Step.written)), left) :=
    congrArg (fun done : Progress × Outside => (Except.ok done.1, done.2)) runs
  rw [act, Service.run_ofExcept_bind, elements]
  dsimp only
  rw [Service.run_bind, lifted]
  dsimp only
  rw [Service.run_ofExcept_bind]
  cases (Progress.start.record (steps.flatMap Step.written)).finish? <;> rfl

/-- Every entry of a list of actions has its step, whatever becomes of the others. The node succeeds with the
variables that the steps wrote, in order, exactly if no entry misnames its variable, and else fails with a report
on the outcome. -/
theorem act_collects_iff {node : Node} {vs : List Value} (listed : node.setting "actions" = .list vs)
    (reach : Reach) (context : Context) (reply : Option String) (outside : Outside) :
    ∃ steps left, steps.map Step.entry = vs ∧ IsCourse reach context [] outside steps left ∧
      ((act reach node context reply).run outside
          = (.ok (.setting (Entries.update [] (varsOf (steps.flatMap Step.written)))), left) ↔
        ∀ v ∈ vs, ¬ Misnames context v) ∧
      ((∃ v ∈ vs, Misnames context v) → ∃ report, report.title = Outcome.title ∧
        (act reach node context reply).run outside = (.error (.invalid report), left)) := by
  obtain ⟨steps, left, entries, course, runs⟩ := exists_act_run listed reach context reply outside
  refine ⟨steps, left, entries, course, ?_⟩
  have clean : (steps.flatMap Step.written).all (isTextKey ·.1) = true ↔ ∀ v ∈ vs, ¬ Misnames context v := by
    rw [List.all_eq_true, course.textKeys_iff, entries]
  rw [runs, Progress.finish?_record, ← clean]
  cases texts : (steps.flatMap Step.written).all (isTextKey ·.1) with
  | true =>
    refine ⟨iff_of_true rfl rfl, ?_⟩
    rintro ⟨v, entry, misnamed⟩
    exact absurd misnamed (clean.mp texts v entry)
  | false => exact ⟨iff_of_false nofun Bool.false_ne_true, fun _ => ⟨_, rfl, rfl⟩⟩

end Behavior

/-! ## Lists of actions -/

namespace Sample

open Behavior Act

/-- Reaches no lead service. -/
def reach : Reach := ⟨⟨"", .whole 1⟩, .whole 1⟩

/-- An entry of a list of actions. -/
def action (kind : String) (config : Entries) : Value :=
  .dict [("type", .text kind), ("config", .dict config)]

/-- A node with these actions. -/
def acting (actions : List Value) : Node where
  id := "act"
  kind := "action"
  data := [("actions", .list actions)]
  extra := []

/-- A text, an action named by a list, one with a name, and one that always does what it says. -/
def mixedActions : List Value :=
  [.text "tag", action "set_variable" [("name", .list []), ("value", .text "x")],
    action "set_variable" [("name", .list [.text "city"]), ("value", .text "x")],
    action "set_variable" [("name", .text "city"), ("value", .text "Oslo")], action "update_contact" []]

/-- Of five entries one is no action, one has no name and one fails; the last two write their variables. -/
theorem act_collects_iff_mixed :
    (acting mixedActions).setting "actions" = .list mixedActions ∧
      (∀ v ∈ mixedActions, ¬ Misnames context v) ∧
      ∃ steps left, steps.map Step.entry = mixedActions ∧
        IsCourse reach context [] (world []).outside steps left ∧
        Entries.update [] (varsOf (steps.flatMap Step.written))
          = [("city", .text "Oslo"), ("contact_updated", .bool true)] := by
  have clean : ∀ v ∈ mixedActions, ¬ Misnames context v := by
    rintro v entry ⟨a, read, sort, named, key, stray, -⟩
    simp only [mixedActions, List.mem_cons, List.not_mem_nil, or_false] at entry
    rcases entry with rfl | rfl | rfl | rfl | rfl <;> cases read
    · cases named
    · cases key
    · cases stray
    · exact absurd sort (by decide)
  obtain ⟨steps, left, entries, course, succeeds, -⟩ :=
    @act_collects_iff (acting mixedActions) mixedActions rfl reach context none (world []).outside
  refine ⟨rfl, clean, steps, left, entries, course, ?_⟩
  have runs : ((act reach (acting mixedActions) context none).run (world []).outside).1
      = .ok (.setting [("city", .text "Oslo"), ("contact_updated", .bool true)]) := by with_unfolding_all rfl
  rw [succeeds.mpr clean] at runs
  exact Option.some.inj (congrArg Outcome.vars (Except.ok.inj runs))

/-- An action that names its variable by a number takes the others down: the node fails with it, and without it
sets what they write. -/
theorem act_numberName_fails :
    (act reach (acting [action "set_variable" [("name", .int 5), ("value", .text "x")],
        action "add_tag" [("tag", .text "hot")], action "update_contact" []]) context none).run (world []).outside
      = (.error (.invalid ⟨Outcome.title, [⟨[.name "variables", .index 5, .name "[key]"], .notText⟩]⟩),
        (world []).outside) ∧
    (act reach (acting [action "add_tag" [("tag", .text "hot")], action "update_contact" []]) context none).run
        (world []).outside
      = (.ok (.setting [("tags", .list [.text "hot"]), ("contact_updated", .bool true)]),
        (world []).outside) := by
  constructor <;> with_unfolding_all rfl

end Sample

end ChatFlow
