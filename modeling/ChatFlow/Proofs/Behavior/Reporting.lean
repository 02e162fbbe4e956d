import ChatFlow.Proofs.Behavior.Acting
import ChatFlow.Proofs.Behavior.Calling
import ChatFlow.Proofs.Store.Sessions
import ChatFlow.Proofs.Turn.Building
import Mathlib.Data.List.Induction

/-!
What the variables of an action node report.

Some actions write variables that tell what they did (`Act.reports`): that a lead was created, and its id, that a
webhook was told, and that an email was queued. Unless a `set_variable` action takes one of these names
(`Act.Feigns`), what they say can be read off the steps of the run (`Act.IsReport`, `Behavior.act_reports`). A lead
counts as created as soon as an answer holds an id, and null is one, with the text `None`; a webhook counts as told
also where it has no address, and then no request is made.
-/

namespace ChatFlow

open ChatFlow.Flow (Node Action)

namespace Entries

variable {α : Type} {name : String}

theorem update_append (es ws more : Entries) : update es (ws ++ more) = update (update es ws) more :=
  List.foldl_append

/-- What is written goes before what was there. -/
theorem lookup_update (es ws : Entries) (name : String) :
    (update es ws).lookup name = ((update [] ws).lookup name).or (es.lookup name) := by
  induction ws using List.reverseRecOn with
  | nil => rfl
  | append_singleton ws w ih =>
    obtain ⟨key, value⟩ := w
    rw [update_append, update_append [] ws]
    show (insert key value (update es ws)).lookup name = ((insert key value (update [] ws)).lookup name).or _
    by_cases here : name = key
    · simp [here]
    · rw [lookup_insert_of_ne here, lookup_insert_of_ne here, ih]

theorem lookup_update_flatMap_eq_none (f : α → Entries) (as : List α) :
    (update [] (as.flatMap f)).lookup name = none ↔ ∀ a ∈ as, (update [] (f a)).lookup name = none := by
  induction as with
  | nil => simp [update]
  | cons a rest ih =>
    rw [List.flatMap_cons, update_append, lookup_update, Option.or_eq_none_iff, ih, List.forall_mem_cons, and_comm]

/-- Of several that write, the last one that writes under a name counts. -/
theorem lookup_update_flatMap_eq_some (f : α → Entries) (as : List α) {v : Value} :
    (update [] (as.flatMap f)).lookup name = some v ↔
      ∃ before a after, as = before ++ a :: after ∧ (update [] (f a)).lookup name = some v ∧
        ∀ b ∈ after, (update [] (f b)).lookup name = none := by
  induction as with
  | nil => simp [update]
  | cons a rest ih =>
    rw [List.flatMap_cons, update_append, lookup_update, Option.or_eq_some_iff, ih, lookup_update_flatMap_eq_none]
    constructor
    · rintro (⟨before, b, after, rfl, found, last⟩ | ⟨last, found⟩)
      · exact ⟨a :: before, b, after, rfl, found, last⟩
      · exact ⟨[], a, rest, rfl, found, last⟩
    · rintro ⟨before, b, after, same, found, last⟩
      cases before with
      | nil =>
        cases same
        exact .inr ⟨last, found⟩
      | cons c before =>
        cases same
        exact .inl ⟨before, b, after, rfl, found, last⟩

end Entries

namespace LeadService

/-- An answer holds this id: under `id`, or else under `id` of its lead. -/
inductive HoldsId : Value → Value → Prop
  | own {es : Entries} {id : Value} (held : es.lookup "id" = some id) : HoldsId (.dict es) id
  | ofLead {es lead : Entries} {id : Value} (none : es.lookup "id" = none)
    (inner : es.lookup "lead" = some (.dict lead)) (held : lead.lookup "id" = some id) : HoldsId (.dict es) id

theorem idOf?_eq_some_iff {answer id : Value} : idOf? answer = some id ↔ HoldsId answer id := by
  constructor
  · intro found
    unfold idOf? at found
    split at found
    · split at found
      · cases found
        exact .own ‹_›
      · split at found
        · exact .ofLead ‹_› ‹_› found
        · cases found
    · cases found
  · intro holds
    cases holds with
    | own held => simp [idOf?, held]
    | ofLead none inner held => simp [idOf?, none, inner, held]

/-- The request for a lead is made, and there is an answer of status 200 or 201 that holds an id with this text. -/
def Gets (s : LeadService) (l : Lead) (o : Outside) (id : Value) (text : String) : Prop :=
  s.baseUrl.isEmpty = false ∧ (∃ email, l.email.display? = .ok email) ∧
    ∃ status body answer, (o.send (s.request l)).1 = .response status body ∧ (status = 200 ∨ status = 201) ∧
      Json.parse body = .ok answer ∧ HoldsId answer id ∧ id.display? = .ok text

theorem readAnswer?_eq_some_iff {status : Int} {body text : String} :
    readAnswer? status body = some text ↔ (status = 200 ∨ status = 201) ∧
      ∃ answer id, Json.parse body = .ok answer ∧ HoldsId answer id ∧ id.display? = .ok text := by
  unfold readAnswer?
  simp only [Bool.or_eq_true, beq_iff_eq]
  split
  · rename_i success
    cases Json.parse body with
    | error e => simp [success]
    | ok answer =>
      have shown : ∀ id : Value, id.display?.toOption = some text ↔ id.display? = .ok text := by
        intro id
        cases id.display? <;> simp [Except.toOption]
      simp [success, Option.bind_eq_some_iff, idOf?_eq_some_iff, shown]
  · rename_i failure
    simp [failure]

theorem create_eq_some_iff {s : LeadService} {l : Lead} {o : Outside} {text : String} :
    (s.create l o).1 = some text ↔ ∃ id, s.Gets l o id text := by
  have exchanged : ((s.exchange l).run o).1 = .ok (some text) ↔ (∃ email, l.email.display? = .ok email) ∧
      ∃ status body, (o.send (s.request l)).1 = .response status body ∧ readAnswer? status body = some text := by
    rw [exchange, Service.run_ofExcept_bind]
    cases l.email.display? with
    | error f => simp
    | ok email =>
      dsimp only
      rw [Service.run_bind, Service.run_send]
      rcases o.send (s.request l) with ⟨⟨status, body⟩ | cause, left⟩
      · show Except.ok (readAnswer? status body) = .ok (some text) ↔ _
        simp
      · simp
  have created : (s.create l o).1 = some text ↔
      s.baseUrl.isEmpty = false ∧ ((s.exchange l).run o).1 = .ok (some text) := by
    unfold create
    cases s.baseUrl.isEmpty with
    | true =>
      show none = some text ↔ _
      simp
    | false =>
      rw [if_neg Bool.false_ne_true, StateM.bind_apply]
      rcases (s.exchange l).run o with ⟨f | none | id, left⟩
      · show none = some text ↔ _
        simp
      · show none = some text ↔ _
        simp
      · show some id = some text ↔ _
        simp
  simp only [created, exchanged, readAnswer?_eq_some_iff, Gets]
  constructor
  · rintro ⟨url, email, status, body, answered, success, answer, id, parsed, holds, shown⟩
    exact ⟨id, url, email, status, body, answer, answered, success, parsed, holds, shown⟩
  · rintro ⟨id, url, email, status, body, answer, answered, success, parsed, holds, shown⟩
    exact ⟨url, email, status, body, answered, success, answer, id, parsed, holds, shown⟩

end LeadService

namespace Behavior

namespace Act

variable {reach : Reach} {context : Context} {a : Action} {s : Step} {name : String} {v : Value}

/-! ## What a step reports -/

/-- The variables that tell that a lead was created, that a webhook was told and that an email was queued. -/
def reports : List String :=
  Kind.createLead.names ++ Kind.triggerWebhook.names ++ Kind.sendEmail.names

/-- The entry is a `set_variable` action that takes the name of such a variable. -/
def Feigns (v : Value) : Prop :=
  ∃ a name, Action.read v = .valid a ∧ a.kind = Kind.setVariable.word ∧ name ∈ reports ∧
    a.setting "name" = .text name

/-- The entry is an action that tells a webhook, and has no address. -/
def LacksAddress (v : Value) : Prop :=
  ∃ a, Action.read v = .valid a ∧ a.kind = Kind.triggerWebhook.word ∧ (a.setting "url").isPresent = false

/-- The entry is an action that queues an email: there is a recipient, and all that is shown of it has a text. -/
def QueuesEmail (context : Context) (v : Value) : Prop :=
  ∃ a, Action.read v = .valid a ∧ a.kind = Kind.sendEmail.word ∧ (recipient context a).isPresent = true ∧
    ∃ subject address template, Template.fillValue? context.scope (a.setting "subject") = .ok subject ∧
      (recipient context a).display? = .ok address ∧ (a.setting "template").display? = .ok template

namespace Step

/-- What the step writes under a name. -/
def value? (s : Step) (name : String) : Option Value :=
  (Entries.update [] (varsOf s.written)).lookup name

/-- The step gets a lead: the service answers with an id, whose text is not empty. -/
def GetsLead (reach : Reach) (context : Context) (s : Step) (id : Value) (text : String) : Prop :=
  ∃ a, Action.read s.entry = .valid a ∧ a.kind = Kind.createLead.word ∧
    reach.leads.Gets (leadOf context a) s.met id text ∧ text.isEmpty = false

/-- The step tells a webhook at an address: the call is made, and there is a response. -/
def Notifies (reach : Reach) (context : Context) (s : Step) (call : HttpCall) : Prop :=
  ∃ a, Action.read s.entry = .valid a ∧ a.kind = Kind.triggerWebhook.word ∧ (a.setting "url").isPresent = true ∧
    webhookCall? s.met.now reach.webhookTimeout context a = .ok call ∧
    ∃ status body shown, (s.met.send call).1 = .response status body ∧ (a.setting "url").display? = .ok shown

end Step

theorem run_notify_eq_ok_iff {timeout : Quantity} {o : Outside} :
    ((notify timeout context a).run o).1 = .ok () ↔
      (a.setting "url").isPresent = false ∨
      (a.setting "url").isPresent = true ∧ ∃ call, webhookCall? o.now timeout context a = .ok call ∧
        ∃ status body shown, (o.send call).1 = .response status body ∧ (a.setting "url").display? = .ok shown := by
  unfold notify
  cases (a.setting "url").isPresent with
  | false => exact iff_of_true rfl (.inl rfl)
  | true =>
    have clock : (Service.now).run o = (.ok o.now, o) := rfl
    rw [if_pos rfl, Service.run_bind, clock]
    dsimp only
    rw [Service.run_ofExcept_bind]
    cases webhookCall? o.now timeout context a with
    | error f => simp
    | ok call =>
      dsimp only
      rw [Service.run_bind, Service.run_send]
      rcases answer : o.send call with ⟨⟨status, body⟩ | cause, left⟩
      · dsimp only
        rw [Service.run_ofExcept_bind]
        cases (a.setting "url").display? with
        | error f => simp
        | ok shown =>
          refine iff_of_true ?_ (.inr ⟨rfl, call, rfl, status, body, shown, congrArg Prod.fst answer, rfl⟩)
          cases isSuccessStatus status <;> rfl
      · simp [answer]

theorem run_queue_eq_true_iff {o : Outside} :
    ((queue context a).run o).1 = .ok true ↔ (recipient context a).isPresent = true ∧
      ∃ subject address template, Template.fillValue? context.scope (a.setting "subject") = .ok subject ∧
        (recipient context a).display? = .ok address ∧ (a.setting "template").display? = .ok template := by
  unfold queue
  cases (recipient context a).isPresent with
  | false => exact iff_of_false nofun nofun
  | true =>
    show ((Service.ofExcept _ >>= fun _ => Service.ofExcept _ >>= fun _ => Service.ofExcept _ >>= fun _ =>
      (pure true : Service Bool)).run o).1 = .ok true ↔ _
    rw [Service.run_ofExcept_bind]
    cases Template.fillValue? context.scope (a.setting "subject") with
    | error f => simp
    | ok subject =>
      dsimp only
      rw [Service.run_ofExcept_bind]
      cases (recipient context a).display? with
      | error f => simp
      | ok address =>
        dsimp only
        rw [Service.run_ofExcept_bind]
        cases (a.setting "template").display? with
        | error f => simp
        | ok template => exact iff_of_true rfl ⟨rfl, subject, address, template, rfl, rfl, rfl⟩

/-! ## From what is written to what is reported -/

theorem Kind.eq_of_mem_names {kind other : Kind} (mine : name ∈ kind.names) (its : name ∈ other.names) :
    kind = other := by
  cases kind <;> cases other <;> simp_all [Kind.names]

theorem Step.value?_eq_none (unwritten : ∀ w ∈ s.written, w.1 ≠ .text name) : s.value? name = none := by
  refine Entries.lookup_update_of_notMem _ fun listed => ?_
  obtain ⟨⟨key, value⟩, isVar, rfl⟩ := List.mem_map.mp listed
  obtain ⟨⟨key', value'⟩, written, same⟩ := List.mem_filterMap.mp isVar
  refine unwritten _ written ?_
  cases key' <;> cases same
  rfl

namespace Step.IsTaken

/-- A step whose entry is an action writes what the action writes, or nothing if it fails. -/
theorem written_eq (taken : s.IsTaken reach context) (read : Action.read s.entry = .valid a) :
    s.written = ((writes reach context s.seen a).run s.met).1.toOption.getD [] := by
  cases taken with
  | unread unfit =>
    rw [unfit] at read
    cases read
  | failed read' fails =>
    cases read'.symm.trans read
    rw [fails]
    rfl
  | done read' gives =>
    cases read'.symm.trans read
    rw [gives]
    rfl

/-- What the actions of one sort write, no step writes whose entry is of another sort. -/
theorem value?_eq_none {kind : Kind} (taken : s.IsTaken reach context) (honest : ¬ Feigns s.entry)
    (report : name ∈ reports) (ofKind : name ∈ kind.names)
    (other : ¬ ∃ a, Action.read s.entry = .valid a ∧ a.kind = kind.word) : s.value? name = none := by
  refine Step.value?_eq_none fun w written key => ?_
  cases taken with
  | unread | failed => cases written
  | @done _ a _ _ _ ws read gives =>
    by_cases sort : a.kind = Kind.setVariable.word
    · rw [run_writes_of_setVariable sort] at gives
      rcases namedWrites?_eq_ok_iff.mp (congrArg Prod.fst gives) with ⟨-, rfl⟩ | ⟨-, -, -, text, -, -, rfl⟩
      · cases written
      · cases List.mem_singleton.mp written
        exact honest ⟨a, name, read, sort, report, key⟩
    · obtain ⟨kind', name', sort', listed, same⟩ := gives_names sort _ _ _ gives w written
      cases same.symm.trans key
      cases Kind.eq_of_mem_names ofKind listed
      exact other ⟨a, read, sort'⟩

/-- For what a step writes under a variable of a sort of action, only the actions of that sort matter. -/
theorem value?_eq_some_iff (kind : Kind) {P : Prop} (taken : s.IsTaken reach context) (honest : ¬ Feigns s.entry)
    (report : name ∈ reports) (ofKind : name ∈ kind.names)
    (needs : P → ∃ a, Action.read s.entry = .valid a ∧ a.kind = kind.word)
    (ofSort : ∀ a, Action.read s.entry = .valid a → a.kind = kind.word → (s.value? name = some v ↔ P)) :
    s.value? name = some v ↔ P := by
  by_cases has : ∃ a, Action.read s.entry = .valid a ∧ a.kind = kind.word
  · obtain ⟨a, read, sort⟩ := has
    exact ofSort a read sort
  · rw [taken.value?_eq_none honest report ofKind has]
    exact iff_of_false nofun fun holds => has (needs holds)

/-! ### Leads -/

/-- The text of the id that a lead gets, if it is not empty. -/
def leadText? (reach : Reach) (context : Context) (a : Action) (met : Outside) : Option String :=
  (reach.leads.create (leadOf context a) met).1.filter (!·.isEmpty)

theorem exists_getsLead_iff {text : String} (read : Action.read s.entry = .valid a)
    (sort : a.kind = Kind.createLead.word) :
    (∃ id, s.GetsLead reach context id text) ↔ leadText? reach context a s.met = some text := by
  simp [Step.GetsLead, read, sort, leadText?, Option.filter_eq_some_iff, LeadService.create_eq_some_iff]

theorem lookup_leadWrites (id : Option String) :
    (Entries.update [] (varsOf (leadWrites id))).lookup "lead_created"
        = (id.filter (!·.isEmpty)).map (fun _ => .bool true) ∧
      (Entries.update [] (varsOf (leadWrites id))).lookup "lead_id" = (id.filter (!·.isEmpty)).map .text := by
  cases id with
  | none => exact ⟨rfl, rfl⟩
  | some text =>
    rw [leadWrites, Option.filter_some]
    cases text.isEmpty <;> exact ⟨rfl, rfl⟩

/-- A step that creates a lead writes the text of its id, and that there is one. -/
theorem value?_of_createLead (taken : s.IsTaken reach context) (read : Action.read s.entry = .valid a)
    (sort : a.kind = Kind.createLead.word) :
    s.value? "lead_created" = (leadText? reach context a s.met).map (fun _ => .bool true) ∧
      s.value? "lead_id" = (leadText? reach context a s.met).map .text := by
  have written : s.written = leadWrites (reach.leads.create (leadOf context a) s.met).1 := by
    rw [taken.written_eq read, writes, Kind.ofWord?_eq_some_iff.mpr sort]
    rfl
  rw [Step.value?, Step.value?, written]
  exact lookup_leadWrites _

theorem value?_leadCreated (taken : s.IsTaken reach context) (honest : ¬ Feigns s.entry) :
    s.value? "lead_created" = some v ↔ v = .bool true ∧ ∃ id text, s.GetsLead reach context id text := by
  refine taken.value?_eq_some_iff .createLead honest (by decide) (by decide) ?_ fun a read sort => ?_
  · rintro ⟨-, id, text, a, read, sort, -⟩
    exact ⟨a, read, sort⟩
  · rw [(taken.value?_of_createLead read sort).1, exists_comm, Option.map_eq_some_iff]
    simp [exists_getsLead_iff read sort, eq_comm, and_comm]

theorem value?_leadId (taken : s.IsTaken reach context) (honest : ¬ Feigns s.entry) :
    s.value? "lead_id" = some v ↔ ∃ id text, s.GetsLead reach context id text ∧ v = .text text := by
  refine taken.value?_eq_some_iff .createLead honest (by decide) (by decide) ?_ fun a read sort => ?_
  · rintro ⟨id, text, ⟨a, read, sort, -⟩, -⟩
    exact ⟨a, read, sort⟩
  · rw [(taken.value?_of_createLead read sort).2, exists_comm, Option.map_eq_some_iff]
    simp [exists_getsLead_iff read sort, eq_comm]

/-! ### Webhooks and emails -/

theorem value?_webhookTriggered (taken : s.IsTaken reach context) (honest : ¬ Feigns s.entry) :
    s.value? "webhook_triggered" = some v ↔
      v = .bool true ∧ (LacksAddress s.entry ∨ ∃ call, s.Notifies reach context call) := by
  refine taken.value?_eq_some_iff .triggerWebhook honest (by decide) (by decide) ?_ fun a read sort => ?_
  · rintro ⟨-, ⟨a, read, sort, -⟩ | ⟨call, a, read, sort, -⟩⟩ <;> exact ⟨a, read, sort⟩
  have told : (LacksAddress s.entry ∨ ∃ call, s.Notifies reach context call) ↔
      ((notify reach.webhookTimeout context a).run s.met).1 = .ok () := by
    rw [run_notify_eq_ok_iff]
    simp [LacksAddress, Step.Notifies, read, sort]
  rw [told, Step.value?, taken.written_eq read, writes, Kind.ofWord?_eq_some_iff.mpr sort]
  dsimp only
  rw [Service.run_bind]
  rcases (notify reach.webhookTimeout context a).run s.met with ⟨f | ⟨⟩, left⟩
  · show none = some v ↔ _
    simp
  · show some (.bool true) = some v ↔ _
    simp [eq_comm]

theorem value?_emailSent (taken : s.IsTaken reach context) (honest : ¬ Feigns s.entry) :
    s.value? "email_sent" = some v ↔ v = .bool true ∧ QueuesEmail context s.entry := by
  refine taken.value?_eq_some_iff .sendEmail honest (by decide) (by decide) ?_ fun a read sort => ?_
  · rintro ⟨-, a, read, sort, -⟩
    exact ⟨a, read, sort⟩
  have queued : QueuesEmail context s.entry ↔ ((queue context a).run s.met).1 = .ok true := by
    rw [run_queue_eq_true_iff]
    simp [QueuesEmail, read, sort]
  rw [queued, Step.value?, taken.written_eq read, writes, Kind.ofWord?_eq_some_iff.mpr sort]
  dsimp only
  rw [Service.run_bind]
  rcases (queue context a).run s.met with ⟨f | queued, left⟩
  · show none = some v ↔ _
    simp
  · cases queued with
    | false =>
      show none = some v ↔ _
      simp
    | true =>
      show some (.bool true) = some v ↔ _
      simp [eq_comm]

end Step.IsTaken

/-! ## The whole run -/

theorem varsOf_flatMap (steps : List Step) :
    varsOf (steps.flatMap Step.written) = steps.flatMap fun s => varsOf s.written :=
  List.filterMap_flatMap

/-- The step whose value counts is the last one that writes under the name. -/
theorem lookup_written_eq_some {steps : List Step} :
    (Entries.update [] (varsOf (steps.flatMap Step.written))).lookup name = some v ↔
      ∃ before s after, steps = before ++ s :: after ∧ s.value? name = some v ∧
        ∀ t ∈ after, t.value? name = none := by
  rw [varsOf_flatMap, Entries.lookup_update_flatMap_eq_some]
  rfl

/-- A variable that only ever gets the value true is set if some step sets it. -/
theorem lookup_written_flag {steps : List Step} {P : Step → Prop}
    (flags : ∀ s ∈ steps, ∀ v, s.value? name = some v ↔ v = .bool true ∧ P s) :
    (Entries.update [] (varsOf (steps.flatMap Step.written))).lookup name = some v ↔
      v = .bool true ∧ ∃ s ∈ steps, P s := by
  constructor
  · intro found
    obtain ⟨before, s, after, rfl, here, -⟩ := lookup_written_eq_some.mp found
    have listed : s ∈ before ++ s :: after := List.mem_append_right _ List.mem_cons_self
    obtain ⟨true_, holds⟩ := (flags s listed v).mp here
    exact ⟨true_, s, listed, holds⟩
  · rintro ⟨rfl, s, listed, holds⟩
    rcases found : (Entries.update [] (varsOf (steps.flatMap Step.written))).lookup name with _ | w
    · rw [varsOf_flatMap, Entries.lookup_update_flatMap_eq_none] at found
      have here : s.value? name = some (.bool true) := (flags s listed _).mpr ⟨rfl, holds⟩
      exact absurd (here.symm.trans (found s listed)) nofun
    · obtain ⟨before, t, after, rfl, there, -⟩ := lookup_written_eq_some.mp found
      rw [((flags t (List.mem_append_right _ List.mem_cons_self) w).mp there).1]

theorem IsCourse.isTaken {seen : Entries} {met left : Outside} {steps : List Step}
    (course : IsCourse reach context seen met steps left) (listed : s ∈ steps) : s.IsTaken reach context := by
  induction steps generalizing seen met with
  | nil => cases listed
  | cons first rest ih =>
    obtain ⟨-, -, taken, follows⟩ := course
    rcases List.mem_cons.mp listed with rfl | later
    · exact taken
    · exact ih follows later

/-! ### Requests -/

theorem calls_notify {timeout : Quantity} {o : Outside} {call : HttpCall}
    (address : (a.setting "url").isPresent = true) (built : webhookCall? o.now timeout context a = .ok call) :
    ((notify timeout context a).run o).2.calls = o.calls ++ [.http call] := by
  have sent : (o.send call).2.calls = o.calls ++ [.http call] := by
    obtain ⟨now, answers, completions, calls, log⟩ := o
    cases answers <;> rfl
  have clock : (Service.now).run o = (.ok o.now, o) := rfl
  rw [notify, address, if_pos rfl, Service.run_bind, clock]
  dsimp only
  rw [Service.run_ofExcept_bind, built]
  dsimp only
  rw [Service.run_bind, Service.run_send]
  rcases answer : o.send call with ⟨⟨status, body⟩ | cause, left⟩
  · rw [answer] at sent
    dsimp only
    rw [Service.run_ofExcept_bind]
    cases (a.setting "url").display? with
    | error f => exact sent
    | ok shown => cases isSuccessStatus status <;> exact sent
  · rw [answer] at sent
    exact sent

/-- The journal after an action that tells a webhook. -/
theorem calls_of_notifies {call : HttpCall} (read : Action.read s.entry = .valid a)
    (tells : s.Notifies reach context call) :
    ((writes reach context s.seen a).run s.met).2.calls = s.met.calls ++ [.http call] := by
  obtain ⟨b, read', sort, address, made, -⟩ := tells
  cases read.symm.trans read'
  rw [writes, Kind.ofWord?_eq_some_iff.mpr sort, ← calls_notify address made]
  dsimp only
  rw [Service.run_bind]
  rcases (notify reach.webhookTimeout context a).run s.met with ⟨f | ⟨⟩, left⟩ <;> rfl

/-- An action only adds to the journal. -/
theorem calls_writes (reach : Reach) (context : Context) (seen : Entries) (a : Action) (met : Outside) :
    ∃ more, ((writes reach context seen a).run met).2.calls = met.calls ++ more := by
  have built : (perform reach context a ⟨seen, []⟩).IsBuilt := isBuilt_perform reach context a _
  obtain ⟨more, calls, -⟩ := built.calls_eq met
  refine ⟨more, Eq.trans ?_ calls⟩
  rw [perform_eq]
  show _ = ((writes reach context seen a >>= fun ws => pure _).run met).2.calls
  rw [Service.run_bind]
  rcases (writes reach context seen a).run met with ⟨f | ws, left⟩ <;> rfl

/-- A step only adds to the journal, and a webhook that it tells is in what it adds. -/
theorem Step.IsTaken.calls (taken : s.IsTaken reach context) :
    ∃ more, s.left.calls = s.met.calls ++ more ∧ ∀ call, s.Notifies reach context call → .http call ∈ more := by
  -- Whether the action failed or not, the journal is the one it left.
  have left_calls : ∀ a, Action.read s.entry = .valid a →
      s.left.calls = ((writes reach context s.seen a).run s.met).2.calls := by
    intro a read
    cases taken with
    | unread unfit =>
      rw [unfit] at read
      cases read
    | failed read' fails =>
      cases read'.symm.trans read
      rw [fails]
      rfl
    | done read' gives =>
      cases read'.symm.trans read
      rw [gives]
  cases read : Action.read s.entry with
  | invalid issues =>
    refine ⟨[], ?_, ?_⟩
    · cases taken with
      | unread => exact (List.append_nil _).symm
      | failed read' => cases read.symm.trans read'
      | done read' => cases read.symm.trans read'
    · rintro call ⟨a, read', -⟩
      cases read.symm.trans read'
  | valid a =>
    obtain ⟨more, calls⟩ := calls_writes reach context s.seen a s.met
    refine ⟨more, (left_calls a read).trans calls, fun call tells => ?_⟩
    rw [List.append_cancel_left (calls.symm.trans (calls_of_notifies read tells))]
    exact List.mem_singleton_self _

/-- A run only adds to the journal, and the webhooks that it tells are in what it adds. -/
theorem IsCourse.calls {seen : Entries} {met left : Outside} {steps : List Step}
    (course : IsCourse reach context seen met steps left) :
    ∃ more, left.calls = met.calls ++ more ∧
      ∀ s ∈ steps, ∀ call, s.Notifies reach context call → .http call ∈ more := by
  induction steps generalizing seen met with
  | nil => exact ⟨[], by rw [course, List.append_nil], by simp⟩
  | cons s rest ih =>
    obtain ⟨-, rfl, taken, follows⟩ := course
    obtain ⟨first, calls, told⟩ := taken.calls
    obtain ⟨later, calls', told'⟩ := ih follows
    refine ⟨first ++ later, by rw [calls', calls, List.append_assoc], fun t listed call tells => ?_⟩
    rcases List.mem_cons.mp listed with rfl | after
    · exact List.mem_append_left _ (told call tells)
    · exact List.mem_append_right _ (told' t after call tells)

/-- What the variables of a run say about its steps. -/
structure IsReport (reach : Reach) (context : Context) (steps : List Step) (vars : Entries) : Prop where
  leadCreated : ∀ v, vars.lookup "lead_created" = some v ↔
    v = .bool true ∧ ∃ s ∈ steps, ∃ id text, s.GetsLead reach context id text
  /-- Of several leads, the last one is told. -/
  leadId : ∀ v, vars.lookup "lead_id" = some v ↔
    ∃ before s after id text, steps = before ++ s :: after ∧ s.GetsLead reach context id text ∧ v = .text text ∧
      ∀ t ∈ after, ∀ id text, ¬ t.GetsLead reach context id text
  webhookTriggered : ∀ v, vars.lookup "webhook_triggered" = some v ↔
    v = .bool true ∧ ∃ s ∈ steps, LacksAddress s.entry ∨ ∃ call, s.Notifies reach context call
  emailSent : ∀ v, vars.lookup "email_sent" = some v ↔ v = .bool true ∧ ∃ s ∈ steps, QueuesEmail context s.entry

theorem IsCourse.isReport {seen : Entries} {met left : Outside} {steps : List Step}
    (course : IsCourse reach context seen met steps left) (honest : ∀ s ∈ steps, ¬ Feigns s.entry) :
    IsReport reach context steps (Entries.update [] (varsOf (steps.flatMap Step.written))) where
  leadCreated _ := lookup_written_flag fun s listed _ => (course.isTaken listed).value?_leadCreated (honest s listed)
  webhookTriggered _ := lookup_written_flag fun s listed _ =>
    (course.isTaken listed).value?_webhookTriggered (honest s listed)
  emailSent _ := lookup_written_flag fun s listed _ => (course.isTaken listed).value?_emailSent (honest s listed)
  leadId v := by
    have tells := fun s listed v => @Step.IsTaken.value?_leadId reach context s v (course.isTaken listed) (honest s listed)
    rw [lookup_written_eq_some]
    constructor
    · rintro ⟨before, s, after, rfl, here, last⟩
      obtain ⟨id, text, gets, rfl⟩ := (tells s (by simp) v).mp here
      refine ⟨before, s, after, id, text, rfl, gets, rfl, fun t later id' text' gets' => ?_⟩
      have there := (tells t (by simp [later]) _).mpr ⟨id', text', gets', rfl⟩
      exact absurd ((last t later).symm.trans there) nofun
    · rintro ⟨before, s, after, id, text, rfl, gets, rfl, last⟩
      refine ⟨before, s, after, rfl, (tells s (by simp) _).mpr ⟨id, text, gets, rfl⟩, fun t later => ?_⟩
      rw [Option.eq_none_iff_forall_ne_some]
      intro w there
      obtain ⟨id', text', gets', -⟩ := (tells t (by simp [later]) w).mp there
      exact last t later id' text' gets'

end Act

open Act

/-- Let no action of a node take the name of a variable that tells what another one did. Then the variables tell
what the steps of the run did: that a lead was created, with the last id; that a webhook was told, or had no
address; and that an email was queued. A webhook that is told is called, and an id that is null has the text
`None`. -/
theorem act_reports {node : Node} {vs : List Value} (listed : node.setting "actions" = .list vs)
    (honest : ∀ v ∈ vs, ¬ Feigns v) {reach : Reach} {context : Context} {reply : Option String}
    {outside left : Outside} {o : Outcome} (runs : (act reach node context reply).run outside = (.ok o, left)) :
    ∃ steps vars more, steps.map Step.entry = vs ∧ IsCourse reach context [] outside steps left ∧
      o = .setting vars ∧ IsReport reach context steps vars ∧ left.calls = outside.calls ++ more ∧
      (∀ s ∈ steps, ∀ call, s.Notifies reach context call → .http call ∈ more) ∧
      ∀ s ∈ steps, ∀ text, s.GetsLead reach context .null text → text = "None" := by
  obtain ⟨steps, left', entries, course, runs'⟩ := exists_act_run listed reach context reply outside
  rw [runs', Progress.finish?_record] at runs
  have clean : (steps.flatMap Step.written).all (isTextKey ·.1) = true := by
    by_contra stray
    rw [if_neg stray] at runs
    cases runs
  rw [if_pos clean] at runs
  cases runs
  obtain ⟨more, calls, told⟩ := course.calls
  refine ⟨steps, _, more, entries, course, rfl, course.isReport fun s step => ?_, calls, told, ?_⟩
  · exact honest s.entry (entries ▸ List.mem_map_of_mem step)
  · rintro s - text ⟨a, -, -, ⟨-, -, -, -, -, -, -, -, -, shown⟩, -⟩
    exact (Except.ok.inj shown).symm

end Behavior

/-! ## Leads and webhooks -/

namespace Sample

open Behavior Act

/-- Reaches a lead service. -/
def leadReach : Reach := ⟨⟨"https://leads.test", .whole 1⟩, .whole 1⟩

/-- A node with these actions, where requests get these answers. -/
def actWith (actions : List Value) (answers : List HttpAnswer) : Except Failure Outcome × Outside :=
  (act leadReach (acting actions) context none).run ⟨noon, answers, [], [], []⟩

/-- The variables that it sets. -/
def setBy (actions : List Value) (answers : List HttpAnswer) : Entries :=
  ((actWith actions answers).1.toOption.bind (·.vars)).getD []

/-- Creates a lead, tells a webhook and queues an email. -/
def salesActions : List Value :=
  [action "create_lead" [], action "set_variable" [("name", .text "city"), ("value", .text "Oslo")],
    action "trigger_webhook" [("url", .text "https://hooks.test")],
    action "send_email" [("to", .text "sales@bots.test")]]

def salesAnswers : List HttpAnswer :=
  [.response 201 "\x7b\"lead\":\x7b\"id\":7\x7d\x7d", .response 204 ""]

/-- All three are told, and all three were done; the id of the lead is that of the answer. -/
theorem act_reports_sales :
    (acting salesActions).setting "actions" = .list salesActions ∧ (∀ v ∈ salesActions, ¬ Feigns v) ∧
      ∃ (o : Outcome) (left : Outside) (steps : List Step),
        actWith salesActions salesAnswers = (.ok o, left) ∧ steps.map Step.entry = salesActions ∧
        (∃ s ∈ steps, ∃ id, s.GetsLead leadReach context id "7") ∧
        (∃ s ∈ steps, ∃ call, s.Notifies leadReach context call ∧ .http call ∈ left.calls) ∧
        ∃ s ∈ steps, QueuesEmail context s.entry := by
  have honest : ∀ v ∈ salesActions, ¬ Feigns v := by
    rintro v entry ⟨a, name, read, sort, report, named⟩
    simp only [salesActions, List.mem_cons, List.not_mem_nil, or_false] at entry
    rcases entry with rfl | rfl | rfl | rfl <;> cases read
    · exact absurd sort (by decide)
    · cases named
      exact absurd report (by decide)
    · exact absurd sort (by decide)
    · exact absurd sort (by decide)
  have addressed : ∀ v ∈ salesActions, ¬ LacksAddress v := by
    rintro v entry ⟨a, read, sort, bare⟩
    simp only [salesActions, List.mem_cons, List.not_mem_nil, or_false] at entry
    rcases entry with rfl | rfl | rfl | rfl <;> cases read
    · exact absurd sort (by decide)
    · exact absurd sort (by decide)
    · exact absurd bare (by decide)
    · exact absurd sort (by decide)
  have set : (setBy salesActions salesAnswers).holds "lead_id" (.text "7") = true ∧
      ((setBy salesActions salesAnswers).lookup "webhook_triggered").isSome = true ∧
      ((setBy salesActions salesAnswers).lookup "email_sent").isSome = true := by decide +kernel
  obtain ⟨lead, webhook, email⟩ := set
  rw [Entries.holds_text_iff] at lead
  obtain ⟨hook, webhook⟩ := Option.isSome_iff_exists.mp webhook
  obtain ⟨mail, email⟩ := Option.isSome_iff_exists.mp email
  rcases runs : actWith salesActions salesAnswers with ⟨f | o, left⟩
  · rw [setBy, runs] at lead
    cases lead
  obtain ⟨steps, vars, more, entries, course, rfl, report, calls, told, -⟩ :=
    @act_reports (acting salesActions) salesActions rfl honest _ _ _ _ _ _ runs
  have setVars : setBy salesActions salesAnswers = vars := by rw [setBy, runs]; rfl
  rw [setVars] at lead webhook email
  refine ⟨rfl, honest, _, left, steps, rfl, entries, ?_, ?_, ?_⟩
  · obtain ⟨before, s, after, id, text, rfl, gets, same, -⟩ := (report.leadId _).mp lead
    cases same
    exact ⟨s, by simp, id, gets⟩
  · obtain ⟨-, s, listed, lacks | ⟨call, tells⟩⟩ := (report.webhookTriggered _).mp webhook
    · exact absurd lacks (addressed _ (entries ▸ List.mem_map_of_mem listed))
    · exact ⟨s, listed, call, tells, calls ▸ List.mem_append_right _ (told s listed call tells)⟩
  · exact ((report.emailSent _).mp email).2

/-- An id that is null is told as the id of the lead, also where the lead itself has one; and a webhook without an
address is told without a request. -/
theorem act_reports_undone :
    (setBy [action "create_lead" []] [.response 201 "\x7b\"id\":null\x7d"]).lookup "lead_id"
        = some (.text "None") ∧
      (setBy [action "create_lead" []]
          [.response 201 "\x7b\"id\":null,\"lead\":\x7b\"id\":7\x7d\x7d"]).lookup "lead_id"
        = some (.text "None") ∧
      (actWith [action "trigger_webhook" []] []).1 = .ok (.setting [("webhook_triggered", .bool true)]) ∧
      (actWith [action "trigger_webhook" []] []).2.calls = [] := by
  refine ⟨Entries.holds_text_iff.mp ?_, Entries.holds_text_iff.mp ?_, ?_, ?_⟩
  · decide +kernel
  · decide +kernel
  · with_unfolding_all rfl
  · with_unfolding_all rfl

end Sample

end ChatFlow
