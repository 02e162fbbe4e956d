import ChatFlow.Proofs.Interpreter.Beginning
import ChatFlow.Proofs.Interpreter.Transcript
import ChatFlow.Proofs.Turn.Looping
import ChatFlow.Proofs.Turn.Recording

/-!
What a run recalls of its calls.

The variables of a run are kept from turn to turn: the first turn begins with those of the new context, and every
other one with those that were stored by the turn before it. So at any time they are the first ones, overwritten by
all visits of the run, one after another (`Interpreter.Opening.vars_context`). In a log of a service the visits of
the run in which a conversation is are those of its turns since the one that began it (`Interpreter.IsPast`).

For calls this means that the error variable recalls every call of the run that brought no success, and no success
makes it forget one (`Interpreter.error_variable_recalls`).
-/

namespace ChatFlow

open ChatFlow.Flow (Definition)

open Behavior.Fetch (errorVariable storesInto)

namespace Interpreter

/-! ## Turns that are about to be taken -/

/-- A turn that is about to be taken. -/
structure Opening where
  definition : Definition
  context : Context
  reply : Option String
  outside : Outside
  /-- The turn is the first of its run. -/
  isFirst : Bool

/-- The turn by which a message is answered, before it is taken. -/
def opening? (m : Inbound) (w : World) : Option Opening :=
  match beginning m w with
  | (.goes_on c d, u) => some ⟨d, c, some m.message, u.outside, false⟩
  | (.starts d, u) => (Context.create? u.now d m.conversationId m.contact).toOption.map fun c =>
    ⟨d, c.say [.ofUser u.now m.message none], none, u.outside, true⟩
  | _ => none

/-- The turn takes the course. -/
def Opening.Takes (i : Interpreter) (opening : Opening) (course : Turn.Course) : Prop :=
  Turn.Takes i.registry i.maxHops opening.definition opening.context opening.reply opening.outside course

variable {i : Interpreter} {m : Inbound} {w v u : World} {d : Definition} {c : Context} {o : Outcome}
  {opening : Opening} {course : Turn.Course} {log : List Answered} {conv : String}

theorem turned?_eq_opening (i : Interpreter) (m : Inbound) (w : World) :
    i.turned? m w = (opening? m w).map fun opening => (Turn.takeTurn i.registry i.maxHops opening.definition
      opening.context opening.reply opening.outside).1 := by
  rw [turned?_eq, opening?]
  rcases beginning m w with ⟨b, u⟩
  cases b with
  | starts d =>
    dsimp only [turnOf?]
    cases Context.create? u.now d m.conversationId m.contact <;> rfl
  | _ => rfl

/-- The context that a turn leaves has the variables of the one that it began with, overwritten by its visits. -/
theorem Makes.vars (makes : Makes i m w d o c u) (opens : opening? m w = some opening)
    (takes : opening.Takes i course) : c.vars = Turn.assigned opening.context.vars course.visits := by
  have turn := turned?_eq_some_iff.mpr ⟨d, u, makes⟩
  rw [turned?_eq_opening, opens, Option.map_some, (Turn.takeTurn_of_takes takes).1] at turn
  cases turn
  rfl

theorem Makes.opens (makes : Makes i m w d o c u) : ∃ opening, opening? m w = some opening := by
  have turn := turned?_eq_some_iff.mpr ⟨d, u, makes⟩
  rw [turned?_eq_opening] at turn
  obtain ⟨opening, opens, -⟩ := Option.map_eq_some_iff.mp turn
  exact ⟨opening, opens⟩

/-! ## IsPast -/

/-- What was done in a run: the variables that it began with, and the visits of its turns. -/
structure Past where
  first : Entries
  visits : List Turn.Visit

namespace Past

/-- The variables that the run has come to. -/
def vars (past : Past) : Entries :=
  Turn.assigned past.first past.visits

/-- The past with the visits of a turn. -/
def and (past : Past) (visits : List Turn.Visit) : Past :=
  { past with visits := past.visits ++ visits }

theorem vars_and (past : Past) (visits : List Turn.Visit) :
    (past.and visits).vars = Turn.assigned past.vars visits :=
  Turn.assigned_append _ _ _

end Past

/-- The past of the run to which a turn belongs. The first turn of a run has none. -/
def Opening.past (opening : Opening) (before : Past) : Past :=
  if opening.isFirst then ⟨opening.context.vars, []⟩ else before

/-- What the log tells of the run in which a conversation is. -/
inductive IsPast (i : Interpreter) (conv : String) : List Answered → Past → Prop
  | begins : IsPast i conv [] ⟨[], []⟩
  | elsewhere (a : Answered) (log : List Answered) (past : Past) (other : a.message.conversationId ≠ conv)
    (before : IsPast i conv log past) : IsPast i conv (a :: log) past
  | answers (a : Answered) (log : List Answered) (past : Past) (opening : Opening) (course : Turn.Course)
    (mine : a.message.conversationId = conv) (before : IsPast i conv log past)
    (opens : opening? a.message a.world = some opening) (takes : opening.Takes i course) :
    IsPast i conv (a :: log) ((opening.past past).and course.visits)
  /-- No turn is taken. -/
  | excuses (a : Answered) (log : List Answered) (past : Past) (mine : a.message.conversationId = conv)
    (before : IsPast i conv log past) (none : opening? a.message a.world = none) : IsPast i conv (a :: log) past

/-- Every log tells of the run. -/
theorem exists_isPast (i : Interpreter) (conv : String) (log : List Answered) : ∃ past, IsPast i conv log past := by
  induction log with
  | nil => exact ⟨_, .begins⟩
  | cons a log ih =>
    obtain ⟨past, before⟩ := ih
    by_cases mine : a.message.conversationId = conv
    · cases opens : opening? a.message a.world with
      | none => exact ⟨_, .excuses a log past mine before opens⟩
      | some opening =>
        obtain ⟨course, takes⟩ := Turn.exists_takes i.registry i.maxHops opening.definition opening.context
          opening.reply opening.outside
        exact ⟨_, .answers a log past opening course mine before opens takes⟩
    · exact ⟨_, .elsewhere a log past mine before⟩

variable {past : Past}

/-- Every visit of a run was made by executing a node. -/
theorem Opening.isMade_past (opening : Opening) (made : ∀ v ∈ past.visits, v.IsMade i.registry) :
    ∀ v ∈ (opening.past past).visits, v.IsMade i.registry := by
  unfold Opening.past
  split
  · exact fun v none => absurd none List.not_mem_nil
  · exact made

theorem IsPast.isMade (tells : IsPast i conv log past) : ∀ v ∈ past.visits, v.IsMade i.registry := by
  induction tells with
  | begins => exact fun v none => absurd none List.not_mem_nil
  | elsewhere _ _ _ _ _ ih | excuses _ _ _ _ _ _ ih => exact ih
  | answers a log past opening course _ _ _ takes ih =>
    show ∀ v ∈ (opening.past past).visits ++ course.visits, _
    rw [List.forall_mem_append]
    exact ⟨opening.isMade_past ih, Turn.Takes.isMade takes⟩

/-! ## Variables are kept -/

/-- The sessions of the conversation have the variables to which its run has come. -/
def Recalls (s : Store) (conv : String) (past : Past) : Prop :=
  ∀ doc ∈ s.sessionsOf conv, ∃ (c : Context) (n : Int) (writtenAt expiresAt : Moment),
    doc = c.document n writtenAt expiresAt ∧ c.vars = past.vars

theorem resume_of_goes_on (goes_on : beginning m w = (.goes_on c d, u)) :
    (resume m.conversationId).run w = (.ok (some (c, d)), u) := by
  unfold beginning at goes_on
  split at goes_on
  · cases goes_on
  · rename_i resumed
    cases goes_on
    exact resumed
  · split at goes_on <;> cases goes_on

/-- A turn begins with the variables to which its run has come. -/
theorem Opening.vars_context (quiet : w.IsQuiet) (recalls : Recalls w.store m.conversationId past)
    (opens : opening? m w = some opening) : opening.context.vars = (opening.past past).vars := by
  unfold opening? at opens
  split at opens
  · rename_i c d u goes_on
    cases opens
    obtain ⟨-, reads, -⟩ := isReadAs_of_resume quiet.isAlone (resume_of_goes_on goes_on)
    obtain ⟨doc, stored, -⟩ := reads.isLoadedFrom
    obtain ⟨c₁, n, s, t, rfl, kept⟩ := recalls doc
      (List.mem_filter.mpr ⟨List.mem_of_find?_eq_some stored, Store.holdsAll_of_session? stored⟩)
    rw [reads.eq_kept stored]
    exact kept
  · obtain ⟨c, -, rfl⟩ := Option.map_eq_some_iff.mp opens
    rfl
  · cases opens

/-- An answer to the conversation leaves its session with the variables to which the run has come. -/
theorem Recalls.process {last : Answers} (served : IsServed i w last)
    (recalls : Recalls w.store m.conversationId past) (opens : opening? m w = some opening)
    (takes : opening.Takes i course) :
    Recalls (i.process m w).2.store m.conversationId ((opening.past past).and course.visits) := by
  intro doc here
  obtain ⟨here, mine⟩ := List.mem_filter.mp here
  cases served.remains m here with
  | old was other => cases mine.symm.trans other
  | new d c u n e makes waits belongs positive timely document =>
    refine ⟨c, n, u.now, e, document, ?_⟩
    rw [Past.vars_and, makes.vars opens takes, opening.vars_context served.quiet recalls opens]

/-- An answer without a turn leaves no session of its conversation. -/
theorem sessionsOf_of_no_opening {last : Answers} (served : IsServed i w last) (none : opening? m w = none) :
    (i.process m w).2.store.sessionsOf m.conversationId = [] := by
  rw [List.eq_nil_iff_forall_not_mem]
  intro doc here
  obtain ⟨here, mine⟩ := List.mem_filter.mp here
  cases served.remains m here with
  | old was other => cases mine.symm.trans other
  | new d c u n e makes waits belongs positive timely document =>
    obtain ⟨opening, opens⟩ := makes.opens
    cases none.symm.trans opens

/-- In every world of a service the session of a conversation has the variables to which its run has come. -/
theorem Logs.recalls (logs : Logs i w log) (tells : IsPast i conv log past) : Recalls w.store conv past := by
  induction logs generalizing past with
  | begins w quiet empty =>
    intro doc here
    rw [Store.sessionsOf, empty] at here
    cases here
  | passes w v log _ quiet sessions ih =>
    exact fun doc here => ih tells doc ((sessions.filter _).mem here)
  | answers w log m before ih =>
    have served := before.serves.isServed
    cases tells with
    | elsewhere _ _ _ other earlier =>
      rw [Recalls, sessionsOf_process_of_ne served.quiet (Ne.symm other)]
      exact ih earlier
    | answers _ _ past opening course mine earlier opens takes =>
      cases mine
      exact (ih earlier).process served opens takes
    | excuses _ _ _ mine earlier none =>
      cases mine
      intro doc here
      rw [sessionsOf_of_no_opening served none] at here
      cases here

/-! ## Errors are recalled -/

variable {s : Services} {maxHops : Nat} {hours : Int} {name : String} {before : List Turn.Visit}

/-- The visits of the run up to some of a turn. -/
def Opening.soFar (opening : Opening) (past : Past) (before : List Turn.Visit) : List Turn.Visit :=
  (opening.past past).visits ++ before

/-- The variables after some visits of a turn are those that the run began with, overwritten by all its visits. -/
theorem Opening.vars_after (logs : Logs i w log) (tells : IsPast i m.conversationId log past)
    (opens : opening? m w = some opening) (heard : List Message) (before : List Turn.Visit) (place : String) :
    (Turn.after opening.context heard before place).vars
      = Turn.assigned (opening.past past).first (opening.soFar past before) := by
  show Turn.assigned opening.context.vars before = _
  rw [opening.vars_context logs.serves.isServed.quiet (logs.recalls tells) opens, Past.vars,
    ← Turn.assigned_append, Opening.soFar]

/-- Let a turn of a run make visits, let no node but the calls that store into a variable write its error variable,
and let the run have begun without a value of it. Then after the visits the error variable has a value exactly if
one of those calls brought no success, at any time in the run: the reason of the last that did not. -/
theorem error_variable_recalls (logs : Logs (standard s maxHops hours) w log)
    (tells : IsPast (standard s maxHops hours) m.conversationId log past) (opens : opening? m w = some opening)
    (takes : opening.Takes (standard s maxHops hours) course) (made : before <+: course.visits)
    (unset : ((opening.past past).first.getD (errorVariable name)).isPresent = false)
    (own : ∀ v ∈ opening.soFar past before, v.isCall name = false → v.vars.lookup (errorVariable name) = none)
    (heard : List Message) (place : String) :
    (((Turn.after opening.context heard before place).vars.getD (errorVariable name)).isPresent = true ↔
      ∃ v ∈ opening.soFar past before, v.FailsCall name) ∧
    ∀ reason, Turn.lastReason? name (opening.soFar past before) = some reason →
      (Turn.after opening.context heard before place).vars.lookup (errorVariable name) = some (.text reason) := by
  have records : ∀ v ∈ opening.soFar past before, v.isCall name = true → v.RecordsReason name := by
    intro v here
    rcases List.mem_append.mp here with earlier | now
    · exact Turn.Visit.IsMade.recordsReason (opening.isMade_past tells.isMade v earlier)
    · exact Turn.Visit.IsMade.recordsReason (Turn.Takes.isMade takes v (made.mem now))
  have known := Turn.lookup_assigned (opening.past past).first records own
  rw [← opening.vars_after logs tells opens heard before place] at known
  rw [← Turn.lastReason?_isSome_iff, Entries.getD, known]
  constructor
  · cases last : Turn.lastReason? name (opening.soFar past before) with
    | none => exact iff_of_false (Bool.eq_false_iff.mp unset) Bool.false_ne_true
    | some reason =>
      refine iff_of_true ?_ rfl
      show (!reason.isEmpty) = true
      rw [Turn.lastReason?_isEmpty records last]
      rfl
  · rintro reason last
    rw [last]
    rfl

end Interpreter

/-! ## Asking for an order again -/

namespace Sample

open Interpreter

/-- Asks for the order twice. -/
def insisting : Definition :=
  ⟨flow, { version with
    nodes := [ordering "https://api.test/orders", { ordering "https://api.test/orders" with id := "retry" }]
    edges := [⟨"e1", "fetch", "retry", none, none, []⟩] }⟩

/-- Asks for the order, asks whether to try again, and does so. -/
def patient : Definition :=
  ⟨flow, { version with
    nodes := [ordering "https://api.test/orders", ⟨"ask", "question", [("content", .text "Again?")], []⟩]
    edges := [⟨"e1", "fetch", "ask", none, none, []⟩, ⟨"e2", "ask", "fetch", none, none, []⟩] }⟩

/-- Sets the error variable, and then asks for the order. -/
def presetting : Definition :=
  ⟨flow, { version with
    nodes := [⟨"set", "set_variable",
        [("variable", .dict [("name", .text "order_error"), ("value", .text "none")])], []⟩,
      ordering "https://api.test/orders"]
    edges := [⟨"e1", "set", "fetch", none, none, []⟩] }⟩

/-- Has a first value of the error variable, and asks for the order. -/
def declaring : Definition :=
  ⟨flow, { version with
    nodes := [ordering "https://api.test/orders"]
    edges := []
    vars := [⟨"order_error", .text "none", []⟩] }⟩

/-- The world of a bot that executes the definition, with what comes of its calls. -/
def calling (answers : List HttpAnswer) (d : Definition) : World :=
  { world [] with
    outside := ⟨noon, answers, [], [], []⟩
    cache := [("greeting:current", d), ("greeting:v1", d)] }

/-- The first call is refused, and the second is answered. -/
def refusedOnce : List HttpAnswer := [.failure (.foreign "ConnectError" "refused"), .response 200 "7"]

/-- What a turn tells: which nodes it executes and which of them ask for the order, whether all went well, and
whether the error variable of the order then has the text. -/
def told (text : String) (opening : Opening) : List (String × Bool) × Bool × Bool :=
  let turn := Turn.takeTurn (.standard services) 50 opening.definition opening.context opening.reply
    opening.outside
  ((Turn.executions (.standard services) opening.definition 50 opening.reply (.start opening.context)
      opening.outside).map (fun p => (p.1.id, storesInto "order" p.1)),
    turn.1.1.success, turn.1.2.vars.holds (errorVariable "order") (.text text))

theorem exists_course_of_told {m : Inbound} {w : World} {text : String} {nodes : List (String × Bool)}
    {success : Bool} (tells : (opening? m w).map (told text) = some (nodes, success, true)) :
    ∃ opening course, opening? m w = some opening ∧ opening.Takes (interpreter 24) course ∧
      course.visits.map (fun v => (v.node.id, v.isCall "order")) = nodes ∧ course.outcome.success = success ∧
      ∀ heard place, (Turn.after opening.context heard course.visits place).vars.lookup (errorVariable "order")
        = some (.text text) := by
  obtain ⟨opening, opens, tells⟩ := Option.map_eq_some_iff.mp tells
  obtain ⟨course, takes, -, -, executed, turn⟩ := Turn.takeTurn_takes (.standard services) 50 opening.definition
    opening.context opening.reply opening.outside
  unfold told at tells
  rw [executed, turn, Prod.mk.injEq, Prod.mk.injEq] at tells
  obtain ⟨visited, succeeds, holds⟩ := tells
  have same := congrArg (List.map fun node => (node.id, storesInto "order" node))
    (Turn.map_fst_handedTo opening.reply course.visits)
  rw [List.map_map, List.map_map] at same
  exact ⟨opening, course, opens, takes, same.symm.trans visited, succeeds,
    fun _ _ => Entries.holds_text_iff.mp holds⟩

/-- The first call of a run was refused and the second answered, and the variable still has the reason. -/
theorem error_variable_recalls_refused :
    ∃ opening course, opening? (message "hello") (calling refusedOnce insisting) = some opening ∧
      opening.Takes (interpreter 24) course ∧
      course.visits.map (fun v => (v.node.id, v.isCall "order")) = [("fetch", true), ("retry", true)] ∧
      ∃ v ∈ opening.soFar ⟨[], []⟩ course.visits, v.FailsCall "order" := by
  obtain ⟨opening, course, opens, takes, nodes, -, holds⟩ := @exists_course_of_told (message "hello")
    (calling refusedOnce insisting) "refused" [("fetch", true), ("retry", true)] false (by decide +kernel)
  -- The run begins without variables, and all its visits are calls.
  have begins : (opening? (message "hello") (calling refusedOnce insisting)).map (fun opening =>
      (opening.past ⟨[], []⟩).first.isEmpty && (opening.past ⟨[], []⟩).visits.isEmpty) = some true := by
    decide +kernel
  rw [opens, Option.map_some, Option.some.injEq, Bool.and_eq_true, List.isEmpty_iff, List.isEmpty_iff] at begins
  have calls : ∀ v ∈ opening.soFar ⟨[], []⟩ course.visits, v.isCall "order" = true := by
    intro v here
    rw [Opening.soFar, begins.2, List.nil_append] at here
    have listed := List.mem_map_of_mem (f := fun v : Turn.Visit => (v.node.id, v.isCall "order")) here
    have all : ∀ p ∈ [("fetch", true), ("retry", true)], p.2 = true := by decide
    exact all _ (nodes ▸ listed)
  obtain ⟨present, -⟩ := @error_variable_recalls _ _ _ _ _ _ services 50 24 "order" _
    (.begins (calling refusedOnce insisting) rfl rfl) .begins opens takes List.prefix_rfl (by rw [begins.1]; rfl)
    (fun v here other => absurd ((calls v here).symm.trans other) nofun) [] course.place
  refine ⟨opening, course, opens, takes, nodes, present.mp ?_⟩
  rw [Entries.getD, holds [] course.place]
  rfl

/-- The bot after the first of its calls was refused. -/
def refused : World := ((interpreter 24).process (message "hello") (calling refusedOnce patient)).2

/-- A call that succeeds in a later turn leaves the reason where it is. Without a call that brought no success,
the variable has a value if another node sets it or the flow declares one. -/
theorem error_variable_outlasts_success :
    (∃ opening course, opening? (message "again") refused = some opening ∧
      opening.Takes (interpreter 24) course ∧
      course.visits.map (fun v => (v.node.id, v.isCall "order"))
        = [("ask", false), ("fetch", true), ("ask", false)] ∧
      course.visits.all Turn.Visit.succeeds = true ∧ ∀ heard place,
        (Turn.after opening.context heard course.visits place).vars.lookup (errorVariable "order")
          = some (.text "refused")) ∧
      (opening? (message "hello") (calling [.response 200 "7"] presetting)).map (told "none")
        = some ([("set", false), ("fetch", true)], true, true) ∧
      (opening? (message "hello") (calling [.response 200 "7"] declaring)).map (told "none")
        = some ([("fetch", true)], true, true) := by
  refine ⟨?_, by decide +kernel, by decide +kernel⟩
  obtain ⟨opening, course, opens, takes, nodes, success, holds⟩ := @exists_course_of_told (message "again") refused
    "refused" [("ask", false), ("fetch", true), ("ask", false)] true (by decide +kernel)
  rw [Turn.Course.outcome, Bool.and_eq_true] at success
  exact ⟨opening, course, opens, takes, nodes, success.1, holds⟩

end Sample

end ChatFlow
