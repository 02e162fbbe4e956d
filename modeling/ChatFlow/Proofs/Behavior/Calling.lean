import ChatFlow.Behavior.Fetch
import ChatFlow.Proofs.Interpreter.Answering
import ChatFlow.Proofs.Template.Filling
import ChatFlow.Proofs.Turn.Standard

/-!
What becomes of calls to other services.

A call is built from the settings of its node and sent, and then there is a response, or a failure
(`Behavior.Fetch.exchanged`). The node tells of it (`Behavior.Fetch.Tells`): it goes on, it is a success exactly if
a response with a status of success came, and otherwise it stores a reason in the error variable. It does so unless
the failure is none of the call's own (`Behavior.Fetch.isHandled`). Settings that do not fit are the call's own; a
place in them that cannot be filled is not (`Behavior.Fetch.isHandled_of_request?`), nor is what a client raises
that has no name among the failures of transport.
-/

namespace ChatFlow

open ChatFlow.Flow (Node Request)

namespace Service

theorem run_send (call : HttpCall) (o : Outside) :
    (send call).run o = match o.send call with
      | (.response status body, left) => (.ok (status, body), left)
      | (.failure cause, left) => (.error cause, left) := by
  have asks : (modifyGet (·.send call) : Service HttpAnswer).run o = (.ok (o.send call).1, (o.send call).2) := rfl
  rw [send, run_bind, asks]
  rcases o.send call with ⟨_ | _, _⟩ <;> rfl

end Service

namespace Behavior

namespace Fetch

variable {timeout : Quantity} {settings scope : Value} {f : Failure} {name : String}

/-! ## Building the request -/

/-- What is no failure of transport and no report is not handled. -/
theorem isHandled_of_isUnfilled (h : Template.IsUnfilled f) : isHandled f = false := by
  cases h <;> rfl

theorem isUnfilled_of_headers? {headers done : Entries} (h : headers?.go scope done headers = .error f) :
    Template.IsUnfilled f := by
  induction headers generalizing done with
  | nil => cases h
  | cons e rest ih =>
    obtain ⟨k, v⟩ := e
    rw [headers?.go] at h
    rcases Template.eq_error_of_bind h with fails | ⟨s, -, h⟩
    · exact Template.isUnfilled_of_display? fails
    rcases Template.eq_error_of_bind h with fails | ⟨text, -, h⟩
    · exact Template.isUnfilled_of_fill? fails
    · exact ih h

theorem isUnfilled_of_body? {body : Option Entries} (h : body? scope body = .error f) :
    Template.IsUnfilled f := by
  unfold body? at h
  split at h
  · exact Template.isUnfilled_of_fillWithin? _ (Template.eq_error_of_map h)
  · cases h

theorem isUnfilled_of_url {url : String} (h : Template.fillValue? scope (.text url) = .error f) :
    Template.IsUnfilled f := by
  unfold Template.fillValue? at h
  split at h
  · cases h
  · exact Template.isUnfilled_of_fill? h

/-- A request that cannot be built is handled exactly if the settings do not fit. -/
theorem isHandled_of_request? (h : request? timeout settings scope = .error f) :
    isHandled f = true ↔ ∃ issues, Request.read settings = .invalid issues := by
  unfold request? at h
  cases read : Request.read settings with
  | invalid issues =>
    rw [read] at h
    cases h
    exact iff_of_true rfl ⟨issues, rfl⟩
  | valid r =>
    rw [read] at h
    have unfilled : Template.IsUnfilled f := by
      rcases Template.eq_error_of_bind h with fails | ⟨_, ⟨⟩, h⟩
      · cases fails
      rcases Template.eq_error_of_bind h with fails | ⟨url, -, h⟩
      · exact isUnfilled_of_url fails
      rcases Template.eq_error_of_bind h with fails | ⟨headers, -, h⟩
      · exact isUnfilled_of_headers? fails
      rcases Template.eq_error_of_bind h with fails | ⟨body, -, h⟩
      · exact isUnfilled_of_body? fails
      · cases h
    rw [isHandled_of_isUnfilled unfilled]
    exact iff_of_false Bool.false_ne_true (by rintro ⟨_, fits⟩; cases fits)

/-! ## The exchange -/

/-- What comes of a call: the status and the body of a response, or a failure. -/
def exchanged (timeout : Quantity) (settings scope : Value) (outside : Outside) : Except Failure (Int × String) :=
  match request? timeout settings scope with
  | .error f => .error f
  | .ok call =>
    match (outside.send call).1 with
    | .response status body => .ok (status, body)
    | .failure cause => .error cause

/-- What a call leaves outside. -/
def sent (timeout : Quantity) (settings scope : Value) (outside : Outside) : Outside :=
  match request? timeout settings scope with
  | .error _ => outside
  | .ok call => (outside.send call).2

theorem exchange_run (outside : Outside) :
    (do Service.send (← Service.ofExcept (request? timeout settings scope)) : Service (Int × String)).run outside
      = (exchanged timeout settings scope outside, sent timeout settings scope outside) := by
  unfold exchanged sent
  rw [Service.run_ofExcept_bind]
  cases request? timeout settings scope with
  | error f => rfl
  | ok call =>
    dsimp only
    rw [Service.run_send]
    rcases outside.send call with ⟨_ | _, _⟩ <;> rfl

/-- What a call comes to, and what it leaves outside. -/
theorem fetch_run {node : Node} (configured : (node.setting "apiConfig").isPresent = true) (c : Context)
    (reply : Option String) (outside : Outside) :
    (fetch timeout node c reply).run outside
      = match exchanged timeout (node.setting "apiConfig") c.scope outside,
          sent timeout (node.setting "apiConfig") c.scope outside with
        | .ok (status, body), left =>
          (.ok (answered (responseVariable (node.setting "apiConfig")) status body),
            if isSuccessStatus status then left else left.note .warning component)
        | .error f, left =>
          if isHandled f then
            (.ok (failed (responseVariable (node.setting "apiConfig")) f.textOrName),
              left.note .error component)
          else (.error f, left) := by
  have exchange := @exchange_run timeout (node.setting "apiConfig") c.scope outside
  unfold fetch
  dsimp only
  rw [configured, Bool.not_true, if_neg Bool.false_ne_true, Service.run_bind, Service.run_attempt, exchange]
  dsimp only
  rcases exchanged timeout (node.setting "apiConfig") c.scope outside with f | ⟨status, body⟩
  · dsimp only
    cases isHandled f <;> rfl
  · dsimp only
    cases isSuccessStatus status <;> rfl

/-- Whatever failure comes of a call is handled, exactly if the settings do not fit or the request can be built,
and what comes instead of a response is a failure of transport. -/
theorem isHandled_of_exchanged {outside : Outside} :
    (∀ f, exchanged timeout settings scope outside = .error f → isHandled f = true) ↔
      (∃ issues, Request.read settings = .invalid issues) ∨
        ∃ call, request? timeout settings scope = .ok call ∧
          ∀ cause, (outside.send call).1 = .failure cause → isHandled cause = true := by
  unfold exchanged
  cases built : request? timeout settings scope with
  | error f =>
    rw [← isHandled_of_request? built]
    constructor
    · exact fun all => .inl (all f rfl)
    · rintro (handled | ⟨_, none, -⟩) _ ⟨⟩
      · exact handled
      · cases none
  | ok call =>
    have fits : ¬ ∃ issues, Request.read settings = .invalid issues := by
      rintro ⟨issues, unfit⟩
      unfold request? at built
      rw [unfit] at built
      cases built
    rw [or_iff_right fits]
    constructor
    · intro all
      refine ⟨call, rfl, fun cause fails => all cause ?_⟩
      dsimp only
      rw [fails]
    · rintro ⟨_, ⟨⟩, all⟩ f fails
      dsimp only at fails
      cases answer : (outside.send call).1 with
      | response status body =>
        rw [answer] at fails
        cases fails
      | failure cause =>
        rw [answer] at fails
        cases fails
        exact all _ answer

/-! ## What the node tells -/

/-- The outcome sets the variable to a reason, a text that is not empty. -/
def Records (o : Outcome) (key : String) : Prop :=
  ∃ vars reason, o.vars = some vars ∧ vars.lookup key = some (.text reason) ∧ reason.isEmpty = false

/-- The outcome tells what came of the call: the flow goes on, it is a success exactly if the response was one,
and otherwise there is a reason in the error variable. -/
structure Tells (name : String) (e : Except Failure (Int × String)) (o : Outcome) : Prop where
  goesOn : o.completed = false
  success : o.success = true ↔ ∃ status body, e = .ok (status, body) ∧ isSuccessStatus status = true
  recorded : o.success = false → Records o (errorVariable name)

theorem errorVariable_ne (name : String) : errorVariable name ≠ name := by
  intro same
  have length := congrArg String.length same
  rw [errorVariable, String.length_append] at length
  exact absurd length (by simp)

/-- The reason of a failure that is handled is not empty. -/
theorem textOrName_isEmpty (handled : isHandled f = true) : f.textOrName.isEmpty = false := by
  unfold Failure.textOrName
  split
  · rename_i empty
    cases f with
    | invalid report => rfl
    | foreign sort message =>
      have known : ∀ sort ∈ transportFailures, sort.isEmpty = false := by decide
      exact known sort (List.contains_iff_mem.mp handled)
    | _ => cases handled
  · rename_i given
    simpa using given

theorem tells_answered (name : String) (status : Int) (body : String) :
    Tells name (.ok (status, body)) (answered name status body) := by
  unfold answered
  cases success : isSuccessStatus status with
  | true => exact ⟨rfl, iff_of_true rfl ⟨status, body, rfl, success⟩, nofun⟩
  | false =>
    refine ⟨rfl, iff_of_false nofun ?_, fun _ =>
      ⟨_, "API call failed with status " ++ toString status, rfl, ?_, ?_⟩⟩
    · rintro ⟨_, _, same, good⟩
      cases same
      exact absurd (success.symm.trans good) Bool.false_ne_true
    · simp [List.lookup_cons, beq_false_of_ne (errorVariable_ne name)]
    · simp

theorem tells_failed (name : String) {error : String} (given : error.isEmpty = false) :
    Tells name (.error f) (failed name error) := by
  refine ⟨rfl, iff_of_false nofun (by rintro ⟨_, _, same, -⟩; cases same), fun _ => ⟨_, error, rfl, ?_, given⟩⟩
  simp

end Fetch

open Fetch

/-- A node with settings for a call tells what came of it exactly if
* the settings do not fit;
* or the request can be built, and if there is no response, then for a failure of transport. -/
theorem fetch_tells_iff {timeout : Quantity} {node : Node}
    (configured : (node.setting "apiConfig").isPresent = true) (c : Context) (reply : Option String)
    (outside : Outside) :
    (∃ o, ((fetch timeout node c reply).run outside).1 = .ok o ∧
      Tells (responseVariable (node.setting "apiConfig"))
        (exchanged timeout (node.setting "apiConfig") c.scope outside) o) ↔
      (∃ issues, Request.read (node.setting "apiConfig") = .invalid issues) ∨
        ∃ call, request? timeout (node.setting "apiConfig") c.scope = .ok call ∧
          ∀ cause, (outside.send call).1 = .failure cause → isHandled cause = true := by
  rw [fetch_run configured, ← isHandled_of_exchanged]
  generalize exchanged timeout (node.setting "apiConfig") c.scope outside = e
  rcases e with f | ⟨status, body⟩
  · dsimp only
    cases known : isHandled f with
    | true => exact iff_of_true ⟨_, rfl, tells_failed _ (textOrName_isEmpty known)⟩ (by rintro _ ⟨⟩; exact known)
    | false =>
      refine iff_of_false ?_ fun all => absurd (known.symm.trans (all f rfl)) Bool.false_ne_true
      rintro ⟨o, gives, -⟩
      cases gives
  · exact iff_of_true ⟨_, rfl, tells_answered _ status body⟩ nofun

end Behavior

/-! ## Asking for an order -/

namespace Sample

open Behavior

/-- Asks another service for an order, at this address. -/
def ordering (url : String) : Node where
  id := "fetch"
  kind := "api_call"
  data := [("apiConfig", .dict [("url", .text url), ("responseVariable", .text "order")])]
  extra := []

/-- What is outside, with one answer to come. -/
def oneAnswer (answer : HttpAnswer) : Outside := ⟨noon, [answer], [], [], []⟩

/-- A connection that is refused is told in the variable. -/
theorem fetch_tells_iff_refused :
    ((ordering "https://api.test/orders").setting "apiConfig").isPresent = true ∧
      ∃ o, ((fetch (.whole 15) (ordering "https://api.test/orders") context none).run
          (oneAnswer (.failure (.foreign "ConnectError" "connection refused")))).1 = .ok o ∧
        o.completed = false ∧ o.success = false ∧ Fetch.Records o "order_error" := by
  have configured : ((ordering "https://api.test/orders").setting "apiConfig").isPresent = true := by
    decide +kernel
  have answer : ∀ call cause, ((oneAnswer (.failure (.foreign "ConnectError" "connection refused"))).send call).1
      = .failure cause → Fetch.isHandled cause = true := by
    rintro call _ ⟨⟩
    decide
  obtain ⟨o, gives, tells⟩ := (@fetch_tells_iff (.whole 15) _ configured context none
    (oneAnswer (.failure (.foreign "ConnectError" "connection refused")))).mpr
      (.inr ⟨_, by with_unfolding_all rfl, answer _⟩)
  have refused : Fetch.exchanged (.whole 15) ((ordering "https://api.test/orders").setting "apiConfig")
      context.scope (oneAnswer (.failure (.foreign "ConnectError" "connection refused")))
        = .error (.foreign "ConnectError" "connection refused") := by with_unfolding_all rfl
  have fails : o.success = false := by
    rw [Bool.eq_false_iff]
    intro success
    obtain ⟨status, body, brought, -⟩ := tells.success.mp success
    rw [refused] at brought
    cases brought
  exact ⟨configured, o, gives, tells.goesOn, fails, tells.recorded fails⟩

/-- A place of an address cannot be filled with a list in which a point in time stands. -/
theorem request?_visits :
    Fetch.request? (.whole 15) ((ordering "https://api.test/\x7b\x7bvisits\x7d\x7d").setting "apiConfig")
      (.dict [("visits", .list [.date noon])]) = .error (.notSerializable "datetime") := by
  have parts : Template.segments "https://api.test/\x7b\x7bvisits\x7d\x7d".toList
      = [.literal "https://api.test/".toList, .place "visits".toList] := by decide +kernel
  have url : Template.fillValue? (.dict [("visits", .list [.date noon])])
      (.text "https://api.test/\x7b\x7bvisits\x7d\x7d") = .error (.notSerializable "datetime") := by
    rw [Template.fillValue?, if_neg (by decide +kernel), Template.fill?, parts]
    with_unfolding_all rfl
  have read : Request.read ((ordering "https://api.test/\x7b\x7bvisits\x7d\x7d").setting "apiConfig")
      = .valid ⟨"https://api.test/\x7b\x7bvisits\x7d\x7d", "GET", none, none, some "order", []⟩ := by
    with_unfolding_all rfl
  rw [Fetch.request?, read]
  change (Template.fillValue? _ (.text "https://api.test/\x7b\x7bvisits\x7d\x7d") >>= _) = _
  rw [url]
  rfl

/-- An error of the client that is none of transport is passed on, and so is a place that cannot be filled. -/
theorem fetch_fails :
    ((fetch (.whole 15) (ordering "https://api.test/orders") context none).run
        (oneAnswer (.failure (.foreign "RuntimeError" "boom")))).1 = .error (.foreign "RuntimeError" "boom") ∧
      ((fetch (.whole 15) (ordering "https://api.test/\x7b\x7bvisits\x7d\x7d")
        { context with vars := [("visits", .list [.date noon])] } none).run
          (oneAnswer (.response 200 "1"))).1 = .error (.notSerializable "datetime") := by
  refine ⟨by with_unfolding_all rfl, ?_⟩
  rw [Fetch.fetch_run (by decide +kernel), Fetch.exchanged]
  rw [show ({ context with vars := [("visits", .list [.date noon])] } : Context).scope
    = .dict [("visits", .list [.date noon])] from rfl, request?_visits]
  rfl

end Sample

end ChatFlow
