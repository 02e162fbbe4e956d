import ChatFlow.Proofs.Behavior.Coercing
import ChatFlow.Proofs.Json.RoundTrip

/-!
Variables that are copies.

A list or a dictionary fills a place as its JSON text, and a node that sets a list or a dictionary reads the text back
(`Behavior.setVariable_copies`). Nothing is lost on the way, because the place is the whole text, and because what is
filled in is read by nobody but the reader of JSON.
-/

namespace ChatFlow

namespace Behavior

open ChatFlow.Flow (Node Assignment)

variable {node : Node} {context : Context} {input : Option String} {outside : Outside} {assignment : Assignment}
  {name : String} {v : Value}

/-- A setting that can be read as an assignment is not empty, since an assignment has a name. -/
theorem isPresent_of_read {setting : Value} (read : Assignment.read setting = .valid assignment) :
    setting.isPresent = true := by
  cases setting with
  | dict entries =>
    cases entries with
    | nil => cases read
    | cons => rfl
  | null | bool | int | float | text | list | date | recordId => cases read

/-- A list or a dictionary fills a place as JSON. -/
theorem fill?_nested (exact_ : v.IsExact) (nested : (∃ items, v = .list items) ∨ ∃ entries, v = .dict entries) :
    v.fill? = .ok (Json.text v) := by
  obtain ⟨items, rfl⟩ | ⟨entries, rfl⟩ := nested <;> rw [Value.fill?, Json.text?, Json.fault?_exact exact_]

/-- The JSON text of a value is brought to a list or a dictionary by reading it. -/
theorem coerce?_text (exact_ : v.IsExact) {sort : Option String} (due : sort = some "array" ∨ sort = some "object") :
    Assign.coerce? (.text (Json.text v)) sort = .ok v := by
  rcases due with rfl | rfl <;> rw [Assign.coerce?, Assign.documentOr?, Json.parse_text exact_]

/-- A node that sets a list or a dictionary by a place alone copies the variable of this name, whatever is nested in
it, with the entries in their order. -/
theorem setVariable_copies (read : Assignment.read (node.setting "variable") = .valid assignment)
    (place : assignment.value = .text (Template.placeOf name)) (isName : Path.IsName name)
    (due : (assignment.sort = some "array" ∧ ∃ items, v = .list items) ∨
      (assignment.sort = some "object" ∧ ∃ entries, v = .dict entries))
    (held : context.vars.lookup name = some v) (exact_ : v.IsExact) (input : Option String) (outside : Outside) :
    (setVariable node context input).run outside = (.ok (.setting [(assignment.name, v)]), outside) := by
  have found : context.scope.entry name = v := by
    rw [Context.scope, Value.entry, Entries.getD, held, Option.getD_some]
  have filled : Assign.filled? context.scope assignment.value = .ok (.text (Json.text v)) := by
    rw [place, Assign.filled?, Template.fill?_placeOf isName, found,
      fill?_nested exact_ (due.imp And.right And.right)]
    rfl
  rw [setVariable_eq (isPresent_of_read read) read, filled]
  show (Except.map _ (Assign.coerce? (.text (Json.text v)) assignment.sort), outside) = _
  rw [coerce?_text exact_ (due.imp And.left And.left)]
  rfl

end Behavior

/-! ## An order and its copy -/

namespace Sample

open ChatFlow.Flow (Node Assignment)

/-- An order with quotes, a character beyond the basic plane, a line feed and a negative number in it. -/
def basket : Value :=
  .dict [("items", .list [.text "cup \"☕\" 🎉\n", .int (-12), .list [], .null]), ("", .dict [("paid", .bool true)])]

/-- A context with the order. -/
def shopping : Context := { context with vars := [("my order", basket)] }

/-- A node that copies the order. -/
def copying : Node :=
  ⟨"copy", "set_variable",
    [("variable", .dict [("name", .text "kept"), ("value", .text "\x7b\x7bmy order\x7d\x7d"), ("type", .text "object")])],
    []⟩

theorem isExact_basket : basket.IsExact := by
  refine .dict (by decide) fun e listed => ?_
  simp only [List.mem_cons, List.not_mem_nil, or_false] at listed
  rcases listed with rfl | rfl
  · refine .list fun v listed => ?_
    simp only [List.mem_cons, List.not_mem_nil, or_false] at listed
    rcases listed with rfl | rfl | rfl | rfl
    · exact .text _
    · exact .int (by decide)
    · exact .list nofun
    · exact .null
  · refine .dict (by decide) fun e listed => ?_
    simp only [List.mem_cons, List.not_mem_nil, or_false] at listed
    subst listed
    exact .bool true

/-- The order is copied as it is. -/
theorem setVariable_copies_basket :
    Path.IsName "my order" ∧ shopping.vars.lookup "my order" = some basket ∧ basket.IsExact ∧
      (Behavior.setVariable copying shopping none).run (world []).outside
        = (.ok (.setting [("kept", basket)]), (world []).outside) := by
  have isName : Path.IsName "my order" :=
    ⟨by decide, by decide +kernel, by decide +kernel, by decide +kernel, by decide +kernel⟩
  refine ⟨isName, rfl, isExact_basket, ?_⟩
  exact @Behavior.setVariable_copies copying shopping ⟨"kept", .text (Template.placeOf "my order"), some "object", []⟩
    "my order" basket (by with_unfolding_all rfl) rfl isName (.inr ⟨rfl, _, rfl⟩) rfl isExact_basket none
    (world []).outside

end Sample

end ChatFlow
