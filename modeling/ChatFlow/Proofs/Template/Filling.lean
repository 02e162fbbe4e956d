import ChatFlow.Proofs.Path.Walking
import ChatFlow.Proofs.Template.Reading

/-!
What keeps a template from being filled.

A place is filled with the text of a value that a path leads to. Only numbers stand in the way: the number of an
item with too many digits to be read, or an integer in the value with too many digits to be written; and within a
list or a dictionary, points in time and record ids, which have no JSON form (`Template.IsUnfilled`). So whatever
is filled in, a template never fails as a document does that does not fit its record, nor in a way that the
services outside have of failing.
-/

namespace ChatFlow

namespace Template

/-- The failures of filling a text. -/
inductive IsUnfilled : Failure → Prop
  /-- The number of an item has too many digits. -/
  | index (digits : Nat) : IsUnfilled (.numeralTooLong digits)
  /-- An integer has too many digits. -/
  | integer : IsUnfilled .integerTooLong
  /-- A value of this sort has no JSON form. -/
  | sort (name : String) : IsUnfilled (.notSerializable name)

variable {f : Failure} {scope : Value}

/-- What fails after a further step has failed before it. -/
theorem eq_error_of_map {α β : Type} {x : Except Failure α} {g : α → β} (h : x.map g = .error f) :
    x = .error f := by
  cases x with
  | error e => exact congrArg _ (Except.error.inj h)
  | ok a => cases h

/-- What fails in two steps fails in the first or in the second. -/
theorem eq_error_of_bind {α β : Type} {x : Except Failure α} {g : α → Except Failure β}
    (h : x >>= g = .error f) : x = .error f ∨ ∃ a, x = .ok a ∧ g a = .error f := by
  cases x with
  | error e => exact .inl (congrArg _ (Except.error.inj h))
  | ok a => exact .inr ⟨a, rfl, h⟩

/-! ## Values -/

mutual

theorem isUnfilled_of_fault? {asTexts : Bool} :
    ∀ v : Value, Json.fault? asTexts v = some f → IsUnfilled f
  | .int n, h => by
    rw [Json.fault?] at h
    split at h
    · cases h
      exact .integer
    · cases h
  | .list items, h => isUnfilled_of_faultInItems? items (by rwa [Json.fault?] at h)
  | .dict entries, h => isUnfilled_of_faultInEntries? entries (by rwa [Json.fault?] at h)
  | .date _, h | .recordId _, h => by
    rw [Json.fault?] at h
    split at h
    · cases h
    · cases h
      exact .sort _
  | .null, h | .bool _, h | .float _, h | .text _, h => by cases h

theorem isUnfilled_of_faultInItems? {asTexts : Bool} :
    ∀ items : List Value, Json.faultInItems? asTexts items = some f → IsUnfilled f
  | [], h => by cases h
  | v :: rest, h => by
    rw [Json.faultInItems?] at h
    split at h
    · rename_i found
      exact isUnfilled_of_fault? v (found.trans h)
    · exact isUnfilled_of_faultInItems? rest h

theorem isUnfilled_of_faultInEntries? {asTexts : Bool} :
    ∀ entries : List (String × Value), Json.faultInEntries? asTexts entries = some f → IsUnfilled f
  | [], h => by cases h
  | (_, v) :: rest, h => by
    rw [Json.faultInEntries?] at h
    split at h
    · rename_i found
      exact isUnfilled_of_fault? v (found.trans h)
    · exact isUnfilled_of_faultInEntries? rest h

end

theorem isUnfilled_of_display? {v : Value} (h : v.display? = .error f) : IsUnfilled f := by
  unfold Value.display? at h
  split at h
  · rename_i found
    cases h
    exact isUnfilled_of_fault? v found
  · split at h <;> cases h

theorem isUnfilled_of_text? {v : Value} (h : Json.text? v = .error f) : IsUnfilled f := by
  unfold Json.text? at h
  split at h
  · rename_i found
    cases h
    exact isUnfilled_of_fault? v found
  · cases h

theorem isUnfilled_of_value {v : Value} (h : v.fill? = .error f) : IsUnfilled f := by
  unfold Value.fill? at h
  split at h
  · cases h
  · cases h
  · split at h <;> cases h
  · exact isUnfilled_of_text? h
  · exact isUnfilled_of_text? h
  · exact isUnfilled_of_display? h
  · exact isUnfilled_of_display? h
  · exact isUnfilled_of_display? h
  · exact isUnfilled_of_display? h

/-! ## Paths -/

theorem isUnfilled_of_follow? {current : Value} {s : Path.Step} (h : s.follow? current = .error f) :
    IsUnfilled f := by
  unfold Path.Step.follow? at h
  split at h
  · cases h
  · split at h
    · split at h
      · cases h
        exact .index _
      · cases h
    · cases h

theorem isUnfilled_of_walk? {steps : List Path.Step} {current : Value}
    (h : Path.walk? current steps = .error f) : IsUnfilled f := by
  induction steps generalizing current with
  | nil => cases h
  | cons s rest ih =>
    rw [Path.walk?] at h
    split at h
    · exact ih h
    · rename_i fails
      cases h
      exact isUnfilled_of_follow? fails

/-! ## Texts -/

theorem isUnfilled_of_segment {s : Segment} (h : s.fill? scope = .error f) : IsUnfilled f := by
  unfold Segment.fill? at h
  split at h
  · cases h
  · split at h
    · rename_i fails
      cases h
      exact isUnfilled_of_walk? fails
    · rename_i v found
      exact isUnfilled_of_value (eq_error_of_map h)

theorem isUnfilled_of_fillAll? {parts : List Segment} (h : fillAll? scope parts = .error f) : IsUnfilled f := by
  induction parts with
  | nil => cases h
  | cons s rest ih =>
    rw [fillAll?] at h
    split at h
    · rename_i fails
      cases h
      exact isUnfilled_of_segment fails
    · exact ih (eq_error_of_map h)

theorem isUnfilled_of_fill? {text : String} (h : fill? scope text = .error f) : IsUnfilled f := by
  unfold fill? at h
  exact isUnfilled_of_fillAll? (eq_error_of_map h)

/-! ## Whole documents -/

mutual

/-- Filling the texts inside a value fails where one of them does. -/
theorem isUnfilled_of_fillWithin? : ∀ v : Value, fillWithin? scope v = .error f → IsUnfilled f
  | .text s, h => by
    rw [fillWithin?] at h
    exact isUnfilled_of_fill? (eq_error_of_map h)
  | .list items, h => by
    rw [fillWithin?] at h
    exact isUnfilled_of_fillItems? items (eq_error_of_map h)
  | .dict entries, h => by
    rw [fillWithin?] at h
    exact isUnfilled_of_fillEntries? entries (eq_error_of_map h)
  | .null, h | .bool _, h | .int _, h | .float _, h | .date _, h | .recordId _, h => by cases h

theorem isUnfilled_of_fillItems? : ∀ items : List Value, fillItems? scope items = .error f → IsUnfilled f
  | [], h => by cases h
  | v :: rest, h => by
    rw [fillItems?] at h
    split at h
    · rename_i fails
      cases h
      exact isUnfilled_of_fillWithin? v fails
    · exact isUnfilled_of_fillItems? rest (eq_error_of_map h)

theorem isUnfilled_of_fillEntries? :
    ∀ entries : List (String × Value), fillEntries? scope entries = .error f → IsUnfilled f
  | [], h => by cases h
  | (k, v) :: rest, h => by
    rw [fillEntries?] at h
    split at h
    · rename_i fails
      cases h
      exact isUnfilled_of_fillWithin? v fails
    · exact isUnfilled_of_fillEntries? rest (eq_error_of_map h)

end

/-! ## Texts without places -/

theorem segments_plain {cs : List Char} (nonempty : cs ≠ []) (plain : ∀ c ∈ cs, c ≠ '{') :
    segments cs = [.literal cs] := by
  have none : ∀ rest, rest ≠ [] → rest <:+ cs → ¬ BeginsWithPlace (rest ++ []) := by
    rintro rest - suffix ⟨name, after, -, begins⟩
    rw [List.append_nil, chars_place] at begins
    exact plain '{' (suffix.mem (begins ▸ List.mem_cons_self)) rfl
  have run := segments_run nonempty none (by simp [segments_nil])
  rwa [List.append_nil, segments_nil] at run

/-- A text without an opening brace has no places. -/
theorem fill?_plain {s : String} (plain : ∀ c ∈ s.toList, c ≠ '{') (scope : Value) : fill? scope s = .ok s := by
  rw [fill?]
  by_cases empty : s.toList = []
  · rw [empty, segments_nil, fillAll?]
    exact congrArg Except.ok (String.toList_inj.mp (by rw [String.toList_ofList, empty]))
  · rw [segments_plain empty plain, fillAll?, Segment.fill?, fillAll?]
    show Except.ok (String.ofList (s.toList ++ [])) = _
    rw [List.append_nil, String.ofList_toList]

end Template

/-! ## Names -/

namespace Path

/-- The name can stand alone as a path, and as the path of a place: nothing in it ends a step or a place, and nothing
at its ends is trimmed. -/
structure IsName (name : String) : Prop where
  nonempty : name ≠ ""
  trimmed : Text.trim name = name
  undotted : '.' ∉ name.toList
  unbracketed : '[' ∉ name.toList
  unbraced : '}' ∉ name.toList

/-- A name leads to the entry of this name. -/
theorem IsName.find? {name : String} (h : IsName name) (v : Value) : Path.find? v name = .ok (v.entry name) := by
  rw [Path.find?, steps, splitAt_eq_splitOn, List.splitOn_eq_singleton h.undotted, List.map_singleton,
    ofChars_plain h.unbracketed, String.ofList_toList]
  rfl

end Path

namespace Template

/-! ## A text of one place -/

/-- The text that is a place of this name. -/
def placeOf (name : String) : String := "\x7b\x7b" ++ name ++ "\x7d\x7d"

theorem toList_placeOf (name : String) : (placeOf name).toList = (Segment.place name.toList).chars := by
  simp [placeOf, Segment.chars]

/-- A place that is the whole text becomes the text of the entry that it names. -/
theorem fill?_placeOf {name : String} (h : Path.IsName name) (scope : Value) :
    fill? scope (placeOf name) = (scope.entry name).fill? := by
  have nonempty : name.toList ≠ [] := by simpa using h.nonempty
  have place : segments (Segment.place name.toList).chars = [.place name.toList] := by
    rw [← List.append_nil (Segment.chars _), segments_place ⟨nonempty, h.unbraced⟩, segments_nil]
  rw [fill?, toList_placeOf, place, fillAll?, Segment.fill?, String.ofList_toList, h.trimmed, h.find?]
  dsimp only
  cases (scope.entry name).fill? with
  | error f => rfl
  | ok text =>
    show Except.ok (String.ofList (text.toList ++ [])) = _
    rw [List.append_nil, String.ofList_toList]

end Template

end ChatFlow
