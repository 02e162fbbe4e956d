import ChatFlow.Channel.Endpoint

/-!
What can be written in an answer.

A value goes into an answer as JSON. Points in time are written as texts, a number that is not finite as
nothing; a record id has no place there, and one of them anywhere in a value keeps the whole value out
(`Value.IsWritable`). That much is relied on of a way to write answers (`Endpoint.Writes`), and the way
that the service writes them has it (`Endpoint.writes_documentOf?`).
-/

namespace ChatFlow

namespace Value

/-- A value stands in another: it is that value, or stands in one of its items or entries. -/
inductive Holds : Value → Value → Prop
  | itself (v : Value) : Holds v v
  | item {items : List Value} {v p : Value} (here : v ∈ items) (inside : Holds v p) :
    Holds (.list items) p
  | entry {entries : List (String × Value)} {e : String × Value} {p : Value} (here : e ∈ entries)
    (inside : Holds e.2 p) : Holds (.dict entries) p

/-- No record id stands in the value. -/
def IsWritable (v : Value) : Prop :=
  ∀ hex, ¬ v.Holds (.recordId hex)

variable {items : List Value} {entries : List (String × Value)}

theorem isWritable_list : (Value.list items).IsWritable ↔ ∀ v ∈ items, v.IsWritable := by
  constructor
  · exact fun writable v here hex inside => writable hex (.item here inside)
  · intro each hex inside
    cases inside with
    | item here inside => exact each _ here hex inside

theorem isWritable_dict : (Value.dict entries).IsWritable ↔ ∀ e ∈ entries, e.2.IsWritable := by
  constructor
  · exact fun writable e here hex inside => writable hex (.entry here inside)
  · intro each hex inside
    cases inside with
    | entry here inside => exact each _ here hex inside

theorem isWritable_null : Value.null.IsWritable := fun _ inside => by cases inside

theorem isWritable_bool (b : Bool) : (Value.bool b).IsWritable := fun _ inside => by cases inside

theorem isWritable_int (n : Int) : (Value.int n).IsWritable := fun _ inside => by cases inside

theorem isWritable_float (x : Float) : (Value.float x).IsWritable := fun _ inside => by cases inside

theorem isWritable_text (s : String) : (Value.text s).IsWritable := fun _ inside => by cases inside

theorem isWritable_date (m : Moment) : (Value.date m).IsWritable := fun _ inside => by cases inside

theorem not_isWritable_recordId (hex : String) : ¬ (Value.recordId hex).IsWritable :=
  fun writable => writable hex (.itself _)

theorem isWritable_ofText? (s : Option String) : (Value.ofText? s).IsWritable := by
  cases s with
  | none => exact isWritable_null
  | some s => exact isWritable_text s

end Value

namespace Endpoint

/-! ## How the service writes -/

/-- It succeeds exactly if this holds; otherwise a record id is in the way. -/
def SucceedsIf {α : Type} (fits : Prop) (r : Except Failure α) : Prop :=
  (fits ∧ ∃ a, r = .ok a) ∨ (¬ fits ∧ r = .error unanswerable)

mutual

/-- A document has a form in which it is answered exactly if it is writable. -/
theorem succeedsIf_documentOf? : ∀ v : Value, SucceedsIf v.IsWritable (documentOf? v)
  | .null => .inl ⟨Value.isWritable_null, _, rfl⟩
  | .bool b => .inl ⟨Value.isWritable_bool b, _, rfl⟩
  | .int n => .inl ⟨Value.isWritable_int n, _, rfl⟩
  | .float x => .inl ⟨Value.isWritable_float x, _, rfl⟩
  | .text s => .inl ⟨Value.isWritable_text s, _, rfl⟩
  | .date m => .inl ⟨Value.isWritable_date m, _, rfl⟩
  | .recordId hex => .inr ⟨Value.not_isWritable_recordId hex, rfl⟩
  | .list items => by
    rw [Value.isWritable_list, documentOf?]
    rcases succeedsIf_documentItems? items with ⟨fit, us, shown⟩ | ⟨unfit, refused⟩
    · exact .inl ⟨fit, .list us, by rw [shown]; rfl⟩
    · exact .inr ⟨unfit, by rw [refused]; rfl⟩
  | .dict entries => by
    rw [Value.isWritable_dict, documentOf?]
    rcases succeedsIf_documentEntries? entries with ⟨fit, us, shown⟩ | ⟨unfit, refused⟩
    · exact .inl ⟨fit, .dict us, by rw [shown]; rfl⟩
    · exact .inr ⟨unfit, by rw [refused]; rfl⟩

theorem succeedsIf_documentItems? :
    ∀ items : List Value, SucceedsIf (∀ v ∈ items, v.IsWritable) (documentItems? items)
  | [] => .inl ⟨fun _ none => absurd none List.not_mem_nil, [], rfl⟩
  | v :: rest => by
    rw [List.forall_mem_cons, documentItems?]
    rcases succeedsIf_documentOf? v with ⟨fits, u, shown⟩ | ⟨unfit, refused⟩
    · rw [shown]
      rcases succeedsIf_documentItems? rest with ⟨fit, us, shown'⟩ | ⟨unfit, refused⟩
      · exact .inl ⟨⟨fits, fit⟩, u :: us, by rw [shown']; rfl⟩
      · exact .inr ⟨fun both => unfit both.2, by rw [refused]; rfl⟩
    · exact .inr ⟨fun both => unfit both.1, by rw [refused]⟩

theorem succeedsIf_documentEntries? :
    ∀ entries : Entries, SucceedsIf (∀ e ∈ entries, e.2.IsWritable) (documentEntries? entries)
  | [] => .inl ⟨fun _ none => absurd none List.not_mem_nil, [], rfl⟩
  | (k, v) :: rest => by
    rw [List.forall_mem_cons, documentEntries?]
    rcases succeedsIf_documentOf? v with ⟨fits, u, shown⟩ | ⟨unfit, refused⟩
    · rw [shown]
      rcases succeedsIf_documentEntries? rest with ⟨fit, us, shown'⟩ | ⟨unfit, refused⟩
      · exact .inl ⟨⟨fits, fit⟩, (k, u) :: us, by rw [shown']; rfl⟩
      · exact .inr ⟨fun both => unfit both.2, by rw [refused]; rfl⟩
    · exact .inr ⟨fun both => unfit both.1, by rw [refused]⟩

end

/-! ## Ways to write -/

/-- What is relied on of a way to write the documents of answers: it writes every document in which no
record id stands, and refuses the others. -/
structure Writes (write : Value → Except Failure Value) : Prop where
  writes : ∀ v : Value, v.IsWritable → ∃ u, write v = .ok u
  refuses : ∀ v : Value, ¬ v.IsWritable → ∃ text, write v = .error (.foreign "SerializationError" text)

theorem writes_documentOf? : Writes documentOf? where
  writes v fits := by
    rcases succeedsIf_documentOf? v with ⟨-, shown⟩ | ⟨unfit, -⟩
    · exact shown
    · exact absurd fits unfit
  refuses v unfit := by
    rcases succeedsIf_documentOf? v with ⟨fits, -⟩ | ⟨-, refused⟩
    · exact absurd fits unfit
    · exact ⟨_, refused⟩

example : documentOf? (.dict [("n", .float (0.0 / 0.0)), ("m", .float 1.5)]) =
    .ok (.dict [("n", .null), ("m", .float 1.5)]) := by with_unfolding_all rfl

/-- The answer to a document that is refused. -/
theorem ofFailure_refused (text : String) :
    Response.ofFailure (.foreign "SerializationError" text) =
      ⟨500, Response.failureBody "Internal server error" text 500⟩ := rfl

end Endpoint

end ChatFlow
