import ChatFlow.Value
import ChatFlow.Failure

/-!
Reading a document into a record.

`Checked` is the outcome of reading: a value, or all the issues that were found. Its applicative
combination keeps the issues of both sides, in order, so that a record with several unfit fields
reports each of them in the order of its fields. A reader is a function from a value; `required`,
`defaulted`, `nullable`, `items` and `record` build the reader of a record from those of its fields.
-/

namespace ChatFlow.Schema

/-- What reading a document gives: a value, or the issues that stand against it. -/
inductive Checked (α : Type) where
  | valid (a : α)
  | invalid (issues : List Issue)
deriving Repr

namespace Checked

variable {α β : Type}

/-- Applies a function to a valid value. -/
def map (f : α → β) : Checked α → Checked β
  | valid a => valid (f a)
  | invalid issues => invalid issues

/-- Applies a checked function to a checked value; the issues of both sides are kept. -/
def ap : Checked (α → β) → Checked α → Checked β
  | valid f, valid a => valid (f a)
  | valid _, invalid issues => invalid issues
  | invalid issues, valid _ => invalid issues
  | invalid issues, invalid more => invalid (issues ++ more)

instance : Functor Checked where
  map := map

instance : Applicative Checked where
  pure := valid
  seq f x := ap f (x ())

@[simp] theorem map_valid (f : α → β) (a : α) : f <$> valid a = valid (f a) := rfl

@[simp] theorem map_invalid (f : α → β) (issues : List Issue) :
    f <$> (invalid issues : Checked α) = invalid issues := rfl

@[simp] theorem seq_valid (f : α → β) (a : α) : valid f <*> valid a = valid (f a) := rfl

/-- The same outcome seen from one step further out. -/
def under (step : Place) : Checked α → Checked α
  | valid a => valid a
  | invalid issues => invalid (issues.map (Issue.under step))

@[simp] theorem under_valid (step : Place) (a : α) : (valid a).under step = valid a := rfl

/-- A single issue about the value itself. -/
def unfit (cause : Cause) : Checked α :=
  invalid [⟨[], cause⟩]

/-- The value, or the report under the title of the record that was due. -/
def toExcept (title : String) : Checked α → Except Failure α
  | valid a => .ok a
  | invalid issues => .error (.invalid ⟨title, issues⟩)

end Checked

open Checked

variable {α : Type}

/-! ## Fields -/

/-- Reads the entry of a field; an absent one has the given outcome. -/
def field (entries : Entries) (name : String) (read : Value → Checked α) (absent : Checked α) :
    Checked α :=
  match entries.lookup name with
  | some v => (read v).under (.name name)
  | none => absent.under (.name name)

/-- Reads a field that has to be there. -/
def required (entries : Entries) (name : String) (read : Value → Checked α) : Checked α :=
  field entries name read (unfit .missing)

/-- Reads a field that has a default. -/
def defaulted (entries : Entries) (name : String) (default : α) (read : Value → Checked α) :
    Checked α :=
  field entries name read (valid default)

/-- Reads null as nothing and every other value by `read`. -/
def nullable (read : Value → Checked α) : Value → Checked (Option α)
  | .null => valid none
  | v => some <$> read v

/-- Reads a field that may be null or absent. -/
def maybe (entries : Entries) (name : String) (read : Value → Checked α) : Checked (Option α) :=
  defaulted entries name none (nullable read)

/-- The entries that none of the named fields takes. -/
def extras (entries : Entries) (names : List String) : Entries :=
  entries.filter fun (k, _) => !names.contains k

/-! ## Lists and records -/

/-- Reads the items of a list, numbered from `start`. -/
def itemsFrom (read : Value → Checked α) (start : Nat) : List Value → Checked (List α)
  | [] => valid []
  | v :: rest =>
    (· :: ·) <$> (read v).under (.index start) <*> itemsFrom read (start + 1) rest

/-- Reads a list. -/
def items (read : Value → Checked α) : Value → Checked (List α)
  | .list vs => itemsFrom read 0 vs
  | _ => unfit .notList

/-- Reads a record from a dictionary; any other value is unfit for the given cause. -/
def recordOr (cause : Cause) (read : Entries → Checked α) : Value → Checked α
  | .dict entries => read entries
  | _ => unfit cause

/-- Reads a record of this title from a dictionary. -/
def record (title : String) (read : Entries → Checked α) : Value → Checked α :=
  recordOr (.notRecord title) read

end ChatFlow.Schema
