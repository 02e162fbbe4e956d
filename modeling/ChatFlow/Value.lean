import ChatFlow.Moment

/-!
The data that flows, conversations and replies carry: the usual tree of null, truth values, numbers,
texts, lists and named entries, with two further leaves that only stored documents hold, a point in
time and a record id.

Entries keep the order in which they were written, because that order shows wherever a value becomes
text. `Entries.insert` replaces a present key in place and puts a new key last; the small laws beside
it say what a look-up sees afterwards.
-/

namespace ChatFlow

/-- A tree of data. -/
inductive Value where
  | null
  | bool (b : Bool)
  | int (n : Int)
  | float (x : Float)
  | text (s : String)
  | list (items : List Value)
  | dict (entries : List (String × Value))
  | date (m : Moment)
  /-- The identifier of a stored record: 24 hexadecimal digits. -/
  | recordId (hex : String)
deriving Inhabited, Repr

/-- A number that is passed on as it was written, with or without a point. -/
inductive Quantity where
  | whole (n : Int)
  | real (x : Float)
deriving Inhabited, Repr

/-- The value of a quantity. -/
def Quantity.toValue : Quantity → Value
  | whole n => .int n
  | real x => .float x

/-- Named values in the order in which they were written. -/
abbrev Entries := List (String × Value)

namespace Entries

/-- Replaces the value of a key in place; a new key goes to the end. -/
def insert (key : String) (value : Value) : Entries → Entries
  | [] => [(key, value)]
  | (k, v) :: rest => if k == key then (key, value) :: rest else (k, v) :: insert key value rest

/-- Writes all of `changes` over the entries, in order. -/
def update (entries changes : Entries) : Entries :=
  changes.foldl (fun es (k, v) => insert k v es) entries

/-- The value of a key, null if it is absent. -/
def getD (entries : Entries) (key : String) : Value :=
  (entries.lookup key).getD .null

@[simp] theorem lookup_insert_self (key : String) (value : Value) (es : Entries) :
    (insert key value es).lookup key = some value := by
  induction es with
  | nil => simp [insert]
  | cons e rest ih =>
    obtain ⟨k, v⟩ := e
    by_cases h : k = key
    · simp [insert, h]
    · have h' : (key == k) = false := by simpa using fun e => h e.symm
      simp [insert, h, List.lookup_cons, h', ih]

theorem lookup_insert_of_ne {key other : String} (h : other ≠ key) (value : Value) (es : Entries) :
    (insert key value es).lookup other = es.lookup other := by
  have hb : (other == key) = false := by simpa using h
  induction es with
  | nil => simp [insert, List.lookup_cons, hb]
  | cons e rest ih =>
    obtain ⟨k, v⟩ := e
    by_cases hk : k = key
    · subst hk; simp [insert, List.lookup_cons, hb]
    · simp only [insert, beq_iff_eq, hk, if_false, List.lookup_cons]
      split <;> simp_all

end Entries

namespace Value

/-! ## Sorts and truth -/

/-- The name of the sort of a value, as error messages give it. -/
def sortName : Value → String
  | null => "NoneType"
  | bool _ => "bool"
  | int _ => "int"
  | float _ => "float"
  | text _ => "str"
  | list _ => "list"
  | dict _ => "dict"
  | date _ => "datetime.datetime"
  | recordId _ => "ObjectId"

/-- Null, false, zero and everything empty count as absent; all else counts as present. -/
def isPresent : Value → Bool
  | null => false
  | bool b => b
  | int n => n != 0
  | float x => x != 0
  | text s => !s.isEmpty
  | list items => !items.isEmpty
  | dict entries => !entries.isEmpty
  | date _ => true
  | recordId _ => true

/-- The value, or `fallback` if it counts as absent. -/
def orElse (v fallback : Value) : Value :=
  if v.isPresent then v else fallback

/-- The value is this very text. -/
def isText (v : Value) (s : String) : Bool :=
  match v with
  | text t => t == s
  | _ => false

/-- A text or null from an optional text. -/
def ofText? : Option String → Value
  | some s => text s
  | none => null

/-- The value of a key of a dictionary; null for an absent key and for any other sort of value. -/
def entry (v : Value) (key : String) : Value :=
  match v with
  | dict entries => Entries.getD entries key
  | _ => null

end Value

end ChatFlow
