import ChatFlow.Value
import ChatFlow.Decimal.Binary
import ChatFlow.Json.Reader

/-!
The document store.

A store holds three collections of documents, each in the order in which the documents came. Documents
are found by the values of their entries: a truth value never equals a number, an integer equals a
floating-point number of the same value, and an absent entry equals nothing. A record is looked up by
an id of 24 hexadecimal digits as a record id, and by any other id as a text.
-/

namespace ChatFlow

/-- The collections of the store. -/
inductive Collection where
  | flows
  | versions
  | sessions
deriving Repr, DecidableEq

namespace Collection

/-- The name of a collection. -/
def name : Collection → String
  | flows => "flows"
  | versions => "flow_versions"
  | sessions => "flow_sessions"

/-- All collections. -/
def all : List Collection := [flows, versions, sessions]

/-- The collection of a name. -/
def ofName? (s : String) : Option Collection :=
  all.find? fun c => c.name == s

/-- The entry that no two documents of the collection share. -/
def key : Collection → String
  | sessions => "conversation_id"
  | _ => "_id"

end Collection

/-- Documents in the order in which they came. -/
abbrev Documents := List Entries

/-! ## Equality of entries -/

namespace Value

/-- The record id or text that an id stands for. -/
def ofId (id : String) : Value :=
  let cs := id.toList
  if cs.length == 24 && cs.all (fun c => (Json.hexValue? c).isSome) then
    recordId (String.ofList (cs.map Char.toLower))
  else text id

/-- The two values are equal leaves. -/
def isSameLeaf : Value → Value → Bool
  | null, null => true
  | bool a, bool b => a == b
  | int m, int n => m == n
  | int m, float x => Decimal.whole? x == some m
  | float x, int m => Decimal.whole? x == some m
  | float x, float y => x == y
  | text s, text t => s == t
  | date a, date b => a.compare? b == some .eq
  | recordId h, recordId k => h == k
  | _, _ => false

end Value

namespace Entries

/-- The entry of this key is there and equal to the value. -/
def holds (doc : Entries) (key : String) (v : Value) : Bool :=
  match doc.lookup key with
  | some stored => stored.isSameLeaf v
  | none => false

/-- All the given entries are there. -/
def holdsAll (doc filter : Entries) : Bool :=
  filter.all fun (k, v) => doc.holds k v

/-- Adds to the number under a key; an absent one counts as 0, and what is no number is a fault. -/
def increment? (doc : Entries) (key : String) (amount : Int) : Option Entries :=
  match doc.lookup key with
  | none => some (insert key (.int amount) doc)
  | some (.int n) => some (insert key (.int (n + amount)) doc)
  | some (.float x) => some (insert key (.float (x + Float.ofInt amount)) doc)
  | some _ => none

end Entries

namespace Documents

/-- The first document that holds the entries. -/
def find? (docs : Documents) (filter : Entries) : Option Entries :=
  List.find? (fun doc => doc.holdsAll filter) docs

/-- Changes the first document that holds the entries. -/
def modifyFirst (filter : Entries) (change : Entries → Entries) : Documents → Documents
  | [] => []
  | doc :: rest =>
    if doc.holdsAll filter then change doc :: rest else doc :: modifyFirst filter change rest

/-- Removes the first document that holds the entries. -/
def removeFirst (filter : Entries) : Documents → Documents
  | [] => []
  | doc :: rest => if doc.holdsAll filter then rest else doc :: removeFirst filter rest

/-- Puts a document in the place of the one with its key, or at the end. -/
def put (key : String) (doc : Entries) (docs : Documents) : Documents :=
  let filter := [(key, doc.getD key)]
  if docs.any (·.holdsAll filter) then modifyFirst filter (fun _ => doc) docs else docs ++ [doc]

end Documents

/-- The stored documents. -/
structure Store where
  flows : Documents
  versions : Documents
  sessions : Documents
deriving Repr

namespace Store

/-- A store without documents. -/
def empty : Store := ⟨[], [], []⟩

/-- Changes the documents of a collection. -/
def change (s : Store) (c : Collection) (f : Documents → Documents) : Store :=
  match c with
  | .flows => { s with flows := f s.flows }
  | .versions => { s with versions := f s.versions }
  | .sessions => { s with sessions := f s.sessions }

/-- Puts a document into a collection, in the place of the one with its key. -/
def put (s : Store) (c : Collection) (doc : Entries) : Store :=
  s.change c (Documents.put c.key doc)

/-- Removes the document whose key is that text. -/
def remove (s : Store) (c : Collection) (id : String) : Store :=
  s.change c (Documents.removeFirst [(c.key, .text id)])

end Store

end ChatFlow
