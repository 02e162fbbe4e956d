import ChatFlow.Store.Documents
import ChatFlow.Failure

/-!
What interferes with accesses to the store.

A fault waits for accesses of one sort, perhaps to one collection, and strikes so many of them. It may
let another writer put a document first, and then make the access fail or find nothing. Of several
faults that fit an access the first strikes. A fault with no effect of its own lets an access pass and
so puts off the ones behind it.
-/

namespace ChatFlow

/-- A sort of access to the store. -/
inductive Access where
  | findOne
  | find
  | insertOne
  | findOneAndUpdate
  | updateOne
  | deleteOne
  | createIndex
  | connect
  | close
deriving Repr, DecidableEq

namespace Access

/-- The name of a sort of access. -/
def word : Access → String
  | findOne => "find_one"
  | find => "find"
  | insertOne => "insert_one"
  | findOneAndUpdate => "find_one_and_update"
  | updateOne => "update_one"
  | deleteOne => "delete_one"
  | createIndex => "create_index"
  | connect => "connect"
  | close => "close"

/-- All sorts of access. -/
def all : List Access :=
  [findOne, find, insertOne, findOneAndUpdate, updateOne, deleteOne, createIndex, connect, close]

/-- The sort of access of a name. -/
def ofWord? (w : String) : Option Access :=
  all.find? fun a => a.word == w

end Access

/-- What a fault does to an access. -/
inductive FaultEffect where
  | none
  | fails (cause : Failure)
  /-- The access finds no document. -/
  | misses
deriving Repr

/-- A fault. -/
structure Fault where
  access : Access
  /-- The collection it waits at; any, if none is named. -/
  collection : Option Collection
  /-- How many accesses it still strikes. -/
  times : Nat
  /-- A document that another writer puts first. -/
  before : Option (Collection × Entries)
  effect : FaultEffect
deriving Repr

namespace Fault

/-- The fault strikes such an access. -/
def fits (f : Fault) (a : Access) (c : Option Collection) : Bool :=
  f.times != 0 && f.access == a && (f.collection.isNone || f.collection == c)

/-- The first fault that strikes an access, and the faults as they are afterwards. -/
def strike? (a : Access) (c : Option Collection) : List Fault → Option (Fault × List Fault)
  | [] => none
  | f :: rest =>
    if f.fits a c then some (f, { f with times := f.times - 1 } :: rest)
    else (strike? a c rest).map fun (g, after) => (g, f :: after)

@[simp] theorem strike?_nil (a : Access) (c : Option Collection) : strike? a c [] = none := rfl

end Fault

end ChatFlow
