import ChatFlow.Proofs.Flow.Memory

/-!
Requests for definitions, and the keys under which their answers are kept.

A request names a flow and perhaps a version, and memory knows it by one text: the id of the flow, a colon,
and the id of the version or the word that stands for the current one. So two requests can have one key, and
an invalidation, which drops all keys that begin with a flow's id and a colon, can reach the entry of
another flow. `Request.Clashes` says of which requests this is true: the id of the one flow goes on, behind
a colon, to that of the other, or one request is for the current version of a flow and the other for a
version whose id is the word for it. Requests that do not clash have keys of their own
(`Request.eq_of_key_eq`), and an invalidation reaches those of its flow only (`Request.isKeyOf_key_iff`).
-/

namespace ChatFlow

/-- Where a list is divided twice at a separator, the divisions are one, or the shorter first part goes on
to the longer behind the separator. -/
theorem List.append_cons_cases {α : Type} {sep : α} {as bs cs ds : List α}
    (same : as ++ sep :: bs = cs ++ sep :: ds) :
    (as = cs ∧ bs = ds) ∨ (∃ es, cs = as ++ sep :: es) ∨ ∃ es, as = cs ++ sep :: es := by
  rcases List.append_eq_append_iff.mp same with ⟨es, rfl, rest⟩ | ⟨es, rfl, rest⟩
  · cases es with
    | nil => simp_all
    | cons e es => simp_all
  · cases es with
    | nil => simp_all
    | cons e es => simp_all

namespace Library

theorem named?_ne_empty (v : Option String) : named? v ≠ some "" := by
  cases v with
  | none => simp [named?]
  | some s =>
    by_cases empty : s = ""
    · simp [named?, empty]
    · simp [named?, empty]

theorem named?_named? (v : Option String) : named? (named? v) = named? v := by
  cases v with
  | none => rfl
  | some s => by_cases empty : s = "" <;> simp [named?, empty]

/-- What is asked for: the definition of a flow, and perhaps a version of it. -/
@[ext] structure Request where
  flowId : String
  version : Option String
  /-- An empty id names no version. -/
  named : version ≠ some ""
deriving DecidableEq

namespace Request

/-- The request with these ids. -/
def of (flowId : String) (versionId : Option String) : Request :=
  ⟨flowId, named? versionId, named?_ne_empty versionId⟩

/-- What stands behind the colon of the key. -/
def word (r : Request) : String := r.version.getD "current"

/-- The key under which the answer is kept. -/
def key (r : Request) : String := r.flowId ++ ":" ++ r.word

@[simp] theorem flowId_of (flowId : String) (versionId : Option String) :
    (of flowId versionId).flowId = flowId := rfl

theorem key_of (flowId : String) (versionId : Option String) :
    (of flowId versionId).key = Library.key flowId versionId := by
  cases versionId with
  | none => rfl
  | some v =>
    by_cases empty : v = ""
    · simp [of, key, word, named?, Library.key, empty]
    · simp [of, key, word, named?, Library.key, empty]

/-- A request is made with its own ids. -/
@[simp] theorem of_flowId_version (r : Request) : of r.flowId r.version = r := by
  obtain ⟨flowId, version, named⟩ := r
  cases version with
  | none => rfl
  | some v =>
    have present : v ≠ "" := fun empty => named (congrArg some empty)
    simp [of, named?, present]

theorem key_flowId_version (r : Request) : Library.key r.flowId r.version = r.key := by
  rw [← key_of, of_flowId_version]

/-- The key, divided. -/
theorem toList_key (r : Request) : r.key.toList = r.flowId.toList ++ ':' :: r.word.toList := by
  simp [key]

/-! ## Clashes -/

/-- The answers to the requests are mixed up in memory. -/
inductive Clashes : Request → Request → Prop
  /-- The one is for the current version of a flow, the other for a version that goes by that word. -/
  | reserved {r r' : Request} (flow : r.flowId = r'.flowId) (current : r.version = none)
    (word : r'.version = some "current") : Clashes r r'
  /-- The id of the one flow goes on to that of the other behind a colon. -/
  | continued {r r' : Request} (rest : String) (flow : r'.flowId = r.flowId ++ ":" ++ rest) :
    Clashes r r'

variable {r r' : Request}

theorem Clashes.of_toList {rest : List Char} (h : r'.flowId.toList = r.flowId.toList ++ ':' :: rest) :
    Clashes r r' := by
  refine .continued (String.ofList rest) ?_
  rw [← String.toList_inj, h]
  simp

/-- Requests are for one version if the same stands behind their colons, unless that is the word for the
current one. -/
theorem version_cases (same : r.word = r'.word) :
    r.version = r'.version ∨ (r.version = none ∧ r'.version = some "current") ∨
      (r'.version = none ∧ r.version = some "current") := by
  unfold word at same
  cases first : r.version with
  | none => cases second : r'.version <;> simp_all
  | some v => cases second : r'.version <;> simp_all

/-- Requests that do not clash have different keys. -/
theorem eq_of_key_eq (apart : ¬ r.Clashes r') (apart' : ¬ r'.Clashes r) (same : r.key = r'.key) :
    r = r' := by
  have divided := congrArg String.toList same
  rw [toList_key, toList_key] at divided
  rcases List.append_cons_cases divided with ⟨flows, words⟩ | ⟨rest, longer⟩ | ⟨rest, longer⟩
  · have flow := String.toList_inj.mp flows
    rcases version_cases (String.toList_inj.mp words) with version | ⟨none, named⟩ | ⟨none, named⟩
    · exact Request.ext flow version
    · exact absurd (.reserved flow none named) apart
    · exact absurd (.reserved flow.symm none named) apart'
  · exact absurd (.of_toList longer) apart
  · exact absurd (.of_toList longer) apart'

/-- The key of a request is one of its flow. -/
theorem isKeyOf_flowId_key (r : Request) : isKeyOf r.flowId r.key = true := by
  rw [isKeyOf, List.isPrefixOf_iff_prefix, toList_key]
  exact ⟨r.word.toList, by simp⟩

/-- The key of a request is also one of every flow whose id goes on to that of the request. -/
theorem isKeyOf_of_continued {id rest : String} (h : r.flowId = id ++ ":" ++ rest) :
    isKeyOf id r.key = true := by
  rw [isKeyOf, List.isPrefixOf_iff_prefix, toList_key, h]
  exact ⟨rest.toList ++ ':' :: r.word.toList, by simp⟩

/-- Where requests do not clash, an invalidation reaches the keys of its flow. -/
theorem isKeyOf_key_iff (apart : ¬ r.Clashes r') (apart' : ¬ r'.Clashes r) :
    isKeyOf r.flowId r'.key = true ↔ r'.flowId = r.flowId := by
  refine ⟨fun reaches => ?_, fun same => same ▸ r'.isKeyOf_flowId_key⟩
  rw [isKeyOf, List.isPrefixOf_iff_prefix, toList_key] at reaches
  obtain ⟨tail, divided⟩ := reaches
  rw [List.append_assoc, List.singleton_append] at divided
  rcases List.append_cons_cases divided with ⟨flows, -⟩ | ⟨rest, longer⟩ | ⟨rest, longer⟩
  · exact (String.toList_inj.mp flows).symm
  · exact absurd (.of_toList longer) apart
  · exact absurd (.of_toList longer) apart'

/-- The id of the flow has no colon, and that of the version is not the word for the current one. -/
structure IsPlain (r : Request) : Prop where
  flow : ':' ∉ r.flowId.toList
  version : r.version ≠ some "current"

/-- No request clashes with a plain one. -/
theorem IsPlain.not_clashes (plain : r'.IsPlain) : ¬ r.Clashes r' := by
  rintro (⟨-, -, word⟩ | ⟨rest, flow⟩)
  · exact plain.version word
  · refine plain.flow ?_
    rw [flow]
    simp

end Request

/-- No two requests clash. -/
def AreApart (R : Request → Prop) : Prop := ∀ r r', R r → R r' → ¬ r.Clashes r'

theorem AreApart.eq_of_key_eq {R : Request → Prop} (apart : AreApart R) {r r' : Request} (asked : R r)
    (asked' : R r') (same : r.key = r'.key) : r = r' :=
  Request.eq_of_key_eq (apart r r' asked asked') (apart r' r asked' asked) same

end Library

end ChatFlow
