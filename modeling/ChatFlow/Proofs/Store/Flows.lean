import ChatFlow.Proofs.Conversation.Loading

/-!
The documents of flows, found by their ids.

A record is looked up by a text, and the text is taken for a record id if it has the form of one
(`Value.ofId`). So a text finds the documents with one value under `_id` and no others
(`Entries.holds_ofId_iff`), which need not be the text: a document whose id is a text of that form is not
found by its own id.
-/

namespace ChatFlow

namespace Value

/-- An id stands for a record id or for itself. -/
theorem ofId_cases (id : String) : ofId id = .text id ∨ ∃ hex, ofId id = .recordId hex := by
  unfold ofId
  dsimp only
  split
  · exact .inr ⟨_, rfl⟩
  · exact .inl rfl

/-- What an id stands for equals only itself. -/
theorem isSameLeaf_ofId_iff {v : Value} {id : String} : v.isSameLeaf (ofId id) = true ↔ v = ofId id := by
  rcases ofId_cases id with text | ⟨hex, record⟩
  · rw [text]
    cases v <;> simp [isSameLeaf]
  · rw [record]
    cases v <;> simp [isSameLeaf]

end Value

namespace Entries

variable {doc : Entries} {key id : String}

/-- An entry equals what an id stands for only if it is that. -/
theorem holds_ofId_iff : doc.holds key (.ofId id) = true ↔ doc.lookup key = some (.ofId id) := by
  unfold holds
  cases doc.lookup key with
  | none => simp
  | some v => simp [Value.isSameLeaf_ofId_iff]

theorem holdsAll_ofId_iff :
    doc.holdsAll [("_id", .ofId id)] = true ↔ doc.lookup "_id" = some (.ofId id) := by
  simp [holdsAll, holds_ofId_iff]

end Entries

namespace Documents

variable {docs : Documents} {doc : Entries} {id : String}

/-- No two of the documents have one id. -/
def AreDistinct (docs : Documents) : Prop :=
  docs.Pairwise fun d d' => d.lookup "_id" ≠ d'.lookup "_id"

theorem lookup_of_find? (h : docs.find? [("_id", .ofId id)] = some doc) :
    doc ∈ docs ∧ doc.lookup "_id" = some (.ofId id) :=
  ⟨List.mem_of_find?_eq_some h, Entries.holdsAll_ofId_iff.mp (by simpa using List.find?_some h)⟩

theorem find?_cons_of_own (own : doc.lookup "_id" = some (.ofId id)) (docs : Documents) :
    Documents.find? (doc :: docs) [("_id", .ofId id)] = some doc := by
  rw [find?, List.find?_cons, Entries.holdsAll_ofId_iff.mpr own]

theorem find?_cons_of_other (other : doc.lookup "_id" ≠ some (.ofId id)) (docs : Documents) :
    Documents.find? (doc :: docs) [("_id", .ofId id)] = docs.find? [("_id", .ofId id)] := by
  rw [find?, List.find?_cons, Bool.eq_false_iff.mpr (other ∘ Entries.holdsAll_ofId_iff.mp), find?]

/-- Nothing else is found by an id than a document that has it. -/
theorem find?_eq_none (other : ∀ doc ∈ docs, doc.lookup "_id" ≠ some (.ofId id)) :
    docs.find? [("_id", .ofId id)] = none := by
  refine List.find?_eq_none.mpr fun doc here found => other doc here ?_
  exact Entries.holdsAll_ofId_iff.mp (by simpa using found)

/-- Where ids are distinct, a document is found by the id that stands for its own. -/
theorem AreDistinct.find?_eq (distinct : docs.AreDistinct) (mem : doc ∈ docs)
    (h : doc.lookup "_id" = some (.ofId id)) : docs.find? [("_id", .ofId id)] = some doc := by
  induction docs with
  | nil => cases mem
  | cons d rest ih =>
    obtain ⟨apart, later⟩ := List.pairwise_cons.mp distinct
    unfold find? at ih ⊢
    rw [List.find?_cons]
    rcases List.mem_cons.mp mem with rfl | there
    · rw [Entries.holdsAll_ofId_iff.mpr h]
    · have other : d.holdsAll [("_id", .ofId id)] = false := by
        rw [Bool.eq_false_iff]
        exact fun found => apart doc there ((Entries.holdsAll_ofId_iff.mp found).trans h.symm)
      rw [other]
      exact ih later there

/-- Where ids are distinct, the order of the documents is of no account. -/
theorem AreDistinct.find?_perm (distinct : docs.AreDistinct) {docs' : Documents} (perm : docs'.Perm docs)
    (id : String) : docs'.find? [("_id", .ofId id)] = docs.find? [("_id", .ofId id)] := by
  have distinct' : docs'.AreDistinct := distinct.perm perm.symm fun differ => differ.symm
  cases found : Documents.find? docs [("_id", .ofId id)] with
  | some doc =>
    obtain ⟨mem, h⟩ := lookup_of_find? found
    exact distinct'.find?_eq (perm.mem_iff.mpr mem) h
  | none =>
    refine find?_eq_none fun doc here h => ?_
    rw [distinct.find?_eq (perm.mem_iff.mp here) h] at found
    cases found

theorem AreDistinct.filter (distinct : docs.AreDistinct) (p : Entries → Bool) :
    AreDistinct (docs.filter p) := List.Pairwise.filter p distinct

/-- Where ids are distinct, a search among some of the documents finds the one that is found among all, or
nothing. -/
theorem AreDistinct.find?_filter (distinct : docs.AreDistinct) (p : Entries → Bool) (id : String) :
    Documents.find? (docs.filter p) [("_id", .ofId id)] = (docs.find? [("_id", .ofId id)]).filter p := by
  cases found : Documents.find? docs [("_id", .ofId id)] with
  | none =>
    refine find?_eq_none fun doc here h => ?_
    rw [distinct.find?_eq (List.mem_filter.mp here).1 h] at found
    cases found
  | some doc =>
    obtain ⟨mem, h⟩ := lookup_of_find? found
    cases kept : p doc with
    | true =>
      rw [Option.filter_some_pos kept]
      exact (distinct.filter p).find?_eq (List.mem_filter.mpr ⟨mem, kept⟩) h
    | false =>
      rw [Option.filter_some_neg kept]
      refine find?_eq_none fun doc' here h' => ?_
      obtain ⟨mem', kept'⟩ := List.mem_filter.mp here
      rw [distinct.find?_eq mem' h', Option.some.injEq] at found
      rw [found, kept] at kept'
      cases kept'

end Documents

end ChatFlow
