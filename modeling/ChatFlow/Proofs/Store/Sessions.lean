import ChatFlow.Proofs.World.Quiet

/-!
The sessions of one conversation.

An access to the sessions names a conversation and works on the first document that has it. This module
says what such an access does to `sessionsOf`, the documents of one conversation in the order of the
store, and that it leaves all other documents alone.

The first two sections are about single documents and about lists of documents: changing and removing
the first match commute with keeping the documents that satisfy a test, as long as every match
satisfies the test, and are invisible to the test if no match satisfies it.
-/

namespace ChatFlow

/-! ## Documents -/

namespace Entries

variable {doc : Entries} {key : String}

/-- An entry equals a text only if it is that text. -/
theorem holds_text_iff {s : String} :
    doc.holds key (.text s) = true ↔ doc.lookup key = some (.text s) := by
  unfold holds
  cases h : doc.lookup key with
  | none => simp
  | some v => cases v <;> simp [Value.isSameLeaf]

/-- An entry that is an integer equals only that integer. -/
theorem holds_int_of_lookup {m n : Int} (h : doc.lookup key = some (.int m)) :
    doc.holds key (.int n) = (m == n) := by
  simp [holds, h, Value.isSameLeaf]

theorem getD_of_lookup {v : Value} (h : doc.lookup key = some v) : doc.getD key = v := by
  simp [getD, h]

/-- Writing other keys over a document leaves an entry alone. -/
theorem lookup_update_of_notMem (changes : Entries) (h : key ∉ changes.map Prod.fst) :
    (update doc changes).lookup key = doc.lookup key := by
  unfold update
  induction changes generalizing doc with
  | nil => rfl
  | cons c rest ih =>
    rw [List.map_cons, List.mem_cons, not_or] at h
    rw [List.foldl_cons, ih h.2, lookup_insert_of_ne h.1]

/-- What is not among the changes of a document stays as it was. -/
theorem lookup_update_of_none {changes : Entries} (none : changes.lookup key = none) :
    (update doc changes).lookup key = doc.lookup key := by
  refine lookup_update_of_notMem changes fun here => ?_
  obtain ⟨e, listed, rfl⟩ := List.mem_map.mp here
  have apart := List.lookup_eq_none_iff.mp none e listed
  rw [bne_self_eq_false] at apart
  cases apart

/-- What is written over a document is there. -/
theorem lookup_update_of_lookup {changes : Entries} (once : (changes.map Prod.fst).Nodup) (doc : Entries)
    {key : String} {v : Value} (h : changes.lookup key = some v) :
    (update doc changes).lookup key = some v := by
  induction changes generalizing doc with
  | nil => cases h
  | cons change rest ih =>
    obtain ⟨k, new⟩ := change
    rw [List.map_cons, List.nodup_cons] at once
    rw [update, List.foldl_cons]
    by_cases here : key = k
    · subst here
      rw [List.lookup_cons_self] at h
      have last : (update (insert key new doc) rest).lookup key = (insert key new doc).lookup key :=
        lookup_update_of_notMem rest once.1
      rw [update] at last
      rw [last, lookup_insert_self, h]
    · rw [List.lookup_cons, beq_false_of_ne here] at h
      exact ih once.2 (insert k new doc) h

end Entries

/-! ## Lists of documents -/

namespace Documents

variable {filter : Entries} {change : Entries → Entries} {p : Entries → Bool}

/-- A search sees only the documents that satisfy what every match satisfies. -/
theorem find?_filter (only : ∀ doc : Entries, doc.holdsAll filter = true → p doc = true)
    (docs : Documents) : Documents.find? (docs.filter p) filter = docs.find? filter := by
  unfold find?
  rw [List.find?_filter]
  congr 1
  funext doc
  cases h : doc.holdsAll filter with
  | false => simp
  | true => simp [only doc h]

theorem filter_modifyFirst (only : ∀ doc : Entries, doc.holdsAll filter = true →
      p doc = true ∧ p (change doc) = true) (docs : Documents) :
    (modifyFirst filter change docs).filter p = modifyFirst filter change (docs.filter p) := by
  induction docs with
  | nil => rfl
  | cons doc rest ih =>
    rw [modifyFirst]
    split
    · rename_i found
      obtain ⟨before, after⟩ := only doc found
      rw [List.filter_cons_of_pos after, List.filter_cons_of_pos before, modifyFirst, if_pos found]
    · rename_i differs
      cases h : p doc with
      | false => rw [List.filter_cons_of_neg (by simp [h]), List.filter_cons_of_neg (by simp [h]), ih]
      | true => rw [List.filter_cons_of_pos h, List.filter_cons_of_pos h, modifyFirst,
          if_neg differs, ih]

theorem filter_modifyFirst_of_not (never : ∀ doc : Entries, doc.holdsAll filter = true →
      p doc = false ∧ p (change doc) = false) (docs : Documents) :
    (modifyFirst filter change docs).filter p = docs.filter p := by
  induction docs with
  | nil => rfl
  | cons doc rest ih =>
    rw [modifyFirst]
    split
    · rename_i found
      obtain ⟨before, after⟩ := never doc found
      rw [List.filter_cons_of_neg (by simp [after]), List.filter_cons_of_neg (by simp [before])]
    · rw [List.filter_cons, List.filter_cons, ih]

theorem filter_removeFirst (only : ∀ doc : Entries, doc.holdsAll filter = true → p doc = true)
    (docs : Documents) :
    (removeFirst filter docs).filter p = removeFirst filter (docs.filter p) := by
  induction docs with
  | nil => rfl
  | cons doc rest ih =>
    rw [removeFirst]
    split
    · rename_i found
      rw [List.filter_cons_of_pos (only doc found), removeFirst, if_pos found]
    · rename_i differs
      cases h : p doc with
      | false => rw [List.filter_cons_of_neg (by simp [h]), List.filter_cons_of_neg (by simp [h]), ih]
      | true => rw [List.filter_cons_of_pos h, List.filter_cons_of_pos h, removeFirst,
          if_neg differs, ih]

theorem filter_removeFirst_of_not
    (never : ∀ doc : Entries, doc.holdsAll filter = true → p doc = false) (docs : Documents) :
    (removeFirst filter docs).filter p = docs.filter p := by
  induction docs with
  | nil => rfl
  | cons doc rest ih =>
    rw [removeFirst]
    split
    · rename_i found
      rw [List.filter_cons_of_neg (by simp [never doc found])]
    · rw [List.filter_cons, List.filter_cons, ih]

/-- A removal leaves a list alone exactly if nothing in it matches. -/
theorem removeFirst_eq_self_iff {docs : Documents} :
    removeFirst filter docs = docs ↔ docs.find? filter = none := by
  unfold find?
  induction docs with
  | nil => simp [removeFirst]
  | cons doc rest ih =>
    cases found : doc.holdsAll filter with
    | true => simp [removeFirst, found]
    | false => simp [removeFirst, found, ih]

/-- Changing a match before it is removed makes no difference. -/
theorem removeFirst_modifyFirst (keeps : ∀ doc : Entries, doc.holdsAll filter = true →
      (change doc).holdsAll filter = true) (docs : Documents) :
    removeFirst filter (modifyFirst filter change docs) = removeFirst filter docs := by
  induction docs with
  | nil => rfl
  | cons doc rest ih =>
    rw [modifyFirst]
    split
    · rename_i found
      rw [removeFirst, if_pos (keeps doc found), removeFirst, if_pos found]
    · rename_i differs
      rw [removeFirst, if_neg differs, removeFirst, if_neg differs, ih]

/-- A document that is there after a change was there before, or is what a document was changed to. -/
theorem mem_modifyFirst {docs : Documents} {doc : Entries} (here : doc ∈ modifyFirst filter change docs) :
    doc ∈ docs ∨ ∃ was ∈ docs, doc = change was := by
  induction docs with
  | nil => cases here
  | cons d rest ih =>
    rw [modifyFirst] at here
    split at here
    · rcases List.mem_cons.mp here with same | later
      · exact .inr ⟨d, List.mem_cons_self, same⟩
      · exact .inl (List.mem_cons_of_mem d later)
    · rcases List.mem_cons.mp here with same | later
      · exact .inl (same ▸ List.mem_cons_self)
      · rcases ih later with old | ⟨was, old, same⟩
        · exact .inl (List.mem_cons_of_mem d old)
        · exact .inr ⟨was, List.mem_cons_of_mem d old, same⟩

/-- A document that is there after a removal was there before. -/
theorem mem_of_mem_removeFirst {docs : Documents} {doc : Entries} (here : doc ∈ removeFirst filter docs) :
    doc ∈ docs := by
  induction docs with
  | nil => cases here
  | cons d rest ih =>
    rw [removeFirst] at here
    split at here
    · exact List.mem_cons_of_mem d here
    · rcases List.mem_cons.mp here with same | later
      · exact same ▸ List.mem_cons_self
      · exact List.mem_cons_of_mem d (ih later)

theorem modifyFirst_singleton {doc : Entries} (h : doc.holdsAll filter = true) :
    modifyFirst filter change [doc] = [change doc] := by
  rw [modifyFirst, if_pos h]

theorem removeFirst_singleton {doc : Entries} (h : doc.holdsAll filter = true) :
    removeFirst filter [doc] = [] := by
  rw [removeFirst, if_pos h]

end Documents

/-! ## Tests on sessions -/

namespace Store

variable {conv : String} {doc : Entries}

theorem holdsAll_sessionOf :
    doc.holdsAll (sessionOf conv) = true ↔ doc.lookup "conversation_id" = some (.text conv) := by
  simp only [Entries.holdsAll, sessionOf, List.all_cons, List.all_nil, Bool.and_true,
    Entries.holds_text_iff]

theorem holdsAll_sessionAt {n : Int} :
    doc.holdsAll (sessionAt conv n) = true ↔
      doc.holdsAll (sessionOf conv) = true ∧ doc.holds "sequence" (.int n) = true := by
  simp only [Entries.holdsAll, sessionOf, sessionAt, List.all_cons, List.all_nil, Bool.and_true,
    Bool.and_eq_true]

/-- Writing keys other than the conversation leaves a document with its conversation. -/
theorem holdsAll_sessionOf_update {changes : Entries}
    (h : "conversation_id" ∉ changes.map Prod.fst) :
    (Entries.update doc changes).holdsAll (sessionOf conv) = doc.holdsAll (sessionOf conv) := by
  rw [Bool.eq_iff_iff, holdsAll_sessionOf, holdsAll_sessionOf,
    Entries.lookup_update_of_notMem changes h]

/-- A document that a session is inserted as belongs to the conversation of the session. -/
theorem holdsAll_sessionOf_toEntries (s : Session) (id : Value) :
    Entries.holdsAll (("_id", id) :: s.toEntries) (sessionOf conv) = (s.conversationId == conv) := by
  rw [Bool.eq_iff_iff, holdsAll_sessionOf]
  simp [Session.toEntries, List.lookup_cons]

/-! ### Advanced documents -/

variable {fields : Entries}

theorem increment?_int {n amount : Int} {key : String} (h : doc.lookup key = some (.int n)) :
    doc.increment? key amount = some (Entries.insert key (.int (n + amount)) doc) := by
  simp [Entries.increment?, h]

/-- The sequence number of a document goes up by one with a save. -/
theorem advanced_of_sequence {n : Int} (other : "sequence" ∉ fields.map Prod.fst)
    (h : doc.lookup "sequence" = some (.int n)) :
    advanced fields doc = Entries.insert "sequence" (.int (n + 1)) (Entries.update doc fields) := by
  have kept : (Entries.update doc fields).lookup "sequence" = some (.int n) := by
    rw [Entries.lookup_update_of_notMem fields other, h]
  simp only [advanced, increment?_int kept, Option.getD_some]

/-- What a save leaves of a document: every entry but the sequence number and the fields written. -/
theorem lookup_advanced {key : String} (h : key ≠ "sequence") :
    (advanced fields doc).lookup key = (Entries.update doc fields).lookup key := by
  unfold advanced
  dsimp only
  cases counted : (Entries.update doc fields).increment? "sequence" 1 with
  | none => rfl
  | some d =>
    have written : ∃ v, d = Entries.insert "sequence" v (Entries.update doc fields) := by
      unfold Entries.increment? at counted
      split at counted
      · exact ⟨_, (Option.some.inj counted).symm⟩
      · exact ⟨_, (Option.some.inj counted).symm⟩
      · exact ⟨_, (Option.some.inj counted).symm⟩
      · cases counted
    obtain ⟨v, rfl⟩ := written
    rw [Option.getD_some, Entries.lookup_insert_of_ne h]

theorem holdsAll_sessionOf_advanced (h : "conversation_id" ∉ fields.map Prod.fst) :
    (advanced fields doc).holdsAll (sessionOf conv) = doc.holdsAll (sessionOf conv) := by
  rw [Bool.eq_iff_iff, holdsAll_sessionOf, holdsAll_sessionOf, lookup_advanced (by decide),
    Entries.lookup_update_of_notMem fields h]

/-! ## The sessions of a conversation -/

variable {s : Store}

/-- The documents of a conversation. -/
def sessionsOf (s : Store) (conv : String) : Documents :=
  s.sessions.filter (·.holdsAll (sessionOf conv))

/-- A conversation has one session at most. -/
def IsKeyed (s : Store) (conv : String) : Prop :=
  (s.sessionsOf conv).length ≤ 1

theorem filter_filter_sessionOf (p : Entries → Bool) :
    (s.sessions.filter p).filter (·.holdsAll (sessionOf conv)) = (s.sessionsOf conv).filter p := by
  rw [sessionsOf, List.filter_filter, List.filter_filter]
  congr 1
  funext d
  exact Bool.and_comm _ _

theorem session?_eq_head? : s.session? conv = (s.sessionsOf conv).head? := by
  rw [session?, sessionsOf, Documents.find?, List.head?_filter]

theorem session?_of_sessionsOf (h : s.sessionsOf conv = [doc]) : s.session? conv = some doc := by
  rw [session?_eq_head?, h, List.head?_cons]

theorem session?_eq_none_iff : s.session? conv = none ↔ s.sessionsOf conv = [] := by
  rw [session?_eq_head?, List.head?_eq_none_iff]

theorem isKeyed_of_nil (h : s.sessionsOf conv = []) : s.IsKeyed conv := by
  rw [IsKeyed, h]
  exact Nat.zero_le 1

theorem isKeyed_of_singleton (h : s.sessionsOf conv = [doc]) : s.IsKeyed conv := by
  rw [IsKeyed, h]
  exact Nat.le_refl 1

/-- A session of a conversation with one session at most is all of its documents. -/
theorem IsKeyed.sessionsOf_eq_of_mem (keyed : s.IsKeyed conv) (h : doc ∈ s.sessionsOf conv) :
    s.sessionsOf conv = [doc] := by
  unfold IsKeyed at keyed
  match found : s.sessionsOf conv with
  | [] => simp [found] at h
  | [d] => simpa [found, eq_comm] using h
  | _ :: _ :: _ => simp [found] at keyed

theorem IsKeyed.sessionsOf_eq (keyed : s.IsKeyed conv) (h : s.session? conv = some doc) :
    s.sessionsOf conv = [doc] := by
  rw [session?_eq_head?] at h
  exact keyed.sessionsOf_eq_of_mem (List.mem_of_head? h)

theorem holdsAll_of_sessionsOf (h : s.sessionsOf conv = [doc]) :
    doc.holdsAll (sessionOf conv) = true := by
  have : doc ∈ s.sessionsOf conv := h ▸ List.mem_singleton_self doc
  exact (List.mem_filter.mp this).2

theorem holdsAll_of_session? (h : s.session? conv = some doc) :
    doc.holdsAll (sessionOf conv) = true :=
  List.find?_some (p := fun d : Entries => d.holdsAll (sessionOf conv)) h

/-- The search for a sequence number looks at the documents of the conversation only. -/
theorem find?_sessionAt (s : Store) (conv : String) (n : Int) :
    s.sessions.find? (sessionAt conv n) = (s.sessionsOf conv).find? (sessionAt conv n) :=
  (Documents.find?_filter (fun _ h => (holdsAll_sessionAt.mp h).1) s.sessions).symm

/-- The one document of a conversation is found by the numbers that equal its sequence number only. -/
theorem find?_sessionAt_singleton (n : Int) (h : s.sessionsOf conv = [doc]) :
    s.sessions.find? (sessionAt conv n) = if doc.holds "sequence" (.int n) then some doc else none := by
  have found : doc.holdsAll (sessionAt conv n) = doc.holds "sequence" (.int n) := by
    rw [Bool.eq_iff_iff, holdsAll_sessionAt]
    exact and_iff_right (holdsAll_of_sessionsOf h)
  rw [find?_sessionAt, h, Documents.find?, List.find?_cons, found]
  cases doc.holds "sequence" (.int n) <;> rfl

theorem find?_sessionAt_of_sequence {m : Int} (n : Int) (h : s.sessionsOf conv = [doc])
    (sequence : doc.lookup "sequence" = some (.int m)) :
    s.sessions.find? (sessionAt conv n) = if m = n then some doc else none := by
  rw [find?_sessionAt_singleton n h, Entries.holds_int_of_lookup sequence]
  by_cases same : m = n
  · rw [if_pos same, if_pos (beq_iff_eq.mpr same)]
  · rw [if_neg same, if_neg (by simpa using same)]

/-! ### What an access leaves -/

theorem sessionsOf_change_append (d : Entries) :
    (s.change .sessions (· ++ [d])).sessionsOf conv =
      s.sessionsOf conv ++ if d.holdsAll (sessionOf conv) then [d] else [] := by
  show (s.sessions ++ [d]).filter _ = _
  rw [List.filter_append, List.filter_cons, List.filter_nil]
  rfl

theorem sessionsOf_change_modifyFirst {filter : Entries} {change : Entries → Entries}
    (only : ∀ d : Entries, d.holdsAll filter = true →
      d.holdsAll (sessionOf conv) = true ∧ (change d).holdsAll (sessionOf conv) = true) :
    (s.change .sessions (Documents.modifyFirst filter change)).sessionsOf conv =
      Documents.modifyFirst filter change (s.sessionsOf conv) :=
  Documents.filter_modifyFirst only s.sessions

theorem sessionsOf_change_removeFirst {filter : Entries}
    (only : ∀ d : Entries, d.holdsAll filter = true → d.holdsAll (sessionOf conv) = true) :
    (s.change .sessions (Documents.removeFirst filter)).sessionsOf conv =
      Documents.removeFirst filter (s.sessionsOf conv) :=
  Documents.filter_removeFirst only s.sessions

end Store

end ChatFlow
