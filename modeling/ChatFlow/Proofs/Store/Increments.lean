import ChatFlow.Proofs.Store.Counters

/-!
Counting runs in any order.

The store adds to integers, and to a counter that is absent. It also adds to floating-point numbers, where
the sum may be rounded, and refuses to add to anything else. On a document whose counters are no
floating-point numbers (`Entries.IsExact`) it makes no difference which of two runs is counted first
(`Store.counting_comm`): what is written under a key takes the place of what was written there before. So
runs can be counted in any order on the first documents of two ids, be they one id or not
(`Store.countOn_comm`).
-/

namespace ChatFlow

namespace Entries

variable {doc : Entries} {key other : String}

/-! ## Writing under two keys -/

/-- The later of two values under one key takes the place of the earlier. -/
theorem insert_insert (key : String) (v v' : Value) (doc : Entries) :
    insert key v' (insert key v doc) = insert key v' doc := by
  induction doc with
  | nil => simp [insert]
  | cons entry rest ih =>
    obtain ⟨k, u⟩ := entry
    by_cases same : k = key
    · simp [insert, same]
    · simp [insert, same, ih]

/-- If one of two keys is there already, it makes no difference which is written first. -/
theorem insert_comm (there : (doc.lookup key).isSome = true) (differs : key ≠ other) (v v' : Value) :
    insert key v (insert other v' doc) = insert other v' (insert key v doc) := by
  induction doc with
  | nil => cases there
  | cons entry rest ih =>
    obtain ⟨k, u⟩ := entry
    by_cases same : k = key
    · subst same
      simp [insert, differs]
    · have there' : (rest.lookup key).isSome = true := by
        rwa [List.lookup_cons, beq_false_of_ne (Ne.symm same)] at there
      by_cases same' : k = other
      · simp [insert, same', differs.symm]
      · simp [insert, same, same', ih there']

/-- Later counts take the place of earlier ones. -/
theorem withTally_withTally (doc : Entries) (now : Moment) (n k n' k' : Int) :
    (doc.withTally now n k).withTally now n' k' = doc.withTally now n' k' := by
  have total : ((insert "successful_runs" (.int k) (insert "total_runs" (.int n) doc)).lookup
      "total_runs").isSome = true := by
    rw [lookup_insert_of_ne (by decide), lookup_insert_self, Option.isSome_some]
  have total' : ((insert "total_runs" (.int n) doc).lookup "total_runs").isSome = true := by
    rw [lookup_insert_self, Option.isSome_some]
  have good : ((insert "successful_runs" (.int k) (insert "total_runs" (.int n') doc)).lookup
      "successful_runs").isSome = true := by
    rw [lookup_insert_self, Option.isSome_some]
  unfold withTally
  rw [insert_comm total (by decide), insert_comm total' (by decide), insert_insert "total_runs",
    insert_comm good (by decide), insert_insert "successful_runs", insert_insert "updated_at"]

/-! ## Counters that are added to exactly -/

/-- The counters are no floating-point numbers. -/
def IsExact (doc : Entries) : Prop :=
  ∀ key ∈ ["total_runs", "successful_runs"], ∀ x, doc.lookup key ≠ some (.float x)

theorem increment?_of_count?_none (exact : ∀ x, doc.lookup key ≠ some (.float x))
    (none : doc.count? key = none) (amount : Int) : doc.increment? key amount = .none := by
  unfold count? at none
  unfold increment?
  cases stored : doc.lookup key with
  | none =>
    rw [stored] at none
    cases none
  | some v =>
    rw [stored] at none
    cases v with
    | int n => cases none
    | float x => exact absurd stored (exact x)
    | _ => rfl

end Entries

namespace Documents

variable {filter filter' : Entries} {change change' : Entries → Entries} {docs : Documents}

/-- Two changes can be made in any order if they commute on every document and neither moves what the other
finds. -/
theorem modifyFirst_comm (keeps : ∀ doc ∈ docs, (change doc).holdsAll filter' = doc.holdsAll filter')
    (keeps' : ∀ doc ∈ docs, (change' doc).holdsAll filter = doc.holdsAll filter)
    (comm : ∀ doc ∈ docs, change (change' doc) = change' (change doc)) :
    modifyFirst filter change (modifyFirst filter' change' docs)
      = modifyFirst filter' change' (modifyFirst filter change docs) := by
  induction docs with
  | nil => rfl
  | cons doc rest ih =>
    have first : doc ∈ doc :: rest := List.mem_cons_self
    have ih := ih (fun d here => keeps d (List.mem_cons_of_mem _ here))
      (fun d here => keeps' d (List.mem_cons_of_mem _ here))
      fun d here => comm d (List.mem_cons_of_mem _ here)
    cases mine : doc.holdsAll filter <;> cases mine' : doc.holdsAll filter' <;>
      simp [modifyFirst, mine, mine', keeps doc first, keeps' doc first, comm doc first, ih]

end Documents

namespace Store

variable {now : Moment} {success : Bool} {docs : Documents} {doc : Entries}

/-- The document after one more run, if it can be counted there. -/
def counting (now : Moment) (success : Bool) (doc : Entries) : Entries :=
  (countedRun? now success doc).toOption.getD doc

theorem counting_of_tally? {n k : Int} (now : Moment) (success : Bool) (h : doc.tally? = some (n, k)) :
    counting now success doc = doc.withTally now (n + 1) (k + if success then 1 else 0) := by
  rw [counting, countedRun?_of_tally? now success h]
  rfl

/-- Without counts nothing is counted. -/
theorem counting_of_tally?_none (exact : doc.IsExact) (none : doc.tally? = none) (now : Moment)
    (success : Bool) : counting now success doc = doc := by
  have refused : (doc.increment? "total_runs" 1).bind
      (fun d => d.increment? "successful_runs" (if success then 1 else 0)) = .none := by
    cases total : doc.count? "total_runs" with
    | none => rw [Entries.increment?_of_count?_none (exact _ (by simp)) total, Option.bind_none]
    | some n =>
      rw [Entries.increment?_of_count? total, Option.bind_some]
      refine Entries.increment?_of_count?_none (fun x => ?_) ?_ _
      · rw [Entries.lookup_insert_of_ne (by decide)]
        exact exact _ (by simp) x
      · rw [Entries.count?_insert_of_ne (by decide)]
        rwa [Entries.tally?, total, Option.bind_some, Option.map_eq_none_iff] at none
  rw [counting, countedRun?, refused]
  rfl

theorem lookup_counting (exact : doc.IsExact) (now : Moment) (success : Bool) {key : String}
    (other : key ∉ Entries.countedKeys) : (counting now success doc).lookup key = doc.lookup key := by
  cases tally : doc.tally? with
  | none => rw [counting_of_tally?_none exact tally]
  | some p => rw [counting_of_tally? now success tally, doc.lookup_withTally now _ _ other]

/-- It makes no difference which of two runs is counted first. -/
theorem counting_comm (exact : doc.IsExact) (now : Moment) (success success' : Bool) :
    counting now success (counting now success' doc) = counting now success' (counting now success doc) := by
  cases tally : doc.tally? with
  | none =>
    rw [counting_of_tally?_none exact tally, counting_of_tally?_none exact tally,
      counting_of_tally?_none exact tally]
  | some p =>
    obtain ⟨n, k⟩ := p
    rw [counting_of_tally? now success' tally, counting_of_tally? now success tally,
      counting_of_tally? now success (doc.tally?_withTally now _ _),
      counting_of_tally? now success' (doc.tally?_withTally now _ _), doc.withTally_withTally,
      doc.withTally_withTally, Int.add_right_comm k]

/-! ## Counting on the document of an id -/

/-- The counters of all flows are no floating-point numbers. -/
def AreExact (docs : Documents) : Prop := ∀ doc ∈ docs, doc.IsExact

/-- The flows after one more run of the flow of an id. -/
def countOn (now : Moment) (id : String) (success : Bool) (docs : Documents) : Documents :=
  docs.modifyFirst [("_id", .ofId id)] (counting now success)

/-- A run is counted on the first document with the id. -/
theorem Tallied.eq_countOn {docs' : Documents} {id : String}
    (tallied : Tallied (.ofId id) now success docs docs') : docs' = countOn now id success docs := by
  unfold countOn
  induction tallied with
  | absent => rfl
  | here own =>
    rw [Documents.modifyFirst, if_pos (Entries.holdsAll_ofId_iff.mpr own)]
    rfl
  | later other tallied ih =>
    rw [Documents.modifyFirst, if_neg (other ∘ Entries.holdsAll_ofId_iff.mp), ← ih]

/-- Runs of two flows, or of one, can be counted in any order. -/
theorem countOn_comm (exact : AreExact docs) (now : Moment) (id id' : String) (success success' : Bool) :
    countOn now id success (countOn now id' success' docs)
      = countOn now id' success' (countOn now id success docs) := by
  have keeps (success : Bool) (key : String) : ∀ doc ∈ docs,
      (counting now success doc).holdsAll [("_id", .ofId key)] = doc.holdsAll [("_id", .ofId key)] := by
    intro doc here
    rw [Bool.eq_iff_iff, Entries.holdsAll_ofId_iff, Entries.holdsAll_ofId_iff,
      lookup_counting (exact doc here) now success (by decide)]
  exact Documents.modifyFirst_comm (keeps success id') (keeps success' id) fun doc here =>
    counting_comm (exact doc here) now success success'

end Store

end ChatFlow
