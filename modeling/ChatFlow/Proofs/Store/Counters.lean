import ChatFlow.Proofs.Interpreter.Tallying

/-!
The counters of flows.

The document of a flow says how many of its runs are over, and how many of these were successful
(`Entries.tally?`). Counting a run adds one to the first, and one to the second if it was successful, and
writes the time (`Entries.CountsRun`). So it is for counters that are integers or absent
(`Store.countsOn_of_tallied`); the store refuses to add to what is no number.
-/

namespace ChatFlow

namespace Entries

/-- The count under a key: an integer, or 0 if nothing is there. -/
def count? (doc : Entries) (key : String) : Option Int :=
  match doc.lookup key with
  | none => some 0
  | some (.int n) => some n
  | some _ => none

/-- How many runs a document counts, and how many of them as successful. -/
def tally? (doc : Entries) : Option (Int × Int) :=
  (doc.count? "total_runs").bind fun total => (doc.count? "successful_runs").map fun good => (total, good)

variable {doc doc' : Entries} {key : String} {n k : Int}

theorem count?_insert_self (key : String) (n : Int) (doc : Entries) :
    (insert key (.int n) doc).count? key = some n := by
  rw [count?, lookup_insert_self]

theorem count?_insert_of_ne {other : String} (differs : other ≠ key) (v : Value) (doc : Entries) :
    (insert key v doc).count? other = doc.count? other := by
  rw [count?, lookup_insert_of_ne differs, count?]

/-- What is added to a count. -/
theorem increment?_of_count? (h : doc.count? key = some n) (amount : Int) :
    doc.increment? key amount = some (insert key (.int (n + amount)) doc) := by
  unfold count? at h
  unfold increment?
  cases stored : doc.lookup key with
  | none =>
    rw [stored] at h
    cases h
    rw [Int.zero_add]
  | some v =>
    rw [stored] at h
    cases v with
    | int m =>
      cases h
      rfl
    | _ => cases h

theorem tally?_eq_some_iff : doc.tally? = some (n, k) ↔
    doc.count? "total_runs" = some n ∧ doc.count? "successful_runs" = some k := by
  unfold tally?
  cases doc.count? "total_runs" <;> cases doc.count? "successful_runs" <;> simp

/-- What changes in the document of a flow when a run is counted. -/
def countedKeys : List String := ["total_runs", "successful_runs", "updated_at"]

/-- The document with these counts, changed now. -/
def withTally (doc : Entries) (now : Moment) (n k : Int) : Entries :=
  insert "updated_at" (.date now) (insert "successful_runs" (.int k) (insert "total_runs" (.int n) doc))

theorem tally?_withTally (doc : Entries) (now : Moment) (n k : Int) :
    (doc.withTally now n k).tally? = some (n, k) := by
  refine tally?_eq_some_iff.mpr ⟨?_, ?_⟩
  · rw [withTally, count?_insert_of_ne (by decide), count?_insert_of_ne (by decide), count?_insert_self]
  · rw [withTally, count?_insert_of_ne (by decide), count?_insert_self]

theorem lookup_withTally (doc : Entries) (now : Moment) (n k : Int) (other : key ∉ countedKeys) :
    (doc.withTally now n k).lookup key = doc.lookup key := by
  simp only [countedKeys, List.mem_cons, List.not_mem_nil, or_false, not_or] at other
  rw [withTally, lookup_insert_of_ne other.2.2, lookup_insert_of_ne other.2.1, lookup_insert_of_ne other.1]

/-- The second document is the first with one more run counted. -/
structure CountsRun (success : Bool) (doc doc' : Entries) : Prop where
  tally : ∃ n k, doc.tally? = some (n, k) ∧ doc'.tally? = some (n + 1, k + if success then 1 else 0)
  time : ∃ t, doc'.lookup "updated_at" = some (.date t)
  others : ∀ key, key ∉ countedKeys → doc'.lookup key = doc.lookup key

end Entries

namespace Store

open Entries (CountsRun)

variable {s t : Store} {now : Moment} {id : Value} {success : Bool} {docs docs' : Documents} {doc : Entries}

/-- A run can be counted on a document with counts. -/
theorem countedRun?_of_tally? {n k : Int} (now : Moment) (success : Bool) (h : doc.tally? = some (n, k)) :
    countedRun? now success doc = .ok (doc.withTally now (n + 1) (k + if success then 1 else 0)) := by
  obtain ⟨total, good⟩ := Entries.tally?_eq_some_iff.mp h
  have good' : (Entries.insert "total_runs" (.int (n + 1)) doc).count? "successful_runs" = some k :=
    (Entries.count?_insert_of_ne (by decide) _ _).trans good
  rw [countedRun?, Entries.increment?_of_count? total, Option.bind_some, Entries.increment?_of_count? good']
  rfl

/-- Then nothing else of it changes but the time. -/
theorem countsRun_withTally {n k : Int} (now : Moment) (success : Bool) (h : doc.tally? = some (n, k)) :
    CountsRun success doc (doc.withTally now (n + 1) (k + if success then 1 else 0)) :=
  ⟨⟨n, k, h, doc.tally?_withTally now _ _⟩, ⟨now, Entries.lookup_insert_self _ _ _⟩,
    fun _ other => doc.lookup_withTally now _ _ other⟩

/-- The second list is the first with one more run counted on the first document that has the id, if one
has. -/
inductive CountsOn (id : Value) (success : Bool) : Documents → Documents → Prop
  | absent : CountsOn id success [] []
  | here {doc doc' : Entries} {rest : Documents} (own : doc.lookup "_id" = some id)
    (counts : CountsRun success doc doc') : CountsOn id success (doc :: rest) (doc' :: rest)
  | later {doc : Entries} {rest left : Documents} (other : doc.lookup "_id" ≠ some id)
    (counts : CountsOn id success rest left) : CountsOn id success (doc :: rest) (doc :: left)

/-- All flows have counts. -/
def AreCounted (docs : Documents) : Prop := ∀ doc ∈ docs, doc.tally?.isSome = true

/-- No flow has more successful runs than runs. -/
def AreOrdered (docs : Documents) : Prop := ∀ doc ∈ docs, ∀ n k, doc.tally? = some (n, k) → k ≤ n

/-- Where all flows have counts, the run is counted. -/
theorem countsOn_of_tallied (tallied : Tallied id now success docs docs') (counted : AreCounted docs) :
    CountsOn id success docs docs' := by
  induction tallied with
  | absent => exact .absent
  | here own =>
    obtain ⟨⟨n, k⟩, tally⟩ := Option.isSome_iff_exists.mp (counted _ List.mem_cons_self)
    rw [countedRun?_of_tally? now success tally]
    exact .here own (countsRun_withTally now success tally)
  | later other tallied ih => exact .later other (ih fun doc here => counted doc (List.mem_cons_of_mem _ here))

namespace CountsOn

variable (h : CountsOn id success docs docs')
include h

/-- Where a document comes from after the count. -/
theorem mem_cases {doc' : Entries} (mem : doc' ∈ docs') :
    doc' ∈ docs ∨ ∃ doc ∈ docs, CountsRun success doc doc' := by
  induction h with
  | absent => cases mem
  | here own counts =>
    rcases List.mem_cons.mp mem with rfl | old
    · exact .inr ⟨_, List.mem_cons_self, counts⟩
    · exact .inl (List.mem_cons_of_mem _ old)
  | later other _ ih =>
    rcases List.mem_cons.mp mem with rfl | new
    · exact .inl List.mem_cons_self
    · rcases ih new with old | ⟨doc, was, counts⟩
      · exact .inl (List.mem_cons_of_mem _ old)
      · exact .inr ⟨doc, List.mem_cons_of_mem _ was, counts⟩

theorem areCounted (counted : AreCounted docs) : AreCounted docs' := by
  intro doc' here
  rcases h.mem_cases here with old | ⟨doc, was, counts⟩
  · exact counted doc' old
  · obtain ⟨n, k, -, tally'⟩ := counts.tally
    rw [tally']
    rfl

theorem areOrdered (ordered : AreOrdered docs) : AreOrdered docs' := by
  intro doc' here n' k' tally'
  rcases h.mem_cases here with old | ⟨doc, was, counts⟩
  · exact ordered doc' old n' k' tally'
  · obtain ⟨n, k, tally, counted⟩ := counts.tally
    have below := ordered doc was n k tally
    rw [counted] at tally'
    cases tally'
    split <;> omega

end CountsOn

/-- What the flow of an id counts. -/
def tally? (s : Store) (id : String) : Option (Int × Int) :=
  (s.flow? id).bind Entries.tally?

/-- The counts after so many runs. -/
def plus (runs : List Bool) (tally : Int × Int) : Int × Int :=
  (tally.1 + runs.length, tally.2 + runs.count true)

theorem map_plus_nil (tally : Option (Int × Int)) : tally.map (plus []) = tally := by
  cases tally <;> simp [plus]

theorem map_plus_append (runs later : List Bool) (tally : Option (Int × Int)) :
    tally.map (plus (runs ++ later)) = (tally.map (plus runs)).map (plus later) := by
  cases tally <;> simp [plus, Int.add_assoc]

/-- What the flow of an id counts after a run was counted on a document. -/
theorem CountsOn.find? {counted id : String} (h : CountsOn (.ofId counted) success docs docs') :
    (docs'.find? [("_id", .ofId id)]).bind Entries.tally? =
      ((docs.find? [("_id", .ofId id)]).bind Entries.tally?).map
        (plus (if (Value.ofId counted).isSameLeaf (.ofId id) then [success] else [])) := by
  induction h with
  | absent => rfl
  | @here doc doc' rest own counts =>
    have own' : doc'.lookup "_id" = some (.ofId counted) := (counts.others "_id" (by decide)).trans own
    by_cases same : Value.ofId counted = .ofId id
    · rw [same] at own own'
      rw [Documents.find?_cons_of_own own, Documents.find?_cons_of_own own',
        if_pos (Value.isSameLeaf_ofId_iff.mpr same)]
      obtain ⟨n, k, tally, tally'⟩ := counts.tally
      rw [Option.bind_some, Option.bind_some, tally, tally']
      cases success <;> rfl
    · have differs : some (Value.ofId counted) ≠ some (.ofId id) := same ∘ Option.some.inj
      rw [← own] at differs
      have differs' := differs
      rw [own, ← own'] at differs'
      rw [Documents.find?_cons_of_other differs, Documents.find?_cons_of_other differs',
        if_neg (same ∘ Value.isSameLeaf_ofId_iff.mp), map_plus_nil]
  | @later doc rest left other counts ih =>
    by_cases mine : doc.lookup "_id" = some (.ofId id)
    · have differs : Value.ofId counted ≠ .ofId id := fun same => other (mine.trans (congrArg some same.symm))
      rw [Documents.find?_cons_of_own mine, Documents.find?_cons_of_own mine,
        if_neg (differs ∘ Value.isSameLeaf_ofId_iff.mp), map_plus_nil]
    · rw [Documents.find?_cons_of_other mine, Documents.find?_cons_of_other mine, ih]

end Store

end ChatFlow
