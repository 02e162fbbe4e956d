import Mathlib.Data.List.Forall2
import ChatFlow.Proofs.Channel.Writing
import ChatFlow.Proofs.Template.Reading

/-!
Values with other texts in them.

Filling a value replaces the texts in it, each by what it is filled with, and nothing else: keys and their order,
lengths, nesting and all other leaves stay (`Template.fillWithin?_eq_ok_iff`). It succeeds exactly if each of the texts
can be filled. What a text is read as does not depend on the values, so nothing that is filled in is ever read
(`Template.fills_once`).
-/

namespace ChatFlow

namespace Value

variable {becomes : String → String → Prop} {s : String} {items : List Value} {entries : List (String × Value)}
  {w : Value}

/-! ## Other texts -/

/-- The value is no text and has no parts. -/
def isBare : Value → Bool
  | text _ | list _ | dict _ => false
  | _ => true

/-- The second value is the first with other texts in it, each of them in the relation to the text in its place. Keys
and their order, lengths and nesting are the same, and so is every leaf that is no text. -/
inductive Retexted (becomes : String → String → Prop) : Value → Value → Prop
  | text {s t : String} (here : becomes s t) : Retexted becomes (.text s) (.text t)
  | list {items items' : List Value} (each : List.Forall₂ (Retexted becomes) items items') :
    Retexted becomes (.list items) (.list items')
  | dict {entries entries' : List (String × Value)} (keys : entries'.map Prod.fst = entries.map Prod.fst)
    (each : List.Forall₂ (Retexted becomes) (entries.map Prod.snd) (entries'.map Prod.snd)) :
    Retexted becomes (.dict entries) (.dict entries')
  | bare {v : Value} (h : v.isBare = true) : Retexted becomes v v

theorem retexted_text_iff : (text s).Retexted becomes w ↔ ∃ t, becomes s t ∧ text t = w := by
  constructor
  · intro h
    cases h with
    | text here => exact ⟨_, here, rfl⟩
    | bare h => cases h
  · rintro ⟨t, here, rfl⟩
    exact .text here

theorem retexted_list_iff :
    (list items).Retexted becomes w ↔ ∃ items', List.Forall₂ (Retexted becomes) items items' ∧ list items' = w := by
  constructor
  · intro h
    cases h with
    | list each => exact ⟨_, each, rfl⟩
    | bare h => cases h
  · rintro ⟨items', each, rfl⟩
    exact .list each

theorem retexted_dict_iff :
    (dict entries).Retexted becomes w ↔ ∃ entries', (entries'.map Prod.fst = entries.map Prod.fst ∧
      List.Forall₂ (Retexted becomes) (entries.map Prod.snd) (entries'.map Prod.snd)) ∧ dict entries' = w := by
  constructor
  · intro h
    cases h with
    | dict keys each => exact ⟨_, ⟨keys, each⟩, rfl⟩
    | bare h => cases h
  · rintro ⟨entries', ⟨keys, each⟩, rfl⟩
    exact .dict keys each

theorem retexted_bare_iff {v : Value} (h : v.isBare = true) : v.Retexted becomes w ↔ v = w := by
  constructor
  · intro same
    cases same with
    | text | list | dict => cases h
    | bare => rfl
  · rintro rfl
    exact .bare h

/-- There is a list in the relation to another if there is an item for each of its items. -/
theorem exists_forall₂_iff {α β : Type} {R : α → β → Prop} {as : List α} :
    (∃ bs, List.Forall₂ R as bs) ↔ ∀ a ∈ as, ∃ b, R a b := by
  induction as with
  | nil => simp
  | cons a rest ih => simp [List.forall₂_cons_left_iff, ← ih]

/-- Other texts can stand in the value exactly if there is one for each text in it. -/
theorem exists_retexted_iff :
    ∀ v : Value, (∃ w, v.Retexted becomes w) ↔ ∀ s, v.Holds (.text s) → ∃ t, becomes s t
  | .text s => by
    constructor
    · rintro ⟨w, h⟩ s' ⟨⟩
      obtain ⟨t, here, -⟩ := retexted_text_iff.mp h
      exact ⟨t, here⟩
    · intro each
      obtain ⟨t, here⟩ := each s (.itself _)
      exact ⟨_, .text here⟩
  | .list items => by
    have parts : (∃ ws, List.Forall₂ (Retexted becomes) items ws) ↔
        ∀ v ∈ items, ∀ s, v.Holds (.text s) → ∃ t, becomes s t := by
      rw [exists_forall₂_iff]
      exact forall₂_congr fun v member => exists_retexted_iff v
    constructor
    · rintro ⟨w, h⟩ s inside
      obtain ⟨ws, each, -⟩ := retexted_list_iff.mp h
      cases inside with
      | item member inside => exact parts.mp ⟨ws, each⟩ _ member s inside
    · intro each
      obtain ⟨ws, others⟩ := parts.mpr fun v member s inside => each s (.item member inside)
      exact ⟨_, .list others⟩
  | .dict entries => by
    have parts : (∃ ws, List.Forall₂ (Retexted becomes) (entries.map Prod.snd) ws) ↔
        ∀ e ∈ entries, ∀ s, e.2.Holds (.text s) → ∃ t, becomes s t := by
      rw [exists_forall₂_iff, List.forall_mem_map]
      exact forall₂_congr fun e member => exists_retexted_iff e.2
    constructor
    · rintro ⟨w, h⟩ s inside
      obtain ⟨entries', ⟨-, each⟩, -⟩ := retexted_dict_iff.mp h
      cases inside with
      | entry member inside => exact parts.mp ⟨_, each⟩ _ member s inside
    · intro each
      obtain ⟨ws, others⟩ := parts.mpr fun e member s inside => each s (.entry member inside)
      have long : ws.length = (entries.map Prod.fst).length := by
        rw [← others.length_eq, List.length_map, List.length_map]
      -- The keys go with the new values.
      refine ⟨.dict ((entries.map Prod.fst).zip ws), .dict ?_ ?_⟩
      · rw [List.map_fst_zip long.ge]
      · rwa [List.map_snd_zip long.le]
  | .null | .bool _ | .int _ | .float _ | .date _ | .recordId _ => iff_of_true ⟨_, .bare rfl⟩ nofun
termination_by v => sizeOf v
decreasing_by
  · have := List.sizeOf_lt_of_mem member
    simp
    omega
  · have := List.sizeOf_lt_of_mem member
    obtain ⟨k, v⟩ := e
    simp at this ⊢
    omega

end Value

namespace Template

variable {scope : Value}

/-! ## Filling a value -/

theorem fillItems?_cons_eq_ok_iff {v : Value} {items items' : List Value} :
    fillItems? scope (v :: items) = .ok items' ↔
      ∃ w later, fillWithin? scope v = .ok w ∧ fillItems? scope items = .ok later ∧ w :: later = items' := by
  rw [← both_eq_ok_iff, fillItems?]
  cases fillWithin? scope v <;> rfl

theorem fillEntries?_cons_eq_ok_iff {k : String} {v : Value} {entries entries' : List (String × Value)} :
    fillEntries? scope ((k, v) :: entries) = .ok entries' ↔
      ∃ w later, fillWithin? scope v = .ok w ∧ fillEntries? scope entries = .ok later ∧ (k, w) :: later = entries' := by
  rw [← both_eq_ok_iff, fillEntries?]
  cases fillWithin? scope v <;> rfl

mutual

/-- Filling a value replaces each text in it by what the text is filled with. -/
theorem fillWithin?_eq_ok_iff :
    ∀ v w : Value, fillWithin? scope v = .ok w ↔ v.Retexted (fun s t => fill? scope s = .ok t) w
  | .text s, w => by rw [fillWithin?, map_eq_ok_iff, Value.retexted_text_iff]
  | .list items, w => by
    rw [fillWithin?, map_eq_ok_iff, Value.retexted_list_iff]
    simp only [fillItems?_eq_ok_iff items]
  | .dict entries, w => by
    rw [fillWithin?, map_eq_ok_iff, Value.retexted_dict_iff]
    simp only [fillEntries?_eq_ok_iff entries]
  | .null, w | .bool _, w | .int _, w | .float _, w | .date _, w | .recordId _, w => by
    rw [Value.retexted_bare_iff rfl]
    exact ⟨Except.ok.inj, congrArg Except.ok⟩

theorem fillItems?_eq_ok_iff :
    ∀ items items' : List Value, fillItems? scope items = .ok items' ↔
      List.Forall₂ (Value.Retexted fun s t => fill? scope s = .ok t) items items'
  | [], items' => by
    rw [fillItems?, List.forall₂_nil_left_iff, Except.ok.injEq, eq_comm]
  | v :: rest, items' => by
    rw [fillItems?_cons_eq_ok_iff, List.forall₂_cons_left_iff]
    simp only [fillWithin?_eq_ok_iff v, fillItems?_eq_ok_iff rest, eq_comm]

theorem fillEntries?_eq_ok_iff :
    ∀ entries entries' : List (String × Value), fillEntries? scope entries = .ok entries' ↔
      entries'.map Prod.fst = entries.map Prod.fst ∧
        List.Forall₂ (Value.Retexted fun s t => fill? scope s = .ok t) (entries.map Prod.snd) (entries'.map Prod.snd)
  | [], entries' => by
    rw [fillEntries?, List.map_nil, List.map_nil, List.map_eq_nil_iff, List.forall₂_nil_left_iff, List.map_eq_nil_iff,
      and_self, Except.ok.injEq, eq_comm]
  | (k, v) :: rest, entries' => by
    rw [fillEntries?_cons_eq_ok_iff]
    simp only [fillWithin?_eq_ok_iff v, fillEntries?_eq_ok_iff rest]
    constructor
    · rintro ⟨w, later, here, ⟨keys, others⟩, rfl⟩
      exact ⟨congrArg (k :: ·) keys, .cons here others⟩
    · rintro ⟨keys, each⟩
      cases entries' with
      | nil => cases keys
      | cons e later =>
        obtain ⟨same, keys⟩ := List.cons.inj keys
        obtain ⟨here, others⟩ := List.forall₂_cons.mp each
        exact ⟨e.2, later, here, ⟨keys, others⟩, congrArg (· :: later) (Prod.ext same.symm rfl)⟩

end

/-- A text is read once, before any value is looked at: it has one leftmost reading, which is the whole text and leaves
no place in a literal run, and whatever the variables are, the text is filled by putting a word into each place of the
reading, the one that the trimmed name of the place leads to. A text that is put into a place stands there as it is.
Within a value every text is filled in this way, and nothing else changes. -/
theorem fills_once :
    (∀ text : String, ∃ parts : List Segment,
      IsLeftmost text.toList parts ∧ (∀ others, IsLeftmost text.toList others → others = parts) ∧
      parts.flatMap Segment.chars = text.toList ∧ (∀ run, .literal run ∈ parts → ¬ HoldsPlace run) ∧
      ∀ (scope : Value) (t : String), fill? scope text = .ok t ↔
        ∃ word : List Char → String, (∀ name, .place name ∈ parts → wordOf? scope name = .ok (word name)) ∧
          t = String.ofList (parts.flatMap (·.filled word))) ∧
    (∀ (scope : Value) (name : List Char) (s : String),
      Path.find? scope (Text.trim (String.ofList name)) = .ok (.text s) → wordOf? scope name = .ok s) ∧
    ∀ scope v : Value,
      (∀ w, fillWithin? scope v = .ok w ↔ v.Retexted (fun s t => fill? scope s = .ok t) w) ∧
      ((∃ w, fillWithin? scope v = .ok w) ↔ ∀ s, v.Holds (.text s) → ∃ t, fill? scope s = .ok t) := by
  refine ⟨fun text => ?_, fun scope name s => wordOf?_text, fun scope v => ⟨fillWithin?_eq_ok_iff v, ?_⟩⟩
  · have reading := isLeftmost_segments text.toList
    exact ⟨segments text.toList, reading, fun others h => h.eq_segments, reading.flatMap_chars,
      reading.not_holdsPlace, fun scope t => fill?_eq_ok_iff⟩
  · rw [← Value.exists_retexted_iff]
    exact exists_congr (fillWithin?_eq_ok_iff v)

example : fill? (.dict [("reply", .text "\x7b\x7bpin\x7d\x7d"), ("pin", .int 7)]) "\x7bHi \x7b\x7b reply \x7d\x7d" =
    .ok "\x7bHi \x7b\x7bpin\x7d\x7d" := by cbv

end Template

end ChatFlow
