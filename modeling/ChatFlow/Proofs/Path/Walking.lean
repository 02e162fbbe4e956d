import ChatFlow.Path
import ChatFlow.Proofs.Decimal.Numerals

/-!
Where a path leads.

A path is written as its legs with points between them (`Path.render`). A leg is the key of an entry and, perhaps, the
number of an item of the list there. Reading the path gives the legs back, since no leg has a point in it and no key an
opening bracket (`Path.steps_render`). So a path leads where its legs lead one after another, and to null as soon as
one of them leads nowhere (`Path.leads_along_legs`). A path that is continued by another leads where the other leads
from where the first one does, whatever the two paths are.
-/

namespace ChatFlow

namespace Value

/-- The value of a key, if there is a dictionary with this key. -/
def entry? (v : Value) (key : String) : Option Value :=
  match v with
  | dict entries => entries.lookup key
  | _ => none

/-- The item with a number, if there is a list that is long enough. -/
def item? (v : Value) (n : Nat) : Option Value :=
  match v with
  | list items => items[n]?
  | _ => none

theorem entry_eq (v : Value) (key : String) : v.entry key = (v.entry? key).getD .null := by
  cases v <;> rfl

end Value

namespace Path

/-! ## Legs -/

/-- The number of an item as it is written: in decimal digits, and not in more of them than are read. -/
structure Index where
  digits : List Char
  nonempty : digits ≠ []
  decimal : ∀ c ∈ digits, Text.isDecimal c = true
  short : digits.length ≤ Decimal.digitLimit

namespace Index

/-- The values of the digits. -/
def values (i : Index) : List Nat := i.digits.filterMap Text.decimalValue?

/-- The number that is written. -/
def number (i : Index) : Nat := Decimal.ofDigits i.values

/-- A number as it is usually written. -/
def ofNat (n : Nat) (short : (Nat.toDigits 10 n).length ≤ Decimal.digitLimit) : Index where
  digits := Nat.toDigits 10 n
  nonempty := Nat.toDigits_ne_nil
  decimal c member := Decimal.isDecimal_of_isDigit (Decimal.isDigit_toDigits n c member)
  short := short

theorem number_ofNat (n : Nat) (short : (Nat.toDigits 10 n).length ≤ Decimal.digitLimit) :
    (ofNat n short).number = n :=
  Decimal.ofDigits_toDigits n

theorem length_values (i : Index) : i.values.length = i.digits.length :=
  List.filterMap_length_eq_length.mpr i.decimal

theorem values_ne_nil (i : Index) : i.values ≠ [] := by
  rw [← List.length_pos_iff, i.length_values]
  exact List.length_pos_iff.mpr i.nonempty

end Index

/-- A step of a path as it is written: the key of an entry and, perhaps, the number of an item of the list there. -/
structure Leg where
  key : String
  index : Option Index
  undotted : '.' ∉ key.toList
  unbracketed : '[' ∉ key.toList
  named : index ≠ none → key ≠ ""

namespace Leg

/-- The characters of a leg; a number stands in brackets. -/
def chars (leg : Leg) : List Char :=
  match leg.index with
  | none => leg.key.toList
  | some i => leg.key.toList ++ '[' :: i.digits ++ [']']

/-- Where a leg leads, if it leads anywhere. -/
def reach? (leg : Leg) (v : Value) : Option Value :=
  match leg.index with
  | none => v.entry? leg.key
  | some i => (v.entry? leg.key).bind (·.item? i.number)

/-- The step that a leg is read as. -/
def step (leg : Leg) : Step :=
  match leg.index with
  | none => .entry leg.key
  | some i => .item leg.key i.values

end Leg

/-- A path as it is written. -/
def render (legs : List Leg) : String :=
  ".".intercalate (legs.map fun leg => String.ofList leg.chars)

/-- Where the legs lead one after another, if each of them leads anywhere. -/
def reach? (v : Value) (legs : List Leg) : Option Value :=
  legs.foldlM (fun v leg => leg.reach? v) v

/-! ## Reading a path -/

theorem splitAt_eq_splitOn (separator : Char) (cs : List Char) : splitAt separator cs = cs.splitOn separator := by
  induction cs with
  | nil => rfl
  | cons c rest ih =>
    rw [splitAt, List.splitOn_cons_eq_if_modifyHead, ih]
    split
    · rfl
    · cases pieces : rest.splitOn separator with
      | nil => exact absurd pieces (List.splitOn_ne_nil separator rest)
      | cons piece later => rfl

theorem ofChars_plain {cs : List Char} (plain : '[' ∉ cs) : Step.ofChars cs = .entry (String.ofList cs) := by
  have none : (cs ++ []).dropWhile (· != '[') = [] :=
    List.dropWhile_append_of_pos fun c member => by simpa using ne_of_mem_of_not_mem member plain
  rw [List.append_nil] at none
  unfold Step.ofChars
  dsimp only
  rw [none]
  split
  · next found => cases found
  · rfl

theorem bracketed?_index (i : Index) : bracketed? ('[' :: i.digits ++ [']']) = some i.values := by
  have taken : (i.digits ++ [']']).takeWhile Text.isDecimal = i.digits := by
    rw [List.takeWhile_append_of_pos i.decimal]
    exact List.append_nil _
  have left : (i.digits ++ [']']).dropWhile Text.isDecimal = [']'] := by
    rw [List.dropWhile_append_of_pos i.decimal]
    rfl
  obtain ⟨d, ds, values⟩ := List.exists_cons_of_ne_nil i.values_ne_nil
  rw [List.cons_append, bracketed?, taken, left, ← Index.values, values]
  rfl

theorem ofChars_indexed {cs : List Char} (nonempty : cs ≠ []) (plain : '[' ∉ cs) (i : Index) :
    Step.ofChars (cs ++ '[' :: i.digits ++ [']']) = .item (String.ofList cs) i.values := by
  have inside : ∀ c ∈ cs, (c != '[') = true := fun c member => by simpa using ne_of_mem_of_not_mem member plain
  have taken : (cs ++ '[' :: i.digits ++ [']']).takeWhile (· != '[') = cs := by
    rw [List.append_assoc, List.takeWhile_append_of_pos inside]
    exact List.append_nil _
  have left : (cs ++ '[' :: i.digits ++ [']']).dropWhile (· != '[') = '[' :: i.digits ++ [']'] := by
    rw [List.append_assoc, List.dropWhile_append_of_pos inside]
    rfl
  obtain ⟨c, rest, rfl⟩ := List.exists_cons_of_ne_nil nonempty
  rw [Step.ofChars, taken, left, bracketed?_index]

namespace Leg

variable (leg : Leg)

theorem ofChars_chars : Step.ofChars leg.chars = leg.step := by
  obtain ⟨key, index, undotted, unbracketed, named⟩ := leg
  cases index with
  | none => simpa [chars, step] using ofChars_plain unbracketed
  | some i =>
    have nonempty : key.toList ≠ [] := by simpa using named nofun
    simpa [chars, step] using ofChars_indexed nonempty unbracketed i

theorem undotted_chars : '.' ∉ leg.chars := by
  obtain ⟨key, index, undotted, unbracketed, named⟩ := leg
  cases index with
  | none => exact undotted
  | some i =>
    have inside : '.' ∉ i.digits := fun member => absurd (i.decimal '.' member) (by decide)
    simp [chars, undotted, inside]

end Leg

/-- The steps of a path are the legs that were written. -/
theorem steps_render {legs : List Leg} (nonempty : legs ≠ []) : steps (render legs) = legs.map Leg.step := by
  have pieces : (render legs).toList = ['.'].intercalate (legs.map Leg.chars) := by
    simp [render, String.toList_intercalate, Function.comp_def]
  have undotted : ∀ piece ∈ legs.map Leg.chars, '.' ∉ piece := by
    intro piece member
    obtain ⟨leg, -, rfl⟩ := List.mem_map.mp member
    exact leg.undotted_chars
  rw [steps, pieces, splitAt_eq_splitOn, List.splitOn_intercalate '.' undotted (by simpa using nonempty),
    List.map_map]
  exact List.map_congr_left fun leg _ => leg.ofChars_chars

theorem steps_append (p q : String) : steps (p ++ "." ++ q) = steps p ++ steps q := by
  have pieces : (p ++ "." ++ q).toList = p.toList ++ '.' :: q.toList := by simp
  rw [steps, pieces, splitAt_eq_splitOn, List.splitOn_append_cons_self, List.map_append, steps, steps,
    splitAt_eq_splitOn, splitAt_eq_splitOn]

/-! ## Walking -/

/-- A leg is followed to where it leads, and to null if it leads nowhere. -/
theorem Leg.follow?_step (leg : Leg) (v : Value) : leg.step.follow? v = .ok ((leg.reach? v).getD .null) := by
  unfold step reach?
  cases leg.index with
  | none => exact congrArg Except.ok (v.entry_eq leg.key)
  | some i =>
    dsimp only
    rw [Step.follow?, Value.entry_eq]
    cases v.entry? leg.key with
    | none => rfl
    | some w =>
      cases w with
      | list items =>
        -- Only here is the number read, and it has no more digits than are read.
        have short : ¬ i.values.length > Decimal.digitLimit := by
          rw [i.length_values]
          exact Nat.not_lt_of_le i.short
        show (if i.values.length > Decimal.digitLimit then _ else _) = _
        rw [if_neg short]
        simp [Value.item?, Index.number, List.getD_eq_getElem?_getD]
      | null | bool | int | float | text | dict | date | recordId => rfl

theorem reach?_cons (v : Value) (leg : Leg) (rest : List Leg) :
    reach? v (leg :: rest) = (leg.reach? v).bind (reach? · rest) :=
  List.foldlM_cons

/-- Legs from null lead nowhere, or there are none. -/
theorem reach?_null (legs : List Leg) : (reach? .null legs).getD .null = .null := by
  cases legs with
  | nil => rfl
  | cons leg rest =>
    have nowhere : leg.reach? .null = none := by
      unfold Leg.reach?
      cases leg.index <;> rfl
    rw [reach?_cons, nowhere]
    rfl

/-- Following the legs one after another. -/
theorem walk?_legs (legs : List Leg) (v : Value) :
    walk? v (legs.map Leg.step) = .ok ((reach? v legs).getD .null) := by
  induction legs generalizing v with
  | nil => rfl
  | cons leg rest ih =>
    rw [List.map_cons, walk?, leg.follow?_step]
    dsimp only
    rw [ih, reach?_cons]
    cases leg.reach? v with
    -- The walk goes on from null, and stays there.
    | none => exact congrArg Except.ok (reach?_null rest)
    | some w => rfl

theorem walk?_append (v : Value) (p q : List Step) : walk? v (p ++ q) = walk? v p >>= (walk? · q) := by
  induction p generalizing v with
  | nil => rfl
  | cons s rest ih =>
    rw [List.cons_append, walk?, walk?]
    cases s.follow? v with
    | error f => rfl
    | ok w => exact ih w

/-- A path leads where its legs lead one after another, and to null if one of them leads nowhere: where a key is
absent, a number lies beyond the end of a list, or a value is of the wrong sort; the number of an item is the one that
its digits write. A path that is continued leads where the rest leads from where it led before. -/
theorem leads_along_legs (data : Value) (first : Leg) (rest : List Leg) :
    find? data (render (first :: rest)) = .ok ((reach? data (first :: rest)).getD .null) ∧
      (∀ n short, (Index.ofNat n short).number = n) ∧
      ∀ p q : String, find? data (p ++ "." ++ q) = find? data p >>= (find? · q) := by
  refine ⟨?_, Index.number_ofNat, fun p q => ?_⟩
  · rw [find?, steps_render (List.cons_ne_nil first rest), walk?_legs]
  · rw [find?, steps_append, walk?_append]
    rfl

end Path

namespace Sample

/-- Some furniture. -/
def furniture : Value :=
  .dict [("items", .list [.dict [("name", .text "Lamp")], .dict [("name", .text "Desk")]])]

/-- The second item, and the name of it. -/
def secondItem : Path.Leg :=
  ⟨"items", some (.ofNat 1 (by decide)), by decide, by decide, fun _ => by decide⟩

def nameOfIt : Path.Leg := ⟨"name", none, by decide, by decide, fun indexed => absurd rfl indexed⟩

theorem leads_along_legs_desk :
    Path.render [secondItem, nameOfIt] = "items[1].name" ∧
      Path.find? furniture (Path.render [secondItem, nameOfIt]) = .ok (.text "Desk") ∧
      Path.find? furniture ("items[1]" ++ "." ++ "name") =
        Path.find? furniture "items[1]" >>= (Path.find? · "name") := by
  obtain ⟨leads, -, composes⟩ := Path.leads_along_legs furniture secondItem [nameOfIt]
  have reached : Path.reach? furniture [secondItem, nameOfIt] = some (.text "Desk") := by
    with_unfolding_all rfl
  rw [reached] at leads
  exact ⟨by decide +kernel, leads, composes "items[1]" "name"⟩

end Sample

/-! ## No legs at all -/

namespace Sample

/-- A shelf with one lamp. -/
def shelf : Value := .dict [("lamp", .int 1)]

/-- Without legs one stays at the shelf, but the empty text is the path to the entry with the empty key. -/
theorem empty_path_leads_away :
    Path.render [] = "" ∧ Path.reach? shelf [] = some shelf ∧ Path.find? shelf (Path.render []) = .ok .null ∧
      Path.find? shelf (Path.render []) ≠ .ok ((Path.reach? shelf []).getD .null) := by
  have nowhere : Path.find? shelf (Path.render []) = .ok .null := by with_unfolding_all rfl
  refine ⟨rfl, rfl, nowhere, ?_⟩
  rw [nowhere]
  exact nofun

end Sample

end ChatFlow
