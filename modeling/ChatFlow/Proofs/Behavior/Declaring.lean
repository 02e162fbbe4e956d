import ChatFlow.Proofs.Behavior.Copying

/-!
Variables of a declared sort.

A node that sets a variable is to bring its value to the declared sort. What it stores is of this sort exactly if the
filled value fits (`Behavior.setVariable_sorts`): a truth value always comes out, but an infinity and the undefined number
are taken for numbers, and a document of any other sort for a list or for a dictionary. It fails where a place cannot be
filled, and on two values that are replaced by nothing else: an integer that no finite number is next to, where a number
is due, and a document with an integer that is too long, where a list or a dictionary is.
-/

namespace ChatFlow

namespace Value

variable {v : Value}

/-- The value is a text. -/
def IsTextual (v : Value) : Prop := ∃ s, v = .text s

/-- The value is a list. -/
def IsList (v : Value) : Prop := ∃ items, v = .list items

/-- The value is a dictionary. -/
def IsDict (v : Value) : Prop := ∃ entries, v = .dict entries

/-- The value is null, an integer or a finite number. -/
inductive IsNumeric : Value → Prop
  | null : IsNumeric .null
  | int (n : Int) : IsNumeric (.int n)
  | float {x : Float} (finite : x.isFinite = true) : IsNumeric (.float x)

/-- The value is an infinity or the undefined number, or the text of one. -/
def IsNonFinite (v : Value) : Prop :=
  ∃ x : Float, (v = .float x ∨ ∃ s, v = .text s ∧ Decimal.readNumber? s = some x) ∧ x.isFinite = false

end Value

namespace Behavior

open ChatFlow.Flow (Node Assignment)
open Value (IsTextual IsList IsDict IsNumeric IsTooLarge IsNonFinite)

variable {node : Node} {context : Context} {input : Option String} {outside : Outside} {assignment : Assignment}
  {sort : Option String} {v w stored : Value} {f : Failure}

namespace Assign

/-! ## Sorts -/

/-- The stored value is of the declared sort. A value that is not a text is not brought to a list or a dictionary. -/
structure IsOfSort (sort : Option String) (given stored : Value) : Prop where
  number : sort = some "number" → stored.IsNumeric
  boolean : sort = some "boolean" → ∃ b, stored = .bool b
  array : sort = some "array" → given.IsTextual → stored.IsList
  object : sort = some "object" → given.IsTextual → stored.IsDict

/-- The text is no document, or a document that is due. -/
def Reads (due : Value → Prop) (s : String) : Prop :=
  (∃ left, Json.parse s = .error (.broken left)) ∨ ∃ document, Json.parse s = .ok document ∧ due document

/-- A filled value that can be brought to the declared sort: for a number, one that is neither too large nor not finite;
for a list or a dictionary, a text that is no document, or such a document. -/
structure Fits (sort : Option String) (v : Value) : Prop where
  number : sort = some "number" → ¬ v.IsTooLarge ∧ ¬ v.IsNonFinite
  array : sort = some "array" → ∀ s, v = .text s → Reads IsList s
  object : sort = some "object" → ∀ s, v = .text s → Reads IsDict s

/-- How a filled value fails to be brought to the declared sort. -/
def Fails (sort : Option String) (v : Value) (f : Failure) : Prop :=
  (sort = some "number" ∧ v.IsTooLarge ∧ f = .integerTooLarge) ∨
    ((sort = some "array" ∨ sort = some "object") ∧ ∃ s digits, v = .text s ∧
      Json.parse s = .error (.tooLong digits) ∧ f = .numeralTooLong digits)

/-! ## Numbers -/

/-- A number is stored as an integer or as it is, and then it is finite if it was. -/
theorem isNumeric_numberValue (x : Float) : (numberValue x).IsNumeric ↔ x.isFinite = true := by
  unfold numberValue
  split
  · next n whole =>
    refine iff_of_true (.int n) ?_
    unfold Decimal.whole? at whole
    split at whole
    · assumption
    · cases whole
  · constructor
    · rintro ⟨⟩
      assumption
    · exact .float

theorem toNumber?_eq_error_iff : v.toNumber? = .error f ↔ v.IsTooLarge ∧ f = .integerTooLarge := by
  constructor
  · intro fails
    have large : v.IsTooLarge := by
      cases v with
      | int n =>
        refine (Value.isTooLarge_int n).mpr fun within => ?_
        rw [Value.toNumber?, Decimal.ofInt?_eq within] at fails
        cases fails
      | null | bool | float | text | list | dict | date | recordId => cases fails
    exact ⟨large, Except.error.inj (fails.symm.trans (Value.toNumber?_tooLarge large))⟩
  · rintro ⟨large, rfl⟩
    exact Value.toNumber?_tooLarge large

theorem isNonFinite_iff {x? : Option Float} (read : v.toNumber? = .ok x?) :
    v.IsNonFinite ↔ ∃ x, x? = some x ∧ x.isFinite = false := by
  unfold IsNonFinite
  cases v with
  | bool b =>
    cases read
    cases b <;> simp <;> decide +kernel
  | int n =>
    rw [Value.toNumber?] at read
    split at read
    · next y found =>
      cases read
      unfold Decimal.ofInt? at found
      dsimp only at found
      split at found
      · next finite =>
        cases found
        simp [finite]
      · cases found
    · cases read
  | float x =>
    cases read
    simp
  | text s =>
    cases read
    simp
  | null | list | dict | date | recordId =>
    cases read
    simp

/-- A value comes out as null, an integer or a finite number exactly if it is neither too large nor not finite. -/
theorem toNumberValue?_isNumeric_iff :
    (∃ stored, toNumberValue? v = .ok stored ∧ stored.IsNumeric) ↔ ¬ v.IsTooLarge ∧ ¬ v.IsNonFinite := by
  unfold toNumberValue?
  cases read : v.toNumber? with
  | error f =>
    have large := (toNumber?_eq_error_iff.mp read).1
    exact iff_of_false (by rintro ⟨_, ⟨⟩, -⟩) fun fits => fits.1 large
  | ok x? =>
    have fits : ¬ v.IsTooLarge := fun large => by cases read.symm.trans (Value.toNumber?_tooLarge large)
    rw [and_iff_right fits, isNonFinite_iff read]
    cases x? with
    | none => exact iff_of_true ⟨_, rfl, .null⟩ (by simp)
    | some x =>
      have stored : (∃ stored, (Except.ok (some x) : Except Failure _).map (fun x? => (x?.map numberValue).getD .null)
          = .ok stored ∧ stored.IsNumeric) ↔ (numberValue x).IsNumeric :=
        ⟨fun ⟨_, same, numeric⟩ => by cases same; exact numeric, fun numeric => ⟨_, rfl, numeric⟩⟩
      rw [stored, isNumeric_numberValue]
      simp

/-! ## Documents -/

/-- A document that is due comes out of a text exactly if the text is one, or none at all. -/
theorem documentOr?_iff (due : Value → Prop) {fallback : Value} (fine : due fallback) (s : String) :
    (∃ stored, documentOr? fallback s = .ok stored ∧ due stored) ↔ Reads due s := by
  unfold documentOr? Reads
  split
  · next document parsed => simp [parsed]
  · next left parsed => simp [parsed, fine]
  · next digits parsed => simp [parsed]

theorem documentOr?_eq_error_iff {fallback : Value} {s : String} :
    documentOr? fallback s = .error f ↔ ∃ digits, Json.parse s = .error (.tooLong digits) ∧ f = .numeralTooLong digits := by
  unfold documentOr?
  split
  · next document parsed => simp [parsed]
  · next left parsed => simp [parsed]
  · next digits parsed => simp [parsed, eq_comm]

/-! ## Values brought to the declared sort -/

/-- A filled value is brought to the declared sort exactly if it fits. -/
theorem coerce?_isOfSort_iff : (∃ stored, coerce? v sort = .ok stored ∧ IsOfSort sort v stored) ↔ Fits sort v := by
  unfold coerce?
  split
  · have due : ∀ stored, IsOfSort (some "number") v stored ↔ stored.IsNumeric := fun stored =>
      ⟨fun h => h.number rfl, fun h => ⟨fun _ => h, by simp, by simp, by simp⟩⟩
    simp only [due, toNumberValue?_isNumeric_iff]
    exact ⟨fun fits => ⟨fun _ => fits, by simp, by simp⟩, fun fits => fits.number rfl⟩
  · exact iff_of_true ⟨_, rfl, by simp, fun _ => ⟨_, rfl⟩, by simp, by simp⟩ ⟨by simp, by simp, by simp⟩
  · next s =>
    have due : ∀ stored, IsOfSort (some "array") (.text s) stored ↔ stored.IsList := fun stored =>
      ⟨fun h => h.array rfl ⟨s, rfl⟩, fun h => ⟨by simp, by simp, fun _ _ => h, by simp⟩⟩
    simp only [due, documentOr?_iff IsList ⟨_, rfl⟩]
    exact ⟨fun reads => ⟨by simp, fun _ t same => by cases same; exact reads, by simp⟩, fun fits => fits.array rfl s rfl⟩
  · next s =>
    have due : ∀ stored, IsOfSort (some "object") (.text s) stored ↔ stored.IsDict := fun stored =>
      ⟨fun h => h.object rfl ⟨s, rfl⟩, fun h => ⟨by simp, by simp, by simp, fun _ _ => h⟩⟩
    simp only [due, documentOr?_iff IsDict ⟨_, rfl⟩]
    exact ⟨fun reads => ⟨by simp, by simp, fun _ t same => by cases same; exact reads⟩, fun fits => fits.object rfl s rfl⟩
  · next noNumber noTruth noArray noObject =>
    refine iff_of_true ⟨v, rfl, fun h => (noNumber h).elim, fun h => (noTruth h).elim, ?_, ?_⟩
      ⟨fun h => (noNumber h).elim, fun h s same => (noArray s h same).elim, fun h s same => (noObject s h same).elim⟩
    · rintro h ⟨s, same⟩
      exact (noArray s h same).elim
    · rintro h ⟨s, same⟩
      exact (noObject s h same).elim

/-- A filled value that cannot be brought to the declared sort. -/
theorem coerce?_eq_error_iff : coerce? v sort = .error f ↔ Fails sort v f := by
  unfold coerce? Fails
  split
  · rw [toNumberValue?, ← toNumber?_eq_error_iff]
    cases v.toNumber? <;> simp [Except.map]
  · simp
  · simp [documentOr?_eq_error_iff]
  · simp [documentOr?_eq_error_iff]
  · next noNumber noTruth noArray noObject =>
    refine iff_of_false (by simp) ?_
    rintro (⟨number, -⟩ | ⟨array | object, s, digits, same, -⟩)
    · exact noNumber number
    · exact noArray s array same
    · exact noObject s object same

/-- The value is filled to a text if it is one. -/
theorem isTextual_filled? {scope : Value} (filled : filled? scope w = .ok v) : v.IsTextual ↔ w.IsTextual := by
  cases w with
  | text s =>
    refine iff_of_true ?_ ⟨s, rfl⟩
    cases text : Template.fill? scope s with
    | error f =>
      rw [filled?, text] at filled
      cases filled
    | ok t =>
      rw [filled?, text] at filled
      exact ⟨t, (Except.ok.inj filled).symm⟩
  | null | bool | int | float | list | dict | date | recordId =>
    cases filled
    exact Iff.rfl

end Assign

open Assign (IsOfSort Fits Fails)

/-- A node that sets a variable stores what its filled value is brought to. -/
theorem setVariable_stores_iff (read : Assignment.read (node.setting "variable") = .valid assignment) :
    (setVariable node context input).run outside = (.ok (.setting [(assignment.name, stored)]), outside)
      ↔ (Assign.filled? context.scope assignment.value >>= (Assign.coerce? · assignment.sort)) = .ok stored := by
  rw [setVariable_eq (isPresent_of_read read) read]
  cases Assign.filled? context.scope assignment.value >>= (Assign.coerce? · assignment.sort) with
  | error g => exact iff_of_false (fun same => by cases same) nofun
  | ok u => exact ⟨fun same => by cases same; rfl, fun same => by cases same; rfl⟩

theorem setVariable_error_iff (read : Assignment.read (node.setting "variable") = .valid assignment) :
    (setVariable node context input).run outside = (.error f, outside)
      ↔ (Assign.filled? context.scope assignment.value >>= (Assign.coerce? · assignment.sort)) = .error f := by
  rw [setVariable_eq (isPresent_of_read read) read]
  cases Assign.filled? context.scope assignment.value >>= (Assign.coerce? · assignment.sort) with
  | error g => exact ⟨fun same => by cases same; rfl, fun same => by cases same; rfl⟩
  | ok u => exact iff_of_false (fun same => by cases same) nofun

/-- A node that sets a variable stores a value or fails. What it stores is of the declared sort exactly if the filled
value fits, and it fails exactly if the value cannot be filled or cannot be brought to the declared sort. -/
theorem setVariable_sorts (read : Assignment.read (node.setting "variable") = .valid assignment) (context : Context)
    (input : Option String) (outside : Outside) :
    ((∃ stored, (setVariable node context input).run outside = (.ok (.setting [(assignment.name, stored)]), outside)) ∨
      ∃ f, (setVariable node context input).run outside = (.error f, outside)) ∧
    ((∃ stored, (setVariable node context input).run outside = (.ok (.setting [(assignment.name, stored)]), outside) ∧
        IsOfSort assignment.sort assignment.value stored) ↔
      ∃ v, Assign.filled? context.scope assignment.value = .ok v ∧ Fits assignment.sort v) ∧
    ∀ f, (setVariable node context input).run outside = (.error f, outside) ↔
      Assign.filled? context.scope assignment.value = .error f ∨
        ∃ v, Assign.filled? context.scope assignment.value = .ok v ∧ Fails assignment.sort v f := by
  simp only [setVariable_stores_iff read, setVariable_error_iff read]
  cases filled : Assign.filled? context.scope assignment.value with
  | error f => exact ⟨.inr ⟨f, rfl⟩, iff_of_false nofun nofun, fun g => by simp [bind, Except.bind]⟩
  | ok v =>
    have textual := Assign.isTextual_filled? filled
    have sorted : ∀ stored, IsOfSort assignment.sort assignment.value stored ↔ IsOfSort assignment.sort v stored :=
      fun stored => ⟨fun h => ⟨h.number, h.boolean, fun due text => h.array due (textual.mp text),
          fun due text => h.object due (textual.mp text)⟩,
        fun h => ⟨h.number, h.boolean, fun due text => h.array due (textual.mpr text),
          fun due text => h.object due (textual.mpr text)⟩⟩
    simp only [sorted]
    refine ⟨?_, Assign.coerce?_isOfSort_iff.trans (by simp), fun f => Assign.coerce?_eq_error_iff.trans (by simp)⟩
    cases (Except.ok v : Except Failure Value) >>= (Assign.coerce? · assignment.sort) with
    | error f => exact .inr ⟨f, rfl⟩
    | ok stored => exact .inl ⟨stored, rfl⟩

end Behavior

/-! ## Declared sorts, kept and missed -/

namespace Sample

open ChatFlow.Flow (Node Assignment)
open Behavior.Assign (IsOfSort Fits)

/-- A node that sets the variable `v` to a value of a declared sort. -/
def declares (sort : String) (v : Value) : Node :=
  ⟨"set", "set_variable", [("variable", .dict [("name", .text "v"), ("value", v), ("type", .text sort)])], []⟩

theorem unbraced (s : String) (plain : s.toList.all (· != '{') = true) : ∀ c ∈ s.toList, c ≠ '{' := by
  simpa using plain

/-- A text that is no document becomes a list of it. -/
theorem setVariable_sorts_solo :
    ∃ stored, (Behavior.setVariable (declares "array" (.text "solo")) context none).run (world []).outside
        = (.ok (.setting [("v", stored)]), (world []).outside) ∧
      IsOfSort (some "array") (.text "solo") stored := by
  have read : Assignment.read ((declares "array" (.text "solo")).setting "variable")
      = .valid ⟨"v", .text "solo", some "array", []⟩ := by with_unfolding_all rfl
  have fits : Fits (some "array") (.text "solo") := by
    refine ⟨by simp, fun _ s same => ?_, by simp⟩
    cases same
    exact .inl ⟨_, by with_unfolding_all rfl⟩
  have filled : Behavior.Assign.filled? context.scope (.text "solo") = .ok (.text "solo") := by
    rw [Behavior.Assign.filled?, Template.fill?_plain (unbraced _ (by decide +kernel))]
    rfl
  exact (Behavior.setVariable_sorts read context none (world []).outside).2.1.mpr ⟨_, filled, fits⟩

/-- The word for the undefined number is read as a number. -/
theorem readNumber?_nan : Decimal.readNumber? "nan" = some (0 / 0) := by
  have split : Decimal.splitSign (Decimal.trimMargin "nan".toList) = (false, ['n', 'a', 'n']) := by decide +kernel
  have named : Decimal.namedNumber? ['n', 'a', 'n'] = some (0 / 0) := by
    unfold Decimal.namedNumber?
    dsimp only
    rw [if_neg (by decide +kernel), if_pos (by decide +kernel)]
  unfold Decimal.readNumber?
  rw [split]
  dsimp only
  rw [if_pos (by decide +kernel), named]
  rfl

theorem length_toDigits_pow (k : Nat) : k < (Nat.toDigits 10 (10 ^ k)).length := by
  cases k with
  | zero => decide
  | succ k =>
    rw [← Nat.not_le, Nat.length_toDigits_le_iff (by decide) (Nat.succ_pos k)]
    exact Nat.lt_irrefl _

/-- The word for the undefined number is stored as a number that is not finite, a list in the place of a dictionary, and
a document that is an integer with too many digits fails. -/
theorem setVariable_sorts_fail :
    (∃ x, (Behavior.setVariable (declares "number" (.text "nan")) context none).run (world []).outside
        = (.ok (.setting [("v", .float x)]), (world []).outside) ∧ x.isFinite = false) ∧
      (Behavior.setVariable (declares "object" (.text "[1]")) context none).run (world []).outside
        = (.ok (.setting [("v", .list [.int 1])]), (world []).outside) ∧
      ∃ f, (Behavior.setVariable (declares "array" (.text (toString ((10 : Int) ^ Decimal.digitLimit)))) context none).run
        (world []).outside = (.error f, (world []).outside) := by
  refine ⟨⟨0 / 0, ?_, by decide +kernel⟩, ?_, ?_⟩
  · have read : Assignment.read ((declares "number" (.text "nan")).setting "variable")
        = .valid ⟨"v", .text "nan", some "number", []⟩ := by with_unfolding_all rfl
    refine (Behavior.setVariable_stores_iff read).mpr ?_
    have whole : Decimal.whole? (0 / 0) = none := by
      rw [Decimal.whole?, if_neg (by decide +kernel)]
    rw [Behavior.Assign.filled?, Template.fill?_plain (unbraced _ (by decide +kernel))]
    show Behavior.Assign.coerce? (.text "nan") (some "number") = _
    rw [Behavior.Assign.coerce?, Behavior.Assign.toNumberValue?, Value.toNumber?, readNumber?_nan]
    show Except.ok (Behavior.Assign.numberValue (0 / 0)) = _
    rw [Behavior.Assign.numberValue, whole]
  · have read : Assignment.read ((declares "object" (.text "[1]")).setting "variable")
        = .valid ⟨"v", .text "[1]", some "object", []⟩ := by with_unfolding_all rfl
    have exact_ : (Value.list [.int 1]).IsExact := by
      refine .list fun v listed => ?_
      cases List.mem_singleton.mp listed
      exact .int (by decide)
    have written : Json.text (.list [.int 1]) = "[1]" := by decide +kernel
    refine (Behavior.setVariable_stores_iff read).mpr ?_
    rw [Behavior.Assign.filled?, Template.fill?_plain (unbraced _ (by decide +kernel))]
    show Behavior.Assign.coerce? (.text "[1]") (some "object") = _
    rw [Behavior.Assign.coerce?, Behavior.Assign.documentOr?, ← written, Json.parse_text exact_]
  · have read (s : String) : Assignment.read ((declares "array" (.text s)).setting "variable")
        = .valid ⟨"v", .text s, some "array", []⟩ := by with_unfolding_all rfl
    -- The power is never computed: the digits of a power of ten are counted for any exponent.
    have many (k : Nat) : k < (Nat.toDigits 10 ((10 : Int) ^ k).natAbs).length := by
      rw [Int.natAbs_pow]
      exact length_toDigits_pow k
    have long := many Decimal.digitLimit
    obtain ⟨n, power⟩ : ∃ n, (10 : Int) ^ Decimal.digitLimit = n := ⟨_, rfl⟩
    rw [power] at long ⊢
    have fails : Behavior.Assign.Fails (some "array") (.text (toString n))
        (.numeralTooLong (Nat.toDigits 10 n.natAbs).length) :=
      .inr ⟨.inl rfl, _, _, rfl, Json.parse_tooLong long, rfl⟩
    refine ⟨.numeralTooLong (Nat.toDigits 10 n.natAbs).length,
      (Behavior.setVariable_error_iff (read (toString n))).mpr ?_⟩
    rw [Behavior.filled?_of_gives (Value.Gives.numeral (a := n))]
    exact Behavior.Assign.coerce?_eq_error_iff.mpr fails

end Sample

end ChatFlow
